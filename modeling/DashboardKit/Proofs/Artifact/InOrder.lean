import DashboardKit.Proofs.Artifact.Writing
import DashboardKit.Proofs.Template.Dependence
import Mathlib.Data.List.Induction

/-!
# Writing artifacts in order

Artifacts are written one after the other on the same files, so that a later one can go over the
file of an earlier one or find it in its way.  `TakenEffect` says that some artifacts, and nothing
else, have changed the files: at every place there is what the last of them sent there.  It is
preserved by one more artifact, written or refused, and holds of whole runs by induction on the
artifacts from the end.

Main statement: `writeAll_settles_iff`, artifacts whose texts can be encoded are all written, or the
first that cannot be written is named and those before it have taken effect, unless a failure slips
through or the disk breaks off and leaves a part of an artifact.
-/

set_option autoImplicit false

namespace DashboardKit

open Session DashboardKit.Action

/-! ## Noting paths -/

namespace Written

variable {key key' : Text} {path : Path} {w : Written}

/-- The keys stay in their order, and a new one comes last. -/
theorem keys_note (key : Text) (path : Path) (w : Written) :
    (note key path w).map (·.1)
      = if key ∈ w.map (·.1) then w.map (·.1) else w.map (·.1) ++ [key] := by
  induction w with
  | nil => rfl
  | cons e w ih =>
    obtain ⟨k, p⟩ := e
    rw [note]
    by_cases hk : k = key
    · simp [hk]
    · rw [if_neg hk, List.map_cons, ih]
      by_cases hmem : key ∈ w.map (·.1) <;> simp [hmem, Ne.symm hk]

/-- Noting a path changes what is found under its key and nothing else. -/
theorem path?_note (key : Text) (path : Path) (w : Written) (key' : Text) :
    (note key path w).path? key' = if key = key' then some path else w.path? key' := by
  induction w with
  | nil => by_cases hk : key = key' <;> simp [note, path?, hk]
  | cons e w ih =>
    obtain ⟨k, p⟩ := e
    unfold path? at ih ⊢
    rw [note]
    by_cases hk : k = key
    · subst hk
      by_cases hkey : k = key' <;> simp [hkey]
    · rw [if_neg hk]
      by_cases hkey : k = key'
      · subst hkey
        simp [Ne.symm hk]
      · simpa [hkey] using ih

end Written

/-- A cut of a list with one more member behind cuts there, or before. -/
theorem cut_of_concat {α : Type} {l before after : List α} {x y : α}
    (h : l ++ [x] = before ++ y :: after) :
    (before = l ∧ y = x ∧ after = []) ∨ ∃ rest, after = rest ++ [x] ∧ l = before ++ y :: rest := by
  rcases List.eq_nil_or_concat after with rfl | ⟨rest, z, rfl⟩
  · obtain ⟨rfl, hlast⟩ := List.append_inj' h rfl
    exact .inl ⟨rfl, (List.cons.inj hlast).1.symm, rfl⟩
  · rw [List.concat_eq_append, ← List.cons_append, ← List.append_assoc] at h
    obtain ⟨rfl, hlast⟩ := List.append_inj' h rfl
    rw [(List.cons.inj hlast).1]
    exact .inr ⟨rest, List.concat_eq_append, rfl⟩

/-- Where some member of a list has a property, there is a last one that has it. -/
theorem exists_last {α : Type} {P : α → Prop} {l : List α} (h : ∃ x ∈ l, P x) :
    ∃ before x after, l = before ++ x :: after ∧ P x ∧ ∀ y ∈ after, ¬ P y := by
  induction l using List.reverseRecOn with
  | nil =>
    obtain ⟨x, hx, -⟩ := h
    cases hx
  | append_singleton l y ih =>
    by_cases hy : P y
    · exact ⟨l, y, [], rfl, hy, fun z hz => absurd hz List.not_mem_nil⟩
    · obtain ⟨x, hx, hPx⟩ := h
      have hxl : x ∈ l := by
        rcases List.mem_append.1 hx with hx | hx
        · exact hx
        · rw [List.mem_singleton.1 hx] at hPx
          exact absurd hPx hy
      obtain ⟨before, x', after, rfl, hPx', hlast⟩ := ih ⟨x, hxl, hPx⟩
      refine ⟨before, x', after ++ [y], by simp, hPx', ?_⟩
      exact List.forall_mem_append.2 ⟨hlast, List.forall_mem_singleton.2 hy⟩

namespace Artifact

variable {root path : Path} {echo : Bool} {a : Artifact} {as attempted attempted' : List Artifact}
  {s mid s' : Session} {w w' : Written} {f : Failure}

/-! ## What artifacts do -/

/-- An artifact changes the files where it and others are sent. -/
theorem keeps_write_buildsAt_of_mem (ha : a ∈ as) (ha' : a ∈ attempted) (root : Path)
    (echo : Bool) :
    (a.write root echo).Keeps (BuildsAt (fun q => ∃ a ∈ as, q = a.destination root)
      (fun q => ∃ a ∈ attempted, q.Above (a.destination root))) := by
  refine (keeps_write_buildsAt root echo a).mono fun s s' h => h.mono ?_ ?_
  · rintro q rfl
    exact ⟨a, ha, rfl⟩
  · intro q habove
    exact ⟨a, ha', habove⟩

/-- These artifacts, and nothing else, changed the files between two sessions: their files are
written, and directories are made on the way to the artifacts that were attempted. -/
structure TakenEffect (root : Path) (as attempted : List Artifact) (s s' : Session) : Prop where
  /-- an artifact that no later one was sent to the place of is at its destination -/
  holds : ∀ before a after, as = before ++ a :: after →
    (∀ b ∈ after, ¬ s'.SamePlace (b.destination root) (a.destination root)) →
      ∃ octets, Utf8.encode a.content = .ok octets ∧
        s'.tree.readFile s'.workingDir (a.destination root) = .ok octets
  builds : BuildsAt (fun q => ∃ a ∈ as, q = a.destination root)
    (fun q => ∃ a ∈ attempted, q.Above (a.destination root)) s s'

theorem takenEffect_nil (root : Path) (s : Session) : TakenEffect root [] [] s s where
  holds before a after h := by simp at h
  builds := refl_of (BuildsAt _ _) s

/-- What artifacts did stays while directories are made on the way to another one. -/
theorem TakenEffect.attempt (h : TakenEffect root as attempted s mid)
    (hbuilds : BuildsAt (fun _ => False) (·.Above (a.destination root)) mid s') :
    TakenEffect root as (attempted ++ [a]) s s' where
  holds before b after hcut hlast := by
    obtain ⟨octets, hencode, hread⟩ := h.holds before b after hcut fun c hc hsame =>
      hlast c hc (hbuilds.growsAt.samePlace hsame)
    exact ⟨octets, hencode, hbuilds.growsAt.readFile hread fun _ hnone => hnone.elim⟩
  builds := by
    refine trans_of (BuildsAt _ _) (h.builds.mono (fun _ hq => hq) ?_)
      (hbuilds.mono (fun _ hnone => hnone.elim) ?_)
    · rintro q ⟨b, hb, habove⟩
      exact ⟨b, List.mem_append_left _ hb, habove⟩
    · intro q habove
      exact ⟨a, List.mem_append_right _ (List.mem_singleton_self a), habove⟩

/-- One more artifact that is written takes effect behind the others. -/
theorem TakenEffect.write (h : TakenEffect root as attempted s mid)
    (hwrite : (a.write root echo).outcome mid = (.ok path, s')) :
    TakenEffect root (as ++ [a]) (attempted ++ [a]) s s' where
  holds before b after hcut hlast := by
    have hbuilds := (keeps_write_buildsAt root echo a).of_outcome hwrite
    rcases cut_of_concat hcut with ⟨-, rfl, -⟩ | ⟨rest, rfl, hcut'⟩
    · obtain ⟨rfl, octets, hencode, hread⟩ := write_eq_ok hwrite
      exact ⟨octets, hencode, hread⟩
    · -- the file is still there, because the last artifact goes somewhere else
      obtain ⟨octets, hencode, hread⟩ := h.holds before b rest hcut' fun c hc hsame =>
        hlast c (List.mem_append_left _ hc) (hbuilds.growsAt.samePlace hsame)
      refine ⟨octets, hencode, hbuilds.growsAt.readFile hread ?_⟩
      rintro q rfl
      exact hlast a (List.mem_append_right _ (List.mem_singleton_self a))
  builds := by
    have hmem (l : List Artifact) : a ∈ l ++ [a] :=
      List.mem_append_right l (List.mem_singleton_self a)
    have hbuilds := keeps_write_buildsAt_of_mem (hmem as) (hmem attempted) root echo
    refine trans_of (BuildsAt _ _) (h.builds.mono ?_ ?_) (hbuilds.of_outcome hwrite)
    · rintro q ⟨b, hb, rfl⟩
      exact ⟨b, List.mem_append_left _ hb, rfl⟩
    · rintro q ⟨b, hb, habove⟩
      exact ⟨b, List.mem_append_left _ hb, habove⟩

/-- What these artifacts did settles all files: while the tree grows no other come up. -/
theorem TakenEffect.file_of_growsAt (h : TakenEffect root as attempted s mid)
    (h' : TakenEffect root as attempted' s s') {paths : Path → Prop} (hgrows : GrowsAt paths mid s')
    {l : Location} {octets : Utf8.Octets} (hfile : s'.tree.find? l = some (.file octets)) :
    mid.tree.find? l = some (.file octets) := by
  by_cases hsent : ∃ a ∈ as, s'.tree.locate s'.workingDir (a.destination root) = .ok l
  · -- the last artifact that was sent there is there in both
    obtain ⟨before, a, after, hcut, hl, hlast⟩ := exists_last hsent
    have hother : ∀ b ∈ after, ¬ s'.SamePlace (b.destination root) (a.destination root) := by
      rintro b hb ⟨l', hl', hla⟩
      exact hlast b hb (by rw [hl', ← hl, hla])
    obtain ⟨octets₁, hencode₁, hread₁⟩ := h.holds before a after hcut fun b hb hsame =>
      hother b hb (hgrows.samePlace hsame)
    obtain ⟨octets₂, hencode₂, hread₂⟩ := h'.holds before a after hcut hother
    obtain rfl := Except.ok.inj (hencode₁.symm.trans hencode₂)
    obtain ⟨l₁, hl₁, hfile₁⟩ := FileTree.readFile_eq_ok_iff.1 hread₁
    obtain ⟨l₂, hl₂, hfile₂⟩ := FileTree.readFile_eq_ok_iff.1 hread₂
    obtain rfl := Except.ok.inj (hl.symm.trans hl₂)
    obtain rfl := Except.ok.inj (hl.symm.trans (hgrows.locate hl₁))
    rw [hfile₁, ← hfile, hfile₂]
  · refine (h.builds.growsAt.2.file_iff ?_).2 ((h'.builds.growsAt.2.file_iff ?_).1 hfile)
    · rintro ⟨_, ⟨a, ha, rfl⟩, hl⟩
      exact hsent ⟨a, ha, hgrows.locate hl⟩
    · rintro ⟨_, ⟨a, ha, rfl⟩, hl⟩
      exact hsent ⟨a, ha, hl⟩

/-- The paths that are noted of artifacts: each key where it comes first, with the destination of
the last artifact of that key. -/
structure NotedOf (root : Path) (as : List Artifact) (w : Written) : Prop where
  keys_eq : w.map (·.1) = Template.withoutRepeats (as.map (·.key))
  last : ∀ before a after, as = before ++ a :: after → (∀ b ∈ after, b.key ≠ a.key) →
    w.path? a.key = some (a.destination root)

theorem NotedOf.note (h : NotedOf root as w) (a : Artifact) :
    NotedOf root (as ++ [a]) (Written.note a.key (a.destination root) w) where
  keys_eq := by
    rw [Written.keys_note, h.keys_eq, List.map_append, List.map_singleton,
      Template.withoutRepeats_concat]
    simp only [Template.mem_withoutRepeats]
  last before b after hcut hlast := by
    rw [Written.path?_note]
    rcases cut_of_concat hcut with ⟨-, rfl, -⟩ | ⟨rest, rfl, hcut'⟩
    · rw [if_pos rfl]
    · rw [if_neg (hlast a (List.mem_append_right _ (List.mem_singleton_self a)))]
      exact h.last before b rest hcut' fun c hc => hlast c (List.mem_append_left _ hc)

/-! ## Runs -/

/-- One more artifact is written behind the others. -/
theorem outcome_writeAll_concat (as : List Artifact) (a : Artifact) (s : Session) :
    (writeAll root echo (as ++ [a])).outcome s
      = (writeAll root echo as >>= fun w => do
          return Written.note a.key (← a.write root echo) w).outcome s := by
  unfold writeAll
  rw [List.foldlM_append]
  simp only [List.foldlM_cons, List.foldlM_nil, bind_pure]

/-- Artifacts that are all written have taken effect, and their paths are noted. -/
theorem takenEffect_of_writeAll (h : (writeAll root echo as).outcome s = (.ok w, s')) :
    TakenEffect root as as s s' ∧ NotedOf root as w := by
  induction as using List.reverseRecOn generalizing w s' with
  | nil =>
    obtain ⟨rfl, rfl⟩ := outcome_pure_eq_ok.1 h
    exact ⟨takenEffect_nil root s', ⟨rfl, fun before a after hcut => by simp at hcut⟩⟩
  | append_singleton as a ih =>
    rw [outcome_writeAll_concat] at h
    obtain ⟨w₁, mid, hbefore, hrest⟩ := outcome_bind_eq_ok.1 h
    obtain ⟨path, s₁, hwrite, hpure⟩ := outcome_bind_eq_ok.1 hrest
    obtain ⟨rfl, rfl⟩ := outcome_pure_eq_ok.1 hpure
    obtain ⟨heffect, hnoted⟩ := ih hbefore
    obtain ⟨rfl, -⟩ := write_eq_ok hwrite
    exact ⟨heffect.write hwrite, hnoted.note a⟩

/-- Where writing artifacts fails, those before some artifact were written, and this one fails. -/
theorem exists_cut_of_writeAll (h : (writeAll root echo as).outcome s = (.error f, s')) :
    ∃ before a after w mid, as = before ++ a :: after ∧
      (writeAll root echo before).outcome s = (.ok w, mid) ∧
        (a.write root echo).outcome mid = (.error f, s') := by
  obtain ⟨before, a, after, w, mid, hcut, hbefore, hfails⟩ := outcome_foldlM_eq_error h
  rcases outcome_bind_eq_error.1 hfails with hwrite | ⟨_, _, -, hpure⟩
  · exact ⟨before, a, after, w, mid, hcut, hbefore, hwrite⟩
  · cases hpure

/-- A failure of an artifact behind others that are written ends the run. -/
theorem outcome_writeAll_of_error {before after : List Artifact}
    (hbefore : (writeAll root echo before).outcome s = (.ok w, mid))
    (hfails : (a.write root echo).outcome mid = (.error f, s')) :
    (writeAll root echo (before ++ a :: after)).outcome s = (.error f, s') := by
  unfold writeAll at hbefore ⊢
  rw [List.foldlM_append, outcome_bind_of_ok hbefore, List.foldlM_cons]
  exact outcome_bind_of_error (outcome_bind_of_error hfails _) _

/-- Artifacts are written up to one place only where one cannot be written. -/
theorem cut_unique {before before' after after' : List Artifact} {a' : Artifact} {f' : Failure}
    {mid' s₁ s₂ : Session} (hcut : before ++ a :: after = before' ++ a' :: after')
    (hbefore : (writeAll root echo before).outcome s = (.ok w, mid))
    (hfails : (a.write root echo).outcome mid = (.error f, s₁))
    (hbefore' : (writeAll root echo before').outcome s = (.ok w', mid'))
    (hfails' : (a'.write root echo).outcome mid' = (.error f', s₂)) : before = before' := by
  rcases List.append_eq_append_iff.1 hcut with ⟨rest, rfl, hrest⟩ | ⟨rest, rfl, hrest⟩
  · cases rest with
    | nil => rw [List.append_nil]
    | cons b rest =>
      obtain rfl := (List.cons.inj hrest).1
      rw [outcome_writeAll_of_error hbefore hfails] at hbefore'
      cases hbefore'
  · cases rest with
    | nil => rw [List.append_nil]
    | cons b rest =>
      obtain rfl := (List.cons.inj hrest).1
      rw [outcome_writeAll_of_error hbefore' hfails'] at hbefore
      cases hbefore

/-- How writing artifacts ends if no failure slips through and the disk leaves no part of any. -/
inductive Settles (root : Path) (echo : Bool) (as : List Artifact) (s : Session) :
    Except Failure Written × Session → Prop where
  /-- all of them are written -/
  | done {w : Written} {s' : Session} : TakenEffect root as as s s' → NotedOf root as w →
      Settles root echo as s (.ok w, s')
  /-- the first that cannot be written ends this, and just those before it have taken effect -/
  | refused {before after : List Artifact} {a : Artifact} {w : Written} {mid s' : Session}
      {fault : FileFault} : as = before ++ a :: after →
      (writeAll root echo before).outcome s = (.ok w, mid) →
      ¬ mid.Takes (a.destination root) (textOctets a.content) → FilesTo mid s' →
      TakenEffect root before (before ++ [a]) s s' →
      Settles root echo as s (.error (.artifact a.key (a.destination root) fault), s')

/-- A failure slips through at one of the artifacts, those before it written. -/
def LetsThrough (root : Path) (echo : Bool) (as : List Artifact) (s : Session) : Prop :=
  ∃ before a after w mid, as = before ++ a :: after ∧
    (writeAll root echo before).outcome s = (.ok w, mid) ∧ a.SlipsThrough root echo mid

/-- The disk breaks off at one of the artifacts, those before it written, and leaves what was not
there before. -/
def IsSpoiled (root : Path) (echo : Bool) (as : List Artifact) (s : Session) : Prop :=
  ∃ before a after w mid, as = before ++ a :: after ∧
    (writeAll root echo before).outcome s = (.ok w, mid) ∧
      Spoils mid (a.destination root) (textOctets a.content)

/-- How writing artifacts ends where the disk breaks off: the artifact is named, those before it are
written, and nothing but its own file is touched, which holds what the disk took. -/
inductive Breaks (root : Path) (echo : Bool) (as : List Artifact) (s : Session) :
    Except Failure Written × Session → Prop where
  | intro {before after : List Artifact} {a : Artifact} {w : Written} {mid s' : Session}
      {fault : FileFault} {l : Location} {count : Nat} : as = before ++ a :: after →
      (writeAll root echo before).outcome s = (.ok w, mid) →
      (a.write root echo).outcome mid
        = (.error (.artifact a.key (a.destination root) fault), s') →
      BuildsAt (· = a.destination root) (·.Above (a.destination root)) mid s' → FilesTo mid s' →
      s'.tree.locate s'.workingDir (a.destination root) = .ok l → mid.NewFile s' l →
      s'.tree.readFile s'.workingDir (a.destination root)
        = .ok ((textOctets a.content).take count) →
      Breaks root echo as s (.error (.artifact a.key (a.destination root) fault), s')

/-- Nothing slips through if every destination can be handed to the file system and no key holds an
opening bracket. -/
theorem not_letsThrough (h : ∀ a ∈ as, isUsable (a.destination root) = true ∧ .scalar '[' ∉ a.key) :
    ¬ LetsThrough root echo as s := by
  rintro ⟨before, a, after, w, mid, rfl, -, hslips⟩
  obtain ⟨husable, hkey⟩ := h a (List.mem_append_right _ List.mem_cons_self)
  rcases hslips with hmisnamed | ⟨-, htell⟩
  · rw [hmisnamed.1] at husable
    cases husable
  · exact htell (tellable_of_plain root echo hkey)

/-- The failure that ends this, if one does, is one that the user is expected to meet. -/
theorem Settles.isExpected {r : Except Failure Written × Session} (h : Settles root echo as s r)
    (hf : r.1 = .error f) : f.isExpected = true := by
  cases h with
  | done => cases hf
  | refused =>
    cases hf
    rfl

/-- Where nothing slips through and the disk leaves no part of any, all artifacts are written or one
is refused. -/
theorem settles_of_not_letsThrough (hcontents : ∀ a ∈ as, a.content.Whole)
    (h : ¬ LetsThrough root echo as s) (hwhole : ¬ IsSpoiled root echo as s) :
    Settles root echo as s ((writeAll root echo as).outcome s) := by
  rcases hrun : (writeAll root echo as).outcome s with ⟨f | w, s'⟩
  · obtain ⟨before, a, after, w, mid, rfl, hbefore, hfails⟩ := exists_cut_of_writeAll hrun
    have ha : a ∈ before ++ a :: after := List.mem_append_right _ List.mem_cons_self
    have hends := ends_write (hcontents a ha) root echo mid
    rw [hfails] at hends
    cases hends with
    | refused htakes _ _ hbuilds hfiles =>
      exact .refused rfl hbefore htakes hfiles ((takenEffect_of_writeAll hbefore).1.attempt hbuilds)
    | spoiled _ hspoils _ _ _ _ _ =>
      exact absurd ⟨before, a, after, w, mid, rfl, hbefore, hspoils⟩ hwhole
    | slipped hslips _ => exact absurd ⟨before, a, after, w, mid, rfl, hbefore, hslips⟩ h
  · obtain ⟨heffect, hnoted⟩ := takenEffect_of_writeAll hrun
    exact .done heffect hnoted

/-- What slips through ends the run with a failure that is none of an artifact. -/
theorem fails_of_letsThrough (hcontents : ∀ a ∈ as, a.content.Whole)
    (h : LetsThrough root echo as s) :
    ∃ f, ((writeAll root echo as).outcome s).1 = .error f ∧ f.isExpected = false := by
  obtain ⟨before, a, after, w, mid, rfl, hbefore, hslips⟩ := h
  have hends := ends_write (hcontents a (List.mem_append_right _ List.mem_cons_self)) root echo mid
  rcases hwrite : (a.write root echo).outcome mid with ⟨result, s'⟩
  rw [hwrite] at hends
  cases hends with
  | written htakes htell =>
    exact hslips.elim (fun hs => absurd htakes hs.not_takes) fun hs => absurd htell hs.2
  | refused _ hnot _ _ _ | spoiled hnot _ _ _ _ _ _ => exact absurd hslips hnot
  | slipped _ hexpected =>
    exact ⟨_, congrArg Prod.fst (outcome_writeAll_of_error hbefore hwrite), hexpected⟩

/-- Where the disk breaks off and leaves a part, the run ends there. -/
theorem breaks_of_isSpoiled (hcontents : ∀ a ∈ as, a.content.Whole)
    (h : IsSpoiled root echo as s) :
    Breaks root echo as s ((writeAll root echo as).outcome s) := by
  obtain ⟨before, a, after, w, mid, rfl, hbefore, hspoils⟩ := h
  obtain ⟨_, _, _, _, hpart, -⟩ := id hspoils
  have hends := ends_write (hcontents a (List.mem_append_right _ List.mem_cons_self)) root echo mid
  rcases hwrite : (a.write root echo).outcome mid with ⟨result, s'⟩
  rw [hwrite] at hends
  cases hends with
  | written htakes _ => exact absurd htakes hpart.not_takes
  | refused _ _ hnot _ _ => exact absurd hspoils hnot
  | spoiled _ _ hbuilds hfiles hl hnew hread =>
    rw [outcome_writeAll_of_error hbefore hwrite]
    exact .intro rfl hbefore hwrite hbuilds hfiles hl hnew hread
  | slipped hslips _ =>
    rcases hslips with hmisnamed | ⟨htakes, -⟩
    · cases hpart.usable.symm.trans hmisnamed.1
    · exact absurd htakes hpart.not_takes

/-- A run that an artifact ends comes to what those before it did. -/
theorem Settles.exists_cut {r : Except Failure Written × Session} (h : Settles root echo as s r)
    (hf : r.1 = .error f) :
    ∃ before a after w mid, as = before ++ a :: after ∧
      (writeAll root echo before).outcome s = (.ok w, mid) ∧
        ¬ mid.Takes (a.destination root) (textOctets a.content) ∧
          TakenEffect root before (before ++ [a]) s r.2 := by
  cases h with
  | done => cases hf
  | refused hcut hbefore htakes _ heffect => exact ⟨_, _, _, _, _, hcut, hbefore, htakes, heffect⟩

/-- A part of an artifact that is left is more than what those before it did. -/
theorem Breaks.not_settles {r : Except Failure Written × Session}
    (hcontents : ∀ a ∈ as, a.content.Whole) (h : Breaks root echo as s r) :
    ¬ Settles root echo as s r := by
  intro hsettles
  obtain ⟨rfl, hbefore, hwrite, hbuilds, -, -, ⟨octets, hfile, hnew⟩, -⟩ := h
  obtain ⟨before', a', after', w', mid', hcut, hbefore', htakes, heffect⟩ :=
    hsettles.exists_cut rfl
  -- both runs end at the same artifact, the first that is not written
  have hends := ends_write (hcontents a' (hcut ▸ List.mem_append_right _ List.mem_cons_self)) root
    echo mid'
  rcases hwrite' : (a'.write root echo).outcome mid' with ⟨f' | path', s₂⟩
  · obtain rfl := cut_unique hcut hbefore hwrite hbefore' hwrite'
    exact hnew ((takenEffect_of_writeAll hbefore).1.file_of_growsAt heffect hbuilds.growsAt hfile)
  · rw [hwrite'] at hends
    cases hends with
    | written htakes' _ => exact htakes htakes'

/-- A disk that takes octets whole or refuses them leaves no part of an artifact. -/
theorem not_isSpoiled (h : s.disk.Steady) : ¬ IsSpoiled root echo as s := by
  rintro ⟨before, a, after, w, mid, rfl, hbefore, tree, l, count, fault, hpart, -⟩
  have hkeeps : (writeAll root echo before).Keeps WritesTo :=
    keeps_foldlM fun _ a _ => (keeps_write_writesTo root echo a).bind fun _ => keeps_pure _
  have hfault := hpart.fault_eq
  rw [(hkeeps.of_outcome hbefore).disk_eq] at hfault
  exact h l _ count fault hfault

/-- Files are written at destinations only, and directories are made on the way to them. -/
theorem keeps_writeAll_buildsAt (root : Path) (echo : Bool) (as : List Artifact) :
    (writeAll root echo as).Keeps (BuildsAt (fun q => ∃ a ∈ as, q = a.destination root)
      (fun q => ∃ a ∈ as, q.Above (a.destination root))) :=
  keeps_foldlM fun _ _ ha =>
    (keeps_write_buildsAt_of_mem ha ha root echo).bind fun _ => keeps_pure _

/-- Artifacts whose texts can be encoded are all written, or the first that cannot be written is
named and just those before it have taken effect, with two exceptions.  One is a failure that slips
through at an artifact whose destination cannot be handed to the file system or that cannot be told
of: none does if all destinations can and no key holds an opening bracket.  The other is a disk that
breaks off and leaves a part of an artifact: it is named then, too, and nothing but its own file is
touched behind those before it.  Whatever comes of it, files are written at destinations only, and
directories are made on the way to them. -/
theorem writeAll_settles_iff (hcontents : ∀ a ∈ as, a.content.Whole) (root : Path) (echo : Bool)
    (s : Session) :
    (Settles root echo as s ((writeAll root echo as).outcome s) ↔
        ¬ LetsThrough root echo as s ∧ ¬ IsSpoiled root echo as s) ∧
      ((∀ a ∈ as, isUsable (a.destination root) = true ∧ .scalar '[' ∉ a.key) → s.disk.Steady →
        Settles root echo as s ((writeAll root echo as).outcome s)) ∧
      (LetsThrough root echo as s →
        ∃ f, ((writeAll root echo as).outcome s).1 = .error f ∧ f.isExpected = false) ∧
      (IsSpoiled root echo as s → Breaks root echo as s ((writeAll root echo as).outcome s)) ∧
      BuildsAt (fun q => ∃ a ∈ as, q = a.destination root)
        (fun q => ∃ a ∈ as, q.Above (a.destination root)) s
        ((writeAll root echo as).outcome s).2 := by
  have hsettles : ¬ LetsThrough root echo as s → ¬ IsSpoiled root echo as s →
      Settles root echo as s ((writeAll root echo as).outcome s) :=
    settles_of_not_letsThrough hcontents
  refine ⟨⟨fun h => ⟨fun hthrough => ?_, fun hspoiled => ?_⟩, fun h => hsettles h.1 h.2⟩,
    fun h hdisk => hsettles (not_letsThrough h) (not_isSpoiled hdisk),
    fails_of_letsThrough hcontents, breaks_of_isSpoiled hcontents,
    keeps_writeAll_buildsAt root echo as s⟩
  · obtain ⟨f, hf, hunexpected⟩ := fails_of_letsThrough hcontents hthrough
    rw [h.isExpected hf] at hunexpected
    cases hunexpected
  · exact (breaks_of_isSpoiled hcontents hspoiled).not_settles hcontents h

/-! ### Artifacts in each other's way -/

/-- The directory that these artifacts are written below. -/
def crowdedRoot : Path := ⟨.root, ["project"]⟩

/-- Two artifacts for one file, a key that comes again, and an artifact that would need a directory
where an earlier one is a file. -/
def crowdedArtifacts : List Artifact :=
  [⟨"component", ⟨.here, ["a", "x.js"]⟩, "old"⟩, ⟨"api", ⟨.here, ["a", "x.js"]⟩, "new"⟩,
    ⟨"component", ⟨.here, ["b.js"]⟩, "other"⟩, ⟨"extra", ⟨.here, ["b.js", "c.js"]⟩, "none"⟩,
    ⟨"last", ⟨.here, ["d.js"]⟩, "none"⟩]

/-- The artifact that is in the way of another one ends the run there. -/
theorem writeAll_settles_iff_crowdedArtifacts :
    (∀ a ∈ crowdedArtifacts, a.content.Whole) ∧
      ((writeAll crowdedRoot true crowdedArtifacts).outcome emptyProject).1
        = .error (.artifact "extra" ⟨.root, ["project", "b.js", "c.js"]⟩
          ⟨.alreadyThere, some "/project/b.js"⟩) ∧
      Settles crowdedRoot true crowdedArtifacts emptyProject
        ((writeAll crowdedRoot true crowdedArtifacts).outcome emptyProject) := by
  have hcontents : ∀ a ∈ crowdedArtifacts, a.content.Whole := by decide
  refine ⟨hcontents, by decide +kernel, ?_⟩
  exact (writeAll_settles_iff hcontents crowdedRoot true emptyProject).2.1 (by decide +kernel)
    Disk.steady_sound

/-- An artifact with a lone surrogate in its path. -/
def misnamedArtifact : Artifact := ⟨"component", ⟨.here, [.ofNat 0xD800 :: (".js" : Text)]⟩, "x"⟩

/-- An artifact with the text of a closing tag as its key. -/
def untoldArtifact : Artifact := ⟨"[/b]", ⟨.here, ["a.txt"]⟩, "x"⟩

/-- Neither of them is written with its path noted, and neither is named as what cannot be
written. -/
theorem exists_artifacts_not_settled :
    (∀ a ∈ [misnamedArtifact, untoldArtifact],
      a.content.Whole ∧ Path.dotDot ∉ a.path.segments ∧ .ofNat 0 ∉ a.path.text) ∧
      ¬ Settles crowdedRoot true [misnamedArtifact] emptyProject
          ((writeAll crowdedRoot true [misnamedArtifact]).outcome emptyProject) ∧
      ¬ Settles crowdedRoot true [untoldArtifact] emptyProject
          ((writeAll crowdedRoot true [untoldArtifact]).outcome emptyProject) := by
  have hmisnamed : ((writeAll crowdedRoot true [misnamedArtifact]).outcome emptyProject).1
      = .error (.unencodable (.scalar '/' :: ("project/" : Text) ++ .ofNat 0xD800 :: (".js" : Text))
        ⟨9, .ofNat 0xD800, 1⟩) := by
    decide +kernel
  have huntold : ((writeAll crowdedRoot true [untoldArtifact]).outcome emptyProject).1
      = .error (.markup (.unmatched "[/b]" 17)) := by
    decide +kernel
  refine ⟨by decide, fun h => ?_, fun h => ?_⟩
  · exact absurd (h.isExpected hmisnamed) (by decide)
  · exact absurd (h.isExpected huntold) (by decide)

end Artifact

end DashboardKit
