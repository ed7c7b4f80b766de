import DashboardKit.Failure.Cause
import DashboardKit.Proofs.Console.Markup
import DashboardKit.Proofs.Generation.Refusals
import DashboardKit.Proofs.Session.Building
import DashboardKit.Proofs.Session.Printing
import DashboardKit.Proofs.Session.Saving

/-!
# What writing an artifact comes to

An artifact whose text can be encoded is written where a file with it can be made at its
destination, and refused where none can be; a disk that breaks off leaves a part of it there.  There
are two ways in which none of this happens: the destination cannot be handed to the file system, or
the line that tells of the file that was written cannot be shown.

Main statements: `Artifact.ends_write`, one of these things happens, and
`Artifact.tellable_of_plain`, the line is shown if the key holds no opening bracket.
-/

set_option autoImplicit false

namespace DashboardKit

open Session DashboardKit.Action

/-- The disk takes octets whole or refuses them. -/
def Disk.Steady (disk : Disk) : Prop :=
  ∀ l octets count fault, disk.fault? l octets ≠ some (.brokenOff count fault)

theorem Disk.steady_sound : Disk.sound.Steady := fun _ _ _ _ => nofun

namespace Action

variable {p : Path} {t : Text} {octets : Utf8.Octets} {s s' : Session}

/-! ## Texts with directories above them -/

/-- Making sure of the directories above a file comes to making them. -/
theorem outcome_ensureDir_bind {α : Type} (rest : Action α) (p : Path) (s : Session) :
    (ensureDir p >>= fun _ => rest).outcome s = (makeDirs p >>= fun _ => rest).outcome s := by
  rw [outcome_bind, outcome_bind]
  cases husable : isUsable p with
  | false =>
    obtain ⟨f, hcheck, -⟩ := outcome_checkPath_of_not_usable husable s
    have hmake : (makeDirs p).outcome s = (.error f, s) := outcome_bind_of_error hcheck _
    rw [ensureDir, outcome_bind_of_error hmake, hmake]
  | true =>
    rw [ensureDir, outcome_bind, outcome_makeDirs_of_usable husable]
    rcases s.tree.makeDirs s.disk s.workingDir p with ⟨tree, fault | ⟨⟩⟩
    · rfl
    · simp only [Except.mapError, outcome_resolve_of_usable husable]

/-- The path of a file cannot be handed to the file system, though its directory can be made if that
one can. -/
def Misnamed (s : Session) (p : Path) : Prop :=
  isUsable p = false ∧ (isUsable p.parent = true →
    ∃ tree, s.tree.makeDirs s.disk s.workingDir p.parent = (tree, .ok ()))

theorem Misnamed.not_takes (h : Misnamed s p) : ¬ s.Takes p octets := by
  rintro ⟨husable, -⟩
  rw [h.1] at husable
  cases husable

/-- What is wrong with a name is no failure that is expected, and none of the file system. -/
theorem OfName.unexpected {f : Failure} (h : OfName f) :
    f.isExpected = false ∧ ∀ fault, f ≠ .file fault := by
  rcases h with ⟨name, fault, rfl⟩ | rfl <;> exact ⟨rfl, nofun⟩

/-- The disk breaks off while a file with these octets is made at a path, and so many of them are
then at a location of this tree. -/
structure TakesPart (s : Session) (p : Path) (octets : Utf8.Octets) (tree : FileTree)
    (l : Location) (count : Nat) (fault : FileFault) : Prop where
  usable : isUsable p = true
  makeDirs_eq : s.tree.makeDirs s.disk s.workingDir p.parent = (tree, .ok ())
  target_eq : tree.target s.workingDir p = .ok l
  fault_eq : s.disk.fault? l octets = some (.brokenOff count fault)

/-- What comes of octets that are not taken whole. -/
inductive WriteEnds (s : Session) (p : Path) (octets : Utf8.Octets) :
    Except Failure Unit × Session → Prop where
  | misnamed {f : Failure} {s' : Session} : Misnamed s p → OfName f →
      WriteEnds s p octets (.error f, s')
  | refused {fault : FileFault} : ¬ Misnamed s p →
      (∀ tree l count fault, ¬ TakesPart s p octets tree l count fault) →
      WriteEnds s p octets (.error (.file fault),
        { s with tree := (s.tree.makeDirs s.disk s.workingDir p.parent).1 })
  | brokenOff {tree : FileTree} {l : Location} {count : Nat} {fault : FileFault} :
      TakesPart s p octets tree l count fault →
      WriteEnds s p octets (.error (.file fault),
        Session.holding { s with tree } l (octets.take count))

theorem WriteEnds.refused_of {tree : FileTree} {result : Except FileFault Unit} {fault : FileFault}
    (hmake : s.tree.makeDirs s.disk s.workingDir p.parent = (tree, result))
    (hnamed : ¬ Misnamed s p)
    (hwhole : ∀ {tree l count fault}, ¬ TakesPart s p octets tree l count fault) :
    WriteEnds s p octets (.error (.file fault), { s with tree }) := by
  have htree : (s.tree.makeDirs s.disk s.workingDir p.parent).1 = tree := congrArg Prod.fst hmake
  rw [← htree]
  exact .refused hnamed fun _ _ _ _ => hwhole

/-- Octets that are not taken whole, when the directories above them were made. -/
theorem writeEnds_of_makeDirs {tree : FileTree} (octets : Utf8.Octets) (h : ¬ s.Takes p octets)
    (hmake : s.tree.makeDirs s.disk s.workingDir p.parent = (tree, .ok ())) :
    WriteEnds s p octets ((writeFile p octets).outcome { s with tree }) := by
  cases husable : isUsable p with
  | false =>
    obtain ⟨f, hcheck, -⟩ := outcome_checkPath_of_not_usable husable { s with tree }
    have hwrite : (writeFile p octets).outcome { s with tree } = (.error f, { s with tree }) :=
      outcome_bind_of_error hcheck _
    rw [hwrite]
    exact .misnamed ⟨husable, fun _ => ⟨tree, hmake⟩⟩ (failsWith_checkPath _ _ _ _ hcheck)
  | true =>
    have hnamed : ¬ Misnamed s p := fun h => by cases husable.symm.trans h.1
    cases htarget : tree.target s.workingDir p with
    | error fault =>
      rw [outcome_writeFile_of_no_target husable htarget]
      refine WriteEnds.refused_of hmake hnamed fun hpart => ?_
      cases hmake.symm.trans hpart.makeDirs_eq
      cases htarget.symm.trans hpart.target_eq
    | ok l =>
      rw [outcome_writeFile_of_target husable htarget]
      rcases hfault : s.disk.fault? l octets with _ | fault | ⟨count, fault⟩
      · exact absurd ⟨husable, tree, l, hmake, htarget, hfault⟩ h
      · refine WriteEnds.refused_of hmake hnamed fun hpart => ?_
        cases hmake.symm.trans hpart.makeDirs_eq
        cases htarget.symm.trans hpart.target_eq
        cases hfault.symm.trans hpart.fault_eq
      · exact .brokenOff ⟨husable, hmake, htarget, hfault⟩

/-- Where no file with these octets can be made, writing one fails in one of three ways. -/
theorem writeEnds_of_not_takes (octets : Utf8.Octets) (h : ¬ s.Takes p octets) :
    WriteEnds s p octets ((do makeDirs p.parent; writeFile p octets).outcome s) := by
  rw [outcome_bind]
  cases hparent : isUsable p.parent with
  | false =>
    obtain ⟨f, hcheck, -⟩ := outcome_checkPath_of_not_usable hparent s
    have hmake : (makeDirs p.parent).outcome s = (.error f, s) := outcome_bind_of_error hcheck _
    have husable : isUsable p = false := by
      rw [← Bool.not_eq_true]
      intro husable
      cases hparent.symm.trans (isUsable_parent husable)
    rw [hmake]
    exact .misnamed ⟨husable, fun husable' => by cases hparent.symm.trans husable'⟩
      (failsWith_checkPath _ _ _ _ hcheck)
  | true =>
    rw [outcome_makeDirs_of_usable hparent]
    rcases hmake : s.tree.makeDirs s.disk s.workingDir p.parent with ⟨tree, fault | ⟨⟩⟩
    · refine WriteEnds.refused_of hmake (fun hmisnamed => ?_) fun hpart => ?_
      · obtain ⟨tree', hmake'⟩ := hmisnamed.2 hparent
        cases hmake.symm.trans hmake'
      · cases hmake.symm.trans hpart.makeDirs_eq
    · exact writeEnds_of_makeDirs octets h hmake

/-- The disk breaks off while a file with these octets is made at a path, and what it took is not
what was there before. -/
def Spoils (s : Session) (p : Path) (octets : Utf8.Octets) : Prop :=
  ∃ tree l count fault, TakesPart s p octets tree l count fault ∧
    s.tree.find? l ≠ some (.file (octets.take count))

/-- Directories that were made change no file. -/
theorem buildsAt_of_makeDirs (s : Session) (p : Path) (files : Path → Prop) :
    BuildsAt files (·.Above p) s
      { s with tree := (s.tree.makeDirs s.disk s.workingDir p.parent).1 } :=
  ⟨rfl, FileTree.buildsAt_makeDirsUpTo s.disk s.workingDir p.parent p.parent.segments.length s.tree⟩

namespace TakesPart

variable {tree : FileTree} {l : Location} {count : Nat} {fault : FileFault}

theorem buildsAt (h : TakesPart s p octets tree l count fault) (files : Path → Prop) :
    BuildsAt files (·.Above p) s { s with tree } := by
  have hbuilds := buildsAt_of_makeDirs s p files
  rwa [h.makeDirs_eq] at hbuilds

/-- Where the disk broke off one file is touched. -/
theorem buildsAt_holding (h : TakesPart s p octets tree l count fault) (octets' : Utf8.Octets) :
    BuildsAt (· = p) (·.Above p) s (Session.holding { s with tree } l octets') := by
  have hwrite : tree.writeFile s.workingDir p octets' = .ok (tree.put l (.file octets')) := by
    rw [FileTree.writeFile, h.target_eq]
    rfl
  have hput : BuildsAt (· = p) (·.Above p) { s with tree }
      (Session.holding { s with tree } l octets') := ⟨rfl, FileTree.buildsAt_writeFile hwrite⟩
  exact trans_of _ (h.buildsAt _) hput

/-- If there is what was there before, none is. -/
theorem buildsAt_of_same (h : TakesPart s p octets tree l count fault) {octets' : Utf8.Octets}
    (hsame : s.tree.find? l = some (.file octets')) :
    BuildsAt (fun _ => False) (·.Above p) s (Session.holding { s with tree } l octets') := by
  have hbuilds : BuildsAt (fun _ => False) (·.Above p) s { s with tree } := h.buildsAt _
  have hthere : tree.find? l = some (.file octets') :=
    (hbuilds.growsAt.2.file_iff fun ⟨_, hnone, _⟩ => hnone).2 hsame
  have hput : BuildsAt (fun _ => False) (·.Above p) { s with tree }
      (Session.holding { s with tree } l octets') :=
    ⟨rfl, .of_find?_eq (FileTree.find?_put_of_find? hthere)⟩
  exact trans_of _ hbuilds hput

theorem locate_eq (h : TakesPart s p octets tree l count fault) (octets' : Utf8.Octets) :
    (Session.holding { s with tree } l octets').tree.locate s.workingDir p = .ok l :=
  (FileTree.target_eq_ok_iff.1 (target_holding (s := { s with tree }) h.target_eq octets')).1

theorem readFile_eq (h : TakesPart s p octets tree l count fault) (octets' : Utf8.Octets) :
    (Session.holding { s with tree } l octets').tree.readFile s.workingDir p = .ok octets' :=
  readFile_holding (s := { s with tree }) h.target_eq octets'

/-- A file that is left there and was not there before is new. -/
theorem newFile (h : TakesPart s p octets tree l count fault) {octets' : Utf8.Octets}
    (hnew : s.tree.find? l ≠ some (.file octets')) :
    s.NewFile (Session.holding { s with tree } l octets') l := by
  obtain ⟨l', hl', hfile⟩ := FileTree.readFile_eq_ok_iff.1 (h.readFile_eq octets')
  obtain rfl := Except.ok.inj ((h.locate_eq octets').symm.trans hl')
  exact ⟨octets', hfile, hnew⟩

/-- How a disk breaks off is settled before. -/
theorem unique (h : TakesPart s p octets tree l count fault) {tree' : FileTree} {l' : Location}
    {count' : Nat} {fault' : FileFault} (h' : TakesPart s p octets tree' l' count' fault') :
    l = l' ∧ count = count' := by
  cases h.makeDirs_eq.symm.trans h'.makeDirs_eq
  cases h.target_eq.symm.trans h'.target_eq
  cases h.fault_eq.symm.trans h'.fault_eq
  exact ⟨rfl, rfl⟩

/-- A file that the disk does not take whole is not taken. -/
theorem not_takes (h : TakesPart s p octets tree l count fault) : ¬ s.Takes p octets := by
  rintro ⟨-, tree', l', hmake, htarget, hfault⟩
  cases h.makeDirs_eq.symm.trans hmake
  cases h.target_eq.symm.trans htarget
  cases h.fault_eq.symm.trans hfault

end TakesPart

end Action

namespace Artifact

variable {root path : Path} {echo : Bool} {a : Artifact} {s s' : Session}

/-- Writing an artifact changes the file at its destination and makes directories on the way to it,
whatever comes of it. -/
theorem keeps_write_buildsAt (root : Path) (echo : Bool) (a : Artifact) :
    (a.write root echo).Keeps
      (BuildsAt (· = a.destination root) (·.Above (a.destination root))) :=
  keeps_write_of (fun _ _ h => h.buildsAt _ _) (keeps_ensureDir_buildsAt _ _)
    (keeps_writeText_buildsAt _ _ _) echo

/-! ## What is told -/

/-- What is told of an artifact can be shown, if it is to be told. -/
def Tellable (root : Path) (echo : Bool) (a : Artifact) : Prop :=
  echo = true → ∃ t, Markup.shown (createdMarkup root a.key (a.destination root)) = .ok t

theorem isStyle_green : Markup.IsStyle "green" "green" where
  inTag := ⟨_, _, rfl, by decide, by decide⟩
  no_equals := by decide
  no_slash := by decide
  not_blank := by decide
  named := by decide +kernel

/-- What is told of an artifact can be shown if its key holds no opening bracket: its path is
escaped. -/
theorem tellable_of_plain (root : Path) (echo : Bool) (h : .scalar '[' ∉ a.key) :
    a.Tellable root echo := by
  intro _
  let path := Markup.escape ((a.destination root).display root)
  have htext : createdMarkup root a.key (a.destination root)
      = Markup.behindBackslashes 0 "green" (.scalar '✓' :: Markup.behindBackslashes 0 "/green"
          ((.scalar ' ' :: (a.key ++ (" created:" : Text))) ++ .scalar ' ' :: path)) := by
    have hfront : ("[green]✓[/green] " : Text) = .scalar '[' :: (("green" : Text)
        ++ .scalar ']' :: .scalar '✓' :: .scalar '[' :: (("/green" : Text)
          ++ [.scalar ']', .scalar ' '])) := rfl
    have hbehind : (" created: " : Text) = (" created:" : Text) ++ [.scalar ' '] := rfl
    rw [createdMarkup, hfront, hbehind]
    simp only [Markup.behindBackslashes, List.replicate_zero, List.append_assoc, List.cons_append,
      List.nil_append, path]
  -- behind the closing tag no bracket comes before the path
  have hplain : .scalar '[' ∉ (.scalar ' ' :: (a.key ++ (" created:" : Text)) : Text) := by
    rw [List.mem_cons, List.mem_append, not_or, not_or]
    exact ⟨by decide, h, by decide⟩
  have hbehind := (Markup.shows_escape [] ((a.destination root).display root)).behind_plain
    (c := .scalar ' ') hplain (by decide) (by decide)
  have hclosing := Markup.Shows.behindBackslashes (n := 0) isStyle_green.inTag_closing
    (fun _ => isStyle_green.openAfter_closing []) (fun hodd => absurd hodd (by decide)) hbehind
  have hopening := Markup.Shows.behindBackslashes (n := 0) isStyle_green.inTag
    (fun _ => isStyle_green.openAfter_opening []) (fun hodd => absurd hodd (by decide))
    (hclosing.cons (p := .scalar '✓') rfl)
  rw [htext]
  exact Markup.exists_shown_of_shows hopening

/-! ## Outcomes -/

/-- Writing the artifact in this session ends with a failure that is none of an artifact: its
destination is misnamed, or it is written and cannot be told of. -/
def SlipsThrough (root : Path) (echo : Bool) (a : Artifact) (s : Session) : Prop :=
  Misnamed s (a.destination root) ∨
    s.Takes (a.destination root) (textOctets a.content) ∧ ¬ a.Tellable root echo

/-- What writing an artifact comes to. -/
inductive Ends (root : Path) (echo : Bool) (a : Artifact) (s : Session) :
    Except Failure Path × Session → Prop where
  | written {s' : Session} : s.Takes (a.destination root) (textOctets a.content) →
      a.Tellable root echo → Ends root echo a s (.ok (a.destination root), s')
  /-- no file can be made: directories are made on the way to it at most -/
  | refused {fault : FileFault} {s' : Session} :
      ¬ s.Takes (a.destination root) (textOctets a.content) → ¬ a.SlipsThrough root echo s →
      ¬ Spoils s (a.destination root) (textOctets a.content) →
      BuildsAt (fun _ => False) (·.Above (a.destination root)) s s' → FilesTo s s' →
      Ends root echo a s (.error (.artifact a.key (a.destination root) fault), s')
  /-- the disk breaks off: the file that it leaves was not there before -/
  | spoiled {l : Location} {count : Nat} {fault : FileFault} {s' : Session} :
      ¬ a.SlipsThrough root echo s → Spoils s (a.destination root) (textOctets a.content) →
      BuildsAt (· = a.destination root) (·.Above (a.destination root)) s s' → FilesTo s s' →
      s'.tree.locate s'.workingDir (a.destination root) = .ok l → s.NewFile s' l →
      s'.tree.readFile s'.workingDir (a.destination root)
        = .ok ((textOctets a.content).take count) →
      Ends root echo a s (.error (.artifact a.key (a.destination root) fault), s')
  | slipped {f : Failure} {s' : Session} : a.SlipsThrough root echo s → f.isExpected = false →
      Ends root echo a s (.error f, s')

theorem writing_of_file {α : Type} {act : Action α} {key : Text} {fault : FileFault}
    (h : act.outcome s = (.error (.file fault), s')) :
    (writing key path act).outcome s = (.error (.artifact key path fault), s') := by
  unfold writing
  rw [outcome_tryCatch, h]
  rfl

theorem writing_of_other {α : Type} {act : Action α} {key : Text} {f : Failure}
    (hother : ∀ fault, f ≠ .file fault) (h : act.outcome s = (.error f, s')) :
    (writing key path act).outcome s = (.error f, s') := by
  unfold writing
  rw [outcome_tryCatch, h]
  cases f with
  | file fault => exact absurd rfl (hother fault)
  | _ => rfl

/-- Where a file can be made the artifact is written, and what is told of it settles the rest. -/
theorem ends_of_takes {s₁ : Session}
    (htakes : s.Takes (a.destination root) (textOctets a.content))
    (hwrite : (ensureDir (a.destination root).parent >>= fun _ =>
      writeText (a.destination root) a.content).outcome s = (.ok (), s₁)) :
    Ends root echo a s ((a.write root echo).outcome s) := by
  unfold write
  rw [outcome_bind_of_ok (writing_eq_ok.2 hwrite)]
  cases echo with
  | false => exact .written htakes nofun
  | true =>
    simp only [if_true]
    cases hshown : Markup.shown (createdMarkup root a.key (a.destination root)) with
    | ok t =>
      obtain ⟨⟨⟩, s₂, hprint⟩ := succeeds_printMarkup ⟨t, hshown⟩ s₁
      rw [createdMarkup] at hprint
      rw [outcome_bind_of_ok hprint]
      exact .written htakes fun _ => ⟨t, hshown⟩
    | error fault =>
      have hprint : (printMarkup (createdMarkup root a.key (a.destination root))).outcome s₁
          = (.error (.markup fault), s₁) := by
        unfold printMarkup shownMarkup
        rw [hshown]
        rfl
      rw [createdMarkup] at hprint
      rw [outcome_bind_of_error hprint]
      refine .slipped (.inr ⟨htakes, fun htellable => ?_⟩) rfl
      obtain ⟨t, ht⟩ := htellable rfl
      rw [hshown] at ht
      cases ht

/-- An artifact whose text can be encoded is written or refused, or it slips through. -/
theorem ends_write (hcontent : a.content.Whole) (root : Path) (echo : Bool) (s : Session) :
    Ends root echo a s ((a.write root echo).outcome s) := by
  obtain ⟨octets, hencode⟩ := Text.exists_encode_iff.2 hcontent
  obtain rfl : textOctets a.content = octets := textOctets_of_encode hencode
  let p := a.destination root
  have hact : (ensureDir p.parent >>= fun _ => writeText p a.content).outcome s
      = (do makeDirs p.parent; writeFile p (textOctets a.content)).outcome s := by
    rw [outcome_ensureDir_bind, writeText_of_encode hencode]
  by_cases htakes : s.Takes p (textOctets a.content)
  · obtain ⟨s₁, hwrite⟩ := (exists_outcome_writeFile_iff _).2 htakes
    exact ends_of_takes htakes (hact.trans hwrite)
  have hnamed (hmisnamed : ¬ Misnamed s p) : ¬ a.SlipsThrough root echo s :=
    fun h => h.elim hmisnamed fun ⟨h, _⟩ => htakes h
  have hends := writeEnds_of_not_takes _ htakes
  rw [← hact] at hends
  rcases hfails : (ensureDir p.parent >>= fun _ => writeText p a.content).outcome s with ⟨f, s₁⟩
  rw [hfails] at hends
  unfold write
  cases hends with
  | misnamed hmisnamed hf =>
    rw [outcome_bind_of_error (writing_of_other hf.unexpected.2 hfails)]
    exact .slipped (.inl hmisnamed) hf.unexpected.1
  | refused hmisnamed hwhole =>
    rw [outcome_bind_of_error (writing_of_file hfails)]
    refine .refused htakes (hnamed hmisnamed) ?_ (buildsAt_of_makeDirs s p _) rfl
    rintro ⟨tree, l, count, fault, hpart, -⟩
    exact hwhole tree l count fault hpart
  | @brokenOff tree l count fault hpart =>
    rw [outcome_bind_of_error (writing_of_file hfails)]
    have hmisnamed : ¬ Misnamed s p := fun h => by cases hpart.usable.symm.trans h.1
    by_cases hsame : s.tree.find? l = some (.file ((textOctets a.content).take count))
    · refine .refused htakes (hnamed hmisnamed) ?_ (hpart.buildsAt_of_same hsame) rfl
      rintro ⟨_, _, _, _, hpart', hnew⟩
      obtain ⟨rfl, rfl⟩ := hpart.unique hpart'
      exact hnew hsame
    · exact .spoiled (hnamed hmisnamed) ⟨tree, l, count, fault, hpart, hsame⟩
        (hpart.buildsAt_holding _) rfl (hpart.locate_eq _) (hpart.newFile hsame)
        (hpart.readFile_eq _)

end Artifact

end DashboardKit
