import DashboardKit.Proofs.Session.Documents

/-!
# Writing over files that are there

Writing where a file is makes no directory and brings no file up; it changes what is in this file.
Either of the trees before and after could then have grown from the other: `Overwrites` says so, and
paths lead to the same places in both.

Main statements: `Overwrites.readFile_iff`, `Overwrites.find?_eq` and
`Action.keeps_saveJson_rewritesAt`.
-/

set_option autoImplicit false

namespace DashboardKit

namespace Session

variable {paths paths' : Path → Prop} {calls : List InstallCall} {s s' s'' : Session} {p q : Path}
  {octets : Utf8.Octets}

/-- Files were written over, at most where these paths lead, and nothing else in the tree changed:
each tree could have grown from the other. -/
def Overwrites (paths : Path → Prop) (s s' : Session) : Prop :=
  GrowsAt paths s s' ∧ GrowsAt paths s' s

instance (paths : Path → Prop) : IsPreorder Session (Overwrites paths) where
  refl s := ⟨refl_of _ s, refl_of _ s⟩
  trans _ _ _ h h' := ⟨trans_of _ h.1 h'.1, trans_of _ h'.2 h.2⟩

theorem Overwrites.symm (h : Overwrites paths s s') : Overwrites paths s' s := ⟨h.2, h.1⟩

theorem Overwrites.mono (h : Overwrites paths s s') (hsub : ∀ p, paths p → paths' p) :
    Overwrites paths' s s' := ⟨h.1.mono hsub, h.2.mono hsub⟩

theorem CallsTo.overwrites (h : CallsTo calls s s') (paths : Path → Prop) :
    Overwrites paths s s' := by
  unfold CallsTo at h
  rw [h]
  exact ⟨⟨rfl, .refl _ s.tree⟩, rfl, .refl _ s.tree⟩

theorem PrintsTo.overwrites (h : PrintsTo s s') (paths : Path → Prop) : Overwrites paths s s' :=
  h.callsTo.overwrites paths

/-- What a path leads to is the same. -/
theorem Overwrites.locate_iff (h : Overwrites paths s s') {l : Location} :
    s'.tree.locate s'.workingDir p = .ok l ↔ s.tree.locate s.workingDir p = .ok l :=
  ⟨h.2.locate, h.1.locate⟩

/-- Paths lead to the same places. -/
theorem Overwrites.samePlace_iff (h : Overwrites paths s s') :
    s'.SamePlace p q ↔ s.SamePlace p q :=
  exists_congr fun _ => and_congr h.locate_iff h.locate_iff

/-- A file is what it was unless it was written over. -/
theorem Overwrites.readFile_iff (h : Overwrites paths s s')
    (hother : ∀ q, paths q → ¬ s.SamePlace q p) :
    s'.tree.readFile s'.workingDir p = .ok octets ↔
      s.tree.readFile s.workingDir p = .ok octets := by
  constructor
  · exact fun hread => h.2.readFile hread hother
  · exact fun hread => h.1.readFile hread fun q hq hsame => hother q hq (h.samePlace_iff.1 hsame)

/-- There is a file at a path. -/
def HasFile (s : Session) (p : Path) : Prop :=
  ∃ octets, s.tree.readFile s.workingDir p = .ok octets

/-- While a tree grows files stay files. -/
theorem GrowsAt.hasFile (h : GrowsAt paths s s') (hp : s.HasFile p) : s'.HasFile p := by
  obtain ⟨octets, hread⟩ := hp
  obtain ⟨l, hl, hfile⟩ := FileTree.readFile_eq_ok_iff.1 hread
  have hthere : ∃ octets', s'.tree.find? l = some (.file octets') := by
    rcases h.2 l with hsame | ⟨hnone, -⟩ | ⟨-, -, hwritten⟩
    · exact ⟨octets, hsame.trans hfile⟩
    · rw [hfile] at hnone
      cases hnone
    · exact hwritten
  obtain ⟨octets', hthere⟩ := hthere
  exact ⟨octets', FileTree.readFile_eq_ok_iff.2 ⟨l, h.locate hl, hthere⟩⟩

/-- Paths to the same place lead to the same file. -/
theorem SamePlace.readFile (h : s.SamePlace p q)
    (hread : s.tree.readFile s.workingDir p = .ok octets) :
    s.tree.readFile s.workingDir q = .ok octets := by
  obtain ⟨l, hp, hq⟩ := h
  obtain ⟨l', hl', hfile⟩ := FileTree.readFile_eq_ok_iff.1 hread
  obtain rfl := Except.ok.inj (hp.symm.trans hl')
  exact FileTree.readFile_eq_ok_iff.2 ⟨l, hq, hfile⟩

/-- If there is a file at a path and the working directory is one, at most this file is written
over. -/
def RewritesAt (p : Path) (s s' : Session) : Prop :=
  s.tree.find? s.workingDir = some .dir → s.HasFile p → Overwrites (· = p) s s'

instance (p : Path) : IsPreorder Session (RewritesAt p) where
  refl s := fun _ _ => refl_of _ s
  trans s₁ s₂ s₃ h h' := by
    intro hcwd hp
    have hfirst := h hcwd hp
    exact trans_of _ hfirst (h' (hfirst.1.dir_workingDir hcwd) (hfirst.1.hasFile hp))

theorem CallsTo.rewritesAt (h : CallsTo calls s s') (p : Path) : RewritesAt p s s' :=
  fun _ _ => h.overwrites _

theorem PrintsTo.rewritesAt (h : PrintsTo s s') (p : Path) : RewritesAt p s s' :=
  h.callsTo.rewritesAt p

end Session

namespace Action

open Session

/-- Above a file that is there nothing is made. -/
theorem keeps_makeDirs_parent (p : Path) : (makeDirs p.parent).Keeps (RewritesAt p) := by
  intro s hcwd ⟨octets, hread⟩
  cases husable : isUsable p.parent with
  | false =>
    obtain ⟨f, hcheck, -⟩ := outcome_checkPath_of_not_usable husable s
    unfold makeDirs
    rw [outcome_bind_of_error hcheck]
    exact refl_of _ s
  | true =>
    rw [outcome_makeDirs_of_usable husable, FileTree.makeDirs_parent_eq (fun _ => hcwd) hread]
    exact refl_of _ s

theorem keeps_writeFile_rewritesAt (p : Path) (octets : Utf8.Octets) :
    (writeFile p octets).Keeps (RewritesAt p) := by
  refine keeps_writeFile_of fun s tree octets' hwrite hcwd ⟨before, hread⟩ => ?_
  obtain ⟨l, hl, hnotDir, rfl⟩ := FileTree.writeFile_eq_ok hwrite
  refine ⟨⟨rfl, ?_⟩, rfl, fun m => ?_⟩
  · exact (FileTree.growsTo_writeFile hwrite).1.mono fun l hl => ⟨p, rfl, hl⟩
  obtain ⟨l', hl', hfile⟩ := FileTree.readFile_eq_ok_iff.1 hread
  obtain rfl := Except.ok.inj (hl.symm.trans hl')
  have hroot : l ≠ [] := by
    rintro rfl
    exact hnotDir (FileTree.find?_root s.tree)
  rw [FileTree.find?_put s.tree l m _ hroot]
  by_cases hm : m = l
  · -- the file that was there is the other one written over
    subst hm
    refine .inr (.inr ⟨⟨p, rfl, hl⟩, ?_, before, hfile⟩)
    rw [if_pos rfl]
    nofun
  · exact .inl (if_neg hm).symm

theorem keeps_writeText_rewritesAt (p : Path) (t : Text) :
    (writeText p t).Keeps (RewritesAt p) := by
  unfold writeText
  split
  · exact keeps_writeFile_rewritesAt p _
  · exact (keeps_writeFile_rewritesAt p _).bind fun _ => keeps_throw _

/-- Saving a document over a file changes this file and nothing else. -/
theorem keeps_saveJson_rewritesAt (v : Value) (p : Path) :
    (saveJson v p).Keeps (RewritesAt p) :=
  (keeps_makeDirs_parent p).bind fun _ =>
    (keeps_ofExcept _ _).bind fun t => keeps_writeText_rewritesAt p t

end Action

end DashboardKit
