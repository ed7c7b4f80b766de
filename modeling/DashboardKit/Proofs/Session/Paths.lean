import DashboardKit.Proofs.FileTree.Directories
import DashboardKit.Proofs.Session.Frame
import DashboardKit.Proofs.Text.FileNames

/-!
# Paths that can be handed to the file system

A path is refused before the file system is asked if a segment of it is no name or holds a NUL.
All other paths are followed by name to their place from the root.

Main statements: `isUsable_iff_segments` and `outcome_resolve_of_usable`.
-/

set_option autoImplicit false

namespace DashboardKit.Action

variable {p : Path} {s : Session} {name : Text}

/-! ## Names -/

/-- A text is a name for the system: only escapes stand in it for what is no character, and no
NUL. -/
def CanName (name : Text) : Prop := name.Nameable ∧ .ofNat 0 ∉ name

instance (name : Text) : Decidable (CanName name) := inferInstanceAs (Decidable (_ ∧ _))

theorem outcome_checkName_of_canName (h : CanName name) (s : Session) :
    (checkName name).outcome s = (.ok (), s) := by
  have hnul : name.contains (.ofNat 0) = false := by simpa using h.2
  unfold checkName
  rw [(FileName.firstFault_eq_none_iff 0).2 h.1]
  simp only [hnul, Bool.false_eq_true, if_false, outcome_pure]

theorem outcome_checkName_of_not_canName (h : ¬ CanName name) (s : Session) :
    ∃ f, (checkName name).outcome s = (.error f, s) ∧
      ((∃ fault, f = .unencodable name fault) ∨ f = .nulInPath) := by
  unfold checkName
  cases hfault : FileName.firstFault 0 name with
  | some fault => exact ⟨_, rfl, .inl ⟨fault, rfl⟩⟩
  | none =>
    have hnul : name.contains (.ofNat 0) = true := by
      rw [FileName.firstFault_eq_none_iff] at hfault
      simpa [CanName, hfault] using h
    refine ⟨.nulInPath, ?_, .inr rfl⟩
    simp only [hnul, if_true, outcome_throw]

/-! ## Paths -/

theorem isUsable_iff : isUsable p = true ↔ CanName p.text := by
  rw [isUsable, Bool.and_eq_true, Option.isNone_iff_eq_none, FileName.firstFault_eq_none_iff,
    CanName]
  simp

/-- A path can be handed to the file system if its segments are names. -/
theorem isUsable_iff_segments : isUsable p = true ↔ ∀ name ∈ p.segments, CanName name := by
  have hname : p.text.Nameable ↔ ∀ name ∈ p.segments, name.Nameable :=
    Path.forall_mem_text (P := fun c => c.isSurrogate = true → c.escaped?.isSome = true) nofun
      nofun p
  have hnul : .ofNat 0 ∉ p.text ↔ ∀ name ∈ p.segments, .ofNat 0 ∉ name := by
    have hforall := Path.forall_mem_text (P := fun c => c ≠ .ofNat 0) (by decide) (by decide) p
    simpa only [List.forall_mem_ne'] using hforall
  rw [isUsable_iff, CanName, hname, hnul]
  exact forall₂_and.symm

theorem isUsable_parent (h : isUsable p = true) : isUsable p.parent = true := by
  rw [isUsable_iff_segments] at h ⊢
  exact fun name hname => h name (List.dropLast_subset _ hname)

theorem outcome_checkPath_of_usable (h : isUsable p = true) (s : Session) :
    (checkPath p).outcome s = (.ok (), s) :=
  outcome_checkName_of_canName (isUsable_iff.1 h) s

theorem outcome_checkPath_of_not_usable (h : isUsable p = false) (s : Session) :
    ∃ f, (checkPath p).outcome s = (.error f, s) ∧
      ((∃ fault, f = .unencodable p.text fault) ∨ f = .nulInPath) := by
  refine outcome_checkName_of_not_canName (fun hname => ?_) s
  rw [isUsable_iff.2 hname] at h
  cases h

/-! ## Places -/

theorem canName_dotDot : CanName Path.dotDot := by decide

theorem forall_mem_backFrom {P : Text → Prop} {anchor : Anchor} {front : List Text}
    (hdots : P Path.dotDot) (h : ∀ name ∈ front, P name) :
    ∀ name ∈ backFrom anchor front, P name := by
  unfold backFrom
  split
  · exact List.forall_mem_append.2 ⟨h, List.forall_mem_singleton.2 hdots⟩
  · exact fun name hname => h name (List.dropLast_subset _ hname)

/-- Names are followed without complaint. -/
theorem outcome_checkSteps {anchor : Anchor} {front segments : List Text}
    (hfront : ∀ name ∈ front, CanName name) (h : ∀ name ∈ segments, CanName name) (s : Session) :
    (checkSteps anchor front segments).outcome s = (.ok (), s) := by
  induction segments generalizing front with
  | nil => rfl
  | cons name rest ih =>
    rw [List.forall_mem_cons] at h
    unfold checkSteps
    split
    · exact ih (forall_mem_backFrom canName_dotDot hfront) h.2
    · have hall : ∀ name' ∈ front ++ [name], CanName name' :=
        List.forall_mem_append.2 ⟨hfront, List.forall_mem_singleton.2 h.1⟩
      have husable : isUsable ⟨anchor, front ++ [name]⟩ = true := isUsable_iff_segments.2 hall
      rw [outcome_bind_of_ok (outcome_checkPath_of_usable husable s)]
      exact ih hall h.2

theorem outcome_resolve_of_usable (h : isUsable p = true) (s : Session) :
    (resolve p).outcome s = (.ok (FileTree.resolve s.workingDir p).path, s) := by
  have hsteps (anchor : Anchor) : (checkSteps anchor [] p.segments).outcome s = (.ok (), s) :=
    outcome_checkSteps (fun _ h => absurd h List.not_mem_nil) (isUsable_iff_segments.1 h) s
  unfold resolve
  rw [outcome_bind_of_ok (hsteps _), outcome_bind_of_ok (outcome_get s), outcome_pure]

/-- A path resolves to the place that it names. -/
theorem eq_of_resolve {q : Path} {s s' : Session} (h : (resolve p).outcome s = (.ok q, s')) :
    q = (FileTree.resolve s.workingDir p).path := by
  obtain ⟨_, mid, hcheck, h⟩ := outcome_bind_eq_ok.1 h
  obtain rfl := (keeps_checkSteps _ _ _).of_outcome hcheck
  rw [outcome_bind_of_ok (outcome_get s)] at h
  exact (outcome_pure_eq_ok.1 h).1

end DashboardKit.Action
