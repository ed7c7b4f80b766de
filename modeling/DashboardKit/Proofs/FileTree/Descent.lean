import DashboardKit.Proofs.FileTree.Growth
import Mathlib.Data.List.Induction

/-!
# Going down in file trees

Segments that lead down and never up lead to one place only: the location they start from with the
segments behind it, as they are spelled.  In a tree in which everything lies in directories, what is
there can be reached that way.

Main statements: `follow_down` and `Consistent.follow_of_follow`, a place that holds something and
is reached in another tree is reached in this one.
-/

set_option autoImplicit false

namespace DashboardKit.FileTree

variable {t old new : FileTree} {l l' : Location}
  {segments rest : List Text}

/-- Whatever a location holds lies in a directory. -/
def Consistent (t : FileTree) : Prop :=
  ∀ l name, t.find? (l ++ [name]) ≠ none → t.find? l = some .dir

/-- It is enough that the entries lie in directories. -/
theorem consistent_iff :
    t.Consistent ↔ ∀ e ∈ t.entries, t.find? e.1.dropLast = some .dir := by
  constructor
  · intro h e he
    rcases List.eq_nil_or_concat e.1 with hnil | ⟨l, name, hl⟩
    · rw [hnil]
      exact find?_root t
    · rw [List.concat_eq_append] at hl
      rw [hl, List.dropLast_concat]
      refine h l name ?_
      rw [find?, ← hl, if_neg (by simp [hl]), ne_eq, Option.map_eq_none_iff]
      intro hnone
      exact List.find?_eq_none.1 hnone e he (decide_eq_true rfl)
  · intro h l name hthere
    rw [find?, if_neg (by simp), ne_eq, Option.map_eq_none_iff] at hthere
    obtain ⟨e, he⟩ := Option.ne_none_iff_exists'.1 hthere
    have hl : e.1 = l ++ [name] := by simpa using List.find?_some he
    have hdir := h e (List.mem_of_find?_eq_some he)
    rwa [hl, List.dropLast_concat] at hdir

instance (t : FileTree) : Decidable t.Consistent := decidable_of_iff' _ consistent_iff

/-- All locations on the way to one that holds something are directories. -/
theorem Consistent.dir_of_append (ht : t.Consistent) {s : Text}
    (h : t.find? (l ++ s :: rest) ≠ none) : t.find? l = some .dir := by
  induction rest using List.reverseRecOn with
  | nil => exact ht l s h
  | append_singleton rest name ih =>
    have hdir : t.find? (l ++ s :: rest) = some .dir := by
      refine ht _ name ?_
      simpa only [List.cons_append, List.append_assoc] using h
    apply ih
    rw [hdir]
    exact Option.some_ne_none _

theorem follow_append {a b : List Text} :
    t.follow l (a ++ b) = .ok l' ↔ ∃ mid, t.follow l a = .ok mid ∧ t.follow mid b = .ok l' := by
  induction a generalizing l with
  | nil => simp only [List.nil_append, FileTree.follow, Except.ok.injEq, exists_eq_left']
  | cons s a ih =>
    simp only [List.cons_append, FileTree.follow]
    cases t.step l s with
    | error c => simp only [reduceCtorEq, false_and, exists_false]
    | ok l₁ => exact ih

/-- Steps are taken in directories. -/
theorem dir_of_step {s : Text} (h : t.step l s = .ok l') : t.find? l = some .dir := by
  unfold FileTree.step at h
  split at h
  · cases h
  · cases h
  · assumption

/-- A step that does not lead up goes down by one name, which is not too long. -/
theorem step_down {s : Text} (hs : s ≠ Path.dotDot) (h : t.step l s = .ok l') :
    octetCount s ≤ nameLimit ∧ l' = l ++ [FileName.spelled s] := by
  rw [FileTree.step, dir_of_step h] at h
  simp only [if_neg hs] at h
  split at h
  · cases h
  · rename_i hlength
    exact ⟨Nat.not_lt.1 hlength, (Except.ok.inj h).symm⟩

/-- Segments that do not lead up lead down by themselves. -/
theorem follow_down (hdown : Path.dotDot ∉ segments) (h : t.follow l segments = .ok l') :
    l' = l ++ segments.map FileName.spelled := by
  induction segments generalizing l with
  | nil =>
    rw [List.map_nil, List.append_nil]
    exact (Except.ok.inj h).symm
  | cons s rest ih =>
    rw [List.mem_cons, not_or] at hdown
    rw [FileTree.follow] at h
    cases hstep : t.step l s with
    | error c => simp [hstep] at h
    | ok l₁ =>
      obtain ⟨-, rfl⟩ := step_down (Ne.symm hdown.1) hstep
      simp only [hstep] at h
      rw [ih hdown.2 h, List.append_assoc]
      rfl

theorem locate_eq_ok_iff {cwd : Location} {p : Path} :
    t.locate cwd p = .ok l ↔
      octetCount p.text ≤ pathLimit ∧
        t.follow (if p.isAbsolute then [] else cwd) p.segments = .ok l := by
  unfold locate
  split
  · rename_i hlength
    simp only [reduceCtorEq, false_iff, not_and]
    omega
  · rename_i hlength
    exact ⟨fun h => ⟨Nat.not_lt.1 hlength, h⟩, fun h => h.2⟩

/-- A path cannot be followed for one of three reasons. -/
theorem locate_eq_error {cwd : Location} {p : Path} {c : FileCause}
    (h : t.locate cwd p = .error c) : c = .missing ∨ c = .notDirectory ∨ c = .nameTooLong := by
  have hstep {l : Location} {s : Text} (h : t.step l s = .error c) :
      c = .missing ∨ c = .notDirectory ∨ c = .nameTooLong := by
    unfold FileTree.step at h
    split at h
    · exact .inl (Except.error.inj h).symm
    · exact .inr (.inl (Except.error.inj h).symm)
    · split at h
      · cases h
      · split at h
        · exact .inr (.inr (Except.error.inj h).symm)
        · cases h
  have hfollow {l : Location} {segments : List Text} (h : t.follow l segments = .error c) :
      c = .missing ∨ c = .notDirectory ∨ c = .nameTooLong := by
    induction segments generalizing l with
    | nil => cases h
    | cons s rest ih =>
      rw [FileTree.follow] at h
      cases hs : t.step l s with
      | error c' =>
        rw [hs] at h
        cases h
        exact hstep hs
      | ok l₁ =>
        rw [hs] at h
        exact ih h
  unfold locate at h
  split at h
  · exact .inr (.inr (Except.error.inj h).symm)
  · exact hfollow h

/-- A path whose last segments lead down leads to where the others lead, and from there down. -/
theorem locate_down {cwd : Location} {anchor : Anchor} {before : List Text}
    (hdown : Path.dotDot ∉ segments) (h : t.locate cwd ⟨anchor, before ++ segments⟩ = .ok l) :
    ∃ base, t.follow (if (⟨anchor, before⟩ : Path).isAbsolute then [] else cwd) before = .ok base ∧
      t.follow base segments = .ok l ∧ l = base ++ segments.map FileName.spelled := by
  obtain ⟨base, hbase, hl⟩ := follow_append.1 (locate_eq_ok_iff.1 h).2
  exact ⟨base, hbase, hl, follow_down hdown hl⟩

/-- A path from the root that leads down is its own location. -/
theorem eq_of_locate_root {cwd : Location} (hdown : Path.dotDot ∉ segments)
    (h : t.locate cwd ⟨.root, segments⟩ = .ok l) : l = segments.map FileName.spelled :=
  follow_down hdown (locate_eq_ok_iff.1 h).2

/-- What lies below a location is reached from there if it would be in any other tree. -/
theorem Consistent.follow_of_follow (hold : old.Consistent) (hdown : Path.dotDot ∉ segments)
    (hthere : old.find? (l ++ segments.map FileName.spelled) ≠ none)
    (h : new.follow l segments = .ok l') : old.follow l segments = .ok l' := by
  induction segments generalizing l with
  | nil => exact h
  | cons s rest ih =>
    rw [List.mem_cons, not_or] at hdown
    rw [FileTree.follow] at h
    cases hstep : new.step l s with
    | error c => simp [hstep] at h
    | ok l₁ =>
      obtain ⟨hlength, rfl⟩ := step_down (Ne.symm hdown.1) hstep
      have hstep' : old.step l s = .ok (l ++ [FileName.spelled s]) := by
        unfold FileTree.step
        rw [hold.dir_of_append hthere]
        simp only [if_neg (Ne.symm hdown.1), if_neg (Nat.not_lt.2 hlength)]
      simp only [hstep] at h
      rw [FileTree.follow, hstep']
      refine ih hdown.2 ?_ h
      rwa [List.append_assoc]

end DashboardKit.FileTree
