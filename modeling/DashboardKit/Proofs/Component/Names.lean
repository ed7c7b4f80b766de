import DashboardKit.Component.Config
import DashboardKit.Path.Basic
import DashboardKit.Proofs.Text.LowerCase
import DashboardKit.Proofs.Text.Whole

/-!
# Names of components

A name is made of ASCII letters, digits and two signs.  It holds neither slash, point nor hyphen,
and it is whole.  In lower case it is a name again (`isName_lower`).
-/

set_option autoImplicit false

namespace DashboardKit

/-- The hyphen. -/
def CodePoint.hyphen : CodePoint := .scalar '-'

namespace ComponentConfig

variable {t : Text}

theorem all_inName_of_isName (h : isName t = true) : ∀ p ∈ t, inName p = true := by
  cases t with
  | nil => simp [isName] at h
  | cons p t =>
    rw [isName, Bool.and_eq_true] at h
    intro q hq
    rcases List.mem_cons.1 hq with rfl | hq
    · exact Bool.or_eq_true_iff.2 (.inl h.1)
    · exact List.all_eq_true.1 h.2 q hq

theorem beginsName_ne {p : CodePoint} (h : beginsName p = true) : p ≠ .scalar '.' := by
  rintro rfl
  exact absurd h (by decide)

theorem inName_ne {p : CodePoint} (h : inName p = true) :
    p ≠ Path.slash ∧ p ≠ .hyphen := by
  constructor <;> rintro rfl <;> exact absurd h (by decide)

theorem exists_ascii_of_inName {p : CodePoint} (h : inName p = true) :
    ∃ c : Char, p = .scalar c ∧ c.toNat < 0x80 := by
  cases p with
  | surrogate n => simp [inName, beginsName] at h
  | scalar c =>
    refine ⟨c, rfl, ?_⟩
    simp only [inName, beginsName, Bool.or_eq_true, Bool.and_eq_true, decide_eq_true_eq,
      beq_iff_eq] at h
    rcases h with (((⟨-, h⟩ | ⟨-, h⟩) | rfl) | rfl) | ⟨-, h⟩
    · exact Nat.lt_of_le_of_lt (Char.le_def.1 h) (by decide)
    · exact Nat.lt_of_le_of_lt (Char.le_def.1 h) (by decide)
    · decide
    · decide
    · exact Nat.lt_of_le_of_lt (Char.le_def.1 h) (by decide)

theorem whole_of_inName (h : ∀ p ∈ t, inName p = true) : t.Whole := by
  intro p hp
  obtain ⟨c, rfl, -⟩ := exists_ascii_of_inName (h p hp)
  rfl

theorem whole_of_isName (h : isName t = true) : t.Whole := whole_of_inName (all_inName_of_isName h)

/-! ## Lower case -/

/-- What can begin a name or stand in it still can in lower case. -/
theorem inName_toLower {c : Char} (h : c.toNat < 0x80) :
    (beginsName (.scalar c) = true → beginsName (.scalar c.toLower) = true) ∧
      (inName (.scalar c) = true → inName (.scalar c.toLower) = true) :=
  Text.of_ascii (by decide) c h

theorem all_inName_lowerAfter (h : ∀ p ∈ t, inName p = true) (before : Text) :
    ∀ p ∈ Text.lowerAfter before t, inName p = true := by
  induction t generalizing before with
  | nil => exact fun _ hp => absurd hp List.not_mem_nil
  | cons p t ih =>
    rw [List.forall_mem_cons] at h
    obtain ⟨c, rfl, hascii⟩ := exists_ascii_of_inName h.1
    rw [Text.lowerAfter_cons_of_ascii hascii, List.forall_mem_cons]
    exact ⟨(inName_toLower hascii).2 h.1, ih h.2 _⟩

/-- A name in lower case is a name. -/
theorem isName_lower (h : isName t = true) : isName (Text.lower t) = true := by
  cases t with
  | nil => simp [isName] at h
  | cons p t =>
    have hall := all_inName_of_isName h
    rw [isName, Bool.and_eq_true] at h
    obtain ⟨c, rfl, hascii⟩ := exists_ascii_of_inName (hall p List.mem_cons_self)
    rw [Text.lower, Text.lowerAfter_cons_of_ascii hascii, isName, Bool.and_eq_true,
      List.all_eq_true]
    refine ⟨(inName_toLower hascii).1 h.1, all_inName_lowerAfter ?_ _⟩
    exact fun q hq => hall q (List.mem_cons_of_mem _ hq)

/-- A name in lower case is whole. -/
theorem whole_lower_of_isName (h : isName t = true) : (Text.lower t).Whole :=
  whole_of_isName (isName_lower h)

end ComponentConfig

end DashboardKit
