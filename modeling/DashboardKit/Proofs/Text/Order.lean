import DashboardKit.Text.CodePoint
import Mathlib.Data.List.Lex
import Mathlib.Data.List.Nodup

/-!
# The order of texts

Texts are compared like the lists of the numbers of their code points, so that their order is a
linear one, and sorting gives what it says.

Main statements: `atMost_iff` and `pairwise_mergeSort`.
-/

set_option autoImplicit false

namespace DashboardKit

/-- A code point is known by its number: no character has the number of a surrogate. -/
theorem CodePoint.value_injective : Function.Injective CodePoint.value := by
  have hother (c : Char) (n : Fin 0x800) : c.toNat ≠ 0xD800 + n.val := by
    intro h
    have hn := n.isLt
    rcases c.valid with hlow | ⟨hhigh, -⟩
    · have hlow : c.toNat < 0xD800 := hlow
      omega
    · have hhigh : 0xDFFF < c.toNat := hhigh
      omega
  intro p q h
  cases p with
  | scalar c =>
    cases q with
    | scalar d => exact congrArg scalar (Char.toNat_inj.1 h)
    | surrogate n => exact absurd h (hother c n)
  | surrogate n =>
    cases q with
    | scalar d => exact absurd h.symm (hother d n)
    | surrogate k => exact congrArg surrogate (Fin.ext (Nat.add_left_cancel h))

/-- Texts are ordered like the numbers of their code points. -/
theorem Text.before_iff {s t : Text} :
    before s t = true ↔ s.map CodePoint.value < t.map CodePoint.value := by
  induction s generalizing t with
  | nil => cases t <;> simp [before]
  | cons p s ih => cases t <;> simp [before, ih, List.cons_lt_cons_iff]

theorem Text.atMost_iff {s t : Text} :
    atMost s t = true ↔ s.map CodePoint.value ≤ t.map CodePoint.value := by
  rw [atMost, Bool.not_eq_true', ← Bool.not_eq_true, before_iff, not_lt]

namespace Text

variable {s t : Text} {l sorted : List Text}

theorem eq_of_atMost (hst : atMost s t = true) (hts : atMost t s = true) : s = t :=
  List.map_injective_iff.2 CodePoint.value_injective
    (le_antisymm (atMost_iff.1 hst) (atMost_iff.1 hts))

/-- Texts that are sorted come in their order. -/
theorem pairwise_mergeSort (l : List Text) :
    (l.mergeSort atMost).Pairwise fun a b => atMost a b = true := by
  refine List.pairwise_mergeSort (fun a b c hab hbc => ?_) (fun a b => ?_) l
  · exact atMost_iff.2 (le_trans (atMost_iff.1 hab) (atMost_iff.1 hbc))
  · rw [Bool.or_eq_true, atMost_iff, atMost_iff]
    exact le_total _ _

/-- Sorting gives the one list of the same texts that is in their order. -/
theorem mergeSort_eq (hperm : l.Perm sorted)
    (hsorted : sorted.Pairwise fun a b => atMost a b = true) : l.mergeSort atMost = sorted :=
  List.Perm.eq_of_pairwise (fun _ _ _ _ => eq_of_atMost) (pairwise_mergeSort l) hsorted
    ((List.mergeSort_perm l atMost).trans hperm)

end Text

end DashboardKit
