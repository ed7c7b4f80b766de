import DashboardKit.Text.Search
import Mathlib.Data.List.Basic

/-!
# How texts begin

Texts that begin with different words begin with different texts, and trimming leaves what a text
begins with, if blanks neither begin nor end that.

Main statements: `not_prefix_of_take_ne` and `prefix_trim`.
-/

set_option autoImplicit false

namespace DashboardKit.Text

variable {drop : CodePoint → Bool} {word front rest t : Text}

/-- A text does not begin with a word if it begins with another, and the two differ in their first
code points. -/
theorem not_prefix_of_take_ne (n : Nat) (hfront : front <+: t) (hword : n ≤ word.length)
    (hlong : n ≤ front.length) (hne : word.take n ≠ front.take n) : ¬ word <+: t := by
  rintro ⟨behind, rfl⟩
  obtain ⟨rest, hrest⟩ := hfront
  have hbegins : (word ++ behind).take n = word.take n := List.take_append_of_le_length hword
  rw [← hrest, List.take_append_of_le_length hlong] at hbegins
  exact hne hbegins.symm

/-- What precedes trailing blanks is kept up to the last code point that is none. -/
theorem prefix_trimEnd {p : CodePoint} (h : drop p = false) :
    front ++ [p] <+: trimEnd drop (front ++ [p] ++ rest) := by
  have hkept : (p :: front.reverse).dropWhile drop = p :: front.reverse := by
    rw [List.dropWhile_cons_of_neg (by simp [h])]
  rw [trimEnd, List.reverse_append, List.reverse_append, List.reverse_singleton,
    List.singleton_append, List.dropWhile_append, hkept]
  split
  · simp
  · simp

/-- Trimming leaves what a text begins with, if that begins and ends with no blanks. -/
theorem prefix_trim (hne : front ≠ []) (hstart : drop (front.head hne) = false)
    (hend : drop (front.getLast hne) = false) : front <+: trim drop (front ++ rest) := by
  have hkept : trimStart drop (front ++ rest) = front ++ rest := by
    obtain ⟨p, front, rfl⟩ := List.exists_cons_of_ne_nil hne
    exact List.dropWhile_cons_of_neg (by simpa using hstart)
  rw [trim, hkept]
  have hbegins : front.dropLast ++ [front.getLast hne]
      <+: trimEnd drop (front.dropLast ++ [front.getLast hne] ++ rest) := prefix_trimEnd hend
  rwa [List.dropLast_append_getLast] at hbegins

end DashboardKit.Text
