import DashboardKit.Text.Quoted
import DashboardKit.Text.Utf8

/-!
# Whole texts

A text is whole if it holds no lone surrogate.  These are the texts that can be encoded
(`exists_encode_iff`), and whatever is spelled with characters alone is one of them.
-/

set_option autoImplicit false

namespace DashboardKit

namespace Text

variable {s t : Text}

/-- No lone surrogate stands in a text. -/
def Whole (t : Text) : Prop := ∀ p ∈ t, p.isSurrogate = false

instance (t : Text) : Decidable t.Whole := inferInstanceAs (Decidable (∀ p ∈ t, _))

theorem whole_nil : Whole [] := fun _ hp => absurd hp List.not_mem_nil

theorem whole_cons {p : CodePoint} : Whole (p :: t) ↔ p.isSurrogate = false ∧ t.Whole :=
  List.forall_mem_cons

theorem whole_append : Whole (s ++ t) ↔ s.Whole ∧ t.Whole := List.forall_mem_append

/-- Characters make a whole text. -/
theorem whole_ofChars (cs : List Char) : Whole (ofChars cs) := by
  intro p hp
  obtain ⟨c, -, rfl⟩ := List.mem_map.1 hp
  rfl

theorem whole_ofString (s : String) : Whole (ofString s) := whole_ofChars s.toList

theorem whole_flatMap {f : CodePoint → Text} : Whole (t.flatMap f) ↔ ∀ p ∈ t, (f p).Whole := by
  induction t with
  | nil => exact ⟨fun _ _ hp => absurd hp List.not_mem_nil, fun _ => whole_nil⟩
  | cons p t ih => rw [List.flatMap_cons, whole_append, ih, List.forall_mem_cons]

theorem isSome_chars?_iff : (chars? t).isSome = true ↔ t.Whole := by
  induction t with
  | nil => exact ⟨fun _ => whole_nil, fun _ => rfl⟩
  | cons p t ih =>
    rw [chars?_cons, whole_cons, ← ih]
    cases p with
    | scalar c => simp [CodePoint.char?, CodePoint.isSurrogate]
    | surrogate n => simp [CodePoint.char?, CodePoint.isSurrogate]

/-- The texts that can be encoded are the whole ones. -/
theorem exists_encode_iff : (∃ octets, Utf8.encode t = .ok octets) ↔ t.Whole := by
  rw [← isSome_chars?_iff, Option.isSome_iff_exists]
  constructor
  · rintro ⟨octets, h⟩
    rw [Utf8.encode_eq_ok_iff, Utf8.encode?, Option.map_eq_some_iff] at h
    obtain ⟨cs, hcs, -⟩ := h
    exact ⟨cs, hcs⟩
  · rintro ⟨cs, hcs⟩
    refine ⟨Utf8.encodeChars cs, ?_⟩
    rw [Utf8.encode_eq_ok_iff, Utf8.encode?, hcs]
    rfl

/-- A quoted text spells lone surrogates with characters. -/
theorem whole_quoted (t : Text) : Whole (quoted t) := whole_ofChars _

end Text

end DashboardKit
