import DashboardKit.Proofs.Text.Encoding
import DashboardKit.Proofs.Text.Whole
import DashboardKit.Text.FileName

/-!
# How names of files are spelled

A whole name is spelled as it is, and so is a whole text in front of any name: escapes behind it
spell no part of it.  A name and its spelling have the same octets.

Main statements: `spelled_append`, `octets_spelled` and `firstFault_eq_none_iff`.
-/

set_option autoImplicit false

namespace DashboardKit

/-- A name can hold a text: its only surrogates are escapes. -/
def Text.Nameable (t : Text) : Prop := ∀ p ∈ t, p.isSurrogate = true → p.escaped?.isSome = true

instance (t : Text) : Decidable t.Nameable := inferInstanceAs (Decidable (∀ p ∈ t, _))

namespace FileName

variable {a t : Text}

theorem escaped?_of_not_surrogate {p : CodePoint} (h : p.isSurrogate = false) :
    p.escaped? = none := by
  cases p with
  | scalar c => rfl
  | surrogate n => cases h

theorem any_escaped_of_whole (h : t.Whole) : (t.any fun p => p.escaped?.isSome) = false := by
  rw [List.any_eq_false]
  intro p hp
  rw [escaped?_of_not_surrogate (h p hp)]
  nofun

/-- A whole name is spelled as it is. -/
theorem spelled_of_whole (h : t.Whole) : spelled t = t := by
  rw [spelled, any_escaped_of_whole h]
  rfl

/-- The octets of a character are read as this character, whatever follows. -/
theorem ofOctets_encodeChar_append (c : Char) (rest : Utf8.Octets) :
    ofOctets (Utf8.encodeChar c ++ rest) = .scalar c :: ofOctets rest := by
  obtain ⟨b, tail, hencode, hdecode⟩ := Utf8.decodeChar_encodeChar c rest
  rw [hencode, List.cons_append, ofOctets]
  split
  · rename_i n rest' hchar
    obtain ⟨rfl, rfl⟩ : c.toNat = n ∧ rest = rest' := by simpa [hdecode] using hchar
    rw [Char.ofNat_toNat]
  · rename_i fault hchar
    simp [hdecode] at hchar

theorem ofOctets_octets_append (h : a.Whole) (rest : Utf8.Octets) :
    ofOctets (octets a ++ rest) = a ++ ofOctets rest := by
  induction a with
  | nil => rfl
  | cons p a ih =>
    rw [Text.whole_cons] at h
    cases p with
    | surrogate n => cases h.1
    | scalar c =>
      have hpoint : octets (.scalar c :: a) = Utf8.encodeChar c ++ octets a := rfl
      rw [hpoint, List.append_assoc, ofOctets_encodeChar_append, ih h.2]
      rfl

/-- A whole text in front of a name is spelled as it is. -/
theorem spelled_append (h : a.Whole) (t : Text) : spelled (a ++ t) = a ++ spelled t := by
  rw [spelled, spelled, List.any_append, any_escaped_of_whole h, Bool.false_or]
  split
  · rw [octets, List.flatMap_append]
    exact ofOctets_octets_append h _
  · rfl

theorem octets_escape {b : UInt8} (h : 0x80 ≤ b.toNat) : pointOctets (escape b) = [b] := by
  have hall : ∀ n : Fin 0x80, pointOctets (escape (0x80 + n.val).toUInt8)
      = [(0x80 + n.val).toUInt8] := by decide
  have hb : (0x80 + (b.toNat - 0x80)).toUInt8 = b := by
    rw [Nat.add_sub_cancel' h]
    exact UInt8.ofNat_toNat
  have hbound := b.toNat_lt
  have hpoint := hall ⟨b.toNat - 0x80, by omega⟩
  rwa [hb] at hpoint

/-- Octets are those of the text that is read from them. -/
theorem octets_ofOctets (o : Utf8.Octets) : octets (ofOctets o) = o := by
  fun_induction ofOctets o with
  | case1 => rfl
  | case2 b o n rest hchar ih =>
    have hpoint : octets (.scalar (Char.ofNat n) :: ofOctets rest)
        = Utf8.encodeChar (Char.ofNat n) ++ octets (ofOctets rest) := rfl
    rw [hpoint, ih, Utf8.encodeChar_of_decodeChar hchar]
  | case3 b o fault hchar ih =>
    -- octets below are characters by themselves
    have hb : 0x80 ≤ b.toNat := by
      refine Nat.le_of_not_lt fun hsmall => ?_
      have hlead := Utf8.lead?_one hsmall
      rw [Nat.toUInt8, UInt8.ofNat_toNat] at hlead
      rw [Utf8.decodeChar, hlead] at hchar
      cases hchar
    have hpoint : octets (escape b :: ofOctets o) = pointOctets (escape b) ++ octets (ofOctets o) :=
      rfl
    rw [hpoint, ih, octets_escape hb]
    rfl

/-- A name and its spelling have the same octets. -/
theorem octets_spelled (t : Text) : octets (spelled t) = octets t := by
  unfold spelled
  split
  · exact octets_ofOctets _
  · rfl

theorem firstFault_eq_none_iff (position : Nat) : firstFault position t = none ↔ t.Nameable := by
  induction t generalizing position with
  | nil => exact ⟨fun _ p hp => absurd hp List.not_mem_nil, fun _ => rfl⟩
  | cons p t ih =>
    rw [firstFault, Text.Nameable, List.forall_mem_cons]
    split
    · rename_i hfault
      simp only [Bool.and_eq_true, Option.isNone_iff_eq_none] at hfault
      refine iff_of_false nofun fun hname => ?_
      have hescape := hname.1 hfault.1
      rw [hfault.2] at hescape
      cases hescape
    · rename_i hfault
      rw [ih (position + 1)]
      refine (and_iff_right fun hsurrogate => ?_).symm
      simpa [hsurrogate, Option.isSome_iff_ne_none] using hfault

end FileName

end DashboardKit
