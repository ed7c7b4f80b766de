import DashboardKit.Proofs.Json.RoundTrip

/-!
# What documents are written with

Line breaks and printable ASCII is all that a document is written with, apart from code points past
ASCII that stand for themselves where these are not escaped: inside texts everything else is
escaped, and nothing outside of texts brings anything else in.

Main statement: `written_writeAt`.
-/

set_option autoImplicit false

namespace DashboardKit.Json

open Decimal

attribute [local irreducible] Decimal.exceedsLimit Decimal.digitLimit

variable {s : Style} {asciiOnly : Bool} {depth n : Nat} {v : Value} {t : Text}

/-! ## Printable characters -/

/-- A character from the blank to the tilde. -/
def IsPrintable (c : Char) : Prop := 0x20 ≤ c.toNat ∧ c.toNat < 0x7F

instance : DecidablePred IsPrintable := fun _ => inferInstanceAs (Decidable (_ ∧ _))

theorem isPrintable_of_isDigit {c : Char} (h : isDigit c = true) : IsPrintable c := by
  simp only [isDigit, Bool.and_eq_true, decide_eq_true_eq] at h
  have hlow : ('0' : Char).toNat ≤ c.toNat := h.1
  have hhigh : c.toNat ≤ ('9' : Char).toNat := h.2
  have hzero : ('0' : Char).toNat = 0x30 := rfl
  have hnine : ('9' : Char).toNat = 0x39 := rfl
  constructor <;> omega

theorem isPrintable_of_mem_hex (width : Nat) : ∀ c ∈ Text.hex width n, IsPrintable c := by
  have hall : ∀ n : Fin 16, IsPrintable (Text.hexDigit n.val) := by decide
  induction width generalizing n with
  | zero => exact fun c hc => absurd hc List.not_mem_nil
  | succ width ih =>
    rw [Text.hex, List.forall_mem_append, List.forall_mem_singleton]
    exact ⟨ih, hall ⟨n % 16, Nat.mod_lt n (by decide)⟩⟩

theorem isPrintable_of_mem_escaped : ∀ c ∈ escaped n, IsPrintable c := by
  have hescape (m : Nat) : ∀ c ∈ unicodeEscape m, IsPrintable c := by
    rw [unicodeEscape, List.forall_mem_cons, List.forall_mem_cons]
    exact ⟨by decide, by decide, isPrintable_of_mem_hex 4⟩
  unfold escaped
  split
  · exact hescape n
  · exact List.forall_mem_append.2 ⟨hescape _, hescape _⟩

theorem isPrintable_of_mem_spelled {n : Numeral} (h : n.WellFormed) :
    ∀ c ∈ n.spelled, IsPrintable c := by
  have hdigits {ds : List Char} (hds : ∀ c ∈ ds, isDigit c = true) : ∀ c ∈ ds, IsPrintable c :=
    fun c hc => isPrintable_of_isDigit (hds c hc)
  have hfraction : ∀ c ∈ n.fractionText, IsPrintable c := by
    unfold Numeral.fractionText
    split
    · exact List.forall_mem_nil _
    · exact List.forall_mem_cons.2 ⟨by decide, hdigits h.fraction⟩
  have hexponent : ∀ c ∈ n.exponentText, IsPrintable c := by
    unfold Numeral.exponentText
    split
    · exact List.forall_mem_nil _
    · rename_i negative ds heq
      have hsign : IsPrintable (if negative = true then '-' else '+') := by
        cases negative <;> decide
      exact List.forall_mem_cons.2
        ⟨by decide, List.forall_mem_cons.2 ⟨hsign, hdigits (h.exponent _ heq).2⟩⟩
  have hsign : ∀ c ∈ (if n.negative then ['-'] else []), IsPrintable c := by
    split <;> exact forall_mem_of_all (by decide)
  unfold Numeral.spelled
  rw [List.forall_mem_append, List.forall_mem_append, List.forall_mem_append]
  exact ⟨hsign, hdigits h.whole, hfraction, hexponent⟩

theorem isPrintable_of_mem_render (x : Binary64) :
    ∀ c ∈ FloatLayout.json.render x, IsPrintable c := by
  have hunsigned : ∀ c ∈ FloatLayout.json.unsigned x, IsPrintable c := by
    cases hinfinite : x.isInfinite with
    | true =>
      unfold FloatLayout.unsigned
      rw [if_pos hinfinite]
      exact forall_mem_of_all (by decide)
    | false =>
      obtain ⟨n, hwellFormed, -, -, hspelled⟩ := spellsFloat_unsigned .json hinfinite
      rw [hspelled]
      exact isPrintable_of_mem_spelled hwellFormed
  unfold FloatLayout.render
  split
  · exact forall_mem_of_all (by decide)
  split
  · exact List.forall_mem_cons.2 ⟨by decide, hunsigned⟩
  · exact hunsigned

/-! ## Code points -/

/-- A code point that a document may be written with. -/
def Written (asciiOnly : Bool) (p : CodePoint) : Prop :=
  p = .scalar '\n' ∨ 0x20 ≤ p.value ∧ p.value < 0x7F ∨ asciiOnly = false ∧ 0x7F ≤ p.value

instance (asciiOnly : Bool) : DecidablePred (Written asciiOnly) :=
  fun p => inferInstanceAs (Decidable (p = .scalar '\n' ∨ _))

theorem written_scalar {c : Char} (h : IsPrintable c) : Written asciiOnly (.scalar c) :=
  .inr (.inl h)

theorem written_ofChars {cs : List Char} (h : ∀ c ∈ cs, IsPrintable c) :
    ∀ p ∈ Text.ofChars cs, Written asciiOnly p := by
  intro p hp
  obtain ⟨c, hc, rfl⟩ := List.mem_map.1 hp
  exact written_scalar (h c hc)

theorem written_writePoint (asciiOnly : Bool) (p : CodePoint) :
    ∀ q ∈ writePoint asciiOnly p, Written asciiOnly q := by
  unfold writePoint
  split
  · rename_i c hshort
    have hc : IsPrintable c := by
      simp only [shortEscape?] at hshort
      split_ifs at hshort <;> cases hshort <;> decide
    exact List.forall_mem_cons.2
      ⟨written_scalar (by decide), List.forall_mem_singleton.2 (written_scalar hc)⟩
  · dsimp only
    split
    · exact written_ofChars isPrintable_of_mem_escaped
    · rename_i hplain
      rw [not_or, not_and, Nat.not_lt] at hplain
      refine List.forall_mem_singleton.2 (.inr ?_)
      cases asciiOnly with
      | true => exact .inl ⟨hplain.1, Nat.not_le.1 (hplain.2 rfl)⟩
      | false =>
        rcases Nat.lt_or_ge p.value 0x7F with hlow | hhigh
        · exact .inl ⟨hplain.1, hlow⟩
        · exact .inr ⟨rfl, hhigh⟩

theorem written_writeText (asciiOnly : Bool) (t : Text) :
    ∀ q ∈ writeText asciiOnly t, Written asciiOnly q := by
  have hquote : Written asciiOnly ('"' : CodePoint) := written_scalar (by decide)
  rw [writeText, List.forall_mem_cons, List.forall_mem_append, List.forall_mem_singleton]
  refine ⟨hquote, fun q hq => ?_, hquote⟩
  obtain ⟨p, -, hp⟩ := List.mem_flatMap.1 hq
  exact written_writePoint asciiOnly p q hp

/-! ## Values -/

theorem written_writeInt {n : Int} (h : writeInt n = .ok t) : ∀ p ∈ t, Written asciiOnly p := by
  have hn : exceedsLimit n = false := exists_writeInt_iff.1 ⟨t, h⟩
  rw [writeInt_eq_ok hn h, ← Numeral.spelled_ofInt]
  exact written_ofChars (isPrintable_of_mem_spelled (Numeral.wellFormed_ofInt n))

theorem written_writeAtom {a : Atom} (h : writeAtom asciiOnly a = .ok t) :
    ∀ p ∈ t, Written asciiOnly p := by
  cases a with
  | null =>
    cases h
    exact written_ofChars (forall_mem_of_all (by decide))
  | bool b =>
    cases h
    cases b <;> exact written_ofChars (forall_mem_of_all (by decide))
  | int n => exact written_writeInt h
  | float x =>
    cases h
    exact written_ofChars (isPrintable_of_mem_render x)
  | text k =>
    cases h
    exact written_writeText asciiOnly k
  | date d => cases h
  | moment m => cases h
  | bytes b => cases h

/-- A value is written with line breaks, printable ASCII and, where they are not escaped, code
points past ASCII. -/
theorem written_writeAt (h : writeAt s depth v = .ok t) : ∀ p ∈ t, Written s.asciiOnly p := by
  have hlayout : ∀ p ∈ layoutPoints, Written s.asciiOnly p := by
    cases s.asciiOnly <;> decide
  induction v using Value.byParts generalizing depth t with
  | atom a => exact written_writeAtom h
  | list items ih =>
    rw [writeAt, map_eq_ok] at h
    obtain ⟨parts, hparts, rfl⟩ := h
    rw [writeItems_eq_mapM] at hparts
    refine (forall_mem_enclosed hlayout (by decide) (by decide)).2 fun t ht => ?_
    obtain ⟨v, hv, hwrite⟩ := exists_mem_of_mapM_eq_ok hparts t ht
    exact ih v hv hwrite
  | map entries ih =>
    rw [writeAt, map_eq_ok] at h
    obtain ⟨parts, hparts, rfl⟩ := h
    rw [writeEntries_eq_mapM] at hparts
    refine (forall_mem_enclosed hlayout (by decide) (by decide)).2 fun t ht => ?_
    obtain ⟨e, he, hwrite⟩ := exists_mem_of_mapM_eq_ok hparts t ht
    obtain ⟨key, value, -, hvalue, rfl⟩ := writeEntry_eq_ok.1 hwrite
    have hcolon : ∀ p ∈ (": " : Text), Written s.asciiOnly p :=
      written_ofChars (forall_mem_of_all (by decide))
    rw [List.forall_mem_append, List.forall_mem_append]
    exact ⟨⟨written_writeText _ key, hcolon⟩, ih e he hvalue⟩
  | set members => cases h
  | cycle => cases h

end DashboardKit.Json
