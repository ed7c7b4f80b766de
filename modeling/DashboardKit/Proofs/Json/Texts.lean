import DashboardKit.Json.Reader
import DashboardKit.Proofs.Json.Writable
import Mathlib.Data.List.Chain

/-!
# Quoted texts read back

A text that was written in quotes is read as it was, with two exceptions: a lone surrogate that is
not escaped does not get into a file, and two halves of a pair that stand next to each other are
read as one character.  A text without these is `Legible`.

Main statement: `readText_writeText`.
-/

set_option autoImplicit false

namespace DashboardKit

/-! ## Characters of a text -/

namespace Text

variable {s t : Text}

/-- The characters of a text; lone surrogates are left out. -/
def scalars (t : Text) : List Char := t.filterMap CodePoint.char?

@[simp] theorem scalars_nil : scalars [] = [] := rfl

@[simp] theorem scalars_cons_scalar (c : Char) (t : Text) :
    scalars (.scalar c :: t) = c :: scalars t := rfl

@[simp] theorem scalars_append (s t : Text) : scalars (s ++ t) = scalars s ++ scalars t :=
  List.filterMap_append

@[simp] theorem scalars_ofChars (cs : List Char) : scalars (ofChars cs) = cs := by
  induction cs with
  | nil => rfl
  | cons c cs ih => exact congrArg (c :: ·) ih

/-- No first half of a surrogate pair stands in front of a second half. -/
def Unsplit (t : Text) : Prop :=
  t.IsChain fun p q => Json.isHighSurrogate p.value = true → Json.isLowSurrogate q.value = false

/-- A text that is read as it was written. -/
structure Legible (asciiOnly : Bool) (t : Text) : Prop where
  unsplit : t.Unsplit
  /-- surrogates have to be escaped -/
  whole : asciiOnly = false → t.Whole

theorem isHighSurrogate_scalar (c : Char) :
    Json.isHighSurrogate (CodePoint.scalar c).value = false := by
  have hchar : c.toNat < 0xD800 ∨ 0xDFFF < c.toNat ∧ c.toNat < 0x110000 := c.valid
  rw [CodePoint.value, ← Bool.not_eq_true]
  intro h
  simp only [Json.isHighSurrogate, Bool.and_eq_true, decide_eq_true_eq] at h
  omega

/-- A whole text is legible. -/
theorem Whole.legible (h : t.Whole) (asciiOnly : Bool) : t.Legible asciiOnly := by
  refine ⟨?_, fun _ => h⟩
  induction t with
  | nil => exact .nil
  | cons p t ih =>
    rw [whole_cons] at h
    refine List.isChain_cons.2 ⟨fun q _ hhigh => ?_, ih h.2⟩
    cases p with
    | scalar c =>
      rw [isHighSurrogate_scalar] at hhigh
      cases hhigh
    | surrogate n => cases h.1

end Text

theorem CodePoint.ofNat_value (p : CodePoint) : CodePoint.ofNat p.value = p := by
  cases p with
  | scalar c =>
    have hchar : c.toNat < 0xD800 ∨ 0xDFFF < c.toNat ∧ c.toNat < 0x110000 := c.valid
    rw [value, ofNat, dif_neg (by omega), Char.ofNat_toNat]
  | surrogate n =>
    have hn := n.isLt
    have hrange : 0xD800 ≤ 0xD800 + n.val ∧ 0xD800 + n.val < 0xE000 := by omega
    show ofNat (0xD800 + n.val) = _
    rw [ofNat, dif_pos hrange, surrogate.injEq, Fin.ext_iff]
    exact Nat.add_sub_cancel_left ..

namespace Json

variable {asciiOnly : Bool} {p : CodePoint} {t : Text} {n : Nat} {cs rest : List Char}

/-! ## Hexadecimal digits -/

theorem hexValue?_hexDigit (h : n < 16) : hexValue? (Text.hexDigit n) = some n := by
  have hall : ∀ n : Fin 16, hexValue? (Text.hexDigit n.val) = some n.val := by decide
  exact hall ⟨n, h⟩

/-- Four digits that were written are read as the number. -/
theorem exists_hex_four (h : n < 0x10000) :
    ∃ a b c d, Text.hex 4 n = [a, b, c, d] ∧ hexQuad? a b c d = some n := by
  refine ⟨_, _, _, _, rfl, ?_⟩
  have hdigit (m : Nat) : hexValue? (Text.hexDigit (m % 16)) = some (m % 16) :=
    hexValue?_hexDigit (Nat.mod_lt m (by decide))
  simp only [hexQuad?, hdigit]
  congr 1
  omega

/-! ## Escapes -/

/-- What comes next is no second half of a surrogate pair; if it is escaped with four digits, these
can be read. -/
def BeginsNoLow (cs : List Char) : Prop :=
  ∀ a b c d rest, cs = '\\' :: 'u' :: a :: b :: c :: d :: rest →
    ∃ m, hexQuad? a b c d = some m ∧ isLowSurrogate m = false

/-- A number that was escaped is read as its code point, unless it is one half of a pair. -/
theorem readUnicode_hex (h : n < 0x10000) (hcs : cs ≠ [])
    (hnext : isHighSurrogate n = true → BeginsNoLow cs) :
    readUnicode (Text.hex 4 n ++ cs) = .ok (CodePoint.ofNat n, cs) := by
  obtain ⟨a, b, c, d, hhex, hquad⟩ := exists_hex_four h
  obtain ⟨e, cs, rfl⟩ := List.exists_cons_of_ne_nil hcs
  rw [hhex]
  simp only [List.cons_append, List.nil_append, readUnicode, hquad]
  split
  · rename_i a' b' c' d' e' rest' heq
    split
    · rename_i hhigh
      obtain ⟨m, hm, hlow⟩ := hnext hhigh a' b' c' d' (e' :: rest') heq
      simp [hm, hlow]
    · rfl
  · rfl

/-- A pair of surrogates that was escaped is read as the code point that it stands for. -/
theorem readUnicode_pair {high low : Nat} (hhigh : isHighSurrogate high = true)
    (hlow : isLowSurrogate low = true) (hcs : cs ≠ []) :
    readUnicode (Text.hex 4 high ++ (unicodeEscape low ++ cs))
      = .ok (CodePoint.ofNat (joinSurrogates high low), cs) := by
  have hhigh' : high < 0x10000 := by
    simp only [isHighSurrogate, Bool.and_eq_true, decide_eq_true_eq] at hhigh
    omega
  have hlow' : low < 0x10000 := by
    simp only [isLowSurrogate, Bool.and_eq_true, decide_eq_true_eq] at hlow
    omega
  obtain ⟨a, b, c, d, hhex, hquad⟩ := exists_hex_four hhigh'
  obtain ⟨a', b', c', d', hhex', hquad'⟩ := exists_hex_four hlow'
  obtain ⟨e, cs, rfl⟩ := List.exists_cons_of_ne_nil hcs
  rw [unicodeEscape, hhex, hhex']
  simp [readUnicode, hquad, hquad', hhigh, hlow]

theorem shortEscape?_eq_some {c : Char} (h : shortEscape? p = some c) :
    c ≠ 'u' ∧ ∃ d, p = .scalar d ∧ shortEscaped? c = some d := by
  unfold shortEscape? at h
  split_ifs at h with h₁ h₂ h₃ h₄ h₅ h₆ h₇ <;> cases h <;>
    exact ⟨by decide, _, by assumption, rfl⟩

theorem shortEscape?_eq_none (h : shortEscape? p = none) :
    p ≠ .scalar '"' ∧ p ≠ .scalar '\\' := by
  constructor <;> (rintro rfl; cases h)

/-- A code point that is not escaped is a character. -/
theorem exists_scalar_of_plain (hwhole : asciiOnly = false → p.isSurrogate = false)
    (hplain : ¬ (p.value < 0x20 ∨ (asciiOnly = true ∧ 0x7F ≤ p.value))) :
    ∃ c, p = .scalar c := by
  cases p with
  | scalar c => exact ⟨c, rfl⟩
  | surrogate n =>
    have hvalue : 0xD800 ≤ (CodePoint.surrogate n).value := Nat.le_add_right _ _
    have hascii : asciiOnly = true := by
      rw [← Bool.not_eq_false]
      intro hascii
      cases hwhole hascii
    exact absurd (.inr ⟨hascii, by omega⟩) hplain

/-! ## Code points -/

theorem readText_short {opening fuel : Nat} {c d : Char} (hc : c ≠ 'u')
    (hescaped : shortEscaped? c = some d) (h : readText opening fuel cs = .ok (t, rest)) :
    readText opening (fuel + 1) ('\\' :: c :: cs) = .ok (.scalar d :: t, rest) := by
  simp [readText, hescaped, h]

theorem readText_unicode {opening fuel : Nat} {cs' : List Char}
    (hread : readUnicode cs' = .ok (p, cs)) (h : readText opening fuel cs = .ok (t, rest)) :
    readText opening (fuel + 1) ('\\' :: 'u' :: cs') = .ok (p :: t, rest) := by
  simp [readText, hread, h]

theorem readText_plain {opening fuel : Nat} {c : Char} (hquote : c ≠ '"') (hslash : c ≠ '\\')
    (hcontrol : 0x20 ≤ c.toNat) (h : readText opening fuel cs = .ok (t, rest)) :
    readText opening (fuel + 1) (c :: cs) = .ok (.scalar c :: t, rest) := by
  have hlt : ¬ c.toNat < 0x20 := Nat.not_lt.2 hcontrol
  simp [readText, hslash, hlt, h]

/-- The two halves of a pair that a code point past U+FFFF is escaped with. -/
theorem halves (hleast : 0x10000 ≤ n) (h : n < 0x110000) :
    isHighSurrogate (0xD800 + (n - 0x10000) / 0x400) = true ∧
      isLowSurrogate (0xDC00 + (n - 0x10000) % 0x400) = true ∧
      joinSurrogates (0xD800 + (n - 0x10000) / 0x400) (0xDC00 + (n - 0x10000) % 0x400) = n := by
  have hhigh : (n - 0x10000) / 0x400 < 0x400 := by omega
  have hlow : (n - 0x10000) % 0x400 < 0x400 := Nat.mod_lt _ (by decide)
  have hparts := Nat.div_add_mod (n - 0x10000) 0x400
  generalize (n - 0x10000) / 0x400 = high at *
  generalize (n - 0x10000) % 0x400 = low at *
  refine ⟨?_, ?_, ?_⟩
  · rw [isHighSurrogate, Bool.and_eq_true, decide_eq_true_eq, decide_eq_true_eq]
    omega
  · rw [isLowSurrogate, Bool.and_eq_true, decide_eq_true_eq, decide_eq_true_eq]
    omega
  · unfold joinSurrogates
    omega

theorem value_lt (p : CodePoint) : p.value < 0x110000 := by
  cases p with
  | scalar c =>
    have hchar : c.toNat < 0xD800 ∨ 0xDFFF < c.toNat ∧ c.toNat < 0x110000 := c.valid
    rw [CodePoint.value]
    omega
  | surrogate n =>
    have hn := n.isLt
    rw [CodePoint.value]
    omega

/-- A code point that was escaped is read, and then what follows it. -/
theorem readText_escaped {opening fuel : Nat} (hcs : cs ≠ [])
    (hnext : isHighSurrogate p.value = true → BeginsNoLow cs)
    (h : readText opening fuel cs = .ok (t, rest)) :
    readText opening (fuel + 1) (escaped p.value ++ cs) = .ok (p :: t, rest) := by
  unfold escaped
  split
  · rename_i hsmall
    rw [unicodeEscape, List.cons_append, List.cons_append]
    refine readText_unicode ?_ h
    rw [readUnicode_hex hsmall hcs hnext, CodePoint.ofNat_value]
  · rename_i hlarge
    obtain ⟨hhigh, hlow, hjoin⟩ := halves (Nat.not_lt.1 hlarge) (value_lt p)
    rw [List.append_assoc, unicodeEscape, List.cons_append, List.cons_append]
    refine readText_unicode ?_ h
    rw [readUnicode_pair hhigh hlow hcs, hjoin, CodePoint.ofNat_value]

/-- A code point that was written is read, and then what follows it. -/
theorem readText_writePoint {opening fuel : Nat}
    (hwhole : asciiOnly = false → p.isSurrogate = false)
    (hcs : cs ≠ []) (hnext : isHighSurrogate p.value = true → BeginsNoLow cs)
    (h : readText opening fuel cs = .ok (t, rest)) :
    readText opening (fuel + 1) (Text.scalars (writePoint asciiOnly p) ++ cs)
      = .ok (p :: t, rest) := by
  unfold writePoint
  split
  · rename_i c hshort
    obtain ⟨hc, d, rfl, hescaped⟩ := shortEscape?_eq_some hshort
    exact readText_short hc hescaped h
  · rename_i hshort
    dsimp only
    split
    · rw [Text.scalars_ofChars]
      exact readText_escaped hcs hnext h
    · rename_i hplain
      obtain ⟨c, rfl⟩ := exists_scalar_of_plain hwhole hplain
      obtain ⟨hquote, hslash⟩ := shortEscape?_eq_none hshort
      rw [not_or] at hplain
      refine readText_plain ?_ ?_ (Nat.not_lt.1 hplain.1) h
      · rintro rfl
        exact hquote rfl
      · rintro rfl
        exact hslash rfl

/-! ## Texts -/

/-- What a code point that is no second half of a pair is written as does not begin with one. -/
theorem beginsNoLow_writePoint (hwhole : asciiOnly = false → p.isSurrogate = false)
    (hlow : isLowSurrogate p.value = false) (cs : List Char) :
    BeginsNoLow (Text.scalars (writePoint asciiOnly p) ++ cs) := by
  intro a b c d rest heq
  have hescape {m : Nat} {cs : List Char} (hm : m < 0x10000)
      (heq : unicodeEscape m ++ cs = '\\' :: 'u' :: a :: b :: c :: d :: rest) :
      hexQuad? a b c d = some m := by
    obtain ⟨a', b', c', d', hhex, hquad⟩ := exists_hex_four hm
    rw [unicodeEscape, hhex] at heq
    cases heq
    exact hquad
  unfold writePoint at heq
  split at heq
  · rename_i e hshort
    cases heq
    exact absurd rfl (shortEscape?_eq_some hshort).1
  · rename_i hshort
    dsimp only at heq
    split at heq
    · rw [Text.scalars_ofChars, escaped] at heq
      split at heq
      · rename_i hsmall
        exact ⟨_, hescape hsmall heq, hlow⟩
      · rename_i hlarge
        -- the first half of a pair is no second one
        have hhalf : (p.value - 0x10000) / 0x400 < 0x400 := by
          have hlt := value_lt p
          omega
        rw [List.append_assoc] at heq
        refine ⟨_, hescape (by omega) heq, ?_⟩
        rw [← Bool.not_eq_true, isLowSurrogate, Bool.and_eq_true, decide_eq_true_eq]
        omega
    · rename_i hplain
      obtain ⟨e, rfl⟩ := exists_scalar_of_plain hwhole hplain
      cases heq
      exact absurd rfl (shortEscape?_eq_none hshort).2

theorem length_writePoint_pos (hwhole : asciiOnly = false → p.isSurrogate = false) :
    0 < (Text.scalars (writePoint asciiOnly p)).length := by
  unfold writePoint
  split
  · exact Nat.zero_lt_succ _
  · dsimp only
    split
    · rw [Text.scalars_ofChars, escaped]
      split <;> exact Nat.zero_lt_succ _
    · rename_i hplain
      obtain ⟨c, rfl⟩ := exists_scalar_of_plain hwhole hplain
      exact Nat.zero_lt_one

/-- What a text is spelled with between its quotes is read, up to the closing one. -/
theorem readText_spelled {opening fuel : Nat} (hlegible : t.Legible asciiOnly)
    (hfuel : (Text.scalars (t.flatMap (writePoint asciiOnly))).length < fuel) :
    readText opening fuel (Text.scalars (t.flatMap (writePoint asciiOnly)) ++ '"' :: rest)
      = .ok (t, rest) := by
  induction t generalizing fuel with
  | nil =>
    obtain ⟨fuel, rfl⟩ := Nat.exists_eq_add_of_lt hfuel
    simp [readText]
  | cons p t ih =>
    have hp : asciiOnly = false → p.isSurrogate = false :=
      fun hascii => (Text.whole_cons.1 (hlegible.whole hascii)).1
    have hpositive := length_writePoint_pos hp
    obtain ⟨hchain, hunsplit⟩ := List.isChain_cons.1 hlegible.unsplit
    have ht : Text.Legible asciiOnly t :=
      ⟨hunsplit, fun hascii => (Text.whole_cons.1 (hlegible.whole hascii)).2⟩
    rw [List.flatMap_cons, Text.scalars_append, List.length_append] at hfuel
    rw [List.flatMap_cons, Text.scalars_append, List.append_assoc]
    obtain ⟨fuel, rfl⟩ : ∃ n, fuel = n + 1 := ⟨fuel - 1, by omega⟩
    refine readText_writePoint hp (List.append_ne_nil_of_right_ne_nil _ (List.cons_ne_nil _ _)) ?_
      (ih ht (by omega))
    intro hhigh
    cases t with
    | nil => exact nofun
    | cons q t =>
      have hq : asciiOnly = false → q.isSurrogate = false :=
        fun hascii => (Text.whole_cons.1 (ht.whole hascii)).1
      rw [List.flatMap_cons, Text.scalars_append, List.append_assoc]
      exact beginsNoLow_writePoint hq (hchain q rfl hhigh) _

/-- A text that was written in quotes is read back, behind its opening quote. -/
theorem readText_writeText (hlegible : t.Legible asciiOnly) :
    ∃ cs, Text.scalars (writeText asciiOnly t) = '"' :: cs ∧
      ∀ opening fuel rest, cs.length ≤ fuel →
        readText opening fuel (cs ++ rest) = .ok (t, rest) := by
  have hquoted : Text.scalars (writeText asciiOnly t)
      = '"' :: (Text.scalars (t.flatMap (writePoint asciiOnly)) ++ ['"']) := by
    rw [writeText, Text.scalars_cons_scalar, Text.scalars_append]
    rfl
  refine ⟨_, hquoted, fun opening fuel rest hfuel => ?_⟩
  rw [List.length_append, List.length_singleton] at hfuel
  rw [List.append_assoc]
  exact readText_spelled hlegible (by omega)

end Json

end DashboardKit
