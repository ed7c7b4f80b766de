import DashboardKit.Json.Reader
import DashboardKit.Json.Writer
import Mathlib.Algebra.Group.Nat.Defs
import Mathlib.Tactic.SplitIfs

/-!
# Numbers read back

A number that was written is read as the same number if it is an integer, and as some floating-point
number if it is one: its text has a fraction or an exponent, or is a name of its own.

Main statements: `readWord_intDigits` and `readWord_render`.
-/

set_option autoImplicit false

namespace DashboardKit

/-! ## Digits -/

namespace Decimal

theorem isDigit_of_mem_digits {n : Nat} {c : Char} (h : c ∈ digits n) : isDigit c = true :=
  List.all_eq_true.1 (all_isDigit_digits n) c h

/-- The digits of a positive number do not begin with a zero. -/
theorem head?_digits {n : Nat} (h : n ≠ 0) : (digits n).head? ≠ some '0' := by
  induction n using Nat.strongRecOn with
  | ind n ih =>
    by_cases hlt : n < 10
    · have hall : ∀ n : Fin 10, n.val ≠ 0 → digitChar n.val ≠ '0' := by decide
      rw [digits_of_lt hlt, List.head?_cons]
      exact fun hzero => hall ⟨n, hlt⟩ h (Option.some.inj hzero)
    · have hrest := ih (n / 10) (by omega) (by omega)
      obtain ⟨d, ds, hds⟩ := List.exists_cons_of_ne_nil (digits_ne_nil (n / 10))
      rw [hds] at hrest
      rw [digits_of_ge (Nat.not_lt.1 hlt), hds]
      exact hrest

theorem length_digits_le {n k : Nat} (h : n < 10 ^ k) (hk : 0 < k) : (digits n).length ≤ k := by
  induction k generalizing n with
  | zero => cases hk
  | succ k ih =>
    by_cases hlt : n < 10
    · rw [digits_of_lt hlt]
      exact hk
    · rw [Nat.pow_succ] at h
      have hk' : 0 < k := by
        rcases Nat.eq_zero_or_pos k with rfl | hk'
        · omega
        · exact hk'
      rw [digits_of_ge (Nat.not_lt.1 hlt), List.length_append]
      exact Nat.succ_le_succ (ih (by omega) hk')

/-- A number that may be written has no more digits than that. -/
theorem length_digits_le_limit {n : Int} (h : exceedsLimit n = false) :
    (digits n.natAbs).length ≤ digitLimit := by
  have hpositive : 0 < digitLimit := Nat.succ_pos 4299
  unfold exceedsLimit at h
  -- the limit is a number too large to be raised to
  generalize digitLimit = limit at h hpositive ⊢
  exact length_digits_le (Nat.not_le.1 (of_decide_eq_false h)) hpositive

end Decimal

attribute [local irreducible] Decimal.exceedsLimit Decimal.digitLimit

namespace Json

open Decimal

variable {cs rest : List Char}

/-- What is true of each of some characters, one after the other, is true of all of them. -/
theorem forall_mem_of_all {l : List Char} {P : Char → Prop} [DecidablePred P]
    (h : l.all (fun c => decide (P c)) = true) : ∀ c ∈ l, P c :=
  fun c hc => of_decide_eq_true (List.all_eq_true.1 h c hc)

/-! ## Numerals -/

/-- The parts of a number as it is written. -/
structure Numeral where
  negative : Bool
  whole : List Char
  fraction : List Char
  /-- whether the exponent is negative, and its digits -/
  exponent : Option (Bool × List Char)

namespace Numeral

/-- A point and the digits behind it, if there are any. -/
def fractionText (n : Numeral) : List Char := if n.fraction = [] then [] else '.' :: n.fraction

/-- The exponent with its letter and sign, if there is one. -/
def exponentText (n : Numeral) : List Char :=
  match n.exponent with
  | none => []
  | some (negative, ds) => 'e' :: (if negative then '-' else '+') :: ds

/-- A number as it is written. -/
def spelled (n : Numeral) : List Char :=
  (if n.negative then ['-'] else []) ++ (n.whole ++ (n.fractionText ++ n.exponentText))

/-- The parts are digits, and no zero is in front of others. -/
structure WellFormed (n : Numeral) : Prop where
  whole : ∀ c ∈ n.whole, isDigit c = true
  whole_ne_nil : n.whole ≠ []
  leading : n.whole = ['0'] ∨ n.whole.head? ≠ some '0'
  fraction : ∀ c ∈ n.fraction, isDigit c = true
  exponent : ∀ e ∈ n.exponent, e.2 ≠ [] ∧ ∀ c ∈ e.2, isDigit c = true

/-- The number that the exponent is. -/
def power (n : Numeral) : Option Int :=
  n.exponent.map fun e => if e.1 then -(value e.2 : Int) else (value e.2 : Int)

/-- The nearest floating-point number. -/
def nearest (n : Numeral) : Binary64 :=
  Literal.toBinary64
    ⟨n.negative, value (n.whole ++ n.fraction), n.power.getD 0 - n.fraction.length⟩

end Numeral

/-- No number goes on with what comes next. -/
def EndsNumber (cs : List Char) : Prop :=
  ∀ c ∈ cs.head?, isDigit c = false ∧ c ≠ '.' ∧ c ≠ 'e' ∧ c ≠ 'E'

variable {n : Numeral}

/-- Digits are split from what is none. -/
theorem span_digits {ds : List Char} (hds : ∀ c ∈ ds, isDigit c = true)
    (hrest : ∀ c ∈ rest.head?, isDigit c = false) :
    (ds ++ rest).takeWhile isDigit = ds ∧ (ds ++ rest).dropWhile isDigit = rest := by
  rw [List.takeWhile_append_of_pos hds, List.dropWhile_append_of_pos hds]
  cases rest with
  | nil => exact ⟨List.append_nil ds, rfl⟩
  | cons c rest =>
    have hc : ¬ isDigit c = true := by
      rw [hrest c rfl]
      exact Bool.noConfusion
    rw [List.takeWhile_cons_of_neg hc, List.dropWhile_cons_of_neg hc, List.append_nil]
    exact ⟨rfl, rfl⟩

theorem splitWhole_append {ds : List Char} (hds : ∀ c ∈ ds, isDigit c = true)
    (hleading : ds = ['0'] ∨ ds ≠ [] ∧ ds.head? ≠ some '0')
    (hrest : ∀ c ∈ rest.head?, isDigit c = false) : splitWhole (ds ++ rest) = (ds, rest) := by
  rcases hleading with rfl | ⟨hne, hhead⟩
  · rfl
  · obtain ⟨htake, hdrop⟩ := span_digits hds hrest
    obtain ⟨d, ds, rfl⟩ := List.exists_cons_of_ne_nil hne
    unfold splitWhole
    split
    · rename_i heq
      cases heq
      exact absurd rfl hhead
    · rw [htake, hdrop]

theorem splitFraction_append (h : n.WellFormed)
    (hrest : ∀ c ∈ rest.head?, isDigit c = false ∧ c ≠ '.') :
    splitFraction (n.fractionText ++ rest) = (n.fraction, rest) := by
  have hdigits := h.fraction
  unfold Numeral.fractionText
  cases hfraction : n.fraction with
  | nil =>
    rw [if_pos rfl, List.nil_append]
    unfold splitFraction
    split
    · exact absurd rfl (hrest '.' rfl).2
    · rfl
  | cons d ds =>
    rw [hfraction, List.forall_mem_cons] at hdigits
    obtain ⟨htake, hdrop⟩ := span_digits hdigits.2 fun c hc => (hrest c hc).1
    rw [if_neg (List.cons_ne_nil _ _), List.cons_append, List.cons_append, splitFraction,
      if_pos hdigits.1, htake, hdrop]

theorem splitExponent_append (h : n.WellFormed) (hrest : EndsNumber rest) :
    splitExponent (n.exponentText ++ rest) = (n.power, rest) := by
  unfold Numeral.exponentText Numeral.power
  cases hexponent : n.exponent with
  | none =>
    rw [List.nil_append]
    cases rest with
    | nil => rfl
    | cons c rest =>
      obtain ⟨-, -, he, hE⟩ := hrest c rfl
      exact if_neg (not_or.2 ⟨he, hE⟩)
  | some e =>
    obtain ⟨negative, ds⟩ := e
    obtain ⟨hne, hdigits⟩ := h.exponent _ hexponent
    obtain ⟨htake, hdrop⟩ := span_digits hdigits fun c hc => (hrest c hc).1
    have hsign : splitSign ((if negative then '-' else '+') :: (ds ++ rest))
        = (negative, ds ++ rest) := by
      cases negative <;> rfl
    simp only [List.cons_append, splitExponent, true_or, if_true, hsign, htake, hdrop,
      List.isEmpty_iff, hne, if_false, Option.map_some]

theorem endsNumber_exponentText (hrest : EndsNumber rest) :
    ∀ c ∈ (n.exponentText ++ rest).head?, isDigit c = false ∧ c ≠ '.' := by
  intro c hc
  unfold Numeral.exponentText at hc
  split at hc
  · exact ⟨(hrest c hc).1, (hrest c hc).2.1⟩
  · obtain rfl := Option.some.inj hc
    decide

theorem endsDigits_fractionText (hrest : EndsNumber rest) :
    ∀ c ∈ (n.fractionText ++ (n.exponentText ++ rest)).head?, isDigit c = false := by
  intro c hc
  unfold Numeral.fractionText at hc
  split at hc
  · exact (endsNumber_exponentText hrest c hc).1
  · obtain rfl := Option.some.inj hc
    decide

/-- A number is read as its parts say. -/
theorem readNumber_spelled (h : n.WellFormed) (hrest : EndsNumber rest) :
    readNumber (n.spelled ++ rest) =
      if n.fraction = [] ∧ n.exponent = none then
        if digitLimit < n.whole.length then .error (.digits n.whole.length)
        else .ok (.int (if n.negative then -(value n.whole : Int) else value n.whole), rest)
      else .ok (.float n.nearest, rest) := by
  have hwhole : splitWhole (n.whole ++ (n.fractionText ++ (n.exponentText ++ rest)))
      = (n.whole, n.fractionText ++ (n.exponentText ++ rest)) :=
    splitWhole_append h.whole (h.leading.imp_right fun hhead => ⟨h.whole_ne_nil, hhead⟩)
      (endsDigits_fractionText hrest)
  have hfraction := splitFraction_append h (endsNumber_exponentText (n := n) hrest)
  have hexponent := splitExponent_append h hrest
  have hnegative : ((n.spelled ++ rest).head? == some '-') = n.negative := by
    unfold Numeral.spelled
    cases n.negative with
    | true => rfl
    | false =>
      obtain ⟨d, ds, hds⟩ := List.exists_cons_of_ne_nil h.whole_ne_nil
      have hd : isDigit d = true := h.whole d (hds ▸ List.mem_cons_self)
      have hminus : d ≠ '-' := by
        rintro rfl
        cases hd
      simpa [hds] using hminus
  have htail : (if n.negative then (n.spelled ++ rest).tail else n.spelled ++ rest)
      = n.whole ++ (n.fractionText ++ (n.exponentText ++ rest)) := by
    unfold Numeral.spelled
    cases n.negative <;> simp
  unfold readNumber
  simp only [hnegative, htail, hwhole, hfraction, hexponent, List.isEmpty_iff, h.whole_ne_nil,
    if_false, Bool.and_eq_true, Option.isNone_iff_eq_none, Numeral.nearest, Numeral.power,
    Option.map_eq_none_iff]

/-! ## Words -/

/-- What begins with a digit, behind a minus sign or nothing, is no name. -/
theorem readWord_digit {d : Char} (hd : isDigit d = true) (negative : Bool) (rest : List Char) :
    readWord (if negative then '-' :: d :: rest else d :: rest)
      = readNumber (if negative then '-' :: d :: rest else d :: rest) := by
  have hletters : ∀ c ∈ ['n', 't', 'f', 'N', 'I', '-'], c ≠ d := by
    rintro c hc rfl
    have hall : ∀ c ∈ ['n', 't', 'f', 'N', 'I', '-'], isDigit c = false :=
      forall_mem_of_all (by decide)
    rw [hall c hc] at hd
    cases hd
  simp only [List.forall_mem_cons] at hletters
  have hnone : (names.findSome? fun name =>
      (afterName? name.1 (if negative then '-' :: d :: rest else d :: rest)).map
        fun rest => (name.2, rest)) = none := by
    cases negative <;> simp [names, afterName?, hletters]
  rw [readWord, hnone]

theorem readWord_spelled (h : n.WellFormed) (rest : List Char) :
    readWord (n.spelled ++ rest) = readNumber (n.spelled ++ rest) := by
  obtain ⟨d, ds, hds⟩ := List.exists_cons_of_ne_nil h.whole_ne_nil
  have hd : isDigit d = true := h.whole d (hds ▸ List.mem_cons_self)
  have hspelled : n.spelled ++ rest
      = if n.negative then '-' :: d :: (ds ++ (n.fractionText ++ (n.exponentText ++ rest)))
        else d :: (ds ++ (n.fractionText ++ (n.exponentText ++ rest))) := by
    unfold Numeral.spelled
    rw [hds]
    cases n.negative <;> simp
  rw [hspelled]
  exact readWord_digit hd _ _

/-! ## Integers -/

/-- The parts of an integer. -/
def Numeral.ofInt (m : Int) : Numeral := ⟨m < 0, digits m.natAbs, [], none⟩

theorem Numeral.wellFormed_ofInt (m : Int) : (ofInt m).WellFormed where
  whole _ hc := isDigit_of_mem_digits hc
  whole_ne_nil := digits_ne_nil _
  leading := by
    by_cases hm : m.natAbs = 0
    · rw [ofInt, hm]
      exact .inl (digits_of_lt (by decide))
    · exact .inr (head?_digits hm)
  fraction _ hc := absurd hc List.not_mem_nil
  exponent _ he := nomatch he

theorem Numeral.spelled_ofInt (m : Int) : (ofInt m).spelled = intDigits m := by
  cases m with
  | ofNat k => simp [ofInt, spelled, fractionText, exponentText, intDigits]
  | negSucc k =>
    have hneg : Int.negSucc k < 0 := Int.negSucc_lt_zero k
    simp [ofInt, spelled, fractionText, exponentText, intDigits, hneg]

/-- An integer that was written is read back. -/
theorem readWord_intDigits {m : Int} (h : exceedsLimit m = false) (hrest : EndsNumber rest) :
    readWord (intDigits m ++ rest) = .ok (.int m, rest) := by
  have hlimit : ¬ digitLimit < (digits m.natAbs).length := Nat.not_lt.2 (length_digits_le_limit h)
  have hwellFormed := Numeral.wellFormed_ofInt m
  rw [← Numeral.spelled_ofInt, readWord_spelled hwellFormed, readNumber_spelled hwellFormed hrest,
    if_pos ⟨rfl, rfl⟩]
  show (if digitLimit < (digits m.natAbs).length then _ else _) = _
  rw [if_neg hlimit]
  have hvalue : (if m < 0 then -(m.natAbs : Int) else m.natAbs) = m := by
    split <;> omega
  simp only [Numeral.ofInt, value_digits, decide_eq_true_eq, hvalue]

/-! ## Floating-point numbers -/

/-- The text of a number without its sign that has a fraction or an exponent. -/
def SpellsFloat (cs : List Char) : Prop :=
  ∃ n : Numeral, n.WellFormed ∧ ¬ (n.fraction = [] ∧ n.exponent = none) ∧ n.negative = false ∧
    cs = n.spelled

theorem all_isDigit_replicate (k : Nat) : ∀ c ∈ List.replicate k '0', isDigit c = true := by
  intro c hc
  rw [List.eq_of_mem_replicate hc]
  rfl

theorem all_isDigit_zero : ∀ c ∈ ['0'], isDigit c = true := List.forall_mem_singleton.2 rfl

theorem spellsFloat_point {whole fraction : List Char} (hwhole : ∀ c ∈ whole, isDigit c = true)
    (hne : whole ≠ []) (hleading : whole = ['0'] ∨ whole.head? ≠ some '0')
    (hfraction : ∀ c ∈ fraction, isDigit c = true) (hne' : fraction ≠ []) :
    SpellsFloat (whole ++ '.' :: fraction) := by
  refine ⟨⟨false, whole, fraction, none⟩, ⟨hwhole, hne, hleading, hfraction, nofun⟩,
    fun h => hne' h.1, rfl, ?_⟩
  simp [Numeral.spelled, Numeral.fractionText, Numeral.exponentText, hne']

/-- Numbers written without an exponent. -/
theorem spellsFloat_positional {k : Nat} {point : Int} (h : k ≠ 0 ∨ point = 1) :
    SpellsFloat (FloatLayout.positional (digits k) point) := by
  have hdigits : ∀ c ∈ digits k, isDigit c = true := fun c hc => isDigit_of_mem_digits hc
  have hne := digits_ne_nil k
  unfold FloatLayout.positional
  split
  · refine @spellsFloat_point ['0'] _ all_isDigit_zero (List.cons_ne_nil _ _) (.inl rfl) ?_ ?_
    · exact List.forall_mem_append.2 ⟨all_isDigit_replicate _, hdigits⟩
    · exact List.append_ne_nil_of_right_ne_nil _ hne
  split
  · refine spellsFloat_point ?_ (List.append_ne_nil_of_left_ne_nil hne _) ?_ all_isDigit_zero
      (List.cons_ne_nil _ _)
    · exact List.forall_mem_append.2 ⟨hdigits, all_isDigit_replicate _⟩
    · by_cases hk : k = 0
      · obtain rfl : point = 1 := h.resolve_left fun hne => hne hk
        rw [hk, digits_of_lt (by decide)]
        exact .inl rfl
      · have hhead := head?_digits hk
        obtain ⟨d, ds, hds⟩ := List.exists_cons_of_ne_nil hne
        rw [hds] at hhead ⊢
        exact .inr hhead
  · rename_i hpoint hlength
    have hk : k ≠ 0 := by
      rintro rfl
      rw [digits_of_lt (by decide), List.length_singleton] at hlength
      omega
    have htake : (digits k).take point.toNat ≠ [] := by
      rw [Ne, List.take_eq_nil_iff, not_or]
      exact ⟨by omega, hne⟩
    refine spellsFloat_point (fun c hc => hdigits c (List.mem_of_mem_take hc)) htake (.inr ?_)
      (fun c hc => hdigits c (List.mem_of_mem_drop hc)) ?_
    · rw [List.head?_take, if_neg (by omega)]
      exact head?_digits hk
    · rw [Ne, List.drop_eq_nil_iff]
      omega

/-- Numbers written with an exponent. -/
theorem spellsFloat_scientific (layout : FloatLayout) (k : Nat) (point : Int) :
    SpellsFloat (layout.scientific (digits k) point) := by
  have hdigits : ∀ c ∈ digits k, isDigit c = true := fun c hc => isDigit_of_mem_digits hc
  obtain ⟨d, ds, hds⟩ := List.exists_cons_of_ne_nil (digits_ne_nil k)
  rw [hds, List.forall_mem_cons] at hdigits
  have hsize : ∀ c ∈ List.replicate (layout.exponentDigits - (digits (point - 1).natAbs).length) '0'
      ++ digits (point - 1).natAbs, isDigit c = true :=
    List.forall_mem_append.2 ⟨all_isDigit_replicate _, fun c hc => isDigit_of_mem_digits hc⟩
  have hne := List.append_ne_nil_of_right_ne_nil (List.replicate
    (layout.exponentDigits - (digits (point - 1).natAbs).length) '0')
    (digits_ne_nil (point - 1).natAbs)
  unfold FloatLayout.scientific
  rw [hds]
  dsimp only
  generalize List.replicate (layout.exponentDigits - (digits (point - 1).natAbs).length) '0'
    ++ digits (point - 1).natAbs = size at hsize hne ⊢
  refine ⟨⟨false, [d], ds, some (decide (point - 1 < 0), size)⟩, ⟨?_, List.cons_ne_nil _ _, ?_,
    hdigits.2, ?_⟩, ?_, rfl, ?_⟩
  · exact List.forall_mem_singleton.2 hdigits.1
  · by_cases hd : d = '0'
    · exact .inl (congrArg (fun c => [c]) hd)
    · exact .inr fun hhead => hd (Option.some.inj hhead)
  · rintro e he
    cases he
    exact ⟨hne, hsize⟩
  · rintro ⟨-, hnone⟩
    cases hnone
  · cases ds <;> simp [Numeral.spelled, Numeral.fractionText, Numeral.exponentText]

/-! ### Shortest digits -/

/-- A point of the grid that lies in an interval above zero is not zero. -/
theorem onGrid_ne_zero {i : Interval} {gridNum gridDen k : Nat} (hlow : 0 < i.low)
    (hden : 0 < gridDen) (h : i.onGrid gridNum gridDen = some k) : k ≠ 0 := by
  have hzero : i.holds (0 * gridNum) gridDen = false := by
    have hpositive : 0 < i.low * gridDen := Nat.mul_pos hlow hden
    unfold Interval.holds
    rw [Nat.zero_mul, Nat.zero_mul]
    split
    · rw [decide_eq_false (Nat.not_le.2 hpositive), Bool.false_and]
    · rw [decide_eq_false (Nat.not_lt_zero _), Bool.false_and]
  rintro rfl
  unfold Interval.onGrid at h
  dsimp only at h
  generalize i.value * gridDen / (i.den * gridNum) = below at h
  split at h
  · cases h
  · rename_i hfits _
    obtain rfl := Option.some.inj h
    rw [hzero] at hfits
    cases hfits
  · cases h
  · rename_i hfits _
    split_ifs at h <;> cases h
    all_goals
      rw [hzero] at hfits
      cases hfits

theorem search_cases {i : Interval} (hlow : 0 < i.low) (point : Int) (fuel count : Nat) :
    (i.search point fuel count).1 ≠ 0 ∨ i.search point fuel count = (0, 0) := by
  induction fuel generalizing count with
  | zero => exact .inr rfl
  | succ fuel ih =>
    rw [Interval.search]
    split
    · rename_i k hgrid
      exact .inl (onGrid_ne_zero hlow (Nat.pow_pos (by decide)) hgrid)
    · exact ih (count + 1)

theorem dropZeros_ne_zero {k : Nat} (hk : k ≠ 0) (power : Int) (fuel : Nat) :
    (dropZeros k power fuel).1 ≠ 0 := by
  induction fuel generalizing k power with
  | zero => exact hk
  | succ fuel ih =>
    rw [dropZeros]
    split
    · exact ih (by omega) (power + 1)
    · exact hk

/-- The shortest digits of a positive number are those of a positive number, if there are any. -/
theorem shortest_cases {mantissa : Nat} (h : 0 < mantissa) (exponent : Int) :
    (shortest mantissa exponent).1 ≠ 0 ∨ shortest mantissa exponent = (0, 0) := by
  have hlow : 0 < (Interval.of mantissa exponent).low := by
    refine Nat.mul_pos ?_ (Nat.pow_pos (by decide))
    split <;> omega
  rcases search_cases hlow (pointPosition (Interval.of mantissa exponent).value
    (Interval.of mantissa exponent).den) 18 1 with hne | hzero
  · exact .inl (dropZeros_ne_zero hne _ _)
  · right
    rw [shortest, hzero]
    rfl

/-! ### Texts of numbers -/

theorem mantissa_pos {x : Binary64} (h : x.isZero = false) : 0 < x.mantissa := by
  unfold Binary64.mantissa
  split
  · rename_i hbiased
    have hfraction : x.fraction ≠ 0 := by
      intro hfraction
      rw [Binary64.isZero, hbiased, hfraction] at h
      cases h
    exact Nat.pos_of_ne_zero hfraction
  · exact Nat.add_pos_right _ (Nat.pow_pos (by decide))

theorem spellsFloat_unsigned (layout : FloatLayout) {x : Binary64} (h : x.isInfinite = false) :
    SpellsFloat (layout.unsigned x) := by
  unfold FloatLayout.unsigned
  rw [if_neg (by rw [h]; exact Bool.noConfusion)]
  split
  · exact @spellsFloat_point ['0'] ['0'] all_isDigit_zero (List.cons_ne_nil _ _) (.inl rfl)
      all_isDigit_zero (List.cons_ne_nil _ _)
  · rename_i hzero
    have hcases := shortest_cases (mantissa_pos (Bool.eq_false_iff.2 hzero)) x.exponent
    rcases hshortest : shortest x.mantissa x.exponent with ⟨k, power⟩
    rw [hshortest] at hcases
    dsimp only
    split
    · refine spellsFloat_positional (hcases.imp_right ?_)
      rintro ⟨⟩
      rw [digits_of_lt (by decide)]
      rfl
    · exact spellsFloat_scientific layout k _

theorem exists_readWord_signed {cs : List Char} (h : SpellsFloat cs) (negative : Bool) :
    ∃ y, ∀ rest, EndsNumber rest →
      readWord ((if negative then '-' :: cs else cs) ++ rest) = .ok (.float y, rest) := by
  obtain ⟨n, hwellFormed, hfloat, hpositive, rfl⟩ := h
  have hsigned : (if negative then '-' :: n.spelled else n.spelled)
      = Numeral.spelled { n with negative } := by
    unfold Numeral.spelled
    rw [hpositive]
    cases negative <;> rfl
  have hwellFormed' : Numeral.WellFormed { n with negative } :=
    ⟨hwellFormed.whole, hwellFormed.whole_ne_nil, hwellFormed.leading, hwellFormed.fraction,
      hwellFormed.exponent⟩
  refine ⟨Numeral.nearest { n with negative }, fun rest hrest => ?_⟩
  rw [hsigned, readWord_spelled hwellFormed', readNumber_spelled hwellFormed' hrest, if_neg hfloat]

theorem exists_readWord_render (x : Binary64) :
    ∃ y, ∀ rest, EndsNumber rest →
      readWord (FloatLayout.json.render x ++ rest) = .ok (.float y, rest) := by
  unfold FloatLayout.render
  split
  · exact ⟨Binary64.nan, fun rest _ => by simp [FloatLayout.json, readWord, names, afterName?]⟩
  · cases hinfinite : x.isInfinite with
    | false =>
      have hsigned := exists_readWord_signed (spellsFloat_unsigned .json hinfinite) x.isNegative
      exact hsigned
    | true =>
      refine ⟨Binary64.infinity x.isNegative, fun rest _ => ?_⟩
      cases x.isNegative <;>
        simp [FloatLayout.unsigned, hinfinite, FloatLayout.json, readWord, names, afterName?]

end Json

/-- The number that the text of a number is read as. -/
def Binary64.reread (x : Binary64) : Binary64 :=
  match Json.readWord (FloatLayout.json.render x) with
  | .ok (.float y, _) => y
  | _ => x

/-- The text of a floating-point number is read as one. -/
theorem Json.readWord_render {rest : List Char} (hrest : EndsNumber rest) (x : Binary64) :
    readWord (FloatLayout.json.render x ++ rest) = .ok (.float x.reread, rest) := by
  obtain ⟨y, hy⟩ := exists_readWord_render x
  have halone : readWord (FloatLayout.json.render x) = .ok (.float y, []) := by
    rw [← List.append_nil (FloatLayout.json.render x)]
    exact hy [] nofun
  rw [hy rest hrest, Binary64.reread, halone]

end DashboardKit
