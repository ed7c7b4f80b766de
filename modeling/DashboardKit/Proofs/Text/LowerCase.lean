import DashboardKit.Text.Case
import Mathlib.Data.List.Forall2
import Mathlib.Data.List.Induction

/-!
# Lower case and ASCII

In lower case an ASCII letter comes of an ASCII letter, with one exception: the sign for kelvin
becomes a `k`.  A text whose lower case ends in a word of other letters therefore ends in that word
itself, up to the case of its letters.

Main statement: `exists_cut_of_lower`.
-/

set_option autoImplicit false

namespace DashboardKit

namespace CodePoint

/-- The lower case of a letter past ASCII is past ASCII, that of the sign for kelvin apart. -/
theorem lowerPartner_past_ascii {n : Nat} (h : 0x80 ≤ n) :
    0x80 ≤ lowerPartner n ∨ lowerPartner n = 0x6B := by
  have hruns : ∀ r ∈ Text.CaseTable.lowerRuns, 0x80 ≤ (r.1 : Int) + r.2.2.2 ∨
      (r.1 = 0x212A ∧ r.2.1 = 0x212A ∧ (0x212A : Int) + r.2.2.2 = 0x6B) := by
    decide +kernel
  unfold lowerPartner
  split
  · rename_i r hfound
    have hin := List.find?_some hfound
    simp only [Bool.and_eq_true, decide_eq_true_eq] at hin
    rcases hruns r (List.mem_of_find?_eq_some hfound) with hpast | ⟨hfirst, hlast, hkelvin⟩ <;>
      omega
  · exact .inl h

/-- A code point that is given by its number has this number, or it is U+0000. -/
theorem toNat_of_ofNat {n : Nat} {c : Char} (h : ofNat n = .scalar c) (hc : c ≠ '\x00') :
    c.toNat = n := by
  unfold ofNat at h
  split at h
  · cases h
  · obtain rfl := scalar.inj h
    by_cases hvalid : n.isValidChar
    · have hchar : Char.ofNat n = Char.ofNatAux n hvalid := dif_pos hvalid
      rw [hchar]
      rfl
    · have hchar : Char.ofNat n = '\x00' := dif_neg hvalid
      exact absurd hchar hc

end CodePoint

namespace Text

variable {t piece rest : Text} {p : CodePoint} {c : Char}

/-- What holds of every code point of ASCII holds of an ASCII letter. -/
@[elab_as_elim]
theorem of_ascii {P : Char → Prop} (h : ∀ n : Fin 0x80, P (Char.ofNat n)) (c : Char)
    (hc : c.toNat < 0x80) : P c := by
  have hP := h ⟨c.toNat, hc⟩
  rwa [Char.ofNat_toNat] at hP

/-- An ASCII letter is lower-cased by itself, whatever stands around it. -/
theorem lowerAfter_cons_of_ascii (h : c.toNat < 0x80) (before rest : Text) :
    lowerAfter before (.scalar c :: rest)
      = .scalar c.toLower :: lowerAfter (.scalar c :: before) rest := by
  have hsigma : CodePoint.scalar c ≠ .scalar 'Σ' := by
    rintro ⟨⟩
    exact absurd h (by decide)
  rw [lowerAfter, if_neg hsigma, CodePoint.lower, if_pos h, List.singleton_append]

/-- Texts of ASCII letters are lower-cased letter by letter. -/
theorem lower_ofChars_of_ascii {cs : List Char} (h : ∀ c ∈ cs, c.toNat < 0x80) :
    lower (ofChars cs) = ofChars (cs.map Char.toLower) := by
  have hafter (before : Text) : lowerAfter before (ofChars cs) = ofChars (cs.map Char.toLower) := by
    induction cs generalizing before with
    | nil => rfl
    | cons c cs ih =>
      rw [List.forall_mem_cons] at h
      have htext : ofChars (c :: cs) = .scalar c :: ofChars cs := rfl
      rw [htext, lowerAfter_cons_of_ascii h.1, ih h.2]
      rfl
  exact hafter []

/-! ## Code point by code point -/

/-- What a code point can become in lower case: a sigma takes one of two forms. -/
def LowersTo (p : CodePoint) (piece : Text) : Prop :=
  piece = p.lower ∨ p = .scalar 'Σ' ∧ (piece = [.scalar 'ς'] ∨ piece = [.scalar 'σ'])

/-- A text in lower case is made of what its code points become. -/
theorem exists_pieces (before t : Text) :
    ∃ pieces : List Text, List.Forall₂ LowersTo t pieces ∧
      lowerAfter before t = pieces.flatten := by
  induction t generalizing before with
  | nil => exact ⟨[], .nil, rfl⟩
  | cons p t ih =>
    obtain ⟨pieces, hpieces, hlower⟩ := ih (p :: before)
    refine ⟨_ :: pieces, .cons ?_ hpieces, by rw [lowerAfter, hlower]; rfl⟩
    split
    · rename_i hsigma
      refine .inr ⟨hsigma, ?_⟩
      split
      · exact .inl rfl
      · exact .inr rfl
    · exact .inl rfl

theorem LowersTo.ne_nil (h : LowersTo p piece) : piece ≠ [] := by
  rcases h with rfl | ⟨-, rfl | rfl⟩
  · unfold CodePoint.lower
    split
    · exact List.cons_ne_nil _ _
    · split
      · exact List.cons_ne_nil _ _
      · split <;> exact List.cons_ne_nil _ _
  · exact List.cons_ne_nil _ _
  · exact List.cons_ne_nil _ _

/-- What ends in an ASCII letter other than a `k` comes of this letter. -/
theorem LowersTo.of_ascii (h : LowersTo p (rest ++ [.scalar c])) (hc : c.toNat < 0x80)
    (hk : c ≠ 'k') (hnul : c ≠ '\x00') :
    rest = [] ∧ ∃ d : Char, p = .scalar d ∧ d.toNat < 0x80 ∧ d.toLower = c := by
  have hsingle {q : CodePoint} (h : rest ++ [.scalar c] = [q]) : rest = [] ∧ q = .scalar c := by
    obtain ⟨rfl, hlast⟩ := List.append_inj' (h.trans (List.nil_append [q]).symm) rfl
    exact ⟨rfl, (List.cons.inj hlast).1.symm⟩
  rcases h with h | ⟨-, h | h⟩
  · cases p with
    | surrogate n => cases (hsingle h).2
    | scalar d =>
      unfold CodePoint.lower at h
      simp only at h
      split at h
      · rename_i hascii
        obtain ⟨rfl, hd⟩ := hsingle h
        exact ⟨rfl, d, rfl, hascii, CodePoint.scalar.inj hd⟩
      · rename_i hascii
        split at h
        · -- the last code point of two is past ASCII
          have hlast := congrArg List.getLast? h
          rw [List.getLast?_concat] at hlast
          obtain rfl := CodePoint.scalar.inj (Option.some.inj hlast)
          exact absurd hc (by decide)
        · have hpartner := CodePoint.toNat_of_ofNat (hsingle h).2 hnul
          rcases CodePoint.lowerPartner_past_ascii (Nat.not_lt.1 hascii) with hpast | hkelvin
          · omega
          · exact absurd (Char.toNat_inj.1 (hpartner.trans hkelvin : c.toNat = 'k'.toNat)) hk
  · cases (hsingle h).2
    exact absurd hc (by decide)
  · cases (hsingle h).2
    exact absurd hc (by decide)

/-- A text gets no shorter in lower case. -/
theorem length_le_lower (t : Text) : t.length ≤ (lower t).length := by
  obtain ⟨pieces, hpieces, hlower⟩ := exists_pieces [] t
  rw [lower, hlower]
  clear hlower
  induction hpieces with
  | nil => exact Nat.le_refl 0
  | cons hpiece _ ih =>
    have hpositive := List.length_pos_iff.2 hpiece.ne_nil
    rw [List.flatten_cons, List.length_append, List.length_cons]
    omega

/-! ## Words at the end -/

/-- A letter that only an ASCII letter becomes in lower case. -/
def OwnLetter (c : Char) : Prop := c.toNat < 0x80 ∧ c ≠ 'k' ∧ c ≠ '\x00'

instance (c : Char) : Decidable (OwnLetter c) := inferInstanceAs (Decidable (_ ∧ _ ∧ _))

/-- What is paired with a list that has one more member behind has one more too. -/
theorem exists_concat_of_forall₂ {α β : Type} {R : α → β → Prop} {l : List α} {init : List β}
    {b : β} (h : List.Forall₂ R l (init ++ [b])) :
    ∃ l' a, l = l' ++ [a] ∧ List.Forall₂ R l' init ∧ R a b := by
  have hinit := List.forall₂_take_append _ _ _ h
  have hlast := List.forall₂_drop_append _ _ _ h
  obtain ⟨a, rest, hab, hrest, hdrop⟩ := List.forall₂_cons_right_iff.1 hlast
  obtain rfl := List.forall₂_nil_right_iff.1 hrest
  exact ⟨_, a, by rw [← hdrop, List.take_append_drop], hinit, hab⟩

/-- A text that ends in a word in lower case ends in that word, up to the case of its letters. -/
theorem exists_cut_of_lower {word : List Char} (hword : ∀ c ∈ word, OwnLetter c)
    (h : ofChars word <:+ lower t) :
    ∃ u v, t = u ++ ofChars v ∧ (∀ d ∈ v, d.toNat < 0x80) ∧ v.map Char.toLower = word := by
  obtain ⟨pieces, hpieces, hlower⟩ := exists_pieces [] t
  rw [lower, hlower] at h
  clear hlower
  induction word using List.reverseRecOn generalizing t pieces with
  | nil => exact ⟨t, [], (List.append_nil t).symm, fun _ hd => absurd hd List.not_mem_nil, rfl⟩
  | append_singleton word c ih =>
    obtain ⟨hword, hc⟩ := List.forall_mem_append.1 hword
    obtain ⟨hascii, hk, hnul⟩ := hc c (List.mem_singleton_self c)
    obtain ⟨front, hfront⟩ := h
    rcases List.eq_nil_or_concat pieces with rfl | ⟨init, piece, rfl⟩
    · simp [ofChars] at hfront
    rw [List.concat_eq_append] at hpieces hfront
    obtain ⟨t, p, rfl, hinit, hpiece⟩ := exists_concat_of_forall₂ hpieces
    -- the last letter of the word is the last of the last piece, and all of it
    obtain ⟨rest, q, hrest⟩ := (List.eq_nil_or_concat piece).resolve_left hpiece.ne_nil
    rw [List.concat_eq_append] at hrest
    have hends : front ++ ofChars word ++ [.scalar c] = init.flatten ++ rest ++ [q] := by
      simpa [ofChars, hrest] using hfront
    obtain ⟨hbefore, hq⟩ := List.append_inj' hends rfl
    obtain rfl := (List.cons.inj hq).1
    rw [hrest] at hpiece
    obtain ⟨rfl, d, rfl, hd, hlower⟩ := hpiece.of_ascii hascii hk hnul
    rw [List.append_nil] at hbefore
    obtain ⟨u, v, rfl, hv, hvword⟩ := ih hword init ⟨front, hbefore⟩ hinit
    refine ⟨u, v ++ [d], ?_, List.forall_mem_append.2 ⟨hv, List.forall_mem_singleton.2 hd⟩, ?_⟩
    · simp [ofChars]
    · rw [List.map_append, hvword, List.map_singleton, hlower]

/-- A text that is such a word in lower case is the word itself, up to the case of its letters. -/
theorem exists_word_of_lower {word : List Char} (hword : ∀ c ∈ word, OwnLetter c)
    (h : lower t = ofChars word) :
    ∃ v, t = ofChars v ∧ (∀ d ∈ v, d.toNat < 0x80) ∧ v.map Char.toLower = word := by
  obtain ⟨u, v, rfl, hv, hvword⟩ := exists_cut_of_lower hword ⟨[], h.symm⟩
  have hlength := length_le_lower (u ++ ofChars v)
  rw [h, ← hvword, List.length_append, ofChars, ofChars, List.length_map, List.length_map,
    List.length_map] at hlength
  obtain rfl : u = [] := List.length_eq_zero_iff.1 (by omega)
  exact ⟨v, rfl, hv, hvword⟩

end Text

end DashboardKit
