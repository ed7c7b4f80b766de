import DashboardKit.Proofs.Json.RoundTrip

/-!
# Beginnings of documents

Reading looks no further than it has to.  A text, a list or a map ends where it is closed, whatever
follows; a name or a number ends at the comma, the bracket or the blank behind it.  So a map that is
all that the beginning of a document is read as is all that the document is read as, and what breaks
off inside a document is none.

Main statement: `eq_of_read_append`.
-/

set_option autoImplicit false

namespace DashboardKit.Json

open Decimal

attribute [local irreducible] Decimal.digitLimit

variable {fuel fuel' : Nat} {v : Value} {a : Atom} {t : Text} {cs rest more tail body : List Char}
  {c d : Char}

/-! ## Texts -/

/-- What follows the escape of a number matters only if it begins another such escape. -/
theorem readUnicode_append {p : CodePoint} (h : readUnicode cs = .ok (p, rest))
    (hslash : rest ≠ ['\\']) (hfour : ∀ tail, rest = '\\' :: 'u' :: tail → 5 ≤ tail.length)
    (more : List Char) : readUnicode (cs ++ more) = .ok (p, rest ++ more) := by
  unfold readUnicode at h
  split at h
  · rename_i a b c d e behind
    split at h
    · cases h
    rename_i n hquad
    simp only [List.cons_append, readUnicode, hquad]
    split at h
    · -- another escape follows
      rename_i a' b' c' d' e' behind' heq
      cases heq
      simp only [List.cons_append]
      by_cases hhigh : isHighSurrogate n = true
      · rw [if_pos hhigh] at h ⊢
        rcases hquad' : hexQuad? a' b' c' d' with _ | m <;> simp only [hquad'] at h ⊢
        · cases h
        · by_cases hlow : isLowSurrogate m = true
          · rw [if_pos hlow] at h ⊢
            obtain ⟨rfl, rfl⟩ := Prod.mk.inj (Except.ok.inj h)
            rfl
          · rw [if_neg hlow] at h ⊢
            cases h
            rfl
      · rw [if_neg hhigh] at h ⊢
        cases h
        rfl
    · rename_i hother
      cases h
      split
      · -- an escape would have to begin in front and end behind
        rename_i heq
        obtain ⟨rfl, hbehind⟩ := List.cons.inj heq
        obtain ⟨tail, rfl⟩ : ∃ tail, behind = 'u' :: tail := by
          cases behind with
          | nil => exact absurd rfl hslash
          | cons c tail => exact ⟨tail, by rw [(List.cons.inj hbehind).1]⟩
        have hlong := hfour tail rfl
        rcases tail with _ | ⟨_, _ | ⟨_, _ | ⟨_, _ | ⟨_, _ | ⟨_, _⟩⟩⟩⟩⟩
        case cons.cons.cons.cons.cons => exact absurd rfl (hother _ _ _ _ _ _)
        all_goals exact absurd hlong (by simp)
      · rfl
  · cases h

/-- After an escape only what is an escape as a whole is read on. -/
theorem four_of_readText {opening : Nat} (h : readText opening fuel cs = .ok (t, rest)) :
    cs ≠ ['\\'] ∧ ∀ tail, cs = '\\' :: 'u' :: tail → 5 ≤ tail.length := by
  cases fuel with
  | zero => cases h
  | succ fuel =>
    constructor
    · rintro rfl
      cases h
    · rintro tail rfl
      match tail with
      | [] | [_] | [_, _] | [_, _, _] | [_, _, _, _] => cases h
      | _ :: _ :: _ :: _ :: _ :: tail => exact Nat.le_add_left 5 tail.length

/-- A quoted text is over where it is closed. -/
theorem readText_append {opening : Nat} (h : readText opening fuel cs = .ok (t, rest))
    (hfuel : fuel ≤ fuel') (opening' : Nat) (more : List Char) :
    readText opening' fuel' (cs ++ more) = .ok (t, rest ++ more) := by
  fun_induction readText opening fuel cs generalizing fuel' t rest with
  | case3 fuel behind =>
    obtain ⟨k, rfl⟩ := Nat.exists_eq_add_of_le' hfuel
    cases h
    rfl
  | case7 fuel cs p behind hunicode t rest htext ih =>
    obtain ⟨k, rfl⟩ := Nat.exists_eq_add_of_le' hfuel
    cases h
    obtain ⟨hslash, hfour⟩ := four_of_readText htext
    exact readText_unicode (readUnicode_append hunicode hslash hfour more)
      (ih htext (Nat.le_add_left fuel k))
  | case10 fuel c cs hnotU d hshort t rest htext ih =>
    obtain ⟨k, rfl⟩ := Nat.exists_eq_add_of_le' hfuel
    cases h
    exact readText_short hnotU hshort (ih htext (Nat.le_add_left fuel k))
  | case13 fuel c cs hquote hnil hnotU hnotShort hcontrol t rest htext ih =>
    obtain ⟨k, rfl⟩ := Nat.exists_eq_add_of_le' hfuel
    cases h
    refine readText_plain hquote ?_ (Nat.not_lt.1 hcontrol) (ih htext (Nat.le_add_left fuel k))
    rintro rfl
    cases cs with
    | nil => exact hnil rfl rfl
    | cons c cs => exact hnotShort c cs rfl rfl
  | _ => cases h

/-! ## Names and numbers -/

/-- What may stand behind a value inside a list or a map: blanks and what ends it. -/
def closers : List Char := [' ', '\t', '\n', '\r', ',', ']', '\x7d']

theorem takeWhile_closed {keep : Char → Bool} (h : keep d = false) (body tail : List Char) :
    (body ++ d :: tail).takeWhile keep = body.takeWhile keep ∧
      (body ++ d :: tail).dropWhile keep = body.dropWhile keep ++ d :: tail := by
  induction body with
  | nil => simp [h]
  | cons c body ih =>
    cases hc : keep c with
    | false => simp [hc]
    | true => simp [hc, ih]

theorem ne_of_mem_closers (h : d ∈ closers) :
    isDigit d = false ∧ d ∉ ['0', '.', 'e', 'E', '+', '-'] := by
  have hall : ∀ d ∈ closers, isDigit d = false ∧ d ∉ ['0', '.', 'e', 'E', '+', '-'] :=
    forall_mem_of_all (by decide)
  exact hall d h

theorem splitWhole_of_ne (h : c ≠ '0') (cs : List Char) :
    splitWhole (c :: cs) = ((c :: cs).takeWhile isDigit, (c :: cs).dropWhile isDigit) :=
  splitWhole.eq_2 _ fun _ heq => h (List.cons.inj heq).1

theorem splitWhole_closed (h : d ∈ closers) (body tail : List Char) :
    splitWhole (body ++ d :: tail)
      = ((splitWhole body).1, (splitWhole body).2 ++ d :: tail) := by
  obtain ⟨hdigit, hother⟩ := ne_of_mem_closers h
  obtain ⟨htake, hdrop⟩ := takeWhile_closed hdigit body tail
  simp only [List.mem_cons, not_or] at hother
  cases body with
  | nil => exact (splitWhole_of_ne hother.1 tail).trans (Prod.ext htake hdrop)
  | cons c body =>
    by_cases hc : c = '0'
    · subst hc
      rfl
    · rw [splitWhole_of_ne hc body]
      exact (splitWhole_of_ne hc (body ++ d :: tail)).trans (Prod.ext htake hdrop)

theorem splitFraction_of_ne (h : c ≠ '.') (cs : List Char) :
    splitFraction (c :: cs) = ([], c :: cs) :=
  splitFraction.eq_2 _ fun _ _ heq => h (List.cons.inj heq).1

theorem splitFraction_closed (h : d ∈ closers) (body tail : List Char) :
    splitFraction (body ++ d :: tail)
      = ((splitFraction body).1, (splitFraction body).2 ++ d :: tail) := by
  obtain ⟨hdigit, hother⟩ := ne_of_mem_closers h
  simp only [List.mem_cons, not_or] at hother
  cases body with
  | nil => exact splitFraction_of_ne hother.2.1 tail
  | cons c body =>
    by_cases hc : c = '.'
    · subst hc
      cases body with
      | nil =>
        simp only [List.cons_append, List.nil_append, splitFraction, hdigit]
        rfl
      | cons c body =>
        obtain ⟨htake, hdrop⟩ := takeWhile_closed hdigit body tail
        simp only [List.cons_append, splitFraction, htake, hdrop]
        split <;> rfl
    · rw [splitFraction_of_ne hc body]
      exact splitFraction_of_ne hc (body ++ d :: tail)

theorem splitSign_closed (h : d ∈ closers) (body tail : List Char) :
    splitSign (body ++ d :: tail) = ((splitSign body).1, (splitSign body).2 ++ d :: tail) := by
  obtain ⟨-, hother⟩ := ne_of_mem_closers h
  simp only [List.mem_cons, not_or] at hother
  have hnone {c : Char} (hminus : c ≠ '-') (hplus : c ≠ '+') (cs : List Char) :
      splitSign (c :: cs) = (false, c :: cs) :=
    splitSign.eq_3 _ (fun _ heq => hminus (List.cons.inj heq).1)
      fun _ heq => hplus (List.cons.inj heq).1
  cases body with
  | nil => exact hnone hother.2.2.2.2.2.1 hother.2.2.2.2.1 tail
  | cons c body =>
    by_cases hminus : c = '-'
    · subst hminus
      rfl
    by_cases hplus : c = '+'
    · subst hplus
      rfl
    rw [hnone hminus hplus body]
    exact hnone hminus hplus (body ++ d :: tail)

theorem splitExponent_closed (h : d ∈ closers) (body tail : List Char) :
    splitExponent (body ++ d :: tail)
      = ((splitExponent body).1, (splitExponent body).2 ++ d :: tail) := by
  obtain ⟨hdigit, hother⟩ := ne_of_mem_closers h
  simp only [List.mem_cons, not_or] at hother
  cases body with
  | nil =>
    have hletter : ¬ (d = 'e' ∨ d = 'E') := not_or.2 ⟨hother.2.2.1, hother.2.2.2.1⟩
    exact if_neg hletter
  | cons c body =>
    obtain ⟨htake, hdrop⟩ := takeWhile_closed hdigit (splitSign body).2 tail
    simp only [List.cons_append, splitExponent, splitSign_closed h, htake, hdrop]
    split
    · split <;> rfl
    · rfl

/-- A number is over where a list or a map goes on. -/
theorem readNumber_closed (h : d ∈ closers) (body tail : List Char) :
    (readNumber (body ++ d :: tail)).toOption
      = (readNumber body).toOption.map fun r => (r.1, r.2 ++ d :: tail) := by
  have hminus : d ≠ '-' := by
    rintro rfl
    exact absurd h (by decide)
  have hhead : ((body ++ d :: tail).head? == some '-') = (body.head? == some '-') := by
    cases body with
    | nil => simpa using hminus
    | cons c body => rfl
  have hunsigned : (if body.head? == some '-' then (body ++ d :: tail).tail else body ++ d :: tail)
      = (if body.head? == some '-' then body.tail else body) ++ d :: tail := by
    cases body with
    | nil => rfl
    | cons c body => split <;> rfl
  unfold readNumber
  simp only [hhead, hunsigned, splitWhole_closed h, splitFraction_closed h, splitExponent_closed h]
  generalize (if body.head? == some '-' then body.tail else body) = unsigned
  split
  · rfl
  · split
    · split <;> rfl
    · rfl

theorem suffix_splitWhole (cs : List Char) : (splitWhole cs).2 <:+ cs := by
  unfold splitWhole
  split
  · exact List.suffix_cons _ _
  · exact List.dropWhile_suffix _

theorem suffix_splitFraction (cs : List Char) : (splitFraction cs).2 <:+ cs := by
  unfold splitFraction
  split
  · split
    · exact ((List.dropWhile_suffix _).trans (List.suffix_cons _ _)).trans (List.suffix_cons _ _)
    · exact List.suffix_rfl
  · exact List.suffix_rfl

theorem suffix_splitSign (cs : List Char) : (splitSign cs).2 <:+ cs := by
  unfold splitSign
  split
  · exact List.suffix_cons _ _
  · exact List.suffix_cons _ _
  · exact List.suffix_rfl

theorem suffix_splitExponent (cs : List Char) : (splitExponent cs).2 <:+ cs := by
  unfold splitExponent
  split
  · split
    · dsimp only
      split
      · exact List.suffix_rfl
      · exact ((List.dropWhile_suffix _).trans (suffix_splitSign _)).trans (List.suffix_cons _ _)
    · exact List.suffix_rfl
  · exact List.suffix_rfl

/-- Reading a number leaves what stands behind it. -/
theorem suffix_readNumber (h : readNumber cs = .ok (a, rest)) : rest <:+ cs := by
  have hunsigned : (if cs.head? == some '-' then cs.tail else cs) <:+ cs := by
    split
    · exact List.tail_suffix cs
    · exact List.suffix_rfl
  unfold readNumber at h
  simp only at h
  generalize (if cs.head? == some '-' then cs.tail else cs) = unsigned at h hunsigned
  have hparts := ((suffix_splitExponent _).trans (suffix_splitFraction _)).trans
    ((suffix_splitWhole unsigned).trans hunsigned)
  split at h
  · cases h
  · split at h
    · split at h
      · cases h
      · cases h
        exact hparts
    · cases h
      exact hparts

/-- A number begins with a digit, behind a minus sign or nothing. -/
theorem exists_digit_of_readNumber (h : readNumber cs = .ok (a, rest)) :
    ∃ (negative : Bool) (d : Char) (ds : List Char), isDigit d = true ∧
      cs = if negative then '-' :: d :: ds else d :: ds := by
  have hdigit {unsigned : List Char} (hwhole : (splitWhole unsigned).1 ≠ []) :
      ∃ d ds, isDigit d = true ∧ unsigned = d :: ds := by
    cases unsigned with
    | nil => exact absurd rfl hwhole
    | cons d ds =>
      refine ⟨d, ds, ?_, rfl⟩
      by_contra hnone
      have hzero : d ≠ '0' := by
        rintro rfl
        exact hnone rfl
      rw [splitWhole_of_ne hzero, List.takeWhile_cons_of_neg hnone] at hwhole
      exact hwhole rfl
  have hwhole : (splitWhole (if cs.head? == some '-' then cs.tail else cs)).1 ≠ [] := by
    intro hnil
    unfold readNumber at h
    simp only [hnil, List.isEmpty_nil, if_true] at h
    cases h
  obtain ⟨d, ds, hd, hcs⟩ := hdigit hwhole
  cases cs with
  | nil => cases hcs
  | cons c cs =>
    by_cases hminus : c = '-'
    · subst hminus
      obtain rfl : cs = d :: ds := hcs
      exact ⟨true, d, ds, hd, rfl⟩
    · rw [if_neg (by simpa using hminus)] at hcs
      exact ⟨false, d, ds, hd, hcs⟩

/-- A number that was read in front of what ends it is read there whatever comes after. -/
theorem readNumber_append (h : readNumber cs = .ok (a, d :: tail)) (hd : d ∈ closers)
    (more : List Char) : readNumber (cs ++ more) = .ok (a, d :: (tail ++ more)) := by
  obtain ⟨body, rfl⟩ := suffix_readNumber h
  have hbody := readNumber_closed hd body tail
  rw [h] at hbody
  obtain ⟨⟨a', rest⟩, hread, heq⟩ := exists_eq_ok_of_toOption_map hbody.symm
  obtain ⟨rfl, hrest⟩ := Prod.mk.inj heq
  obtain rfl : rest = [] := List.append_left_eq_self.1 hrest
  have hmore := readNumber_closed hd body (tail ++ more)
  rw [hread] at hmore
  rw [List.append_assoc, List.cons_append]
  cases hwhole : readNumber (body ++ d :: (tail ++ more)) with
  | error e =>
    rw [hwhole] at hmore
    cases hmore
  | ok r =>
    rw [hwhole] at hmore
    exact congrArg Except.ok (Option.some.inj hmore)

/-- What follows a name does not matter. -/
theorem readWord_name {n : List Char × Atom} (h : n ∈ names) (rest : List Char) :
    readWord (n.1 ++ rest) = .ok (n.2, rest) := by
  simp only [names, List.mem_cons, List.not_mem_nil, or_false] at h
  rcases h with rfl | rfl | rfl | rfl | rfl | rfl <;> simp [readWord, names, afterName?]

theorem afterName?_eq_some {name : List Char} (h : afterName? name cs = some rest) :
    cs = name ++ rest := by
  induction name generalizing cs with
  | nil => exact Option.some.inj h
  | cons c name ih =>
    cases cs with
    | nil => cases h
    | cons c' cs =>
      unfold afterName? at h
      split at h
      · rename_i heq
        rw [ih h, heq]
        rfl
      · cases h

/-- A name or a number that was read in front of what ends it is read there whatever comes after. -/
theorem readWord_append (h : readWord cs = .ok (a, d :: tail)) (hd : d ∈ closers)
    (more : List Char) : readWord (cs ++ more) = .ok (a, d :: (tail ++ more)) := by
  unfold readWord at h
  split at h
  · rename_i found hfound
    cases h
    obtain ⟨n, hn, hmap⟩ := List.exists_of_findSome?_eq_some hfound
    obtain ⟨rest, hafter, heq⟩ := Option.map_eq_some_iff.1 hmap
    obtain ⟨rfl, rfl⟩ := Prod.mk.inj heq
    rw [afterName?_eq_some hafter, List.append_assoc]
    exact readWord_name hn _
  · obtain ⟨negative, c, cs, hc, rfl⟩ := exists_digit_of_readNumber h
    have hmore := readNumber_append h hd more
    have hword := readWord_digit hc negative (cs ++ more)
    cases negative
    · exact hword.trans hmore
    · exact hword.trans hmore

/-! ## Values -/

/-- A value is over where it was read to: it was closed, or what comes next ends it. -/
def Over (v : Value) (rest : List Char) : Prop :=
  (∃ m, v = .map m) ∨ ∃ d tail, rest = d :: tail ∧ d ∈ closers

/-- What stands behind blanks that ends a value ends it with them in between. -/
theorem over_of_skipBlanks (h : skipBlanks rest = d :: tail) (hd : d ∈ closers) (v : Value) :
    Over v rest := by
  cases rest with
  | nil => cases h
  | cons c rest =>
    refine .inr ⟨c, rest, rfl, ?_⟩
    cases hc : isBlank c with
    | true =>
      simp only [isBlank, Bool.or_eq_true, beq_iff_eq] at hc
      rcases hc with ((rfl | rfl) | rfl) | rfl <;> decide
    | false =>
      rw [skipBlanks_cons hc] at h
      obtain ⟨rfl, -⟩ := List.cons.inj h
      exact hd

theorem skipBlanks_append_of_ne_nil (h : skipBlanks cs ≠ []) (more : List Char) :
    skipBlanks (cs ++ more) = skipBlanks cs ++ more := by
  unfold skipBlanks at h ⊢
  rw [List.dropWhile_append, if_neg (by simpa using h)]

theorem skipBlanks_cons_append (h : skipBlanks cs = c :: rest) (more : List Char) :
    skipBlanks (cs ++ more) = c :: (rest ++ more) := by
  rw [skipBlanks_append_of_ne_nil (by rw [h]; exact List.cons_ne_nil c rest), h, List.cons_append]

/-- What a value begins with is not added to by what comes after. -/
theorem skipBlanks_append_of_begins (h : BeginsValue (skipBlanks cs)) (more : List Char) :
    skipBlanks (cs ++ more) = skipBlanks cs ++ more := by
  obtain ⟨c, rest, hcs, -⟩ := h
  exact skipBlanks_append_of_ne_nil (by rw [hcs]; exact List.cons_ne_nil c rest) more

/-- What the readers of values read with so much fuel at the front, they read there whatever comes
after. -/
structure ReadsOn (fuel : Nat) : Prop where
  value : ∀ cs v rest, readValue fuel cs = .ok (v, rest) → Over v rest → ∀ fuel', fuel ≤ fuel' →
    ∀ more, readValue fuel' (cs ++ more) = .ok (v, rest ++ more)
  items : ∀ cs vs rest, readItems fuel cs = .ok (vs, rest) → ∀ fuel', fuel ≤ fuel' →
    ∀ more, readItems fuel' (cs ++ more) = .ok (vs, rest ++ more)
  members : ∀ cs es rest, readMembers fuel cs = .ok (es, rest) → ∀ fuel', fuel ≤ fuel' →
    ∀ more, readMembers fuel' (cs ++ more) = .ok (es, rest ++ more)

theorem readsOn_zero : ReadsOn 0 where
  value _ _ _ h := by simp [readValue] at h
  items _ _ _ h := by simp [readItems] at h
  members _ _ _ h := by simp [readMembers] at h

theorem ReadsOn.items_succ (ih : ReadsOn fuel) {vs : List Value}
    (h : readItems (fuel + 1) cs = .ok (vs, rest)) (hfuel : fuel ≤ fuel') (more : List Char) :
    readItems (fuel' + 1) (cs ++ more) = .ok (vs, rest ++ more) := by
  unfold readItems at h ⊢
  split at h
  · cases h
  rename_i v behind hvalue
  split at h
  · rename_i hclosed
    cases h
    have hover := over_of_skipBlanks hclosed (by decide) v
    rw [ih.value _ _ _ hvalue hover _ hfuel more]
    simp only [skipBlanks_cons_append hclosed more]
  · rename_i hcomma
    split at h
    · cases h
    rename_i hitems
    cases h
    have hover := over_of_skipBlanks hcomma (by decide) v
    rw [ih.value _ _ _ hvalue hover _ hfuel more]
    simp only [skipBlanks_cons_append hcomma more,
      skipBlanks_append_of_begins (beginsValue_of_readItems hitems) more,
      ih.items _ _ _ hitems _ hfuel more]
  · cases h

theorem ReadsOn.members_succ (ih : ReadsOn fuel) {es : List (Atom × Value)}
    (h : readMembers (fuel + 1) cs = .ok (es, rest)) (hfuel : fuel ≤ fuel') (more : List Char) :
    readMembers (fuel' + 1) (cs ++ more) = .ok (es, rest ++ more) := by
  unfold readMembers at h
  split at h
  · rename_i cs
    split at h
    · cases h
    rename_i key behind hkey
    split at h
    · rename_i hcolon
      split at h
      · cases h
      rename_i v behind' hvalue
      have hlength : ('"' :: cs).length ≤ ('"' :: (cs ++ more)).length := by simp
      have htext := readText_append hkey hlength ('"' :: (cs ++ more)).length more
      have hbegins := skipBlanks_append_of_begins (beginsValue_of_readValue hvalue) more
      split at h
      · rename_i hclosed
        cases h
        have hover := over_of_skipBlanks hclosed (by decide) v
        rw [List.cons_append, readMembers]
        simp only [htext, skipBlanks_cons_append hcolon more, hbegins,
          ih.value _ _ _ hvalue hover _ hfuel more, skipBlanks_cons_append hclosed more]
      · rename_i hcomma
        split at h
        · cases h
        rename_i hmembers
        cases h
        have hover := over_of_skipBlanks hcomma (by decide) v
        rw [List.cons_append, readMembers]
        simp only [htext, skipBlanks_cons_append hcolon more, hbegins,
          ih.value _ _ _ hvalue hover _ hfuel more, skipBlanks_cons_append hcomma more,
          skipBlanks_append_of_begins (beginsValue_of_readMembers hmembers) more,
          ih.members _ _ _ hmembers _ hfuel more]
      · cases h
    · cases h
  · cases h

theorem ReadsOn.value_succ (ih : ReadsOn fuel) (h : readValue (fuel + 1) cs = .ok (v, rest))
    (hover : Over v rest) (hfuel : fuel ≤ fuel') (more : List Char) :
    readValue (fuel' + 1) (cs ++ more) = .ok (v, rest ++ more) := by
  unfold readValue at h
  split at h
  · rename_i cs
    split at h
    · cases h
    rename_i htext
    cases h
    have hlength : ('"' :: cs).length ≤ ('"' :: (cs ++ more)).length := by simp
    rw [List.cons_append, readValue]
    simp only [readText_append htext hlength ('"' :: (cs ++ more)).length more]
  · split at h
    · rename_i hclosed
      cases h
      rw [List.cons_append, readValue]
      simp only [skipBlanks_cons_append hclosed more]
    · split at h
      · cases h
      rename_i hitems
      cases h
      have hmore := ih.items _ _ _ hitems _ hfuel more
      rw [← skipBlanks_append_of_begins (beginsValue_of_readItems hitems) more] at hmore
      exact readValue_list hmore
  · split at h
    · rename_i hclosed
      cases h
      rw [List.cons_append, readValue]
      simp only [skipBlanks_cons_append hclosed more]
    · split at h
      · cases h
      rename_i hmembers
      cases h
      have hmore := ih.members _ _ _ hmembers _ hfuel more
      rw [← skipBlanks_append_of_begins (beginsValue_of_readMembers hmembers) more] at hmore
      exact readValue_map hmore
  · split at h
    · cases h
    rename_i hword
    cases h
    obtain ⟨m, hmap⟩ | ⟨d, tail, rfl, hd⟩ := hover
    · cases hmap
    · exact readValue_of_readWord (readWord_append hword hd more) fuel'

theorem readsOn (fuel : Nat) : ReadsOn fuel := by
  induction fuel with
  | zero => exact readsOn_zero
  | succ fuel ih =>
    have hsucc {fuel' : Nat} (h : fuel + 1 ≤ fuel') : ∃ k, fuel' = k + 1 ∧ fuel ≤ k :=
      ⟨fuel' - 1, by omega⟩
    refine ⟨fun cs v rest h hover fuel' hfuel more => ?_, fun cs vs rest h fuel' hfuel more => ?_,
      fun cs es rest h fuel' hfuel more => ?_⟩ <;> obtain ⟨k, rfl, hk⟩ := hsucc hfuel
    · exact ih.value_succ h hover hk more
    · exact ih.items_succ h hk more
    · exact ih.members_succ h hk more

/-! ## Documents -/

/-- If a text begins with a map, it is this map or no document. -/
theorem eq_of_read_append {m : List (Atom × Value)} {front behind : List Char}
    (hfront : read front = .ok (.map m)) (h : read (front ++ behind) = .ok v) : v = .map m := by
  obtain ⟨rest, hvalue, -⟩ := exists_readValue_of_read hfront
  obtain ⟨rest', hvalue', -⟩ := exists_readValue_of_read h
  have hfuel : 2 * front.length + 2 ≤ 2 * (front ++ behind).length + 2 := by
    rw [List.length_append]
    omega
  have hmore := (readsOn _).value _ _ _ hvalue (.inl ⟨m, rfl⟩) _ hfuel behind
  rw [skipBlanks_append_of_begins (beginsValue_of_readValue hvalue) behind, hmore] at hvalue'
  cases hvalue'
  rfl

end DashboardKit.Json
