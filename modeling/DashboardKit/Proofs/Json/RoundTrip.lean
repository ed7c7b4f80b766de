import DashboardKit.Proofs.Json.Numbers
import DashboardKit.Proofs.Json.Reading
import DashboardKit.Proofs.Json.Texts
import Mathlib.Data.List.TakeWhile

/-!
# Documents read back

A document with legible texts that was written is read back, in whatever style it was written: the
same lists and maps, the same order of keys and the same atoms, floating-point numbers apart, which
become what their texts are read as.

Main statement: `read_write`.
-/

set_option autoImplicit false

namespace DashboardKit

/-! ## What is read back -/

/-- The atom that is read where an atom was written. -/
def Atom.reread : Atom → Atom
  | .float x => .float x.reread
  | a => a

namespace Value

mutual

/-- The value that is read where a value was written. -/
def reread : Value → Value
  | .atom a => .atom a.reread
  | .list items => .list (rereadItems items)
  | .map entries => .map (rereadEntries entries)
  | .set members => .set members
  | .cycle => .cycle

/-- The items that are read where items were written. -/
def rereadItems : List Value → List Value
  | [] => []
  | v :: rest => reread v :: rereadItems rest

/-- The entries that are read where entries were written; keys are texts and stay. -/
def rereadEntries : List (Atom × Value) → List (Atom × Value)
  | [] => []
  | (k, v) :: rest => (k, reread v) :: rereadEntries rest

end

theorem rereadItems_eq_map (items : List Value) : rereadItems items = items.map reread := by
  induction items with
  | nil => rfl
  | cons v items ih => rw [rereadItems, ih, List.map_cons]

theorem rereadEntries_eq_map (entries : List (Atom × Value)) :
    rereadEntries entries = entries.map fun e => (e.1, e.2.reread) := by
  induction entries with
  | nil => rfl
  | cons e entries ih => rw [rereadEntries, ih, List.map_cons]

/-- No floating-point number is in a value. -/
inductive FloatFree : Value → Prop where
  | atom {a : Atom} : (∀ x, a ≠ .float x) → FloatFree (.atom a)
  | list {items : List Value} : (∀ v ∈ items, FloatFree v) → FloatFree (.list items)
  | map {entries : List (Atom × Value)} : (∀ e ∈ entries, FloatFree e.2) →
      FloatFree (.map entries)

/-- What is read back where there are no floating-point numbers is the value itself. -/
theorem FloatFree.reread_eq {v : Value} (h : v.FloatFree) : v.reread = v := by
  induction h with
  | @atom a ha =>
    cases a with
    | float x => exact absurd rfl (ha x)
    | _ => rfl
  | @list items _ ih =>
    have hitems : items.map reread = items.map id := List.map_congr_left ih
    rw [reread, rereadItems_eq_map, hitems, List.map_id]
  | @map entries _ ih =>
    have hentries : entries.map (fun e => (e.1, e.2.reread)) = entries.map id := by
      refine List.map_congr_left ?_
      intro e he
      rw [ih e he, id]
    rw [reread, rereadEntries_eq_map, hentries, List.map_id]

end Value

namespace Json

open Decimal

attribute [local irreducible] Decimal.exceedsLimit Decimal.digitLimit

variable {s : Style} {depth fuel : Nat} {v w : Value} {cs rest blanks : List Char}

/-! ## Blanks -/

theorem skipBlanks_append (h : ∀ c ∈ blanks, isBlank c = true) (cs : List Char) :
    skipBlanks (blanks ++ cs) = skipBlanks cs := List.dropWhile_append_of_pos h

theorem skipBlanks_cons {c : Char} (h : isBlank c = false) (cs : List Char) :
    skipBlanks (c :: cs) = c :: cs :=
  List.dropWhile_cons_of_neg (by rw [h]; exact Bool.noConfusion)

theorem isBlank_of_mem_break (s : Style) (depth : Nat) :
    ∀ c ∈ Text.scalars (s.break depth), isBlank c = true := by
  unfold Style.break
  split
  · exact fun c hc => absurd hc List.not_mem_nil
  · rename_i n _
    have hspaces (k : Nat) :
        Text.scalars (List.replicate k (' ' : CodePoint)) = List.replicate k ' ' := by
      induction k with
      | zero => rfl
      | succ k ih => exact congrArg (' ' :: ·) ih
    rw [Text.scalars_cons_scalar, hspaces]
    refine List.forall_mem_cons.2 ⟨rfl, fun c hc => ?_⟩
    rw [List.eq_of_mem_replicate hc]
    rfl

theorem exists_scalars_comma (s : Style) (depth : Nat) :
    ∃ blanks, Text.scalars (s.comma depth) = ',' :: blanks ∧ ∀ c ∈ blanks, isBlank c = true := by
  unfold Style.comma
  split
  · exact ⟨[' '], rfl, List.forall_mem_singleton.2 rfl⟩
  · exact ⟨_, rfl, isBlank_of_mem_break s depth⟩

theorem endsNumber_blanks (h : ∀ c ∈ blanks, isBlank c = true) (hrest : EndsNumber rest) :
    EndsNumber (blanks ++ rest) := by
  cases blanks with
  | nil => exact hrest
  | cons c blanks =>
    have hc : isBlank c = true := h c List.mem_cons_self
    intro d hd
    obtain rfl := Option.some.inj hd
    refine ⟨?_, ?_, ?_, ?_⟩
    · rw [← Bool.not_eq_true]
      intro hdigit
      simp only [isBlank, Bool.or_eq_true, beq_iff_eq] at hc
      rcases hc with ((rfl | rfl) | rfl) | rfl <;> cases hdigit
    all_goals
      rintro rfl
      cases hc

/-! ## What values begin with -/

/-- The characters that may stand where a value is looked for and do not begin one. -/
def strays : List Char := [' ', '\t', '\n', '\r', ']', '\ufeff']

/-- A text begins with none of these. -/
def BeginsValue (cs : List Char) : Prop := ∃ c rest, cs = c :: rest ∧ c ∉ strays

theorem BeginsValue.skipBlanks (h : BeginsValue cs) : skipBlanks cs = cs := by
  obtain ⟨c, rest, rfl, hc⟩ := h
  refine skipBlanks_cons ?_ rest
  rw [← Bool.not_eq_true]
  intro hblank
  simp only [isBlank, Bool.or_eq_true, beq_iff_eq] at hblank
  rcases hblank with ((rfl | rfl) | rfl) | rfl <;> exact hc (by decide)

/-- The characters that begin texts, lists and maps. -/
def openings : List Char := ['"', '[', '\x7b']

/-- Neither begins a name or a number. -/
theorem exists_readWord_error {c : Char} (hc : c ∈ strays ++ openings) (cs : List Char) :
    ∃ e, readWord (c :: cs) = .error e := by
  have hletters : c ∉ ['n', 't', 'f', 'N', 'I', '-', '0'] := by
    have hall : ∀ c ∈ strays ++ openings, c ∉ ['n', 't', 'f', 'N', 'I', '-', '0'] :=
      forall_mem_of_all (by decide)
    exact hall c hc
  have hdigit : isDigit c = false := by
    have hall : ∀ c ∈ strays ++ openings, isDigit c = false := forall_mem_of_all (by decide)
    exact hall c hc
  simp only [List.mem_cons, not_or] at hletters
  obtain ⟨hn, ht, hf, hN, hI, hminus, hzero, -⟩ := hletters
  have hnone : (names.findSome? fun name =>
      (afterName? name.1 (c :: cs)).map fun rest => (name.2, rest)) = none := by
    simp [names, afterName?, Ne.symm hn, Ne.symm ht, Ne.symm hf, Ne.symm hN, Ne.symm hI,
      Ne.symm hminus]
  have hwhole : (splitWhole (c :: cs)).1 = [] := by
    unfold splitWhole
    split
    · rename_i heq
      cases heq
      exact absurd rfl hzero
    · exact List.takeWhile_cons_of_neg (by rw [hdigit]; exact Bool.noConfusion)
  refine ⟨.malformed .value (c :: cs).length, ?_⟩
  rw [readWord, hnone]
  simp [readNumber, hminus, hwhole]

/-- A value that begins otherwise is a name or a number. -/
theorem readValue_word {c : Char} (hc : c ∉ openings) (fuel : Nat) (cs : List Char) :
    readValue (fuel + 1) (c :: cs) = (readWord (c :: cs)).map fun r => (.atom r.1, r.2) := by
  have hother : c ≠ '"' ∧ c ≠ '[' ∧ c ≠ '\x7b' := by
    refine ⟨?_, ?_, ?_⟩ <;> (rintro rfl; exact hc (by decide))
  unfold readValue
  split
  · rename_i heq
    cases heq
    exact absurd rfl hother.1
  · rename_i heq
    cases heq
    exact absurd rfl hother.2.1
  · rename_i heq
    cases heq
    exact absurd rfl hother.2.2
  · cases readWord (c :: cs) <;> rfl

/-- What is read as a value begins one. -/
theorem beginsValue_of_readValue (h : readValue fuel cs = .ok (v, rest)) : BeginsValue cs := by
  cases fuel with
  | zero => cases h
  | succ fuel =>
    cases cs with
    | nil => cases h
    | cons c cs =>
      refine ⟨c, cs, rfl, fun hc => ?_⟩
      have hopening : c ∉ openings := by
        have hall : ∀ c ∈ strays, c ∉ openings := forall_mem_of_all (by decide)
        exact hall c hc
      obtain ⟨e, he⟩ := exists_readWord_error (List.mem_append_left openings hc) cs
      rw [readValue_word hopening, he] at h
      cases h

theorem beginsValue_of_readItems {vs : List Value} (h : readItems fuel cs = .ok (vs, rest)) :
    BeginsValue cs := by
  cases fuel with
  | zero => cases h
  | succ fuel =>
    unfold readItems at h
    split at h
    · cases h
    · rename_i hvalue
      exact beginsValue_of_readValue hvalue

/-! ## Lists -/

theorem separated_cons_cons (s : Style) (depth : Nat) (t t' : Text) (parts : List Text) :
    s.separated depth (t :: t' :: parts)
      = t ++ s.comma depth ++ s.separated depth (t' :: parts) := rfl

/-- So much fuel is enough to read a written value back, whatever comes after it. -/
def ReadsBack (s : Style) (v : Value) : Prop :=
  ∀ (depth : Nat) (t : Text), writeAt s depth v = .ok t → ∀ (fuel : Nat) (rest : List Char),
    2 * (Text.scalars t).length ≤ fuel → EndsNumber rest →
      readValue fuel (Text.scalars t ++ rest) = .ok (v.reread, rest)

theorem endsNumber_cons {c : Char} (h : c ∈ [',', ']', '\x7d']) (cs : List Char) :
    EndsNumber (c :: cs) := by
  intro d hd
  obtain rfl := Option.some.inj hd
  have hall : ∀ c ∈ [',', ']', '\x7d'],
      Decimal.isDigit c = false ∧ c ≠ '.' ∧ c ≠ 'e' ∧ c ≠ 'E' := forall_mem_of_all (by decide)
  exact hall c h

theorem writeItems_cons_eq_ok {items : List Value} {parts : List Text}
    (h : writeItems s depth (v :: items) = .ok parts) :
    ∃ t parts', writeAt s depth v = .ok t ∧ writeItems s depth items = .ok parts' ∧
      parts = t :: parts' := by
  rw [writeItems] at h
  split at h
  · cases h
  · rename_i t ht
    obtain ⟨parts', hparts', rfl⟩ := map_eq_ok.1 h
    exact ⟨t, parts', ht, hparts', rfl⟩

/-- Items that were written one after the other are read back, up to the bracket behind them. -/
theorem readItems_separated {items : List Value} (hitems : items ≠ [])
    (hback : ∀ v ∈ items, ReadsBack s v) (hblanks : ∀ c ∈ blanks, isBlank c = true)
    {parts : List Text} (hparts : writeItems s depth items = .ok parts)
    (hfuel : 2 * (Text.scalars (s.separated depth parts)).length + 1 ≤ fuel) :
    readItems fuel (Text.scalars (s.separated depth parts) ++ (blanks ++ ']' :: rest))
      = .ok (Value.rereadItems items, rest) := by
  induction items generalizing parts fuel with
  | nil => exact absurd rfl hitems
  | cons v items ih =>
    rw [List.forall_mem_cons] at hback
    obtain ⟨fuel, rfl⟩ : ∃ n, fuel = n + 1 := ⟨fuel - 1, by omega⟩
    obtain ⟨t, parts', ht, hparts', rfl⟩ := writeItems_cons_eq_ok hparts
    cases items with
    | nil =>
      obtain rfl : parts' = [] := (Except.ok.inj hparts').symm
      have hclose := endsNumber_blanks hblanks (@endsNumber_cons ']' (by decide) rest)
      rw [Style.separated] at hfuel ⊢
      rw [readItems, hback.1 depth t ht fuel _ (by omega) hclose]
      simp only [skipBlanks_append hblanks, skipBlanks_cons (show isBlank ']' = false from rfl)]
      rfl
    | cons w items =>
      obtain ⟨t', parts'', -, -, rfl⟩ := writeItems_cons_eq_ok hparts'
      obtain ⟨spaces, hcomma, hspaces⟩ := exists_scalars_comma s depth
      rw [separated_cons_cons, Text.scalars_append, Text.scalars_append, hcomma, List.length_append,
        List.length_append, List.length_cons] at hfuel
      have hrest := ih (List.cons_ne_nil _ _) hback.2 hparts' (show _ ≤ fuel by omega)
      have hnext := endsNumber_cons (by decide : ',' ∈ [',', ']', '\x7d'])
        (spaces ++ (Text.scalars (s.separated depth (t' :: parts'')) ++ (blanks ++ ']' :: rest)))
      rw [separated_cons_cons, Text.scalars_append, Text.scalars_append, hcomma, List.append_assoc,
        List.append_assoc, List.cons_append, readItems,
        hback.1 depth t ht fuel _ (by omega) hnext]
      simp only [skipBlanks_cons (show isBlank ',' = false from rfl), skipBlanks_append hspaces,
        (beginsValue_of_readItems hrest).skipBlanks, hrest]
      rfl

theorem readValue_list {items : List Value}
    (h : readItems fuel (skipBlanks cs) = .ok (items, rest)) :
    readValue (fuel + 1) ('[' :: cs) = .ok (.list items, rest) := by
  obtain ⟨c, cs', hcs, hc⟩ := beginsValue_of_readItems h
  rw [readValue]
  split
  · rename_i heq
    rw [hcs] at heq
    cases heq
    exact absurd (by decide) hc
  · rw [h]

/-- A list that was written is read back. -/
theorem readsBack_list {items : List Value} (hback : ∀ v ∈ items, ReadsBack s v) :
    ReadsBack s (.list items) := by
  intro depth t ht fuel rest hfuel _
  rw [writeAt, map_eq_ok] at ht
  obtain ⟨parts, hparts, rfl⟩ := ht
  cases items with
  | nil =>
    obtain rfl : parts = [] := (Except.ok.inj hparts).symm
    obtain ⟨fuel, rfl⟩ : ∃ n, fuel = n + 1 := ⟨fuel - 1, by simp [Style.enclosed] at hfuel; omega⟩
    rfl
  | cons v items =>
    obtain ⟨t, parts, -, -, rfl⟩ := writeItems_cons_eq_ok hparts
    have hbefore := isBlank_of_mem_break s (depth + 1)
    have hbehind := isBlank_of_mem_break s depth
    simp only [Style.enclosed, Text.scalars_cons_scalar, Text.scalars_append, List.length_cons,
      List.length_append, Text.scalars_nil] at hfuel
    obtain ⟨fuel, rfl⟩ : ∃ n, fuel = n + 1 := ⟨fuel - 1, by omega⟩
    have hread := @readItems_separated s (depth + 1) fuel rest _ _ (List.cons_ne_nil v items) hback
      hbehind _ hparts (by omega)
    have hskip := (skipBlanks_append hbefore _).trans (beginsValue_of_readItems hread).skipBlanks
    rw [← hskip] at hread
    have hvalue := readValue_list hread
    simpa [Style.enclosed, Value.reread] using hvalue

/-! ## Maps -/

theorem writeEntries_cons_eq_ok {entries : List (Atom × Value)} {k : Text} {parts : List Text}
    (h : writeEntries s depth ((.text k, v) :: entries) = .ok parts) :
    ∃ t parts', writeAt s depth v = .ok t ∧ writeEntries s depth entries = .ok parts' ∧
      parts = (writeText s.asciiOnly k ++ (": " : Text) ++ t) :: parts' := by
  rw [writeEntries, keyText] at h
  dsimp only at h
  split at h
  · cases h
  · rename_i t ht
    obtain ⟨parts', hparts', rfl⟩ := map_eq_ok.1 h
    exact ⟨t, parts', ht, hparts', rfl⟩

/-- What is read as members begins with a quote. -/
theorem exists_quote_of_readMembers {entries : List (Atom × Value)}
    (h : readMembers fuel cs = .ok (entries, rest)) : ∃ cs', cs = '"' :: cs' := by
  cases fuel with
  | zero => cases h
  | succ fuel =>
    unfold readMembers at h
    split at h
    · exact ⟨_, rfl⟩
    · cases h

theorem beginsValue_of_readMembers {entries : List (Atom × Value)}
    (h : readMembers fuel cs = .ok (entries, rest)) : BeginsValue cs := by
  obtain ⟨cs', rfl⟩ := exists_quote_of_readMembers h
  exact ⟨'"', cs', rfl, by decide⟩

/-- A member that was written is read, and it is the last one or more of them follow. -/
theorem readMembers_entry {k t : Text} {entries : List (Atom × Value)}
    (hk : k.Legible s.asciiOnly)
    (hvalue : readValue fuel (Text.scalars t ++ cs) = .ok (w, cs))
    (hnext : skipBlanks cs = '\x7d' :: rest ∧ entries = [] ∨ ∃ cs', skipBlanks cs = ',' :: cs' ∧
      readMembers fuel (skipBlanks cs') = .ok (entries, rest)) :
    readMembers (fuel + 1) (Text.scalars (writeText s.asciiOnly k ++ (": " : Text) ++ t) ++ cs)
      = .ok ((.text k, w) :: entries, rest) := by
  have hcolon : Text.scalars (": " : Text) = [':', ' '] := rfl
  have hbegins := (beginsValue_of_readValue hvalue).skipBlanks
  have hspace : skipBlanks (' ' :: (Text.scalars t ++ cs)) = Text.scalars t ++ cs :=
    (skipBlanks_append (List.forall_mem_singleton.2 rfl : ∀ c ∈ [' '], isBlank c = true) _).trans
      hbegins
  obtain ⟨quoted, hquoted, htext⟩ := readText_writeText hk
  rw [Text.scalars_append, Text.scalars_append, hquoted, hcolon]
  simp only [List.cons_append, List.append_assoc, List.nil_append, readMembers]
  rw [htext _ _ _ (by simp only [List.length_cons, List.length_append]; omega)]
  simp only [skipBlanks_cons (show isBlank ':' = false from rfl), hspace, hvalue]
  rcases hnext with ⟨hlast, rfl⟩ | ⟨cs', hmore, hread⟩
  · simp only [hlast]
  · simp only [hmore, hread]

/-- Members that were written one after the other are read back, up to the brace behind them. -/
theorem readMembers_separated {entries : List (Atom × Value)} (hentries : entries ≠ [])
    (hkeys : ∀ e ∈ entries, ∃ k, e.1 = .text k ∧ k.Legible s.asciiOnly)
    (hback : ∀ e ∈ entries, ReadsBack s e.2) (hblanks : ∀ c ∈ blanks, isBlank c = true)
    {parts : List Text} (hparts : writeEntries s depth entries = .ok parts)
    (hfuel : 2 * (Text.scalars (s.separated depth parts)).length + 1 ≤ fuel) :
    readMembers fuel (Text.scalars (s.separated depth parts) ++ (blanks ++ '\x7d' :: rest))
      = .ok (Value.rereadEntries entries, rest) := by
  induction entries generalizing parts fuel with
  | nil => exact absurd rfl hentries
  | cons e entries ih =>
    obtain ⟨a, v⟩ := e
    rw [List.forall_mem_cons] at hkeys hback
    obtain ⟨k, rfl, hk⟩ := hkeys.1
    obtain ⟨fuel, rfl⟩ : ∃ n, fuel = n + 1 := ⟨fuel - 1, by omega⟩
    obtain ⟨t, parts', ht, hparts', rfl⟩ := writeEntries_cons_eq_ok hparts
    have hlength : (Text.scalars t).length
        ≤ (Text.scalars (writeText s.asciiOnly k ++ (": " : Text) ++ t)).length := by
      rw [Text.scalars_append, List.length_append]
      omega
    cases entries with
    | nil =>
      obtain rfl : parts' = [] := (Except.ok.inj hparts').symm
      have hclose := endsNumber_blanks hblanks (@endsNumber_cons '\x7d' (by decide) rest)
      rw [Style.separated] at hfuel ⊢
      refine readMembers_entry hk (hback.1 depth t ht fuel _ (by omega) hclose) (.inl ⟨?_, rfl⟩)
      rw [skipBlanks_append hblanks, skipBlanks_cons (show isBlank '\x7d' = false from rfl)]
    | cons e entries =>
      obtain ⟨a', v'⟩ := e
      obtain ⟨k', rfl, -⟩ := hkeys.2 _ List.mem_cons_self
      obtain ⟨part, parts'', rfl⟩ : ∃ part parts'', parts' = part :: parts'' := by
        obtain ⟨t', parts'', -, -, rfl⟩ := writeEntries_cons_eq_ok hparts'
        exact ⟨_, parts'', rfl⟩
      obtain ⟨spaces, hcomma, hspaces⟩ := exists_scalars_comma s depth
      rw [separated_cons_cons, Text.scalars_append, Text.scalars_append _ (s.comma depth), hcomma,
        List.length_append, List.length_append, List.length_cons] at hfuel
      have hrest := ih (List.cons_ne_nil _ _) hkeys.2 hback.2 hparts' (show _ ≤ fuel by omega)
      have hnext := endsNumber_cons (by decide : ',' ∈ [',', ']', '\x7d'])
        (spaces ++ (Text.scalars (s.separated depth (part :: parts''))
          ++ (blanks ++ '\x7d' :: rest)))
      rw [separated_cons_cons, Text.scalars_append, Text.scalars_append _ (s.comma depth), hcomma,
        List.append_assoc, List.append_assoc, List.cons_append]
      refine readMembers_entry hk (hback.1 depth t ht fuel _ (by omega) hnext)
        (.inr ⟨_, skipBlanks_cons (show isBlank ',' = false from rfl) _, ?_⟩)
      rw [skipBlanks_append hspaces, (beginsValue_of_readMembers hrest).skipBlanks]
      exact hrest

theorem readValue_map {entries : List (Atom × Value)}
    (h : readMembers fuel (skipBlanks cs) = .ok (entries, rest)) :
    readValue (fuel + 1) ('\x7b' :: cs) = .ok (.map (Entries.ofPairs entries), rest) := by
  obtain ⟨cs', hcs⟩ := exists_quote_of_readMembers h
  rw [readValue]
  split
  · rename_i heq
    rw [hcs] at heq
    cases heq
  · rw [h]

theorem ofPairs_rereadEntries {entries : List (Atom × Value)}
    (hkeys : ∀ e ∈ entries, ∃ k, e.1 = .text k) (hnodup : (entries.map (·.1)).Nodup) :
    Entries.ofPairs (Value.rereadEntries entries) = Value.rereadEntries entries := by
  rw [Value.rereadEntries_eq_map]
  refine Entries.ofPairs_of_nodup ?_ ?_
  · intro e he
    obtain ⟨e', he', rfl⟩ := List.mem_map.1 he
    exact hkeys e' he'
  · rw [List.map_map]
    exact hnodup

/-- A map that was written is read back. -/
theorem readsBack_map {entries : List (Atom × Value)} (hnodup : (entries.map (·.1)).Nodup)
    (hkeys : ∀ e ∈ entries, ∃ k, e.1 = .text k ∧ k.Legible s.asciiOnly)
    (hback : ∀ e ∈ entries, ReadsBack s e.2) : ReadsBack s (.map entries) := by
  intro depth t ht fuel rest hfuel _
  rw [writeAt, map_eq_ok] at ht
  obtain ⟨parts, hparts, rfl⟩ := ht
  cases entries with
  | nil =>
    obtain rfl : parts = [] := (Except.ok.inj hparts).symm
    obtain ⟨fuel, rfl⟩ : ∃ n, fuel = n + 1 := ⟨fuel - 1, by simp [Style.enclosed] at hfuel; omega⟩
    rfl
  | cons e entries =>
    have hsame := ofPairs_rereadEntries (fun e he => (hkeys e he).imp fun _ hk => hk.1) hnodup
    obtain ⟨a, v⟩ := e
    obtain ⟨k, rfl, -⟩ := hkeys _ List.mem_cons_self
    obtain ⟨t, parts, -, -, rfl⟩ := writeEntries_cons_eq_ok hparts
    have hbefore := isBlank_of_mem_break s (depth + 1)
    have hbehind := isBlank_of_mem_break s depth
    simp only [Style.enclosed, Text.scalars_cons_scalar, Text.scalars_append _ (s.break _),
      Text.scalars_append (s.break _), Text.scalars_append _ [_], List.length_cons,
      List.length_append, Text.scalars_nil] at hfuel
    obtain ⟨fuel, rfl⟩ : ∃ n, fuel = n + 1 := ⟨fuel - 1, by omega⟩
    have hread := @readMembers_separated s (depth + 1) fuel rest _ _ (List.cons_ne_nil _ _) hkeys
      hback hbehind _ hparts (by omega)
    have hskip := (skipBlanks_append hbefore _).trans (beginsValue_of_readMembers hread).skipBlanks
    rw [← hskip] at hread
    have hvalue := readValue_map hread
    rw [hsame] at hvalue
    simpa [Style.enclosed, Value.reread] using hvalue

/-! ## Atoms -/

/-- A name or a number that is read is a value. -/
theorem readValue_of_readWord {a : Atom} (h : readWord cs = .ok (a, rest)) (fuel : Nat) :
    readValue (fuel + 1) cs = .ok (.atom a, rest) := by
  cases cs with
  | nil => cases h
  | cons c cs =>
    have hopening : c ∉ openings := by
      intro hc
      obtain ⟨e, he⟩ := exists_readWord_error (List.mem_append_right strays hc) cs
      rw [he] at h
      cases h
    rw [readValue_word hopening, h]
    rfl

/-- A name or a number that is read, whatever comes after it, is a value that is read there. -/
theorem readValue_of_forall_readWord {a : Atom}
    (hword : ∀ rest, EndsNumber rest → readWord (cs ++ rest) = .ok (a, rest))
    (hfuel : 2 * cs.length ≤ fuel) (hrest : EndsNumber rest) :
    readValue fuel (cs ++ rest) = .ok (.atom a, rest) := by
  have hne : cs ≠ [] := by
    rintro rfl
    cases hword [] nofun
  have hlength : 0 < cs.length := List.length_pos_iff.2 hne
  obtain ⟨fuel, rfl⟩ : ∃ n, fuel = n + 1 := ⟨fuel - 1, by omega⟩
  exact readValue_of_readWord (hword rest hrest) fuel

theorem readsBack_text {k : Text} (hk : k.Legible s.asciiOnly) : ReadsBack s (.text k) := by
  intro depth t ht fuel rest hfuel _
  obtain rfl : writeText s.asciiOnly k = t := Except.ok.inj ht
  obtain ⟨quoted, hquoted, htext⟩ := readText_writeText hk
  rw [hquoted, List.length_cons] at hfuel
  obtain ⟨fuel, rfl⟩ : ∃ n, fuel = n + 1 := ⟨fuel - 1, by omega⟩
  rw [hquoted]
  simp only [List.cons_append, readValue]
  rw [htext _ _ _ (by simp only [List.length_cons, List.length_append]; omega)]
  rfl

theorem writeInt_eq_ok {n : Int} {t : Text} (hn : exceedsLimit n = false)
    (h : writeInt n = .ok t) : t = Text.ofChars (intDigits n) := by
  unfold writeInt showInt at h
  simp only [hn, Bool.false_eq_true, if_false] at h
  exact (Except.ok.inj h).symm

/-- An atom that was written is read back. -/
theorem readsBack_atom {a : Atom} (ha : a.Document (Text.Legible s.asciiOnly)) :
    ReadsBack s (.atom a) := by
  cases a with
  | text k => exact readsBack_text ha
  | null =>
    rintro depth t ⟨⟩ fuel rest hfuel hrest
    refine readValue_of_forall_readWord (fun rest _ => ?_) hfuel hrest
    simp [Text.ofString, readWord, names, afterName?]
    rfl
  | bool b =>
    rintro depth t ⟨⟩ fuel rest hfuel hrest
    refine readValue_of_forall_readWord (fun rest _ => ?_) hfuel hrest
    cases b <;> simp [Text.ofString, readWord, names, afterName?] <;> rfl
  | int n =>
    intro depth t ht fuel rest hfuel hrest
    obtain rfl := writeInt_eq_ok ha ht
    refine readValue_of_forall_readWord (fun rest hends => ?_) hfuel hrest
    rw [Text.scalars_ofChars]
    exact readWord_intDigits ha hends
  | float x =>
    rintro depth t ⟨⟩ fuel rest hfuel hrest
    refine readValue_of_forall_readWord (fun rest hends => ?_) hfuel hrest
    rw [writeFloat, Text.scalars_ofChars]
    exact readWord_render hends x
  | date d => exact ha.elim
  | moment m => exact ha.elim
  | bytes b => exact ha.elim

/-! ## Documents -/

theorem readsBack_of_document (hv : v.Document (Text.Legible s.asciiOnly)) : ReadsBack s v := by
  induction hv with
  | atom ha => exact readsBack_atom ha
  | list _ ih => exact readsBack_list ih
  | map hnodup hkeys _ ih => exact readsBack_map hnodup hkeys ih

/-- A document with legible texts that was written is read back, also with blanks behind it. -/
theorem read_write {t : Text} (hv : v.Document (Text.Legible s.asciiOnly))
    (h : write s v = .ok t) (hblanks : ∀ c ∈ blanks, isBlank c = true) :
    read (Text.scalars t ++ blanks) = .ok v.reread := by
  have hends : EndsNumber (blanks ++ []) := endsNumber_blanks hblanks nofun
  rw [List.append_nil] at hends
  have hvalue := readsBack_of_document hv 0 t h
    (2 * (Text.scalars t ++ blanks).length + 2) blanks
    (by rw [List.length_append]; omega) hends
  have hbegins := beginsValue_of_readValue hvalue
  have hdocument : readDocument (Text.scalars t ++ blanks) = .ok v.reread := by
    rw [readDocument, hbegins.skipBlanks, hvalue]
    have hnone : skipBlanks blanks = [] := List.dropWhile_eq_nil_iff.2 hblanks
    simp only [hnone]
  obtain ⟨c, cs, hcs, hc⟩ := hbegins
  have hmark : (Text.scalars t ++ blanks).head? ≠ some '\ufeff' := by
    rw [hcs, List.head?_cons, Ne, Option.some.injEq]
    rintro rfl
    exact hc (by decide)
  rw [read, if_neg hmark, hdocument]

end Json

end DashboardKit
