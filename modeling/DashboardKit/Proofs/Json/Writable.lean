import DashboardKit.Json.Writer
import DashboardKit.Proofs.Except
import DashboardKit.Proofs.Value.Parts

/-!
# What can be written as JSON

A value can be written exactly if it is built from lists and maps over atoms that JSON has a form
for, whatever the style (`exists_write_iff`).  What is written is whole if everything outside ASCII
is escaped, and otherwise exactly if the value is (`whole_write_iff`).
-/

set_option autoImplicit false

namespace DashboardKit

-- the limit is a number too long to be looked at
attribute [local irreducible] Decimal.exceedsLimit

/-- JSON has a form for an atom. -/
def Atom.Writable : Atom → Prop
  | .int n => Decimal.exceedsLimit n = false
  | .date _ => False
  | .moment _ => False
  | .bytes _ => False
  | _ => True

/-- JSON has a form for a value: lists and maps over atoms that have one. -/
inductive Value.Writable : Value → Prop where
  | atom {a : Atom} : a.Writable → Writable (.atom a)
  | list {items : List Value} : (∀ v ∈ items, Writable v) → Writable (.list items)
  | map {entries : List (Atom × Value)} :
      (∀ e ∈ entries, e.1.Writable) → (∀ e ∈ entries, Writable e.2) → Writable (.map entries)

namespace Value

theorem writable_atom {a : Atom} : Writable (.atom a) ↔ a.Writable :=
  ⟨fun h => by cases h; assumption, .atom⟩

theorem writable_list {items : List Value} : Writable (.list items) ↔ ∀ v ∈ items, v.Writable :=
  ⟨fun h => by cases h; assumption, .list⟩

theorem writable_map {entries : List (Atom × Value)} :
    Writable (.map entries) ↔ ∀ e ∈ entries, e.1.Writable ∧ e.2.Writable := by
  constructor
  · rintro (_ | _ | ⟨hkeys, hvalues⟩)
    exact fun e he => ⟨hkeys e he, hvalues e he⟩
  · exact fun h => .map (fun e he => (h e he).1) fun e he => (h e he).2

theorem not_writable_set {members : List Atom} : ¬ Writable (.set members) := nofun

theorem not_writable_cycle : ¬ Writable .cycle := nofun

end Value

namespace Json

variable {s : Style} {depth : Nat} {v : Value} {t : Text}

/-! ## Lists and maps item by item -/

/-- An entry of a map at a depth. -/
def writeEntry (s : Style) (depth : Nat) (e : Atom × Value) : Except WriteFault Text := do
  let key ← keyText s.indent.isNone e.1
  let t ← writeAt s depth e.2
  return writeText s.asciiOnly key ++ (": " : Text) ++ t

theorem writeItems_eq_mapM (s : Style) (depth : Nat) (items : List Value) :
    writeItems s depth items = items.mapM (writeAt s depth) := by
  induction items with
  | nil => rfl
  | cons v rest ih =>
    rw [writeItems, List.mapM_cons, ih]
    cases writeAt s depth v with
    | error e => rfl
    | ok t => cases rest.mapM (writeAt s depth) <;> rfl

theorem writeEntries_eq_mapM (s : Style) (depth : Nat) (entries : List (Atom × Value)) :
    writeEntries s depth entries = entries.mapM (writeEntry s depth) := by
  induction entries with
  | nil => rfl
  | cons e rest ih =>
    rw [writeEntries, List.mapM_cons, ih, writeEntry]
    cases keyText s.indent.isNone e.1 with
    | error f => rfl
    | ok key =>
      cases writeAt s depth e.2 with
      | error f => rfl
      | ok t => cases rest.mapM (writeEntry s depth) <;> rfl

theorem writeEntry_eq_ok {e : Atom × Value} :
    writeEntry s depth e = .ok t ↔ ∃ key value, keyText s.indent.isNone e.1 = .ok key ∧
      writeAt s depth e.2 = .ok value ∧
      t = writeText s.asciiOnly key ++ (": " : Text) ++ value := by
  unfold writeEntry
  cases keyText s.indent.isNone e.1 with
  | error f => simp [bind, Except.bind]
  | ok key =>
    cases writeAt s depth e.2 <;>
      simp [bind, Except.bind, pure, Except.pure, eq_comm]

/-! ## Which values can be written -/

theorem exists_writeInt_iff {n : Int} :
    (∃ t, writeInt n = .ok t) ↔ Decimal.exceedsLimit n = false := by
  rw [← exists_showInt_iff]
  delta writeInt
  cases showInt n <;> simp

theorem exists_writeAtom_iff (asciiOnly : Bool) {a : Atom} :
    (∃ t, writeAtom asciiOnly a = .ok t) ↔ a.Writable := by
  cases a with
  | int n => exact exists_writeInt_iff
  | _ => simp [writeAtom, Atom.Writable]

theorem exists_keyText_iff (oneLine : Bool) {a : Atom} :
    (∃ t, keyText oneLine a = .ok t) ↔ a.Writable := by
  cases a with
  | int n => exact exists_writeInt_iff
  | _ => simp [keyText, Atom.Writable]

theorem exists_writeAt_iff (s : Style) (depth : Nat) (v : Value) :
    (∃ t, writeAt s depth v = .ok t) ↔ v.Writable := by
  induction v using Value.byParts generalizing depth with
  | atom a =>
    rw [Value.writable_atom, ← exists_writeAtom_iff s.asciiOnly]
    rfl
  | list items ih =>
    rw [Value.writable_list, writeAt, exists_map_eq_ok, writeItems_eq_mapM, exists_mapM_eq_ok]
    exact forall₂_congr fun v hv => ih v hv (depth + 1)
  | map entries ih =>
    rw [Value.writable_map, writeAt, exists_map_eq_ok, writeEntries_eq_mapM, exists_mapM_eq_ok]
    refine forall₂_congr fun e he => ?_
    rw [← ih e he (depth + 1), ← exists_keyText_iff s.indent.isNone]
    simp only [writeEntry_eq_ok]
    constructor
    · rintro ⟨_, key, value, hkey, hvalue, -⟩
      exact ⟨⟨key, hkey⟩, value, hvalue⟩
    · rintro ⟨⟨key, hkey⟩, value, hvalue⟩
      exact ⟨_, key, value, hkey, hvalue, rfl⟩
  | set members => exact iff_of_false nofun Value.not_writable_set
  | cycle => exact iff_of_false nofun Value.not_writable_cycle

/-- The values that can be written, in whatever style. -/
theorem exists_write_iff (s : Style) (v : Value) : (∃ t, write s v = .ok t) ↔ v.Writable :=
  exists_writeAt_iff s 0 v

/-! ## Layouts -/

/-- What a layout puts around and between what it lays out. -/
def layoutPoints : List CodePoint := [' ', '\n', ',', ':', '[', ']', '\x7b', '\x7d']

section

variable {P : CodePoint → Prop}

theorem forall_mem_break (hP : ∀ p ∈ layoutPoints, P p) (s : Style) (depth : Nat) :
    ∀ p ∈ s.break depth, P p := by
  unfold Style.break
  split
  · exact fun _ hp => absurd hp List.not_mem_nil
  · refine List.forall_mem_cons.2 ⟨hP _ (by decide), fun p hp => ?_⟩
    rw [List.eq_of_mem_replicate hp]
    exact hP _ (by decide)

theorem forall_mem_comma (hP : ∀ p ∈ layoutPoints, P p) (s : Style) (depth : Nat) :
    ∀ p ∈ s.comma depth, P p := by
  have hcomma : P ',' := hP _ (by decide)
  unfold Style.comma
  split
  · exact List.forall_mem_cons.2 ⟨hcomma, List.forall_mem_singleton.2 (hP _ (by decide))⟩
  · exact List.forall_mem_cons.2 ⟨hcomma, forall_mem_break hP s depth⟩

theorem forall_mem_separated (hP : ∀ p ∈ layoutPoints, P p) {parts : List Text} :
    (∀ p ∈ s.separated depth parts, P p) ↔ ∀ t ∈ parts, ∀ p ∈ t, P p := by
  fun_induction Style.separated s depth parts with
  | case1 =>
    exact ⟨fun _ _ ht => absurd ht List.not_mem_nil, fun _ _ hp => absurd hp List.not_mem_nil⟩
  | case2 t => simp
  | case3 t rest hne ih =>
    rw [List.forall_mem_append, List.forall_mem_append, ih, List.forall_mem_cons]
    exact and_congr_left fun _ => and_iff_left (forall_mem_comma hP s depth)

/-- What holds of the layout holds of all that is laid out exactly if it holds of the parts. -/
theorem forall_mem_enclosed (hP : ∀ p ∈ layoutPoints, P p) {opening closing : Char}
    (hopening : (opening : CodePoint) ∈ layoutPoints)
    (hclosing : (closing : CodePoint) ∈ layoutPoints) {parts : List Text} :
    (∀ p ∈ s.enclosed opening closing depth parts, P p) ↔ ∀ t ∈ parts, ∀ p ∈ t, P p := by
  have hopening' := hP _ hopening
  have hclosing' : ∀ p ∈ [(closing : CodePoint)], P p :=
    List.forall_mem_singleton.2 (hP _ hclosing)
  unfold Style.enclosed
  split
  · exact iff_of_true (List.forall_mem_cons.2 ⟨hopening', hclosing'⟩)
      fun _ ht => absurd ht List.not_mem_nil
  · rw [List.forall_mem_cons, List.forall_mem_append, List.forall_mem_append,
      List.forall_mem_append, forall_mem_separated hP, and_iff_right hopening',
      and_iff_left hclosing', and_iff_left (forall_mem_break hP s depth),
      and_iff_right (forall_mem_break hP s (depth + 1))]

end

/-! ## Which written texts are whole -/

theorem shortEscape?_surrogate (n : Fin 0x800) : shortEscape? (.surrogate n) = none := by
  simp [shortEscape?]

theorem whole_writePoint {asciiOnly : Bool} {p : CodePoint} :
    (writePoint asciiOnly p).Whole ↔ asciiOnly = true ∨ p.isSurrogate = false := by
  cases p with
  | scalar c =>
    refine iff_of_true ?_ (.inr rfl)
    unfold writePoint
    split
    · exact Text.whole_cons.2 ⟨rfl, Text.whole_cons.2 ⟨rfl, Text.whole_nil⟩⟩
    · simp only
      split
      · exact Text.whole_ofChars _
      · exact Text.whole_cons.2 ⟨rfl, Text.whole_nil⟩
  | surrogate n =>
    have hvalue : 0xD800 ≤ (CodePoint.surrogate n).value := Nat.le_add_right _ _
    simp only [writePoint, shortEscape?_surrogate]
    split
    · rename_i hescaped
      have hascii : asciiOnly = true := by
        rcases hescaped with hcontrol | ⟨hascii, -⟩
        · omega
        · exact hascii
      exact iff_of_true (Text.whole_ofChars _) (.inl hascii)
    · rename_i hplain
      have hnotAscii : asciiOnly ≠ true := fun hascii => hplain (.inr ⟨hascii, by omega⟩)
      have hsurrogate : (CodePoint.surrogate n).isSurrogate ≠ false := Bool.noConfusion
      exact iff_of_false (fun h => hsurrogate (Text.whole_cons.1 h).1)
        (not_or.2 ⟨hnotAscii, hsurrogate⟩)

theorem forall_or_iff {α : Type} {A : Prop} {P : α → Prop} {l : List α} :
    (∀ a ∈ l, A ∨ P a) ↔ A ∨ ∀ a ∈ l, P a := by
  by_cases hA : A <;> simp [hA]

/-- A text in quotes is whole if everything outside ASCII is escaped or the text is. -/
theorem whole_writeText {asciiOnly : Bool} {t : Text} :
    (writeText asciiOnly t).Whole ↔ asciiOnly = true ∨ t.Whole := by
  have hquote : Text.Whole [('"' : CodePoint)] := Text.whole_cons.2 ⟨rfl, Text.whole_nil⟩
  rw [writeText, Text.whole_cons, Text.whole_append, Text.whole_flatMap]
  simp only [whole_writePoint, hquote, and_true]
  rw [forall_or_iff]
  exact and_iff_right rfl

theorem whole_writeInt {n : Int} {t : Text} (h : writeInt n = .ok t) : t.Whole := by
  delta writeInt at h
  cases hshow : showInt n with
  | error e => simp [hshow] at h
  | ok t' =>
    obtain rfl : t' = t := by simpa [hshow] using h
    exact whole_showInt hshow

theorem whole_writeAtom {asciiOnly : Bool} {a : Atom} {t : Text}
    (h : writeAtom asciiOnly a = .ok t) : t.Whole ↔ asciiOnly = true ∨ a.Whole := by
  cases a with
  | null => cases h; exact iff_of_true (Text.whole_ofString _) (.inr trivial)
  | bool b => cases h; cases b <;> exact iff_of_true (Text.whole_ofString _) (.inr trivial)
  | int n => exact iff_of_true (whole_writeInt h) (.inr trivial)
  | float x => cases h; exact iff_of_true (Text.whole_ofChars _) (.inr trivial)
  | text t => cases h; exact whole_writeText
  | date d => simp [writeAtom] at h
  | moment m => simp [writeAtom] at h
  | bytes b => simp [writeAtom] at h

theorem whole_keyText {oneLine : Bool} {a : Atom} {t : Text} (h : keyText oneLine a = .ok t) :
    t.Whole ↔ a.Whole := by
  cases a with
  | null => cases h; exact iff_of_true (Text.whole_ofString _) trivial
  | bool b => cases h; cases b <;> exact iff_of_true (Text.whole_ofString _) trivial
  | int n => exact iff_of_true (whole_writeInt h) trivial
  | float x => cases h; exact iff_of_true (Text.whole_ofChars _) trivial
  | text t => cases h; exact Iff.rfl
  | date d => simp [keyText] at h
  | moment m => simp [keyText] at h
  | bytes b => simp [keyText] at h

/-- What is written is whole if everything outside ASCII is escaped or the value is whole. -/
theorem whole_writeAt_iff (h : writeAt s depth v = .ok t) :
    t.Whole ↔ s.asciiOnly = true ∨ v.Whole := by
  have hlayout : ∀ p ∈ layoutPoints, p.isSurrogate = false := by decide
  induction v using Value.byParts generalizing depth t with
  | atom a =>
    rw [Value.whole_atom]
    exact whole_writeAtom h
  | list items ih =>
    rw [writeAt, map_eq_ok] at h
    obtain ⟨parts, hparts, rfl⟩ := h
    rw [writeItems_eq_mapM] at hparts
    refine (forall_mem_enclosed hlayout (by decide) (by decide)).trans ?_
    rw [Value.whole_list, ← forall_or_iff]
    exact forall_mem_of_mapM_eq_ok hparts fun v hv t ht => ih v hv ht
  | map entries ih =>
    rw [writeAt, map_eq_ok] at h
    obtain ⟨parts, hparts, rfl⟩ := h
    rw [writeEntries_eq_mapM] at hparts
    refine (forall_mem_enclosed hlayout (by decide) (by decide)).trans ?_
    rw [Value.whole_map, ← forall_or_iff]
    refine forall_mem_of_mapM_eq_ok hparts fun e he t ht => ?_
    obtain ⟨key, value, hkey, hvalue, rfl⟩ := writeEntry_eq_ok.1 ht
    have hcolon : Text.Whole (": " : Text) := Text.whole_ofString _
    have hrest : value.Whole ↔ s.asciiOnly = true ∨ e.2.Whole := ih e he hvalue
    change Text.Whole _ ↔ _
    rw [Text.whole_append, Text.whole_append, whole_writeText, hrest, whole_keyText hkey,
      and_iff_left hcolon, ← or_and_left]
  | set members => simp [writeAt] at h
  | cycle => simp [writeAt] at h

theorem whole_write_iff (h : write s v = .ok t) : t.Whole ↔ s.asciiOnly = true ∨ v.Whole :=
  whole_writeAt_iff h

end Json

end DashboardKit
