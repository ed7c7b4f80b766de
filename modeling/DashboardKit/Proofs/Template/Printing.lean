import DashboardKit.Proofs.Except
import DashboardKit.Proofs.Template.Separating
import DashboardKit.Proofs.Value.Parts

/-!
# Values in whole templates

A context can be used for every template exactly if all its values under identifiers have a whole
text: then whatever is rendered can be encoded, and otherwise there is a template that shows the
value at fault (`renders_all_iff`).
-/

set_option autoImplicit false

namespace DashboardKit

open Template

/-- A value has a text for templates, and that text is whole. -/
def Value.Prints (v : Value) : Prop := ∃ t, valueText v = .ok t ∧ t.Whole

namespace Value

theorem prints_null : Prints .null := ⟨[], rfl, Text.whole_nil⟩

theorem prints_text {t : Text} : Prints (.text t) ↔ t.Whole := by
  constructor
  · rintro ⟨_, h, hwhole⟩
    cases h
    exact hwhole
  · exact fun h => ⟨t, rfl, h⟩

/-- An atom prints if it is within the digits and whole. -/
theorem prints_atom {a : Atom} : Prints (.atom a) ↔ a.WithinDigits ∧ a.Whole := by
  cases a with
  | null => exact iff_of_true prints_null ⟨trivial, trivial⟩
  | bool b =>
    refine iff_of_true ⟨_, rfl, ?_⟩ ⟨trivial, trivial⟩
    cases b <;> exact Text.whole_ofString _
  | int n =>
    refine Iff.trans ?_ (and_iff_left trivial).symm
    constructor
    · rintro ⟨t, ht, -⟩
      exact Atom.exists_shown_iff.1 ⟨t, ht⟩
    · intro h
      obtain ⟨t, ht⟩ := Atom.exists_shown_iff.2 h
      exact ⟨t, ht, Atom.whole_shown ht⟩
  | float x => exact iff_of_true ⟨_, rfl, Text.whole_ofChars _⟩ ⟨trivial, trivial⟩
  | text t => exact prints_text.trans (and_iff_right trivial).symm
  | date d => exact iff_of_true ⟨_, rfl, Text.whole_ofChars _⟩ ⟨trivial, trivial⟩
  | moment m => exact iff_of_true ⟨_, rfl, Text.whole_ofChars _⟩ ⟨trivial, trivial⟩
  | bytes b => exact iff_of_true ⟨_, rfl, Text.whole_ofChars _⟩ ⟨trivial, trivial⟩

theorem whole_commaJoined {parts : List Text} (h : ∀ t ∈ parts, t.Whole) :
    (commaJoined parts).Whole := by
  fun_induction commaJoined parts with
  | case1 => exact Text.whole_nil
  | case2 t => exact h t List.mem_cons_self
  | case3 t rest hne ih =>
    rw [List.forall_mem_cons] at h
    exact Text.whole_append.2
      ⟨Text.whole_append.2 ⟨h.1, Text.whole_ofString _⟩, ih h.2⟩

theorem whole_bracketed {opening closing : Char} {parts : List Text} (h : ∀ t ∈ parts, t.Whole) :
    (bracketed opening closing parts).Whole := by
  have hclosing : Text.Whole [(closing : CodePoint)] := Text.whole_cons.2 ⟨rfl, Text.whole_nil⟩
  exact Text.whole_cons.2 ⟨rfl, Text.whole_append.2 ⟨whole_commaJoined h, hclosing⟩⟩

/-- A set prints if its members are within the digits. -/
theorem prints_set {members : List Atom} :
    Prints (.set members) ↔ ∀ a ∈ members, a.WithinDigits := by
  have hshown : (∃ ts, members.mapM Atom.shown = .ok ts) ↔ ∀ a ∈ members, a.WithinDigits := by
    rw [exists_mapM_eq_ok]
    exact forall₂_congr fun a _ => Atom.exists_shown_iff
  have htext : valueText (.set members) =
      if members.isEmpty then .ok "set()"
      else (members.mapM Atom.shown).map (bracketed '\x7b' '\x7d') := rfl
  rw [Prints, htext, ← hshown]
  cases members with
  | nil => exact iff_of_true ⟨_, rfl, Text.whole_ofString _⟩ ⟨[], rfl⟩
  | cons a members =>
    rw [if_neg (by simp)]
    constructor
    · rintro ⟨t, ht, -⟩
      obtain ⟨ts, hts, -⟩ := map_eq_ok.1 ht
      exact ⟨ts, hts⟩
    · rintro ⟨ts, hts⟩
      refine ⟨_, map_eq_ok.2 ⟨ts, hts, rfl⟩, whole_bracketed ?_⟩
      exact (forall_mem_of_mapM_eq_ok hts fun a _ t ht =>
        iff_of_true (Atom.whole_shown ht) trivial).2 fun _ _ => trivial

end Value

namespace Template

variable {d t id : Text} {c : Cut} {context : Entries}

/-! ## Whole templates -/

theorem IsIdentifier.whole (h : IsIdentifier id) : id.Whole := by
  have hbegins : ∀ p, beginsIdentifier p = true → p.isSurrogate = false := by
    intro p hp
    cases p with
    | scalar c => rfl
    | surrogate n => simp [beginsIdentifier] at hp
  have hinside : ∀ p, inIdentifier p = true → p.isSurrogate = false := by
    intro p hp
    cases p with
    | scalar c => rfl
    | surrogate n => simp [inIdentifier, beginsIdentifier] at hp
  obtain ⟨p, rest, rfl, hp, hrest⟩ := h
  exact Text.whole_cons.2 ⟨hbegins p hp, fun q hq => hinside q (hrest q hq)⟩

theorem whole_zipped {texts literals : List Text} (h : texts.length = literals.length) :
    Text.Whole (List.zipWith (· ++ ·) texts literals).flatten ↔
      (∀ t ∈ texts, t.Whole) ∧ ∀ t ∈ literals, t.Whole := by
  induction texts generalizing literals with
  | nil =>
    obtain rfl := List.length_eq_zero_iff.1 h.symm
    simp [Text.whole_nil]
  | cons text texts ih =>
    cases literals with
    | nil => simp at h
    | cons literal literals =>
      have hlength : texts.length = literals.length := Nat.succ.inj h
      rw [List.zipWith_cons_cons, List.flatten_cons, Text.whole_append, Text.whole_append,
        ih hlength, List.forall_mem_cons, List.forall_mem_cons]
      exact and_and_and_comm

/-- A cut with texts in its places is whole if its literal texts are and these texts are. -/
theorem whole_withTexts {texts : List Text} (h : texts.length = c.ids.length) :
    (c.withTexts texts).Whole ↔ (∀ t ∈ c.literals, t.Whole) ∧ ∀ t ∈ texts, t.Whole := by
  have hlength : texts.length = (c.rest.map (·.2)).length := by
    rw [h, Cut.ids, List.length_map, List.length_map]
  rw [Cut.withTexts, Text.whole_append, whole_zipped hlength, Cut.literals, List.forall_mem_cons,
    and_comm (a := ∀ t ∈ texts, Text.Whole t), and_assoc]

theorem CutsInto.isIdentifier (h : CutsInto d t c) : ∀ id ∈ c.ids, IsIdentifier id := by
  induction h with
  | literal nowhere => exact fun id hid => absurd hid List.not_mem_nil
  | placeholder leftmost identifier longest onward ih =>
    exact List.forall_mem_cons.2 ⟨identifier, ih⟩

/-- The literal texts of a whole template are whole. -/
theorem CutsInto.whole_literals (h : CutsInto d t c) (ht : t.Whole) :
    ∀ l ∈ c.literals, l.Whole := by
  rw [← h.withTexts_source] at ht
  exact ((whole_withTexts (List.length_map _)).1 ht).1

/-! ## Rendering -/

theorem prints_iff_textIn :
    ((context.get? id).getD .null).Prints ↔ ∃ text, textIn context id = .ok text ∧ text.Whole := by
  unfold textIn Value.Prints
  simp only [mapError_eq_ok]

/-- A template that is one placeholder is rendered as the text of its value. -/
theorem render_placeholder (hd : d ≠ []) (hid : IsIdentifier id) :
    render d context (d ++ id ++ d) = textIn context id := by
  have hat : PlaceholderAt d (d ++ id ++ d) id [] := ⟨hid, (List.append_nil _).symm⟩
  have hlongest : ∀ id' rest', PlaceholderAt d (d ++ id ++ d) id' rest' →
      id'.length ≤ id.length := by
    rintro id' rest' ⟨-, heq⟩
    have hlength := congrArg List.length heq
    simp only [List.length_append] at hlength
    omega
  rw [render_of_some hd context (hat.placeholder?_eq hlongest), render_nil hd]
  cases textIn context id with
  | error e => rfl
  | ok text =>
    show Except.ok (text ++ []) = Except.ok text
    rw [List.append_nil]

/-- Whatever whole template is rendered can be encoded, exactly if every value under an identifier
prints. -/
theorem renders_all_iff :
    (∀ d t, d ≠ [] → t.Whole →
      ∃ text octets, render d context t = .ok text ∧ Utf8.encode text = .ok octets) ↔
    ∀ id, IsIdentifier id → ((context.get? id).getD .null).Prints := by
  constructor
  · intro hrender id hid
    let dollar : Text := [.scalar '$']
    have hwhole : (dollar ++ id ++ dollar).Whole := by
      have hdollar : dollar.Whole := Text.whole_cons.2 ⟨rfl, Text.whole_nil⟩
      exact Text.whole_append.2 ⟨Text.whole_append.2 ⟨hdollar, hid.whole⟩, hdollar⟩
    have hne : dollar ≠ [] := List.cons_ne_nil _ _
    obtain ⟨text, octets, hrendered, hencode⟩ := hrender dollar _ hne hwhole
    rw [render_placeholder hne hid] at hrendered
    exact prints_iff_textIn.2 ⟨text, hrendered, Text.exists_encode_iff.1 ⟨octets, hencode⟩⟩
  · intro hprints d t hd ht
    have hcut := cutsInto_cutOf d t
    let text : Text → Text := fun id => (textIn context id).toOption.getD []
    have htext : ∀ id ∈ (cutOf d t).ids, textIn context id = .ok (text id) ∧ (text id).Whole := by
      intro id hid
      obtain ⟨u, hu, hwhole⟩ := prints_iff_textIn.1 (hprints id (hcut.isIdentifier id hid))
      have htext : text id = u := by simp only [text, hu, Except.toOption, Option.getD_some]
      rw [htext]
      exact ⟨hu, hwhole⟩
    have hwholeTexts : ∀ u ∈ (cutOf d t).ids.map text, u.Whole :=
      List.forall_mem_map.2 fun id hid => (htext id hid).2
    have hwhole :=
      (whole_withTexts (List.length_map _)).2 ⟨hcut.whole_literals ht, hwholeTexts⟩
    obtain ⟨octets, hencode⟩ := Text.exists_encode_iff.2 hwhole
    refine ⟨_, octets, ?_, hencode⟩
    rw [render_eq_map_withTexts hd, mapM_textIn_eq_ok fun id hid => (htext id hid).1]
    rfl

end Template

end DashboardKit
