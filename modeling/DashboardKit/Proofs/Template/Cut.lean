import DashboardKit.Template.Placeholder

/-!
# Cutting templates at their placeholders

`pieces` finds placeholders by scanning; here is what it finds, said without scanning.  A template
is cut into literal texts and placeholders in between.  `CutsInto` says how: no placeholder begins
before the first one, the first one has the longest identifier that a delimiter follows, and what
comes after it is cut in the same way.  A template has exactly one such cut.

Main statements: `cutsInto_cutOf` and `CutsInto.eq_cutOf`, the pieces of a template are its one
cut, and `render_eq_concatenation`, rendering puts the texts of values between the literal texts of
this cut, whatever the values are.
-/

set_option autoImplicit false

namespace DashboardKit.Template

/-! ## Identifiers -/

/-- An ASCII letter or underline, and then letters, underlines and digits. -/
def IsIdentifier (id : Text) : Prop :=
  ∃ p rest, id = p :: rest ∧ beginsIdentifier p = true ∧ ∀ q ∈ rest, inIdentifier q = true

theorem IsIdentifier.ne_nil {id : Text} (h : IsIdentifier id) : id ≠ [] := by
  obtain ⟨p, rest, rfl, -, -⟩ := h
  exact List.cons_ne_nil p rest

instance : DecidablePred IsIdentifier
  | [] => isFalse fun h => h.ne_nil rfl
  | p :: rest =>
    decidable_of_iff (beginsIdentifier p = true ∧ ∀ q ∈ rest, inIdentifier q = true)
      ⟨fun h => ⟨p, rest, rfl, h.1, h.2⟩, by rintro ⟨_, _, ⟨⟩, hp, hrest⟩; exact ⟨hp, hrest⟩⟩

/-- A start of a text is an identifier if it is no longer than the longest one. -/
theorem isIdentifier_take {t : Text} {n : Nat} (hpos : 0 < n) (hn : n ≤ identifierLength t) :
    IsIdentifier (t.take n) := by
  cases t with
  | nil => simp only [identifierLength, Nat.le_zero] at hn; omega
  | cons p t =>
    simp only [identifierLength] at hn
    split at hn
    · rename_i hp
      obtain ⟨m, rfl⟩ : ∃ m, n = m + 1 := ⟨n - 1, by omega⟩
      refine ⟨p, t.take m, rfl, hp, ?_⟩
      intro q hq
      -- the first `m` code points lie inside the run of identifier code points
      have hlen : (t.take m).length ≤ (t.takeWhile inIdentifier).length := by
        simp only [List.length_take]
        omega
      have hrun : t.take m <+: t.takeWhile inIdentifier :=
        List.prefix_of_prefix_length_le (List.take_prefix m t)
          (List.takeWhile_prefix inIdentifier) hlen
      exact (List.all_eq_true.1 List.all_takeWhile) q (hrun.subset hq)
    · omega

/-- No identifier at the front is longer than the longest one. -/
theorem IsIdentifier.length_le {id rest : Text} (h : IsIdentifier id) :
    id.length ≤ identifierLength (id ++ rest) := by
  obtain ⟨p, tail, rfl, hp, htail⟩ := h
  simp only [List.cons_append, identifierLength, hp, if_true, List.length_cons]
  rw [List.takeWhile_append_of_pos htail, List.length_append]
  omega

/-! ## Placeholders -/

/-- A placeholder with this identifier stands at the front of a text, and `rest` comes after it. -/
def PlaceholderAt (d t id rest : Text) : Prop := IsIdentifier id ∧ t = d ++ id ++ d ++ rest

theorem PlaceholderAt.ne_nil {d t id rest : Text} (h : PlaceholderAt d t id rest) : t ≠ [] := by
  rintro rfl
  have hlen := congrArg List.length h.2
  have := List.length_pos_iff.2 h.1.ne_nil
  simp only [List.length_nil, List.length_append] at hlen
  omega

/-- Two placeholders at one place with identifiers of one length are the same. -/
theorem PlaceholderAt.unique {d t id id' rest rest' : Text} (h : PlaceholderAt d t id rest)
    (h' : PlaceholderAt d t id' rest') (hlen : id.length = id'.length) :
    id = id' ∧ rest = rest' := by
  have heq : d ++ id ++ d ++ rest = d ++ id' ++ d ++ rest' := h.2.symm.trans h'.2
  simp only [List.append_assoc, List.append_cancel_left_eq] at heq
  obtain ⟨hid, htail⟩ := List.append_inj heq hlen
  exact ⟨hid, List.append_cancel_left htail⟩

/-- A start that a delimiter follows is tried, and a shorter one only after it. -/
theorem closedStart?_of_after? {d t rest : Text} {m n : Nat} (hpos : 0 < m) (hm : m ≤ n)
    (hn : n ≤ t.length) (h : Text.after? d (t.drop m) = some rest) :
    ∃ id rest', closedStart? d t n = some (id, rest') ∧ m ≤ id.length ∧ id.length ≤ n := by
  induction n with
  | zero => omega
  | succ n ih =>
    cases hlast : Text.after? d (t.drop (n + 1)) with
    | some r =>
      refine ⟨t.take (n + 1), r, by simp only [closedStart?, hlast], ?_⟩
      simp only [List.length_take]
      omega
    | none =>
      have hlt : m ≠ n + 1 := by
        rintro rfl
        simp [hlast] at h
      obtain ⟨id, rest', hfound, hle, hle'⟩ := ih (by omega) (by omega)
      exact ⟨id, rest', by simpa only [closedStart?, hlast] using hfound, hle, by omega⟩

/-- What is found at the front is an identifier. -/
theorem isIdentifier_of_closedStart? {d t id rest : Text} {n : Nat} (hn : n ≤ identifierLength t)
    (h : closedStart? d t n = some (id, rest)) : IsIdentifier id := by
  induction n with
  | zero => simp [closedStart?] at h
  | succ n ih =>
    simp only [closedStart?] at h
    split at h
    · simp only [Option.some.injEq, Prod.mk.injEq] at h
      rw [← h.1]
      exact isIdentifier_take (Nat.succ_pos n) hn
    · exact ih (by omega) h

/-- A placeholder at the front is found, with an identifier at least as long. -/
theorem PlaceholderAt.found {d t id rest : Text} (h : PlaceholderAt d t id rest) :
    ∃ id' rest', placeholder? d t = some (id', rest') ∧ id.length ≤ id'.length := by
  obtain ⟨hid, rfl⟩ := h
  have hafter : Text.after? d (d ++ id ++ d ++ rest) = some (id ++ (d ++ rest)) := by
    rw [Text.after?_eq_some_iff]
    simp only [List.append_assoc]
  have hclosed : Text.after? d ((id ++ (d ++ rest)).drop id.length) = some rest := by
    rw [Text.after?_eq_some_iff, List.drop_left]
  obtain ⟨id', rest', hfound, hle, -⟩ :=
    closedStart?_of_after? (List.length_pos_iff.2 hid.ne_nil) hid.length_le
      (identifierLength_le _) hclosed
  exact ⟨id', rest', by simp only [placeholder?, hafter, hfound], hle⟩

/-- Where none is found, no placeholder stands. -/
theorem not_placeholderAt_of_none {d t : Text} (h : placeholder? d t = none) (id rest : Text) :
    ¬ PlaceholderAt d t id rest := by
  intro hat
  obtain ⟨id', rest', hfound, -⟩ := hat.found
  simp [h] at hfound

/-- What is found is a placeholder, and no other at this place has a longer identifier. -/
theorem placeholderAt_of_some {d t id rest : Text} (h : placeholder? d t = some (id, rest)) :
    PlaceholderAt d t id rest ∧
      ∀ id' rest', PlaceholderAt d t id' rest' → id'.length ≤ id.length := by
  refine ⟨⟨?_, (placeholder?_eq_some h).2⟩, ?_⟩
  · unfold placeholder? at h
    split at h
    · simp at h
    · exact isIdentifier_of_closedStart? (Nat.le_refl _) h
  · intro id' rest' hat
    obtain ⟨id'', rest'', hfound, hle⟩ := hat.found
    rw [h, Option.some.injEq, Prod.mk.injEq] at hfound
    rw [hfound.1]
    exact hle

/-- A placeholder whose identifier is the longest at its place is the one that is found. -/
theorem PlaceholderAt.placeholder?_eq {d t id rest : Text} (h : PlaceholderAt d t id rest)
    (hlongest : ∀ id' rest', PlaceholderAt d t id' rest' → id'.length ≤ id.length) :
    placeholder? d t = some (id, rest) := by
  obtain ⟨id', rest', hfound, hle⟩ := h.found
  obtain ⟨hat, -⟩ := placeholderAt_of_some hfound
  obtain ⟨rfl, rfl⟩ := h.unique hat (Nat.le_antisymm hle (hlongest id' rest' hat))
  exact hfound

/-! ## Cuts -/

/-- A template in parts: literal text, and then for every placeholder its identifier and the literal
text behind it. -/
structure Cut where
  first : Text
  rest : List (Text × Text)
  deriving DecidableEq, Repr

namespace Cut

/-- The identifiers of the placeholders, from left to right. -/
def ids (c : Cut) : List Text := c.rest.map (·.1)

/-- The literal texts, from left to right; there is one more than there are placeholders. -/
def literals (c : Cut) : List Text := c.first :: c.rest.map (·.2)

/-- The literal texts with one text in between each two of them. -/
def withTexts (c : Cut) (texts : List Text) : Text :=
  c.first ++ (List.zipWith (· ++ ·) texts (c.rest.map (·.2))).flatten

/-- A cut with more literal text in front. -/
def prepend (t : Text) (c : Cut) : Cut := ⟨t ++ c.first, c.rest⟩

/-- A cut with a placeholder in front. -/
def consPlaceholder (id : Text) (c : Cut) : Cut := ⟨[], (id, c.first) :: c.rest⟩

/-- The cut that pieces make up. -/
def ofPieces : List Piece → Cut
  | [] => ⟨[], []⟩
  | .literal t :: ps => (ofPieces ps).prepend t
  | .placeholder id :: ps => (ofPieces ps).consPlaceholder id

theorem withTexts_prepend (t : Text) (c : Cut) (texts : List Text) :
    (c.prepend t).withTexts texts = t ++ c.withTexts texts := by
  simp only [withTexts, prepend, List.append_assoc]

theorem withTexts_consPlaceholder (id : Text) (c : Cut) (text : Text) (texts : List Text) :
    (c.consPlaceholder id).withTexts (text :: texts) = text ++ c.withTexts texts := by
  simp only [withTexts, consPlaceholder, List.nil_append, List.map_cons, List.zipWith_cons_cons,
    List.flatten_cons, List.append_assoc]

theorem ofPieces_consLiteral (p : CodePoint) (ps : List Piece) :
    ofPieces (consLiteral p ps) = (ofPieces ps).prepend [p] := by
  cases ps with
  | nil => rfl
  | cons a ps => cases a <;> rfl

end Cut

/-- How a template is cut from the left. -/
inductive CutsInto (d : Text) : Text → Cut → Prop where
  /-- a template in which no placeholder begins anywhere is literal text -/
  | literal {t : Text}
      (nowhere : ∀ a b id rest, t = a ++ b → ¬ PlaceholderAt d b id rest) :
      CutsInto d t ⟨t, []⟩
  /-- the first placeholder: none begins within the literal text before it, its identifier is the
  longest at its place, and the text after its second delimiter is cut in turn -/
  | placeholder {before id after : Text} {c : Cut}
      (leftmost : ∀ a b id' rest', before = a ++ b → b ≠ [] →
        ¬ PlaceholderAt d (b ++ (d ++ id ++ d ++ after)) id' rest')
      (identifier : IsIdentifier id)
      (longest : ∀ id' rest', PlaceholderAt d (d ++ id ++ d ++ after) id' rest' →
        id'.length ≤ id.length)
      (onward : CutsInto d after c) :
      CutsInto d (before ++ (d ++ id ++ d ++ after)) ⟨before, (id, c.first) :: c.rest⟩

/-- The cut that the pieces of a template make up. -/
def cutOf (d t : Text) : Cut := Cut.ofPieces (pieces d t)

/-! ## The one cut of a template -/

theorem cutOf_nil (d : Text) : cutOf d [] = ⟨[], []⟩ := by
  rw [cutOf, pieces]
  rfl

theorem cutOf_of_none {d t : Text} {p : CodePoint} (h : placeholder? d (p :: t) = none) :
    cutOf d (p :: t) = (cutOf d t).prepend [p] := by
  rw [cutOf, pieces]
  split
  · rename_i hsome
    simp [h] at hsome
  · exact Cut.ofPieces_consLiteral p (pieces d t)

theorem cutOf_of_some {d t id rest : Text} (h : placeholder? d t = some (id, rest)) :
    cutOf d t = (cutOf d rest).consPlaceholder id := by
  cases t with
  | nil => exact absurd rfl (placeholderAt_of_some h).1.ne_nil
  | cons p t =>
    rw [cutOf, pieces]
    split
    · rename_i id' rest' hsome
      rw [h, Option.some.injEq, Prod.mk.injEq] at hsome
      rw [← hsome.1, ← hsome.2]
      rfl
    · rename_i hnone
      simp [h] at hnone

/-- A code point at which no placeholder begins goes to the literal text in front. -/
theorem CutsInto.cons {d t : Text} {p : CodePoint} {c : Cut} (h : CutsInto d t c)
    (hnone : placeholder? d (p :: t) = none) : CutsInto d (p :: t) (c.prepend [p]) := by
  cases h with
  | literal nowhere =>
    refine .literal fun a b id rest hsplit => ?_
    cases a with
    | nil =>
      rw [List.nil_append] at hsplit
      exact hsplit ▸ not_placeholderAt_of_none hnone id rest
    | cons q a =>
      rw [List.cons_append, List.cons.injEq] at hsplit
      exact nowhere a b id rest hsplit.2
  | @placeholder before id after c leftmost identifier longest onward =>
    have leftmost' : ∀ a b id' rest', p :: before = a ++ b → b ≠ [] →
        ¬ PlaceholderAt d (b ++ (d ++ id ++ d ++ after)) id' rest' := by
      intro a b id' rest' hsplit hb
      cases a with
      | nil =>
        rw [List.nil_append] at hsplit
        exact hsplit ▸ not_placeholderAt_of_none hnone id' rest'
      | cons q a =>
        rw [List.cons_append, List.cons.injEq] at hsplit
        exact leftmost a b id' rest' hsplit.2 hb
    exact .placeholder leftmost' identifier longest onward

/-- The pieces of a template cut it from the left. -/
theorem cutsInto_cutOf (d t : Text) : CutsInto d t (cutOf d t) := by
  fun_induction pieces d t with
  | case1 =>
    rw [cutOf_nil]
    refine .literal fun a b id rest hsplit hat => hat.ne_nil ?_
    exact (List.append_eq_nil_iff.1 hsplit.symm).2
  | case2 p t id rest h ih =>
    obtain ⟨⟨hid, hsource⟩, hlongest⟩ := placeholderAt_of_some h
    rw [cutOf_of_some h, hsource]
    have leftmost : ∀ a b id' rest', ([] : Text) = a ++ b → b ≠ [] →
        ¬ PlaceholderAt d (b ++ (d ++ id ++ d ++ rest)) id' rest' := fun a b id' rest' hsplit hb =>
      absurd (List.append_eq_nil_iff.1 hsplit.symm).2 hb
    exact .placeholder leftmost hid (hsource ▸ hlongest) ih
  | case3 p t h ih =>
    rw [cutOf_of_none h]
    exact ih.cons h

/-- Literal text in which no placeholder begins goes to the front of the cut. -/
theorem cutOf_append {d before t : Text}
    (h : ∀ a b id rest, before = a ++ b → b ≠ [] → ¬ PlaceholderAt d (b ++ t) id rest) :
    cutOf d (before ++ t) = (cutOf d t).prepend before := by
  induction before with
  | nil => rfl
  | cons p before ih =>
    have hnone : placeholder? d (p :: (before ++ t)) = none := by
      cases hfound : placeholder? d (p :: (before ++ t)) with
      | none => rfl
      | some found =>
        obtain ⟨id, rest⟩ := found
        have hat := (placeholderAt_of_some hfound).1
        exact absurd hat (h [] (p :: before) id rest rfl (List.cons_ne_nil p before))
    rw [List.cons_append, cutOf_of_none hnone, ih]
    · rfl
    · intro a b id rest hsplit hb
      exact h (p :: a) b id rest (by rw [hsplit, List.cons_append]) hb

/-- There is no other way to cut a template from the left. -/
theorem CutsInto.eq_cutOf {d t : Text} {c : Cut} (h : CutsInto d t c) : c = cutOf d t := by
  induction h with
  | @literal t nowhere =>
    have hcut : cutOf d (t ++ []) = (cutOf d []).prepend t := by
      refine cutOf_append fun a b id rest hsplit _ => ?_
      rw [List.append_nil]
      exact nowhere a b id rest hsplit
    simpa only [List.append_nil, cutOf_nil, Cut.prepend] using hcut.symm
  | @placeholder before id after c leftmost identifier longest onward ih =>
    have hat : PlaceholderAt d (d ++ id ++ d ++ after) id after := ⟨identifier, rfl⟩
    rw [cutOf_append leftmost, cutOf_of_some (hat.placeholder?_eq longest), ← ih]
    simp only [Cut.prepend, Cut.consPlaceholder, List.append_nil]

/-- Identifiers between delimiters in the places of the placeholders give the template back. -/
theorem CutsInto.withTexts_source {d t : Text} {c : Cut} (h : CutsInto d t c) :
    c.withTexts (c.ids.map fun id => d ++ id ++ d) = t := by
  induction h with
  | literal nowhere => simp only [Cut.withTexts, Cut.ids, List.map_nil, List.zipWith_nil_left,
      List.flatten_nil, List.append_nil]
  | @placeholder before id after c leftmost identifier longest onward ih =>
    calc
      Cut.withTexts ⟨before, (id, c.first) :: c.rest⟩
          ((d ++ id ++ d) :: c.ids.map fun id => d ++ id ++ d)
        = before ++ ((d ++ id ++ d) ++ c.withTexts (c.ids.map fun id => d ++ id ++ d)) := by
          simp only [Cut.withTexts, List.map_cons, List.zipWith_cons_cons, List.flatten_cons,
            List.append_assoc]
      _ = before ++ (d ++ id ++ d ++ after) := by rw [ih]

/-- No literal text of a cut holds a placeholder. -/
theorem CutsInto.literals_free {d t : Text} {c : Cut} (h : CutsInto d t c) :
    ∀ lit ∈ c.literals, ∀ a id b, IsIdentifier id → lit ≠ a ++ (d ++ id ++ d) ++ b := by
  induction h with
  | @literal t nowhere =>
    intro lit hlit a id b hid hsplit
    obtain rfl : lit = t := List.mem_singleton.1 hlit
    refine nowhere a ((d ++ id ++ d) ++ b) id b ?_ ⟨hid, rfl⟩
    rw [hsplit, List.append_assoc]
  | @placeholder before id after c leftmost identifier longest onward ih =>
    intro lit hlit a id' b hid hsplit
    rcases List.mem_cons.1 hlit with rfl | hlit
    · refine leftmost a ((d ++ id' ++ d) ++ b) id' (b ++ (d ++ id ++ d ++ after)) ?_ ?_ ⟨hid, ?_⟩
      · rw [hsplit, List.append_assoc]
      · intro hnil
        have hlen := congrArg List.length hnil
        have := List.length_pos_iff.2 hid.ne_nil
        simp only [List.length_append, List.length_nil] at hlen
        omega
      · simp only [List.append_assoc]
    · exact ih lit hlit a id' b hid hsplit

/-! ## Rendering -/

/-- The text of the value that a context has under an identifier; a value that is missing has the
text of nothing. -/
def textIn (context : Entries) (id : Text) : Except RenderFault Text :=
  (valueText ((context.get? id).getD .null)).mapError fun _ => .digits

theorem rendered_placeholder (context : Entries) (id : Text) :
    (Piece.placeholder id).rendered context = textIn context id := by
  simp only [Piece.rendered, textIn]
  cases valueText ((context.get? id).getD .null) <;> rfl

theorem textIn_of_missing {context : Entries} {id : Text} (h : context.get? id = none) :
    textIn context id = .ok [] := by
  simp only [textIn, h, Option.getD_none]
  rfl

theorem textIn_of_text {context : Entries} {id t : Text} (h : context.get? id = some (.text t)) :
    textIn context id = .ok t := by
  simp only [textIn, h, Option.getD_some]
  rfl

/-- The texts of pieces are the literal texts of their cut with the texts of values in between. -/
theorem renderedPieces_eq (context : Entries) (ps : List Piece) :
    renderedPieces context ps =
      ((Cut.ofPieces ps).ids.mapM (textIn context)).map (Cut.ofPieces ps).withTexts := by
  induction ps with
  | nil => rfl
  | cons piece ps ih =>
    cases piece with
    | literal t =>
      simp only [renderedPieces, Piece.rendered, ih, Cut.ofPieces]
      show _ = ((Cut.ofPieces ps).ids.mapM (textIn context)).map _
      cases (Cut.ofPieces ps).ids.mapM (textIn context) with
      | error e => rfl
      | ok texts => exact congrArg Except.ok (Cut.withTexts_prepend t _ texts).symm
    | placeholder id =>
      simp only [renderedPieces, rendered_placeholder, ih, Cut.ofPieces]
      show _ = Except.map _ ((id :: (Cut.ofPieces ps).ids).mapM (textIn context))
      rw [List.mapM_cons]
      cases textIn context id with
      | error e => rfl
      | ok t =>
        cases (Cut.ofPieces ps).ids.mapM (textIn context) with
        | error e => rfl
        | ok texts => exact congrArg Except.ok (Cut.withTexts_consPlaceholder id _ t texts).symm

/-- Rendering puts the texts of values between the literal texts of the cut. -/
theorem render_eq_map_withTexts {d : Text} (hd : d ≠ []) (context : Entries) (t : Text) :
    render d context t =
      ((cutOf d t).ids.mapM (textIn context)).map (cutOf d t).withTexts := by
  rw [render, if_neg hd, renderedPieces_eq, cutOf]

/-- Texts that values have one by one, they have all together. -/
theorem mapM_textIn_eq_ok {context : Entries} {ids : List Text} {text : Text → Text}
    (h : ∀ id ∈ ids, textIn context id = .ok (text id)) :
    ids.mapM (textIn context) = .ok (ids.map text) := by
  induction ids with
  | nil => rfl
  | cons id ids ih =>
    have hrest := ih fun id' hid' => h id' (List.mem_cons_of_mem id hid')
    rw [List.mapM_cons, h id List.mem_cons_self, hrest]
    rfl

/-- A template is cut in one way, which depends on the delimiter alone, and rendering puts the texts
of values between the literal texts of this cut.  In particular the identifiers between delimiters
as values give the template back, so nothing that is put in is looked at again. -/
theorem render_eq_concatenation {d : Text} (hd : d ≠ []) (t : Text) :
    ∃ c : Cut, CutsInto d t c ∧ (∀ c', CutsInto d t c' → c' = c) ∧
      c.withTexts (c.ids.map fun id => d ++ id ++ d) = t ∧
      (∀ lit ∈ c.literals, ∀ a id b, IsIdentifier id → lit ≠ a ++ (d ++ id ++ d) ++ b) ∧
      (∀ context, render d context t = (c.ids.mapM (textIn context)).map c.withTexts) ∧
      (∀ context id, context.get? id = none → textIn context id = .ok []) ∧
      (∀ context, (∀ id ∈ c.ids, context.get? id = some (.text (d ++ id ++ d))) →
        render d context t = .ok t) := by
  have hcut := cutsInto_cutOf d t
  refine ⟨cutOf d t, hcut, fun c' h => h.eq_cutOf, hcut.withTexts_source, hcut.literals_free,
    fun context => render_eq_map_withTexts hd context t, fun _ _ => textIn_of_missing, ?_⟩
  intro context hself
  rw [render_eq_map_withTexts hd, mapM_textIn_eq_ok fun id hid => textIn_of_text (hself id hid)]
  exact congrArg Except.ok hcut.withTexts_source

/-- With an underline as delimiter the identifier reaches over the underline inside it. -/
theorem render_underline_delimiter :
    ("_" : Text) ≠ [] ∧
      ∃ c : Cut, CutsInto "_" "x_a_b_y" c ∧ c = ⟨"x", [("a_b", "y")]⟩ ∧
        c.withTexts (c.ids.map fun id => ("_" : Text) ++ id ++ ("_" : Text)) = "x_a_b_y" ∧
        render "_" [(.text "a_b", .text "_c_")] "x_a_b_y" = .ok "x_c_y" := by
  have hd : ("_" : Text) ≠ [] := by decide
  obtain ⟨c, hcut, -, hsource, -, hrender, -, -⟩ := render_eq_concatenation hd "x_a_b_y"
  have hc : c = ⟨"x", [("a_b", "y")]⟩ := hcut.eq_cutOf.trans (by decide +kernel)
  refine ⟨hd, c, hcut, hc, hsource, ?_⟩
  rw [hrender, hc]
  rfl

end DashboardKit.Template
