import DashboardKit.Proofs.Except
import DashboardKit.Proofs.Template.Cut
import DashboardKit.Proofs.Value.Entries

/-!
# What rendering depends on

The identifiers of a template are the keys of a context that its rendering depends on, each of them
and no other.  A key that is none of them makes no difference.  A key that is one does: of the texts
that come of two different texts for it, one is longer, or both are made of pieces of the same
lengths, and then the pieces can be compared one by one.

Main statement: `identifiers_govern`.
-/

set_option autoImplicit false

namespace DashboardKit.Template

variable {d t id : Text} {c : Cut} {context context' : Entries} {f g : Text → Text}

/-! ## Identifiers in the order of first use -/

theorem mem_withoutRepeats {a : Text} {l : List Text} : a ∈ withoutRepeats l ↔ a ∈ l := by
  induction l with
  | nil => exact Iff.rfl
  | cons b l ih =>
    rw [withoutRepeats, List.mem_cons, List.mem_cons, List.mem_filter, ih, decide_eq_true_iff]
    by_cases hab : a = b <;> simp [hab]

/-- What is left comes in the order in which it came first. -/
theorem pairwise_idxOf_withoutRepeats (l : List Text) :
    (withoutRepeats l).Pairwise fun a b => l.idxOf a < l.idxOf b := by
  induction l with
  | nil => exact .nil
  | cons b l ih =>
    have hbehind {a : Text} (ha : a ∈ (withoutRepeats l).filter (· ≠ b)) :
        (b :: l).idxOf a = l.idxOf a + 1 := by
      have hne : a ≠ b := by simpa using (List.mem_filter.1 ha).2
      rw [List.idxOf_cons, beq_false_of_ne (Ne.symm hne), cond_false]
    rw [withoutRepeats, List.pairwise_cons]
    constructor
    · intro a ha
      rw [hbehind ha, List.idxOf_cons_self]
      exact Nat.succ_pos _
    · refine (ih.filter _).imp_of_mem fun ha ha' hlt => ?_
      rw [hbehind ha, hbehind ha']
      exact Nat.succ_lt_succ hlt

theorem nodup_withoutRepeats (l : List Text) : (withoutRepeats l).Nodup :=
  (pairwise_idxOf_withoutRepeats l).imp fun hlt heq => by
    rw [heq] at hlt
    exact Nat.lt_irrefl _ hlt

/-- One more text behind makes a difference only if it was not there. -/
theorem withoutRepeats_concat (l : List Text) (a : Text) :
    withoutRepeats (l ++ [a]) = if a ∈ l then withoutRepeats l else withoutRepeats l ++ [a] := by
  induction l with
  | nil => rfl
  | cons b l ih =>
    rw [List.cons_append, withoutRepeats, ih, withoutRepeats]
    by_cases hab : a = b
    · subst hab
      by_cases hmem : a ∈ l <;> simp [hmem]
    · by_cases hmem : a ∈ l <;> simp [hmem, hab]

theorem Cut.ids_ofPieces (ps : List Piece) : (Cut.ofPieces ps).ids = ps.filterMap Piece.id? := by
  induction ps with
  | nil => rfl
  | cons piece ps ih =>
    cases piece with
    | literal t => exact ih
    | placeholder id => exact congrArg (id :: ·) ih

/-- The identifiers of a template are those of its cut. -/
theorem identifiers_eq (hd : d ≠ []) (t : Text) :
    identifiers d t = .ok (withoutRepeats (cutOf d t).ids) := by
  rw [identifiers, if_neg hd, cutOf, Cut.ids_ofPieces]

/-! ## Keys that make no difference -/

/-- Contexts in which all identifiers of a template have the same texts are rendered alike. -/
theorem render_congr (h : ∀ id ∈ (cutOf d t).ids, textIn context id = textIn context' id) :
    render d context t = render d context' t := by
  by_cases hd : d = []
  · rw [render, render, if_pos hd, if_pos hd]
  · rw [render_eq_map_withTexts hd, render_eq_map_withTexts hd, mapM_congr h]

theorem textIn_congr (h : context.get? id = context'.get? id) :
    textIn context id = textIn context' id := by
  rw [textIn, textIn, h]

/-- Only the key that was set has another text. -/
theorem textIn_set {v : Value} {other : Text} :
    textIn (context.set id v) other =
      if other = id then (valueText v).mapError fun _ => .digits else textIn context other := by
  rw [textIn, Entries.get?_set]
  split <;> rfl

/-! ## Keys that make a difference -/

/-- A template is rendered exactly if all its identifiers have texts. -/
theorem exists_render_iff (hd : d ≠ []) :
    (∃ text, render d context t = .ok text) ↔
      ∀ id ∈ (cutOf d t).ids, ∃ text, textIn context id = .ok text := by
  rw [render_eq_map_withTexts hd, exists_map_eq_ok, exists_mapM_eq_ok]

/-- The text of a cut, placeholder by placeholder. -/
theorem Cut.withTexts_map (c : Cut) (f : Text → Text) :
    c.withTexts (c.ids.map f) = c.first ++ c.rest.flatMap fun e => f e.1 ++ e.2 := by
  rw [withTexts, ids, List.map_map, List.zipWith_map, List.zipWith_self, List.flatMap_def]
  rfl

/-- What one identifier adds to the length, it adds as often as it is used. -/
theorem length_flatMap_add (rest : List (Text × Text))
    (hsame : ∀ other, other ≠ id → f other = g other) :
    (rest.flatMap fun e => f e.1 ++ e.2).length + (rest.map (·.1)).count id * (g id).length
      = (rest.flatMap fun e => g e.1 ++ e.2).length
        + (rest.map (·.1)).count id * (f id).length := by
  induction rest with
  | nil => simp
  | cons e rest ih =>
    simp only [List.flatMap_cons, List.length_append, List.map_cons]
    by_cases he : e.1 = id
    · rw [he, List.count_cons_self, Nat.add_mul, Nat.add_mul]
      omega
    · rw [List.count_cons_of_ne he, hsame e.1 he]
      omega

/-- Pieces of the same lengths that come to the same text are the same. -/
theorem eq_of_flatMap_eq {rest : List (Text × Text)}
    (hlength : ∀ other, (f other).length = (g other).length)
    (h : (rest.flatMap fun e => f e.1 ++ e.2) = rest.flatMap fun e => g e.1 ++ e.2) :
    ∀ e ∈ rest, f e.1 = g e.1 := by
  induction rest with
  | nil => exact fun _ he => absurd he List.not_mem_nil
  | cons e rest ih =>
    simp only [List.flatMap_cons, List.append_assoc] at h
    obtain ⟨hhead, htail⟩ := List.append_inj h (hlength e.1)
    exact List.forall_mem_cons.2 ⟨hhead, ih (List.append_cancel_left htail)⟩

/-- Two texts for an identifier that is used make two texts of a template. -/
theorem Cut.withTexts_map_ne (hid : id ∈ c.ids) (hsame : ∀ other, other ≠ id → f other = g other)
    (hne : f id ≠ g id) : c.withTexts (c.ids.map f) ≠ c.withTexts (c.ids.map g) := by
  intro heq
  rw [Cut.withTexts_map, Cut.withTexts_map, List.append_cancel_left_eq] at heq
  have hcount : 0 < (c.rest.map (·.1)).count id := List.count_pos_iff.2 hid
  have hlengths := length_flatMap_add c.rest hsame
  rw [heq, Nat.add_left_cancel_iff] at hlengths
  have hlength : ∀ other, (f other).length = (g other).length := by
    intro other
    by_cases hother : other = id
    · rw [hother]
      exact (Nat.eq_of_mul_eq_mul_left hcount hlengths).symm
    · rw [hsame other hother]
  obtain ⟨e, he, heid⟩ := List.mem_map.1 hid
  exact hne (heid ▸ eq_of_flatMap_eq hlength heq e he)

/-- Two texts for an identifier that is used make two texts of a template, if all others have
texts. -/
theorem render_set_ne (hd : d ≠ []) (hid : id ∈ (cutOf d t).ids) {v w : Value} {textV textW : Text}
    (hv : valueText v = .ok textV) (hw : valueText w = .ok textW) (hne : textV ≠ textW)
    (hothers : ∀ other ∈ (cutOf d t).ids, other ≠ id → ∃ text, textIn context other = .ok text) :
    ∃ text text', render d (context.set id v) t = .ok text ∧
      render d (context.set id w) t = .ok text' ∧ text ≠ text' := by
  -- the texts of the identifiers with this text for the one that is set
  let texts (text : Text) : Text → Text := fun other =>
    if other = id then text else (textIn context other).toOption.getD []
  have hset {u : Value} {text : Text} (hu : valueText u = .ok text) :
      render d (context.set id u) t
        = .ok ((cutOf d t).withTexts ((cutOf d t).ids.map (texts text))) := by
    rw [render_eq_map_withTexts hd, mapM_eq_ok_map fun other hother => ?_]
    · rfl
    rw [textIn_set]
    by_cases heq : other = id
    · simp only [texts, if_pos heq, hu]
      rfl
    · obtain ⟨text', htext'⟩ := hothers other hother heq
      simp only [texts, if_neg heq, htext']
      rfl
  refine ⟨_, _, hset hv, hset hw, Cut.withTexts_map_ne hid (fun other hother => ?_) ?_⟩
  · simp only [texts, if_neg hother]
  · simpa only [texts, if_pos rfl] using hne

/-! ## All of it -/

/-- These keys are the ones that the rendering of a template depends on. -/
structure Governs (d t : Text) (ids : List Text) : Prop where
  nodup : ids.Nodup
  /-- they are the identifiers of the placeholders -/
  mem_iff : ∀ c, CutsInto d t c → ∀ id, id ∈ ids ↔ id ∈ c.ids
  /-- they are in the order of their first use -/
  ordered : ∀ c, CutsInto d t c → ids.Pairwise fun a b => c.ids.idxOf a < c.ids.idxOf b
  /-- the template is rendered exactly if all of them have texts -/
  renders : ∀ context,
    (∃ text, render d context t = .ok text) ↔ ∀ id ∈ ids, ∃ text, textIn context id = .ok text
  /-- no other key makes a difference -/
  others : ∀ id, id ∉ ids → ∀ context context' : Entries,
    (∀ other, other ≠ id → context.get? other = context'.get? other) →
      render d context t = render d context' t
  /-- each of them makes one: two values with different texts are rendered as different texts,
  unless there is another one without a text -/
  each : ∀ id ∈ ids, ∀ (context : Entries) (v w : Value) (textV textW : Text),
    valueText v = .ok textV → valueText w = .ok textW → textV ≠ textW →
      (∃ text text', render d (context.set id v) t = .ok text ∧
        render d (context.set id w) t = .ok text' ∧ text ≠ text') ∨
      ∃ other ∈ ids, other ≠ id ∧ ∀ text, textIn context other ≠ .ok text

/-- The identifiers of a template are the keys that its rendering depends on. -/
theorem identifiers_govern (hd : d ≠ []) (t : Text) :
    ∃ ids, identifiers d t = .ok ids ∧ Governs d t ids := by
  refine ⟨_, identifiers_eq hd t, nodup_withoutRepeats _, ?_, ?_, ?_, ?_, ?_⟩
  · intro c hcut id
    rw [mem_withoutRepeats, hcut.eq_cutOf]
  · intro c hcut
    rw [hcut.eq_cutOf]
    exact pairwise_idxOf_withoutRepeats _
  · intro context
    simp only [mem_withoutRepeats]
    exact exists_render_iff hd
  · intro id hid context context' hsame
    rw [mem_withoutRepeats] at hid
    exact render_congr fun other hother =>
      textIn_congr (hsame other fun heq => hid (heq ▸ hother))
  · intro id hid context v w textV textW hv hw hne
    simp only [mem_withoutRepeats] at hid ⊢
    by_cases hnone : ∃ other ∈ (cutOf d t).ids,
        other ≠ id ∧ ∀ text, textIn context other ≠ .ok text
    · exact .inr hnone
    · refine .inl (render_set_ne hd hid hv hw hne fun other hother hdiffers => ?_)
      refine Classical.byContradiction fun hfails => ?_
      exact hnone ⟨other, hother, hdiffers, fun text htext => hfails ⟨text, htext⟩⟩

/-- A placeholder that stands twice, and one between that is rendered as nothing: two values of the
first are told apart, also where the text of one is the front of the other. -/
theorem identifiers_govern_repeated :
    ("$&" : Text) ≠ [] ∧ ∃ ids, identifiers "$&" "$&a$&$&b$&x$&a$&" = .ok ids ∧
      ids = [("a" : Text), "b"] ∧ Governs "$&" "$&a$&$&b$&x$&a$&" ids ∧
        ∃ text text', render "$&" [(.text "a", .text "x")] "$&a$&$&b$&x$&a$&" = .ok text ∧
          render "$&" [(.text "a", .text "xx")] "$&a$&$&b$&x$&a$&" = .ok text' ∧ text ≠ text' := by
  have hd : ("$&" : Text) ≠ [] := by decide
  obtain ⟨ids, hids, hgoverns⟩ := identifiers_govern hd "$&a$&$&b$&x$&a$&"
  have heq : ids = [("a" : Text), "b"] :=
    (Except.ok.inj (hids.symm.trans (identifiers_eq hd _))).trans (by decide +kernel)
  refine ⟨hd, ids, hids, heq, hgoverns, ?_⟩
  have hmem : ("a" : Text) ∈ ids := by
    rw [heq]
    exact List.mem_cons_self
  rcases hgoverns.each "a" hmem [] (.text "x") (.text "xx") "x" "xx" rfl rfl (by decide) with
    hdiffer | ⟨other, -, -, hnone⟩
  · exact hdiffer
  · exact absurd rfl (hnone [])

end DashboardKit.Template
