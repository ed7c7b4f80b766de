import DashboardKit.Proofs.Template.Cut

/-!
# Rendering templates part by part

A template that is cut in two is rendered part by part, as long as no placeholder lies across the
cut.  None does in front of a word that holds no code point of the delimiter and is no part of an
identifier.

Main statements: `render_append`, a template in two parts, and `apart_of_word`, where it can be cut.
-/

set_option autoImplicit false

namespace DashboardKit.Template

variable {d t word rest id : Text} {p : CodePoint} {context : Entries}

/-! ## One piece at a time -/

theorem render_nil (hd : d ≠ []) (context : Entries) : render d context [] = .ok [] := by
  rw [render_eq_map_withTexts hd, cutOf_nil]
  rfl

/-- A code point at which no placeholder begins is literal text. -/
theorem render_of_none (hd : d ≠ []) (context : Entries) (h : placeholder? d (p :: t) = none) :
    render d context (p :: t) = (render d context t).map (p :: ·) := by
  rw [render_eq_map_withTexts hd, render_eq_map_withTexts hd, cutOf_of_none h]
  show Except.map _ ((cutOf d t).ids.mapM (textIn context)) = _
  cases (cutOf d t).ids.mapM (textIn context) with
  | error e => rfl
  | ok texts => exact congrArg Except.ok (Cut.withTexts_prepend [p] _ texts)

/-- A placeholder that is found gives way to the text of its value. -/
theorem render_of_some (hd : d ≠ []) (context : Entries) (h : placeholder? d t = some (id, rest)) :
    render d context t =
      (do
        let x ← textIn context id
        let y ← render d context rest
        return x ++ y) := by
  rw [render_eq_map_withTexts hd, render_eq_map_withTexts hd, cutOf_of_some h]
  show Except.map _ ((id :: (cutOf d rest).ids).mapM (textIn context)) = _
  rw [List.mapM_cons]
  cases textIn context id with
  | error e => rfl
  | ok x =>
    cases (cutOf d rest).ids.mapM (textIn context) with
    | error e => rfl
    | ok texts => exact congrArg Except.ok (Cut.withTexts_consPlaceholder id _ x texts)

/-! ## Literal text and placeholders in front -/

theorem IsIdentifier.all_inIdentifier (h : IsIdentifier id) :
    ∀ q ∈ id, inIdentifier q = true := by
  obtain ⟨p, rest, rfl, hp, hrest⟩ := h
  refine List.forall_mem_cons.2 ⟨?_, hrest⟩
  rw [inIdentifier.eq_def, hp, Bool.true_or]

/-- No placeholder begins with a code point that is none of the delimiter. -/
theorem placeholder?_of_not_mem (hd : d ≠ []) (hp : p ∉ d) : placeholder? d (p :: t) = none := by
  cases hfound : placeholder? d (p :: t) with
  | none => rfl
  | some found =>
    obtain ⟨id, rest⟩ := found
    obtain ⟨q, ds, rfl⟩ := List.exists_cons_of_ne_nil hd
    have hsource := (placeholder?_eq_some hfound).2
    simp only [List.cons_append, List.cons.injEq] at hsource
    exact absurd (hsource.1 ▸ List.mem_cons_self) hp

/-- Text without code points of the delimiter stays as it is. -/
theorem render_literal_append (hd : d ≠ []) (context : Entries) {literal : Text}
    (h : ∀ p ∈ literal, p ∉ d) (t : Text) :
    render d context (literal ++ t) = (render d context t).map (literal ++ ·) := by
  induction literal with
  | nil =>
    rw [List.nil_append]
    cases render d context t <;> rfl
  | cons p literal ih =>
    rw [List.forall_mem_cons] at h
    rw [List.cons_append, render_of_none hd context (placeholder?_of_not_mem hd h.1), ih h.2]
    cases render d context t <;> rfl

/-- If the delimiter does not begin as an identifier may go on, an identifier between delimiters is
a placeholder, whatever comes behind. -/
theorem placeholder?_source (hid : IsIdentifier id)
    (hd : ∃ q ds, d = q :: ds ∧ inIdentifier q = false) (rest : Text) :
    placeholder? d (d ++ id ++ d ++ rest) = some (id, rest) := by
  refine PlaceholderAt.placeholder?_eq ⟨hid, rfl⟩ fun id' rest' hat => ?_
  obtain ⟨q, ds, rfl, hq⟩ := hd
  have hsplit := hat.2
  simp only [List.append_assoc, List.append_cancel_left_eq] at hsplit
  rcases List.append_eq_append_iff.1 hsplit with ⟨more, hid', hbehind⟩ | ⟨more, rfl, -⟩
  · cases more with
    | nil => exact Nat.le_of_eq (by rw [hid', List.append_nil])
    | cons x more =>
      -- a longer identifier would hold the first code point of the delimiter
      rw [List.cons_append, List.cons_append, List.cons.injEq] at hbehind
      have hmem : q ∈ id' := by
        rw [hid', hbehind.1]
        exact List.mem_append_right id List.mem_cons_self
      rw [hat.1.all_inIdentifier q hmem] at hq
      exact absurd hq Bool.noConfusion
  · rw [List.length_append]
    exact Nat.le_add_right _ _

/-- The text of a value takes its place between literal texts. -/
theorem render_placeholder_between (hd : ∃ q ds, d = q :: ds ∧ inIdentifier q = false)
    (hid : IsIdentifier id) {front back text : Text} (hfront : ∀ p ∈ front, p ∉ d)
    (hback : ∀ p ∈ back, p ∉ d) (htext : textIn context id = .ok text) (t : Text) :
    render d context (front ++ (d ++ id ++ d ++ (back ++ t))) =
      (render d context t).map (front ++ text ++ back ++ ·) := by
  have hne : d ≠ [] := by
    obtain ⟨q, ds, rfl, -⟩ := hd
    exact List.cons_ne_nil q ds
  rw [render_literal_append hne context hfront,
    render_of_some hne context (placeholder?_source hid hd _), htext,
    render_literal_append hne context hback]
  cases render d context t with
  | error e => rfl
  | ok x =>
    show Except.ok (front ++ (text ++ (back ++ x))) = Except.ok (front ++ text ++ back ++ x)
    simp only [List.append_assoc]

/-! ## Cutting a template in two -/

/-- No placeholder that begins in front of `b` reaches into it. -/
def Apart (d b : Text) : Prop :=
  ∀ a id rest, a ≠ [] → PlaceholderAt d (a ++ b) id rest →
    ∃ between, PlaceholderAt d a id between ∧ rest = between ++ b

/-- The placeholder that is found in front of `b` is the one that is found without it. -/
theorem Apart.placeholder?_append {b : Text} (h : Apart d b)
    (hfound : placeholder? d t = some (id, rest)) :
    placeholder? d (t ++ b) = some (id, rest ++ b) := by
  obtain ⟨hat, hlongest⟩ := placeholderAt_of_some hfound
  have happend : PlaceholderAt d (t ++ b) id (rest ++ b) :=
    ⟨hat.1, by rw [hat.2, List.append_assoc]⟩
  refine happend.placeholder?_eq fun id' rest' hat' => ?_
  obtain ⟨between, hbefore, -⟩ := h t id' rest' hat.ne_nil hat'
  exact hlongest id' between hbefore

/-- Where none is found in front of `b`, none is found with it. -/
theorem Apart.placeholder?_append_of_none {b : Text} (h : Apart d b)
    (hnone : placeholder? d (p :: t) = none) : placeholder? d (p :: t ++ b) = none := by
  cases hfound : placeholder? d (p :: t ++ b) with
  | none => rfl
  | some found =>
    obtain ⟨id, rest⟩ := found
    have hat := (placeholderAt_of_some hfound).1
    obtain ⟨between, hbefore, -⟩ := h (p :: t) id rest (List.cons_ne_nil p t) hat
    exact absurd hbefore (not_placeholderAt_of_none hnone id between)

/-- A template in two parts is rendered part by part, if no placeholder lies across. -/
theorem render_append (hd : d ≠ []) (context : Entries) {b : Text} (h : Apart d b) (a : Text) :
    render d context (a ++ b) =
      (do
        let x ← render d context a
        let y ← render d context b
        return x ++ y) := by
  fun_induction pieces d a with
  | case1 =>
    rw [render_nil hd]
    cases hb : render d context b <;> simp [hb, bind, Except.bind, pure, Except.pure]
  | case2 p t id rest hfound ih =>
    rw [render_of_some hd context (h.placeholder?_append hfound), render_of_some hd context hfound,
      ih]
    simp only [bind_assoc, pure_bind, List.append_assoc]
  | case3 p t hnone ih =>
    rw [List.cons_append,
      render_of_none hd context (by simpa using h.placeholder?_append_of_none hnone),
      render_of_none hd context hnone, ih]
    cases render d context t with
    | error e => rfl
    | ok x => cases render d context b <;> rfl

/-- What a template in two parts is rendered as. -/
theorem render_append_eq_ok (hd : d ≠ []) {a b content : Text} (h : Apart d b)
    (hcontent : render d context (a ++ b) = .ok content) :
    ∃ x y, render d context a = .ok x ∧ render d context b = .ok y ∧ content = x ++ y := by
  rw [render_append hd context h] at hcontent
  cases hx : render d context a with
  | error e => simp [hx, bind, Except.bind] at hcontent
  | ok x =>
    cases hy : render d context b with
    | error e => simp [hx, hy, bind, Except.bind] at hcontent
    | ok y =>
      rw [hx, hy] at hcontent
      exact ⟨x, y, rfl, rfl, (Except.ok.inj hcontent).symm⟩

/-- A template can be cut in front of a word that holds no code point of the delimiter and is no
part of an identifier. -/
theorem apart_of_word (hd : d ≠ []) (hword : ∀ q ∈ word, q ∉ d)
    (hstop : ∃ q ∈ word, inIdentifier q = false) (rest : Text) : Apart d (word ++ rest) := by
  intro a id behind _ hat
  obtain ⟨hid, hsplit⟩ := hat
  rcases List.append_eq_append_iff.1 hsplit with ⟨tail, hsource, htail⟩ | ⟨between, rfl, hbehind⟩
  · by_cases hnil : tail = []
    · subst hnil
      rw [List.append_nil] at hsource
      rw [List.nil_append] at htail
      exact ⟨[], ⟨hid, by rw [hsource, List.append_nil]⟩, htail.symm⟩
    · -- a placeholder that reaches over ends with the delimiter, and not inside the word
      exfalso
      have hlast : tail.getLast hnil ∈ d := by
        have hends : (d ++ id ++ d).getLast (by simp [hd]) = d.getLast hd :=
          List.getLast_append_of_ne_nil _ hd
        simp only [hsource, List.getLast_append_of_ne_nil _ hnil] at hends
        exact hends ▸ List.getLast_mem hd
      rcases List.append_eq_append_iff.1 htail with ⟨more, hmore, -⟩ | ⟨more, hmore, -⟩
      · obtain ⟨q, hq, hq'⟩ := hstop
        have hmem : q ∈ d ++ id ++ d := by
          rw [hsource, hmore]
          exact List.mem_append_right a (List.mem_append_left more hq)
        simp only [List.mem_append, hword q hq, false_or, or_false] at hmem
        rw [hid.all_inIdentifier q hmem] at hq'
        exact absurd hq' Bool.noConfusion
      · refine hword _ ?_ hlast
        rw [hmore]
        exact List.mem_append_left more (List.getLast_mem hnil)
  · exact ⟨between, ⟨hid, rfl⟩, hbehind⟩

end DashboardKit.Template
