import Mathlib.Data.List.Basic
import DashboardKit.Proofs.Template.Dependence
import DashboardKit.Proofs.Template.Separating
import DashboardKit.Proofs.Text.Replacing

/-!
# Joints in rendered texts

What is rendered of a template can hold a pair of code points that neither the template nor a value
holds, one half at the end of a value and the other half in front of the literal text behind it.
Literal text that begins and ends with no half of the pair keeps such halves apart.  To find this
out of a template it is enough to look at its lines, since no placeholder goes over a line break.

Main statements: `Cut.Sealed.free_render`, no pair comes up at a joint, and `free_render_join`,
this can be found out line by line.
-/

set_option autoImplicit false

namespace DashboardKit

/-! ## Pairs of code points -/

namespace Text

variable {p q sep : CodePoint} {s t : Text}

/-- A pair stands in two texts one behind the other if it stands in one of them, or if the first one
ends with one half and the second one begins with the other. -/
theorem pair_infix_append_iff :
    [p, q] <:+: s ++ t ↔
      [p, q] <:+: s ∨ [p, q] <:+: t ∨ (s.getLast? = some p ∧ t.head? = some q) := by
  induction s with
  | nil => simp
  | cons a s ih =>
    rw [List.cons_append, List.infix_cons_iff, List.infix_cons_iff, ih]
    cases s with
    | nil => cases t <;> simp [eq_comm (a := p), eq_comm (a := q), or_comm]
    | cons b s =>
      simp only [List.cons_append, List.cons_prefix_cons, List.nil_prefix, List.getLast?_cons_cons,
        or_assoc]

/-- A pair does not come up around a code point that is no half of it. -/
theorem not_pair_infix_around (hp : sep ≠ p) (hq : sep ≠ q) (hs : ¬ [p, q] <:+: s)
    (ht : ¬ [p, q] <:+: t) : ¬ [p, q] <:+: s ++ ([sep] ++ t) := by
  rw [pair_infix_append_iff, List.singleton_append, List.infix_cons_iff, List.cons_prefix_cons]
  rintro (hpair | (⟨rfl, -⟩ | hpair) | ⟨-, hhead⟩)
  · exact hs hpair
  · exact hp rfl
  · exact ht hpair
  · exact hq (Option.some.inj hhead)

/-- A text that keeps two texts apart: no pair stands in it, and none is made where one of the two
joins it. -/
structure Divides (p q : CodePoint) (t : Text) : Prop where
  ne_nil : t ≠ []
  free : ¬ [p, q] <:+: t
  front : t.head? ≠ some q
  back : t.getLast? ≠ some p

/-- Between two texts without the pair there is none either. -/
theorem Divides.free_between {a b : Text} (h : Divides p q t) (ha : ¬ [p, q] <:+: a)
    (hb : ¬ [p, q] <:+: b) (hback : a.getLast? ≠ some p) : ¬ [p, q] <:+: a ++ (b ++ t) := by
  rw [← List.append_assoc, pair_infix_append_iff, pair_infix_append_iff]
  rintro ((hpair | hpair | ⟨hlast, -⟩) | hpair | ⟨-, hhead⟩)
  · exact ha hpair
  · exact hb hpair
  · exact hback hlast
  · exact h.free hpair
  · exact h.front hhead

theorem Divides.getLast?_append (h : Divides p q t) (a : Text) : (a ++ t).getLast? ≠ some p := by
  rw [List.getLast?_append_of_ne_nil a h.ne_nil]
  exact h.back

instance : Decidable (Divides p q t) :=
  decidable_of_iff
    (t ≠ [] ∧ includes [p, q] t = false ∧ t.head? ≠ some q ∧ t.getLast? ≠ some p)
    (by
      rw [← Bool.not_eq_true, includes_iff]
      exact ⟨fun h => ⟨h.1, h.2.1, h.2.2.1, h.2.2.2⟩, fun h => ⟨h.1, h.2, h.3, h.4⟩⟩)

end Text

namespace Template

variable {d t content : Text} {p q sep : CodePoint} {context : Entries} {c : Cut}
  {texts ts : List Text}

/-! ## Sealed cuts -/

namespace Cut

/-- No pair stands in the literal texts of a cut, and none can be made at their ends: whatever the
texts of values are, the first literal text comes before them, and the others come behind one. -/
structure Sealed (p q : CodePoint) (c : Cut) : Prop where
  free : ¬ [p, q] <:+: c.first
  back : c.first.getLast? ≠ some p
  behind : ∀ e ∈ c.rest, Text.Divides p q e.2

instance : Decidable (Sealed p q c) :=
  decidable_of_iff
    (Text.includes [p, q] c.first = false ∧ c.first.getLast? ≠ some p ∧
      ∀ e ∈ c.rest, Text.Divides p q e.2)
    (by
      rw [← Bool.not_eq_true, Text.includes_iff]
      exact ⟨fun h => ⟨h.1, h.2.1, h.2.2⟩, fun h => ⟨h.1, h.2, h.3⟩⟩)

/-- No pair comes up between the literal texts and the texts of values. -/
theorem Sealed.free_withTexts (h : c.Sealed p q) (htexts : ∀ t ∈ texts, ¬ [p, q] <:+: t) :
    ¬ [p, q] <:+: c.withTexts texts := by
  obtain ⟨first, rest⟩ := c
  obtain ⟨hfree, hback, hbehind⟩ := h
  -- what has been put together so far takes the place of the first literal text
  induction rest generalizing first texts with
  | nil => simpa [withTexts] using hfree
  | cons e rest ih =>
    cases texts with
    | nil => simpa [withTexts] using hfree
    | cons text texts =>
      rw [List.forall_mem_cons] at hbehind htexts
      have hjoined : withTexts ⟨first, e :: rest⟩ (text :: texts)
          = withTexts ⟨first ++ (text ++ e.2), rest⟩ texts := by
        simp only [withTexts, List.map_cons, List.zipWith_cons_cons, List.flatten_cons,
          List.append_assoc]
      rw [hjoined]
      apply ih
      · exact htexts.2
      · exact hbehind.1.free_between hfree htexts.1 hback
      · rw [← List.append_assoc]
        exact hbehind.1.getLast?_append (first ++ text)
      · exact hbehind.2

/-- What is rendered of a template with a sealed cut holds no pair that no value holds. -/
theorem Sealed.free_render (h : (cutOf d t).Sealed p q) (hd : d ≠ [])
    (hvalues : ∀ id ∈ (cutOf d t).ids, ∀ text, textIn context id = .ok text → ¬ [p, q] <:+: text)
    (hcontent : render d context t = .ok content) : ¬ [p, q] <:+: content := by
  rw [render_eq_map_withTexts hd, map_eq_ok] at hcontent
  obtain ⟨texts, htexts, rfl⟩ := hcontent
  apply h.free_withTexts
  intro text htext
  obtain ⟨id, hid, hvalue⟩ := exists_mem_of_mapM_eq_ok htexts text htext
  exact hvalues id hid text hvalue

end Cut

/-! ## Line by line -/

/-- Where a code point of the delimiter is missing, all is literal text. -/
theorem cutOf_of_not_mem (h : p ∉ t) : cutOf (p :: d) t = ⟨t, []⟩ := by
  refine (CutsInto.literal fun a b id rest hsplit hat => h ?_).eq_cutOf.symm
  rw [hsplit, hat.2]
  simp

/-- The identifiers of a template in two parts are those of the parts, if no placeholder lies
across. -/
theorem ids_append {b : Text} (h : Apart d b) (a : Text) :
    (cutOf d (a ++ b)).ids = (cutOf d a).ids ++ (cutOf d b).ids := by
  fun_induction pieces d a with
  | case1 => rw [cutOf_nil, List.nil_append]; rfl
  | case2 p t id rest hfound ih =>
    rw [cutOf_of_some (h.placeholder?_append hfound), cutOf_of_some hfound]
    exact congrArg (id :: ·) ih
  | case3 p t hnone ih =>
    rw [List.cons_append, cutOf_of_none (by simpa using h.placeholder?_append_of_none hnone),
      cutOf_of_none hnone]
    exact ih

/-- No placeholder goes over a line break. -/
theorem apart_of_break (hd : d ≠ []) (hsep : sep ∉ d) (hstop : inIdentifier sep = false)
    (rest : Text) : Apart d ([sep] ++ rest) :=
  apart_of_word hd (List.forall_mem_singleton.2 hsep) ⟨sep, List.mem_cons_self, hstop⟩ rest

/-- The identifiers of a template are those of its lines. -/
theorem ids_join (hd : d ≠ []) (hsep : sep ∉ d) (hstop : inIdentifier sep = false)
    (ts : List Text) :
    (cutOf d (Text.join [sep] ts)).ids = ts.flatMap fun t => (cutOf d t).ids := by
  fun_induction Text.join [sep] ts with
  | case1 => rw [cutOf_nil]; rfl
  | case2 t => rw [List.flatMap_singleton]
  | case3 t rest hne ih =>
    rw [List.append_assoc, ids_append (apart_of_break hd hsep hstop _), List.flatMap_cons, ← ih,
      List.singleton_append, cutOf_of_none (placeholder?_of_not_mem hd hsep)]
    rfl

/-- If no line is rendered as a text with the pair, neither is the template. -/
theorem free_render_join (hd : d ≠ []) (hsep : sep ∉ d) (hstop : inIdentifier sep = false)
    (hp : sep ≠ p) (hq : sep ≠ q)
    (hlines : ∀ t ∈ ts, ∀ content, render d context t = .ok content → ¬ [p, q] <:+: content)
    (hcontent : render d context (Text.join [sep] ts) = .ok content) : ¬ [p, q] <:+: content := by
  fun_induction Text.join [sep] ts generalizing content with
  | case1 =>
    obtain rfl := Except.ok.inj ((render_nil hd context).symm.trans hcontent)
    intro hpair
    exact absurd hpair.length_le (Nat.not_succ_le_zero 1)
  | case2 t => exact hlines t List.mem_cons_self content hcontent
  | case3 t rest hne ih =>
    rw [List.forall_mem_cons] at hlines
    rw [List.append_assoc] at hcontent
    obtain ⟨x, z, hx, hz, rfl⟩ :=
      render_append_eq_ok hd (apart_of_break hd hsep hstop _) hcontent
    rw [render_literal_append hd context (List.forall_mem_singleton.2 hsep), map_eq_ok] at hz
    obtain ⟨y, hy, rfl⟩ := hz
    exact Text.not_pair_infix_around hp hq (hlines.1 x hx) (ih hlines.2 hy)

end Template

end DashboardKit
