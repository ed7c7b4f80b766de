import DashboardKit.Proofs.Text.Replacing

/-!
# Deleting and replacing

Deleting code points that neither a piece nor what replaces it is made of can join the halves of a
piece.  It makes no difference whether the piece is replaced before that as well, if what it begins
with stands nowhere else in it: an occurrence then begins in no other occurrence, and each of those
that deleting joins is replaced afterwards in either order.

For topics this says that cleaning is deleting the brackets and then decoding in a single pass.

Main statement: `Topic.clean_single_pass`.
-/

set_option autoImplicit false

namespace DashboardKit

namespace Text

variable {piece new front s t : Text} {a : CodePoint} {keep : CodePoint → Bool}

/-! ## Occurrences -/

/-- An occurrence in front is replaced first. -/
theorem replace_piece_append (hpiece : piece ≠ []) (new t : Text) :
    replace piece new (piece ++ t) = new ++ replace piece new t := by
  obtain ⟨a, rest, rfl⟩ := List.exists_cons_of_ne_nil hpiece
  have hfront : startsWith (a :: rest ++ t) (a :: rest) = true :=
    startsWith_iff.2 (List.prefix_append _ t)
  rw [List.cons_append] at hfront ⊢
  rw [replace, if_pos ⟨hpiece, hfront⟩, ← List.cons_append, List.drop_left]

/-- Where no occurrence can begin, nothing is replaced. -/
theorem replace_append_of_not_mem (h : a ∉ front) (new t : Text) :
    replace (a :: s) new (front ++ t) = front ++ replace (a :: s) new t := by
  induction front with
  | nil => rfl
  | cons p front ih =>
    rw [List.mem_cons, not_or] at h
    have hmiss : ¬ startsWith (p :: (front ++ t)) (a :: s) = true := fun hfront =>
      h.1 (List.cons_prefix_cons.1 (startsWith_iff.1 hfront)).1
    rw [List.cons_append, replace, if_neg fun hhit => hmiss hhit.2, ih h.2, List.cons_append]

theorem join_nil_cons {sep : Text} {parts : List Text} (h : parts ≠ []) :
    join sep ([] :: parts) = sep ++ join sep parts := by
  obtain ⟨first, rest, rfl⟩ := List.exists_cons_of_ne_nil h
  rfl

theorem join_cons_cons (sep : Text) (p : CodePoint) (first : Text) (rest : List Text) :
    join sep ((p :: first) :: rest) = p :: join sep (first :: rest) := by
  cases rest <;> rfl

theorem prefix_join (sep first : Text) (rest : List Text) : first <+: join sep (first :: rest) := by
  cases rest with
  | nil => exact List.prefix_rfl
  | cons second rest =>
    show first <+: first ++ sep ++ join sep (second :: rest)
    rw [List.append_assoc]
    exact List.prefix_append _ _

/-- A text is cut at the occurrences of a piece; replacing them puts the parts together again with
something else in between. -/
theorem exists_cut_replace (hpiece : piece ≠ []) (new t : Text) :
    ∃ parts, parts ≠ [] ∧ join piece parts = t ∧ (∀ part ∈ parts, includes piece part = false) ∧
      replace piece new t = join new parts := by
  have hempty : includes piece [] = false := Bool.eq_false_iff.2 fun h =>
    hpiece (List.isEmpty_iff.1 h)
  fun_induction replace piece new t with
  | case1 => exact ⟨[[]], List.cons_ne_nil _ _, rfl, List.forall_mem_singleton.2 hempty, rfl⟩
  | case2 p t hhit ih =>
    obtain ⟨parts, hne, hcut, hfree, hreplace⟩ := ih
    obtain ⟨rest, hrest⟩ := startsWith_iff.1 hhit.2
    rw [← hrest, List.drop_left] at hcut hreplace
    refine ⟨[] :: parts, List.cons_ne_nil _ _, ?_, List.forall_mem_cons.2 ⟨hempty, hfree⟩, ?_⟩
    · rw [join_nil_cons hne, hcut, hrest]
    · rw [← hrest, List.drop_left, hreplace, join_nil_cons hne]
  | case3 p t hmiss ih =>
    obtain ⟨parts, hne, hcut, hfree, hreplace⟩ := ih
    obtain ⟨first, rest, rfl⟩ := List.exists_cons_of_ne_nil hne
    rw [List.forall_mem_cons] at hfree
    -- an occurrence at the beginning of the first part would be one at the beginning of the text
    have hfirst : p :: first <+: p :: t :=
      List.cons_prefix_cons.2 ⟨rfl, hcut ▸ prefix_join piece first rest⟩
    have hfree_first : includes piece (p :: first) = false := by
      rw [includes, hfree.1, Bool.or_false, ← Bool.not_eq_true, startsWith_iff]
      exact fun hfront => hmiss ⟨hpiece, startsWith_iff.2 (hfront.trans hfirst)⟩
    refine ⟨(p :: first) :: rest, List.cons_ne_nil _ _, ?_,
      List.forall_mem_cons.2 ⟨hfree_first, hfree.2⟩, ?_⟩
    · rw [join_cons_cons, hcut]
    · rw [hreplace, join_cons_cons]

/-! ## Deleting in between -/

/-- What a text begins with once code points are deleted is not changed by replacing a piece before
that, as long as it holds neither what the piece begins with nor anything that is put in. -/
theorem prefix_filter_replace_iff (hnew : ∀ p ∈ new, keep p = true) (hne : new ≠ [])
    (hpiece : keep a = true) (hfresh : ∀ p ∈ new, p ∉ s) (ha : a ∉ s) {tail : Text} :
    s <+: (replace (a :: tail) new t).filter keep ↔ s <+: t.filter keep := by
  fun_induction replace (a :: tail) new t generalizing s with
  | case1 => exact Iff.rfl
  | case2 q t hhit ih =>
    cases s with
    | nil => exact iff_of_true List.nil_prefix List.nil_prefix
    | cons b s =>
      obtain ⟨p, rest, rfl⟩ := List.exists_cons_of_ne_nil hne
      obtain ⟨behind, hbehind⟩ := startsWith_iff.1 hhit.2
      obtain ⟨rfl, -⟩ := List.cons.inj hbehind
      rw [List.cons_append, List.filter_cons_of_pos (hnew p List.mem_cons_self),
        List.filter_cons_of_pos hpiece]
      refine iff_of_false (fun h => ?_) fun h => ?_
      · obtain rfl := (List.cons_prefix_cons.1 h).1
        exact hfresh b List.mem_cons_self List.mem_cons_self
      · obtain rfl := (List.cons_prefix_cons.1 h).1
        exact ha List.mem_cons_self
  | case3 q t hmiss ih =>
    by_cases hq : keep q = true
    · rw [List.filter_cons_of_pos hq, List.filter_cons_of_pos hq]
      cases s with
      | nil => exact iff_of_true List.nil_prefix List.nil_prefix
      | cons b s =>
        rw [List.cons_prefix_cons, List.cons_prefix_cons]
        refine and_congr_right fun _ => ih (fun p hp hmem => ?_) fun hmem => ?_
        · exact hfresh p hp (List.mem_cons_of_mem b hmem)
        · exact ha (List.mem_cons_of_mem b hmem)
    · rw [List.filter_cons_of_neg hq, List.filter_cons_of_neg hq]
      exact ih hfresh ha

/-- Replacing a piece before code points are deleted makes no difference, if it is replaced after
that.  The piece begins with what stands nowhere else in it, and what is put in shares nothing with
it; neither is touched by deleting. -/
theorem replace_filter_replace (hkeep : ∀ p ∈ a :: s, keep p = true)
    (hnew : ∀ p ∈ new, keep p = true) (hne : new ≠ []) (hfresh : ∀ p ∈ new, p ∉ a :: s)
    (ha : a ∉ s) (t : Text) :
    replace (a :: s) new ((replace (a :: s) new t).filter keep)
      = replace (a :: s) new (t.filter keep) := by
  have hnone : a ∉ new := fun hmem => hfresh a hmem List.mem_cons_self
  have hcons := List.cons_ne_nil a s
  fun_induction replace (a :: s) new t with
  | case1 => rfl
  | case2 p t hhit ih =>
    obtain ⟨behind, hbehind⟩ := startsWith_iff.1 hhit.2
    rw [← hbehind, List.drop_left] at ih ⊢
    rw [List.filter_append, List.filter_append, List.filter_eq_self.2 hnew,
      List.filter_eq_self.2 hkeep, replace_append_of_not_mem hnone,
      replace_piece_append hcons, ih]
  | case3 p t hmiss ih =>
    by_cases hp : keep p = true
    · rw [List.filter_cons_of_pos hp, List.filter_cons_of_pos hp]
      have hbegins : s <+: (replace (a :: s) new t).filter keep ↔ s <+: t.filter keep :=
        prefix_filter_replace_iff hnew hne (hkeep a List.mem_cons_self)
          (fun q hq hmem => hfresh q hq (List.mem_cons_of_mem a hmem)) ha
      by_cases hjoined : a = p ∧ s <+: t.filter keep
      · -- deleting joined an occurrence: it is replaced in either order
        obtain ⟨rfl, hfront⟩ := hjoined
        obtain ⟨x, hx⟩ := hbegins.2 hfront
        obtain ⟨y, hy⟩ := hfront
        rw [← hx, ← hy, replace_append_of_not_mem ha, replace_append_of_not_mem ha,
          List.append_cancel_left_eq] at ih
        rw [← hx, ← hy, ← List.cons_append, ← List.cons_append, replace_piece_append hcons,
          replace_piece_append hcons, ih]
      · have hmiss_right : ¬ startsWith (p :: t.filter keep) (a :: s) = true := fun h =>
          hjoined (List.cons_prefix_cons.1 (startsWith_iff.1 h))
        have hmiss_left :
            ¬ startsWith (p :: (replace (a :: s) new t).filter keep) (a :: s) = true := by
          rw [startsWith_iff, List.cons_prefix_cons, hbegins]
          exact hjoined
        rw [replace, if_neg fun h => hmiss_left h.2, replace, if_neg fun h => hmiss_right h.2, ih]
    · rw [List.filter_cons_of_neg hp, List.filter_cons_of_neg hp, ih]

end Text

namespace Topic

variable {n : Nat} {t u : Text}

/-- So many passes are made over a topic until no slash in it is escaped. -/
inductive Passes : Nat → Text → Text → Prop where
  | done {t : Text} : Text.includes escapedSlash t = false → Passes 0 t t
  | again {n : Nat} {t u : Text} : Text.includes escapedSlash t = true →
      Passes n (decodeSlashes t) u → Passes (n + 1) t u

/-- At most one pass is made. -/
theorem exists_passes_decodeAll (t : Text) : ∃ n ≤ 1, Passes n t (decodeAll t) := by
  have hdone : Passes 0 (decodeSlashes t) (decodeSlashes t) := .done (not_escaped_decodeSlashes t)
  cases hescape : Text.includes escapedSlash t with
  | false =>
    rw [decodeAll_of_not_escaped hescape]
    exact ⟨0, Nat.zero_le 1, .done hescape⟩
  | true =>
    rw [decodeAll_eq]
    exact ⟨1, Nat.le_refl 1, .again hescape hdone⟩

/-- Decoding before the brackets are taken out makes no difference. -/
theorem clean_eq (t : Text) : clean t = decodeSlashes (dropBrackets t) := by
  rw [clean, decodeAll_eq]
  exact Text.replace_filter_replace (by decide) (by decide) (by decide) (by decide) (by decide) t

/-- Cleaning takes the brackets out and then decodes every escaped slash in one pass from the left,
which cuts the topic at the escapes and puts slashes in their places.  Of the passes over the topic
after its brackets are gone at most one is made; then nothing is left to clean, and cleaning once
more changes nothing. -/
theorem clean_single_pass (t : Text) :
    clean t = decodeSlashes (dropBrackets t) ∧
      (∃ parts, parts ≠ [] ∧ Text.join escapedSlash parts = dropBrackets t ∧
        (∀ part ∈ parts, Text.includes escapedSlash part = false) ∧
        clean t = Text.join "/" parts) ∧
      (∃ n ≤ 1, Passes n (dropBrackets (decodeSlashes t)) (clean t)) ∧
      IsClean (clean t) ∧
      clean (clean t) = clean t := by
  have hescape : escapedSlash ≠ [] := by decide
  obtain ⟨parts, hne, hcut, hfree, hreplace⟩ :=
    Text.exists_cut_replace hescape "/" (dropBrackets t)
  refine ⟨clean_eq t, ⟨parts, hne, hcut, hfree, ?_⟩, ?_, isClean_clean t, ?_⟩
  · rw [clean_eq]
    exact hreplace
  · exact exists_passes_decodeAll (dropBrackets (decodeSlashes t))
  · exact clean_eq_self_iff.2 (isClean_clean t)

/-- Taking brackets out can join the halves of an escape. -/
example : clean "plant&#<x2F;boiler>" = "plant/boiler" := by decide +kernel

end Topic

end DashboardKit
