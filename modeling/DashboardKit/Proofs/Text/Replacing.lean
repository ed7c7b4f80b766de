import DashboardKit.Topic

/-!
# Replacing pieces of a text

A piece that is replaced by a text with none of its code points is gone afterwards: what was put in
can be no part of an occurrence, and nothing that was left holds one.  So it is with the escaped
slashes of a topic, and `Topic.isClean_clean` says that nothing of what cleaning takes out is left.
-/

set_option autoImplicit false

namespace DashboardKit

namespace Text

variable {piece new s t : Text}

theorem startsWith_iff : startsWith t s = true ↔ s <+: t := by
  rw [startsWith, Option.isSome_iff_exists]
  constructor
  · rintro ⟨rest, hrest⟩
    exact ⟨rest, (after?_eq_some_iff.1 hrest).symm⟩
  · rintro ⟨rest, hrest⟩
    exact ⟨rest, after?_eq_some_iff.2 hrest.symm⟩

theorem endsWith_iff : endsWith t s = true ↔ s <:+ t := by
  rw [← List.reverse_prefix]
  exact startsWith_iff

theorem includes_iff : includes piece t = true ↔ piece <:+: t := by
  induction t with
  | nil => simp [includes]
  | cons p t ih => rw [includes, Bool.or_eq_true, startsWith_iff, ih, List.infix_cons_iff]

/-- A code point of the result comes from the text or from what is put in. -/
theorem mem_replace {p : CodePoint} (h : p ∈ replace piece new t) : p ∈ new ∨ p ∈ t := by
  fun_induction replace piece new t with
  | case1 => exact .inr h
  | case2 q t hhit ih =>
    rcases List.mem_append.1 h with hnew | hrest
    · exact .inl hnew
    · exact (ih hrest).imp_right List.mem_of_mem_drop
  | case3 q t hmiss ih =>
    rcases List.mem_cons.1 h with rfl | hrest
    · exact .inr List.mem_cons_self
    · exact (ih hrest).imp_right (List.mem_cons_of_mem q)

/-- What the result begins with was there before, if nothing of it was put in. -/
theorem prefix_of_prefix_replace (hnew : new ≠ []) (hfresh : ∀ p ∈ new, p ∉ s)
    (h : s <+: replace piece new t) : s <+: t := by
  fun_induction replace piece new t generalizing s with
  | case1 => exact h
  | case2 q t hhit ih =>
    obtain ⟨p, new, rfl⟩ := List.exists_cons_of_ne_nil hnew
    cases s with
    | nil => exact List.nil_prefix
    | cons a s =>
      obtain rfl : a = p := (List.cons_prefix_cons.1 h).1
      exact absurd List.mem_cons_self (hfresh a List.mem_cons_self)
  | case3 q t hmiss ih =>
    cases s with
    | nil => exact List.nil_prefix
    | cons a s =>
      obtain ⟨rfl, hs⟩ := List.cons_prefix_cons.1 h
      refine List.cons_prefix_cons.2 ⟨rfl, ih (fun p hp hmem => ?_) hs⟩
      exact hfresh p hp (List.mem_cons_of_mem a hmem)

/-- A text that shares nothing with a piece can stand in front without making one. -/
theorem infix_of_infix_append (hpiece : piece ≠ []) (hfresh : ∀ p ∈ new, p ∉ piece)
    (h : piece <:+: new ++ t) : piece <:+: t := by
  induction new with
  | nil => exact h
  | cons p new ih =>
    rw [List.forall_mem_cons] at hfresh
    rw [List.cons_append, List.infix_cons_iff] at h
    rcases h with hfront | hrest
    · obtain ⟨a, piece, rfl⟩ := List.exists_cons_of_ne_nil hpiece
      obtain rfl : a = p := (List.cons_prefix_cons.1 hfront).1
      exact absurd List.mem_cons_self hfresh.1
    · exact ih hfresh.2 hrest

/-- A piece is gone once it was replaced by something that shares nothing with it. -/
theorem not_infix_replace (hpiece : piece ≠ []) (hnew : new ≠ []) (hfresh : ∀ p ∈ new, p ∉ piece)
    (t : Text) : ¬ piece <:+: replace piece new t := by
  fun_induction replace piece new t with
  | case1 => exact fun h => hpiece (List.infix_nil.1 h)
  | case2 q t hhit ih => exact fun h => ih (infix_of_infix_append hpiece hfresh h)
  | case3 q t hmiss ih =>
    intro h
    rcases List.infix_cons_iff.1 h with hfront | hrest
    · -- an occurrence in front would have been replaced
      obtain ⟨a, piece', rfl⟩ := List.exists_cons_of_ne_nil hpiece
      obtain ⟨rfl, hs⟩ := List.cons_prefix_cons.1 hfront
      have hthere := prefix_of_prefix_replace hnew
        (fun p hp hmem => hfresh p hp (List.mem_cons_of_mem a hmem)) hs
      exact hmiss ⟨hpiece, startsWith_iff.2 (List.cons_prefix_cons.2 ⟨rfl, hthere⟩)⟩
    · exact ih hrest

/-- Where a piece does not stand, nothing is replaced. -/
theorem replace_of_not_infix (h : ¬ piece <:+: t) : replace piece new t = t := by
  induction t with
  | nil => rw [replace]
  | cons p t ih =>
    rw [List.infix_cons_iff, not_or] at h
    rw [replace, if_neg fun hhit => h.1 (startsWith_iff.1 hhit.2), ih h.2]

end Text

namespace Topic

variable {t : Text}

/-- Neither angle brackets nor escaped slashes stand in a topic. -/
structure IsClean (t : Text) : Prop where
  no_opening : .scalar '<' ∉ t
  no_closing : .scalar '>' ∉ t
  no_escape : Text.includes escapedSlash t = false

instance (t : Text) : Decidable (IsClean t) :=
  decidable_of_iff (.scalar '<' ∉ t ∧ .scalar '>' ∉ t ∧ Text.includes escapedSlash t = false)
    ⟨fun h => ⟨h.1, h.2.1, h.2.2⟩, fun h => ⟨h.1, h.2, h.3⟩⟩

/-- No escaped slash is left where slashes were decoded. -/
theorem not_escaped_decodeSlashes (t : Text) :
    Text.includes escapedSlash (decodeSlashes t) = false := by
  rw [← Bool.not_eq_true, Text.includes_iff]
  exact Text.not_infix_replace (by decide) (by decide) (by decide) t

/-- A topic without escaped slashes stays as it is. -/
theorem decodeAll_of_not_escaped (h : Text.includes escapedSlash t = false) : decodeAll t = t := by
  rw [decodeAll, if_neg (Bool.eq_false_iff.1 h)]

/-- One pass decodes them all. -/
theorem decodeAll_eq (t : Text) : decodeAll t = decodeSlashes t := by
  by_cases h : Text.includes escapedSlash t = true
  · rw [decodeAll, if_pos h, decodeAll_of_not_escaped (not_escaped_decodeSlashes t)]
  · rw [decodeAll, if_neg h, decodeSlashes,
      Text.replace_of_not_infix fun hinfix => h (Text.includes_iff.2 hinfix)]

/-- A topic that was cleaned is clean. -/
theorem isClean_clean (t : Text) : IsClean (clean t) := by
  rw [clean, decodeAll_eq]
  have hbrackets : ∀ p ∈ decodeSlashes (dropBrackets (decodeSlashes t)),
      p ≠ .scalar '<' ∧ p ≠ .scalar '>' := by
    intro p hp
    rcases Text.mem_replace hp with hslash | hkept
    · obtain rfl := List.mem_singleton.1 hslash
      decide
    · simpa using (List.mem_filter.1 hkept).2
  exact ⟨fun h => (hbrackets _ h).1 rfl, fun h => (hbrackets _ h).2 rfl,
    not_escaped_decodeSlashes _⟩

/-- Cleaning changes a topic unless it is clean. -/
theorem clean_eq_self_iff : clean t = t ↔ IsClean t := by
  constructor
  · intro h
    rw [← h]
    exact isClean_clean t
  · intro h
    have hdecoded : decodeSlashes t = t := by
      rw [← decodeAll_eq, decodeAll_of_not_escaped h.no_escape]
    have hbrackets : dropBrackets t = t := by
      refine List.filter_eq_self.2 fun p hp => ?_
      have hopening : p ≠ .scalar '<' := fun heq => h.no_opening (heq ▸ hp)
      have hclosing : p ≠ .scalar '>' := fun heq => h.no_closing (heq ▸ hp)
      exact decide_eq_true ⟨hopening, hclosing⟩
    rw [clean, hdecoded, hbrackets, decodeAll_of_not_escaped h.no_escape]

end Topic

end DashboardKit
