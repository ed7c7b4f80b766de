import DashboardKit.Console.Markup
import DashboardKit.Proofs.Except
import Mathlib.Data.List.TakeWhile

/-!
# What markup shows

A tag is read off the front of a text in one way only (`escapedTag?_eq_some_iff`), so that a text
in which every tag is escaped opens and closes nothing.  Escaped text is therefore always shown,
whatever it is, by itself and in a style.

Main statements: `exists_shown_escape` and `exists_shown_styled`.
-/

set_option autoImplicit false

namespace DashboardKit.Markup

variable {t inner after : Text} {n : Nat} {styles styles' : List Text}

/-! ## Tags at the front of a text -/

/-- What can stand in the brackets of a tag. -/
def InTag (inner : Text) : Prop :=
  ∃ p rest, inner = p :: rest ∧ beginsTag p = true ∧
    ∀ q ∈ rest, q ≠ .scalar '[' ∧ q ≠ .scalar ']'

theorem InTag.ne_opening (h : InTag inner) : ∀ q ∈ inner, q ≠ .scalar '[' := by
  obtain ⟨p, rest, rfl, hbegins, hrest⟩ := h
  refine List.forall_mem_cons.2 ⟨?_, fun q hq => (hrest q hq).1⟩
  rintro rfl
  exact absurd hbegins (by decide)

theorem takeWhile_append_cons {α : Type} {f : α → Bool} {a : List α} {x : α} {b : List α}
    (ha : ∀ y ∈ a, f y = true) (hx : f x = false) : (a ++ x :: b).takeWhile f = a := by
  rw [List.takeWhile_append_of_pos ha, List.takeWhile_cons_of_neg (by simp [hx]), List.append_nil]

theorem tag?_eq_some_iff :
    tag? t = some (inner, after) ↔ InTag inner ∧ t = inner ++ .scalar ']' :: after := by
  constructor
  · intro h
    cases t with
    | nil => simp [tag?] at h
    | cons p rest =>
      simp only [tag?] at h
      have hparts := List.prefix_iff_eq_append.1 (List.takeWhile_prefix (l := rest)
        fun q => decide (q ≠ .scalar '[' ∧ q ≠ .scalar ']'))
      have hall := List.all_takeWhile (l := rest)
        (p := fun q => decide (q ≠ .scalar '[' ∧ q ≠ .scalar ']'))
      generalize rest.takeWhile _ = inner' at h hparts hall
      split at h
      · rename_i hbegins
        split at h
        · rename_i hdrop
          cases h
          rw [hdrop] at hparts
          refine ⟨⟨p, inner', rfl, hbegins, ?_⟩, by rw [List.cons_append, hparts]⟩
          exact fun q hq => of_decide_eq_true (List.all_eq_true.1 hall q hq)
        · cases h
      · cases h
  · rintro ⟨⟨p, rest, rfl, hbegins, hrest⟩, rfl⟩
    have htake : (rest ++ .scalar ']' :: after).takeWhile
        (fun q => decide (q ≠ .scalar '[' ∧ q ≠ .scalar ']')) = rest :=
      takeWhile_append_cons (fun q hq => decide_eq_true (hrest q hq)) (by decide)
    simp only [List.cons_append, tag?, hbegins, if_true, htake, List.drop_left]

/-- A number of backslashes, then a tag, then the rest of a text. -/
def behindBackslashes (n : Nat) (inner after : Text) : Text :=
  List.replicate n (.scalar '\\') ++ .scalar '[' :: (inner ++ .scalar ']' :: after)

theorem backslashes_append (n : Nat) {p : CodePoint} (hp : p ≠ .scalar '\\') :
    backslashes (List.replicate n (.scalar '\\') ++ p :: t) = n := by
  rw [backslashes, takeWhile_append_cons, List.length_replicate]
  · exact fun q hq => decide_eq_true (List.eq_of_mem_replicate hq)
  · exact decide_eq_false hp

/-- The tag at the front of a text is where the text says it is. -/
theorem escapedTag?_eq_some_iff : escapedTag? t = some (n, inner, after) ↔
    InTag inner ∧ t = behindBackslashes n inner after := by
  constructor
  · intro h
    have hparts := List.prefix_iff_eq_append.1 (List.takeWhile_prefix (l := t)
      fun q => decide (q = .scalar '\\'))
    have hall : t.takeWhile (· = .scalar '\\') = List.replicate (backslashes t) (.scalar '\\') :=
      List.eq_replicate_of_mem fun q hq =>
        of_decide_eq_true (List.all_eq_true.1 List.all_takeWhile q hq)
    simp only [escapedTag?] at h
    split at h
    · rename_i rest hdrop
      obtain ⟨⟨inner', after'⟩, htag, hsome⟩ := Option.map_eq_some_iff.1 h
      cases hsome
      obtain ⟨hinner, rfl⟩ := tag?_eq_some_iff.1 htag
      refine ⟨hinner, ?_⟩
      rw [behindBackslashes, ← hdrop, ← hall]
      exact hparts.symm
    · cases h
  · rintro ⟨hinner, rfl⟩
    have hcount : backslashes (behindBackslashes n inner after) = n :=
      backslashes_append n (by decide)
    rw [escapedTag?, hcount]
    simp only [behindBackslashes, List.drop_left' List.length_replicate]
    rw [tag?_eq_some_iff.2 ⟨hinner, rfl⟩]
    rfl

/-! ## What is shown -/

/-- A text is shown while these styles are open, wherever it stands. -/
def Shows (styles : List Text) (t : Text) : Prop :=
  ∀ bound position, t.length ≤ bound → ∃ u, shownParts styles (parts bound position t) = .ok u

theorem shows_nil (styles : List Text) : Shows styles [] := by
  intro bound position _
  cases bound <;> exact ⟨[], rfl⟩

theorem exists_shownParts_consPlain {p : CodePoint} {ps : List Part} {u : Text}
    (h : shownParts styles ps = .ok u) : ∃ u', shownParts styles (consPlain p ps) = .ok u' := by
  cases ps with
  | nil => exact ⟨_, rfl⟩
  | cons part rest =>
    cases part with
    | plain t =>
      obtain ⟨v, hrest, -⟩ := map_eq_ok.1 h
      exact exists_map_eq_ok.2 ⟨v, hrest⟩
    | escaped t => exact exists_map_eq_ok.2 ⟨u, h⟩
    | tag inner position => exact exists_map_eq_ok.2 ⟨u, h⟩

theorem Shows.cons {p : CodePoint} (hp : escapedTag? (p :: t) = none) (h : Shows styles t) :
    Shows styles (p :: t) := by
  intro bound position hbound
  cases bound with
  | zero => simp at hbound
  | succ bound =>
    obtain ⟨u, hu⟩ := h bound (position + 1) (Nat.le_of_succ_le_succ hbound)
    simp only [parts, hp]
    exact exists_shownParts_consPlain hu

/-- The parts of a text that begins with a tag behind backslashes. -/
theorem parts_behindBackslashes (hinner : InTag inner) (n bound position : Nat) :
    parts (bound + 1) position (behindBackslashes n inner after)
      = .escaped (List.replicate (n / 2) (.scalar '\\'))
        :: (if n % 2 = 1 then .escaped (bracketed inner) else .tag inner (position + n / 2 * 2))
        :: parts bound (position + n + inner.length + 2) after := by
  have htag : escapedTag? (behindBackslashes n inner after) = some (n, inner, after) :=
    escapedTag?_eq_some_iff.2 ⟨hinner, rfl⟩
  cases hcons : behindBackslashes n inner after with
  | nil => simp [behindBackslashes] at hcons
  | cons p t =>
    rw [hcons] at htag
    simp only [parts, htag]

theorem length_behindBackslashes (n : Nat) (inner after : Text) :
    (behindBackslashes n inner after).length = n + inner.length + after.length + 2 := by
  simp only [behindBackslashes, List.length_append, List.length_cons, List.length_replicate]
  omega

/-- A tag behind an odd number of backslashes is shown as it is, and any other one is a tag. -/
theorem Shows.behindBackslashes (hinner : InTag inner)
    (htag : n % 2 = 0 → ∀ position, openAfter styles inner position = .ok styles')
    (hescaped : n % 2 = 1 → styles' = styles) (h : Shows styles' after) :
    Shows styles (behindBackslashes n inner after) := by
  intro bound position hbound
  rw [length_behindBackslashes] at hbound
  cases bound with
  | zero => omega
  | succ bound =>
    obtain ⟨u, hu⟩ := h bound (position + n + inner.length + 2) (by omega)
    rw [parts_behindBackslashes hinner]
    refine exists_map_eq_ok.2 ?_
    rcases Nat.mod_two_eq_zero_or_one n with heven | hodd
    · refine ⟨u, ?_⟩
      simp only [heven, Nat.zero_ne_one, if_false, shownParts, htag heven]
      exact hu
    · rw [if_pos hodd, ← hescaped hodd]
      exact exists_map_eq_ok.2 ⟨u, hu⟩

/-! ## Escaped text -/

/-- An opening bracket that comes before every closing one is no part of the inside of a tag. -/
theorem append_opening_ne {a x : Text} (ha : ∀ q ∈ a, q ≠ .scalar ']')
    (hinner : ∀ q ∈ inner, q ≠ .scalar '[') :
    a ++ .scalar '[' :: x ≠ inner ++ .scalar ']' :: after := by
  induction a generalizing inner with
  | nil =>
    cases inner with
    | nil => simp
    | cons q inner => exact fun h => hinner q List.mem_cons_self (List.cons.inj h).1.symm
  | cons p a ih =>
    rw [List.forall_mem_cons] at ha
    cases inner with
    | nil => exact fun h => ha.1 (List.cons.inj h).1
    | cons q inner =>
      rw [List.forall_mem_cons] at hinner
      exact fun h => ih ha.2 hinner.2 (List.cons.inj h).2

theorem behindBackslashes_ne {inner' after' : Text} (hinner : ∀ q ∈ inner', q ≠ .scalar '[') :
    behindBackslashes n inner after ≠ inner' ++ .scalar ']' :: after' := by
  refine append_opening_ne (fun q hq => ?_) hinner
  rw [List.eq_of_mem_replicate hq]
  decide

/-- A text that can stand behind escaped text while these styles are open: it ends no tag that is
begun there, and it is shown behind any number of backslashes. -/
structure FitsBehind (styles : List Text) (x : Text) : Prop where
  ends_nothing : ∀ inner after, (∀ q ∈ inner, q ≠ .scalar '[') → x ≠ inner ++ .scalar ']' :: after
  shows : ∀ j, Shows styles (List.replicate j (.scalar '\\') ++ x)

variable {x : Text} {bound : Nat}

/-- Escaping one code point or one tag. -/
theorem escapeTags_succ (bound : Nat) (p : CodePoint) (t : Text) :
    (∃ n inner after, InTag inner ∧ p :: t = behindBackslashes n inner after ∧
        escapeTags (bound + 1) (p :: t)
          = behindBackslashes (2 * n + 1) inner (escapeTags bound after)) ∨
      (escapedTag? (p :: t) = none ∧
        escapeTags (bound + 1) (p :: t) = p :: escapeTags bound t) := by
  cases htag : escapedTag? (p :: t) with
  | none => exact .inr ⟨rfl, by simp only [escapeTags, htag]⟩
  | some found =>
    obtain ⟨n, inner, after⟩ := found
    obtain ⟨hinner, ht⟩ := escapedTag?_eq_some_iff.1 htag
    refine .inl ⟨n, inner, after, hinner, ht, ?_⟩
    simp only [escapeTags, htag, behindBackslashes, bracketed, List.append_assoc, List.cons_append,
      List.nil_append]

/-- What reads as the inside of a tag behind its opening bracket was so before escaping. -/
theorem closing_of_escapeTags (hx : FitsBehind styles x) (hbound : t.length ≤ bound)
    (hinner : ∀ q ∈ inner, q ≠ .scalar '[')
    (h : escapeTags bound t ++ x = inner ++ .scalar ']' :: after) :
    ∃ rest, t = inner ++ .scalar ']' :: rest := by
  induction bound generalizing t inner with
  | zero =>
    obtain rfl := List.eq_nil_of_length_eq_zero (Nat.le_zero.1 hbound)
    exact absurd h (hx.ends_nothing _ _ hinner)
  | succ bound ih =>
    cases t with
    | nil => exact absurd h (hx.ends_nothing _ _ hinner)
    | cons p t =>
      rcases escapeTags_succ bound p t with ⟨m, inner', rest, -, -, hescape⟩ | ⟨-, hescape⟩
      · rw [hescape, behindBackslashes, List.append_assoc, List.cons_append] at h
        refine absurd h (append_opening_ne (fun q hq => ?_) hinner)
        rw [List.eq_of_mem_replicate hq]
        decide
      · rw [hescape, List.cons_append] at h
        cases inner with
        | nil => exact ⟨t, by rw [(List.cons.inj h).1]; rfl⟩
        | cons q inner =>
          rw [List.forall_mem_cons] at hinner
          obtain ⟨hp, ht⟩ := List.cons.inj h
          obtain ⟨rest, hrest⟩ := ih (Nat.le_of_succ_le_succ hbound) hinner.2 ht
          exact ⟨rest, by rw [hp, hrest]; rfl⟩

/-- A tag at the front of escaped text with something behind it is one that was escaped, or it
begins in what stands behind. -/
theorem tag_of_escapeTags (hx : FitsBehind styles x) (hbound : t.length ≤ bound)
    (hinner : InTag inner) (h : escapeTags bound t ++ x = behindBackslashes n inner after) :
    (∃ found, escapedTag? t = some found) ∨ ∃ j, t = List.replicate j (.scalar '\\') := by
  induction bound generalizing t n with
  | zero => exact .inr ⟨0, List.eq_nil_of_length_eq_zero (Nat.le_zero.1 hbound)⟩
  | succ bound ih =>
    cases t with
    | nil => exact .inr ⟨0, rfl⟩
    | cons p t =>
      rcases escapeTags_succ bound p t with ⟨m, inner', rest, hinner', ht, -⟩ | ⟨-, hescape⟩
      · exact .inl ⟨_, escapedTag?_eq_some_iff.2 ⟨hinner', ht⟩⟩
      rw [hescape, List.cons_append] at h
      cases n with
      | zero =>
        -- the tag begins here, so that its inside was there before escaping
        obtain ⟨rfl, ht⟩ := List.cons.inj h
        obtain ⟨rest, rfl⟩ :=
          closing_of_escapeTags hx (Nat.le_of_succ_le_succ hbound) hinner.ne_opening ht
        exact .inl ⟨(0, inner, rest), escapedTag?_eq_some_iff.2 ⟨hinner, rfl⟩⟩
      | succ n =>
        obtain ⟨rfl, ht⟩ := List.cons.inj h
        rcases ih (Nat.le_of_succ_le_succ hbound) ht with ⟨⟨m, inner', rest⟩, hfound⟩ | ⟨j, rfl⟩
        · obtain ⟨hinner', rfl⟩ := escapedTag?_eq_some_iff.1 hfound
          exact .inl ⟨(m + 1, inner', rest), escapedTag?_eq_some_iff.2 ⟨hinner', rfl⟩⟩
        · exact .inr ⟨j + 1, rfl⟩

/-- Backslashes alone are no tag. -/
theorem escapedTag?_replicate (j : Nat) :
    escapedTag? (List.replicate j (.scalar '\\')) = none := by
  refine Option.eq_none_iff_forall_not_mem.2 fun (n, inner, after) hfound => ?_
  obtain ⟨-, ht⟩ := escapedTag?_eq_some_iff.1 hfound
  have hmem : CodePoint.scalar '[' ∈ List.replicate j (CodePoint.scalar '\\') := by
    rw [ht]
    exact List.mem_append_right _ List.mem_cons_self
  exact absurd (List.eq_of_mem_replicate hmem) (by decide)

theorem escapeTags_replicate (bound j : Nat) :
    escapeTags bound (List.replicate j (.scalar '\\')) = List.replicate j (.scalar '\\') := by
  induction bound generalizing j with
  | zero => rfl
  | succ bound ih =>
    cases j with
    | zero => rfl
    | succ j =>
      have hnone := escapedTag?_replicate (j + 1)
      rw [List.replicate_succ] at hnone ⊢
      simp only [escapeTags, hnone, ih]

/-- Escaped text is shown with everything that fits behind it. -/
theorem shows_escapeTags (hx : FitsBehind styles x) (hbound : t.length ≤ bound) :
    Shows styles (escapeTags bound t ++ x) := by
  induction bound generalizing t with
  | zero =>
    obtain rfl := List.eq_nil_of_length_eq_zero (Nat.le_zero.1 hbound)
    exact hx.shows 0
  | succ bound ih =>
    cases t with
    | nil => exact hx.shows 0
    | cons p t =>
      rcases escapeTags_succ bound p t with
        ⟨n, inner, after, hinner, ht, hescape⟩ | ⟨hnone, hescape⟩
      · have hafter : after.length ≤ bound := by
          have hlength := congrArg List.length ht
          rw [length_behindBackslashes] at hlength
          omega
        have happend : escapeTags (bound + 1) (p :: t) ++ x
            = behindBackslashes (2 * n + 1) inner (escapeTags bound after ++ x) := by
          rw [hescape]
          simp only [behindBackslashes, List.append_assoc, List.cons_append]
        rw [happend]
        refine Shows.behindBackslashes hinner (fun heven => ?_) (fun _ => rfl) (ih hafter)
        omega
      · rw [hescape, List.cons_append]
        cases hfound : escapedTag? (p :: (escapeTags bound t ++ x)) with
        | none => exact (ih (Nat.le_of_succ_le_succ hbound)).cons hfound
        | some found =>
          obtain ⟨n, inner, after⟩ := found
          obtain ⟨hinner, hfront⟩ := escapedTag?_eq_some_iff.1 hfound
          rw [← List.cons_append, ← hescape] at hfront
          rcases tag_of_escapeTags hx hbound hinner hfront with ⟨found, hsome⟩ | ⟨j, hj⟩
          · rw [hnone] at hsome
            cases hsome
          · rw [← List.cons_append, ← hescape, hj, escapeTags_replicate]
            exact hx.shows j

/-- Escaping puts one more backslash at the end, at most. -/
theorem exists_escape_eq (t : Text) : ∃ k,
    escape t = escapeTags t.length t ++ List.replicate k (.scalar '\\') := by
  unfold escape
  simp only
  split
  · exact ⟨0, (List.append_nil _).symm⟩
  · exact ⟨1, rfl⟩
  · exact ⟨0, (List.append_nil _).symm⟩

theorem exists_shown_of_shows (h : Shows [] t) : ∃ u, shown t = .ok u := by
  unfold shown
  split
  · exact h _ 0 (Nat.le_refl _)
  · exact ⟨_, rfl⟩

/-! ### Nothing behind -/

theorem shows_replicate (styles : List Text) (j : Nat) :
    Shows styles (List.replicate j (.scalar '\\')) := by
  induction j with
  | zero => exact shows_nil styles
  | succ j ih =>
    have hnone := escapedTag?_replicate (j + 1)
    rw [List.replicate_succ] at hnone ⊢
    exact ih.cons hnone

theorem fitsBehind_replicate (styles : List Text) (k : Nat) :
    FitsBehind styles (List.replicate k (.scalar '\\')) where
  ends_nothing inner after _ h := by
    have hmem : CodePoint.scalar ']' ∈ List.replicate k (CodePoint.scalar '\\') := by
      rw [h]
      exact List.mem_append_right _ List.mem_cons_self
    exact absurd (List.eq_of_mem_replicate hmem) (by decide)
  shows j := by
    rw [List.replicate_append_replicate]
    exact shows_replicate styles (j + k)

theorem shows_escape (styles : List Text) (t : Text) : Shows styles (escape t) := by
  obtain ⟨k, hk⟩ := exists_escape_eq t
  rw [hk]
  exact shows_escapeTags (fitsBehind_replicate styles k) (Nat.le_refl _)

/-- Escaped text is shown, whatever it is. -/
theorem exists_shown_escape (t : Text) : ∃ u, shown (escape t) = .ok u :=
  exists_shown_of_shows (shows_escape [] t)

/-! ### Plain text in front -/

/-- Text without an opening bracket opens and closes nothing, if it does not end in a backslash. -/
theorem Shows.behind_plain {a : Text} {c : CodePoint} (ha : .scalar '[' ∉ a)
    (hbracket : c ≠ .scalar '[') (hbackslash : c ≠ .scalar '\\') (h : Shows styles t) :
    Shows styles (a ++ c :: t) := by
  -- a tag would begin behind the last code point, with nothing but backslashes up to there
  have hnone {b : Text} (hb : .scalar '[' ∉ b ++ [c]) : escapedTag? (b ++ c :: t) = none := by
    cases hfound : escapedTag? (b ++ c :: t) with
    | none => rfl
    | some found =>
      obtain ⟨n, inner, after⟩ := found
      have hfront := (escapedTag?_eq_some_iff.1 hfound).2
      rw [List.append_cons, Markup.behindBackslashes, List.append_eq_append_iff] at hfront
      rcases hfront with ⟨x, hx, -⟩ | ⟨x, hx, hrest⟩
      · have hc : c ∈ List.replicate n (.scalar '\\') := by simp [hx]
        exact absurd (List.eq_of_mem_replicate hc) hbackslash
      · cases x with
        | nil =>
          have hc : c ∈ List.replicate n (.scalar '\\') := by
            rw [← List.append_nil (List.replicate n _), ← hx]
            exact List.mem_append_right b List.mem_cons_self
          exact absurd (List.eq_of_mem_replicate hc) hbackslash
        | cons q x =>
          obtain ⟨rfl, -⟩ := List.cons.inj hrest
          exact absurd (hx ▸ List.mem_append_right _ List.mem_cons_self) hb
  induction a with
  | nil => exact h.cons (hnone (b := []) (by simpa using Ne.symm hbracket))
  | cons p a ih =>
    rw [List.mem_cons, not_or] at ha
    refine (ih ha.2).cons (hnone (b := p :: a) ?_)
    simpa using ⟨ha.1, ha.2, Ne.symm hbracket⟩

/-! ### A closing tag behind -/

variable {closed : Text}

theorem replicate_append_behindBackslashes (j k : Nat) :
    List.replicate j (.scalar '\\') ++ behindBackslashes k inner after
      = behindBackslashes (j + k) inner after := by
  rw [behindBackslashes, behindBackslashes, ← List.append_assoc, List.replicate_append_replicate]

theorem shows_closing (hclosed : InTag closed)
    (hclose : ∀ position, openAfter styles closed position = .ok styles') (k : Nat) :
    Shows styles (behindBackslashes k closed []) := by
  rcases Nat.mod_two_eq_zero_or_one k with heven | hodd
  · refine Shows.behindBackslashes hclosed (fun _ => hclose) (fun hodd => ?_) (shows_nil styles')
    omega
  · refine Shows.behindBackslashes hclosed (fun heven => ?_) (fun _ => rfl) (shows_nil styles)
    omega

theorem fitsBehind_closing (hclosed : InTag closed)
    (hclose : ∀ position, openAfter styles closed position = .ok styles') (k : Nat) :
    FitsBehind styles (behindBackslashes k closed []) where
  ends_nothing _ _ hinner := behindBackslashes_ne hinner
  shows j := by
    rw [replicate_append_behindBackslashes]
    exact shows_closing hclosed hclose (j + k)

/-! ## Styles -/

/-- A style that can be opened and closed by its text, which goes by a name. -/
structure IsStyle (style name : Text) : Prop where
  inTag : InTag style
  no_equals : ∀ q ∈ style, q ≠ .scalar '='
  no_slash : style.head? ≠ some (.scalar '/')
  not_blank : (Text.trim CodePoint.isBlank style).isEmpty = false
  named : styleName style = .ok name

variable {style name : Text}

theorem IsStyle.openAfter_opening (h : IsStyle style name) (styles : List Text) (position : Nat) :
    openAfter styles style position = .ok (name :: styles) := by
  have hwhole : style.takeWhile (· ≠ .scalar '=') = style :=
    List.takeWhile_eq_self_iff.2 fun q hq => decide_eq_true (h.no_equals q hq)
  simp only [openAfter, hwhole]
  split
  · exact absurd rfl h.no_slash
  · rw [h.named]
    rfl

theorem IsStyle.openAfter_closing (h : IsStyle style name) (styles : List Text) (position : Nat) :
    openAfter (name :: styles) (.scalar '/' :: style) position = .ok styles := by
  have hwhole : (CodePoint.scalar '/' :: style).takeWhile (· ≠ .scalar '=')
      = .scalar '/' :: style := by
    refine List.takeWhile_eq_self_iff.2 fun q hq => decide_eq_true ?_
    rcases List.mem_cons.1 hq with rfl | hq
    · decide
    · exact h.no_equals q hq
  simp only [openAfter, hwhole, h.not_blank, h.named, Bool.false_eq_true, if_false]
  simp

theorem IsStyle.inTag_closing (h : IsStyle style name) : InTag (.scalar '/' :: style) := by
  refine ⟨.scalar '/', style, rfl, by decide, ?_⟩
  obtain ⟨p, rest, rfl, hbegins, hrest⟩ := h.inTag
  refine List.forall_mem_cons.2 ⟨⟨?_, ?_⟩, hrest⟩ <;>
    (rintro rfl; exact absurd hbegins (by decide))

/-- Text in a style is shown, whatever it is. -/
theorem exists_shown_styled (h : IsStyle style name) (t : Text) :
    ∃ u, shown (("[" : Text) ++ style ++ ("]" : Text) ++ escape t
      ++ ("[/" : Text) ++ style ++ ("]" : Text)) = .ok u := by
  obtain ⟨k, hk⟩ := exists_escape_eq t
  have htext : ("[" : Text) ++ style ++ ("]" : Text) ++ escape t
      ++ ("[/" : Text) ++ style ++ ("]" : Text)
      = behindBackslashes 0 style
          (escapeTags t.length t ++ behindBackslashes k (.scalar '/' :: style) []) := by
    have hopening : ("[" : Text) = [.scalar '['] := rfl
    have hclosing : ("[/" : Text) = [.scalar '[', .scalar '/'] := rfl
    have hend : ("]" : Text) = [.scalar ']'] := rfl
    rw [hk, hopening, hclosing, hend]
    simp only [behindBackslashes, List.replicate_zero, List.append_assoc, List.cons_append,
      List.nil_append]
  rw [htext]
  refine exists_shown_of_shows ?_
  refine Shows.behindBackslashes h.inTag (fun _ => h.openAfter_opening []) (fun hodd => ?_) ?_
  · simp at hodd
  · have hclosing := fitsBehind_closing h.inTag_closing (h.openAfter_closing []) k
    exact shows_escapeTags hclosing (Nat.le_refl _)

end DashboardKit.Markup
