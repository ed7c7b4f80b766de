import DashboardKit.Text.Search

/-!
# Paths: segments and their text form

A path is a list of segments and the place where it starts: here, at the root, or at the root
written with exactly two slashes, which is kept apart.  Empty segments and single dots are dropped
when a path is read, double dots are kept.

Main statements: `ofText_text`, the text form of a path reads as the path again, and
`ofText_segments_proper`, no segment that is read is empty, a single dot, or holds a slash.
-/

set_option autoImplicit false

namespace DashboardKit

/-- Where a path starts. -/
inductive Anchor where
  | here
  | root
  /-- the root, written with two slashes -/
  | doubleRoot
  deriving DecidableEq, Repr

/-- A path: where it starts and the segments from there. -/
structure Path where
  anchor : Anchor
  segments : List Text
  deriving DecidableEq, Repr

/-- The text of an anchor. -/
def Anchor.text : Anchor → Text
  | .here => []
  | .root => "/"
  | .doubleRoot => "//"

namespace Path

/-- The slash between segments. -/
def slash : CodePoint := .scalar '/'

/-- The segment that stays where it is. -/
def dot : Text := [.scalar '.']

/-- The segment that goes one level up. -/
def dotDot : Text := [.scalar '.', .scalar '.']

/-- Whether a text can be a segment of a path that was read: not empty, no single dot, no slash. -/
def ProperSegment (s : Text) : Prop := s ≠ [] ∧ s ≠ dot ∧ slash ∉ s

instance (s : Text) : Decidable (ProperSegment s) := by
  unfold ProperSegment; infer_instance

/-- Where a path with this text starts. -/
def anchorOf (t : Text) : Anchor :=
  match (t.takeWhile (· = slash)).length with
  | 0 => .here
  | 2 => .doubleRoot
  | _ => .root

/-- The path that a text spells. -/
def ofText (t : Text) : Path :=
  ⟨anchorOf t, (Text.splitOn slash t).filter fun s => s ≠ [] ∧ s ≠ dot⟩

/-- The text form of a path; the empty relative path is a single dot. -/
def text (p : Path) : Text :=
  match p.anchor, p.segments with
  | .here, [] => dot
  | a, segments => a.text ++ Text.join [slash] segments

/-- The path that stays here. -/
def current : Path := ⟨.here, []⟩

/-- Whether a path starts at the root. -/
def isAbsolute (p : Path) : Bool := p.anchor ≠ .here

/-- A path taken from another; an absolute path replaces it. -/
def join (p q : Path) : Path :=
  match q.anchor with
  | .here => ⟨p.anchor, p.segments ++ q.segments⟩
  | _ => q

/-- A path followed by the path that a text spells. -/
def joinText (p : Path) (t : Text) : Path := p.join (ofText t)

/-- The anchor, if there is one, and the segments, each as a text. -/
def parts (p : Path) : List Text :=
  match p.anchor with
  | .here => p.segments
  | a => a.text :: p.segments

/-- A path followed by parts one after the other. -/
def joinParts (p : Path) (parts : List Text) : Path := parts.foldl joinText p

/-- The path without its last segment; a path without segments is its own parent. -/
def parent (p : Path) : Path := ⟨p.anchor, p.segments.dropLast⟩

/-- The last segment, or nothing. -/
def name (p : Path) : Text := p.segments.getLast?.getD []

/-- The extension of a file name: from its last dot, unless that is the first or last character. -/
def suffixOf (name : Text) : Text :=
  let tail := name.reverse.takeWhile (· ≠ .scalar '.')
  -- the stem is what stands in front of the last dot
  let stem := name.length - tail.length - 1
  if tail.isEmpty || stem = 0 || tail.length = name.length then []
  else .scalar '.' :: tail.reverse

/-- The extension of the last segment. -/
def suffix (p : Path) : Text := suffixOf p.name

/-- Whether a list of segments begins with another, and what follows. -/
def segmentsAfter? : List Text → List Text → Option (List Text)
  | [], t => some t
  | _ :: _, [] => none
  | a :: s, b :: t => if a = b then segmentsAfter? s t else none

/-- The path from `root` to `p`, when `root` has the same anchor and leads to `p`. -/
def relativeTo? (p root : Path) : Option Path :=
  if p.anchor = root.anchor then
    (segmentsAfter? root.segments p.segments).map fun rest => ⟨.here, rest⟩
  else none

/-- How a path is shown to someone who works in `root`: from there if it lies there, else as it is.
-/
def display (p root : Path) : Text := ((p.relativeTo? root).getD p).text

theorem segmentsAfter?_eq_some_iff {s t r : List Text} :
    segmentsAfter? s t = some r ↔ t = s ++ r := by
  induction s generalizing t with
  | nil => simp [segmentsAfter?, eq_comm]
  | cons a s ih =>
    cases t with
    | nil => simp [segmentsAfter?]
    | cons b t =>
      by_cases h : a = b
      · subst h; simp [segmentsAfter?, ih]
      · simp [segmentsAfter?, h, Ne.symm h]

theorem not_mem_of_mem_splitOn {sep : CodePoint} {s t : Text} (h : s ∈ Text.splitOn sep t) :
    sep ∉ s := by
  induction t generalizing s with
  | nil => simp [Text.splitOn] at h; simp [h]
  | cons p t ih =>
    by_cases hp : p = sep
    · simp only [Text.splitOn, hp, if_true, List.mem_cons] at h
      rcases h with rfl | h
      · simp
      · exact ih h
    · simp only [Text.splitOn, hp, if_false] at h
      split at h
      · simp only [List.mem_cons, List.not_mem_nil, or_false] at h
        subst h
        simpa using fun e => hp e.symm
      · rename_i first rest hs
        simp only [List.mem_cons] at h
        rcases h with rfl | h
        · have := ih (s := first) (by simp [hs])
          simp only [List.mem_cons, not_or]
          exact ⟨fun e => hp e.symm, this⟩
        · exact ih (by simp [hs, h])

/-- Every segment that is read is proper. -/
theorem ofText_segments_proper {t s : Text} (h : s ∈ (ofText t).segments) : ProperSegment s := by
  simp only [ofText, List.mem_filter, decide_eq_true_eq] at h
  exact ⟨h.2.1, h.2.2, not_mem_of_mem_splitOn h.1⟩

/-- Proper segments with slashes in between begin with no slash. -/
theorem takeWhile_slash_join {segments : List Text} (h : ∀ s ∈ segments, ProperSegment s) :
    (Text.join [slash] segments).takeWhile (· = slash) = [] := by
  cases segments with
  | nil => rfl
  | cons s rest =>
    obtain ⟨hne, -, hs⟩ := h s (List.mem_cons_self ..)
    cases s with
    | nil => exact absurd rfl hne
    | cons p s =>
      have hp : p ≠ slash := fun e => hs (e ▸ List.mem_cons_self ..)
      cases rest <;> simp [Text.join, hp]

/-- Reading proper segments with slashes in between gives them back. -/
theorem filter_splitOn_join {segments : List Text} (h : ∀ s ∈ segments, ProperSegment s) :
    ((Text.splitOn slash (Text.join [slash] segments)).filter fun s => s ≠ [] ∧ s ≠ dot)
      = segments := by
  have hkeep : segments.filter (fun s => s ≠ [] ∧ s ≠ dot) = segments :=
    List.filter_eq_self.2 fun s hs => by simpa using ⟨(h s hs).1, (h s hs).2.1⟩
  by_cases hne : segments = []
  · subst hne
    rfl
  · rw [Text.splitOn_join hne fun s hs => (h s hs).2.2, hkeep]

/-- The text form of a path of proper segments reads as the path again. -/
theorem ofText_text {p : Path} (h : ∀ s ∈ p.segments, ProperSegment s) : ofText p.text = p := by
  obtain ⟨anchor, segments⟩ := p
  have hslash := takeWhile_slash_join h
  have hsplit := filter_splitOn_join h
  have hempty : ¬ (([] : Text) ≠ [] ∧ ([] : Text) ≠ dot) := fun e => e.1 rfl
  cases anchor with
  | here =>
    cases segments with
    | nil => rfl
    | cons s rest =>
      simp only [text, Anchor.text, List.nil_append, ofText, anchorOf]
      rw [hslash, hsplit]
      rfl
  | root =>
    have htext : text ⟨.root, segments⟩ = slash :: Text.join [slash] segments := by
      cases segments <;> rfl
    simp only [htext, ofText, anchorOf, Text.splitOn, if_true, decide_true,
      List.takeWhile_cons_of_pos, hslash, List.filter_cons]
    simpa using hsplit
  | doubleRoot =>
    have htext :
        text ⟨.doubleRoot, segments⟩ = slash :: slash :: Text.join [slash] segments := by
      cases segments <;> rfl
    simp only [htext, ofText, anchorOf, Text.splitOn, if_true, decide_true,
      List.takeWhile_cons_of_pos, hslash, List.filter_cons]
    simpa using hsplit

end Path

end DashboardKit
