import DashboardKit.Path.Basic
import DashboardKit.Proofs.Text.FileNames

/-!
# Joining paths

Parts that are joined to a path one by one give the same as the path they are the parts of, and a
file name with an extension is one segment, or several if the extension holds slashes.

Main statements: `joinParts_parts`, `joinParts_foldl_joinText` and `ofText_append`.
-/

set_option autoImplicit false

namespace DashboardKit

namespace Text

/-- Text without separators goes to the front of the first piece. -/
theorem splitOn_append {sep : CodePoint} {s : Text} (h : sep ∉ s) (t : Text) :
    splitOn sep (s ++ t) = (s ++ (splitOn sep t).headD []) :: (splitOn sep t).tail := by
  induction s with
  | nil =>
    cases hsplit : splitOn sep t with
    | nil => exact absurd hsplit (splitOn_ne_nil sep t)
    | cons first rest => simp only [List.nil_append, hsplit, List.headD_cons, List.tail_cons]
  | cons p s ih =>
    simp only [List.mem_cons, not_or] at h
    rw [List.cons_append, splitOn, if_neg (Ne.symm h.1), ih h.2]
    rfl

/-- Texts without separators that are joined in front of another are pieces of their own. -/
theorem splitOn_join_concat {sep : CodePoint} {ps : List Text} (h : ∀ s ∈ ps, sep ∉ s) (t : Text) :
    splitOn sep (join [sep] (ps ++ [t])) = ps ++ splitOn sep t := by
  induction ps with
  | nil => rfl
  | cons s ps ih =>
    have hjoin : join [sep] (s :: ps ++ [t]) = s ++ sep :: join [sep] (ps ++ [t]) := by
      cases ps <;> simp [join]
    rw [hjoin, splitOn_append_cons (h s List.mem_cons_self),
      ih fun r hr => h r (List.mem_cons_of_mem s hr)]
    rfl

/-- What goes on behind joined texts goes on behind the last of them. -/
theorem join_concat_append (sep : Text) (ps : List Text) (t u : Text) :
    join sep (ps ++ [t]) ++ u = join sep (ps ++ [t ++ u]) := by
  induction ps with
  | nil => rfl
  | cons s ps ih =>
    have hjoin (v : Text) : join sep (s :: ps ++ [v]) = s ++ sep ++ join sep (ps ++ [v]) := by
      cases ps <;> simp [join]
    rw [hjoin, hjoin, List.append_assoc, ih]

end Text

namespace Path

/-! ## Parts -/

/-- A proper segment spells the relative path that is this segment. -/
theorem ofText_of_proper {s : Text} (h : ProperSegment s) : ofText s = ⟨.here, [s]⟩ := by
  have hpath : ∀ r ∈ (⟨.here, [s]⟩ : Path).segments, ProperSegment r := by
    intro r hr
    rw [List.mem_singleton.1 hr]
    exact h
  exact ofText_text hpath

theorem foldl_joinText (p : Path) {segments : List Text} (h : ∀ s ∈ segments, ProperSegment s) :
    segments.foldl joinText p = ⟨p.anchor, p.segments ++ segments⟩ := by
  induction segments generalizing p with
  | nil => simp only [List.foldl_nil, List.append_nil]
  | cons s rest ih =>
    have hs : p.joinText s = ⟨p.anchor, p.segments ++ [s]⟩ := by
      rw [joinText, ofText_of_proper (h s List.mem_cons_self)]
      rfl
    rw [List.foldl_cons, hs, ih _ fun r hr => h r (List.mem_cons_of_mem s hr)]
    simp only [List.append_assoc, List.singleton_append]

/-- The parts of a path, joined one by one, lead where the path leads. -/
theorem joinParts_parts (root : Path) {p : Path} (h : ∀ s ∈ p.segments, ProperSegment s) :
    root.joinParts p.parts = root.join p := by
  obtain ⟨anchor, segments⟩ := p
  cases anchor with
  | here => exact foldl_joinText root h
  | root =>
    have hroot : root.joinText Anchor.root.text = ⟨.root, []⟩ := rfl
    show segments.foldl joinText (root.joinText Anchor.root.text) = _
    rw [hroot, foldl_joinText _ h]
    rfl
  | doubleRoot =>
    have hroot : root.joinText Anchor.doubleRoot.text = ⟨.doubleRoot, []⟩ := rfl
    show segments.foldl joinText (root.joinText Anchor.doubleRoot.text) = _
    rw [hroot, foldl_joinText _ h]
    rfl

/-- Where a path is taken from another, so are the segments that are joined to it. -/
theorem joinParts_foldl_joinText (root : Path) {p : Path} {segments : List Text}
    (hp : ∀ s ∈ p.segments, ProperSegment s) (h : ∀ s ∈ segments, ProperSegment s) :
    root.joinParts (segments.foldl joinText p).parts = segments.foldl joinText (root.join p) := by
  have hproper : ∀ s ∈ (segments.foldl joinText p).segments, ProperSegment s := by
    rw [foldl_joinText p h]
    intro s hs
    exact (List.mem_append.1 hs).elim (hp s) (h s)
  rw [joinParts_parts root hproper, foldl_joinText p h, foldl_joinText _ h]
  obtain ⟨anchor, before⟩ := p
  cases anchor <;> simp only [join, List.append_assoc]

theorem proper_joinText {p : Path} (h : ∀ s ∈ p.segments, ProperSegment s) (t : Text) :
    ∀ s ∈ (p.joinText t).segments, ProperSegment s := by
  intro s hs
  rw [joinText, join] at hs
  split at hs
  · rcases List.mem_append.1 hs with hs | hs
    · exact h s hs
    · exact ofText_segments_proper hs
  · exact ofText_segments_proper hs

/-- A text starts here if its first piece between slashes is not empty. -/
theorem anchorOf_eq_here {t first : Text} {rest : List Text}
    (h : Text.splitOn slash t = first :: rest) (hne : first ≠ []) : anchorOf t = .here := by
  cases t with
  | nil => rfl
  | cons p t =>
    by_cases hp : p = slash
    · rw [Text.splitOn, if_pos hp] at h
      exact absurd (List.cons.inj h).1.symm hne
    · rw [anchorOf, List.takeWhile_cons_of_neg (by simpa using hp)]
      rfl

/-! ## File names with extensions -/

/-- The segments that an extension adds behind the one that begins with the file's own name. -/
def laterSegments (ext : Text) : List Text :=
  ((Text.splitOn slash ext).tail).filter fun s => s ≠ [] ∧ s ≠ dot

/-- What an extension adds to the segment that begins with the file's own name. -/
def firstPart (ext : Text) : Text := (Text.splitOn slash ext).headD []

/-- The segments of a file name followed by an extension. -/
def fileSegments (n ext : Text) : List Text := (n ++ firstPart ext) :: laterSegments ext

/-- Places of files with the same extension differ if their names do, however the extension is
spelled. -/
theorem append_spelled_fileSegments_inj {base base' : List Text} {n n' ext : Text}
    (hn : n.Whole) (hn' : n'.Whole)
    (h : base ++ (fileSegments n ext).map FileName.spelled
      = base' ++ (fileSegments n' ext).map FileName.spelled) : n = n' := by
  have hsegments := (List.append_inj' h rfl).2
  have hfirst := (List.cons.inj hsegments).1
  rw [FileName.spelled_append hn, FileName.spelled_append hn'] at hfirst
  exact List.append_cancel_right hfirst

/-- A whole text that is the beginning of a file name: no slash in it and no dot in front. -/
structure BeginsFileName (n : Text) : Prop where
  whole : n.Whole
  ne_nil : n ≠ []
  no_slash : slash ∉ n
  no_dot : n.head? ≠ some (.scalar '.')

namespace BeginsFileName

variable {n : Text}

theorem append_ne_dots (h : BeginsFileName n) (e : Text) :
    n ++ e ≠ [] ∧ n ++ e ≠ dot ∧ n ++ e ≠ dotDot := by
  obtain ⟨p, n, rfl⟩ := List.exists_cons_of_ne_nil h.ne_nil
  have hp : p ≠ .scalar '.' := fun hp => h.no_dot (by rw [hp]; rfl)
  refine ⟨List.cons_ne_nil _ _, ?_, ?_⟩
  · intro he
    exact hp (List.cons.inj he).1
  · intro he
    exact hp (List.cons.inj he).1

/-- With a text behind it that holds no slash, it is one segment, and one that leads down. -/
theorem proper_append (h : BeginsFileName n) {e : Text} (he : slash ∉ e) :
    ProperSegment (n ++ e) ∧ n ++ e ≠ dotDot := by
  obtain ⟨hne, hdot, hdots⟩ := h.append_ne_dots e
  refine ⟨⟨hne, hdot, ?_⟩, hdots⟩
  rw [List.mem_append, not_or]
  exact ⟨h.no_slash, he⟩

theorem splitOn_append (h : BeginsFileName n) (ext : Text) :
    Text.splitOn slash (n ++ ext) = (n ++ firstPart ext) :: (Text.splitOn slash ext).tail :=
  Text.splitOn_append h.no_slash ext

theorem filter_splitOn_append (h : BeginsFileName n) (ext : Text) :
    ((Text.splitOn slash (n ++ ext)).filter fun s => s ≠ [] ∧ s ≠ dot)
      = fileSegments n ext := by
  have hkeep := h.append_ne_dots (firstPart ext)
  rw [h.splitOn_append, List.filter_cons_of_pos]
  · rfl
  · exact decide_eq_true ⟨hkeep.1, hkeep.2.1⟩

/-- A file name with an extension spells a relative path that begins with the name. -/
theorem ofText_append (h : BeginsFileName n) (ext : Text) :
    ofText (n ++ ext) = ⟨.here, fileSegments n ext⟩ := by
  have hanchor : anchorOf (n ++ ext) = .here :=
    anchorOf_eq_here (h.splitOn_append ext) (h.append_ne_dots (firstPart ext)).1
  rw [ofText, hanchor, h.filter_splitOn_append]

/-- Behind proper segments, with slashes in between, it spells the path through them. -/
theorem ofText_join (h : BeginsFileName n) (ext : Text) {segments : List Text}
    (hsegments : ∀ s ∈ segments, ProperSegment s) :
    ofText (Text.join [slash] (segments ++ [n ++ ext]))
      = ⟨.here, segments ++ fileSegments n ext⟩ := by
  have hsplit := Text.splitOn_join_concat (fun s hs => (hsegments s hs).2.2) (n ++ ext)
  have hkeep : segments.filter (fun s => s ≠ [] ∧ s ≠ dot) = segments :=
    List.filter_eq_self.2 fun s hs => by simpa using ⟨(hsegments s hs).1, (hsegments s hs).2.1⟩
  have hanchor : anchorOf (Text.join [slash] (segments ++ [n ++ ext])) = .here := by
    cases segments with
    | nil => exact congrArg Path.anchor (h.ofText_append ext)
    | cons s rest =>
      exact anchorOf_eq_here hsplit (hsegments s List.mem_cons_self).1
  rw [ofText, hanchor, hsplit, List.filter_append, hkeep, h.filter_splitOn_append]

theorem joinText_append (h : BeginsFileName n) (p : Path) (ext : Text) :
    p.joinText (n ++ ext) = ⟨p.anchor, p.segments ++ fileSegments n ext⟩ := by
  rw [joinText, h.ofText_append]
  rfl

theorem dotDot_mem_fileSegments (h : BeginsFileName n) {ext : Text} :
    dotDot ∈ fileSegments n ext ↔ dotDot ∈ laterSegments ext := by
  have hne := (h.append_ne_dots (firstPart ext)).2.2
  rw [fileSegments, List.mem_cons]
  exact or_iff_right (Ne.symm hne)

end BeginsFileName

end Path

end DashboardKit
