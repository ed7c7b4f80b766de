import DashboardKit.Path.Basic

/-!
# Showing paths

A path is shown from a directory if it lies there, and else as it is.  Nothing is lost in this: what
is shown, taken from the directory, leads to the path again.

Main statement: `joinText_display`.
-/

set_option autoImplicit false

namespace DashboardKit.Path

variable {p q root : Path}

/-! ## Relative paths -/

/-- A path lies in a directory: it starts in the same way and goes through the segments of the
directory first. -/
def LiesIn (p root : Path) : Prop := p.anchor = root.anchor ∧ root.segments <+: p.segments

instance (p root : Path) : Decidable (LiesIn p root) := inferInstanceAs (Decidable (_ ∧ _))

/-- The path from a directory is the one that leads on from there. -/
theorem relativeTo?_eq_some_iff :
    p.relativeTo? root = some q ↔ q.anchor = .here ∧ root.join q = p := by
  obtain ⟨a, segments⟩ := p
  obtain ⟨b, rest⟩ := q
  unfold relativeTo?
  constructor
  · intro h
    split at h
    · rename_i hanchor
      obtain ⟨rest', hafter, hrest⟩ := Option.map_eq_some_iff.1 h
      cases hrest
      refine ⟨rfl, ?_⟩
      rw [join, ← hanchor, ← segmentsAfter?_eq_some_iff.1 hafter]
    · cases h
  · rintro ⟨hhere, hjoin⟩
    obtain rfl : b = .here := hhere
    obtain ⟨rfl, rfl⟩ := Path.mk.inj hjoin
    rw [if_pos rfl, segmentsAfter?_eq_some_iff.2 rfl]
    rfl

/-- There is a path from a directory to what lies in it, and to nothing else. -/
theorem exists_relativeTo?_iff : (∃ q, p.relativeTo? root = some q) ↔ LiesIn p root := by
  constructor
  · rintro ⟨q, h⟩
    obtain ⟨hhere, rfl⟩ := relativeTo?_eq_some_iff.1 h
    rw [join, hhere]
    exact ⟨rfl, List.prefix_append _ _⟩
  · rintro ⟨hanchor, rest, hsegments⟩
    refine ⟨⟨.here, rest⟩, relativeTo?_eq_some_iff.2 ⟨rfl, ?_⟩⟩
    rw [join, hsegments, ← hanchor]

/-- Only a directory itself is where it stays. -/
theorem relativeTo?_eq_current_iff : p.relativeTo? root = some current ↔ p = root := by
  have hstays : root.join current = root := by
    obtain ⟨anchor, segments⟩ := root
    simp only [join, current, List.append_nil]
  rw [relativeTo?_eq_some_iff, hstays]
  constructor
  · rintro ⟨-, rfl⟩
    rfl
  · rintro rfl
    exact ⟨rfl, rfl⟩

/-! ## Shown paths -/

/-- The path that is shown. -/
def shownPath (p root : Path) : Path := (p.relativeTo? root).getD p

theorem join_absolute (h : p.isAbsolute = true) (root : Path) : root.join p = p := by
  obtain ⟨anchor, segments⟩ := p
  cases anchor with
  | here => cases h
  | root => rfl
  | doubleRoot => rfl

/-- The path that is shown leads to the path again. -/
theorem join_shownPath (h : p.isAbsolute = true) (root : Path) :
    root.join (shownPath p root) = p := by
  unfold shownPath
  cases hrelative : p.relativeTo? root with
  | none => exact join_absolute h root
  | some q => exact (relativeTo?_eq_some_iff.1 hrelative).2

/-- What is shown is relative exactly if the path lies in the directory. -/
theorem isAbsolute_shownPath_iff (h : p.isAbsolute = true) :
    (shownPath p root).isAbsolute = false ↔ LiesIn p root := by
  rw [← exists_relativeTo?_iff, shownPath]
  cases hrelative : p.relativeTo? root with
  | none =>
    refine iff_of_false ?_ ?_
    · rw [Option.getD_none, h]
      exact Bool.noConfusion
    · rintro ⟨q, ⟨⟩⟩
  | some q =>
    refine iff_of_true ?_ ⟨q, rfl⟩
    simp [isAbsolute, (relativeTo?_eq_some_iff.1 hrelative).1]

theorem shownPath_eq_current_iff (h : p.isAbsolute = true) :
    shownPath p root = current ↔ p = root := by
  refine Iff.trans ?_ relativeTo?_eq_current_iff
  unfold shownPath
  cases hrelative : p.relativeTo? root with
  | none =>
    refine iff_of_false ?_ nofun
    rw [Option.getD_none]
    rintro rfl
    cases h
  | some q => exact Option.some_inj.symm

/-- What is shown consists of segments of the path. -/
theorem segments_shownPath_subset (p root : Path) : (shownPath p root).segments ⊆ p.segments := by
  unfold shownPath
  cases hrelative : p.relativeTo? root with
  | none => exact List.Subset.refl _
  | some q =>
    obtain ⟨hhere, rfl⟩ := relativeTo?_eq_some_iff.1 hrelative
    rw [join, hhere]
    exact List.subset_append_right _ _

/-- The text that is shown spells the path that is shown. -/
theorem ofText_display (hp : ∀ s ∈ p.segments, ProperSegment s) (root : Path) :
    ofText (p.display root) = shownPath p root := by
  apply ofText_text
  intro s hs
  exact hp s (segments_shownPath_subset p root hs)

/-- Nothing but the path that stays here is shown as a single dot. -/
theorem display_eq_dot_iff (hp : ∀ s ∈ p.segments, ProperSegment s) :
    p.display root = dot ↔ shownPath p root = current := by
  constructor
  · intro h
    rw [← ofText_display hp root, h]
    rfl
  · intro h
    rw [display, ← shownPath, h]
    rfl

/-- An absolute path is shown so that it can be told from what is shown and the directory: taken
from there, the shown text leads to the path again.  It is relative exactly for what lies in the
directory, and a single dot exactly for the directory itself. -/
theorem joinText_display (p root : Text) (h : (ofText p).isAbsolute = true) :
    (ofText root).joinText ((ofText p).display (ofText root)) = ofText p ∧
      ((ofText ((ofText p).display (ofText root))).isAbsolute = false ↔
        LiesIn (ofText p) (ofText root)) ∧
      ((ofText p).display (ofText root) = dot ↔ ofText p = ofText root) := by
  have hproper : ∀ s ∈ (ofText p).segments, ProperSegment s := fun s hs => ofText_segments_proper hs
  rw [joinText, ofText_display hproper, display_eq_dot_iff hproper]
  exact ⟨join_shownPath h _, isAbsolute_shownPath_iff h, shownPath_eq_current_iff h⟩

/-- Two slashes in front are another start than one; repeated slashes and single dots make no
difference, and double dots are segments. -/
theorem joinText_display_doubleSlash :
    (ofText "//srv/../app/./page.js").isAbsolute = true ∧
      (ofText "//srv/..").joinText ((ofText "//srv/../app/./page.js").display (ofText "//srv/.."))
        = ofText "//srv/../app/./page.js" ∧
      (ofText "//srv/../app/./page.js").display (ofText "//srv/..") = "app/page.js" ∧
      ¬ LiesIn (ofText "//srv/../app/./page.js") (ofText "/srv") ∧
      (ofText "///srv//..").display (ofText "/srv/..") = dot := by
  have habsolute : (ofText "//srv/../app/./page.js").isAbsolute = true := by decide
  obtain ⟨hback, -, -⟩ := joinText_display "//srv/../app/./page.js" "//srv/.." habsolute
  obtain ⟨-, hrelative, -⟩ := joinText_display "//srv/../app/./page.js" "/srv" habsolute
  obtain ⟨-, -, hdot⟩ := joinText_display "///srv//.." "/srv/.." (by decide)
  refine ⟨habsolute, hback, by decide, ?_, hdot.2 (by decide)⟩
  intro hlies
  exact absurd (hrelative.2 hlies) (by decide)

end DashboardKit.Path
