import DashboardKit.FileTree.Basic

/-!
# How file trees grow

The file operations of this library never take anything away: they make directories where nothing
was, and write files where no directory was.  `GrowsTo` says this of two trees, together with the
locations at which files may have been written.

Main statements: `GrowsTo.locate`, what a path leads to stays the same while a tree grows, and
`GrowsTo.file_iff`, the files at all other locations stay as they are.
-/

set_option autoImplicit false

namespace DashboardKit.FileTree

variable {touched touched' : Location → Prop} {old mid new : FileTree} {disk : Disk}
  {cwd l : Location} {octets : Utf8.Octets}

/-- Every location holds what it held, or a directory where nothing was, or a file where no
directory was; the last of these only at the touched locations. -/
def GrowsTo (touched : Location → Prop) (old new : FileTree) : Prop :=
  ∀ l, new.find? l = old.find? l ∨ (old.find? l = none ∧ new.find? l = some .dir) ∨
    (touched l ∧ old.find? l ≠ some .dir ∧ ∃ octets, new.find? l = some (.file octets))

theorem GrowsTo.refl (touched : Location → Prop) (t : FileTree) : GrowsTo touched t t :=
  fun _ => .inl rfl

theorem GrowsTo.mono (h : GrowsTo touched old new) (hsub : ∀ l, touched l → touched' l) :
    GrowsTo touched' old new := by
  intro l
  rcases h l with hsame | hdir | ⟨htouched, hfile⟩
  · exact .inl hsame
  · exact .inr (.inl hdir)
  · exact .inr (.inr ⟨hsub l htouched, hfile⟩)

theorem GrowsTo.trans (h : GrowsTo touched old mid) (h' : GrowsTo touched mid new) :
    GrowsTo touched old new := by
  intro l
  rcases h' l with hsame | ⟨hnone, hdir⟩ | ⟨htouched, hnotDir, octets, hfile⟩
  · rw [hsame]
    exact h l
  · rcases h l with hsame' | ⟨-, hdir'⟩ | ⟨-, -, octets, hfile⟩
    · exact .inr (.inl ⟨hsame' ▸ hnone, hdir⟩)
    · simp [hdir'] at hnone
    · simp [hfile] at hnone
  · refine .inr (.inr ⟨htouched, ?_, octets, hfile⟩)
    rcases h l with hsame' | ⟨hnone, -⟩ | ⟨-, hnotDir', -⟩
    · rwa [← hsame']
    · simp [hnone]
    · exact hnotDir'

/-- A directory stays one. -/
theorem GrowsTo.dir (h : GrowsTo touched old new) (hl : old.find? l = some .dir) :
    new.find? l = some .dir := by
  rcases h l with hsame | ⟨hnone, -⟩ | ⟨-, hnotDir, -⟩
  · rw [hsame, hl]
  · simp [hl] at hnone
  · exact absurd hl hnotDir

/-- The files at locations that are not touched stay as they are, and no others come up there. -/
theorem GrowsTo.file_iff (h : GrowsTo touched old new) (hl : ¬ touched l) :
    new.find? l = some (.file octets) ↔ old.find? l = some (.file octets) := by
  rcases h l with hsame | ⟨hnone, hdir⟩ | ⟨htouched, -⟩
  · rw [hsame]
  · simp [hnone, hdir]
  · exact absurd htouched hl

/-! ## Following paths -/

theorem GrowsTo.step (h : GrowsTo touched old new) {segment : Text} {l' : Location}
    (hstep : old.step l segment = .ok l') : new.step l segment = .ok l' := by
  unfold FileTree.step at hstep ⊢
  cases hl : old.find? l with
  | none => simp [hl] at hstep
  | some e =>
    cases e with
    | file octets => simp [hl] at hstep
    | dir =>
      rw [h.dir hl]
      simpa only [hl] using hstep

theorem GrowsTo.follow (h : GrowsTo touched old new) {segments : List Text} {l' : Location}
    (hfollow : old.follow l segments = .ok l') : new.follow l segments = .ok l' := by
  induction segments generalizing l with
  | nil => exact hfollow
  | cons s rest ih =>
    simp only [FileTree.follow] at hfollow ⊢
    cases hstep : old.step l s with
    | error c => simp [hstep] at hfollow
    | ok l₁ =>
      rw [h.step hstep]
      simp only [hstep] at hfollow
      exact ih hfollow

/-- What a path leads to stays the same while a tree grows. -/
theorem GrowsTo.locate (h : GrowsTo touched old new) {p : Path}
    (hlocate : old.locate cwd p = .ok l) : new.locate cwd p = .ok l := by
  unfold FileTree.locate at hlocate ⊢
  split at hlocate
  · simp at hlocate
  · rename_i hlength
    rw [if_neg hlength]
    exact h.follow hlocate

/-! ## Operations -/

theorem find?_root (t : FileTree) : t.find? [] = some .dir := by
  simp [find?]

/-- A directory that is put where nothing was. -/
theorem growsTo_put_dir {t : FileTree} (hl : t.find? l = none) :
    GrowsTo touched t (t.put l .dir) := by
  have hne : l ≠ [] := by
    rintro rfl
    simp [find?_root] at hl
  intro m
  rw [find?_put t l m .dir hne]
  by_cases hm : m = l
  · subst hm
    exact .inr (.inl ⟨hl, if_pos rfl⟩)
  · exact .inl (if_neg hm)

/-- A file that is put where no directory was. -/
theorem growsTo_put_file {t : FileTree} (hl : t.find? l ≠ some .dir) :
    GrowsTo (· = l) t (t.put l (.file octets)) := by
  have hne : l ≠ [] := by
    rintro rfl
    exact hl (find?_root t)
  intro m
  rw [find?_put t l m (.file octets) hne]
  by_cases hm : m = l
  · subst hm
    exact .inr (.inr ⟨rfl, hl, octets, if_pos rfl⟩)
  · exact .inl (if_neg hm)

/-- Putting what is there already changes nothing. -/
theorem find?_put_of_find? {t : FileTree} (hl : t.find? l = some (.file octets)) (m : Location) :
    (t.put l (.file octets)).find? m = t.find? m := by
  have hne : l ≠ [] := by
    rintro rfl
    rw [find?_root] at hl
    cases hl
  rw [find?_put t l m _ hne]
  split
  · rename_i hm
    rw [hm, hl]
  · rfl

theorem makeDir_eq_ok {t t' : FileTree} {p : Path} (h : t.makeDir disk cwd p = .ok t') :
    ∃ l, t.locate cwd p = .ok l ∧ t.find? l = none ∧ t' = t.put l .dir := by
  unfold makeDir at h
  split at h
  · simp at h
  · rename_i l hl
    split at h
    · simp at h
    · simp at h
    · rename_i hnone _
      exact ⟨l, hl, hnone, (Except.ok.inj h).symm⟩

theorem growsTo_makeDir {t t' : FileTree} {p : Path} (h : t.makeDir disk cwd p = .ok t') :
    GrowsTo touched t t' := by
  obtain ⟨l, -, hnone, rfl⟩ := makeDir_eq_ok h
  exact growsTo_put_dir hnone

/-- Making directories touches no file, also when it fails half-way. -/
theorem growsTo_makeDirsUpTo (disk : Disk) (cwd : Location) (p : Path) (count : Nat)
    (t : FileTree) :
    GrowsTo touched t (makeDirsUpTo disk cwd p count t).1 := by
  induction count generalizing t with
  | zero =>
    simp only [makeDirsUpTo]
    split
    · rename_i t' hmake
      exact growsTo_makeDir hmake
    · exact .refl touched t
    · exact .refl touched t
  | succ count ih =>
    have hupper := ih t
    simp only [makeDirsUpTo]
    split
    · rename_i t' hmake
      exact growsTo_makeDir hmake
    · rcases hrun : makeDirsUpTo disk cwd p count t with ⟨t₁, e | u⟩ <;> rw [hrun] at hupper
      · exact hupper
      · simp only
        split
        · rename_i t₂ hmake
          exact hupper.trans (growsTo_makeDir hmake)
        · exact hupper
        · exact hupper
    · exact .refl touched t

theorem growsTo_makeDirs (t : FileTree) (disk : Disk) (cwd : Location) (p : Path) :
    GrowsTo touched t (t.makeDirs disk cwd p).1 :=
  growsTo_makeDirsUpTo disk cwd p p.segments.length t

/-- A file can be written where a path leads, unless a directory is there. -/
theorem target_eq_ok_iff {t : FileTree} {p : Path} {l : Location} :
    t.target cwd p = .ok l ↔ t.locate cwd p = .ok l ∧ t.find? l ≠ some .dir := by
  unfold target
  cases hl : t.locate cwd p with
  | error c => exact iff_of_false nofun fun h => nomatch h.1
  | ok l' =>
    simp only [Except.ok.injEq]
    split
    · rename_i hdir
      refine iff_of_false nofun ?_
      rintro ⟨rfl, hnotDir⟩
      exact hnotDir hdir
    · rename_i hnotDir
      rw [Except.ok.injEq]
      exact ⟨fun h => h ▸ ⟨rfl, hnotDir⟩, And.left⟩

theorem writeFile_eq_ok {t t' : FileTree} {p : Path} (h : t.writeFile cwd p octets = .ok t') :
    ∃ l, t.locate cwd p = .ok l ∧ t.find? l ≠ some .dir ∧ t' = t.put l (.file octets) := by
  unfold writeFile at h
  cases htarget : t.target cwd p with
  | error fault =>
    rw [htarget] at h
    cases h
  | ok l =>
    rw [htarget] at h
    obtain ⟨hl, hnotDir⟩ := target_eq_ok_iff.1 htarget
    exact ⟨l, hl, hnotDir, (Except.ok.inj h).symm⟩

/-- A file that is written at a path is there, and no other location is touched. -/
theorem growsTo_writeFile {t t' : FileTree} {p : Path} (h : t.writeFile cwd p octets = .ok t') :
    GrowsTo (fun l => t'.locate cwd p = .ok l) t t' ∧
      ∃ l, t'.locate cwd p = .ok l ∧ t'.find? l = some (.file octets) := by
  obtain ⟨l, hl, hnotDir, rfl⟩ := writeFile_eq_ok h
  have hgrows : GrowsTo (· = l) t (t.put l (.file octets)) := growsTo_put_file hnotDir
  have hl' := hgrows.locate hl
  refine ⟨hgrows.mono fun m hm => hm ▸ hl', l, hl', ?_⟩
  rw [find?_put t l l _ ?_, if_pos rfl]
  rintro rfl
  exact hnotDir (find?_root t)

/-- A file is read exactly where the path leads to one. -/
theorem readFile_eq_ok_iff {t : FileTree} {p : Path} :
    t.readFile cwd p = .ok octets ↔
      ∃ l, t.locate cwd p = .ok l ∧ t.find? l = some (.file octets) := by
  unfold readFile
  cases hl : t.locate cwd p with
  | error c => simp
  | ok l =>
    cases hfind : t.find? l with
    | none => simp [hfind]
    | some e => cases e <;> simp [hfind]

end DashboardKit.FileTree
