import DashboardKit.Proofs.FileTree.Directories
import DashboardKit.Proofs.Text.FileNames
import DashboardKit.Template.Store
import Mathlib.Data.List.Nodup

/-!
# What a directory lists

A tree is a list of entries that is looked up by location.  Where it is what file systems hold, with
one entry for each location, the files listed in a directory are the files that are found there,
each of them once, and every one of them can be reached by its name.

Main statements: `mem_fileNames_iff` and `WellFormed.readFile_iff`.
-/

set_option autoImplicit false

namespace DashboardKit.FileTree

variable {t : FileTree} {l base cwd : Location} {name : Text} {octets : Utf8.Octets} {p : Path}

/-! ## Trees that file systems hold -/

/-- Whether a text can be the name of something in a directory, as the file system spells it. -/
def IsFileName (name : Text) : Prop :=
  Path.ProperSegment name ∧ name ≠ Path.dotDot ∧ octetCount name ≤ nameLimit ∧
    (name.Nameable ∧ .ofNat 0 ∉ name) ∧ FileName.spelled name = name

instance (name : Text) : Decidable (IsFileName name) := by
  unfold IsFileName
  infer_instance

/-- Everything lies in a directory, under a name that a file system takes, and only once. -/
structure WellFormed (t : FileTree) : Prop where
  consistent : t.Consistent
  nodup : (t.entries.map (·.1)).Nodup
  named : ∀ e ∈ t.entries, ∀ name ∈ e.1, IsFileName name

theorem wellFormed_iff : t.WellFormed ↔ t.Consistent ∧ (t.entries.map (·.1)).Nodup ∧
    ∀ e ∈ t.entries, ∀ name ∈ e.1, IsFileName name :=
  ⟨fun h => ⟨h.consistent, h.nodup, h.named⟩, fun h => ⟨h.1, h.2.1, h.2.2⟩⟩

instance (t : FileTree) : Decidable t.WellFormed := decidable_of_iff' _ wellFormed_iff

/-- What is found somewhere below the root is an entry, and every entry there is found. -/
theorem find?_eq_some_iff (ht : (t.entries.map (·.1)).Nodup) (hl : l ≠ []) {e : Entry} :
    t.find? l = some e ↔ (l, e) ∈ t.entries := by
  rw [find?, if_neg hl, Option.map_eq_some_iff]
  constructor
  · rintro ⟨⟨l', e'⟩, hfound, rfl⟩
    obtain rfl : l' = l := by simpa using List.find?_some hfound
    exact List.mem_of_find?_eq_some hfound
  · intro hmem
    cases hfound : t.entries.find? fun e => e.1 = l with
    | none => exact absurd (decide_eq_true rfl) (List.find?_eq_none.1 hfound _ hmem)
    | some e' =>
      have hloc : e'.1 = l := by simpa using List.find?_some hfound
      exact ⟨e', rfl, congrArg Prod.snd
        (List.inj_on_of_nodup_map ht (List.mem_of_find?_eq_some hfound) hmem hloc)⟩

/-- What is found under a name has a name that a file system takes. -/
theorem WellFormed.isFileName (ht : t.WellFormed) {e : Entry}
    (h : t.find? (base ++ [name]) = some e) : IsFileName name := by
  have hmem := (find?_eq_some_iff ht.nodup (by simp)).1 h
  exact ht.named _ hmem name (List.mem_append_right _ (List.mem_singleton_self name))

/-! ## The files of a directory -/

/-- The name of a file in a directory, if an entry is one. -/
def fileNameIn? (l : Location) (e : Location × Entry) : Option Text :=
  match Path.segmentsAfter? l e.1, e.2 with
  | some [name], .file _ => some name
  | _, _ => none

theorem fileNameIn?_eq_some_iff {e : Location × Entry} :
    fileNameIn? l e = some name ↔ ∃ octets, e = (l ++ [name], .file octets) := by
  obtain ⟨l', entry⟩ := e
  unfold fileNameIn?
  constructor
  · intro h
    split at h
    · rename_i octets hafter hfile
      cases h
      exact ⟨octets, Prod.ext (Path.segmentsAfter?_eq_some_iff.1 hafter) hfile⟩
    · cases h
  · rintro ⟨octets, h⟩
    cases h
    rw [Path.segmentsAfter?_eq_some_iff.2 rfl]

theorem fileNames_eq (t : FileTree) (l : Location) :
    TemplateStore.fileNames t l = t.entries.filterMap (fileNameIn? l) := by
  rw [TemplateStore.fileNames, below, List.filterMap_filterMap]
  congr 1
  funext e
  unfold fileNameIn?
  cases hafter : Path.segmentsAfter? l e.1 with
  | none => rfl
  | some rest =>
    cases rest with
    | nil => rfl
    | cons s rest => cases rest <;> cases e.2 <;> rfl

/-- The files that a directory lists are the files that are found in it. -/
theorem mem_fileNames_iff (ht : (t.entries.map (·.1)).Nodup) :
    name ∈ TemplateStore.fileNames t l ↔ ∃ octets, t.find? (l ++ [name]) = some (.file octets) := by
  rw [fileNames_eq, List.mem_filterMap]
  constructor
  · rintro ⟨e, he, hname⟩
    obtain ⟨octets, rfl⟩ := fileNameIn?_eq_some_iff.1 hname
    exact ⟨octets, (find?_eq_some_iff ht (by simp)).2 he⟩
  · rintro ⟨octets, hfound⟩
    exact ⟨_, (find?_eq_some_iff ht (by simp)).1 hfound, fileNameIn?_eq_some_iff.2 ⟨octets, rfl⟩⟩

/-- Each of them is listed once. -/
theorem nodup_fileNames (ht : (t.entries.map (·.1)).Nodup) (l : Location) :
    (TemplateStore.fileNames t l).Nodup := by
  rw [fileNames_eq, List.Nodup, List.pairwise_filterMap]
  refine (List.pairwise_map.1 ht).imp ?_
  intro e e' hne name hname name' hname' heq
  obtain ⟨octets, rfl⟩ := fileNameIn?_eq_some_iff.1 hname
  obtain ⟨octets', rfl⟩ := fileNameIn?_eq_some_iff.1 hname'
  exact hne (by rw [heq])

/-! ## Reaching files by their names -/

/-- The location above a directory is one too. -/
theorem WellFormed.dir_dropLast (ht : t.WellFormed) (h : t.find? base = some .dir) :
    t.find? base.dropLast = some .dir := by
  rcases List.eq_nil_or_concat base with rfl | ⟨init, last, rfl⟩
  · exact h
  · rw [List.concat_eq_append] at h ⊢
    rw [List.dropLast_concat]
    exact ht.consistent init last (by rw [h]; exact Option.some_ne_none _)

theorem octetCount_spelled (name : Text) :
    octetCount (FileName.spelled name) = octetCount name := by
  rw [octetCount, FileName.octets_spelled, octetCount]

/-- Behind the path of a directory a name leads to a file exactly if there is one of that name, as
the file system spells it, and the path is not too long. -/
theorem WellFormed.readFile_iff (ht : t.WellFormed) (hbase : t.locate cwd p = .ok base)
    (hdir : t.find? base = some .dir) (name : Text) :
    t.readFile cwd ⟨p.anchor, p.segments ++ [name]⟩ = .ok octets ↔
      octetCount (⟨p.anchor, p.segments ++ [name]⟩ : Path).text ≤ pathLimit ∧
        t.find? (base ++ [FileName.spelled name]) = some (.file octets) := by
  have hfollow := (locate_eq_ok_iff.1 hbase).2
  rw [readFile_eq_ok_iff]
  constructor
  · rintro ⟨l, hl, hfile⟩
    obtain ⟨hlength, hwhole⟩ := locate_eq_ok_iff.1 hl
    obtain ⟨mid, hmid, hlast⟩ := follow_append.1 hwhole
    obtain rfl : base = mid := Except.ok.inj (hfollow.symm.trans hmid)
    refine ⟨hlength, ?_⟩
    rw [FileTree.follow] at hlast
    cases hstep : t.step base name with
    | error c => simp [hstep] at hlast
    | ok l' =>
      simp only [hstep, FileTree.follow, Except.ok.injEq] at hlast
      subst hlast
      by_cases hdots : name = Path.dotDot
      · -- two dots lead to the directory above, which is no file
        simp only [FileTree.step, hdir, if_pos hdots, Except.ok.injEq] at hstep
        rw [← hstep, ht.dir_dropLast hdir] at hfile
        cases hfile
      · rwa [(step_down hdots hstep).2] at hfile
  · rintro ⟨hlength, hfile⟩
    obtain ⟨-, hdots, hshort, -⟩ := ht.isFileName hfile
    have hdots : name ≠ Path.dotDot := by
      rintro rfl
      exact hdots (FileName.spelled_of_whole (by decide))
    refine ⟨base ++ [FileName.spelled name], locate_eq_ok_iff.2 ⟨hlength, ?_⟩, hfile⟩
    refine follow_append.2 ⟨base, hfollow, ?_⟩
    rw [octetCount_spelled] at hshort
    have hstep : t.step base name = .ok (base ++ [FileName.spelled name]) := by
      simp only [FileTree.step, hdir, if_neg hdots, if_neg (Nat.not_lt.2 hshort)]
    simp only [FileTree.follow, hstep]

end DashboardKit.FileTree
