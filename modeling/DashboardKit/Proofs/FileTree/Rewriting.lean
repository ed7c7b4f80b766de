import DashboardKit.Proofs.FileTree.Directories

/-!
# Writing a file anew

A file that can be read can be written: its path leads through directories that are there, so that
nothing has to be made above it.

Main statements: `makeDirs_parent_eq` and `exists_target_of_readFile`.
-/

set_option autoImplicit false

namespace DashboardKit.FileTree

variable {t : FileTree} {disk : Disk} {cwd : Location} {p : Path} {octets : Utf8.Octets}

/-- The path above that of a file leads to a directory.  A path without segments is its own parent
and leads there only if it begins in a directory. -/
theorem leadsToDir_parent (hcwd : p.segments = [] → t.find? cwd = some .dir)
    (h : t.readFile cwd p = .ok octets) : t.LeadsToDir cwd p.parent := by
  obtain ⟨l, hl, hfile⟩ := readFile_eq_ok_iff.1 h
  rcases List.eq_nil_or_concat p.segments with hnil | ⟨init, last, hinit⟩
  · -- without segments the path leads to a directory itself
    obtain ⟨-, hfollow⟩ := locate_eq_ok_iff.1 hl
    rw [hnil] at hfollow
    obtain rfl := Except.ok.inj hfollow
    split at hfile
    · rw [find?_root] at hfile
      cases hfile
    · rw [hcwd hnil] at hfile
      cases hfile
  · rw [List.concat_eq_append] at hinit
    have hpath : p = ⟨p.anchor, init ++ [last]⟩ := by rw [← hinit]
    rw [hpath] at hl ⊢
    rw [Path.parent, List.dropLast_concat]
    exact leadsToDir_front hl

/-- Above a file that can be read nothing has to be made. -/
theorem makeDirs_parent_eq (hcwd : p.segments = [] → t.find? cwd = some .dir)
    (h : t.readFile cwd p = .ok octets) :
    t.makeDirs disk cwd p.parent = (t, .ok ()) :=
  makeDirs_of_leadsToDir (leadsToDir_parent hcwd h)

/-- A file that can be read has a place for a file. -/
theorem exists_target_of_readFile (h : t.readFile cwd p = .ok octets) :
    ∃ l, t.target cwd p = .ok l := by
  obtain ⟨l, hl, hfile⟩ := readFile_eq_ok_iff.1 h
  refine ⟨l, target_eq_ok_iff.2 ⟨hl, ?_⟩⟩
  rw [hfile]
  nofun

end DashboardKit.FileTree
