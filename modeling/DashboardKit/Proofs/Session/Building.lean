import DashboardKit.Proofs.Session.Frame

/-!
# Where directories are made

Writing a file makes directories on the way to it, each at a place that a path above the file leads
to.  `BuildsAt` adds this to what `GrowsAt` says of files: directories come up only where given
paths lead.

Main statements: `keeps_makeDirs_buildsAt` and `keeps_writeText_buildsAt`.
-/

set_option autoImplicit false

namespace DashboardKit

/-- A path on the way to another one: they begin at the same place, and its segments are some of the
first ones of the other, the last of them left out. -/
def Path.Above (q p : Path) : Prop := q.anchor = p.anchor ∧ q.segments <+: p.parent.segments

namespace FileTree

variable {files files' dirs dirs' : Path → Prop} {old mid new t : FileTree} {disk : Disk}
  {cwd l : Location} {p : Path}

/-- The tree grows: files are written at most where these paths lead, and directories come up at
most where those paths lead. -/
def BuildsAt (cwd : Location) (files dirs : Path → Prop) (old new : FileTree) : Prop :=
  GrowsTo (fun l => ∃ p, files p ∧ new.locate cwd p = .ok l) old new ∧
    ∀ l, old.find? l = none → new.find? l = some .dir → ∃ p, dirs p ∧ new.locate cwd p = .ok l

theorem BuildsAt.of_find?_eq (h : ∀ l, new.find? l = old.find? l) :
    old.BuildsAt cwd files dirs new := by
  refine ⟨fun l => .inl (h l), fun l hnone hdir => ?_⟩
  rw [h, hnone] at hdir
  cases hdir

theorem BuildsAt.refl (cwd : Location) (files dirs : Path → Prop) (t : FileTree) :
    t.BuildsAt cwd files dirs t := .of_find?_eq fun _ => rfl

theorem BuildsAt.mono (h : old.BuildsAt cwd files dirs new) (hfiles : ∀ p, files p → files' p)
    (hdirs : ∀ p, dirs p → dirs' p) : old.BuildsAt cwd files' dirs' new := by
  refine ⟨h.1.mono ?_, fun l hnone hdir => ?_⟩
  · rintro l ⟨p, hp, hl⟩
    exact ⟨p, hfiles p hp, hl⟩
  · obtain ⟨p, hp, hl⟩ := h.2 l hnone hdir
    exact ⟨p, hdirs p hp, hl⟩

theorem BuildsAt.trans (h : old.BuildsAt cwd files dirs mid)
    (h' : mid.BuildsAt cwd files dirs new) : old.BuildsAt cwd files dirs new := by
  refine ⟨(h.1.mono ?_).trans h'.1, fun l hnone hdir => ?_⟩
  · rintro l ⟨p, hp, hl⟩
    exact ⟨p, hp, h'.1.locate hl⟩
  · cases hmid : mid.find? l with
    | none => exact h'.2 l hmid hdir
    | some e =>
      cases e with
      | dir =>
        obtain ⟨p, hp, hl⟩ := h.2 l hnone hmid
        exact ⟨p, hp, h'.1.locate hl⟩
      | file octets =>
        -- a file does not become a directory
        rcases h'.1 l with hsame | ⟨hnone', -⟩ | ⟨-, -, octets', hfile⟩
        · rw [hsame, hmid] at hdir
          cases hdir
        · rw [hmid] at hnone'
          cases hnone'
        · rw [hfile] at hdir
          cases hdir

/-! ## Making directories -/

/-- A directory that is made comes up where its path leads, and nothing else comes up. -/
theorem buildsAt_makeDir (h : t.makeDir disk cwd p = .ok new) :
    t.BuildsAt cwd files (· = p) new := by
  refine ⟨growsTo_makeDir h, fun m hnone hdir => ⟨p, rfl, ?_⟩⟩
  obtain ⟨l, hl, hnone', rfl⟩ := makeDir_eq_ok h
  have hgrows : GrowsTo (fun _ => False) t (t.put l .dir) := growsTo_put_dir hnone'
  have hne : l ≠ [] := by
    rintro rfl
    rw [find?_root] at hnone'
    cases hnone'
  rw [find?_put t l m .dir hne] at hdir
  split at hdir
  · rename_i hm
    rw [hm]
    exact hgrows.locate hl
  · rw [hnone] at hdir
    cases hdir

/-- Directories are made only where the first segments of the path lead. -/
theorem buildsAt_makeDirsUpTo (disk : Disk) (cwd : Location) (p : Path) (count : Nat)
    (t : FileTree) :
    t.BuildsAt cwd files (fun q => q.anchor = p.anchor ∧ q.segments <+: p.segments)
      (makeDirsUpTo disk cwd p count t).1 := by
  have hfront {k : Nat} {t t' : FileTree}
      (h : t.makeDir disk cwd ⟨p.anchor, p.segments.take k⟩ = .ok t') :
      t.BuildsAt cwd files (fun q => q.anchor = p.anchor ∧ q.segments <+: p.segments) t' := by
    refine (buildsAt_makeDir h).mono (fun _ hq => hq) ?_
    rintro q rfl
    exact ⟨rfl, List.take_prefix _ _⟩
  induction count generalizing t with
  | zero =>
    simp only [makeDirsUpTo]
    split
    · rename_i hmake
      exact hfront hmake
    · exact .refl cwd _ _ t
    · exact .refl cwd _ _ t
  | succ count ih =>
    have hupper := ih t
    simp only [makeDirsUpTo]
    split
    · rename_i hmake
      exact hfront hmake
    · rcases hrun : makeDirsUpTo disk cwd p count t with ⟨t₁, e | u⟩ <;> rw [hrun] at hupper
      · exact hupper
      · simp only
        split
        · rename_i hmake
          exact hupper.trans (hfront hmake)
        · exact hupper
        · exact hupper
    · exact .refl cwd _ _ t

/-! ## Writing a file -/

/-- No directory comes up where a file is written. -/
theorem buildsAt_writeFile {octets : Utf8.Octets} (h : t.writeFile cwd p octets = .ok new) :
    t.BuildsAt cwd (· = p) dirs new := by
  refine ⟨(growsTo_writeFile h).1.mono fun l hl => ⟨p, rfl, hl⟩, fun m hnone hdir => ?_⟩
  obtain ⟨l, -, hnotDir, rfl⟩ := writeFile_eq_ok h
  have hne : l ≠ [] := by
    rintro rfl
    exact hnotDir (find?_root t)
  rw [find?_put t l m _ hne] at hdir
  split at hdir
  · cases hdir
  · rw [hnone] at hdir
    cases hdir

end FileTree

/-! ## Sessions -/

namespace Session

variable {files files' dirs dirs' : Path → Prop} {s s' : Session}

/-- The tree of the second session grew from that of the first: files were written at most where
these paths lead, and directories made at most where those paths lead. -/
def BuildsAt (files dirs : Path → Prop) (s s' : Session) : Prop :=
  s'.workingDir = s.workingDir ∧ s.tree.BuildsAt s.workingDir files dirs s'.tree

instance (files dirs : Path → Prop) : IsPreorder Session (BuildsAt files dirs) where
  refl s := ⟨rfl, .refl _ _ _ s.tree⟩
  trans s₁ s₂ s₃ h h' := by
    refine ⟨h'.1.trans h.1, h.2.trans ?_⟩
    rw [← h.1]
    exact h'.2

theorem BuildsAt.mono (h : BuildsAt files dirs s s') (hfiles : ∀ p, files p → files' p)
    (hdirs : ∀ p, dirs p → dirs' p) : BuildsAt files' dirs' s s' :=
  ⟨h.1, h.2.mono hfiles hdirs⟩

theorem BuildsAt.growsAt (h : BuildsAt files dirs s s') : GrowsAt files s s' := by
  refine ⟨h.1, ?_⟩
  rw [h.1]
  exact h.2.1

theorem PrintsTo.buildsAt (h : PrintsTo s s') (files dirs : Path → Prop) :
    BuildsAt files dirs s s' := by
  unfold PrintsTo at h
  rw [h]
  exact ⟨rfl, .refl _ _ _ s.tree⟩

end Session

namespace Action

open Session

variable {p : Path}

/-- Making directories makes them where the first segments of the path lead. -/
theorem keeps_makeDirs_buildsAt (p : Path) (files : Path → Prop) :
    (makeDirs p).Keeps
      (BuildsAt files fun q => q.anchor = p.anchor ∧ q.segments <+: p.segments) :=
  keeps_makeDirs_of fun s =>
    ⟨rfl, FileTree.buildsAt_makeDirsUpTo s.disk s.workingDir p p.segments.length s.tree⟩

theorem keeps_ensureDir_buildsAt (p : Path) (files : Path → Prop) :
    (ensureDir p.parent).Keeps (BuildsAt files (·.Above p)) :=
  (keeps_makeDirs_buildsAt p.parent files).bind fun _ => (keeps_resolve p.parent).of_eq

theorem keeps_writeFile_buildsAt (p : Path) (octets : Utf8.Octets) (dirs : Path → Prop) :
    (writeFile p octets).Keeps (BuildsAt (· = p) dirs) :=
  keeps_writeFile_of fun _ _ _ hwrite => ⟨rfl, FileTree.buildsAt_writeFile hwrite⟩

theorem keeps_writeText_buildsAt (p : Path) (t : Text) (dirs : Path → Prop) :
    (writeText p t).Keeps (BuildsAt (· = p) dirs) := by
  unfold writeText
  split
  · exact keeps_writeFile_buildsAt p _ dirs
  · exact (keeps_writeFile_buildsAt p _ dirs).bind fun _ => keeps_throw _

end Action

end DashboardKit
