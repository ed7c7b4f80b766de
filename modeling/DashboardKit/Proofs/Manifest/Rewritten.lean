import DashboardKit.Proofs.Manifest.Resting

/-!
# What a reconciler tells of its work

A call that does not break off gives `true` exactly if it put new octets where the manifest is and
nothing failed when it saved them.  What hinders it shows in the session it finds and the one it
leaves: the manifest cannot be read, is no map or cannot be written, or the package manager was
called and did not exit well.

Main statements: `changed_iff_rewritten` and `hindered_iff_trouble`.
-/

set_option autoImplicit false

namespace DashboardKit

/-- The package manager will have done its work exactly if it exits with zero. -/
theorem InstallOutcome.reason?_eq_none_iff {o : InstallOutcome} :
    o.reason? = none ↔ o = .exited 0 := by
  cases o with
  | exited status => by_cases h : status = 0 <;> simp [reason?, h]
  | notStarted code wording => simp [reason?]

namespace Reconciler

open Session DashboardKit.Action

variable {r r' : Reconciler} {required : List Requirement} {path : Path} {s s' : Session}
  {x : Except Failure Bool}

/-! ## New octets -/

/-- Where the path leads there is a file that was not there before, or not this one. -/
def NewAt (path : Path) (s s' : Session) : Prop :=
  ∃ l, s'.tree.locate s'.workingDir path = .ok l ∧ s.NewFile s' l

/-- The manifest is another than at first, and what was lacking in it, if anything was, met no
failure when it was saved. -/
def Rewritten (required : List Requirement) (path : Path) (first s s' : Session) : Prop :=
  NewAt path first s' ∧
    ∀ merged, Lacks required path s merged → saveFault? path merged s = none

/-- A manifest that was written with what it lacked has other octets. -/
theorem newAt_of_lacks {merged : Manifest}
    (hsections : ∀ r ∈ required, r.section_ ∈ Requirement.sections)
    (hlacks : Lacks required path s merged) (hwhole : Value.Whole (.map merged))
    (hgrows : GrowsAt (· = path) s s') (hdocument : s'.HoldsDocument path (.map merged)) :
    NewAt path s s' := by
  have hsettled := settled_of_holdsDocument hsections hlacks hwhole hdocument
  obtain ⟨t, found, -, -, hread⟩ := hdocument
  obtain ⟨l, hl, hfile⟩ := FileTree.readFile_eq_ok_iff.1 hread
  refine ⟨l, hl, found, hfile, ?_⟩
  intro hbefore
  -- the file was there, so that the path led there before
  obtain ⟨before, hbeforeRead⟩ := hlacks.hasFile
  obtain ⟨l', hl', -⟩ := FileTree.readFile_eq_ok_iff.1 hbeforeRead
  obtain rfl := Except.ok.inj (hl.symm.trans (hgrows.locate hl'))
  have hsame : octets path s = .ok found := FileTree.readFile_eq_ok_iff.2 ⟨l, hl', hbefore⟩
  exact hsettled.of_octets (hsame.trans hread.symm) merged hlacks

theorem not_newAt_of_tree_eq (h : s'.tree = s.tree) : ¬ NewAt path s s' := by
  rintro ⟨l, -, found, hfile, hbefore⟩
  rw [h] at hfile
  exact hbefore hfile

/-- A call that does not break off gives `true` exactly if it wrote the manifest. -/
theorem changed_iff_rewritten (hsections : ∀ r ∈ required, r.section_ ∈ Requirement.sections)
    (hcwd : s.tree.find? s.workingDir = some .dir) (hbreaks : ¬ Breaks required path s)
    (h : (reconcile required path).outcome r s = (x, r', s')) :
    x = .ok true ↔ Rewritten required path s s s' := by
  have hgrows := (overwrites_reconcile hcwd h).1
  cases effect_of_outcome hcwd h with
  | untouched hnone hx hprints =>
    unfold PrintsTo at hprints
    exact iff_of_false hx fun hnew => not_newAt_of_tree_eq (by rw [hprints]) hnew.1
  | refused hlacks hfault =>
    exact iff_of_false nofun fun hnew => not_newAt_of_tree_eq rfl hnew.1
  | brokenOff hlacks hfault =>
    refine iff_of_false nofun fun hnew => ?_
    cases hfault.symm.trans (hnew.2 _ hlacks)
  | emptied hlacks hfault hwhole => exact absurd (.unencodable hlacks hfault hwhole) hbreaks
  | written hlacks hfault hwhole hwrites hdocument hcalls =>
    refine iff_of_true rfl ⟨?_, fun merged hlacks' => ?_⟩
    · exact newAt_of_lacks hsections hlacks hwhole hgrows (hdocument.of_callsTo hcalls)
    · obtain rfl := hlacks.unique hlacks'
      exact hfault

/-! ## What hinders a reconciler -/

theorem not_holdsJson_of_fault {fault : FileFault} {y : Except Json.ReadFault Value}
    (h : s.tree.readFile s.workingDir path = .error fault) : ¬ s.HoldsJson path y := by
  rintro ⟨-, octets, cs, hread, -⟩
  rw [h] at hread
  cases hread

/-- The packages could not be brought in line, as it shows in the sessions before and after: the
manifest cannot be read as a document, is no map, or lacks requirements and cannot be written; or
the package manager was called, and exits otherwise than with zero or cannot be started. -/
def Hindered (required : List Requirement) (path : Path) (s s' : Session) : Prop :=
  (∀ v, ¬ s.HoldsJson path (.ok v)) ∨
    (∃ v, s.HoldsJson path (.ok v) ∧ ∀ m, v ≠ .map m) ∨
    (∃ merged, Lacks required path s merged ∧ saveFault? path merged s ≠ none) ∨
    (s'.installCalls ≠ s.installCalls ∧ s.install ≠ .exited 0)

/-- The package manager was called exactly if what was lacking was written and the reconciler is to
call it. -/
theorem calls_iff (hcwd : s.tree.find? s.workingDir = some .dir)
    (h : (reconcile required path).outcome r s = (x, r', s')) :
    s'.installCalls ≠ s.installCalls ↔
      ∃ merged, Lacks required path s merged ∧ saveFault? path merged s = none ∧
        Value.Whole (.map merged) ∧ r.runInstall = true := by
  cases effect_of_outcome hcwd h with
  | untouched hnone hx hprints =>
    refine iff_of_false (not_not_intro hprints.writesTo.installCalls_eq) ?_
    rintro ⟨merged, hlacks, -⟩
    exact hnone merged hlacks
  | refused hlacks hfault =>
    refine iff_of_false (not_not_intro rfl) ?_
    rintro ⟨merged, hlacks', hnone, -⟩
    obtain rfl := hlacks.unique hlacks'
    cases hfault.symm.trans hnone
  | brokenOff hlacks hfault hbroken hwrites =>
    refine iff_of_false (not_not_intro hwrites.installCalls_eq) ?_
    rintro ⟨merged, hlacks', hnone, -⟩
    obtain rfl := hlacks.unique hlacks'
    cases hfault.symm.trans hnone
  | emptied hlacks hfault hwhole hwrites =>
    refine iff_of_false (not_not_intro hwrites.installCalls_eq) ?_
    rintro ⟨merged', hlacks', -, hwhole', -⟩
    exact hwhole (hlacks.unique hlacks' ▸ hwhole')
  | written hlacks hfault hwhole hwrites hdocument hcalls =>
    rw [hcalls.installCalls_eq, hwrites.installCalls_eq, ne_eq, List.append_right_eq_self]
    unfold calls
    constructor
    · intro hne
      refine ⟨_, hlacks, hfault, hwhole, ?_⟩
      by_contra hnot
      exact hne (if_neg hnot)
    · rintro ⟨-, -, -, -, hruns⟩
      rw [if_pos hruns]
      exact List.cons_ne_nil _ _

/-- What hinders a reconciler that does not break off is what it gives as a reason. -/
theorem hindered_iff_trouble (hcwd : s.tree.find? s.workingDir = some .dir)
    (hbreaks : ¬ Breaks required path s)
    (h : (reconcile required path).outcome r s = (x, r', s')) :
    Hindered required path s s' ↔ ∃ reason, Trouble r required path s reason := by
  have hcalls := calls_iff hcwd h
  constructor
  · rintro (hunread | ⟨v, hholds, hother⟩ | ⟨merged, hlacks, hfault⟩ | ⟨hcalled, hexit⟩)
    · by_contra hnone
      obtain ⟨m, hholds⟩ :=
        holdsJson_of_not_breaks hbreaks fun reason htrouble => hnone ⟨reason, htrouble⟩
      exact hunread _ hholds
    · exact ⟨_, .shape hholds hother⟩
    · obtain ⟨fault, hfault⟩ := Option.ne_none_iff_exists'.1 hfault
      exact ⟨_, .unwritable hlacks hfault⟩
    · obtain ⟨merged, hlacks, hfault, hwhole, hruns⟩ := hcalls.1 hcalled
      obtain ⟨reason, hreason⟩ := Option.ne_none_iff_exists'.1
        (mt InstallOutcome.reason?_eq_none_iff.1 hexit)
      exact ⟨_, .install hlacks hfault hwhole hruns hreason⟩
  · rintro ⟨reason, htrouble⟩
    cases htrouble with
    | missing husable hread hcode => exact .inl fun v => not_holdsJson_of_fault hread
    | unreadable husable hread hcode => exact .inl fun v => not_holdsJson_of_fault hread
    | malformed hholds => exact .inl fun v hv => nomatch hholds.unique hv
    | shape hholds hother => exact .inr (.inl ⟨_, hholds, hother⟩)
    | unwritable hlacks hfault =>
      exact .inr (.inr (.inl ⟨_, hlacks, by rw [hfault]; exact nofun⟩))
    | install hlacks hfault hwhole hruns hreason =>
      refine .inr (.inr (.inr ⟨hcalls.2 ⟨_, hlacks, hfault, hwhole, hruns⟩, ?_⟩))
      intro hexit
      rw [InstallOutcome.reason?_eq_none_iff.2 hexit] at hreason
      cases hreason

end Reconciler

end DashboardKit
