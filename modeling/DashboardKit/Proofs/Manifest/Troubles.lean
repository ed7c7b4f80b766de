import DashboardKit.Proofs.Json.Reading
import DashboardKit.Proofs.Manifest.Merging
import DashboardKit.Proofs.Session.Documents
import DashboardKit.Proofs.Session.Printing

/-!
# What goes wrong with manifests

A reconciler says why it could not do its work if the manifest cannot be opened, is malformed, is no
map or is not to be saved, or if the package manager fails: a `Trouble`.  It breaks off without
saying so if the path cannot be handed to the file system, the octets are no text, an integer has
too many digits, or the merged manifest holds a lone surrogate: it `Breaks`.  If there is neither,
it does its work.

Main statements: `outcome_of_trouble`, `outcome_of_breaks` and `outcome_of_no_trouble`.
-/

set_option autoImplicit false

namespace DashboardKit

/-- Why the package manager will not have done its work, if so. -/
def InstallOutcome.reason? : InstallOutcome → Option InstallReason
  | .exited status => if status = 0 then none else some (.exited status)
  | .notStarted code wording => some (.notStarted ⟨.other code wording, none⟩)

/-- What is reported of octets that a disk did not take whole. -/
def DiskFault.fault : DiskFault → FileFault
  | .refused fault => fault
  | .brokenOff _ fault => fault

namespace Reconciler

open Session DashboardKit.Action

variable {r : Reconciler} {required : List Requirement} {path : Path} {s s' : Session}
  {reason : DependencyReason}

/-- The manifest at a path is a map that lacks requirements, and merging them in gives this one. -/
def Lacks (required : List Requirement) (path : Path) (s : Session) (merged : Manifest) : Prop :=
  ∃ m : Manifest, s.HoldsJson path (.ok (.map m)) ∧ (m.merge required).2 ≠ [] ∧
    (m.merge required).1 = merged

/-- The failure that saving a manifest meets, if any: before anything is touched, or at the disk. -/
def saveFault? (path : Path) (m : Manifest) (s : Session) : Option FileFault :=
  s.writeFault.or ((s.diskFault? path (documentOctets (.map m))).map DiskFault.fault)

/-- The disk breaks off when so many octets of the manifest are in its file. -/
def SaveBrokenOff (path : Path) (m : Manifest) (s : Session) (count : Nat) : Prop :=
  s.writeFault = none ∧
    ∃ fault, s.diskFault? path (documentOctets (.map m)) = some (.brokenOff count fault)

theorem SaveBrokenOff.unique {m : Manifest} {count count' : Nat} (h : SaveBrokenOff path m s count)
    (h' : SaveBrokenOff path m s count') : count = count' := by
  obtain ⟨-, fault, hdisk⟩ := h
  obtain ⟨-, fault', hdisk'⟩ := h'
  cases hdisk.symm.trans hdisk'
  rfl

/-- What keeps a reconciler from bringing packages in line, and the reason that it gives. -/
inductive Trouble (r : Reconciler) (required : List Requirement) (path : Path) (s : Session) :
    DependencyReason → Prop where
  | missing {fault : FileFault} : isUsable path = true →
      s.tree.readFile s.workingDir path = .error fault → fault.cause.code = 2 →
      Trouble r required path s (.manifestMissing path fault)
  | unreadable {fault : FileFault} : isUsable path = true →
      s.tree.readFile s.workingDir path = .error fault → fault.cause.code ≠ 2 →
      Trouble r required path s (.manifestUnreadable path fault)
  | malformed {fault : Json.Fault} : s.HoldsJson path (.error (.malformed fault)) →
      Trouble r required path s (.manifestMalformed path fault)
  | shape {v : Value} : s.HoldsJson path (.ok v) → (∀ m, v ≠ .map m) →
      Trouble r required path s (.manifestShape path)
  | unwritable {merged : Manifest} {fault : FileFault} : Lacks required path s merged →
      saveFault? path merged s = some fault →
      Trouble r required path s (.manifestUnwritable path fault)
  | install {merged : Manifest} {reason : InstallReason} : Lacks required path s merged →
      saveFault? path merged s = none → Value.Whole (.map merged) → r.runInstall = true →
      s.install.reason? = some reason → Trouble r required path s (.install r.installCommand reason)

/-- What makes a reconciler break off without a reason. -/
inductive Breaks (required : List Requirement) (path : Path) (s : Session) : Prop where
  | unusable : isUsable path = false → Breaks required path s
  | undecodable {octets : Utf8.Octets} {fault : Utf8.DecodeFault} : isUsable path = true →
      s.tree.readFile s.workingDir path = .ok octets → Utf8.read octets = .error fault →
      Breaks required path s
  | digits {count : Nat} : s.HoldsJson path (.error (.digits count)) → Breaks required path s
  | unencodable {merged : Manifest} : Lacks required path s merged →
      saveFault? path merged s = none → ¬ Value.Whole (.map merged) → Breaks required path s

/-! ## Reading the manifest -/

/-- How a failure of loading a manifest goes on. -/
def loadingFailure (path : Path) : Failure → Failure
  | .file fault =>
    .dependency
      (if fault.cause.code = 2 then .manifestMissing path fault else .manifestUnreadable path fault)
  | .json fault => .dependency (.manifestMalformed path fault)
  | f => f

theorem outcome_readManifest_of_error {f : Failure}
    (h : (loadJson path).outcome s = (.error f, s)) :
    (readManifest path).outcome s = (.error (loadingFailure path f), s) := by
  refine outcome_bind_of_error ?_ _
  rw [outcome_tryCatch, h]
  cases f <;> rfl

theorem outcome_readManifest_of_ok {v : Value} (h : (loadJson path).outcome s = (.ok v, s)) :
    (∀ m, v = .map m → (readManifest path).outcome s = (.ok m, s)) ∧
      ((∀ m, v ≠ .map m) →
        (readManifest path).outcome s = (.error (.dependency (.manifestShape path)), s)) := by
  have hloaded {handler : Failure → Action Value} :
      (tryCatch (loadJson path) handler).outcome s = (.ok v, s) := by
    rw [outcome_tryCatch, h]
  constructor
  · rintro m rfl
    rw [readManifest, outcome_bind_of_ok hloaded]
    rfl
  · intro hother
    rw [readManifest, outcome_bind_of_ok hloaded]
    split
    · exact absurd rfl (hother _)
    · rfl

/-! ## Patching the manifest -/

theorem outcome_patchManifest_of_error {f : Failure}
    (h : (readManifest path).outcome s = (.error f, s)) :
    (patchManifest required path).outcome s = (.error f, s) :=
  outcome_bind_of_error h _

/-- A manifest that lacks nothing stays. -/
theorem outcome_patchManifest_of_complete {m : Manifest}
    (h : s.HoldsJson path (.ok (.map m))) (hcomplete : (m.merge required).2 = []) :
    ∃ s', PrintsTo s s' ∧ (patchManifest required path).outcome s = (.ok [], s') := by
  have hread : (readManifest path).outcome s = (.ok m, s) :=
    (outcome_readManifest_of_ok (outcome_loadJson_of_holds h)).1 m rfl
  have hshown : ∃ u, Markup.shown "Dependencies already declared, nothing to install." = .ok u :=
    ⟨_, rfl⟩
  obtain ⟨u, s', hprint, hprints⟩ :=
    (succeeds_printMarkup hshown).exists_outcome (keeps_printMarkup _) s
  refine ⟨s', hprints, ?_⟩
  rw [patchManifest, outcome_bind_of_ok hread]
  simp only [hcomplete, List.isEmpty_nil, if_true]
  rw [outcome_bind_of_ok hprint, outcome_pure]

/-- A manifest that lacks requirements is written. -/
theorem outcome_patchManifest_of_lacks {merged : Manifest} (h : Lacks required path s merged) :
    ∃ added, added ≠ [] ∧ (patchManifest required path).outcome s
      = ((writeManifest path merged) >>= fun _ => pure added : Action _).outcome s := by
  obtain ⟨m, hholds, hadded, rfl⟩ := h
  have hread : (readManifest path).outcome s = (.ok m, s) :=
    (outcome_readManifest_of_ok (outcome_loadJson_of_holds hholds)).1 m rfl
  refine ⟨_, hadded, ?_⟩
  rw [patchManifest, outcome_bind_of_ok hread]
  simp only [List.isEmpty_iff, hadded, if_false]

/-- How a failure of saving a manifest goes on. -/
def savingFailure (path : Path) : Failure → Failure
  | .file fault => .dependency (.manifestUnwritable path fault)
  | f => f

/-- What saving a manifest comes to is told, with another wording of failures of the file system. -/
theorem outcome_writeManifest_of_saveJson {m : Manifest} {x : Except Failure Unit}
    (hfault : s.writeFault = none) (h : (saveJson (.map m) path).outcome s = (x, s')) :
    (writeManifest path m).outcome s = (x.mapError (savingFailure path), s') := by
  unfold writeManifest
  rw [outcome_tryCatch, outcome_bind_of_ok (outcome_get s)]
  simp only [hfault]
  rw [h]
  cases x with
  | ok u => rfl
  | error f => cases f <;> rfl

/-- A manifest that lacks requirements is saved over the file it was read from. -/
theorem exists_savesOver {merged : Manifest} (hcwd : s.tree.find? s.workingDir = some .dir)
    (h : Lacks required path s merged) (hfault : s.writeFault = none) :
    ∃ x s', SavesOver s path (.map merged) x s' ∧
      (writeManifest path merged).outcome s = (x.mapError (savingFailure path), s') := by
  obtain ⟨m, ⟨husable, octets, cs, hread, -, hjson⟩, -, rfl⟩ := h
  have hwritable := (Manifest.document_merge (Json.document_of_read hjson) required).writable
  exact ⟨_, _, savesOver_saveJson husable hcwd hread hwritable rfl,
    outcome_writeManifest_of_saveJson hfault rfl⟩

/-- A manifest that meets a failure when it is saved is left as it is, unless the disk breaks off.
-/
theorem outcome_writeManifest_of_fault {merged : Manifest} {fault : FileFault}
    (hcwd : s.tree.find? s.workingDir = some .dir) (h : Lacks required path s merged)
    (hfault : saveFault? path merged s = some fault) :
    ∃ s', (writeManifest path merged).outcome s
        = (.error (.dependency (.manifestUnwritable path fault)), s') ∧
      (s' = s ∧ (∀ count, ¬ SaveBrokenOff path merged s count) ∨
        ∃ count, SaveBrokenOff path merged s count ∧ WritesTo s s' ∧
          s'.tree.readFile s'.workingDir path
            = .ok ((documentOctets (.map merged)).take count)) := by
  unfold saveFault? at hfault
  cases hbefore : s.writeFault with
  | some fault' =>
    rw [hbefore] at hfault
    cases hfault
    refine ⟨s, ?_, .inl ⟨rfl, fun count hbroken => ?_⟩⟩
    · unfold writeManifest
      rw [outcome_tryCatch, outcome_bind_of_ok (outcome_get s)]
      simp only [hbefore]
      rfl
    · cases hbefore.symm.trans hbroken.1
  | none =>
    rw [hbefore, Option.none_or] at hfault
    obtain ⟨x, s', hsaves, hrun⟩ := exists_savesOver hcwd h hbefore
    cases hsaves with
    | refused hdisk =>
      rw [hdisk] at hfault
      cases hfault
      refine ⟨_, hrun, .inl ⟨rfl, fun count hbroken => ?_⟩⟩
      obtain ⟨-, fault', hbroken⟩ := hbroken
      cases hdisk.symm.trans hbroken
    | brokenOff hdisk hwrites hread =>
      rw [hdisk] at hfault
      cases hfault
      exact ⟨_, hrun, .inr ⟨_, ⟨hbefore, _, hdisk⟩, hwrites, hread⟩⟩
    | emptied hdisk => cases (congrArg (·.map DiskFault.fault) hdisk).symm.trans hfault
    | written hdisk => cases (congrArg (·.map DiskFault.fault) hdisk).symm.trans hfault

/-- If it meets no failure when it is saved, a manifest is written, or it cannot be encoded and the
file is left empty. -/
theorem outcome_writeManifest {merged : Manifest} (hcwd : s.tree.find? s.workingDir = some .dir)
    (h : Lacks required path s merged) (hfault : saveFault? path merged s = none) :
    ∃ s', WritesTo s s' ∧
      (Value.Whole (.map merged) ∧ s'.HoldsDocument path (.map merged) ∧
          (writeManifest path merged).outcome s = (.ok (), s') ∨
        ¬ Value.Whole (.map merged) ∧ s'.tree.readFile s'.workingDir path = .ok [] ∧
          ∃ t fault, (writeManifest path merged).outcome s
            = (.error (.unencodable t fault), s')) := by
  obtain ⟨hbefore, hdisk⟩ := Option.or_eq_none_iff.1 hfault
  obtain ⟨x, s', hsaves, hrun⟩ := exists_savesOver hcwd h hbefore
  cases hsaves with
  | refused hrefused => cases (congrArg (·.map DiskFault.fault) hrefused).symm.trans hdisk
  | brokenOff hbroken => cases (congrArg (·.map DiskFault.fault) hbroken).symm.trans hdisk
  | emptied _ hwhole hwrites hempty => exact ⟨s', hwrites, .inr ⟨hwhole, hempty, _, _, hrun⟩⟩
  | written _ hwhole hwrites hholds => exact ⟨s', hwrites, .inl ⟨hwhole, hholds, hrun⟩⟩

/-! ## Installing -/

/-- The package manager is called, and what it reports is a failure if it is one. -/
theorem outcome_install (command : List Text) (dir : Path) (s : Session) :
    ∃ s', CallsTo [⟨command, dir⟩] s s' ∧
      (install command dir).outcome s = match s.install.reason? with
      | none => (.ok (), s')
      | some reason => (.error (.dependency (.install command reason)), s') := by
  obtain ⟨_, s₁, hprint, hprints⟩ := (succeeds_print _).exists_outcome
    (keeps_print (("Running " : Text) ++ commandText command ++ (" ..." : Text))) s
  have hinstall : s₁.install = s.install := hprints.writesTo.install_eq
  refine ⟨{ s₁ with installCalls := s₁.installCalls ++ [⟨command, dir⟩] },
    hprints.callsTo.trans rfl, ?_⟩
  rw [install, outcome_bind_of_ok hprint, outcome_bind_of_ok (outcome_modify _ s₁),
    outcome_bind_of_ok (outcome_get _)]
  simp only [hinstall]
  cases s.install with
  | exited status =>
    by_cases hstatus : status = 0 <;> simp [hstatus, InstallOutcome.reason?]
  | notStarted code wording => rfl

/-- A reconciler that remembers what went wrong with the package manager. -/
def noting (r : Reconciler) : Option InstallReason → Reconciler
  | none => r
  | some reason =>
    { r with installError := some (DependencyReason.install r.installCommand reason).message }

/-- What goes wrong with the package manager is remembered and told. -/
theorem outcome_installAdded (dir : Path) (r : Reconciler) (s : Session) :
    ∃ s', CallsTo [⟨r.installCommand, dir⟩] s s' ∧
      (installAdded dir).outcome r s = (.ok (), r.noting s.install.reason?, s') := by
  obtain ⟨s₁, hcalls, hinstall⟩ := outcome_install r.installCommand dir s
  unfold installAdded
  rw [ActionOf.outcome_bind, ActionOf.outcome_memory]
  simp only [ActionOf.outcome_bind, ActionOf.outcome_lift, outcome_tryCatch]
  cases hreason : s.install.reason? with
  | none =>
    simp only [hreason] at hinstall
    rw [outcome_bind_of_ok hinstall]
    exact ⟨s₁, hcalls, rfl⟩
  | some reason =>
    simp only [hreason] at hinstall
    rw [outcome_bind_of_error hinstall]
    obtain ⟨_, s₂, hwarn, hprints⟩ := ((succeeds_printWarning
      (("⚠️  Failed to install dependencies: " : Text)
        ++ (DependencyReason.install r.installCommand reason).message)).bind fun _ =>
      succeeds_printWarning "   You may need to install dependencies manually").exists_outcome
        ((keeps_printWarning _).bind fun _ => keeps_printWarning _) s₁
    refine ⟨s₂, hcalls.trans hprints.callsTo, ?_⟩
    simp only [outcome_pure, ActionOf.outcome_remember, ActionOf.outcome_bind,
      ActionOf.outcome_lift, hwarn]
    rfl

/-! ## Bringing packages in line -/

/-- A reconciler that remembers what was added, and nothing that went wrong. -/
def remembering (r : Reconciler) (added : List Requirement) : Reconciler :=
  { r with installError := none, added }

theorem outcome_reconcile_of_error {f : Failure}
    (h : (patchManifest required path).outcome s = (.error f, s')) (r : Reconciler) :
    (reconcile required path).outcome r s = (.error f, r.remembering [], s') := by
  unfold reconcile
  simp only [ActionOf.outcome_bind, ActionOf.outcome_remember, ActionOf.outcome_lift, h]
  rfl

theorem outcome_reconcile_of_complete (h : (patchManifest required path).outcome s = (.ok [], s'))
    (r : Reconciler) :
    (reconcile required path).outcome r s = (.ok false, r.remembering [], s') := by
  unfold reconcile
  simp only [ActionOf.outcome_bind, ActionOf.outcome_remember, ActionOf.outcome_lift, h]
  rfl

/-- The calls of the package manager that a reconciler makes after it changed a manifest. -/
def calls (r : Reconciler) (path : Path) : List InstallCall :=
  if r.runInstall then [⟨r.installCommand, path.parent⟩] else []

/-- After something was added, what is remembered is what went wrong with the package manager. -/
theorem outcome_reconcile_of_added {added : List Requirement}
    (h : (patchManifest required path).outcome s = (.ok added, s')) (hadded : added ≠ [])
    (hinstall : s'.install = s.install) (r : Reconciler) :
    ∃ s'', CallsTo (r.calls path) s' s'' ∧ (reconcile required path).outcome r s
      = (.ok true, (r.remembering added).noting
          (if r.runInstall then s.install.reason? else none), s'') := by
  obtain ⟨_, s₁, htold, hprints⟩ := (succeeds_forM fun r => succeeds_print (addedLine r) :
    (added.forM fun r => Action.print (addedLine r)).Succeeds).exists_outcome
      (keeps_forM fun r => keeps_print (addedLine r)) s'
  have hinstall₁ : s₁.install = s.install := hprints.writesTo.install_eq.trans hinstall
  unfold reconcile
  simp only [ActionOf.outcome_bind, ActionOf.outcome_remember, ActionOf.outcome_lift, h]
  rw [if_neg (by simpa using hadded)]
  simp only [ActionOf.outcome_bind, ActionOf.outcome_remember, ActionOf.outcome_lift, htold,
    ActionOf.outcome_memory]
  by_cases hrun : r.runInstall = true
  · obtain ⟨s₂, hcalls, hinstalled⟩ := outcome_installAdded path.parent (r.remembering added) s₁
    rw [hinstall₁] at hinstalled
    refine ⟨s₂, ?_, ?_⟩
    · rw [calls, if_pos hrun]
      exact hprints.callsTo.trans hcalls
    rw [if_pos hrun, if_pos hrun, ActionOf.outcome_bind]
    unfold remembering at hinstalled ⊢
    rw [hinstalled]
    rfl
  · refine ⟨s₁, ?_, ?_⟩
    · rw [calls, if_neg hrun]
      exact hprints.callsTo
    rw [if_neg hrun, if_neg hrun]
    rfl

theorem outcome_reconcile_of_loadJson {f : Failure} (h : (loadJson path).outcome s = (.error f, s))
    (required : List Requirement) (r : Reconciler) : (reconcile required path).outcome r s
      = (.error (loadingFailure path f), r.remembering [], s) :=
  outcome_reconcile_of_error (outcome_patchManifest_of_error (outcome_readManifest_of_error h)) r

/-- A manifest that lacks requirements and can be saved is saved, and the package manager called. -/
theorem outcome_reconcile_of_lacks {merged : Manifest}
    (hcwd : s.tree.find? s.workingDir = some .dir) (h : Lacks required path s merged)
    (hfault : saveFault? path merged s = none) (hwhole : Value.Whole (.map merged))
    (r : Reconciler) :
    ∃ added mid s', WritesTo s mid ∧ mid.HoldsDocument path (.map merged) ∧
      CallsTo (r.calls path) mid s' ∧
      (reconcile required path).outcome r s = (.ok true, (r.remembering added).noting
        (if r.runInstall then s.install.reason? else none), s') := by
  obtain ⟨added, hadded, hpatch⟩ := outcome_patchManifest_of_lacks h
  obtain ⟨mid, hwrites, ⟨-, hholds, hwrite⟩ | ⟨hnot, -⟩⟩ := outcome_writeManifest hcwd h hfault
  · rw [outcome_bind_of_ok hwrite, outcome_pure] at hpatch
    obtain ⟨s', hcalls, hreconcile⟩ :=
      outcome_reconcile_of_added hpatch hadded hwrites.install_eq r
    exact ⟨added, mid, s', hwrites, hholds, hcalls, hreconcile⟩
  · exact absurd hwhole hnot

/-! ## Troubles and breaks -/

/-- Trouble is told: as a failure with its reason, or, with the package manager, as what is
remembered. -/
theorem outcome_of_trouble (hcwd : s.tree.find? s.workingDir = some .dir)
    (h : Trouble r required path s reason) :
    (∃ r' s', (reconcile required path).outcome r s = (.error (.dependency reason), r', s')) ∨
      ∃ r' s', (reconcile required path).outcome r s = (.ok true, r', s') ∧
        r'.installError = some reason.message := by
  cases h with
  | missing husable hread hcode =>
    have hrun := outcome_reconcile_of_loadJson (outcome_loadJson_of_fault husable hread) required r
    simp only [loadingFailure, if_pos hcode] at hrun
    exact .inl ⟨_, _, hrun⟩
  | unreadable husable hread hcode =>
    have hrun := outcome_reconcile_of_loadJson (outcome_loadJson_of_fault husable hread) required r
    simp only [loadingFailure, if_neg hcode] at hrun
    exact .inl ⟨_, _, hrun⟩
  | malformed hholds =>
    exact .inl ⟨_, _, outcome_reconcile_of_loadJson (outcome_loadJson_of_holds hholds) _ r⟩
  | shape hholds hother =>
    have hread := (outcome_readManifest_of_ok (outcome_loadJson_of_holds hholds)).2 hother
    exact .inl ⟨_, _, outcome_reconcile_of_error (outcome_patchManifest_of_error hread) r⟩
  | unwritable hlacks hfault =>
    obtain ⟨added, -, hpatch⟩ := outcome_patchManifest_of_lacks hlacks
    obtain ⟨s₁, hwrite, -⟩ := outcome_writeManifest_of_fault hcwd hlacks hfault
    rw [outcome_bind_of_error hwrite] at hpatch
    exact .inl ⟨_, _, outcome_reconcile_of_error hpatch r⟩
  | install hlacks hfault hwhole hruns hreason =>
    obtain ⟨added, -, s', -, -, -, hrun⟩ := outcome_reconcile_of_lacks hcwd hlacks hfault hwhole r
    rw [if_pos hruns, hreason] at hrun
    exact .inr ⟨_, _, hrun, rfl⟩

/-- A reconciler that breaks off gives no reason. -/
theorem outcome_of_breaks (hcwd : s.tree.find? s.workingDir = some .dir)
    (h : Breaks required path s) (r : Reconciler) :
    ∃ f r' s', (reconcile required path).outcome r s = (.error f, r', s') ∧
      ∀ reason, f ≠ .dependency reason := by
  cases h with
  | unusable hunusable =>
    obtain ⟨f, hload, hf⟩ := outcome_loadJson_of_not_usable hunusable s
    refine ⟨_, _, _, outcome_reconcile_of_loadJson hload _ r, ?_⟩
    rcases hf with ⟨fault, rfl⟩ | rfl <;> exact nofun
  | undecodable husable hread hdecode =>
    exact ⟨_, _, _, outcome_reconcile_of_loadJson
      (outcome_loadJson_of_undecodable husable hread hdecode) _ r, nofun⟩
  | digits hholds =>
    exact ⟨_, _, _, outcome_reconcile_of_loadJson (outcome_loadJson_of_holds hholds) _ r, nofun⟩
  | unencodable hlacks hfault hnot =>
    obtain ⟨added, -, hpatch⟩ := outcome_patchManifest_of_lacks hlacks
    obtain ⟨s₁, -, ⟨hwhole, -⟩ | ⟨-, -, t, fault, hwrite⟩⟩ :=
      outcome_writeManifest hcwd hlacks hfault
    · exact absurd hwhole hnot
    · rw [outcome_bind_of_error hwrite] at hpatch
      exact ⟨_, _, _, outcome_reconcile_of_error hpatch r, nofun⟩

/-- If it does not break off, what comes of a file is a document. -/
theorem holdsJson_of_not_breaks (h : ¬ Breaks required path s)
    (htrouble : ∀ reason, ¬ Trouble r required path s reason) :
    ∃ m : Manifest, s.HoldsJson path (.ok (.map m)) := by
  have husable : isUsable path = true := by
    rw [← Bool.not_eq_false]
    exact fun hunusable => h (.unusable hunusable)
  cases hread : s.tree.readFile s.workingDir path with
  | error fault =>
    by_cases hcode : fault.cause.code = 2
    · exact absurd (.missing husable hread hcode) (htrouble _)
    · exact absurd (.unreadable husable hread hcode) (htrouble _)
  | ok octets =>
    cases hdecode : Utf8.read octets with
    | error fault => exact absurd (.undecodable husable hread hdecode) h
    | ok cs =>
      have hholds : s.HoldsJson path (Json.read cs) := ⟨husable, octets, cs, hread, hdecode, rfl⟩
      cases hjson : Json.read cs with
      | error fault =>
        rw [hjson] at hholds
        cases fault with
        | malformed fault => exact absurd (.malformed hholds) (htrouble _)
        | digits count => exact absurd (.digits hholds) h
      | ok v =>
        rw [hjson] at hholds
        by_cases hmap : ∃ m, v = .map m
        · obtain ⟨m, rfl⟩ := hmap
          exact ⟨m, hholds⟩
        · exact absurd (.shape hholds fun m hm => hmap ⟨m, hm⟩) (htrouble _)

/-- Without trouble, and if it does not break off, a reconciler does its work. -/
theorem outcome_of_no_trouble (hcwd : s.tree.find? s.workingDir = some .dir)
    (h : ¬ Breaks required path s) (htrouble : ∀ reason, ¬ Trouble r required path s reason) :
    ∃ changed r' s', (reconcile required path).outcome r s = (.ok changed, r', s') ∧
      r'.installError = none := by
  obtain ⟨m, hholds⟩ := holdsJson_of_not_breaks h htrouble
  by_cases hadded : (m.merge required).2 = []
  · obtain ⟨s', -, hpatch⟩ := outcome_patchManifest_of_complete hholds hadded
    exact ⟨_, _, _, outcome_reconcile_of_complete hpatch r, rfl⟩
  · have hlacks : Lacks required path s (m.merge required).1 := ⟨m, hholds, hadded, rfl⟩
    cases hfault : saveFault? path (m.merge required).1 s with
    | some fault => exact absurd (.unwritable hlacks hfault) (htrouble _)
    | none =>
      by_cases hwhole : Value.Whole (.map (m.merge required).1)
      · obtain ⟨added, -, s', -, -, -, hrun⟩ :=
          outcome_reconcile_of_lacks hcwd hlacks hfault hwhole r
        refine ⟨_, _, _, hrun, ?_⟩
        split
        · rename_i hruns
          cases hreason : s.install.reason? with
          | none => rfl
          | some reason => exact absurd (.install hlacks hfault hwhole hruns hreason) (htrouble _)
        · rfl
      · exact absurd (.unencodable hlacks hfault hwhole) h

end Reconciler

end DashboardKit
