import DashboardKit.Proofs.Generation.Repeating
import DashboardKit.Proofs.Generation.Warnings
import DashboardKit.Proofs.Manifest.Rewritten

/-!
# Reports are true

What a report says of the packages is what happened to them: a change is noted exactly if the
manifest was rewritten, and an error exactly if something hindered the reconciler.  The warnings
tell the same once more.

Main statement: `generate_truthful`.
-/

set_option autoImplicit false

namespace DashboardKit

open Session

/-! ## What was printed makes no difference -/

namespace Reconciler

variable {required : List Requirement} {path : Path} {s₀ s s₁ s' : Session}

theorem rewritten_iff_of_printsTo (h₀ : PrintsTo s₀ s) (h₁ : PrintsTo s₁ s') :
    Rewritten required path s s s₁ ↔ Rewritten required path s₀ s₀ s' := by
  unfold PrintsTo at h₀ h₁
  rw [h₀, h₁]
  rfl

theorem hindered_iff_of_printsTo (h₀ : PrintsTo s₀ s) (h₁ : PrintsTo s₁ s') :
    Hindered required path s s₁ ↔ Hindered required path s₀ s' := by
  unfold PrintsTo at h₀ h₁
  rw [h₀, h₁]
  rfl

end Reconciler

namespace Generator

open Reconciler (Breaks Trouble Rewritten Hindered)

variable {st : Settings} {kind : ComponentKind} {config : Option ComponentConfig}
  {s mid s' : Session} {m m' : Reconciler} {r : Report} {p : Progress} {path : Path}

/-! ## The stage with the packages -/

/-- What is noted of the packages is what the reconciler did and what hindered it. -/
theorem packageStage_tells (hcwd : s.tree.find? s.workingDir = some .dir)
    (h : (packageStage st kind config p).outcome m s = (.ok r, m', s')) :
    (r.dependenciesChanged = true ↔ Rewritten Requirement.standard st.manifestPath s s s') ∧
      (r.dependencyError ≠ none ↔ Hindered Requirement.standard st.manifestPath s s') := by
  have hchecking := printsTo_checking st s
  have hcwd' : (checking st s).tree.find? (checking st s).workingDir = some .dir := hcwd
  have hbreaks : ¬ Breaks Requirement.standard st.manifestPath (checking st s) := fun hbreaks =>
    (exists_packageStage_iff kind config p m hcwd).1 ⟨r, m', s', h⟩ (hbreaks.of_printsTo hchecking)
  obtain ⟨x, m₁, s₁, hreconcile, hchanged, hprints⟩ := reconcile_of_packageStage h
  constructor
  · rw [hchanged, Reconciler.changed_iff_rewritten (by decide) hcwd' hbreaks hreconcile]
    exact Reconciler.rewritten_iff_of_printsTo hchecking hprints
  · rw [← Reconciler.hindered_iff_of_printsTo hchecking hprints,
      Reconciler.hindered_iff_trouble hcwd' hbreaks hreconcile]
    constructor
    · intro hnoted
      obtain ⟨message, hmessage⟩ := Option.ne_none_iff_exists'.1 hnoted
      obtain ⟨reason, htrouble, -⟩ := (dependencyError_eq_some_iff hcwd h).1 hmessage
      have hback : PrintsTo (checking st s) s := rfl
      exact ⟨reason, htrouble.of_printsTo hback⟩
    · rintro ⟨reason, htrouble⟩
      have hmessage := (dependencyError_eq_some_iff hcwd h).2
        ⟨reason, htrouble.of_printsTo hchecking, rfl⟩
      rw [hmessage]
      exact Option.some_ne_none _

/-! ## Whole runs -/

/-- The session when the artifacts of a component are made. -/
def midway (st : Settings) (kind : ComponentKind) (config : Option ComponentConfig) (s : Session) :
    Session := ((artifactStage st kind config).outcome s).2

/-- If no artifact goes where the manifest is, the manifest is another one only if it is so after
the second stage. -/
theorem newAt_iff_of_growsAt {paths paths' : Path → Prop} (hstart : GrowsAt paths s mid)
    (hfinish : GrowsAt paths' mid s') (hapart : ∀ q, paths q → ¬ s'.SamePlace q path) :
    Reconciler.NewAt path mid s' ↔ Reconciler.NewAt path s s' := by
  refine exists_congr fun l => and_congr_right fun hl => ?_
  refine exists_congr fun found => and_congr_right fun _ => not_congr ?_
  apply hstart.2.file_iff
  rintro ⟨q, hq, hlq⟩
  exact hapart q hq ⟨l, hfinish.locate hlq, hl⟩

/-- What the report of a run from one session to another tells is true. -/
structure Truthful (st : Settings) (kind : ComponentKind) (config : Option ComponentConfig)
    (s : Session) (r : Report) (s' : Session) : Prop extends Warns r where
  /-- making the artifacts neither calls the package manager nor changes what it will do, nor
  whether the manifest can be written -/
  leavesPackages : (midway st kind config s).installCalls = s.installCalls ∧
    (midway st kind config s).install = s.install ∧
    (midway st kind config s).writeFault = s.writeFault ∧ (midway st kind config s).disk = s.disk
  /-- a change of packages is noted exactly if the manifest was rewritten when the artifacts were
  made -/
  changed : r.dependenciesChanged = true ↔ Rewritten Requirement.standard st.manifestPath
    (midway st kind config s) (midway st kind config s) s'
  /-- that is, in the run, if no artifact goes where the manifest is -/
  changedInRun : (∀ q, Destined st kind config q → ¬ s'.SamePlace q st.manifestPath) →
    (r.dependenciesChanged = true ↔
      Rewritten Requirement.standard st.manifestPath s (midway st kind config s) s')
  /-- an error is noted exactly if something hindered the reconciler -/
  error : r.dependencyError ≠ none ↔
    Hindered Requirement.standard st.manifestPath (midway st kind config s) s'

/-- If generating a component comes to a report, everything in it on packages and warnings is true.
-/
theorem generate_truthful {g g' : Generator} (hcwd : s.tree.find? s.workingDir = some .dir)
    (hrun : (generate kind config).outcome g s = (.ok r, g', s')) :
    Truthful g.settings kind config s r s' := by
  obtain ⟨m', hrun', -⟩ := generate_eq_ok_iff.1 hrun
  obtain ⟨p, mid, hartifacts, hpackages⟩ := run_eq_ok_iff.1 hrun'
  have hmidway : midway g.settings kind config s = mid := by rw [midway, hartifacts]
  have hstart := keeps_artifactStage_growsAt.of_outcome hartifacts
  have hfinish := (keeps_packageStage g.settings kind config p).of_outcome hpackages
  have hwrites : mid = { s with tree := mid.tree, events := mid.events } :=
    keeps_artifactStage_writesTo.of_outcome hartifacts
  obtain ⟨hchanged, herror⟩ := packageStage_tells (hstart.dir_workingDir hcwd) hpackages
  refine ⟨warns_of_stages hartifacts hpackages, ?_, ?_, ?_, ?_⟩
  · rw [hmidway, hwrites]
    exact ⟨rfl, rfl, rfl, rfl⟩
  · rwa [hmidway]
  · intro hapart
    rw [hchanged, hmidway]
    exact and_congr_left' (newAt_iff_of_growsAt hstart hfinish hapart)
  · rwa [hmidway]

/-- In the sample project the template of the data route and the manifest are missing: one warning
tells of the first, and the error that is noted of the second. -/
theorem generate_truthful_sampleSession :
    sampleSession.tree.find? sampleSession.workingDir = some .dir ∧
      ∃ r g' s', (generate .state (some sampleConfig)).outcome (.new sampleSettings) sampleSession
          = (.ok r, g', s') ∧
        r.warnings.countP (fun w => skipMarker "api" <+: w) = 1 ∧
        Hindered Requirement.standard sampleSettings.manifestPath
          (midway sampleSettings .state (some sampleConfig) sampleSession) s' ∧
        ¬ Rewritten Requirement.standard sampleSettings.manifestPath sampleSession
          (midway sampleSettings .state (some sampleConfig) sampleSession) s' ∧
        Truthful sampleSettings .state (some sampleConfig) sampleSession r s' := by
  have hcwd : sampleSession.tree.find? sampleSession.workingDir = some .dir := by decide
  have hmanifest : sampleSettings.manifestPath = sampleManifestPath := by decide +kernel
  have hreport : ((generate .state (some sampleConfig)).outcome (.new sampleSettings)
      sampleSession).1.toOption.map
        (fun r => (r.dependenciesChanged, r.dependencyError.isSome, r.skipped))
      = some (false, true, [("api" : Text)]) := by
    decide +kernel
  obtain ⟨r, g', s', hrun, htold⟩ := ActionOf.exists_outcome_of_toOption_map hreport
  obtain ⟨hchanged, herror, hskipped⟩ : r.dependenciesChanged = false ∧
      r.dependencyError.isSome = true ∧ r.skipped = [("api" : Text)] := by
    simpa using htold
  have htruthful := generate_truthful hcwd hrun
  refine ⟨hcwd, r, g', s', hrun, htruthful.skipped _ ?_, htruthful.error.1 ?_, ?_, htruthful⟩
  · rw [hskipped]
    exact List.mem_singleton_self _
  · exact Option.isSome_iff_ne_none.1 herror
  · refine mt (htruthful.changedInRun fun q hq => ?_).2 (by simp [hchanged])
    rw [show (Generator.new sampleSettings).settings = sampleSettings from rfl, hmanifest]
    exact not_samePlace_sampleManifestPath hq s'

end Generator

end DashboardKit
