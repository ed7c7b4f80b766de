import DashboardKit.Proofs.Generation.Reports
import DashboardKit.Proofs.Manifest.Resting

/-!
# Which runs come to a report

Once the artifacts are made, a run comes to a report unless the reconciler breaks off, and the
report says what trouble there was.

Main statement: `generate_reports_iff`.
-/

set_option autoImplicit false

namespace DashboardKit

open Session

namespace Reconciler

variable {r : Reconciler} {required : List Requirement} {path : Path} {s s' : Session}
  {reason : DependencyReason}

/-- What was printed makes no difference to trouble. -/
theorem Trouble.of_printsTo (hprints : PrintsTo s s') (h : Trouble r required path s' reason) :
    Trouble r required path s reason := by
  unfold PrintsTo at hprints
  rw [hprints] at h
  cases h with
  | missing husable hread hcode => exact .missing husable hread hcode
  | unreadable husable hread hcode => exact .unreadable husable hread hcode
  | malformed hholds => exact .malformed hholds
  | shape hholds hother => exact .shape hholds hother
  | unwritable hlacks hfault => exact .unwritable hlacks hfault
  | install hlacks hfault hwhole hruns hreason => exact .install hlacks hfault hwhole hruns hreason

theorem Breaks.of_printsTo (hprints : PrintsTo s s') (h : Breaks required path s') :
    Breaks required path s := h.of_sameManifest (sameManifest_of_printsTo hprints).symm

end Reconciler

namespace Generator

variable {st : Settings} {kind : ComponentKind} {config : Option ComponentConfig}
  {s s' : Session} {m m' : Reconciler} {r r' : Report} {p : Progress}

/-! ## Bringing packages in line -/

/-- The session after it was told that packages are looked at. -/
def checking (st : Settings) (s : Session) : Session :=
  { s with events := s.events ++
      [.line (("\nChecking dependencies in " : Text) ++ st.manifestPath.display st.projectRoot)] }

theorem succeeds_warn (message : Text) (warnings : List Text) :
    (warn message warnings).Succeeds :=
  (Action.succeeds_printWarning message).bind fun _ => Action.succeeds_pure _

theorem outcome_checking (st : Settings) (m : Reconciler) (s : Session) :
    (ActionOf.lift (Action.print (("\nChecking dependencies in " : Text)
      ++ st.manifestPath.display st.projectRoot)) : ActionOf Reconciler Unit).outcome m s
      = (.ok (), m, checking st s) := rfl

/-- A reason that the reconciler gives is noted. -/
theorem exists_outcome_reconcileInto_of_reason {reason : DependencyReason}
    (h : (Reconciler.reconcile Requirement.standard st.manifestPath).outcome m (checking st s)
      = (.error (.dependency reason), m', s')) (r : Report) :
    ∃ r' s'', (reconcileInto st r).outcome m s = (.ok r', m', s'') ∧
      r'.dependencyError = some reason.message := by
  obtain ⟨warnings, s₁, hwarn⟩ := succeeds_warn
    (("⚠️  Failed to install dependencies: " : Text) ++ reason.message) r.warnings s'
  obtain ⟨warnings₁, s₂, hwarn₁⟩ := succeeds_warn
    "   You may need to install dependencies manually" warnings s₁
  refine ⟨{ r with dependencyError := some reason.message, warnings := warnings₁ }, s₂, ?_, rfl⟩
  unfold reconcileInto
  rw [ActionOf.outcome_bind, outcome_checking]
  simp only
  rw [ActionOf.outcome_bind, ActionOf.outcome_tryCatch, ActionOf.outcome_bind, h]
  simp only [ActionOf.outcome_pure, ActionOf.outcome_lift]
  rw [Action.outcome_bind_of_ok hwarn, Action.outcome_bind_of_ok hwarn₁]
  rfl

/-- A failure without such a reason ends the run. -/
theorem outcome_reconcileInto_of_failure {f : Failure}
    (h : (Reconciler.reconcile Requirement.standard st.manifestPath).outcome m (checking st s)
      = (.error f, m', s')) (hf : ∀ reason, f ≠ .dependency reason) (r : Report) :
    (reconcileInto st r).outcome m s = (.error f, m', s') := by
  unfold reconcileInto
  rw [ActionOf.outcome_bind, outcome_checking]
  simp only
  rw [ActionOf.outcome_bind, ActionOf.outcome_tryCatch, ActionOf.outcome_bind, h]
  cases f with
  | dependency reason => exact absurd rfl (hf reason)
  | _ => rfl

/-- What the reconciler remembers to have gone wrong with the package manager is noted. -/
theorem exists_outcome_reconcileInto_of_ok {changed : Bool}
    (h : (Reconciler.reconcile Requirement.standard st.manifestPath).outcome m (checking st s)
      = (.ok changed, m', s')) (hr : r.dependencyError = none) :
    ∃ r', (reconcileInto st r).outcome m s = (.ok r', m', s') ∧
      r'.dependencyError = m'.installError := by
  unfold reconcileInto
  rw [ActionOf.outcome_bind, outcome_checking]
  simp only
  rw [ActionOf.outcome_bind, ActionOf.outcome_tryCatch, ActionOf.outcome_bind, h]
  simp only [ActionOf.outcome_pure, ActionOf.outcome_bind, ActionOf.outcome_memory]
  cases hinstall : m'.installError with
  | none => exact ⟨_, rfl, hr⟩
  | some message => exact ⟨_, rfl, rfl⟩

/-! ## Whole runs -/

/-- The rest of the second stage does not fail and leaves the trouble that was noted. -/
theorem exists_outcome_packageStage
    (h : (reconcileInto st (artifactReport kind config p)).outcome m s = (.ok r, m', s')) :
    ∃ r' s'', (packageStage st kind config p).outcome m s = (.ok r', m', s'') ∧
      r'.dependencyError = r.dependencyError := by
  unfold packageStage
  rw [ActionOf.outcome_bind, h]
  simp only
  split
  · exact ⟨r, s', rfl, rfl⟩
  · obtain ⟨warnings, s₁, hwarn⟩ := succeeds_warn "No files were generated" r.warnings s'
    refine ⟨{ r with warnings }, s₁, ?_, rfl⟩
    rw [ActionOf.outcome_bind, ActionOf.outcome_lift, hwarn]
    rfl

/-- Trouble is noted at the end of the second stage. -/
theorem packageStage_of_trouble {reason : DependencyReason}
    (hcwd : s.tree.find? s.workingDir = some .dir)
    (h : m.Trouble Requirement.standard st.manifestPath s reason) (kind : ComponentKind)
    (config : Option ComponentConfig) (p : Progress) :
    ∃ r m' s', (packageStage st kind config p).outcome m s = (.ok r, m', s') ∧
      r.dependencyError = some reason.message := by
  have hchecking : PrintsTo (checking st s) s := rfl
  rcases Reconciler.outcome_of_trouble (s := checking st s) hcwd (h.of_printsTo hchecking) with
    ⟨m', s', hreconcile⟩ | ⟨m', s', hreconcile, hinstall⟩
  · obtain ⟨r, s₁, hinto, herror⟩ :=
      exists_outcome_reconcileInto_of_reason hreconcile (artifactReport kind config p)
    obtain ⟨r', s₂, hstage, hsame⟩ := exists_outcome_packageStage hinto
    exact ⟨r', m', s₂, hstage, hsame.trans herror⟩
  · obtain ⟨r, hinto, herror⟩ := exists_outcome_reconcileInto_of_ok
      (r := artifactReport kind config p) hreconcile rfl
    obtain ⟨r', s₂, hstage, hsame⟩ := exists_outcome_packageStage hinto
    exact ⟨r', m', s₂, hstage, hsame.trans (herror.trans hinstall)⟩

/-- Nothing is noted without trouble. -/
theorem packageStage_of_no_trouble (hcwd : s.tree.find? s.workingDir = some .dir)
    (hbreaks : ¬ Reconciler.Breaks Requirement.standard st.manifestPath s)
    (h : ∀ reason, ¬ m.Trouble Requirement.standard st.manifestPath s reason)
    (kind : ComponentKind) (config : Option ComponentConfig) (p : Progress) :
    ∃ r m' s', (packageStage st kind config p).outcome m s = (.ok r, m', s') ∧
      r.dependencyError = none := by
  have hchecking : PrintsTo s (checking st s) := rfl
  obtain ⟨changed, m', s', hreconcile, hinstall⟩ := Reconciler.outcome_of_no_trouble
    (s := checking st s) (r := m) hcwd (fun hbreaks' => hbreaks (hbreaks'.of_printsTo hchecking))
    fun reason htrouble => h reason (htrouble.of_printsTo hchecking)
  obtain ⟨r, hinto, herror⟩ := exists_outcome_reconcileInto_of_ok
    (r := artifactReport kind config p) hreconcile rfl
  obtain ⟨r', s₂, hstage, hsame⟩ := exists_outcome_packageStage hinto
  exact ⟨r', m', s₂, hstage, hsame.trans (herror.trans hinstall)⟩

/-- A reconciler that breaks off ends the run. -/
theorem packageStage_of_breaks (hcwd : s.tree.find? s.workingDir = some .dir)
    (h : Reconciler.Breaks Requirement.standard st.manifestPath s) (m : Reconciler)
    (kind : ComponentKind) (config : Option ComponentConfig) (p : Progress) :
    ∃ f m' s', (packageStage st kind config p).outcome m s = (.error f, m', s') := by
  have hchecking : PrintsTo (checking st s) s := rfl
  obtain ⟨f, m', s', hreconcile, hf⟩ := Reconciler.outcome_of_breaks (s := checking st s) hcwd
    (h.of_printsTo hchecking) m
  refine ⟨f, m', s', ?_⟩
  unfold packageStage
  rw [ActionOf.outcome_bind, outcome_reconcileInto_of_failure hreconcile hf]

/-- The second stage comes to a report unless the reconciler breaks off. -/
theorem exists_packageStage_iff (kind : ComponentKind) (config : Option ComponentConfig)
    (p : Progress) (m : Reconciler) (hcwd : s.tree.find? s.workingDir = some .dir) :
    (∃ r m' s', (packageStage st kind config p).outcome m s = (.ok r, m', s')) ↔
      ¬ Reconciler.Breaks Requirement.standard st.manifestPath s := by
  constructor
  · rintro ⟨r, m', s', hstage⟩ hbreaks
    obtain ⟨f, m₁, s₁, hfails⟩ := packageStage_of_breaks hcwd hbreaks m kind config p
    rw [hstage] at hfails
    cases hfails
  · intro hbreaks
    by_cases htrouble : ∃ reason, m.Trouble Requirement.standard st.manifestPath s reason
    · obtain ⟨reason, htrouble⟩ := htrouble
      obtain ⟨r, m', s', hstage, -⟩ := packageStage_of_trouble hcwd htrouble kind config p
      exact ⟨r, m', s', hstage⟩
    · have hnone := fun reason h => htrouble ⟨reason, h⟩
      obtain ⟨r, m', s', hstage, -⟩ := packageStage_of_no_trouble hcwd hbreaks hnone kind config p
      exact ⟨r, m', s', hstage⟩

/-- What the report notes is the trouble there was. -/
theorem dependencyError_eq_some_iff (hcwd : s.tree.find? s.workingDir = some .dir)
    (hstage : (packageStage st kind config p).outcome m s = (.ok r, m', s')) {message : Text} :
    r.dependencyError = some message ↔
      ∃ reason, m.Trouble Requirement.standard st.manifestPath s reason ∧
        reason.message = message := by
  constructor
  · intro herror
    by_contra hother
    have hbreaks := (exists_packageStage_iff kind config p m hcwd).1 ⟨r, m', s', hstage⟩
    by_cases htrouble : ∃ reason, m.Trouble Requirement.standard st.manifestPath s reason
    · obtain ⟨reason, htrouble⟩ := htrouble
      obtain ⟨r₁, m₁, s₁, hstage₁, herror₁⟩ := packageStage_of_trouble hcwd htrouble kind config p
      rw [hstage] at hstage₁
      cases hstage₁
      rw [herror, Option.some.injEq] at herror₁
      exact hother ⟨reason, htrouble, herror₁.symm⟩
    · have hnone := fun reason h => htrouble ⟨reason, h⟩
      obtain ⟨r₁, m₁, s₁, hstage₁, herror₁⟩ :=
        packageStage_of_no_trouble hcwd hbreaks hnone kind config p
      rw [hstage] at hstage₁
      cases hstage₁
      rw [herror] at herror₁
      cases herror₁
  · rintro ⟨reason, htrouble, rfl⟩
    obtain ⟨r₁, m₁, s₁, hstage₁, herror₁⟩ := packageStage_of_trouble hcwd htrouble kind config p
    rw [hstage] at hstage₁
    cases hstage₁
    exact herror₁

/-- Once the artifacts are made, a run comes to a report unless the reconciler breaks off, and what
the report notes is the trouble there was. -/
theorem generate_reports_iff {g : Generator} {kind : ComponentKind}
    {config : Option ComponentConfig} {s mid : Session} {p : Progress}
    (hcwd : s.tree.find? s.workingDir = some .dir)
    (hartifacts : (artifactStage g.settings kind config).outcome s = (.ok p, mid)) :
    ((∃ r g' s', (generate kind config).outcome g s = (.ok r, g', s')) ↔
        ¬ Reconciler.Breaks Requirement.standard g.settings.manifestPath mid) ∧
      ∀ r g' s', (generate kind config).outcome g s = (.ok r, g', s') →
        ∀ message, r.dependencyError = some message ↔
          ∃ reason, g.reconciler.Trouble Requirement.standard g.settings.manifestPath mid reason ∧
            reason.message = message := by
  obtain ⟨context, start, -, hprint, hmade⟩ := artifactStage_eq_ok hartifacts
  have hcwd' : mid.tree.find? mid.workingDir = some .dir :=
    hmade.growsAt.dir_workingDir ((hprint.growsAt fun _ => False).dir_workingDir hcwd)
  have hgenerate {r : Report} {g' : Generator} {s' : Session} :
      (generate kind config).outcome g s = (.ok r, g', s') ↔
        ∃ m', (packageStage g.settings kind config p).outcome g.reconciler mid = (.ok r, m', s') ∧
          g' = { g with reconciler := m' } := by
    rw [generate_eq_ok_iff, outcome_run, hartifacts]
  constructor
  · rw [← exists_packageStage_iff kind config p g.reconciler hcwd']
    constructor
    · rintro ⟨r, g', s', hrun⟩
      obtain ⟨m', hstage, -⟩ := hgenerate.1 hrun
      exact ⟨r, m', s', hstage⟩
    · rintro ⟨r, m', s', hstage⟩
      exact ⟨r, _, s', hgenerate.2 ⟨m', hstage, rfl⟩⟩
  · intro r g' s' hrun message
    obtain ⟨m', hstage, -⟩ := hgenerate.1 hrun
    exact dependencyError_eq_some_iff hcwd' hstage

/-- Paths from the root that lead down lead to different places if they are spelled differently. -/
theorem not_samePlace_root {a b : List Text} (ha : Path.dotDot ∉ a) (hb : Path.dotDot ∉ b)
    (hne : a.map FileName.spelled ≠ b.map FileName.spelled) (s : Session) :
    ¬ s.SamePlace ⟨.root, a⟩ ⟨.root, b⟩ := by
  rintro ⟨l, hl, hl'⟩
  exact hne ((FileTree.eq_of_locate_root ha hl).symm.trans (FileTree.eq_of_locate_root hb hl'))

/-- Where the manifest of the sample project goes. -/
def sampleManifestPath : Path := ⟨.root, ["project", "package.json"]⟩

/-- Where the data route of the sample component goes. -/
def sampleRoutePath : Path := ⟨.root, ["project", "api", "pump", "route.js"]⟩

theorem destined_sampleSettings {q : Path}
    (h : Destined sampleSettings .state (some sampleConfig) q) :
    q = samplePath ∨ q = sampleRoutePath := by
  obtain ⟨key, -, place, hplace, rfl⟩ := h
  cases key with
  | component =>
    have hsample : (sampleSettings.layout.place .state .component
        (componentName .state (some sampleConfig))).toOption.map
          (fun place => sampleSettings.projectRoot.joinParts place.parts) = some samplePath := by
      decide +kernel
    rw [hplace] at hsample
    exact .inl (Option.some.inj hsample)
  | api =>
    have hsample : (sampleSettings.layout.place .state .api
        (componentName .state (some sampleConfig))).toOption.map
          (fun place => sampleSettings.projectRoot.joinParts place.parts)
            = some sampleRoutePath := by
      decide +kernel
    rw [hplace] at hsample
    exact .inr (Option.some.inj hsample)

/-- The sample component is not written over the manifest. -/
theorem not_samePlace_sampleManifestPath {q : Path}
    (h : Destined sampleSettings .state (some sampleConfig) q) (s : Session) :
    ¬ s.SamePlace q sampleManifestPath := by
  rcases destined_sampleSettings h with rfl | rfl
  · exact not_samePlace_root (by decide) (by decide) (by decide) s
  · exact not_samePlace_root (by decide) (by decide) (by decide) s

theorem isUsable_sampleManifestPath : Action.isUsable sampleManifestPath = true := by decide

/-- In the sample project there is no manifest: the report says so. -/
theorem generate_reports_missing_manifest :
    sampleSession.tree.find? sampleSession.workingDir = some .dir ∧
      ∃ p mid, (artifactStage sampleSettings .state (some sampleConfig)).outcome sampleSession
          = (.ok p, mid) ∧
        ∃ r g' s', (generate .state (some sampleConfig)).outcome (.new sampleSettings) sampleSession
            = (.ok r, g', s') ∧
          r.dependencyError = some "Manifest not found: /project/package.json" := by
  have hcwd : sampleSession.tree.find? sampleSession.workingDir = some .dir := by decide
  have hmissing : ((artifactStage sampleSettings .state (some sampleConfig)).outcome
        sampleSession).1.isOk = true ∧
      (fun mid => mid.tree.readFile mid.workingDir sampleManifestPath)
        ((artifactStage sampleSettings .state (some sampleConfig)).outcome sampleSession).2
        = .error ⟨.missing, some "/project/package.json"⟩ := by
    decide +kernel
  rcases hartifacts :
    (artifactStage sampleSettings .state (some sampleConfig)).outcome sampleSession with
    ⟨f | p, mid⟩ <;> rw [hartifacts] at hmissing
  · cases hmissing.1
  have hread : mid.tree.readFile mid.workingDir sampleManifestPath
      = .error ⟨.missing, some "/project/package.json"⟩ := hmissing.2
  have hholds : ∀ x, ¬ mid.HoldsJson sampleManifestPath x := by
    rintro x ⟨-, octets, cs, hread', -⟩
    rw [hread] at hread'
    cases hread'
  have hbreaks : ¬ Reconciler.Breaks Requirement.standard sampleManifestPath mid := by
    intro hbreaks
    cases hbreaks with
    | unusable hunusable =>
      rw [isUsable_sampleManifestPath] at hunusable
      cases hunusable
    | undecodable _ hread' _ =>
      rw [hread] at hread'
      cases hread'
    | digits h => exact hholds _ h
    | unencodable h _ _ =>
      obtain ⟨m, h, -⟩ := h
      exact hholds _ h
  have hall := generate_reports_iff (g := .new sampleSettings) hcwd hartifacts
  obtain ⟨r, g', s', hrun⟩ := hall.1.2 hbreaks
  refine ⟨hcwd, p, mid, rfl, r, g', s', hrun, ?_⟩
  exact (hall.2 r g' s' hrun _).2 ⟨_, .missing isUsable_sampleManifestPath hread rfl, by decide⟩

/-- The sample project with a manifest that is no text. -/
def undecodableSession : Session :=
  { sampleSession with
    tree := ⟨(sampleManifestPath.segments, .file [0xff]) :: sampleSession.tree.entries⟩ }

/-- A run that makes its artifacts and still comes to no report. -/
theorem exists_run_without_report :
    ComponentConfig.ofEntries sampleEntries = .ok sampleConfig ∧
      undecodableSession.tree.Consistent ∧
      undecodableSession.tree.find? undecodableSession.workingDir = some .dir ∧
      (∃ p mid, (artifactStage sampleSettings .state (some sampleConfig)).outcome
        undecodableSession = (.ok p, mid)) ∧
      ∃ fault g' s', (generate .state (some sampleConfig)).outcome (.new sampleSettings)
        undecodableSession = (.error (.undecodable ⟨fault, [0xff]⟩), g', s') := by
  have htree : undecodableSession.tree.Consistent := by decide
  have hcwd : undecodableSession.tree.find? undecodableSession.workingDir = some .dir := by decide
  have hartifacts : ((artifactStage sampleSettings .state (some sampleConfig)).outcome
      undecodableSession).1.isOk = true := by
    decide +kernel
  have hfails : ((generate .state (some sampleConfig)).outcome (.new sampleSettings)
      undecodableSession).1 = .error (.undecodable ⟨⟨.start, 0, [0xff]⟩, [0xff]⟩) := by
    decide +kernel
  refine ⟨ofEntries_sampleEntries, htree, hcwd, ?_, ?_⟩
  · rcases hstage :
      (artifactStage sampleSettings .state (some sampleConfig)).outcome undecodableSession with
      ⟨f | p, mid⟩
    · rw [hstage] at hartifacts
      cases hartifacts
    · exact ⟨p, mid, rfl⟩
  · rcases hrun :
      (generate .state (some sampleConfig)).outcome (.new sampleSettings) undecodableSession with
      ⟨x, g', s'⟩
    rw [hrun] at hfails
    exact ⟨_, g', s', congrArg (·, g', s') hfails⟩

end Generator

end DashboardKit
