import DashboardKit.Proofs.Generation.Completion
import DashboardKit.Proofs.Manifest.Settling

/-!
# Runs one after the other

A project sees many runs: for all kinds of components, with all configs, by generators that remember
what they like, while saving the manifest works or fails and the package manager does its work or
does not.  Between two of them anything may change but the manifest.

Each run leaves the manifest as it is, or settles it, and a settled manifest stays.  A run that
comes to a report without trouble completed the work on the manifest (`Run.completes_of_report`).

Main statements: `Run.settles` and `History.settles_once`.
-/

set_option autoImplicit false

namespace DashboardKit

open Session Reconciler

namespace Generator

variable {st : Settings} {kind : ComponentKind} {config : Option ComponentConfig}

/-! ## After the reconciler -/

/-- What the reconciler gave is only noted and told. -/
theorem printsTo_reconcileInto (st : Settings) (r : Report) (m : Reconciler) (s : Session) :
    PrintsTo ((reconcile Requirement.standard st.manifestPath).outcome m (checking st s)).2.2
      ((reconcileInto st r).outcome m s).2.2 := by
  unfold reconcileInto
  rw [ActionOf.outcome_bind, outcome_checking]
  simp only
  rw [ActionOf.outcome_bind, ActionOf.outcome_tryCatch, ActionOf.outcome_bind]
  rcases (reconcile Requirement.standard st.manifestPath).outcome m (checking st s) with
    ⟨f | changed, m', s'⟩
  · cases f with
    | dependency reason =>
      simp only [ActionOf.outcome_pure, ActionOf.outcome_lift]
      exact ((keeps_warn _ _).bind fun _ => (keeps_warn _ _).bind fun _ =>
        Action.keeps_pure (R := PrintsTo) _) s'
    | _ => exact refl_of PrintsTo s'
  · simp only [ActionOf.outcome_pure, ActionOf.outcome_bind, ActionOf.outcome_memory]
    split <;> exact refl_of PrintsTo s'

theorem printsTo_packageStage (st : Settings) (kind : ComponentKind)
    (config : Option ComponentConfig) (p : Progress) (m : Reconciler) (s : Session) :
    PrintsTo ((reconcile Requirement.standard st.manifestPath).outcome m (checking st s)).2.2
      ((packageStage st kind config p).outcome m s).2.2 := by
  have hinto := printsTo_reconcileInto st (artifactReport kind config p) m s
  generalize ((reconcile Requirement.standard st.manifestPath).outcome m (checking st s)).2.2 = s₁
    at hinto ⊢
  unfold packageStage
  rw [ActionOf.outcome_bind]
  rcases hrun : (reconcileInto st (artifactReport kind config p)).outcome m s with ⟨f | r, m', s'⟩
    <;> rw [hrun] at hinto <;> simp only at hinto ⊢
  · exact hinto
  · refine trans_of PrintsTo hinto ?_
    split
    · exact refl_of PrintsTo s'
    · have hwarn : (ActionOf.lift (warn "No files were generated" r.warnings) :
          ActionOf Reconciler (List Text)).Keeps PrintsTo := ActionOf.keeps_lift (keeps_warn _ _)
      exact (hwarn.bind fun _ => ActionOf.keeps_pure _) m' s'

end Generator

/-! ## One run -/

/-- A run: what generates which component, and the session that it starts in. -/
structure Run where
  generator : Generator
  kind : ComponentKind
  config : Option ComponentConfig
  start : Session

namespace Run

open Generator

variable {run : Run} {path : Path}

/-- The session after a run, whether it came to a report or not. -/
def finish (run : Run) : Session :=
  ((generate run.kind run.config).outcome run.generator run.start).2.2

/-- What the reconciler gave in a run, if the run got to it. -/
def reconciled (run : Run) : Option (Except Failure Bool) :=
  match (artifactStage run.generator.settings run.kind run.config).outcome run.start with
  | (.error _, _) => none
  | (.ok _, mid) =>
    some ((reconcile Requirement.standard run.generator.settings.manifestPath).outcome
      run.generator.reconciler (checking run.generator.settings mid)).1

/-- The packages were brought in line without a failure; that the package manager failed is none. -/
def Completes (run : Run) : Prop := ∃ changed, run.reconciled = some (.ok changed)

/-- The manifest was written, or in any case is not what it was. -/
def Rewrites (path : Path) (run : Run) : Prop :=
  run.reconciled = some (.ok true) ∨ octets path run.finish ≠ octets path run.start

/-- The run keeps the manifest at this path, and none of its artifacts goes there. -/
structure Spares (path : Path) (run : Run) : Prop where
  manifestPath : run.generator.settings.manifestPath = path
  apart : ∀ q, Destined run.generator.settings run.kind run.config q → ¬ run.finish.SamePlace q path

/-- There is a manifest, and a directory to look for it from. -/
structure Ready (path : Path) (s : Session) : Prop where
  workingDir : s.tree.find? s.workingDir = some .dir
  readable : ∃ found, octets path s = .ok found

/-- A run ends with the artifacts, because making them failed, or it goes on to the reconciler and
after that only prints. -/
theorem cases_artifactStage (run : Run) :
    (∃ f, (artifactStage run.generator.settings run.kind run.config).outcome run.start
        = (.error f, run.finish) ∧ run.reconciled = none) ∨
      ∃ p mid x m s, (artifactStage run.generator.settings run.kind run.config).outcome run.start
          = (.ok p, mid) ∧
        (reconcile Requirement.standard run.generator.settings.manifestPath).outcome
          run.generator.reconciler (checking run.generator.settings mid) = (x, m, s) ∧
        run.reconciled = some x ∧ PrintsTo s run.finish := by
  have hrun := outcome_run run.generator.settings run.kind run.config run.generator.reconciler
    run.start
  rcases hstage : (artifactStage run.generator.settings run.kind run.config).outcome run.start with
    ⟨f | p, mid⟩ <;> rw [hstage] at hrun
  · have hfinish : run.finish = mid := by rw [finish, outcome_generate hrun]
    have hnone : run.reconciled = none := by rw [reconciled, hstage]
    exact .inl ⟨f, by rw [hfinish], hnone⟩
  · have hprints := printsTo_packageStage run.generator.settings run.kind run.config p
      run.generator.reconciler mid
    rcases hpackages : (packageStage run.generator.settings run.kind run.config p).outcome
      run.generator.reconciler mid with ⟨result, m', s'⟩
    rcases hreconcile : (reconcile Requirement.standard run.generator.settings.manifestPath).outcome
      run.generator.reconciler (checking run.generator.settings mid) with ⟨x, m, s⟩
    simp only [hpackages] at hprints hrun
    simp only [hreconcile] at hprints
    have hfinish : run.finish = s' := by rw [finish, outcome_generate hrun]
    have hx : run.reconciled = some x := by
      rw [reconciled, hstage]
      simp only [hreconcile]
    exact .inr ⟨p, mid, x, m, s, rfl, hreconcile, hx, by rw [hfinish]; exact hprints⟩

/-- A run whose report notes no trouble completed the work on the manifest. -/
theorem completes_of_report {r : Report} {g' : Generator} {s' : Session}
    (h : (generate run.kind run.config).outcome run.generator run.start = (.ok r, g', s'))
    (hnone : r.dependencyError = none) : run.Completes := by
  obtain ⟨m', hrun, -⟩ := generate_eq_ok_iff.1 h
  obtain ⟨p, mid, hstage, hpackages⟩ := run_eq_ok_iff.1 hrun
  rcases hreconcile : (reconcile Requirement.standard run.generator.settings.manifestPath).outcome
    run.generator.reconciler (checking run.generator.settings mid) with ⟨f | changed, m₁, s₁⟩
  · exfalso
    by_cases hreason : ∃ reason, f = .dependency reason
    · -- the reason would be in the report
      obtain ⟨reason, rfl⟩ := hreason
      obtain ⟨r₁, s₂, hinto, herror⟩ := exists_outcome_reconcileInto_of_reason hreconcile
        (artifactReport run.kind run.config p)
      obtain ⟨r₂, s₃, hpackages', hsame⟩ := exists_outcome_packageStage hinto
      rw [hpackages] at hpackages'
      cases hpackages'
      rw [hnone, herror] at hsame
      cases hsame
    · -- there would be no report
      have hinto := outcome_reconcileInto_of_failure hreconcile
        (fun reason hf => hreason ⟨reason, hf⟩) (artifactReport run.kind run.config p)
      unfold packageStage at hpackages
      rw [ActionOf.outcome_bind, hinto] at hpackages
      cases hpackages
  · refine ⟨changed, ?_⟩
    rw [reconciled, hstage]
    simp only [hreconcile]

/-- Making artifacts leaves a manifest alone that is at the place of none of them. -/
theorem untouched_artifactStage {x : Except Failure Progress} {mid : Session}
    (hready : Ready path run.start)
    (h : (artifactStage run.generator.settings run.kind run.config).outcome run.start = (x, mid))
    (hapart : ∀ q, Destined run.generator.settings run.kind run.config q → ¬ mid.SamePlace q path) :
    Untouched path run.start mid := by
  have hgrows := keeps_artifactStage_growsAt.of_outcome h
  have hwrites := keeps_artifactStage_writesTo.of_outcome h
  obtain ⟨found, hfound⟩ := hready.readable
  exact ⟨(hgrows.readFile hfound hapart).trans hfound.symm, hwrites.installCalls_eq⟩

/-- A run leaves the manifest as it is, settled if the run completed the work on it, or settles it.
-/
theorem settles (hready : Ready path run.start) (hspares : Spares path run) :
    Settles Requirement.standard path run.Completes (run.reconciled = some (.ok true)) run.start
      run.finish := by
  obtain ⟨rfl, hapart⟩ := hspares
  rcases run.cases_artifactStage with
    ⟨f, hstage, hnone⟩ | ⟨p, mid, x, m, s, hstage, hrun, hx, hprints⟩
  · refine .stays (untouched_artifactStage hready hstage hapart) ?_ ?_
    · rw [hnone]
      nofun
    · rintro ⟨changed, hdone⟩
      rw [hnone] at hdone
      cases hdone
  · have hgrows := (keeps_reconcile Requirement.standard _).of_outcome hrun
    have hbehind := hprints.growsAt (· = run.generator.settings.manifestPath)
    have hapart' : ∀ q, Destined run.generator.settings run.kind run.config q →
        ¬ mid.SamePlace q run.generator.settings.manifestPath := by
      rintro q hq ⟨l, hl, hl'⟩
      exact hapart q hq ⟨l, hbehind.locate (hgrows.locate hl), hbehind.locate (hgrows.locate hl')⟩
    have hcwd := (keeps_artifactStage_growsAt.of_outcome hstage).dir_workingDir hready.workingDir
    have hchecking : PrintsTo mid (checking run.generator.settings mid) := rfl
    have hsettles := settles_reconcile (by decide)
      ((hchecking.growsAt fun _ => False).dir_workingDir hcwd) hrun
    have hbefore := (untouched_artifactStage hready hstage hapart').trans
      (untouched_of_printsTo hchecking)
    have hmeaning : run.Completes ↔ ∃ changed, x = .ok changed := by
      unfold Completes
      simp [hx]
    rw [hmeaning, hx, Option.some.injEq]
    exact hsettles.extend hbefore (untouched_of_printsTo hprints)

/-- There is a manifest after a run. -/
theorem ready_finish (hready : Ready path run.start) (hspares : Spares path run) :
    Ready path run.finish := by
  refine ⟨?_, ?_⟩
  · have hcwd {x : Except Failure Progress} {mid : Session}
        (h : (artifactStage run.generator.settings run.kind run.config).outcome run.start
          = (x, mid)) : mid.tree.find? mid.workingDir = some .dir :=
      (keeps_artifactStage_growsAt.of_outcome h).dir_workingDir hready.workingDir
    rcases run.cases_artifactStage with ⟨f, hstage, -⟩ | ⟨p, mid, x, m, s, hstage, hrun, -, hprints⟩
    · exact hcwd hstage
    · have hgrows := (keeps_reconcile Requirement.standard _).of_outcome hrun
      have hchecking : PrintsTo mid (checking run.generator.settings mid) := rfl
      have hcwd' := (hchecking.growsAt fun _ => False).dir_workingDir (hcwd hstage)
      exact (hprints.growsAt fun _ => False).dir_workingDir (hgrows.dir_workingDir hcwd')
  · cases settles hready hspares with
    | stays hsame =>
      rw [hsame.octets]
      exact hready.readable
    | settles _ _ hfound => exact ⟨_, hfound⟩

/-- A settled manifest is left alone. -/
theorem untouched_of_settled (hready : Ready path run.start) (hspares : Spares path run)
    (hsettled : Settled Requirement.standard path run.start) :
    Untouched path run.start run.finish ∧ ¬ run.Rewrites path := by
  cases settles hready hspares with
  | stays hsame hwritten =>
    refine ⟨hsame, ?_⟩
    rintro (hrewrites | hrewrites)
    · exact hwritten hrewrites
    · exact hrewrites hsame.octets
  | settles hopen => exact absurd hsettled hopen

/-- After a run that completed the work on it the manifest is settled. -/
theorem settled_of_completes (hready : Ready path run.start) (hspares : Spares path run)
    (hcompletes : run.Completes) : Settled Requirement.standard path run.finish := by
  cases settles hready hspares with
  | stays hsame _ hcompleted => exact (hcompleted hcompletes).of_octets hsame.octets
  | settles _ hsettled => exact hsettled

end Run

/-! ## Many runs -/

/-- Time goes by between two runs: what the manifest holds stays, and the package manager is not
called. -/
structure Waits (path : Path) (s s' : Session) : Prop extends Untouched path s s' where
  workingDir : s'.tree.find? s'.workingDir = some .dir

/-- Runs one after the other in a project with this manifest, from one session to another. -/
inductive History (path : Path) : Session → List Run → Session → Prop where
  | done {s s' : Session} : Waits path s s' → History path s [] s'
  | next {run : Run} {runs : List Run} {s s' : Session} : Waits path s run.start →
      run.Spares path → History path run.finish runs s' → History path s (run :: runs) s'

namespace History

open Run

variable {path : Path} {s s' : Session} {run : Run} {runs before after : List Run}

theorem ready_of_waits (hready : Ready path s) (hwaits : Waits path s s') : Ready path s' := by
  refine ⟨hwaits.workingDir, ?_⟩
  rw [hwaits.octets]
  exact hready.readable

/-- A settled manifest stays through all runs. -/
theorem untouched_of_settled (h : History path s runs s') (hready : Ready path s)
    (hsettled : Settled Requirement.standard path s) :
    (∀ run ∈ runs, ¬ run.Rewrites path ∧ octets path run.finish = octets path s) ∧
      Untouched path s s' := by
  induction h with
  | done hwaits => exact ⟨fun _ hrun => absurd hrun List.not_mem_nil, hwaits.toUntouched⟩
  | @next run runs s s' hwaits hspares _ ih =>
    have hready' := ready_of_waits hready hwaits
    obtain ⟨hsame, hrewrites⟩ := Run.untouched_of_settled hready' hspares
      (hsettled.of_octets hwaits.octets)
    have hthrough := hwaits.toUntouched.trans hsame
    obtain ⟨hruns, hrest⟩ := ih (ready_finish hready' hspares)
      (hsettled.of_octets hthrough.octets)
    refine ⟨List.forall_mem_cons.2 ⟨⟨hrewrites, hthrough.octets⟩, fun later hlater => ?_⟩,
      hthrough.trans hrest⟩
    obtain ⟨hlater', hoctets⟩ := hruns later hlater
    exact ⟨hlater', hoctets.trans hthrough.octets⟩

/-- No two runs rewrite the manifest, and in all of them the package manager is called at most
once. -/
theorem rewrites_at_most_once (h : History path s runs s') (hready : Ready path s) :
    runs.Pairwise (fun run later => ¬ (run.Rewrites path ∧ later.Rewrites path)) ∧
      ∃ calls, s'.installCalls = s.installCalls ++ calls ∧ calls.length ≤ 1 := by
  induction h with
  | done hwaits =>
    refine ⟨.nil, [], ?_, Nat.zero_le 1⟩
    rw [hwaits.installCalls, List.append_nil]
  | @next run runs s s' hwaits hspares hrest ih =>
    have hready' := ready_of_waits hready hwaits
    have hready'' := ready_finish hready' hspares
    cases settles hready' hspares with
    | stays hsame hwritten =>
      -- this run does not rewrite the manifest
      obtain ⟨hpairs, calls, hcalls, hcount⟩ := ih hready''
      refine ⟨List.pairwise_cons.2 ⟨?_, hpairs⟩, calls, ?_, hcount⟩
      · rintro later - ⟨hrewrites | hrewrites, -⟩
        · exact hwritten hrewrites
        · exact hrewrites hsame.octets
      · rw [hcalls, hsame.installCalls, hwaits.installCalls]
    | @settles found calls _ hsettled _ hcalls hcount =>
      -- and after this one none does
      obtain ⟨hruns, huntouched⟩ := hrest.untouched_of_settled hready'' hsettled
      refine ⟨List.pairwise_cons.2 ⟨?_, ?_⟩, calls, ?_, hcount⟩
      · rintro later hlater ⟨-, hrewrites⟩
        exact (hruns later hlater).1 hrewrites
      · refine List.pairwise_of_forall_mem_list fun _ _ later hlater hboth => ?_
        exact (hruns later hlater).1 hboth.2
      · rw [huntouched.installCalls, hcalls, hwaits.installCalls]

/-- The manifest does not change after a run that completed the work on it. -/
theorem untouched_after_completes (h : History path s runs s') (hready : Ready path s)
    (hruns : runs = before ++ run :: after) (hcompletes : run.Completes) :
    (∀ later ∈ after, ¬ later.Rewrites path ∧ octets path later.finish = octets path run.finish) ∧
      octets path s' = octets path run.finish := by
  induction h generalizing before with
  | done hwaits => cases before <;> cases hruns
  | @next first runs s s' hwaits hspares hrest ih =>
    have hready' := ready_of_waits hready hwaits
    have hready'' := ready_finish hready' hspares
    cases before with
    | nil =>
      cases hruns
      obtain ⟨hlater, huntouched⟩ :=
        hrest.untouched_of_settled hready'' (settled_of_completes hready' hspares hcompletes)
      exact ⟨hlater, huntouched.octets⟩
    | cons b before =>
      cases hruns
      exact ih hready'' rfl

/-- What runs one after the other come to for a manifest. -/
structure SettlesOnce (path : Path) (s : Session) (runs : List Run) (s' : Session) : Prop where
  /-- no two of the runs rewrite the manifest -/
  rewrites : runs.Pairwise fun run later => ¬ (run.Rewrites path ∧ later.Rewrites path)
  /-- the package manager is called at most once -/
  calls : ∃ calls, s'.installCalls = s.installCalls ++ calls ∧ calls.length ≤ 1
  /-- after a run that completed the work on the manifest nothing changes it -/
  completed : ∀ before run after, runs = before ++ run :: after → run.Completes →
    (∀ later ∈ after,
      ¬ later.Rewrites path ∧ octets path later.finish = octets path run.finish) ∧
    octets path s' = octets path run.finish

/-- However many runs there are, and whatever each of them comes to, the manifest settles once. -/
theorem settles_once {found : Utf8.Octets} (hcwd : s.tree.find? s.workingDir = some .dir)
    (hmanifest : octets path s = .ok found) (h : History path s runs s') :
    SettlesOnce path s runs s' := by
  have hready : Ready path s := ⟨hcwd, found, hmanifest⟩
  obtain ⟨hpairs, hcalls⟩ := h.rewrites_at_most_once hready
  refine ⟨hpairs, hcalls, fun before run after hruns hcompletes => ?_⟩
  exact h.untouched_after_completes hready hruns hcompletes

open Generator

/-- The sample project with a manifest that declares nothing. -/
def bareProject : Session :=
  { sampleSession with
    tree := ⟨(sampleManifestPath.segments, .file (Utf8.encodeChars bareManifest.toList))
      :: sampleSession.tree.entries⟩ }

/-- The settings of the sample project, with the package manager called. -/
def installingSettings : Settings := { sampleSettings with install := true }

/-- A run for the sample component, where saving the manifest and calling the package manager will
come to this. -/
def sampleRun (s : Session) (writeFault : Option FileFault) (install : InstallOutcome) : Run :=
  ⟨.new installingSettings, .state, some sampleConfig, { s with writeFault, install }⟩

/-- The sample component is not written over the manifest. -/
theorem spares_sampleRun (s : Session) (writeFault : Option FileFault) (install : InstallOutcome) :
    (sampleRun s writeFault install).Spares sampleManifestPath := by
  have hpath : installingSettings.manifestPath = sampleManifestPath := by decide +kernel
  exact ⟨hpath, fun q hq => not_samePlace_sampleManifestPath hq _⟩

theorem waits_sampleRun (hready : Ready path s) (writeFault : Option FileFault)
    (install : InstallOutcome) : Waits path s (sampleRun s writeFault install).start :=
  ⟨⟨rfl, rfl⟩, hready.workingDir⟩

theorem ready_sampleRun (hready : Ready sampleManifestPath s) (writeFault : Option FileFault)
    (install : InstallOutcome) : Ready sampleManifestPath (sampleRun s writeFault install).finish :=
  ready_finish (ready_of_waits hready (waits_sampleRun hready writeFault install))
    (spares_sampleRun s writeFault install)

/-- First the manifest cannot be saved, then the package manager fails, then nothing does. -/
theorem settles_once_bareProject :
    bareProject.tree.find? bareProject.workingDir = some .dir ∧
      octets sampleManifestPath bareProject = .ok (Utf8.encodeChars bareManifest.toList) ∧
      ∃ first second third s',
        first = sampleRun bareProject (some ⟨.other 28 "No space left on device", none⟩)
          (.exited 0) ∧
        second = sampleRun first.finish none (.exited 1) ∧
        third = sampleRun second.finish none (.exited 0) ∧
        History sampleManifestPath bareProject [first, second, third] s' ∧
        SettlesOnce sampleManifestPath bareProject [first, second, third] s' := by
  have hcwd : bareProject.tree.find? bareProject.workingDir = some .dir := by decide
  have hmanifest : octets sampleManifestPath bareProject
      = .ok (Utf8.encodeChars bareManifest.toList) := by decide +kernel
  have hready : Ready sampleManifestPath bareProject := ⟨hcwd, _, hmanifest⟩
  obtain ⟨first, hfirst⟩ : ∃ run, run
      = sampleRun bareProject (some ⟨.other 28 "No space left on device", none⟩) (.exited 0) :=
    ⟨_, rfl⟩
  obtain ⟨second, hsecond⟩ : ∃ run, run = sampleRun first.finish none (.exited 1) := ⟨_, rfl⟩
  obtain ⟨third, hthird⟩ : ∃ run, run = sampleRun second.finish none (.exited 0) := ⟨_, rfl⟩
  have hready₁ : Ready sampleManifestPath first.finish := hfirst ▸ ready_sampleRun hready _ _
  have hready₂ : Ready sampleManifestPath second.finish := hsecond ▸ ready_sampleRun hready₁ _ _
  have hready₃ : Ready sampleManifestPath third.finish := hthird ▸ ready_sampleRun hready₂ _ _
  have hhistory : History sampleManifestPath bareProject [first, second, third] third.finish := by
    refine .next (hfirst ▸ waits_sampleRun hready _ _) (hfirst ▸ spares_sampleRun _ _ _) ?_
    refine .next (hsecond ▸ waits_sampleRun hready₁ _ _) (hsecond ▸ spares_sampleRun _ _ _) ?_
    refine .next (hthird ▸ waits_sampleRun hready₂ _ _) (hthird ▸ spares_sampleRun _ _ _) ?_
    exact .done ⟨⟨rfl, rfl⟩, hready₃.workingDir⟩
  exact ⟨hcwd, hmanifest, first, second, third, third.finish, hfirst, hsecond, hthird, hhistory,
    settles_once hcwd hmanifest hhistory⟩

end History

end DashboardKit
