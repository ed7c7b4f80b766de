import DashboardKit.Proofs.Generation.Sequence
import DashboardKit.Proofs.Manifest.Frame

/-!
# The two stages of a run

First the artifacts are made, without a look at the packages; then the packages are brought in line,
which leaves alone what is told about the artifacts.

Main statements: `outcome_run`, `artifactStage_eq_ok` and `keeps_packageStage`.
-/

set_option autoImplicit false

namespace DashboardKit.Generator

open Session

variable {st : Settings} {kind : ComponentKind} {config : Option ComponentConfig}
  {s s' : Session} {m m' : Reconciler} {r r' : Report} {p : Progress}

/-- The name that a component is given: that of its config, or that of every layout container. -/
def givenName (config : Option ComponentConfig) : Text :=
  (config.map (·.name)).getD Layout.containerName

/-- The name that a component goes by: that of its config, or that of every layout container. -/
def componentName (kind : ComponentKind) (config : Option ComponentConfig) : Text :=
  Layout.effectiveName kind ((config.map (·.name)).getD Layout.containerName)

/-- The stage of a run in which the artifacts are made. -/
def artifactStage (st : Settings) (kind : ComponentKind) (config : Option ComponentConfig) :
    Action Progress := do
  let context ← Action.ofExcept .ofContext (Context.build kind config)
  Action.printHeader
    (("Generating " : Text) ++ Text.ofString kind.name ++ (" component" : Text))
  makeAll st kind (componentName kind config) context

/-- The report on artifacts before the packages were looked at. -/
def artifactReport (kind : ComponentKind) (config : Option ComponentConfig) (p : Progress) :
    Report :=
  { Report.start kind (componentName kind config) with
    written := p.written, skipped := p.skipped, warnings := p.warnings }

/-- The stage of a run in which the packages are brought in line. -/
def packageStage (st : Settings) (kind : ComponentKind) (config : Option ComponentConfig)
    (p : Progress) : ActionOf Reconciler Report := do
  let r ← reconcileInto st (artifactReport kind config p)
  if r.succeeded then return r
  let warnings ← ActionOf.lift (warn "No files were generated" r.warnings)
  return { r with warnings }

/-- A run is its two stages one after the other. -/
theorem outcome_run (st : Settings) (kind : ComponentKind) (config : Option ComponentConfig)
    (m : Reconciler) (s : Session) :
    (run st kind config).outcome m s =
      match (artifactStage st kind config).outcome s with
      | (.ok p, mid) => (packageStage st kind config p).outcome m mid
      | (.error f, mid) => (.error f, m, mid) := by
  unfold run artifactStage
  rw [ActionOf.outcome_bind, ActionOf.outcome_lift, Action.outcome_bind]
  rcases (Action.ofExcept Failure.ofContext (Context.build kind config)).outcome s with
    ⟨f | context, s₁⟩
  · rfl
  · simp only
    rw [ActionOf.outcome_bind, ActionOf.outcome_lift]
    unfold packageStage artifactReport componentName
    generalize Action.outcome _ s₁ = x
    rcases x with ⟨f | p, mid⟩ <;> rfl

theorem run_eq_ok_iff : (run st kind config).outcome m s = (.ok r, m', s') ↔
    ∃ p mid, (artifactStage st kind config).outcome s = (.ok p, mid) ∧
      (packageStage st kind config p).outcome m mid = (.ok r, m', s') := by
  rw [outcome_run]
  rcases (artifactStage st kind config).outcome s with ⟨f | p, mid⟩
  · simp
  · simp

/-- Generating a component is a run with the reconciler that is kept. -/
theorem outcome_generate {g : Generator} {result : Except Failure Report}
    (hrun : (run g.settings kind config).outcome g.reconciler s = (result, m', s')) :
    (generate kind config).outcome g s = (result, { g with reconciler := m' }, s') := by
  simp only [generate, ActionOf.outcome, ExceptT.run, ExceptT.mk, StateT.run] at hrun ⊢
  rw [hrun]

theorem generate_eq_ok_iff {g g' : Generator} :
    (generate kind config).outcome g s = (.ok r, g', s') ↔
      ∃ m', (run g.settings kind config).outcome g.reconciler s = (.ok r, m', s') ∧
        g' = { g with reconciler := m' } := by
  rcases hrun : (run g.settings kind config).outcome g.reconciler s with ⟨result, m₁, s₁⟩
  rw [outcome_generate hrun]
  simp only [Prod.mk.injEq]
  constructor
  · rintro ⟨rfl, rfl, rfl⟩
    exact ⟨m₁, ⟨rfl, rfl, rfl⟩, rfl⟩
  · rintro ⟨m', ⟨rfl, rfl, rfl⟩, rfl⟩
    exact ⟨rfl, rfl, rfl⟩

/-! ## Artifacts -/

theorem keeps_warn (message : Text) (warnings : List Text) :
    (warn message warnings).Keeps PrintsTo :=
  (Action.keeps_printWarning message).bind fun _ => Action.keeps_pure _

/-- Making the artifacts prints, and then makes them in order. -/
theorem artifactStage_eq_ok (h : (artifactStage st kind config).outcome s = (.ok p, s')) :
    ∃ context start, Context.build kind config = .ok context ∧ PrintsTo s start ∧
      Made st kind (componentName kind config) context kind.artifacts start p.written p.skipped
        s' := by
  unfold artifactStage at h
  obtain ⟨context, _, hbuild, hrest⟩ := Action.outcome_bind_eq_ok.1 h
  obtain ⟨hcontext, rfl⟩ := Action.outcome_ofExcept_eq_ok.1 hbuild
  obtain ⟨_, start, hheader, hall⟩ := Action.outcome_bind_eq_ok.1 hrest
  obtain ⟨written, skipped, hmade, hwritten, hskipped⟩ :=
    foldlM_make_eq_ok (ComponentKind.nodup_artifacts kind) (fun _ _ => List.not_mem_nil) hall
  rw [List.nil_append] at hwritten hskipped
  rw [← hwritten, ← hskipped] at hmade
  exact ⟨context, start, hcontext, (Action.keeps_printHeader _).of_outcome hheader, hmade⟩

/-- Making an artifact keeps what printing keeps and what writing it keeps, whatever comes of it. -/
theorem keeps_make {R : Session → Session → Prop} [IsPreorder Session R] {key : ArtifactKey}
    {name : Text} (hprints : ∀ s s', PrintsTo s s' → R s s')
    (hwrites : ∀ a : Artifact, st.layout.place kind key name = .ok a.path →
      (a.write st.projectRoot true).Keeps R) (context : Entries) (p : Progress) :
    (make st kind name context p key).Keeps R := by
  have htemplate : (template st kind key).Keeps R := by
    intro s
    rw [outcome_template]
    exact refl_of R s
  refine htemplate.bind fun found => ?_
  cases found with
  | error f =>
    refine Action.Keeps.bind ?_ fun _ => Action.keeps_pure _
    exact (keeps_warn _ _).mono hprints
  | ok t =>
    refine Action.keeps_ofExcept_bind fun a hartifact => ?_
    exact (hwrites a (artifact_eq_ok hartifact).2.1).bind fun _ => Action.keeps_pure _

/-- So does making all artifacts. -/
theorem keeps_artifactStage {R : Session → Session → Prop} [IsPreorder Session R]
    (hprints : ∀ s s', PrintsTo s s' → R s s')
    (hwrites : ∀ key ∈ kind.artifacts, ∀ a : Artifact,
      st.layout.place kind key (componentName kind config) = .ok a.path →
        (a.write st.projectRoot true).Keeps R) :
    (artifactStage st kind config).Keeps R := by
  unfold artifactStage
  refine (Action.keeps_ofExcept _ _).bind fun context => ?_
  refine ((Action.keeps_printHeader _).mono hprints).bind fun _ => ?_
  exact Action.keeps_foldlM fun p key hkey => keeps_make hprints (hwrites key hkey) context p

/-- A path that an artifact of a component goes to. -/
def Destined (st : Settings) (kind : ComponentKind) (config : Option ComponentConfig) (q : Path) :
    Prop :=
  ∃ key ∈ kind.artifacts, ∃ place,
    st.layout.place kind key (componentName kind config) = .ok place ∧
      q = st.projectRoot.joinParts place.parts

theorem keeps_artifactStage_growsAt :
    (artifactStage st kind config).Keeps (GrowsAt (Destined st kind config)) := by
  refine keeps_artifactStage (fun _ _ h => h.growsAt _) fun key hkey a hplace => ?_
  refine (Artifact.keeps_write _ true a).mono fun _ _ h => h.mono ?_
  rintro q rfl
  exact ⟨key, hkey, a.path, hplace, rfl⟩

theorem keeps_artifactStage_writesTo : (artifactStage st kind config).Keeps WritesTo :=
  keeps_artifactStage (fun _ _ h => h.writesTo)
    fun _ _ a _ => Artifact.keeps_write_writesTo _ true a

/-! ## Packages -/

/-- Bringing packages in line changes the manifest and no other file. -/
theorem keeps_reconcileInto (st : Settings) (r : Report) :
    (reconcileInto st r).Keeps (GrowsAt (· = st.manifestPath)) := by
  have hprints {α : Type} {a : Action α} (h : a.Keeps PrintsTo) :
      a.Keeps (GrowsAt (· = st.manifestPath)) := h.mono fun s s' hs => hs.growsAt _
  unfold reconcileInto
  refine (ActionOf.keeps_lift (hprints (Action.keeps_print _))).bind fun _ => ?_
  refine ActionOf.Keeps.bind ?_ fun result => ?_
  · refine ActionOf.Keeps.tryCatch ?_ fun f => ?_
    · exact (Reconciler.keeps_reconcile _ _).bind fun _ => ActionOf.keeps_pure _
    split
    · exact ActionOf.keeps_pure _
    · exact ActionOf.keeps_throw _
  · split
    · refine ActionOf.keeps_lift (hprints ?_)
      exact (keeps_warn _ _).bind fun _ => (keeps_warn _ _).bind fun _ => Action.keeps_pure _
    · refine ActionOf.keeps_memory.bind fun reconciler => ?_
      split <;> exact ActionOf.keeps_pure _

/-- What is told about artifacts stays. -/
theorem reconcileInto_eq_ok (h : (reconcileInto st r).outcome m s = (.ok r', m', s')) :
    r'.kind = r.kind ∧ r'.name = r.name ∧ r'.written = r.written ∧ r'.skipped = r.skipped := by
  unfold reconcileInto at h
  obtain ⟨_, _, _, -, h⟩ := ActionOf.outcome_bind_eq_ok.1 h
  obtain ⟨result, _, _, -, h⟩ := ActionOf.outcome_bind_eq_ok.1 h
  cases result with
  | error reason =>
    obtain ⟨h, -⟩ := ActionOf.outcome_lift_eq_ok.1 h
    obtain ⟨_, _, -, h⟩ := Action.outcome_bind_eq_ok.1 h
    obtain ⟨_, _, -, h⟩ := Action.outcome_bind_eq_ok.1 h
    obtain ⟨rfl, -⟩ := Action.outcome_pure_eq_ok.1 h
    exact ⟨rfl, rfl, rfl, rfl⟩
  | ok changed =>
    obtain ⟨reconciler, _, _, -, h⟩ := ActionOf.outcome_bind_eq_ok.1 h
    split at h <;> (cases h; exact ⟨rfl, rfl, rfl, rfl⟩)

/-- What is told about artifacts stays until the end of the run. -/
theorem packageStage_eq_ok (h : (packageStage st kind config p).outcome m s = (.ok r, m', s')) :
    r.name = componentName kind config ∧ r.written = p.written ∧ r.skipped = p.skipped := by
  unfold packageStage at h
  obtain ⟨r₁, _, s₁, hreconcile, hrest⟩ := ActionOf.outcome_bind_eq_ok.1 h
  obtain ⟨-, hname, hwritten, hskipped⟩ := reconcileInto_eq_ok hreconcile
  split at hrest
  · cases hrest
    exact ⟨hname, hwritten, hskipped⟩
  · obtain ⟨warnings, _, s₂, -, hpure⟩ := ActionOf.outcome_bind_eq_ok.1 hrest
    cases hpure
    exact ⟨hname, hwritten, hskipped⟩

/-- The second stage changes the manifest and no other file. -/
theorem keeps_packageStage (st : Settings) (kind : ComponentKind)
    (config : Option ComponentConfig) (p : Progress) :
    (packageStage st kind config p).Keeps (GrowsAt (· = st.manifestPath)) := by
  unfold packageStage
  refine (keeps_reconcileInto st _).bind fun r => ?_
  split
  · exact ActionOf.keeps_pure _
  · refine (ActionOf.keeps_lift ?_).bind fun _ => ActionOf.keeps_pure _
    exact (keeps_warn _ _).mono fun s s' hs => hs.growsAt _

end DashboardKit.Generator
