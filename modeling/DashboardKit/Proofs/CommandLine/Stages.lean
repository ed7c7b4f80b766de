import DashboardKit.CommandLine.Run
import DashboardKit.Proofs.Generation.Failing
import DashboardKit.Proofs.Session.Asking

/-!
# The two stages of a command

What a command asks for is prepared first: the settings, the kind, the config and the values for
the templates.  Then it is produced, beginning with a look at the first template.  Preparing takes
answers and shows something, and does nothing else; producing never fails with the input of the
user.

Main statements: `generateAsked_eq`, `keeps_preparation` and `failsWith_production`.
-/

set_option autoImplicit false

namespace DashboardKit

open Session

variable {σ α β : Type}

/-! ## Forgetting -/

namespace ActionOf

/-- The action with this memory at the start, which is forgotten in the end. -/
def startedWith (m : σ) (a : ActionOf σ α) : Action α :=
  ExceptT.mk fun s => ((a.outcome m s).1, (a.outcome m s).2.2)

theorem outcome_startedWith (m : σ) (a : ActionOf σ α) (s : Session) :
    (a.startedWith m).outcome s = ((a.outcome m s).1, (a.outcome m s).2.2) := rfl

/-- What is lifted needs no memory. -/
theorem startedWith_lift_bind (m : σ) (a : Action β) (f : β → ActionOf σ α) :
    (lift a >>= f).startedWith m = a >>= fun x => (f x).startedWith m := by
  refine Action.eq_of_outcome fun s => ?_
  rw [outcome_startedWith, outcome_bind, outcome_lift, Action.outcome_bind]
  rcases a.outcome s with ⟨e | x, mid⟩
  · rfl
  · exact (outcome_startedWith m (f x) mid).symm

theorem FailsWith.startedWith {P : Failure → Prop} {a : ActionOf σ α} (h : a.FailsWith P) (m : σ) :
    (a.startedWith m).FailsWith P := by
  intro s f s' hrun
  rcases hfirst : a.outcome m s with ⟨r, m', s₁⟩
  rw [outcome_startedWith, hfirst] at hrun
  cases hrun
  exact h m s f m' s₁ hfirst

end ActionOf

namespace Generator

/-- Generating with a reconciler that is kept and then forgotten is a run with that reconciler. -/
theorem startedWith_generate (g : Generator) (kind : ComponentKind)
    (config : Option ComponentConfig) :
    (generate kind config).startedWith g
      = (run g.settings kind config).startedWith g.reconciler := by
  refine Action.eq_of_outcome fun s => ?_
  rcases hrun : (run g.settings kind config).outcome g.reconciler s with ⟨result, m', s'⟩
  rw [ActionOf.outcome_startedWith, ActionOf.outcome_startedWith, outcome_generate hrun, hrun]

/-- A run prints a heading once the values for the templates are there, makes the artifacts, and
brings the packages in line. -/
theorem startedWith_run (st : Settings) (kind : ComponentKind) (config : Option ComponentConfig)
    (m : Reconciler) :
    (run st kind config).startedWith m = (do
      let context ← Action.ofExcept Failure.ofContext (Context.build kind config)
      Action.printHeader
        (("Generating " : Text) ++ Text.ofString kind.name ++ (" component" : Text))
      let made ← makeAll st kind (componentName kind config) context
      (packageStage st kind config made).startedWith m) := by
  unfold run
  rw [ActionOf.startedWith_lift_bind]
  refine bind_congr fun context => ?_
  rw [ActionOf.startedWith_lift_bind, bind_assoc]
  rfl

end Generator

namespace CommandLine

open DashboardKit.Action

/-! ## Commands -/

/-- The config that a component is generated from; a layout container needs none. -/
def givenConfig (kind : ComponentKind) (path : Option Path) : Action (Option ComponentConfig) :=
  if kind.needsConfig then
    match path with
    | none => throw (.configMissingField "componentName" none)
    | some path => do return some (← ConfigFile.load path true)
  else pure none

/-- What a command knows before it looks at the first template. -/
structure Prepared where
  settings : Settings
  kind : ComponentKind
  config : Option ComponentConfig
  /-- the values that templates are rendered with -/
  context : Entries

/-- What a command does before it looks at the first template. -/
def preparation (o : Options) : Action Prepared := do
  let settings ← settings o
  let (kind, path) ← selection o
  let config ← givenConfig kind path
  let context ← Action.ofExcept .ofContext (Context.build kind config)
  Action.printHeader
    (("Generating " : Text) ++ Text.ofString kind.name ++ (" component" : Text))
  return { settings, kind, config, context }

/-- What a command does from the first template on. -/
def production (p : Prepared) : Action Report := do
  let made ← Generator.makeAll p.settings p.kind (Generator.componentName p.kind p.config) p.context
  let report ← (Generator.packageStage p.settings p.kind p.config made).startedWith
    (.ofSettings p.settings)
  (Guide.new p.settings.layout (some p.settings.projectRoot) p.settings.installCommand).print report
  return report

/-- Generating a component reads its config before anything else. -/
theorem generate_eq (st : Settings) (kind : ComponentKind) (path : Option Path) :
    generate st kind path
      = givenConfig kind path >>= fun config =>
          (Generator.run st kind config).startedWith (.ofSettings st) := by
  have hgenerate (config : Option ComponentConfig) :=
    Generator.startedWith_generate (.new st) kind config
  change (Generator.generateFromFile kind path).startedWith (.new st) = _
  unfold Generator.generateFromFile givenConfig
  split
  · cases path with
    | none => rfl
    | some path =>
      rw [ActionOf.startedWith_lift_bind, bind_assoc]
      refine bind_congr fun config => ?_
      rw [pure_bind]
      exact hgenerate (some config)
  · rw [pure_bind]
    exact hgenerate none

/-- A command is its two stages one after the other. -/
theorem generateAsked_eq (o : Options) : generateAsked o = preparation o >>= production := by
  unfold generateAsked preparation production
  simp only [generate_eq, Generator.startedWith_run, bind_assoc, pure_bind]

theorem keeps_settings (o : Options) : (settings o).Keeps Eq := by
  unfold settings
  refine Keeps.bind ?_ fun root => keeps_get.bind fun s => keeps_ofExcept _ _
  cases o.projectRoot with
  | none => exact keeps_pure none
  | some root => exact (keeps_resolve root).bind fun _ => keeps_pure _

theorem keeps_selection (o : Options) : (selection o).Keeps AsksTo := by
  unfold selection
  split
  · exact Prompt.keeps_selection
  · split
    · exact Prompt.keeps_configPath.bind fun _ => keeps_pure _
    · exact keeps_pure _

theorem keeps_givenConfig (kind : ComponentKind) (path : Option Path) :
    (givenConfig kind path).Keeps PrintsTo := by
  unfold givenConfig
  split
  · cases path with
    | none => exact keeps_throw _
    | some path => exact (ConfigFile.keeps_load path true).bind fun _ => keeps_pure _
  · exact keeps_pure none

/-- Preparing takes answers and shows something, and does nothing else. -/
theorem keeps_preparation (o : Options) : (preparation o).Keeps AsksTo := by
  refine (keeps_settings o).of_eq.bind fun st => (keeps_selection o).bind fun choice => ?_
  refine (keeps_givenConfig _ _).asksTo.bind fun config => (keeps_ofExcept _ _).bind fun _ => ?_
  exact (keeps_printHeader _).asksTo.bind fun _ => keeps_pure _

theorem failsWith_guide (g : Guide) (r : Report) : (g.print r).FailsWith Failure.OfWork := by
  unfold Guide.print
  refine (failsWith_printMarkup _).bind fun _ => (failsWith_printSummary _ _).bind fun _ => ?_
  split
  · refine (failsWith_ofExcept (fun _ => ⟨nofun, rfl⟩) _).bind fun t => ?_
    exact failsWith_modify _
  · exact failsWith_pure _

/-- Producing never fails with the input of the user. -/
theorem failsWith_production (p : Prepared) : (production p).FailsWith Failure.NoInput := by
  refine Generator.failsWith_makeAll.bind fun made => ?_
  refine FailsWith.bind (FailsWith.mono ?_ fun _ => Failure.OfWork.noInput) fun report => ?_
  · exact (Generator.failsWith_packageStage _ _ _ made).startedWith _
  · refine FailsWith.bind ?_ fun _ => failsWith_pure _
    exact (failsWith_guide _ report).mono fun _ => Failure.OfWork.noInput

end CommandLine

end DashboardKit
