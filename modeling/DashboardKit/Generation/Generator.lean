import DashboardKit.Component.Loader
import DashboardKit.Generation.Report
import DashboardKit.Manifest.Reconciler
import DashboardKit.Template.Store

/-!
# Generating components

The artifacts of a component are made one after the other: a template is read, rendered with the
values of the config, and written before the next one is looked at.  A template that cannot be read
is skipped with a warning; an artifact that cannot be written ends the run.  Last the packages of
the project are brought in line, which never ends the run.
-/

set_option autoImplicit false

namespace DashboardKit

/-- What generates components, with the reconciler that it keeps. -/
structure Generator where
  settings : Settings
  reconciler : Reconciler
  deriving DecidableEq, Repr

namespace Generator

/-- A generator for settings. -/
def new (s : Settings) : Generator := ⟨s, .ofSettings s⟩

/-- The artifacts that were written so far, those that were skipped, and the warnings. -/
structure Progress where
  written : Written
  skipped : List Text
  warnings : List Text
  deriving DecidableEq, Repr

/-- Prints a warning; it is noted without the blanks around it. -/
def warn (message : Text) (warnings : List Text) : Action (List Text) := do
  Action.printWarning message
  return warnings ++ [Text.trim CodePoint.isBlank message]

/-- The text of the template of an artifact, or the failure if it cannot be read. -/
def template (s : Settings) (kind : ComponentKind) (key : ArtifactKey) :
    Action (Except Failure Text) :=
  tryCatch (do return .ok (← (TemplateStore.ofSettings s).load (kind.templateId key))) fun f =>
    match f with
    | .template _ _ _ => return .error f
    | f => throw f

/-- An artifact made from the text of its template. -/
def artifact (s : Settings) (kind : ComponentKind) (key : ArtifactKey) (name : Text)
    (context : Entries) (t : Text) : Except Failure Artifact := do
  let path ← (s.layout.place kind key name).mapError .layout
  let content ← (TemplateStore.ofSettings s).render t context
  return ⟨Text.ofString key.name, path, content⟩

/-- Makes one artifact. -/
def make (s : Settings) (kind : ComponentKind) (name : Text) (context : Entries)
    (p : Progress) (key : ArtifactKey) : Action Progress := do
  match ← template s kind key with
  | .error f =>
    let name := Text.ofString key.name
    let warnings ←
      warn (("⚠️  Skipping " : Text) ++ name ++ (": " : Text) ++ f.message) p.warnings
    return { p with skipped := p.skipped ++ [name], warnings }
  | .ok t =>
    let a ← Action.ofExcept (fun f => f) (artifact s kind key name context t)
    let path ← a.write s.projectRoot true
    return { p with written := Written.note a.key path p.written }

/-- Makes the artifacts of a component in order. -/
def makeAll (s : Settings) (kind : ComponentKind) (name : Text) (context : Entries) :
    Action Progress :=
  kind.artifacts.foldlM (make s kind name context) ⟨[], [], []⟩

/-- Brings the packages of the project in line; what goes wrong is noted in the report. -/
def reconcileInto (s : Settings) (r : Report) : ActionOf Reconciler Report := do
  let path := s.manifestPath
  ActionOf.lift (Action.print
    (("\nChecking dependencies in " : Text) ++ path.display s.projectRoot))
  let result : Except DependencyReason Bool ←
    tryCatch (do return .ok (← Reconciler.reconcile Requirement.standard path)) fun f =>
      match f with
      | .dependency reason => return .error reason
      | f => throw f
  match result with
  | .error reason =>
    ActionOf.lift do
      let warnings ←
        warn (("⚠️  Failed to install dependencies: " : Text) ++ reason.message) r.warnings
      let warnings ← warn "   You may need to install dependencies manually" warnings
      return { r with dependencyError := some reason.message, warnings }
  | .ok changed =>
    let r := { r with dependenciesChanged := changed }
    match (← ActionOf.memory).installError with
    | none => return r
    | some message =>
      return {
        r with
        dependencyError := some message
        warnings :=
          r.warnings ++ [("Failed to install dependencies: " : Text) ++ message] }

/-- Generates a component with a reconciler that is kept. -/
def run (s : Settings) (kind : ComponentKind) (config : Option ComponentConfig) :
    ActionOf Reconciler Report := do
  let context ← ActionOf.lift (Action.ofExcept .ofContext (Context.build kind config))
  let name := Layout.effectiveName kind ((config.map (·.name)).getD Layout.containerName)
  let p ← ActionOf.lift do
    Action.printHeader
      (("Generating " : Text) ++ Text.ofString kind.name ++ (" component" : Text))
    makeAll s kind name context
  let r ← reconcileInto s
    { Report.start kind name with
      written := p.written, skipped := p.skipped, warnings := p.warnings }
  if r.succeeded then return r
  let warnings ← ActionOf.lift (warn "No files were generated" r.warnings)
  return { r with warnings }

/-- Generates a component. -/
def generate (kind : ComponentKind) (config : Option ComponentConfig) :
    ActionOf Generator Report :=
  ExceptT.mk fun g session =>
    let (result, reconciler, session) := (run g.settings kind config).outcome g.reconciler session
    ((result, { g with reconciler }), session)

/-- Generates a component from the config file at a path; a layout container needs none. -/
def generateFromFile (kind : ComponentKind) (path : Option Path) : ActionOf Generator Report := do
  if kind.needsConfig then
    match path with
    | none => throw (.configMissingField "componentName" none)
    | some path => generate kind (some (← ActionOf.lift (ConfigFile.load path true)))
  else generate kind none

/-- Where the artifacts of a component would be written. -/
def plan (g : Generator) (kind : ComponentKind) (name : Text) :
    Except LayoutFault (List (Text × Path)) :=
  kind.artifacts.mapM fun key => do
    let path ← g.settings.layout.place kind key name
    return (Text.ofString key.name, g.settings.projectRoot.joinParts path.parts)

end Generator

end DashboardKit
