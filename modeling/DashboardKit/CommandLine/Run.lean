import DashboardKit.CommandLine.Help
import DashboardKit.CommandLine.Options
import DashboardKit.Failure.Cause
import DashboardKit.Generation.Generator
import DashboardKit.Generation.Guide
import DashboardKit.Prompt

/-!
# The command line: running

A run makes settings of the environment and the options, asks for what the options leave open,
generates a component and prints the guide for it.  It ends with a status: 0 if all went well, 130
if the user broke off a question, and else 1.
-/

set_option autoImplicit false

namespace DashboardKit.CommandLine

/-- Prints the kinds of component. -/
def printKinds : Action Unit :=
  Action.printTable "Component types" ["Type", "Description", "Artifacts"]
    (ComponentKind.all.map fun kind =>
      [Text.ofString kind.name, Text.ofString kind.description,
        Text.join ", " (kind.artifacts.map fun key => Text.ofString key.name)])

/-- The fields of settings that options give. -/
def settingFields (o : Options) (projectRoot : Option Path) : Entries :=
  (projectRoot.toList.map fun p => (Atom.text "project_root", Value.text p.text))
    ++ (o.templatesDir.toList.map fun p => (Atom.text "templates_dir", Value.text p.text))
    ++ (if o.noInstall then [(Atom.text "install", Value.bool false)] else [])

/-- The settings of a run. -/
def settings (o : Options) : Action Settings := do
  let projectRoot ← o.projectRoot.mapM Action.resolve
  let s ← get
  Action.ofExcept (.invalid "Settings")
    (Settings.ofEnvironment s.surroundings s.envVar (settingFields o projectRoot))

/-- The kind of component and the config file of a run. -/
def selection (o : Options) : Action (ComponentKind × Option Path) := do
  match o.kind with
  | none => Prompt.selection
  | some kind =>
    if kind.needsConfig && o.config.isNone then return (kind, some (← Prompt.configPath))
    return (kind, o.config)

/-- Generates a component with settings. -/
def generate (s : Settings) (kind : ComponentKind) (config : Option Path) : Action Report :=
  ExceptT.mk fun session =>
    let (result, _, session) :=
      (Generator.generateFromFile kind config).outcome (Generator.new s) session
    (result, session)

/-- Generates what options ask for and prints the guide for it. -/
def generateAsked (o : Options) : Action Report := do
  let s ← settings o
  let (kind, config) ← selection o
  let report ← generate s kind config
  (Guide.new s.layout (some s.projectRoot) s.installCommand).print report
  return report

/-- Tells a failure that ended a run; gives the status of the run. -/
def tell (f : Failure) : Action Nat := do
  if f = .interrupted then
    Action.printError "\nAborted."
    return 130
  Action.printError (("\nError: " : Text) ++ f.message)
  if f.isExpected then
    if let some cause := f.cause then Action.print (("  caused by: " : Text) ++ cause)
  else Action.emit .traceback
  return 1

/-- The status of a run that gave a report. -/
def conclude (strict : Bool) (r : Report) : Action Nat := do
  if strict && !r.succeeded then
    Action.printError "Nothing was written and --strict is set."
    return 1
  return 0

/-- Greets the user. -/
def welcome : Action Unit :=
  Action.printMarkup
    "\n[bold blue]🚀 Welcome to Microlab! Let's create a new component.[/bold blue]\n"

/-- Does what options ask for; gives the status of the run. -/
def run (o : Options) : Action Nat := do
  if o.listKinds then
    printKinds
    return 0
  welcome
  let result : Except Failure Report ←
    tryCatch (do return .ok (← generateAsked o)) fun f => return .error f
  match result with
  | .error f => tell f
  | .ok report => conclude o.strict report

end DashboardKit.CommandLine
