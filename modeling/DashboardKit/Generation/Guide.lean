import DashboardKit.Generation.Report
import DashboardKit.Session

/-!
# The guide

After a run the user is told what was written and what is left to do: set the variables that the
data routes read, import the component, and install packages where that failed.
-/

set_option autoImplicit false

namespace DashboardKit

/-- What the guide of a run is made with. -/
structure Guide where
  layout : Layout
  /-- the directory from which paths are shown, if there is one -/
  projectRoot : Option Path
  installCommand : List Text
  deriving DecidableEq, Repr

namespace Guide

/-- A guide.  An empty command stands for the standard one. -/
def new (layout : Layout) (projectRoot : Option Path) (installCommand : List Text) : Guide where
  layout := layout
  projectRoot := projectRoot
  installCommand :=
    if installCommand.isEmpty then Settings.standardInstallCommand else installCommand

/-- The variables that data routes read, with examples. -/
def routeVariables : List (Text × Text) := [
  ("MQTT_HOST", "your_mqtt_broker_host"),
  ("MQTT_USERNAME", "your_mqtt_username"),
  ("MQTT_PASSWORD", "your_mqtt_password"),
  ("MONGODB_URI", "your_mongodb_connection_string")]

/-- The number and heading of a step. -/
def step (n : Nat) (heading : Text) : Text :=
  Text.ofInt n ++ (". " : Text) ++ heading

/-- The lines about variables of the environment. -/
def variableLines (n : Nat) : List Text :=
  step n "Make sure your .env file has the required environment variables:"
    :: routeVariables.map fun (name, example_) =>
      ("   " : Text) ++ name ++ ("=" : Text) ++ example_

/-- The lines about using the component. -/
def usageLines (g : Guide) (r : Report) (n : Nat) : List Text := [
  step n "Import and use your component in your Next.js app:",
  ("   import " : Text) ++ Layout.fileStem r.kind r.name ++ (" from '" : Text)
    ++ g.layout.importPath r.kind r.name ++ ("'" : Text)]

/-- The lines about the data route, if it was written. -/
def routeLines (g : Guide) (r : Report) : Except LayoutFault (List Text) :=
  match r.path? .api with
  | none => .ok []
  | some _ =>
    match g.layout.place r.kind .api r.name with
    | .error e => .error e
    | .ok file =>
      .ok [
        ("   API endpoint: " : Text) ++ g.layout.endpoint r.kind r.name,
        ("   File location: " : Text) ++ file.text]

/-- The lines about installing packages, if that failed. -/
def installLines (g : Guide) (r : Report) (n : Nat) : List Text :=
  match r.dependencyError with
  | none => []
  | some message =>
    if message.isEmpty then []
    else [
      step n (("Install dependencies manually (" : Text) ++ message ++ ("):" : Text)),
      ("   " : Text) ++ commandText g.installCommand]

/-- The lines of the guide for a run. -/
def lines (g : Guide) (r : Report) : Except LayoutFault (List Text) :=
  match routeLines g r with
  | .error e => .error e
  | .ok route =>
    let n := if r.kind.needsConfig then 2 else 1
    .ok ((if r.kind.needsConfig then variableLines 1 else []) ++ usageLines g r n ++ route
      ++ installLines g r (n + 1))

/-- The guide for a run, each line with a line break. -/
def text (g : Guide) (r : Report) : Except LayoutFault Text :=
  (g.lines r).map fun ls => ls.flatMap (· ++ [.scalar '\n'])

/-! ## The table of files -/

/-- How an artifact is called in the table. -/
def label (key : Text) : Text :=
  if key = ("component" : Text) then "Component"
  else if key = ("api" : Text) then "API Route"
  else key

/-- Puts a text under a label: in place if the label is there, else at the end. -/
def row (name value : Text) : List (Text × Text) → List (Text × Text)
  | [] => [(name, value)]
  | (n, v) :: rest => if n = name then (n, value) :: rest else (n, v) :: row name value rest

/-- How a path is shown. -/
def shownPath (g : Guide) (p : Path) : Text :=
  match g.projectRoot with
  | none => p.text
  | some root => p.display root

/-- The artifacts of a run and what became of them. -/
def files (g : Guide) (r : Report) : List (Text × Text) :=
  let written := r.written.foldl (fun rows e => row (label e.1) (g.shownPath e.2) rows) []
  r.skipped.foldl (fun rows key => row (label key) "skipped (template missing)" rows) written

/-- Prints what became of a run, and the guide if anything was written. -/
def print (g : Guide) (r : Report) : Action Unit := do
  Action.printMarkup
    (if r.succeeded then "\n[bold green]✅ Component generation completed![/bold green]"
     else
      "\n[bold yellow]Component generation finished without writing any files.[/bold yellow]")
  Action.printSummary "📁 Generated files" (g.files r)
  if r.succeeded then
    let t ← Action.ofExcept .layout (g.text r)
    Action.emit
      (.panel "Next steps" ((Text.trimEnd CodePoint.isBlank t).filter Markup.isShown))

end Guide

end DashboardKit
