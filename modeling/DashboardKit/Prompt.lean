import DashboardKit.Component.Catalog
import DashboardKit.Session

/-!
# Questions to the user

Where no options are given, the user is asked for the kind of component and for a config file.  A
question is asked until its answer will do.  Every question takes an answer, so that there are no
more questions than answers that will be typed, and one.
-/

set_option autoImplicit false

namespace DashboardKit.Prompt

/-- What is wrong with the path of a config file, if anything is. -/
def configPathProblem (t : Text) : Action (Option Text) := do
  if t.isEmpty then return some "Config file path is required"
  if !configSuffixes.any (Text.endsWith (Text.lower t)) then
    return some (("Config file must be one of: " : Text) ++ Text.join ", " configSuffixes)
  let path ← Action.resolve (← Action.expandHome (Path.ofText t))
  if ← Action.isFile path then return none
  return some "Config file does not exist"

/-- The kinds that can be chosen, by the number or the name of each. -/
def choices : List (Text × ComponentKind) :=
  (ComponentKind.all.zipIdx.map fun (k, i) => (Text.ofInt (i + 1), k))
    ++ ComponentKind.all.map fun k => (Text.ofString k.name, k)

/-- Asks for a kind until a choice is given. -/
def askKind : (bound : Nat) → Action ComponentKind
  | 0 => throw .noAnswer
  | bound + 1 => do
    let answer ← Action.ask "Component type"
    match choices.lookup answer with
    | some kind => return kind
    | none =>
      Action.printMarkup "Please select one of the available options"
      askKind bound

/-- Shows the kinds and asks for one. -/
def componentKind : Action ComponentKind := do
  Action.printMarkup "[bold]What type of component would you like to create?[/bold]"
  ComponentKind.all.zipIdx.forM fun (k, i) =>
    Action.printMarkup
      (("  " : Text) ++ Text.ofInt (i + 1) ++ (". " : Text) ++ Text.ofString k.description)
  askKind ((← get).answers.length + 1)

/-- Asks for the path of a config file until one will do. -/
def askConfigPath : (bound : Nat) → Action Path
  | 0 => throw .noAnswer
  | bound + 1 => do
    let answer ← Action.ask "Enter the path to your configuration file"
    match ← configPathProblem answer with
    | none => return Path.ofText answer
    | some problem =>
      Action.printMarkup (("[red]" : Text) ++ problem ++ ("[/red]" : Text))
      askConfigPath bound

/-- Asks for the path of a config file. -/
def configPath : Action Path := do
  askConfigPath ((← get).answers.length + 1)

/-- Asks for a kind and, if it needs one, for a config file. -/
def selection : Action (ComponentKind × Option Path) := do
  let kind ← componentKind
  if kind.needsConfig then return (kind, some (← configPath))
  return (kind, none)

end DashboardKit.Prompt
