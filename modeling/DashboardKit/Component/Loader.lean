import DashboardKit.Session

/-!
# Reading a config file

A config file is JSON or YAML by its suffix, and holds a map.  A name that is missing or empty is
told before anything else about the map.
-/

set_option autoImplicit false

namespace DashboardKit.ConfigFile

/-- The document in a config file.  A document that cannot be read is told with the path. -/
def readDocument (path : Path) : Action Value := do
  let octets ← Action.readFile path
  match Utf8.read octets with
  | .error fault => throw (.configInvalid path (.undecodable ⟨fault, octets⟩))
  | .ok cs =>
    if Text.lower path.suffix = (".json" : Text) then
      match Json.read cs with
      | .ok v => return v
      | .error (.malformed fault) => throw (.configInvalid path (.json fault))
      | .error (.digits count) => throw (.digitsRead count)
    else
      match Yaml.read cs with
      | .ok v => return v
      | .error .malformed => throw (.configInvalid path .yaml)
      | .error fault => throw (.yaml fault)

/-- Whether a map gives a name under one of its spellings. -/
def givesName (raw : Entries) : Bool :=
  let given (key : Text) : Bool :=
    match raw.get? key with
    | none => false
    | some .null => false
    | some (.text t) => !t.isEmpty
    | some _ => true
  given "componentName" || given "component_name"

/-- The rows in which a config is shown. -/
def summary (c : ComponentConfig) : Except Failure (List (Text × Text)) :=
  match showInt c.pollingInterval with
  | .error _ => .error .digitsWritten
  | .ok interval =>
    .ok [("Component", c.name), ("MQTT Topic", c.topic), ("Label", c.label), ("Unit", c.unit),
      ("Polling Interval", interval ++ ("ms" : Text))]

/-- The config in a file, shown if `echo` holds. -/
def load (source : Path) (echo : Bool) : Action ComponentConfig := do
  let path ← Action.resolve (← Action.expandHome source)
  if !(← Action.isFile path) then throw (.configNotFound source)
  if !configSuffixes.contains (Text.lower path.suffix) then
    throw (.configInvalid path (.unsupportedSuffix path.suffix))
  if echo then Action.print (("Reading config from: " : Text) ++ path.text)
  match ← readDocument path with
  | .map raw =>
    if !givesName raw then throw (.configMissingField "componentName" (some path))
    match ComponentConfig.ofEntries raw with
    | .error ps => throw (.configInvalid path (.problems ps))
    | .ok config =>
      if echo then
        Action.printSummary "Component config" (← Action.ofExcept (fun f => f) (summary config))
      return config
  | _ => throw (.configInvalid path .notMap)

end DashboardKit.ConfigFile
