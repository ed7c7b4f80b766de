import DashboardKit.Json.Writer
import DashboardKit.Topic
import DashboardKit.Validation

/-!
# The config of a component

A config describes one component.  It is made from a map of values whose keys may be spelled in two
ways; keys that mean nothing here are kept and passed on to the templates.  Fields that are missing
or empty get standard values, and what does not fit is told all at once, in the order of the
fields.
-/

set_option autoImplicit false

namespace DashboardKit

/-- The description of one component. -/
structure ComponentConfig where
  /-- an identifier -/
  name : Text
  topic : Text
  label : Text
  unit : Text
  icon : Text
  /-- milliseconds, above zero -/
  pollingInterval : Int
  setpoint : Option Validation.Number
  maxDeviation : Option Validation.Number
  schema : Value
  /-- the keys that are no field -/
  extra : List (Text × Value)
  deriving Repr

namespace ComponentConfig

/-! ## Names -/

/-- Whether a code point can begin a name. -/
def beginsName (p : CodePoint) : Bool :=
  match p with
  | .scalar c => ('A' ≤ c && c ≤ 'Z') || ('a' ≤ c && c ≤ 'z') || c == '_' || c == '$'
  | .surrogate _ => false

/-- Whether a code point can stand inside a name. -/
def inName (p : CodePoint) : Bool :=
  beginsName p || (match p with | .scalar c => '0' ≤ c && c ≤ '9' | .surrogate _ => false)

/-- Whether a text is a name: an identifier of the generated language, in ASCII. -/
def isName : Text → Bool
  | [] => false
  | p :: t => beginsName p && t.all inName

/-- The name of a component. -/
def readName (v : Value) : Except ProblemKind Text :=
  match Validation.nonemptyText v with
  | .error e => .error e
  | .ok t => if isName t then .ok t else .error (.identifier t)

/-! ## Other fields -/

/-- The icon where none is given. -/
def standardIcon : Text := "Activity"

/-- The polling interval where none is given. -/
def standardPollingInterval : Int := 2000

/-- The topic; a text is cleaned. -/
def readTopic : Value → Except ProblemKind Text
  | .null => .ok []
  | .text t => .ok (Topic.clean t)
  | v => Validation.text v

/-- The label, if it is given and not empty. -/
def readLabel : Value → Except ProblemKind (Option Text)
  | .null => .ok none
  | v => (Validation.text v).map fun t => if t.isEmpty then none else some t

/-- The unit. -/
def readUnit : Value → Except ProblemKind Text
  | .null => .ok []
  | v => Validation.text v

/-- The icon; whatever counts as absent gives the standard one. -/
def readIcon (v : Value) : Except ProblemKind Text :=
  if v.isTruthy then Validation.text v else .ok standardIcon

/-- The polling interval. -/
def readPollingInterval : Value → Except ProblemKind Int
  | .null => .ok standardPollingInterval
  | v => Validation.positiveInteger v

/-- A number that may be left out.  Two problems, one for each way to read it, are told apart. -/
def readNumber (key : Text) : Value → Except (List Problem) (Option Validation.Number)
  | .null => .ok none
  | v =>
    match Validation.number v with
    | .ok n => .ok (some n)
    | .error (e, f) => .error [⟨[key, "int"], e⟩, ⟨[key, "float"], f⟩]

/-! ## Keys -/

/-- The spellings of a field's key, the preferred one first. -/
structure Key where
  preferred : Text
  other : Option Text

/-- The value of a field and the key it was found under. -/
def Key.find? (k : Key) (raw : Entries) : Option (Text × Value) :=
  match raw.get? k.preferred with
  | some v => some (k.preferred, v)
  | none => k.other.bind fun t => (raw.get? t).map fun v => (t, v)

/-- The key of the name. -/
def nameKey : Key := ⟨"componentName", some "component_name"⟩
/-- The key of the topic. -/
def topicKey : Key := ⟨"mqttTopic", some "mqtt_topic"⟩
/-- The key of the label. -/
def labelKey : Key := ⟨"label", none⟩
/-- The key of the unit. -/
def unitKey : Key := ⟨"unit", none⟩
/-- The key of the icon. -/
def iconKey : Key := ⟨"icon", none⟩
/-- The key of the polling interval. -/
def pollingIntervalKey : Key := ⟨"pollingInterval", some "polling_interval"⟩
/-- The key of the set point. -/
def setpointKey : Key := ⟨"setpoint", none⟩
/-- The key of the greatest deviation. -/
def maxDeviationKey : Key := ⟨"maxDeviation", some "max_deviation"⟩
/-- The key of the schema. -/
def schemaKey : Key := ⟨"schema", some "config_schema"⟩

/-- The keys of all fields. -/
def keys : List Key :=
  [nameKey, topicKey, labelKey, unitKey, iconKey, pollingIntervalKey, setpointKey,
    maxDeviationKey, schemaKey]

/-- The keys of a map under which fields were found. -/
def usedKeys (raw : Entries) : List Text := keys.filterMap fun k => (k.find? raw).map (·.1)

/-- The entries that are no field. -/
def extraEntries (raw : Entries) : Entries :=
  raw.filter fun e =>
    match e.1 with
    | .text t => !(usedKeys raw).contains t
    | _ => true

/-- Where a key that is no text is found: truth values count as numbers. -/
def keyLocation : Atom → Text
  | .bool b => if b then "1" else "0"
  | a => (a.shown.toOption).getD []

/-- The problems with the keys that are no texts. -/
def keyProblems (raw : Entries) : List Problem :=
  raw.filterMap fun e =>
    match e.1 with
    | .text _ => none
    | a => some ⟨[keyLocation a], .keyType⟩

/-- Whether a key is a text with a lone surrogate. -/
def isBrokenKey : Atom → Bool
  | .text t => (Text.chars? t).isNone
  | _ => false

/-! ## Reading -/

/-- A field that may be left out. -/
def optional {α : Type} (k : Key) (standard : α) (read : Value → Except ProblemKind α)
    (raw : Entries) : Except (List Problem) α :=
  match k.find? raw with
  | none => .ok standard
  | some (key, v) => (read v).mapError fun e => [⟨[key], e⟩]

/-- A number that may be left out. -/
def optionalNumber (k : Key) (raw : Entries) :
    Except (List Problem) (Option Validation.Number) :=
  match k.find? raw with
  | none => .ok none
  | some (key, v) => readNumber key v

/-- The name, which has to be there. -/
def requiredName (raw : Entries) : Except (List Problem) Text :=
  match nameKey.find? raw with
  | none => .error [⟨[nameKey.preferred], .missing⟩]
  | some (key, v) => (readName v).mapError fun e => [⟨[key], e⟩]

/-- The config that a map of values describes, or everything that is wrong with it. -/
def ofEntries (raw : Entries) : Except (List Problem) ComponentConfig :=
  if raw.any fun e => isBrokenKey e.1 then .error [⟨[], .textUnicode⟩]
  else
    let name := requiredName raw
    let topic := optional topicKey [] readTopic raw
    let label := optional labelKey none readLabel raw
    let unit := optional unitKey [] readUnit raw
    let icon := optional iconKey standardIcon readIcon raw
    let polling := optional pollingIntervalKey standardPollingInterval readPollingInterval raw
    let setpoint := optionalNumber setpointKey raw
    let deviation := optionalNumber maxDeviationKey raw
    match name, topic, label, unit, icon, polling, setpoint, deviation, keyProblems raw with
    | .ok name, .ok topic, .ok label, .ok unit, .ok icon, .ok pollingInterval, .ok setpoint,
        .ok maxDeviation, [] =>
      .ok {
        name, topic, unit, icon, pollingInterval, setpoint, maxDeviation
        label := label.getD name
        schema := ((schemaKey.find? raw).map (·.2)).getD .null
        extra := (extraEntries raw).filterMap fun e =>
          match e.1 with
          | .text t => some (t, e.2)
          | _ => none }
    | _, _, _, _, _, _, _, _, ps =>
      .error
        (Validation.problemsOf name
          ++ Validation.problemsOf topic
          ++ Validation.problemsOf label
          ++ Validation.problemsOf unit
          ++ Validation.problemsOf icon
          ++ Validation.problemsOf polling
          ++ Validation.problemsOf setpoint
          ++ Validation.problemsOf deviation
          ++ ps)

/-- The schema as text for templates; no schema is an empty one. -/
def schemaText (c : ComponentConfig) : Except Json.WriteFault Text :=
  match c.schema with
  | .null => .ok "\x7b\x7d"
  | v => Json.write .embedded v

end ComponentConfig

end DashboardKit
