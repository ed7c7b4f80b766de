import DashboardKit.Component.Config
import DashboardKit.Component.Layout

/-!
# What templates are rendered with

The values that placeholders stand for.  Structured values are turned into JSON text here.  The
standard values come last, so that no other key of a config can take their place.
-/

set_option autoImplicit false

namespace DashboardKit

/-- Why there are no values for a component. -/
inductive ContextFault where
  /-- the kind of component needs a config -/
  | noConfig
  /-- a structured value has no JSON text -/
  | unwritable (fault : Json.WriteFault)
  deriving DecidableEq, Repr

namespace Context

/-- The value that stands for a value of an extra key.  Maps and lists, those that contain
themselves among them, become text. -/
def flattened (v : Value) : Except Json.WriteFault Value :=
  match v with
  | .map _ => (Json.write .compact v).map .text
  | .list _ => (Json.write .compact v).map .text
  | .cycle => (Json.write .compact v).map .text
  | v => .ok v

/-- The values of extra keys. -/
def ofExtra : List (Text × Value) → Except Json.WriteFault Entries
  | [] => .ok []
  | (key, v) :: rest =>
    match flattened v with
    | .error e => .error e
    | .ok v => (ofExtra rest).map ((.text key, v) :: ·)

/-- A number, if there is one. -/
def numberValue : Option Validation.Number → Value
  | none => .null
  | some n => n.value

/-- The values that a name gives. -/
def ofName (name : Text) : List (Text × Value) := [
  ("componentName", .text name),
  ("componentNameLower", .text (Text.lower name)),
  ("componentApi", .text (Text.lower name))]

/-- The values that the other fields of a config give. -/
def ofFields (config : ComponentConfig) : List (Text × Value) := [
  ("mqttTopic", .text config.topic),
  ("label", .text config.label),
  ("unit", .text config.unit),
  ("icon", .text config.icon),
  ("pollingInterval", .int config.pollingInterval),
  ("setpoint", numberValue config.setpoint),
  ("maxDeviation", numberValue config.maxDeviation)]

/-- The value that a schema gives. -/
def ofSchema (schema : Text) : List (Text × Value) := [("schema", .text schema)]

/-- The standard values of a config. -/
def standard (name : Text) (config : ComponentConfig) (schema : Text) : List (Text × Value) :=
  ofName name ++ ofFields config ++ ofSchema schema

/-- Entries with others written over them. -/
def overlay (entries : Entries) (values : List (Text × Value)) : Entries :=
  values.foldl (fun es p => Entries.set es p.1 p.2) entries

/-- The values for a component of a kind that is described by a config. -/
def ofConfig (kind : ComponentKind) (config : ComponentConfig) : Except ContextFault Entries :=
  match ofExtra config.extra with
  | .error e => .error (.unwritable e)
  | .ok extra =>
    match config.schemaText with
    | .error e => .error (.unwritable e)
    | .ok schema =>
      .ok (overlay extra (standard (Layout.effectiveName kind config.name) config schema))

/-- The values for a component; only a layout container needs no config. -/
def build (kind : ComponentKind) (config : Option ComponentConfig) :
    Except ContextFault Entries :=
  match config with
  | some config => ofConfig kind config
  | none =>
    if kind.needsConfig then .error .noConfig
    else .ok (overlay [] (ofName Layout.containerName ++ ofSchema "\x7b\x7d"))

end Context

end DashboardKit
