import DashboardKit.Failure
import DashboardKit.Value.Shown

/-!
# Choosing a kind of component

A kind can be chosen by any value: what counts is its printed form, blanks around it and case apart.
-/

set_option autoImplicit false

namespace DashboardKit.ComponentKind

/-- The kind that a value names. -/
def ofValue (v : Value) : Except Failure ComponentKind :=
  match v.printed with
  | .error _ => .error .digitsWritten
  | .ok t =>
    match ofText? t with
    | some kind => .ok kind
    | none => .error (.unknownKind t)

end DashboardKit.ComponentKind
