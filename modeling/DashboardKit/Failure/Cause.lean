import DashboardKit.Failure

/-!
# Failures: causes

A failure that is told to the user can name what it arose from: the kind of the cause and its
details, in the form in which reports for developers write them.
-/

set_option autoImplicit false

namespace DashboardKit

/-- The names of the kinds of file faults, by the numbers that systems report. -/
def faultKinds : List (String × List Int) := [
  ("BlockingIOError", [11, 114, 115]),
  ("ChildProcessError", [10]),
  ("BrokenPipeError", [32, 108]),
  ("ConnectionAbortedError", [103]),
  ("ConnectionRefusedError", [111]),
  ("ConnectionResetError", [104]),
  ("FileExistsError", [17]),
  ("FileNotFoundError", [2]),
  ("InterruptedError", [4]),
  ("IsADirectoryError", [21]),
  ("NotADirectoryError", [20]),
  ("PermissionError", [1, 13]),
  ("ProcessLookupError", [3]),
  ("TimeoutError", [110])]

/-- The kind of a file fault. -/
def FileFault.kind (f : FileFault) : String :=
  ((faultKinds.find? fun k => k.2.contains f.cause.code).map (·.1)).getD "OSError"

/-- Details in brackets after the name of a kind. -/
def described (kind : String) (details : List Text) : Text :=
  Text.ofString kind ++ ("(" : Text) ++ commaJoined details ++ (")" : Text)

/-- A file fault with its details. -/
def FileFault.described (f : FileFault) : Text :=
  DashboardKit.described f.kind [Text.ofInt f.cause.code, Text.quoted f.cause.wording]

/-- Octets that are no text, with their details. -/
def Undecodable.described (u : Undecodable) : Text :=
  DashboardKit.described "UnicodeDecodeError"
    [Text.quoted "utf-8", Text.ofChars (quotedOctets u.octets), Text.ofInt u.fault.position,
      Text.ofInt (u.fault.position + u.fault.octets.length),
      Text.quoted (Text.ofString u.fault.cause.message)]

/-- What a reason arose from, if it arose from anything. -/
def ConfigReason.cause : ConfigReason → Option Text
  | .unsupportedSuffix _ => none
  | .undecodable u => some u.described
  | .json fault => some (described "JSONDecodeError" [Text.quoted fault.message])
  | .yaml => some detail
  | .notMap => none
  | .problems _ => some detail

namespace Failure

/-- What a failure arose from, where it is told to the user.  Templates that cannot be read and
packages that cannot be installed are warned of and never told this way. -/
def cause : Failure → Option Text
  | .configInvalid _ reason => reason.cause
  | .artifact _ _ fault => some fault.described
  | _ => none

/-- Whether a failure is one that the user is expected to meet: the others are told together with a
report for developers. -/
def isExpected : Failure → Bool
  | .configNotFound _ => true
  | .configInvalid _ _ => true
  | .configMissingField _ _ => true
  | .unknownKind _ => true
  | .template _ _ _ => true
  | .artifact _ _ _ => true
  | .dependency _ => true
  | _ => false

end Failure

end DashboardKit
