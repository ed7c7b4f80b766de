import DashboardKit.Component.Context
import DashboardKit.Console.Markup
import DashboardKit.FileTree.Basic
import DashboardKit.Json.Reader
import DashboardKit.Template.Placeholder
import DashboardKit.Yaml.Scalar

/-!
# Failures

Everything that can stop an operation, and what it says.  Some failures arise from another one,
which they keep as their cause.  The problems of a config and the place where a document is
malformed are kept as data; where a line of text needs a word for them it has `detail`.
-/

set_option autoImplicit false

namespace DashboardKit

/-- What stands in a line of text for details that are told apart. -/
def detail : Text := "<detail>"

/-- Octets that are no text. -/
structure Undecodable where
  fault : Utf8.DecodeFault
  octets : Utf8.Octets
  deriving DecidableEq, Repr

/-- Why a config file cannot be used. -/
inductive ConfigReason where
  | unsupportedSuffix (suffix : Text)
  | undecodable (u : Undecodable)
  | json (fault : Json.Fault)
  | yaml
  /-- the document is no map -/
  | notMap
  | problems (ps : List Problem)
  deriving DecidableEq, Repr

/-- Why a template cannot be read. -/
inductive TemplateReason where
  | missing (name : Text)
  | undecodable (u : Undecodable)
  | file (fault : FileFault)
  deriving DecidableEq, Repr

/-- Why the package manager did not do its work. -/
inductive InstallReason where
  | exited (status : Int)
  | notStarted (fault : FileFault)
  deriving DecidableEq, Repr

/-- Why the packages of a project could not be brought in line. -/
inductive DependencyReason where
  | manifestMissing (path : Path) (fault : FileFault)
  | manifestUnreadable (path : Path) (fault : FileFault)
  | manifestMalformed (path : Path) (fault : Json.Fault)
  /-- the manifest is no map -/
  | manifestShape (path : Path)
  | manifestUnwritable (path : Path) (fault : FileFault)
  | install (command : List Text) (reason : InstallReason)
  deriving DecidableEq, Repr

/-- What stops an operation. -/
inductive Failure where
  | file (fault : FileFault)
  /-- a path with U+0000 in it -/
  | nulInPath
  /-- a path that begins in a home directory which is not known -/
  | noHome
  | undecodable (u : Undecodable)
  | unencodable (t : Text) (fault : Utf8.EncodeFault)
  | json (fault : Json.Fault)
  /-- an integer in a document has too many digits -/
  | digitsRead (count : Nat)
  /-- an integer has too many digits to be written -/
  | digitsWritten
  | yaml (fault : Yaml.ReadFault)
  | unwritable (fault : Json.WriteFault)
  /-- settings or a config with problems -/
  | invalid (model : Text) (ps : List Problem)
  | configNotFound (path : Path)
  | configInvalid (path : Path) (reason : ConfigReason)
  | configMissingField (field : Text) (path : Option Path)
  | unknownKind (name : Text)
  | template (id : Text) (location : Path) (reason : TemplateReason)
  | artifact (key : Text) (path : Path) (fault : FileFault)
  | dependency (reason : DependencyReason)
  | layout (fault : LayoutFault)
  | emptyDelimiter
  | markup (fault : Markup.Fault)
  /-- the user broke off a question -/
  | interrupted
  /-- there are no more answers -/
  | noAnswer
  deriving DecidableEq, Repr

/-! ## Wording -/

/-- A number in decimal digits. -/
def Text.ofInt (n : Int) : Text := Text.ofChars (Decimal.intDigits n)

/-- The wording of a failed file operation. -/
def FileFault.message (f : FileFault) : Text :=
  ("[Errno " : Text) ++ Text.ofInt f.cause.code ++ ("] " : Text) ++ f.cause.wording
    ++ (match f.path with
        | none => []
        | some p => (": " : Text) ++ Text.quoted p)

/-- The wording of a place in octets. -/
def Undecodable.message (u : Undecodable) : Text :=
  let at_ : Text :=
    match u.fault.octets with
    | [b] =>
      ("byte 0x" : Text) ++ Text.ofChars (Text.hex 2 b.toNat) ++ (" in position " : Text)
        ++ Text.ofInt u.fault.position
    | os =>
      ("bytes in position " : Text) ++ Text.ofInt u.fault.position ++ ("-" : Text)
        ++ Text.ofInt (u.fault.position + os.length - 1)
  ("'utf-8' codec can't decode " : Text) ++ at_ ++ (": " : Text)
    ++ Text.ofString u.fault.cause.message

/-- The wording of surrogates that cannot be encoded. -/
def surrogateMessage (f : Utf8.EncodeFault) : Text :=
  let at_ : Text :=
    if f.count = 1 then
      ("character '\\u" : Text) ++ Text.ofChars (Text.hex 4 f.first.value)
        ++ ("' in position " : Text) ++ Text.ofInt f.position
    else
      ("characters in position " : Text) ++ Text.ofInt f.position ++ ("-" : Text)
        ++ Text.ofInt (f.position + f.count - 1)
  ("'utf-8' codec can't encode " : Text) ++ at_ ++ (": surrogates not allowed" : Text)

/-- The suffixes of config files. -/
def configSuffixes : List Text := [".json", ".yaml", ".yml"]

/-- The wording of a reason. -/
def ConfigReason.message : ConfigReason → Text
  | .unsupportedSuffix suffix =>
    ("unsupported file type '" : Text) ++ suffix ++ ("' (expected one of " : Text)
      ++ Text.join ", " configSuffixes ++ (")" : Text)
  | .undecodable u => u.message
  | .json fault => fault.message
  | .yaml => detail
  | .notMap => "top level must be a key/value mapping"
  | .problems _ => detail

/-- A command as it is typed. -/
def commandText (command : List Text) : Text := Text.join " " command

/-- The wording of a reason. -/
def DependencyReason.message : DependencyReason → Text
  | .manifestMissing path _ => ("Manifest not found: " : Text) ++ path.text
  | .manifestUnreadable path fault =>
    ("Cannot read manifest " : Text) ++ path.text ++ (": " : Text) ++ fault.message
  | .manifestMalformed path fault =>
    ("Cannot read manifest " : Text) ++ path.text ++ (": " : Text) ++ fault.message
  | .manifestShape path => ("Manifest " : Text) ++ path.text ++ (" is not a JSON object" : Text)
  | .manifestUnwritable path fault =>
    ("Cannot write manifest " : Text) ++ path.text ++ (": " : Text) ++ fault.message
  | .install command (.exited status) =>
    commandText command ++ (" exited with status " : Text) ++ Text.ofInt status
  | .install command (.notStarted fault) =>
    commandText command ++ (" could not be started: " : Text) ++ fault.message

/-- The wording of a failure. -/
def Failure.message : Failure → Text
  | .file fault => fault.message
  | .nulInPath => "embedded null byte"
  | .noHome => "Could not determine home directory."
  | .undecodable u => u.message
  | .unencodable _ fault => surrogateMessage fault
  | .json fault => fault.message
  | .digitsRead count => Json.digitsMessage count
  | .digitsWritten => Json.WriteFault.digits.message
  | .yaml .malformed => detail
  | .yaml fault => fault.message
  | .unwritable fault => fault.message
  | .invalid _ _ => detail
  | .configNotFound path => ("Config file not found: " : Text) ++ path.text
  | .configInvalid path reason =>
    ("Invalid config file " : Text) ++ path.text ++ (": " : Text) ++ reason.message
  | .configMissingField field path =>
    ("Missing required field '" : Text) ++ field ++ ("'" : Text)
      ++ (match path with | none => [] | some p => (" in " : Text) ++ p.text)
  | .unknownKind name => ("Unknown component type: " : Text) ++ name
  | .template id location _ =>
    ("Template file not found: " : Text) ++ id ++ (" at " : Text) ++ location.text
  | .artifact key path fault =>
    ("Failed to generate " : Text) ++ key ++ (" at " : Text) ++ path.text ++ (": " : Text)
      ++ fault.cause.wording
  | .dependency reason => reason.message
  | .layout fault => fault.message
  | .emptyDelimiter => Template.RenderFault.emptyDelimiter.message
  | .markup fault => fault.message
  | .interrupted => []
  | .noAnswer => "EOF when reading a line"

/-- A fault of rendering as a failure. -/
def Failure.ofRender : Template.RenderFault → Failure
  | .emptyDelimiter => .emptyDelimiter
  | .digits => .digitsWritten

/-- A fault of writing as a failure. -/
def Failure.ofWrite : Json.WriteFault → Failure
  | .digits => .digitsWritten
  | fault => .unwritable fault

/-- A fault of reading as a failure. -/
def Failure.ofJson : Json.ReadFault → Failure
  | .malformed fault => .json fault
  | .digits count => .digitsRead count

/-- A fault of building values for templates as a failure. -/
def Failure.ofContext : ContextFault → Failure
  | .noConfig => .configMissingField "componentName" none
  | .unwritable fault => .ofWrite fault

end DashboardKit
