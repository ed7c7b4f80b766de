import DashboardKit.Decimal.FloatText
import DashboardKit.Text.Classes
import DashboardKit.Text.Search
import DashboardKit.Text.Utf8
import DashboardKit.Value.Shown

/-!
# Validation

Fields of settings and configs are read from values.  Reading is lenient: a number may come as
text, a truth value as a word or number, a text as octets.  What does not fit is a `Problem`: where
it was found and what is wrong with it.
-/

set_option autoImplicit false

namespace DashboardKit

/-- What can be wrong with a value. -/
inductive ProblemKind where
  | missing
  | textType
  | textTooShort
  /-- a text that is no Unicode text -/
  | textUnicode
  | integerType
  | integerParsing
  | integerSize
  | integerFraction
  | notFinite
  | notPositive
  | floatType
  | floatParsing
  | boolType
  | boolParsing
  | pathType
  | listType
  /-- a key that is no text -/
  | keyType
  /-- a name that cannot be an identifier -/
  | identifier (name : Text)
  deriving DecidableEq, Repr

/-- What is wrong and where: the keys and indices that lead there. -/
structure Problem where
  location : List Text
  kind : ProblemKind
  deriving DecidableEq, Repr

namespace Validation

/-- The problems of a reading. -/
def problemsOf {α : Type} : Except (List Problem) α → List Problem
  | .error ps => ps
  | .ok _ => []

/-- A text that may hold lone surrogates. -/
def text : Value → Except ProblemKind Text
  | .text t => .ok t
  | .bytes octets =>
    match Utf8.decode octets with
    | .ok cs => .ok (Text.ofChars cs)
    | .error _ => .error .textUnicode
  | _ => .error .textType

/-- A text of characters, at least one of them. -/
def nonemptyText (v : Value) : Except ProblemKind Text :=
  match text v with
  | .error e => .error e
  | .ok t =>
    if (Text.chars? t).isNone then .error .textUnicode
    else if t.isEmpty then .error .textTooShort
    else .ok t

/-- The characters of a value that spells something, if it is a text or octets at all; `bad` is what
is wrong with octets that spell nothing. -/
def spelling? (bad : ProblemKind) : Value → Option (Except ProblemKind (List Char))
  | .text t =>
    match Text.chars? t with
    | some cs => some (.ok cs)
    | none => some (.error .textUnicode)
  | .bytes octets =>
    match Utf8.decode octets with
    | .ok cs => some (.ok cs)
    | .error _ => some (.error bad)
  | _ => none

/-- Characters without white space at either end. -/
def trimmed (cs : List Char) : List Char :=
  let space (c : Char) : Bool := (CodePoint.scalar c).isWhitespace
  ((cs.dropWhile space).reverse.dropWhile space).reverse

/-- Characters without underlines, each of which has to stand alone between others. -/
def dropUnderlines? (cs : List Char) : Option (List Char) :=
  let single := (cs.zip cs.tail).all fun p => !(p.1 == '_' && p.2 == '_')
  if cs.head? == some '_' || cs.getLast? == some '_' || !single then none
  else some (cs.filter (· != '_'))

/-! ### Integers

An integer is first read as it is written in full: digits without a zero in front, behind a minus
sign or nothing.  What is not written in full may still have blanks around it, a plus sign, zeros
and underlines in front, single underlines between its digits and zeros after a point.
-/

/-- An integer written in full, if it has no more digits than can be read. -/
def writtenInteger? (cs : List Char) : Option Int :=
  let digits? (ds : List Char) : Option Nat :=
    if ds.isEmpty || !ds.all Decimal.isDigit || Decimal.digitLimit < ds.length then none
    else if ds.head? == some '0' && ds != ['0'] then none
    else some (Decimal.value ds)
  match cs with
  | '-' :: ds => (digits? ds).map fun n => -(n : Int)
  | ds => (digits? ds).map fun n => (n : Int)

/-- Whether characters begin as an integer in full with more digits than can be read. -/
def beginsTooLong (cs : List Char) : Bool :=
  let cs :=
    match cs with
    | '-' :: rest => rest
    | _ => cs
  cs.head? != some '0' && Decimal.digitLimit < (cs.takeWhile Decimal.isDigit).length

/-- Characters without a plus sign in front, which does not go with a minus sign. -/
def dropPlus? : List Char → Option (List Char)
  | '+' :: '-' :: _ => none
  | '+' :: rest => some rest
  | cs => some cs

/-- Characters without the zeros in front and the underlines among them.  A minus sign may stand
before or after these; if only a point or nothing stands after them, the last one stays. -/
def dropLeadingZeros? : List Char → Option (List Char)
  | '-' :: rest => (dropLeadingZeros? rest).map ('-' :: ·)
  | c :: rest =>
    if c == '0' then
      let isFill (d : Char) : Bool := d == '0' || d == '_'
      let body := rest.dropWhile isFill
      if body.isEmpty || body.head? == some '.' then
        some (((rest.takeWhile isFill).getLast?.getD c) :: body)
      else some body
    else if Decimal.isDigit c then some (c :: rest)
    else none
  | [] => none

/-- Characters without a point at which only zeros, at least one, follow. -/
def dropZeroFraction (cs : List Char) : List Char :=
  match cs.dropWhile (· != '.') with
  | _ :: z :: zs => if (z :: zs).all (· == '0') then cs.takeWhile (· != '.') else cs
  | _ => cs

/-- An integer that need not be written in full. -/
def lenientInteger? (cs : List Char) : Option Int := do
  let unsigned ← dropPlus? (trimmed cs)
  let body ← dropLeadingZeros? unsigned
  let digits ← dropUnderlines? (dropZeroFraction body)
  writtenInteger? digits

/-- Reads an integer from characters. -/
def integerOfChars (cs : List Char) : Except ProblemKind Int :=
  if beginsTooLong cs then .error .integerSize
  else
    match lenientInteger? cs with
    | some n => .ok n
    | none => .error .integerParsing

/-- The integer that a floating-point number without a fraction is, up to 63 bits. -/
def integerOfFloat (x : Binary64) : Except ProblemKind Int :=
  if !x.isFinite then .error .notFinite
  else
    match x.toInt? with
    | none => .error .integerFraction
    | some n => if n.natAbs < Nat.pow 2 63 then .ok n else .error .integerSize

/-- An integer. -/
def integer (v : Value) : Except ProblemKind Int :=
  match v with
  | .int n => .ok n
  | .bool b => .ok (if b then 1 else 0)
  | .float x => integerOfFloat x
  | _ =>
    match spelling? .integerParsing v with
    | none => .error .integerType
    | some (.error e) => .error e
    | some (.ok cs) => integerOfChars cs

/-- An integer above zero. -/
def positiveInteger (v : Value) : Except ProblemKind Int :=
  match integer v with
  | .error e => .error e
  | .ok n => if 0 < n then .ok n else .error .notPositive

/-- Reads a floating-point number from characters. -/
def floatOfChars (cs : List Char) : Except ProblemKind Binary64 :=
  match Decimal.binary64? (trimmed cs) with
  | some x => .ok x
  | none =>
    match (dropUnderlines? cs).bind Decimal.binary64? with
    | some x => .ok x
    | none => .error .floatParsing

/-- A floating-point number. -/
def float (v : Value) : Except ProblemKind Binary64 :=
  match v with
  | .float x => .ok x
  | .int n => .ok (.ofInt n)
  | .bool b => .ok (.ofInt (if b then 1 else 0))
  | _ =>
    match spelling? .floatParsing v with
    | none => .error .floatType
    | some (.error e) => .error e
    | some (.ok cs) => floatOfChars cs

/-- A number keeps its kind. -/
inductive Number where
  | int (n : Int)
  | float (x : Binary64)
  deriving DecidableEq, Repr

/-- A number as a value. -/
def Number.value : Number → Value
  | .int n => .int n
  | .float x => .float x

/-- A number: what is one already keeps its kind, anything else is read as an integer if it can be
and as a floating-point number otherwise.  What is wrong with both readings is told. -/
def number (v : Value) : Except (ProblemKind × ProblemKind) Number :=
  match v with
  | .float x => .ok (.float x)
  | _ =>
    match integer v, float v with
    | .ok n, _ => .ok (.int n)
    | .error _, .ok x => .ok (.float x)
    | .error e, .error f => .error (e, f)

/-- The words for truth values, in lower case. -/
def boolWords : List (String × Bool) :=
  [("0", false), ("off", false), ("f", false), ("false", false), ("n", false), ("no", false),
    ("1", true), ("on", true), ("t", true), ("true", true), ("y", true), ("yes", true)]

/-- The truth value that a number stands for. -/
def boolOfInteger (n : Int) : Except ProblemKind Bool :=
  if n = 0 then .ok false else if n = 1 then .ok true else .error .boolParsing

/-- A truth value. -/
def bool (v : Value) : Except ProblemKind Bool :=
  match v with
  | .bool b => .ok b
  | .int n => if n.natAbs < Nat.pow 2 63 then boolOfInteger n else .error .boolType
  | .float x =>
    match integerOfFloat x with
    | .ok n => boolOfInteger n
    | .error _ => .error .boolType
  | _ =>
    match spelling? .boolParsing v with
    | none => .error .boolType
    | some (.error e) => .error e
    | some (.ok cs) =>
      match boolWords.lookup (String.ofList (cs.map Char.toLower)) with
      | some b => .ok b
      | none => .error .boolParsing

/-- The items of a list. -/
def items : Value → Except ProblemKind (List Value)
  | .list vs => .ok vs
  | .set members => .ok (members.map .atom)
  | _ => .error .listType

/-- A list of texts; every item that is none is a problem of its own. -/
def texts (field : Text) (v : Value) : Except (List Problem) (List Text) :=
  match items v with
  | .error e => .error [⟨[field], e⟩]
  | .ok vs =>
    let readings := vs.zipIdx.map fun (v, i) =>
      (text v).mapError fun e => Problem.mk [field, Text.ofChars (Decimal.digits i)] e
    let problems := readings.filterMap fun r => match r with | .error p => some p | .ok _ => none
    if problems.isEmpty then
      .ok (readings.filterMap fun r => match r with | .ok t => some t | .error _ => none)
    else .error problems

end Validation

/-! ## Wording -/

namespace ProblemKind

/-- The name of a kind of problem. -/
def name : ProblemKind → String
  | missing => "missing"
  | textType => "string_type"
  | textTooShort => "string_too_short"
  | textUnicode => "string_unicode"
  | integerType => "int_type"
  | integerParsing => "int_parsing"
  | integerSize => "int_parsing_size"
  | integerFraction => "int_from_float"
  | notFinite => "finite_number"
  | notPositive => "greater_than"
  | floatType => "float_type"
  | floatParsing => "float_parsing"
  | boolType => "bool_type"
  | boolParsing => "bool_parsing"
  | pathType => "path_type"
  | listType => "list_type"
  | keyType => "invalid_key"
  | identifier _ => "value_error"

/-- The wording of a problem. -/
def message : ProblemKind → Text
  | missing => "Field required"
  | textType => "Input should be a valid string"
  | textTooShort => "String should have at least 1 character"
  | textUnicode =>
    "Input should be a valid string, unable to parse raw data as a unicode string"
  | integerType => "Input should be a valid integer"
  | integerParsing => "Input should be a valid integer, unable to parse string as an integer"
  | integerSize => "Unable to parse input string as an integer, exceeded maximum size"
  | integerFraction => "Input should be a valid integer, got a number with a fractional part"
  | notFinite => "Input should be a finite number"
  | notPositive => "Input should be greater than 0"
  | floatType => "Input should be a valid number"
  | floatParsing => "Input should be a valid number, unable to parse string as a number"
  | boolType => "Input should be a valid boolean"
  | boolParsing => "Input should be a valid boolean, unable to interpret input"
  | pathType => "Input is not a valid path for <class 'pathlib.Path'>"
  | listType => "Input should be a valid list"
  | keyType => "Keys should be strings"
  | identifier name =>
    Text.ofString "Value error, componentName " ++ Text.quoted name
      ++ (" must be a JavaScript identifier (letters, digits, '_' or '$', " : Text)
      ++ ("not starting with a digit)" : Text)

end ProblemKind

end DashboardKit
