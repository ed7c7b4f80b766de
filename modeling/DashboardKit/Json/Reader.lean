import DashboardKit.Decimal.FloatText
import DashboardKit.Value.Basic

/-!
# JSON: reading

Reads a document from characters.  Numbers with a point or an exponent are floating-point, the
names of infinity and NaN are numbers too, and an escape may spell half of a surrogate pair.  A
fault says what was expected and where; positions count characters.

The readers take a bound on the number of steps; `read` gives them twice the length of the text,
which they cannot exceed because every second step takes a character away.
-/

set_option autoImplicit false

namespace DashboardKit.Json

/-- What is wrong with a text that is no document. -/
inductive Cause where
  | value
  | name
  | colon
  | comma
  /-- something after the document -/
  | extra
  | unterminated
  /-- a control character inside quotes -/
  | control
  | escape
  | unicodeEscape
  /-- a byte order mark in front -/
  | mark
  deriving DecidableEq, Repr

/-- A fault at a place: characters in front of it, line and column counted from one. -/
structure Fault where
  cause : Cause
  position : Nat
  line : Nat
  column : Nat
  deriving DecidableEq, Repr

/-- Why reading stops: a fault, or an integer with too many digits. -/
inductive ReadFault where
  | malformed (fault : Fault)
  | digits (count : Nat)
  deriving DecidableEq, Repr

/-- A fault while reading, placed by the number of characters that are left. -/
inductive Stop where
  | malformed (cause : Cause) (left : Nat)
  | digits (count : Nat)
  deriving DecidableEq, Repr

/-- The place in a text where a number of characters is left. -/
def Fault.place (text : List Char) (cause : Cause) (left : Nat) : Fault :=
  let position := text.length - left
  let front := text.take position
  { cause, position
    line := front.count '\n' + 1
    column := (front.reverse.takeWhile (· ≠ '\n')).length + 1 }

/-- Blanks between tokens. -/
def isBlank (c : Char) : Bool := c == ' ' || c == '\t' || c == '\n' || c == '\r'

/-- The text without blanks in front. -/
def skipBlanks (cs : List Char) : List Char := cs.dropWhile isBlank

/-! ## Texts -/

/-- The value of a hexadecimal digit. -/
def hexValue? (c : Char) : Option Nat :=
  if '0' ≤ c ∧ c ≤ '9' then some (c.toNat - 48)
  else if 'a' ≤ c ∧ c ≤ 'f' then some (c.toNat - 87)
  else if 'A' ≤ c ∧ c ≤ 'F' then some (c.toNat - 55)
  else none

/-- The value of four hexadecimal digits. -/
def hexQuad? (a b c d : Char) : Option Nat :=
  match hexValue? a, hexValue? b, hexValue? c, hexValue? d with
  | some a, some b, some c, some d => some (((a * 16 + b) * 16 + c) * 16 + d)
  | _, _, _, _ => none

/-- The character of a two-character escape. -/
def shortEscaped? : Char → Option Char
  | '"' => some '"'
  | '\\' => some '\\'
  | '/' => some '/'
  | 'b' => some '\x08'
  | 'f' => some '\x0c'
  | 'n' => some '\n'
  | 'r' => some '\r'
  | 't' => some '\t'
  | _ => none

/-- Whether a number is the first half of a surrogate pair. -/
def isHighSurrogate (n : Nat) : Bool := 0xD800 ≤ n && n < 0xDC00

/-- Whether a number is the second half of a surrogate pair. -/
def isLowSurrogate (n : Nat) : Bool := 0xDC00 ≤ n && n < 0xE000

/-- The number that a surrogate pair stands for. -/
def joinSurrogates (high low : Nat) : Nat := 0x10000 + (high - 0xD800) * 0x400 + (low - 0xDC00)

/-- Reads what follows `\u`: four digits, and the second half of a pair when the first half is
followed by one.  Something must follow the last digit. -/
def readUnicode (cs : List Char) : Except Stop (CodePoint × List Char) :=
  match cs with
  | a :: b :: c :: d :: e :: rest =>
    match hexQuad? a b c d with
    | none => .error (.malformed .unicodeEscape (cs.length + 1))
    | some n =>
      match e :: rest with
      | '\\' :: 'u' :: a' :: b' :: c' :: d' :: e' :: rest' =>
        if isHighSurrogate n then
          match hexQuad? a' b' c' d' with
          | none => .error (.malformed .unicodeEscape rest.length)
          | some m =>
            if isLowSurrogate m then
              .ok (CodePoint.ofNat (joinSurrogates n m), e' :: rest')
            else .ok (CodePoint.ofNat n, e :: rest)
        else .ok (CodePoint.ofNat n, e :: rest)
      | _ => .ok (CodePoint.ofNat n, e :: rest)
  | _ => .error (.malformed .unicodeEscape (cs.length + 1))

/-- Reads the rest of a quoted text; `opening` characters were left at its opening quote. -/
def readText (opening : Nat) : (fuel : Nat) → List Char → Except Stop (Text × List Char)
  | 0, _ => .error (.malformed .unterminated opening)
  | _ + 1, [] => .error (.malformed .unterminated opening)
  | _ + 1, '"' :: rest => .ok ([], rest)
  | _ + 1, ['\\'] => .error (.malformed .unterminated opening)
  | fuel + 1, '\\' :: 'u' :: rest =>
    match readUnicode rest with
    | .error e => .error e
    | .ok (p, rest) =>
      match readText opening fuel rest with
      | .error e => .error e
      | .ok (t, rest) => .ok (p :: t, rest)
  | fuel + 1, '\\' :: c :: rest =>
    match shortEscaped? c with
    | none => .error (.malformed .escape (rest.length + 2))
    | some d =>
      match readText opening fuel rest with
      | .error e => .error e
      | .ok (t, rest) => .ok ((d : CodePoint) :: t, rest)
  | fuel + 1, c :: rest =>
    if c.toNat < 0x20 then .error (.malformed .control (rest.length + 1))
    else
      match readText opening fuel rest with
      | .error e => .error e
      | .ok (t, rest) => .ok ((c : CodePoint) :: t, rest)

/-! ## Numbers and names -/

/-- Splits the fraction from the front: a point and at least one digit. -/
def splitFraction : List Char → List Char × List Char
  | '.' :: d :: rest =>
    if Decimal.isDigit d then
      (d :: rest.takeWhile Decimal.isDigit, rest.dropWhile Decimal.isDigit)
    else ([], '.' :: d :: rest)
  | cs => ([], cs)

/-- Splits the exponent from the front: its letter, a sign and at least one digit. -/
def splitExponent (cs : List Char) : Option Int × List Char :=
  match cs with
  | c :: rest =>
    if c = 'e' ∨ c = 'E' then
      let (negative, body) := Decimal.splitSign rest
      let ds := body.takeWhile Decimal.isDigit
      if ds.isEmpty then (none, cs)
      else
        (some (if negative then -(Decimal.value ds : Int) else (Decimal.value ds : Int)),
          body.dropWhile Decimal.isDigit)
    else (none, cs)
  | [] => (none, [])

/-- Splits the whole part of a number from the front: a zero, or digits that begin otherwise. -/
def splitWhole : List Char → List Char × List Char
  | '0' :: rest => (['0'], rest)
  | cs => (cs.takeWhile Decimal.isDigit, cs.dropWhile Decimal.isDigit)

/-- Reads a number. -/
def readNumber (cs : List Char) : Except Stop (Atom × List Char) :=
  let negative := cs.head? == some '-'
  let (whole, rest) := splitWhole (if negative then cs.tail else cs)
  if whole.isEmpty then .error (.malformed .value cs.length)
  else
    let (fraction, rest) := splitFraction rest
    let (exponent, rest) := splitExponent rest
    if fraction.isEmpty && exponent.isNone then
      if Decimal.digitLimit < whole.length then .error (.digits whole.length)
      else
        let n : Int := Decimal.value whole
        .ok (.int (if negative then -n else n), rest)
    else
      let l : Decimal.Literal :=
        ⟨negative, Decimal.value (whole ++ fraction), exponent.getD 0 - fraction.length⟩
      .ok (.float l.toBinary64, rest)

/-- The rest after a name in front. -/
def afterName? : (name cs : List Char) → Option (List Char)
  | [], cs => some cs
  | _ :: _, [] => none
  | a :: name, c :: cs => if a = c then afterName? name cs else none

/-- The names of values. -/
def names : List (List Char × Atom) :=
  [("null".toList, .null), ("true".toList, .bool true), ("false".toList, .bool false),
    ("NaN".toList, .float Binary64.nan), ("Infinity".toList, .float (Binary64.infinity false)),
    ("-Infinity".toList, .float (Binary64.infinity true))]

/-- Reads a name or a number. -/
def readWord (cs : List Char) : Except Stop (Atom × List Char) :=
  match names.findSome? fun n => (afterName? n.1 cs).map fun rest => (n.2, rest) with
  | some found => .ok found
  | none => readNumber cs

/-! ## Values -/

mutual

/-- Reads a value from the front. -/
def readValue : (fuel : Nat) → List Char → Except Stop (Value × List Char)
  | 0, cs => .error (.malformed .value cs.length)
  | fuel + 1, cs =>
    match cs with
    | '"' :: rest =>
      match readText cs.length cs.length rest with
      | .error e => .error e
      | .ok (t, rest) => .ok (.text t, rest)
    | '[' :: rest =>
      match skipBlanks rest with
      | ']' :: rest => .ok (.list [], rest)
      | rest =>
        match readItems fuel rest with
        | .error e => .error e
        | .ok (items, rest) => .ok (.list items, rest)
    | '\x7b' :: rest =>
      match skipBlanks rest with
      | '\x7d' :: rest => .ok (.map [], rest)
      | rest =>
        match readMembers fuel rest with
        | .error e => .error e
        | .ok (pairs, rest) => .ok (.map (Entries.ofPairs pairs), rest)
    | _ =>
      match readWord cs with
      | .error e => .error e
      | .ok (a, rest) => .ok (.atom a, rest)

/-- Reads elements up to the closing bracket. -/
def readItems : (fuel : Nat) → List Char → Except Stop (List Value × List Char)
  | 0, cs => .error (.malformed .value cs.length)
  | fuel + 1, cs =>
    match readValue fuel cs with
    | .error e => .error e
    | .ok (v, rest) =>
      match skipBlanks rest with
      | ']' :: rest => .ok ([v], rest)
      | ',' :: rest =>
        match readItems fuel (skipBlanks rest) with
        | .error e => .error e
        | .ok (vs, rest) => .ok (v :: vs, rest)
      | rest => .error (.malformed .comma rest.length)

/-- Reads members up to the closing brace. -/
def readMembers : (fuel : Nat) → List Char → Except Stop (List (Atom × Value) × List Char)
  | 0, cs => .error (.malformed .name cs.length)
  | fuel + 1, cs =>
    match cs with
    | '"' :: rest =>
      match readText cs.length cs.length rest with
      | .error e => .error e
      | .ok (key, rest) =>
        match skipBlanks rest with
        | ':' :: rest =>
          match readValue fuel (skipBlanks rest) with
          | .error e => .error e
          | .ok (v, rest) =>
            match skipBlanks rest with
            | '\x7d' :: rest => .ok ([(.text key, v)], rest)
            | ',' :: rest =>
              match readMembers fuel (skipBlanks rest) with
              | .error e => .error e
              | .ok (pairs, rest) => .ok ((.text key, v) :: pairs, rest)
            | rest => .error (.malformed .comma rest.length)
        | rest => .error (.malformed .colon rest.length)
    | _ => .error (.malformed .name cs.length)

end

/-- Reads a document and the blanks around it. -/
def readDocument (cs : List Char) : Except Stop Value :=
  match readValue (2 * cs.length + 2) (skipBlanks cs) with
  | .error e => .error e
  | .ok (v, rest) =>
    match skipBlanks rest with
    | [] => .ok v
    | rest => .error (.malformed .extra rest.length)

/-- The document that a text holds. -/
def read (cs : List Char) : Except ReadFault Value :=
  if cs.head? = some '\ufeff' then .error (.malformed (Fault.place cs .mark cs.length))
  else
    match readDocument cs with
    | .ok v => .ok v
    | .error (.digits n) => .error (.digits n)
    | .error (.malformed cause left) => .error (.malformed (Fault.place cs cause left))

/-! ## Messages -/

/-- The wording of a cause. -/
def Cause.message : Cause → String
  | .value => "Expecting value"
  | .name => "Expecting property name enclosed in double quotes"
  | .colon => "Expecting ':' delimiter"
  | .comma => "Expecting ',' delimiter"
  | .extra => "Extra data"
  | .unterminated => "Unterminated string starting at"
  | .control => "Invalid control character at"
  | .escape => "Invalid \\escape"
  | .unicodeEscape => "Invalid \\uXXXX escape"
  | .mark => "Unexpected UTF-8 BOM (decode using utf-8-sig)"

/-- The wording of a fault. -/
def Fault.message (f : Fault) : Text :=
  Text.ofChars
    (f.cause.message.toList ++ ": line ".toList ++ Decimal.digits f.line ++ " column ".toList
      ++ Decimal.digits f.column ++ " (char ".toList ++ Decimal.digits f.position ++ [')'])

/-- The wording of a number with too many digits. -/
def digitsMessage (count : Nat) : Text := Text.ofChars (Decimal.limitMessage count)

end DashboardKit.Json
