import DashboardKit.Decimal.FloatText
import DashboardKit.Text.Case
import DashboardKit.Text.Classes
import DashboardKit.Text.Quoted
import DashboardKit.Text.Search
import DashboardKit.Value.Basic
import DashboardKit.Yaml.Schema
import DashboardKit.Yaml.Token

/-!
# YAML: what scalars stand for

A tag decides how the text of a scalar is read.  The form of an untagged scalar fits its tag, so
that few of the faults below can arise from it: an impossible date is one.  The others take a tag
that is written.
-/

set_option autoImplicit false

namespace DashboardKit.Yaml

/-- Why a text gives no value. -/
inductive ReadFault where
  /-- the text is no single document, or a tag does not fit its node -/
  | malformed
  /-- an escape with a number past the last code point -/
  | noCodePoint (n : Nat)
  /-- a text that is no integer to this base -/
  | integer (base : Nat) (t : Text)
  | tooManyDigits (count : Nat)
  /-- a number without a character after its sign -/
  | emptyNumber
  /-- a text that is no number -/
  | number (t : Text)
  /-- a text that is no truth value -/
  | truthValue (t : Text)
  /-- a text that is no timestamp -/
  | timestamp
  /-- a map with a default key in place of a timestamp -/
  | timestampMap
  | calendar (fault : Calendar.Fault)
  deriving DecidableEq, Repr

/-- A fault in the tokens is a fault of the text. -/
def ReadFault.ofLex : LexFault → ReadFault
  | .malformed => .malformed
  | .noCodePoint n => .noCodePoint n

/-! ## Numbers -/

/-- A text with every decimal digit replaced by the ASCII digit of its value, trimmed. -/
def numberText (t : Text) : Option (List Char) :=
  Text.chars? ((Text.trim CodePoint.isWhitespace t).map fun p =>
    match p.digit? with
    | some d => .scalar (Decimal.digitChar d)
    | none => p)

/-- The value of a digit or letter in a number. -/
def figure? (c : Char) : Option Nat :=
  if '0' ≤ c ∧ c ≤ '9' then some (c.toNat - 48)
  else if 'a' ≤ c ∧ c ≤ 'z' then some (c.toNat - 87)
  else if 'A' ≤ c ∧ c ≤ 'Z' then some (c.toNat - 55)
  else none

/-- The mark that may stand in front of a number to this base. -/
def baseMark? (base : Nat) : Option Char :=
  match base with
  | 2 => some 'b'
  | 8 => some 'o'
  | 16 => some 'x'
  | _ => none

/-- A number without the mark of its base. -/
def dropBaseMark (base : Nat) : List Char → List Char
  | '0' :: c :: rest => if some c.toLower = baseMark? base then rest else '0' :: c :: rest
  | cs => cs

/-- Reads an integer: blanks, a sign, a mark of the base, and figures below the base.  Only the
length of decimal numbers is limited. -/
def integer (base : Nat) (t : Text) : Except ReadFault Int :=
  match numberText t with
  | none => .error (.integer base t)
  | some cs =>
    let (negative, body) := Decimal.splitSign cs
    let body := dropBaseMark base body
    let figures := body.map fun c => (figure? c).filter (· < base)
    let leading := figures.takeWhile Option.isSome
    if base = 10 ∧ Decimal.digitLimit < leading.length then .error (.tooManyDigits leading.length)
    else if body.isEmpty || leading.length < figures.length then .error (.integer base t)
    else
      let n := figures.foldl (fun n d => n * base + d.getD 0) 0
      .ok (if negative then -(n : Int) else n)

/-- A sign at the front as a factor, and the text without it. -/
def signFactor (t : Text) : Except ReadFault (Int × Text) :=
  match t with
  | [] => .error .emptyNumber
  | p :: rest =>
    if p = .scalar '-' then .ok (-1, rest)
    else if p = .scalar '+' then .ok (1, rest)
    else .ok (1, t)

/-- A text without underlines. -/
def dropUnderlines (t : Text) : Text := t.filter (· ≠ .scalar '_')

/-- The parts of a number in parts of sixty. -/
def parts (t : Text) : List Text := Text.splitOn (.scalar ':') t

/-- The integer that a text spells: binary, octal, decimal, hexadecimal, or in parts of sixty. -/
def intValue (t : Text) : Except ReadFault Int := do
  let (sign, t) ← signFactor (dropUnderlines t)
  if t = ("0" : Text) then return 0
  else if Text.startsWith t "0b" then return sign * (← integer 2 (t.drop 2))
  else if Text.startsWith t "0x" then return sign * (← integer 16 (t.drop 2))
  else
    match t with
    | [] => throw .emptyNumber
    | p :: _ =>
      if p = .scalar '0' then return sign * (← integer 8 t)
      else if t.contains (.scalar ':') then
        let ns ← (parts t).mapM (integer 10)
        return sign * ns.foldl (fun n d => n * 60 + d) 0
      else return sign * (← integer 10 t)

/-- The floating-point number that a part of a text spells. -/
def floatPart (t : Text) : Except ReadFault Binary64 :=
  match (numberText t).bind Decimal.binary64? with
  | none => .error (.number t)
  | some x => .ok x

/-- The sum of parts of sixty, from the last one on. -/
def sumOfSixties (xs : List Binary64) : Binary64 :=
  (xs.reverse.foldl
    (fun (sum, base) x => (sum.add (x.mul (.ofInt base)), base * 60))
    (Binary64.zero false, (1 : Int))).1

/-- The floating-point number that a text spells. -/
def floatValue (t : Text) : Except ReadFault Binary64 := do
  let (sign, t) ← signFactor (Text.lower (dropUnderlines t))
  let signed (x : Binary64) : Binary64 := x.mul (.ofInt sign)
  if t.isEmpty then throw (.number [])
  else if t = (".inf" : Text) then return signed (Binary64.infinity false)
  else if t = (".nan" : Text) then return Binary64.nan
  else if t.contains (.scalar ':') then
    return signed (sumOfSixties (← (parts t).mapM floatPart))
  else return signed (← floatPart t)

/-- Whether a text is the name of the number that is none. -/
def namesNaN (t : Text) : Bool :=
  match signFactor (Text.lower (dropUnderlines t)) with
  | .ok (_, t) => t == (".nan" : Text)
  | .error _ => false

/-! ## Other scalars -/

/-- The truth value that a text spells. -/
def truthValue (t : Text) : Except ReadFault Bool :=
  let word := Text.lower t
  if [("yes" : Text), "true", "on"].contains word then .ok true
  else if [("no" : Text), "false", "off"].contains word then .ok false
  else .error (.truthValue word)

/-- The first six digits of a fraction, read as millionths. -/
def millionths (ds : List Char) : Nat :=
  natOf ((ds ++ List.replicate 6 '0').take 6)

/-- The date or moment that a text spells. -/
def timestampValue (t : Text) : Except ReadFault Atom :=
  match (Text.chars? t).bind fun cs => stamp? (dropLastBreak cs) with
  | none => .error .timestamp
  | some s =>
    let made : Except Calendar.Fault Atom :=
      match s.clock with
      | none => (Calendar.date s.year s.month s.day).map .date
      | some c =>
        (Calendar.moment s.year s.month s.day c.hour c.minute c.second (millionths c.fraction)
          c.offset).map .moment
    made.mapError .calendar

/-- The value of a letter of the base-64 alphabet. -/
def sextet? (c : Char) : Option Nat :=
  if 'A' ≤ c ∧ c ≤ 'Z' then some (c.toNat - 65)
  else if 'a' ≤ c ∧ c ≤ 'z' then some (c.toNat - 71)
  else if '0' ≤ c ∧ c ≤ '9' then some (c.toNat + 4)
  else if c = '+' then some 62
  else if c = '/' then some 63
  else none

/-- Reads base 64: `held` are the sextets of the group that is begun and `pads` the padding after
them.  Other characters are passed over; padding that fills a group ends the text. -/
def octetsOf (held : List Nat) (pads : Nat) : List Char → Option (List UInt8)
  | [] => if held.isEmpty then some [] else none
  | c :: rest =>
    if c = '=' then
      if 2 ≤ held.length then
        if 4 ≤ held.length + pads + 1 then some [] else octetsOf held (pads + 1) rest
      else octetsOf held pads rest
    else
      match sextet? c, held with
      | none, _ => octetsOf held pads rest
      | some s, [] => octetsOf [s] 0 rest
      | some s, [a] => (octetsOf [a, s] 0 rest).map ((a * 4 + s / 16).toUInt8 :: ·)
      | some s, [a, b] => (octetsOf [a, b, s] 0 rest).map ((b % 16 * 16 + s / 4).toUInt8 :: ·)
      | some s, _ :: _ :: b :: _ => (octetsOf [] 0 rest).map ((b % 4 * 64 + s).toUInt8 :: ·)

/-- The octets that a text spells in base 64. -/
def binaryValue (t : Text) : Except ReadFault (List UInt8) :=
  match (Text.chars? t).filter fun cs => cs.all fun c => c.toNat < 128 with
  | none => .error .malformed
  | some cs =>
    match octetsOf [] 0 cs with
    | none => .error .malformed
    | some octets => .ok octets

/-- What a scalar with a tag stands for.  Only tags of scalars have a meaning here. -/
def scalarValue (tag : Tag) (t : Text) : Except ReadFault Atom :=
  match tag with
  | .null => .ok .null
  | .bool => (truthValue t).map .bool
  | .int => (intValue t).map .int
  | .float => (floatValue t).map .float
  | .binary => (binaryValue t).map .bytes
  | .timestamp => timestampValue t
  | .text => .ok (.text t)
  | _ => .error .malformed

/-! ## Messages -/

/-- The wording of a fault. -/
def ReadFault.message : ReadFault → Text
  | .malformed => "malformed document"
  | .noCodePoint n =>
    if n < Nat.pow 2 31 then "chr() arg not in range(0x110000)"
    else "Python int too large to convert to C int"
  | .integer base t =>
    Text.ofString "invalid literal for int() with base "
      ++ Text.ofChars (Decimal.digits base) ++ (": " : Text) ++ Text.quoted t
  | .tooManyDigits count =>
    Text.ofString "Exceeds the limit (4300 digits) for integer string conversion: value has "
      ++ Text.ofChars (Decimal.digits count)
      ++ (" digits; use sys.set_int_max_str_digits() to increase the limit" : Text)
  | .emptyNumber => "string index out of range"
  | .number t => Text.ofString "could not convert string to float: " ++ Text.quoted t
  | .truthValue t => Text.quoted t
  | .timestamp => "'NoneType' object has no attribute 'groupdict'"
  | .timestampMap => "expected string or bytes-like object, got 'list'"
  | .calendar fault => fault.message

end DashboardKit.Yaml
