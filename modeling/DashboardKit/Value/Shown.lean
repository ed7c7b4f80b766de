import DashboardKit.Decimal.FloatText
import DashboardKit.Text.Quoted
import DashboardKit.Value.Basic

/-!
# Values: how they are shown

Values appear in messages and templates in a printed form: collections in brackets with their
elements quoted, atoms by themselves.  The only value without a printed form is one that holds an
integer past the digit limit.
-/

set_option autoImplicit false

namespace DashboardKit

/-- An integer has too many digits to be written. -/
structure DigitOverflow where
  deriving DecidableEq, Repr

/-- The wording of this fault. -/
def DigitOverflow.message : Text :=
  ("Exceeds the limit (4300 digits) for integer string conversion; " : Text)
    ++ ("use sys.set_int_max_str_digits() to increase the limit" : Text)

/-- The decimal text of an integer, up to the digit limit. -/
def showInt (n : Int) : Except DigitOverflow Text :=
  if Decimal.exceedsLimit n then .error {} else .ok (Text.ofChars (Decimal.intDigits n))

/-- One octet inside quotes. -/
def quotedOctet (quote : Char) (b : UInt8) : List Char :=
  let c := Char.ofNat b.toNat
  if c = quote ∨ c = '\\' then ['\\', c]
  else if c = '\t' then ['\\', 't']
  else if c = '\n' then ['\\', 'n']
  else if c = '\r' then ['\\', 'r']
  else if 0x20 ≤ b ∧ b < 0x7F then [c]
  else '\\' :: 'x' :: Text.hex 2 b.toNat

/-- The quoted form of octets. -/
def quotedOctets (octets : List UInt8) : List Char :=
  let quote := if octets.any (· == 39) && octets.all (· != 34) then '"' else '\''
  'b' :: quote :: (octets.flatMap (quotedOctet quote) ++ [quote])

namespace Atom

/-- How an atom is shown inside a printed collection. -/
def shown : Atom → Except DigitOverflow Text
  | null => .ok "None"
  | bool b => .ok (if b then "True" else "False")
  | int n => showInt n
  | float x => .ok (Text.ofChars (FloatLayout.standard.render x))
  | text t => .ok (Text.quoted t)
  | date d => .ok (Text.ofChars d.shown)
  | moment m => .ok (Text.ofChars m.shown)
  | bytes b => .ok (Text.ofChars (quotedOctets b))

/-- How an atom is printed by itself. -/
def printed : Atom → Except DigitOverflow Text
  | text t => .ok t
  | date d => .ok (Text.ofChars d.text)
  | moment m => .ok (Text.ofChars (m.text ' '))
  | a => a.shown

end Atom

/-- Texts with commas in between. -/
def commaJoined : List Text → Text
  | [] => []
  | [t] => t
  | t :: rest => t ++ (", " : Text) ++ commaJoined rest

/-- Texts with commas in between and brackets around. -/
def bracketed (opening closing : Char) (parts : List Text) : Text :=
  (opening : CodePoint) :: (commaJoined parts ++ [(closing : CodePoint)])

namespace Value

mutual

/-- How a value is shown inside a printed collection. -/
def shown : Value → Except DigitOverflow Text
  | .atom a => a.shown
  | .list items => (shownItems items).map (bracketed '[' ']')
  | .map entries => (shownEntries entries).map (bracketed '\x7b' '\x7d')
  | .set members =>
    if members.isEmpty then .ok "set()"
    else (members.mapM Atom.shown).map (bracketed '\x7b' '\x7d')
  | .cycle => .ok "[...]"

/-- The elements of a list, each as it is shown. -/
def shownItems : List Value → Except DigitOverflow (List Text)
  | [] => .ok []
  | v :: rest =>
    match shown v with
    | .error e => .error e
    | .ok t => (shownItems rest).map (t :: ·)

/-- The entries of a map, each as it is shown. -/
def shownEntries : List (Atom × Value) → Except DigitOverflow (List Text)
  | [] => .ok []
  | (k, v) :: rest =>
    match k.shown with
    | .error e => .error e
    | .ok key =>
      match shown v with
      | .error e => .error e
      | .ok t => (shownEntries rest).map ((key ++ (": " : Text) ++ t) :: ·)

end

/-- How a value is printed by itself. -/
def printed : Value → Except DigitOverflow Text
  | .atom a => a.printed
  | v => v.shown

end Value

end DashboardKit
