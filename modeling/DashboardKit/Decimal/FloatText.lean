import DashboardKit.Decimal.Shortest

/-!
# Decimal: the text of binary64 numbers

Numbers are shown with their shortest digits.  `FloatLayout` holds the choices that are a matter of
taste, and `FloatLayout.standard` the ones made here: positional notation from 10⁻⁴ up to below
10¹⁶, a fraction of at least one digit, and an exponent with a sign and two digits.

Reading accepts a sign, digits with an optional point, an optional exponent, and the names of
infinity and NaN.
-/

set_option autoImplicit false

namespace DashboardKit

/-- How the text of a floating-point number is laid out. -/
structure FloatLayout where
  /-- least power of ten of the first digit that is written without exponent -/
  positionalFrom : Int
  /-- greatest power of ten of the first digit that is written without exponent -/
  positionalTo : Int
  /-- digits of the exponent at least -/
  exponentDigits : Nat
  infinity : List Char
  nan : List Char
  deriving Repr

/-- The layout used in messages, templates and documents. -/
def FloatLayout.standard : FloatLayout where
  positionalFrom := -4
  positionalTo := 15
  exponentDigits := 2
  infinity := ['i', 'n', 'f']
  nan := ['n', 'a', 'n']

/-- The standard layout with the names that JSON documents give infinity and NaN. -/
def FloatLayout.json : FloatLayout :=
  { FloatLayout.standard with
    infinity := ['I', 'n', 'f', 'i', 'n', 'i', 't', 'y']
    nan := ['N', 'a', 'N'] }

namespace FloatLayout

/-- `digits` read as a fraction `0.digits` times `10 ^ point`, without an exponent. -/
def positional (ds : List Char) (point : Int) : List Char :=
  if point ≤ 0 then '0' :: '.' :: (List.replicate (-point).toNat '0' ++ ds)
  else if (ds.length : Int) ≤ point then
    ds ++ List.replicate (point.toNat - ds.length) '0' ++ ['.', '0']
  else ds.take point.toNat ++ '.' :: ds.drop point.toNat

/-- The text with one digit before the point and an exponent. -/
def scientific (layout : FloatLayout) (ds : List Char) (point : Int) : List Char :=
  let e := point - 1
  let size := Decimal.digits e.natAbs
  let mantissa :=
    match ds with
    | [] => []
    | [d] => [d]
    | d :: r => d :: '.' :: r
  mantissa ++ 'e' :: (if e < 0 then '-' else '+')
    :: (List.replicate (layout.exponentDigits - size.length) '0' ++ size)

/-- The text of a number without its sign. -/
def unsigned (layout : FloatLayout) (x : Binary64) : List Char :=
  if x.isInfinite then layout.infinity
  else if x.isZero then ['0', '.', '0']
  else
    let (k, power) := Decimal.shortest x.mantissa x.exponent
    let ds := Decimal.digits k
    let point := power + ds.length
    if layout.positionalFrom ≤ point - 1 ∧ point - 1 ≤ layout.positionalTo then
      positional ds point
    else layout.scientific ds point

/-- The text of a number. -/
def render (layout : FloatLayout) (x : Binary64) : List Char :=
  if x.isNaN then layout.nan
  else if x.isNegative then '-' :: layout.unsigned x
  else layout.unsigned x

end FloatLayout

namespace Decimal

/-- A decimal number as it is written: a sign, digits and a power of ten. -/
structure Literal where
  negative : Bool
  digits : Nat
  power : Int
  deriving DecidableEq, Repr

/-- The nearest binary64 number. -/
def Literal.toBinary64 (l : Literal) : Binary64 := Binary64.ofDecimal l.negative l.digits l.power

/-- Splits a sign from the front. -/
def splitSign : List Char → Bool × List Char
  | '-' :: r => (true, r)
  | '+' :: r => (false, r)
  | r => (false, r)

/-- The exponent at the end of a literal; nothing at all is the exponent zero. -/
def exponent? : List Char → Option Int
  | [] => some 0
  | c :: r =>
    if c = 'e' ∨ c = 'E' then
      let (negative, ds) := splitSign r
      if ds ≠ [] ∧ ds.all isDigit then
        some (if negative then -(value ds : Int) else (value ds : Int))
      else none
    else none

/-- Reads `digits`, `digits.digits`, `digits.` or `.digits` and an optional exponent, with an
optional sign in front. -/
def literal? (cs : List Char) : Option Literal :=
  let (negative, body) := splitSign cs
  let whole := body.takeWhile isDigit
  let rest := body.dropWhile isDigit
  let (frac, rest) :=
    match rest with
    | '.' :: r => (r.takeWhile isDigit, r.dropWhile isDigit)
    | r => ([], r)
  if whole.isEmpty && frac.isEmpty then none
  else (exponent? rest).map fun e => ⟨negative, value (whole ++ frac), e - frac.length⟩

/-- A text of letters in lower case. -/
def lowerLetters (cs : List Char) : List Char := cs.map Char.toLower

/-- Reads a decimal literal or the name of infinity or NaN. -/
def binary64? (cs : List Char) : Option Binary64 :=
  let (negative, body) := splitSign cs
  let name := lowerLetters body
  if name = ['i', 'n', 'f'] ∨ name = ['i', 'n', 'f', 'i', 'n', 'i', 't', 'y'] then
    some (Binary64.infinity negative)
  else if name = ['n', 'a', 'n'] then some Binary64.nan
  else (literal? cs).map Literal.toBinary64

end Decimal

end DashboardKit
