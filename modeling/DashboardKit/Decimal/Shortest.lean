import DashboardKit.Decimal.Binary64
import DashboardKit.Decimal.Digits

/-!
# Decimal: the shortest digits of a binary64 number

A finite number owns an interval of reals, those that round to it.  Its shortest digits are the
fewest significant digits of any decimal number in that interval; among the numbers with that many
digits the nearest is taken.  Only the two neighbours of the number on each decimal grid have to be
tried: a grid with a point in the interval has one of them in it.
-/

set_option autoImplicit false

namespace DashboardKit.Decimal

/-- The reals that round to `mantissa · 2 ^ exponent`, over a common denominator: the number, the
two ends, and whether the ends belong. -/
structure Interval where
  value : Nat
  low : Nat
  high : Nat
  den : Nat
  closed : Bool
  deriving DecidableEq, Repr

/-- The interval of a positive mantissa.  The lower end is nearer when the mantissa is the least of
its power of two. -/
def Interval.of (mantissa : Nat) (exponent : Int) : Interval :=
  let down := if mantissa = Nat.pow 2 52 ∧ exponent > -1074 then 1 else 2
  let up := Nat.pow 2 exponent.toNat
  { value := 4 * mantissa * up
    low := (4 * mantissa - down) * up
    high := (4 * mantissa + 2) * up
    den := 4 * Nat.pow 2 (-exponent).toNat
    closed := mantissa % 2 = 0 }

/-- Whether `num / den` lies in the interval. -/
def Interval.holds (i : Interval) (num den : Nat) : Bool :=
  if i.closed then i.low * den ≤ num * i.den && num * i.den ≤ i.high * den
  else i.low * den < num * i.den && num * i.den < i.high * den

/-- The number of decimal places in front of the first digit of a quotient below one. -/
def leadingZeros (num den : Nat) : (fuel : Nat) → Nat
  | 0 => 0
  | fuel + 1 => if den ≤ num * 10 then 0 else leadingZeros (num * 10) den fuel + 1

/-- The power of ten just above a positive quotient: `10 ^ (p - 1) ≤ num / den < 10 ^ p`. -/
def pointPosition (num den : Nat) : Int :=
  if den ≤ num then ((digits (num / den)).length : Int)
  else -(leadingZeros num den 400 : Int)

/-- The nearer of the two grid points around the number, if either lies in the interval. -/
def Interval.onGrid (i : Interval) (gridNum gridDen : Nat) : Option Nat :=
  let below := i.value * gridDen / (i.den * gridNum)
  let above := below + 1
  let fits := fun k => i.holds (k * gridNum) gridDen
  match fits below, fits above with
  | false, false => none
  | true, false => some below
  | false, true => some above
  | true, true =>
    -- twice the distance from `below` against the width of the grid
    let twice := 2 * (i.value * gridDen - below * i.den * gridNum)
    let width := i.den * gridNum
    if twice < width then some below
    else if twice > width then some above
    else if below % 2 = 0 then some below else some above

/-- Tries grids of `count`, `count + 1`, … significant digits. -/
def Interval.search (i : Interval) (point : Int) : (fuel count : Nat) → Nat × Int
  | 0, _ => (0, 0)
  | fuel + 1, count =>
    let power := point - count
    match i.onGrid (Nat.pow 10 power.toNat) (Nat.pow 10 (-power).toNat) with
    | some k => (k, power)
    | none => i.search point fuel (count + 1)

/-- Moves trailing zeros into the power. -/
def dropZeros (k : Nat) (power : Int) : (fuel : Nat) → Nat × Int
  | 0 => (k, power)
  | fuel + 1 => if k % 10 = 0 ∧ k ≠ 0 then dropZeros (k / 10) (power + 1) fuel else (k, power)

/-- The shortest digits of a finite positive number: `k · 10 ^ power`, `k` not ending in zero. -/
def shortest (mantissa : Nat) (exponent : Int) : Nat × Int :=
  let i := Interval.of mantissa exponent
  let found := i.search (pointPosition i.value i.den) 18 1
  dropZeros found.1 found.2 20

end DashboardKit.Decimal
