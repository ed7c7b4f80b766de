/-!
# Decimal: binary64 numbers

A floating-point number is kept as its sixty-four bits, so that two numbers are equal exactly when
they are written alike.  A finite number is `mantissa · 2 ^ exponent`; reading a decimal number
rounds it to the nearest such number, an exact half going to the even mantissa.
-/

set_option autoImplicit false

namespace DashboardKit

/-- A binary64 floating-point number, given by its bits. -/
structure Binary64 where
  bits : UInt64
  deriving DecidableEq, Repr, Inhabited

namespace Binary64

/-- Whether the sign bit is set. -/
def isNegative (x : Binary64) : Bool := 0x8000000000000000 ≤ x.bits

/-- The eleven bits of the exponent. -/
def biased (x : Binary64) : Nat := x.bits.toNat / Nat.pow 2 52 % 2048

/-- The fifty-two bits below the exponent. -/
def fraction (x : Binary64) : Nat := x.bits.toNat % Nat.pow 2 52

/-- Whether the number is infinite. -/
def isInfinite (x : Binary64) : Bool := x.biased == 2047 && x.fraction == 0

/-- Whether it is not a number. -/
def isNaN (x : Binary64) : Bool := x.biased == 2047 && x.fraction != 0

/-- Whether it is neither infinite nor a NaN. -/
def isFinite (x : Binary64) : Bool := x.biased != 2047

/-- The integer mantissa of a finite number. -/
def mantissa (x : Binary64) : Nat :=
  if x.biased = 0 then x.fraction else x.fraction + Nat.pow 2 52

/-- The power of two that the mantissa of a finite number is multiplied by. -/
def exponent (x : Binary64) : Int :=
  if x.biased = 0 then -1074 else (x.biased : Int) - 1075

/-- Whether the number is zero, of either sign. -/
def isZero (x : Binary64) : Bool := x.biased == 0 && x.fraction == 0

/-- The number with the given sign, exponent bits and fraction bits. -/
def ofParts (negative : Bool) (biased fraction : Nat) : Binary64 :=
  ⟨((if negative then Nat.pow 2 63 else 0) + biased * Nat.pow 2 52 + fraction).toUInt64⟩

/-- Zero of a given sign. -/
def zero (negative : Bool) : Binary64 := ofParts negative 0 0

/-- Infinity of a given sign. -/
def infinity (negative : Bool) : Binary64 := ofParts negative 2047 0

/-- The quiet NaN. -/
def nan : Binary64 := ofParts false 2047 (Nat.pow 2 51)

/-- `num / den` rounded to a natural number, a half going to the even neighbour. -/
def roundHalfEven (num den : Nat) : Nat :=
  let q := num / den
  let r := num % den
  if 2 * r < den then q
  else if 2 * r > den then q + 1
  else if q % 2 = 0 then q else q + 1

/-- The nearest number to `num / den`, both positive. -/
def ofRatio (negative : Bool) (num den : Nat) : Binary64 :=
  -- 2 ^ (scale - 1) < num / den < 2 ^ (scale + 1)
  let scale : Int := (Nat.log2 num : Int) - (Nat.log2 den : Int)
  let atLeast : Bool :=
    if 0 ≤ scale then den * Nat.pow 2 scale.toNat ≤ num else den ≤ num * Nat.pow 2 (-scale).toNat
  let top : Int := if atLeast then scale else scale - 1
  let power : Int := max (top - 52) (-1074)
  let m :=
    if 0 ≤ power then roundHalfEven num (den * Nat.pow 2 power.toNat)
    else roundHalfEven (num * Nat.pow 2 (-power).toNat) den
  let (m, power) := if m = Nat.pow 2 53 then (Nat.pow 2 52, power + 1) else (m, power)
  if m < Nat.pow 2 52 then ofParts negative 0 m
  else if power + 1075 ≥ 2047 then infinity negative
  else ofParts negative (power + 1075).toNat (m - Nat.pow 2 52)

/-- The nearest number to `digits · 10 ^ power`.  Numbers far outside the range are settled without
computing the power. -/
def ofDecimal (negative : Bool) (digits : Nat) (power : Int) : Binary64 :=
  if digits = 0 then zero negative
  else if power > 400 then infinity negative
  else if power + (Nat.log2 digits : Int) < -1200 then zero negative
  else if 0 ≤ power then ofRatio negative (digits * Nat.pow 10 power.toNat) 1
  else ofRatio negative digits (Nat.pow 10 (-power).toNat)

/-- The nearest number to an integer. -/
def ofInt (n : Int) : Binary64 :=
  if n = 0 then zero false else ofRatio (n < 0) n.natAbs 1

/-- The integer that a finite number equals, if it equals one. -/
def toInt? (x : Binary64) : Option Int :=
  if !x.isFinite then none
  else
    let m := x.mantissa
    let size : Option Nat :=
      if 0 ≤ x.exponent then some (m * Nat.pow 2 x.exponent.toNat)
      else if m % Nat.pow 2 (-x.exponent).toNat = 0 then some (m / Nat.pow 2 (-x.exponent).toNat)
      else none
    size.map fun n => if x.isNegative then -(n : Int) else (n : Int)

/-- The sum, rounded to the nearest number. -/
def add (x y : Binary64) : Binary64 := ⟨(Float.ofBits x.bits + Float.ofBits y.bits).toBits⟩

/-- The product, rounded to the nearest number. -/
def mul (x y : Binary64) : Binary64 := ⟨(Float.ofBits x.bits * Float.ofBits y.bits).toBits⟩

/-- Equality of numbers: the two zeros are equal and a NaN equals nothing. -/
def sameNumber (x y : Binary64) : Bool :=
  !x.isNaN && !y.isNaN && (x == y || (x.isZero && y.isZero))

end Binary64

end DashboardKit
