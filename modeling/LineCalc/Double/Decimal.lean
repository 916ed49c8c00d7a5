/-
Decimal — reading decimal values and writing exact ones.

A decimal value `m · 10 ^ e` becomes a ratio of units and is rounded once.
Exponents so large or so small that the result is known (an infinity, a
zero) are settled first, by comparing powers of ten with powers of eight,
so that no power of ten of an unbounded exponent is ever formed.

In the other direction every finite double has a finite decimal expansion:
a unit is `5 ^ 1074 · 10 ^ -1074`.

## Main definitions

  * `Double.ofDecimal` — the double nearest to `± m · 10 ^ e`.
  * `Decimal` — a row of significant digits with a decimal exponent.
  * `Double.expansion` — all digits of a finite double.
  * `Decimal.rounded` — a decimal with fewer digits, ties to even.
-/

import LineCalc.Double.Basic

namespace LineCalc

/-! ## §1. From decimal to binary -/

namespace Double

/-- The value `m · 10 ^ e` is at least `2 ^ 1024`, seen from `8 ^ e ≤ 10 ^ e`. -/
def plainlyHuge (m : Nat) (e : Int) : Bool := 0 ≤ e && 1024 ≤ (m.log2 : Int) + 3 * e

/-- The value `m · 10 ^ e` is below half a unit, seen from `10 ^ e ≤ 8 ^ e` for `e` below zero. -/
def plainlyTiny (m : Nat) (e : Int) : Bool := e < 0 && (m.log2 : Int) + 1 + 3 * e < -1075

/-- **Reading a decimal value**: the double nearest to `± m · 10 ^ e`, ties to even. -/
def ofDecimal (neg : Bool) (m : Nat) (e : Int) : Double :=
  -- The sign of a zero is kept.
  if m = 0 then zero neg
  else if plainlyHuge m e then infinity neg
  else if plainlyTiny m e then zero neg
  else if 0 ≤ e then ofRatio neg (m * tenTo e.toNat * unitsPerOne) 1
  else ofRatio neg (m * unitsPerOne) (tenTo (-e).toNat)

end Double

/-! ## §2. Decimal expansions -/

/-- **Decimal**: the number `coefficient · 10 ^ exponent`. -/
structure Decimal where
  coefficient : Nat
  exponent : Int
  deriving DecidableEq, Inhabited

namespace Decimal

/-- The decimal digits of the coefficient, the leading one first. -/
def digits (d : Decimal) : List Char := Nat.toDigits 10 d.coefficient

/-- The decimal exponent in scientific notation: that of the leading digit. -/
def leadingExponent (d : Decimal) : Int := d.digits.length - 1 + d.exponent

/-- The decimal with `places` zeros cut off at the end of its coefficient, or one digit
left over. -/
def cutZeros (coefficient : Nat) (exponent : Int) : Nat → Decimal
  | 0 => ⟨coefficient, exponent⟩
  | places + 1 =>
    if coefficient ≠ 0 ∧ coefficient % 10 = 0 then
      cutZeros (coefficient / 10) (exponent + 1) places
    else ⟨coefficient, exponent⟩

/-- The same number with no zero at the end of its coefficient. -/
def normalized (d : Decimal) : Decimal :=
  if d.coefficient = 0 then ⟨0, 0⟩ else cutZeros d.coefficient d.exponent d.digits.length

/-- **Rounding to a number of significant digits**, ties to even. -/
def rounded (d : Decimal) (count : Nat) : Decimal :=
  let surplus := d.digits.length - count
  if surplus = 0 then d
  else ⟨Double.roundQuotient d.coefficient (tenTo surplus), d.exponent + surplus⟩

end Decimal

namespace Double

/-- **Expansion**: the exact decimal value of a count of units. -/
def expansion (units : Nat) : Decimal := ⟨units * Nat.pow 5 1074, -1074⟩

end Double

end LineCalc
