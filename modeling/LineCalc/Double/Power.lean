/-
Power — `x ^ y` for all pairs of doubles.

The sign of a power is settled before its magnitude: it is negative exactly
for a negative base with an odd whole exponent.  Magnitudes that are exact
ratios (whole exponents of moderate size, and roots that come out even) are
formed exactly and rounded once; all others go through the logarithm and
the exponential function in enclosures.

It is not proved that the enclosures contain the true values.  As far as they
do, powers are correctly rounded, where a C library may differ in the last
place.  No law of powers depends on that place.

## Main definitions

  * `Double.powMagnitude` — powers of positive finite numbers.
  * `Double.pow` — powers of all doubles.

## Main statements

  * `Double.pow_zero` — a power with exponent zero is one, even of a NaN.
  * `Double.one_pow` — a power of one is one, even with a NaN as exponent.
-/

import LineCalc.Double.Arithmetic
import LineCalc.Double.Enclosure

namespace LineCalc

namespace Enclosure

/-! ## §1. Logarithm and exponential function -/

/-- The sum `z + z ^ 3 / 3 + z ^ 5 / 5 + …`, half the logarithm of `(1 + z) / (1 - z)`. -/
def artanh (p : Nat) (z : Enclosure) : Enclosure :=
  let square := mul p z z
  series (fun _ term => mul p term square) (fun i => 2 * i + 1) (p + 64) 0 z

/-- The natural logarithm of two. -/
def logTwo (p : Nat) : Enclosure := (artanh p (ofRatio p 1 3)).scale 2

/-- The natural logarithm of a positive number of units. -/
def log (p units : Nat) : Enclosure :=
  let lead := units.log2
  -- The nearer power of two is divided out, so that numbers around one lose no digits.
  let binade := if units * 2 < 3 * twoTo lead then lead else lead + 1
  let z := ofRatio p ((units : Int) - twoTo binade) (units + twoTo binade)
  ((logTwo p).scale ((binade : Int) - 1074)).add ((artanh p z).scale 2)

/-- The exponential of a small number. -/
def expSmall (p : Nat) (x : Enclosure) : Enclosure :=
  series (fun i term => (mul p term x).shrink (i + 1)) (fun _ => 1) (p + 64) 0 (unit p)

end Enclosure

namespace Double

/-! ## §2. Exact powers -/

/-- The greatest number whose square is at most `n`. -/
def squareRoot (n : Nat) : Nat :=
  if n = 0 then 0
  else
    let half := 2 * squareRoot (n / 4)
    if (half + 1) * (half + 1) ≤ n then half + 1 else half
termination_by n
decreasing_by omega

/-- The number of times that two divides a positive number, and the odd rest. -/
def oddPart (n : Nat) : Nat × Nat :=
  if n % 2 = 0 ∧ n ≠ 0 then
    let (twos, odd) := oddPart (n / 2)
    (twos + 1, odd)
  else (0, n)
termination_by n
decreasing_by omega

/-- The `2 ^ times`-th root of `odd · 2 ^ e`, if it is of that form again. -/
def exactRoot? (odd : Nat) (e : Int) : Nat → Option (Nat × Int)
  | 0 => some (odd, e)
  | times + 1 =>
    let root := squareRoot odd
    if e % 2 = 0 ∧ root * root = odd then exactRoot? root (e / 2) times else none

/-- The largest whole exponent whose powers are formed exactly. -/
def exactExponent : Nat := 1100

/-- The ratio `2 ^ e`, as numerator and denominator. -/
def twoPower (e : Int) : Nat × Nat :=
  if 0 ≤ e then (twoTo e.toNat, 1) else (1, twoTo (-e).toNat)

/-- **Exact power**: `units ^ ± exponent`, where both count units, as a ratio of units. -/
def exactPower? (units : Nat) (negExponent : Bool) (exponent : Nat) : Option (Nat × Nat) :=
  let (twos, odd) := oddPart units
  let (halves, oddExponent) := oddPart exponent
  -- The exponent is `oddExponent · 2 ^ (halves - 1074)`: a whole number, or a root of a power.
  let n := oddExponent * twoTo (halves - 1074)
  if exactExponent < n then none
  else
    (exactRoot? odd ((twos : Int) - 1074) (1074 - halves)).map fun (root, e) =>
      let (up, down) := twoPower (e * n)
      let num := Nat.pow root n * up
      if negExponent then (down * unitsPerOne, num) else (num * unitsPerOne, down)

/-! ## §3. Powers of positive numbers -/

/-- The enclosure of `x ^ y` without its binary exponent, and that exponent; settled ends of the
range come out as `none` with the side on which they lie. -/
inductive Magnitude where
  | huge
  | tiny
  | scaled (p : Nat) (e : Int) (a : Enclosure)

/-- The magnitude of `units ^ ± exponent` to `precision` bits. -/
def Magnitude.enclose (units : Nat) (negExponent : Bool) (exponent precision : Nat) : Magnitude :=
  let p := precision + ((exponent.log2 : Int) - 1074).toNat + 16
  let product := ((Enclosure.log p units).scale (signedUnits negExponent exponent)).shrink unitsPerOne
  -- `exp 710` is beyond `2 ^ 1024`, and `exp (-746)` is below half a unit.
  if 710 * (twoTo p : Int) ≤ product.lo then huge
  else if product.hi ≤ -746 * (twoTo p : Int) then tiny
  else
    let two := Enclosure.logTwo p
    let e := Enclosure.floorDiv (2 * product.lo + two.lo) (2 * two.lo).natAbs
    scaled p e (Enclosure.expSmall p (product.sub (two.scale e)))

/-- The double of sign `neg` nearest to an end of a magnitude. -/
def Magnitude.roundEnd (neg : Bool) (p : Nat) (e n : Int) : Double :=
  let (up, down) := twoPower e
  ofRatio neg (n.natAbs * up * unitsPerOne) (twoTo p * down)

/-- The double of sign `neg` nearest to the power that `enclose` encloses ever more tightly. -/
def Magnitude.settle (neg : Bool) (enclose : Nat → Magnitude) : Nat → Nat → Double
  | attempts, precision =>
    match enclose precision with
    | huge => infinity neg
    | tiny => zero neg
    | scaled p e a =>
      let x := roundEnd neg p e a.lo
      match attempts with
      | 0 => x
      | more + 1 =>
        if x = roundEnd neg p e a.hi then x else settle neg enclose more (2 * precision)

/-- **Powers of positive numbers**: `± units ^ ± exponent`, where the numbers count units. -/
def powMagnitude (neg : Bool) (units : Nat) (negExponent : Bool) (exponent : Nat) : Double :=
  if units = unitsPerOne then (if neg then one.neg else one)
  else
    match exactPower? units negExponent exponent with
    | some (num, den) => ofRatio neg num den
    | none =>
      Magnitude.settle neg (Magnitude.enclose units negExponent exponent)
        Enclosure.doublings Enclosure.firstPrecision

/-! ## §4. Powers of all doubles -/

/-- The power with an infinite exponent: one for a base of magnitude one. -/
def powInfinite (x : Double) (negExponent : Bool) : Double :=
  match x with
  | nan => nan
  | infinity _ => if negExponent then zero false else infinity false
  | finite _ units _ =>
    if units = unitsPerOne then one
    else if decide (units < unitsPerOne) == negExponent then infinity false
    else zero false

/-- **Power**. -/
def pow (x y : Double) : Double :=
  if y.isZero ∨ x = one then one
  else
    match x, y with
    | nan, _ => nan
    | _, nan => nan
    | x, infinity negExponent => powInfinite x negExponent
    | infinity s, finite negExponent v fits =>
      let neg := s && (finite negExponent v fits).isOddInteger
      if negExponent then zero neg else infinity neg
    | finite s u _, finite negExponent v fits =>
      let neg := s && (finite negExponent v fits).isOddInteger
      if u = 0 then (if negExponent then infinity neg else zero neg)
      else if s && (finite negExponent v fits).toInt?.isNone then nan
      else powMagnitude neg u negExponent v

theorem pow_zero {x y : Double} (h : y.isZero = true) : x.pow y = one := by
  simp [pow, h]

theorem one_pow (y : Double) : one.pow y = one := by
  simp [pow]

end Double

end LineCalc
