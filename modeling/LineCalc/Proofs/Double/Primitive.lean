/-
Primitive — operations that may trap.

Below the calculator lie operations that do not take all arguments: they
trap instead of giving a result.  Here they are as they are found, together
with the conditions under which each of them gives one.  A power that traps
is rescued by the calculator, and then it is the power of binary64.

## Main definitions

  * `Trap` — the ways in which an operation refuses its arguments.
  * `Double.truncate`, `Double.convert`, `Double.divide`,
    `Double.remainderVanishes`, `Double.power` — operations that may trap.
  * `Double.rescuedPower` — the power with its traps turned into values.

## Main statements

  * `Double.remainderVanishes_eq` — the remainder by two decides which
    whole numbers are even.
  * `Double.convert_eq` — numbers below `2 ^ 63` can be converted.
  * `Double.rescuedPower_eq` — the rescued power is the power.
-/

import LineCalc.Double.Trigonometry
import LineCalc.Proofs.Double.PowerSign
import LineCalc.Proofs.Double.Whole

namespace LineCalc

/-- **Trap**: how an operation refuses its arguments. -/
inductive Trap where
  /-- An argument outside the domain. -/
  | domain
  /-- A result or a conversion beyond the range. -/
  | overflow
  /-- A zero as divisor. -/
  | zeroDivision
  deriving DecidableEq, Inhabited

namespace Double

/-! ## §1. Operations -/

def truncate : Double → Except Trap Int
  | nan => .error .domain
  | infinity _ => .error .overflow
  | finite neg units _ =>
    let magnitude : Int := units / unitsPerOne
    .ok (if neg then -magnitude else magnitude)

def convert (n : Nat) : Except Trap Double :=
  if (ofNat n).isFinite then .ok (ofNat n) else .error .overflow

def divide (x y : Double) : Except Trap Double :=
  if y.isZero then .error .zeroDivision else .ok (x.div y)

/-- Whether the remainder of a division by two is a zero. -/
def remainderVanishes : Double → Except Trap Bool
  | nan => .ok false
  | infinity _ => .error .domain
  | finite _ units _ => .ok (units % (2 * unitsPerOne) == 0)

/-- A function of angles, which has no value at an infinity. -/
def angular (x : Option Double) : Except Trap Double :=
  match x with
  | some y => .ok y
  | none => .error .domain

/-- The power.  Of finite numbers it gives finite results only: a zero has no negative powers and a
number below zero none that are not whole. -/
def power (x y : Double) : Except Trap Double :=
  if x.isFinite && y.isFinite then
    match x.pow y with
    | nan => .error .domain
    | infinity _ => if x.isZero then .error .domain else .error .overflow
    | finite neg units fits => .ok (finite neg units fits)
  else .ok (x.pow y)

/-- Whether a number is odd: a whole one that leaves a rest when it is divided by two. -/
def oddTest (x : Double) : Except Trap Bool :=
  if x.toInt?.isSome then (remainderVanishes x).map fun vanishes => !vanishes else .ok false

/-- An infinity, negative if the test says so.  The test is made only if the sign is in doubt. -/
def infinityBy (doubt : Bool) (y : Double) : Except Trap Double :=
  if doubt then (oddTest y).map infinity else .ok (infinity false)

/-- **The rescued power**: a trap becomes the value that binary64 gives. -/
def rescuedPower (x y : Double) : Except Trap Double :=
  match power x y with
  | .ok z => .ok z
  | .error .overflow => infinityBy x.isBelowZero y
  | .error .domain => if x.isZero then infinityBy x.isSigned y else .ok nan
  | .error .zeroDivision => .error .zeroDivision

/-! ## §2. Whole numbers -/

theorem truncate_of_toInt? {x : Double} {n : Int} (h : x.toInt? = some n) :
    truncate x = .ok n := by
  cases x with
  | nan => exact nomatch h
  | infinity => exact nomatch h
  | finite neg units fits =>
    unfold toInt? at h
    dsimp only at h
    split at h
    · obtain rfl := Option.some.inj h
      rfl
    · exact nomatch h

/-- **The remainder by two** decides which numbers are even, and traps at the infinities. -/
theorem remainderVanishes_eq (x : Double) :
    remainderVanishes x = if x.isInfinite then .error .domain else .ok x.isEvenInteger := by
  cases x with
  | nan => rfl
  | infinity => rfl
  | finite neg units fits =>
    have finite : (Double.finite neg units fits).isInfinite = false := rfl
    rw [finite, isEvenInteger_finite]
    rfl

theorem oddTest_eq (x : Double) : oddTest x = .ok x.isOddInteger := by
  unfold oddTest
  rw [remainderVanishes_eq, isOddInteger_eq]
  cases whole : x.toInt? with
  | none => rfl
  | some n =>
    have finite : x.isInfinite = false := by
      cases x with
      | infinity => exact nomatch whole
      | nan => rfl
      | finite => rfl
    rw [finite]
    rfl

/-- Natural numbers below `2 ^ 63` are converted without a trap. -/
theorem convert_eq {n : Nat} (h : n < twoTo 63) : convert n = .ok (ofNat n) :=
  if_pos (isFinite_ofNat h (by decide))

/-! ## §3. Powers -/

/-- An infinity of the sign of a power: a signed base with an odd exponent. -/
theorem infinityBy_eq (signed : Bool) (y : Double) :
    infinityBy signed y = .ok (infinity (signed && y.isOddInteger)) := by
  unfold infinityBy
  rw [oddTest_eq]
  cases signed <;> rfl

theorem rescuedPower_finite (s t : Bool) {u v : Nat} (fits : Representable u)
    (fits' : Representable v) :
    rescuedPower (finite s u fits) (finite t v fits') =
      .ok ((finite s u fits).pow (finite t v fits')) := by
  have bounded : ((finite s u fits).isFinite && (finite t v fits').isFinite) = true := rfl
  unfold rescuedPower power
  rw [if_pos bounded]
  cases result : (finite s u fits).pow (finite t v fits') with
  | nan =>
    -- Only numbers below zero have undefined powers.
    have nonzero : (finite s u fits).isZero = false := beq_eq_false_iff_ne.2 (pow_eq_nan result).1
    simp only [nonzero, Bool.false_eq_true, if_false]
  | infinity neg =>
    -- Zeros and other bases trap differently, and both are rescued with the same sign.
    have sign := pow_eq_infinity result
    by_cases zero : u = 0
    · have isZero : (finite s u fits).isZero = true := beq_iff_eq.2 zero
      have signed : (finite s u fits).isSigned = s := rfl
      simp only [isZero, if_true, infinityBy_eq]
      rw [sign, signed]
    · have isZero : (finite s u fits).isZero = false := beq_eq_false_iff_ne.2 zero
      have below : (finite s u fits).isBelowZero = s := by
        show (s && u != 0) = s
        rw [bne_iff_ne.2 zero, Bool.and_true]
      simp only [isZero, Bool.false_eq_true, if_false, infinityBy_eq]
      rw [sign, below]
  | finite => rfl

/-- **The rescued power never traps** and is the power of binary64. -/
theorem rescuedPower_eq (x y : Double) : rescuedPower x y = .ok (x.pow y) := by
  by_cases bounded : (x.isFinite && y.isFinite) = true
  · obtain ⟨finiteX, finiteY⟩ := (Bool.and_eq_true _ _).mp bounded
    cases x with
    | nan => exact nomatch finiteX
    | infinity => exact nomatch finiteX
    | finite s u fits =>
      cases y with
      | nan => exact nomatch finiteY
      | infinity => exact nomatch finiteY
      | finite t v fits' => exact rescuedPower_finite s t fits fits'
  · unfold rescuedPower power
    rw [if_neg bounded]

end Double

end LineCalc
