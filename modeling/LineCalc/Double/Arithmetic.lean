/-
Arithmetic — the four operations on doubles.

Each operation forms its exact result as a ratio of units and rounds once.
The remaining cases are those of binary64: an infinity absorbs finite
numbers, and an operation without a limit (`∞ - ∞`, `0 · ∞`, `0 / 0`,
`∞ / ∞`) gives a NaN.

## Main statements

  * `Double.neg_neg` — negation undoes itself.
  * `Double.abs_neg` — the magnitude forgets the sign.
-/

import LineCalc.Double.Basic

namespace LineCalc

namespace Double

/-! ## §1. Sign -/

def neg : Double → Double
  | nan => nan
  | infinity s => infinity (!s)
  | finite s units fits => finite (!s) units fits

def abs : Double → Double
  | nan => nan
  | infinity _ => infinity false
  | finite _ units fits => finite false units fits

theorem neg_neg (x : Double) : x.neg.neg = x := by
  cases x <;> simp [neg]

theorem abs_neg (x : Double) : x.neg.abs = x.abs := by
  cases x <;> rfl

/-! ## §2. Sum and difference -/

/-- A signed count of units as an integer. -/
def signedUnits (neg : Bool) (units : Nat) : Int := if neg then -(units : Int) else units

/-- The rounded sum of two finite doubles.  An exact zero is negative only if both terms are. -/
def addUnits (s : Bool) (a : Nat) (t : Bool) (b : Nat) : Double :=
  let total := signedUnits s a + signedUnits t b
  if total = 0 then zero (s && t) else ofRatio (total < 0) total.natAbs 1

def add : Double → Double → Double
  | nan, _ => nan
  | _, nan => nan
  | infinity s, infinity t => if s = t then infinity s else nan
  | infinity s, finite _ _ _ => infinity s
  | finite _ _ _, infinity t => infinity t
  | finite s a _, finite t b _ => addUnits s a t b

def sub (x y : Double) : Double := x.add y.neg

/-! ## §3. Product and quotient -/

def mul : Double → Double → Double
  | nan, _ => nan
  | _, nan => nan
  | infinity s, infinity t => infinity (s ^^ t)
  | infinity s, finite t b _ => if b = 0 then nan else infinity (s ^^ t)
  | finite s a _, infinity t => if a = 0 then nan else infinity (s ^^ t)
  | finite s a _, finite t b _ => ofRatio (s ^^ t) (a * b) unitsPerOne

def div : Double → Double → Double
  | nan, _ => nan
  | _, nan => nan
  | infinity _, infinity _ => nan
  | infinity s, finite t _ _ => infinity (s ^^ t)
  | finite s _ _, infinity t => zero (s ^^ t)
  | finite s a _, finite t b _ =>
    if b = 0 then (if a = 0 then nan else infinity (s ^^ t))
    else ofRatio (s ^^ t) (a * unitsPerOne) b

def reciprocal (x : Double) : Double := one.div x

end Double

end LineCalc
