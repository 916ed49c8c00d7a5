/-
Trigonometry — sine, cosine and tangent.

The argument, an exact ratio, is reduced by the nearest multiple of a
quarter turn; the remainder goes into the power series.  The scale is
chosen so that the result keeps the asked precision both for arguments
near zero and for large ones, whose reduction costs as many bits as the
argument has before its point.

It is not proved that the enclosures contain the true values.  As far as they
do, the functions are correctly rounded, where a C library may differ in the
last place.  All that is proved of them is where they are defined.

## Main definitions

  * `Double.sin?`, `Double.cos?`, `Double.tan?` — `none` for an infinity.

## Main statements

  * `Double.sin?_eq_none`, `Double.cos?_eq_none`, `Double.tan?_eq_none` —
    the functions are undefined at the infinities and nowhere else.
-/

import LineCalc.Double.Arithmetic
import LineCalc.Double.Enclosure

namespace LineCalc

namespace Enclosure

/-! ## §1. Series on small arguments -/

/-- A bound on the number of terms that count at scale `p`. -/
def termBound (p : Nat) : Nat := p + 64

/-- The arc tangent of `1 / n` at scale `p`. -/
def arctanInverse (p n : Nat) : Enclosure :=
  series (fun _ term => (term.shrink (n * n)).neg) (fun i => 2 * i + 1) (termBound p) 0
    (ofRatio p 1 n)

/-- A quarter turn, `π / 2 = 8 · arctan (1 / 5) - 2 · arctan (1 / 239)`. -/
def quarterTurn (p : Nat) : Enclosure :=
  ((arctanInverse p 5).scale 8).sub ((arctanInverse p 239).scale 2)

def sinSmall (p : Nat) (angle : Enclosure) : Enclosure :=
  let square := mul p angle angle
  series (fun i term => ((mul p term square).shrink ((2 * i + 2) * (2 * i + 3))).neg) (fun _ => 1)
    (termBound p) 0 angle

def cosSmall (p : Nat) (angle : Enclosure) : Enclosure :=
  let square := mul p angle angle
  series (fun i term => ((mul p term square).shrink ((2 * i + 1) * (2 * i + 2))).neg) (fun _ => 1)
    (termBound p) 0 (unit p)

/-! ## §2. Reduction -/

/-- The scale at which an angle of `units` units keeps `precision` bits. -/
def angleScale (precision units : Nat) : Nat :=
  precision + ((units.log2 : Int) - 1074).natAbs + 8

/-- **Reduction**: the number of quarter turns nearest to the angle, and the rest. -/
def reduce (p units : Nat) : Int × Enclosure :=
  let angle := ofRatio p units Double.unitsPerOne
  let quarter := quarterTurn p
  -- Any whole number near the quotient will do: the rest is enclosed exactly.
  let turns := floorDiv (2 * angle.lo + quarter.lo) (2 * quarter.lo).natAbs
  (turns, angle.sub (quarter.scale turns))

/-- The sine and the cosine of an angle of `units` units. -/
def sinCos (p units : Nat) : Enclosure × Enclosure :=
  -- Each quarter turn exchanges the two functions and changes one sign.
  let (turns, rest) := reduce p units
  let s := sinSmall p rest
  let c := cosSmall p rest
  if turns % 4 = 0 then (s, c)
  else if turns % 4 = 1 then (c, s.neg)
  else if turns % 4 = 2 then (s.neg, c.neg)
  else (c.neg, s)

/-- The double nearest to a function of the sine and the cosine of an angle. -/
def ofAngle (f : Nat → Enclosure × Enclosure → Option Enclosure) (units : Nat) : Double :=
  settle Double.nearestFinite
    (fun precision =>
      let p := angleScale precision units
      (p, f p (sinCos p units)))
    doublings firstPrecision

end Enclosure

namespace Double

/-! ## §3. The three functions -/

/-- The sine; undefined at an infinity. -/
def sin? : Double → Option Double
  | nan => some nan
  | infinity _ => none
  | finite s units _ =>
    if units = 0 then some (zero s)
    else
      let x := Enclosure.ofAngle (fun _ sc => some sc.1) units
      some (if s then x.neg else x)

/-- The cosine; undefined at an infinity. -/
def cos? : Double → Option Double
  | nan => some nan
  | infinity _ => none
  | finite _ units _ =>
    if units = 0 then some one else some (Enclosure.ofAngle (fun _ sc => some sc.2) units)

/-- The tangent; undefined at an infinity. -/
def tan? : Double → Option Double
  | nan => some nan
  | infinity _ => none
  | finite s units _ =>
    if units = 0 then some (zero s)
    else
      let x := Enclosure.ofAngle (fun p sc => Enclosure.div? p sc.1 sc.2) units
      some (if s then x.neg else x)

theorem sin?_eq_none {x : Double} : x.sin? = none ↔ x.isInfinite = true := by
  cases x with
  | finite s units fits => by_cases h : units = 0 <;> simp [sin?, isInfinite, h]
  | _ => simp [sin?, isInfinite]

theorem cos?_eq_none {x : Double} : x.cos? = none ↔ x.isInfinite = true := by
  cases x with
  | finite s units fits => by_cases h : units = 0 <;> simp [cos?, isInfinite, h]
  | _ => simp [cos?, isInfinite]

/-- The tangent is undefined at the infinities and nowhere else. -/
theorem tan?_eq_none {x : Double} : x.tan? = none ↔ x.isInfinite = true := by
  cases x with
  | finite s units fits => by_cases h : units = 0 <;> simp [tan?, isInfinite, h]
  | _ => simp [tan?, isInfinite]

end Double

end LineCalc
