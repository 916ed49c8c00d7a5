/-
Enclosure — intervals with dyadic ends, for functions without exact values.

At a **scale** `p` an enclosure `⟨lo, hi⟩` is the interval from
`lo · 2 ^ -p` to `hi · 2 ^ -p`.  Every operation rounds its ends outward,
so an enclosure of the arguments is meant to give one of the result; this is
not proved.  A function value is settled once both ends of its enclosure
round to the same double; until then the work is done again at twice the
precision.

## Main definitions

  * `Enclosure` and its arithmetic.
  * `Enclosure.series` — the sum of a series whose terms at least halve.
  * `Enclosure.settle` — the double on which both ends agree.
-/

import LineCalc.Double.Basic

namespace LineCalc

/-- **Enclosure**: an interval, its ends counted in some power of two. -/
structure Enclosure where
  lo : Int
  hi : Int
  deriving DecidableEq, Inhabited

namespace Enclosure

/-! ## §1. Arithmetic -/

/-- The greatest integer not above `a / d`. -/
def floorDiv (a : Int) (d : Nat) : Int := Int.fdiv a d

/-- The least integer not below `a / d`. -/
def ceilDiv (a : Int) (d : Nat) : Int := -Int.fdiv (-a) d

/-- The enclosure of the ratio `num / den` at scale `p`. -/
def ofRatio (p : Nat) (num : Int) (den : Nat) : Enclosure :=
  ⟨floorDiv (num * twoTo p) den, ceilDiv (num * twoTo p) den⟩

def unit (p : Nat) : Enclosure := ⟨twoTo p, twoTo p⟩

def add (a b : Enclosure) : Enclosure := ⟨a.lo + b.lo, a.hi + b.hi⟩

def neg (a : Enclosure) : Enclosure := ⟨-a.hi, -a.lo⟩

/-- The enclosure of differences. -/
def sub (a b : Enclosure) : Enclosure := a.add b.neg

/-- The enclosure of multiples by an integer. -/
def scale (a : Enclosure) (k : Int) : Enclosure :=
  if 0 ≤ k then ⟨a.lo * k, a.hi * k⟩ else ⟨a.hi * k, a.lo * k⟩

/-- The enclosure of quotients by a positive natural number. -/
def shrink (a : Enclosure) (d : Nat) : Enclosure := ⟨floorDiv a.lo d, ceilDiv a.hi d⟩

/-- The enclosure of products at scale `p`. -/
def mul (p : Nat) (a b : Enclosure) : Enclosure :=
  let w := a.lo * b.lo
  let x := a.lo * b.hi
  let y := a.hi * b.lo
  let z := a.hi * b.hi
  ⟨floorDiv (min (min w x) (min y z)) (twoTo p), ceilDiv (max (max w x) (max y z)) (twoTo p)⟩

/-- The enclosure of quotients at scale `p` by positive numbers. -/
def divPositive (p : Nat) (a b : Enclosure) : Enclosure :=
  let below := if 0 ≤ a.lo then b.hi else b.lo
  let above := if 0 ≤ a.hi then b.lo else b.hi
  ⟨floorDiv (a.lo * twoTo p) below.natAbs, ceilDiv (a.hi * twoTo p) above.natAbs⟩

/-- The enclosure of quotients at scale `p`, if the divisor is known not to be zero. -/
def div? (p : Nat) (a b : Enclosure) : Option Enclosure :=
  if 0 < b.lo then some (divPositive p a b)
  else if b.hi < 0 then some (divPositive p a.neg b.neg)
  else none

/-- The enclosure with its ends moved apart. -/
def widen (a : Enclosure) (slack : Nat) : Enclosure := ⟨a.lo - slack, a.hi + slack⟩

/-! ## §2. Series -/

/-- **Series**: the sum of `term / weight i` over the terms that `next` produces one from the
other.  The terms at least halve, so those after a term of at most one unit add up to no more
than two. -/
def series (next : Nat → Enclosure → Enclosure) (weight : Nat → Nat) :
    Nat → Nat → Enclosure → Enclosure
  | 0, _, term => term.widen 2
  | bound + 1, i, term =>
    -- Once a term is at most one unit, all that follow come to at most two.
    let share := term.shrink (weight i)
    if -1 ≤ term.lo ∧ term.hi ≤ 1 then share.widen 2
    else share.add (series next weight bound (i + 1) (next i term))

/-! ## §3. Settling a value -/

/-- The double nearest to an end `n · 2 ^ -p` of an enclosure, rounded by `round`. -/
def roundEnd (round : Bool → Nat → Nat → Double) (p : Nat) (n : Int) : Double :=
  round (n < 0) (n.natAbs * Double.unitsPerOne) (twoTo p)

/-- The double on which both ends of an enclosure agree. -/
def agreed? (round : Bool → Nat → Nat → Double) (p : Nat) (a : Enclosure) : Option Double :=
  let x := roundEnd round p a.lo
  if x = roundEnd round p a.hi then some x else none

/-- **Settling**: the enclosures that `enclose` gives for growing precisions are tried until both
ends agree.  Each attempt names its own scale.  After `attempts` doublings of the precision the
lower end stands. -/
def settle (round : Bool → Nat → Nat → Double) (enclose : Nat → Nat × Option Enclosure) :
    Nat → Nat → Double
  | 0, precision =>
    let (p, a) := enclose precision
    roundEnd round p ((a.map lo).getD 0)
  | attempts + 1, precision =>
    let (p, a) := enclose precision
    match a.bind (agreed? round p) with
    | some x => x
    | none => settle round enclose attempts (2 * precision)

/-- The precision of the first attempt, in bits. -/
def firstPrecision : Nat := 128

/-- The number of times that the precision is doubled. -/
def doublings : Nat := 6

end Enclosure

end LineCalc
