/-
Reflection — powers of a base and of its opposite.

The sign of a power is settled apart from its magnitude, and the magnitude is
that of a power of the magnitude of the base.  So a whole exponent takes
opposite bases to opposite powers if it is odd, and to the same power if it
is even, whether the power is within the range, too small for it or too
great.

## Main statements

  * `Double.neg_powMagnitude` — the magnitude of a power does not depend on its
    sign.
  * `Double.pow_of_toInt?` — a power with a whole exponent has the magnitude
    of the power of the magnitude.
  * `Double.pow_neg_of_odd`, `Double.pow_neg_of_even` — powers of opposite
    bases.
  * `Double.hasSign_pow_of_unsigned` — powers of numbers without a sign have
    none.
  * `Double.hasSign_pow` — the sign of a power with a whole exponent.
-/

import LineCalc.Double.Arithmetic
import LineCalc.Proofs.Double.Exact
import LineCalc.Proofs.Double.PowerSign

namespace LineCalc

namespace Double

/-! ## §1. Opposite magnitudes -/

theorem neg_inj {x y : Double} : x.neg = y.neg ↔ x = y := by
  constructor
  · intro same
    rw [← neg_neg x, same, neg_neg]
  · rintro rfl
    rfl

theorem neg_ofRatio (neg : Bool) (num den : Nat) :
    (ofRatio neg num den).neg = ofRatio (!neg) num den := by
  by_cases inside : roundUnits num den < limit
  · rw [ofRatio_of_lt inside, ofRatio_of_lt inside]
    rfl
  · rw [ofRatio_of_not_lt inside, ofRatio_of_not_lt inside]
    rfl

theorem Magnitude.neg_roundEnd (neg : Bool) (p : Nat) (e n : Int) :
    (roundEnd neg p e n).neg = roundEnd (!neg) p e n :=
  neg_ofRatio neg _ _

/-- A power of one sign is settled in the same attempt as that of the other sign. -/
theorem Magnitude.neg_settle (neg : Bool) (enclose : Nat → Magnitude) (attempts precision : Nat) :
    (settle neg enclose attempts precision).neg = settle (!neg) enclose attempts precision := by
  induction attempts generalizing precision with
  | zero =>
    unfold settle
    cases enclose precision with
    | huge => rfl
    | tiny => rfl
    | scaled p e a => exact neg_roundEnd neg p e a.lo
  | succ attempts ih =>
    unfold settle
    cases enclose precision with
    | huge => rfl
    | tiny => rfl
    | scaled p e a =>
      dsimp only
      -- Both ends are reflected, so they agree for one sign if they do for the other.
      rw [← neg_roundEnd, ← neg_roundEnd]
      by_cases agree : roundEnd neg p e a.lo = roundEnd neg p e a.hi
      · rw [if_pos agree, if_pos (neg_inj.2 agree)]
      · rw [if_neg agree, if_neg (mt neg_inj.1 agree)]
        exact ih _

/-- **The magnitude of a power does not depend on its sign**. -/
theorem neg_powMagnitude (neg : Bool) (units : Nat) (negExponent : Bool) (exponent : Nat) :
    (powMagnitude neg units negExponent exponent).neg =
      powMagnitude (!neg) units negExponent exponent := by
  unfold powMagnitude
  by_cases unit : units = unitsPerOne
  · rw [if_pos unit, if_pos unit]
    cases neg
    · rfl
    · exact neg_neg one
  · rw [if_neg unit, if_neg unit]
    cases exactPower? units negExponent exponent with
    | none => exact Magnitude.neg_settle neg _ _ _
    | some ratio => exact neg_ofRatio neg _ _

/-! ## §2. Whole exponents -/

def negIf (flag : Bool) (x : Double) : Double := if flag then x.neg else x

theorem isOddInteger_of_isZero {y : Double} (zero : y.isZero = true) : y.isOddInteger = false := by
  unfold isOddInteger
  rw [toInt?_of_isZero zero]
  rfl

section exponent

variable {s t : Bool} {u v : Nat} {fits : Representable u} {fits' : Representable v}

theorem pow_infinity (exponent : (finite t v fits').isZero = false) :
    (infinity s).pow (finite t v fits') =
      if t then zero (s && (finite t v fits').isOddInteger)
      else infinity (s && (finite t v fits').isOddInteger) := by
  have other : ¬ infinity s = one := nofun
  unfold pow
  rw [exponent, if_neg (not_or.2 ⟨Bool.false_ne_true, other⟩)]

theorem pow_zero_base {none : Representable 0} (exponent : (finite t v fits').isZero = false) :
    (finite s 0 none).pow (finite t v fits') =
      if t then infinity (s && (finite t v fits').isOddInteger)
      else zero (s && (finite t v fits').isOddInteger) := by
  have other : ¬ finite s 0 none = one := by
    intro unit
    obtain ⟨-, same⟩ := Double.finite.inj unit
    exact absurd same (Nat.ne_of_lt unitsPerOne_pos)
  unfold pow
  rw [exponent, if_neg (not_or.2 ⟨Bool.false_ne_true, other⟩)]
  exact if_pos rfl

/-- The power of any other finite number.  The power of one is no case of its own. -/
theorem pow_finite (nonzero : u ≠ 0) (exponent : (finite t v fits').isZero = false) :
    (finite s u fits).pow (finite t v fits') =
      if s && (finite t v fits').toInt?.isNone then nan
      else powMagnitude (s && (finite t v fits').isOddInteger) u t v := by
  by_cases unit : finite s u fits = one
  · obtain ⟨unsigned, same⟩ := Double.finite.inj unit
    rw [unit, one_pow, unsigned, Bool.false_and, Bool.false_and, if_neg Bool.false_ne_true,
      powMagnitude, if_pos same]
    rfl
  · unfold pow
    rw [exponent, if_neg (not_or.2 ⟨Bool.false_ne_true, unit⟩)]
    dsimp only
    rw [if_neg nonzero]

end exponent

/-- **A power with a whole exponent** has the magnitude of the power of the magnitude, and is signed
if the base is and the exponent is odd. -/
theorem pow_of_toInt? {y : Double} {n : Int} (whole : y.toInt? = some n) (x : Double) :
    x.pow y = (x.abs.pow y).negIf (x.isSigned && y.isOddInteger) := by
  by_cases zero : y.isZero = true
  · rw [pow_zero zero, pow_zero zero, isOddInteger_of_isZero zero, Bool.and_false]
    rfl
  obtain ⟨t, v, fits', m, rfl, -, -⟩ := toInt?_eq_some_iff.1 whole
  have exponent : (finite t v fits').isZero = false := Bool.eq_false_iff.2 zero
  -- An unsigned base is its own magnitude; for a signed one the kinds of bases are looked at.
  cases x with
  | nan => rfl
  | infinity s =>
    cases s with
    | false => rfl
    | true =>
      show (infinity true).pow _ = ((infinity false).pow _).negIf (finite t v fits').isOddInteger
      rw [pow_infinity exponent, pow_infinity exponent]
      cases t <;> cases (finite _ v fits').isOddInteger <;> rfl
  | finite s u fits =>
    cases s with
    | false => rfl
    | true =>
      show (finite true u fits).pow _ =
        ((finite false u fits).pow _).negIf (finite t v fits').isOddInteger
      by_cases nought : u = 0
      · subst nought
        rw [pow_zero_base exponent, pow_zero_base exponent]
        cases t <;> cases (finite _ v fits').isOddInteger <;> rfl
      · rw [pow_finite nought exponent, pow_finite nought exponent, whole]
        simp only [Option.isNone_some, Bool.and_false, Bool.true_and, Bool.false_and,
          Bool.false_eq_true, if_false]
        cases (finite t v fits').isOddInteger with
        | false => rfl
        | true => exact (neg_powMagnitude false u t v).symm

theorem isSigned_neg {x : Double} (number : x ≠ nan) : x.neg.isSigned = !x.isSigned := by
  cases x with
  | nan => exact absurd rfl number
  | infinity s => rfl
  | finite s u fits => rfl

/-- **An odd exponent** takes opposite bases to opposite powers. -/
theorem pow_neg_of_odd {y : Double} (odd : y.isOddInteger = true) (x : Double) :
    x.neg.pow y = (x.pow y).neg := by
  obtain ⟨n, whole⟩ : ∃ n, y.toInt? = some n := by
    rw [isOddInteger_eq, Bool.and_eq_true] at odd
    exact Option.isSome_iff_exists.1 odd.1
  -- A NaN has no sign to be taken out, and its power is a NaN, since an odd exponent is not zero.
  by_cases number : x = nan
  · rw [number]
    have power : nan.pow y = nan := by
      rw [pow_of_toInt? whole]
      cases y with
      | nan => exact nomatch whole
      | infinity => exact nomatch whole
      | finite t v fits =>
        have nonzero : (finite t v fits).isZero = false := by
          rw [Bool.eq_false_iff]
          intro zero
          rw [isOddInteger_of_isZero zero] at odd
          exact Bool.false_ne_true odd
        simp [pow, nonzero, abs, negIf, isSigned, one]
    show nan.pow y = (nan.pow y).neg
    rw [power]
    rfl
  · rw [pow_of_toInt? whole x, pow_of_toInt? whole x.neg, abs_neg, isSigned_neg number, odd]
    cases x.isSigned
    · rfl
    · exact (neg_neg _).symm

/-- **An even exponent** takes opposite bases to the same power. -/
theorem pow_neg_of_even {y : Double} (even : y.isEvenInteger = true) (x : Double) :
    x.neg.pow y = x.pow y := by
  obtain ⟨n, whole, -⟩ := isEvenInteger_iff.1 even
  rw [toRat?_eq_intCast_iff] at whole
  have notOdd : y.isOddInteger = false := by
    rw [isOddInteger_eq, even, Bool.not_true, Bool.and_false]
  rw [pow_of_toInt? whole x, pow_of_toInt? whole x.neg, abs_neg, notOdd, Bool.and_false,
    Bool.and_false]

/-! ## §3. Signs -/

theorem hasSign_one : HasSign false one := hasSign_finite false _

theorem hasSign_powInfinite {x : Double} (number : x ≠ nan) (negExponent : Bool) :
    HasSign false (powInfinite x negExponent) := by
  cases x with
  | nan => exact absurd rfl number
  | infinity s =>
    cases negExponent
    · exact hasSign_infinity false
    · exact hasSign_finite false _
  | finite s u fits =>
    unfold powInfinite
    dsimp only
    split
    · exact hasSign_one
    · split
      · exact hasSign_infinity false
      · exact hasSign_finite false _

theorem hasSign_pow_infinity {x : Double} (number : x ≠ nan) (negExponent : Bool) :
    HasSign false (x.pow (infinity negExponent)) := by
  unfold pow
  split
  · exact hasSign_one
  · cases x with
    | nan => exact absurd rfl number
    | infinity s => exact hasSign_powInfinite number negExponent
    | finite s u fits => exact hasSign_powInfinite number negExponent

/-- **A power of a number without a sign** has none, whatever number is the exponent. -/
theorem hasSign_pow_of_unsigned {x y : Double} (hx : x ≠ nan) (hy : y ≠ nan)
    (unsigned : x.isSigned = false) : HasSign false (x.pow y) := by
  -- The cases of the power: a zero exponent, infinite ones, infinite bases, zero bases, all others.
  by_cases zero : y.isZero = true
  · rw [pow_zero zero]
    exact hasSign_one
  cases y with
  | nan => exact absurd rfl hy
  | infinity t => exact hasSign_pow_infinity hx t
  | finite t v fits' =>
    have exponent : (finite t v fits').isZero = false := Bool.eq_false_iff.2 zero
    cases x with
    | nan => exact absurd rfl hx
    | infinity s =>
      obtain rfl : s = false := unsigned
      rw [pow_infinity exponent]
      cases t
      · exact hasSign_infinity false
      · exact hasSign_finite false _
    | finite s u fits =>
      obtain rfl : s = false := unsigned
      by_cases nought : u = 0
      · subst nought
        rw [pow_zero_base exponent]
        cases t
        · exact hasSign_finite false _
        · exact hasSign_infinity false
      · rw [pow_finite nought exponent, Bool.false_and, Bool.false_and, if_neg Bool.false_ne_true]
        exact hasSign_powMagnitude false u t v

theorem isSigned_abs (x : Double) : x.abs.isSigned = false := by
  cases x <;> rfl

theorem abs_ne_nan {x : Double} (number : x ≠ nan) : x.abs ≠ nan := by
  cases x with
  | nan => exact absurd rfl number
  | infinity s => exact (hasSign_infinity false).1
  | finite s u fits => exact (hasSign_finite false fits).1

theorem neg_eq_nan_iff {x : Double} : x.neg = nan ↔ x = nan := by
  cases x <;> simp [neg]

theorem hasSign_negIf {x : Double} (h : HasSign false x) (neg : Bool) :
    HasSign neg (x.negIf neg) := by
  cases neg with
  | false => exact h
  | true =>
    refine ⟨mt neg_eq_nan_iff.1 h.1, ?_⟩
    show x.neg.isSigned = true
    rw [isSigned_neg h.1, h.2]
    rfl

/-- **The sign of a power** with a whole exponent: that of the base if the exponent is odd. -/
theorem hasSign_pow {x y : Double} {n : Int} (number : x ≠ nan) (whole : y.toInt? = some n) :
    HasSign (x.isSigned && y.isOddInteger) (x.pow y) := by
  have exponent : y ≠ nan := by
    rintro rfl
    cases whole
  rw [pow_of_toInt? whole]
  exact hasSign_negIf (hasSign_pow_of_unsigned (abs_ne_nan number) exponent (isSigned_abs x)) _

end Double

end LineCalc
