/-
PowerLaws — when powers trap, and what comes instead.

The operation below the calculator gives finite powers of finite numbers
only.  It traps for powers that overflow, for negative powers of zeros, and
for numbers below zero with an exponent that is not whole.  A trap is rescued
by the value of binary64, whose sign is found by a test of its own.  What
comes out follows one law of signs, wherever it came from: within the range,
too small for it, too great for it, and at the zeros.

## Main definitions

  * `Double.PowerLaws` — when a power traps, and the laws of what it is.

## Main statements

  * `Double.power_eq_overflow_iff`, `Double.power_eq_domain_iff` — exactly when
    powers trap.
  * `Double.powerLaws` — the laws hold of all pairs of doubles.
-/

import LineCalc.Proofs.Double.Primitive
import LineCalc.Proofs.Double.Reflection

namespace LineCalc

namespace Double

/-! ## §1. Traps -/

section finite

variable {s t : Bool} {u v : Nat} {fits : Representable u} {fits' : Representable v}

/-- **An undefined power** of finite numbers: a base below zero, and no whole exponent. -/
theorem pow_eq_nan_iff :
    (finite s u fits).pow (finite t v fits') = nan ↔
      (finite s u fits).isBelowZero = true ∧ (finite t v fits').toInt? = none := by
  have below : (finite s u fits).isBelowZero = (s && u != 0) := rfl
  constructor
  · intro undefined
    obtain ⟨nonzero, signed⟩ := pow_eq_nan undefined
    refine ⟨by rw [below, signed, bne_iff_ne.2 nonzero]; rfl, ?_⟩
    -- A whole exponent gives a number.
    cases whole : (finite t v fits').toInt? with
    | none => rfl
    | some n =>
      have number : finite s u fits ≠ nan := nofun
      exact absurd undefined (hasSign_pow number whole).1
  · rintro ⟨negative, broken⟩
    rw [below, Bool.and_eq_true, bne_iff_ne] at negative
    obtain ⟨signed, nonzero⟩ := negative
    have exponent : (finite t v fits').isZero = false := by
      rw [Bool.eq_false_iff]
      intro zero
      rw [toInt?_of_isZero zero] at broken
      cases broken
    rw [pow_finite nonzero exponent, signed, broken]
    rfl

/-- **An infinite power of a zero**: one with an exponent below zero. -/
theorem pow_zero_base_isInfinite {none : Representable 0} :
    ((finite s 0 none).pow (finite t v fits')).isInfinite = true ↔
      (finite t v fits').isBelowZero = true := by
  have below : (finite t v fits').isBelowZero = (t && v != 0) := rfl
  by_cases zero : (finite t v fits').isZero = true
  · have nought : v = 0 := eq_of_beq zero
    rw [pow_zero zero, below, nought]
    simp [one, isInfinite]
  · have exponent : (finite t v fits').isZero = false := Bool.eq_false_iff.2 zero
    have nonzero : v ≠ 0 := fun nought => zero (beq_iff_eq.2 nought)
    rw [pow_zero_base exponent, below, bne_iff_ne.2 nonzero]
    cases t <;> simp [isInfinite, Double.zero]

end finite

/-- **Powers overflow** exactly if they are infinite powers of finite numbers other than zeros. -/
theorem power_eq_overflow_iff {x y : Double} :
    power x y = .error .overflow ↔
      x.isFinite = true ∧ y.isFinite = true ∧ x.isZero = false ∧ (x.pow y).isInfinite = true := by
  unfold power
  by_cases bounded : (x.isFinite && y.isFinite) = true
  · rw [if_pos bounded]
    obtain ⟨finiteX, finiteY⟩ := (Bool.and_eq_true _ _).mp bounded
    cases x.pow y <;> cases x.isZero <;> simp [finiteX, finiteY, isInfinite]
  · rw [if_neg bounded]
    rw [Bool.and_eq_true] at bounded
    constructor
    · intro failed
      cases failed
    · rintro ⟨finiteX, finiteY, -⟩
      exact absurd ⟨finiteX, finiteY⟩ bounded

/-- **Powers leave the domain** exactly if a zero is raised to a power below zero, or a number below
zero to one that is not whole. -/
theorem power_eq_domain_iff {x y : Double} :
    power x y = .error .domain ↔
      x.isFinite = true ∧ y.isFinite = true ∧
        (x.isZero = true ∧ y.isBelowZero = true ∨ x.isBelowZero = true ∧ y.toInt? = none) := by
  by_cases bounded : (x.isFinite && y.isFinite) = true
  · obtain ⟨finiteX, finiteY⟩ := (Bool.and_eq_true _ _).mp bounded
    -- The trap is one for an undefined power, or for an infinite power of a zero.
    have trapped : power x y = .error .domain ↔
        x.pow y = nan ∨ x.isZero = true ∧ (x.pow y).isInfinite = true := by
      unfold power
      rw [if_pos bounded]
      cases x.pow y <;> cases x.isZero <;> simp [isInfinite]
    cases x with
    | nan => cases finiteX
    | infinity => cases finiteX
    | finite s u fits =>
      cases y with
      | nan => cases finiteY
      | infinity => cases finiteY
      | finite t v fits' =>
        rw [trapped, pow_eq_nan_iff, or_comm]
        simp only [finiteX, finiteY, true_and]
        refine or_congr_left (and_congr_right fun zero => ?_)
        obtain rfl : u = 0 := eq_of_beq zero
        exact pow_zero_base_isInfinite
  · unfold power
    rw [if_neg bounded]
    rw [Bool.and_eq_true] at bounded
    constructor
    · intro failed
      cases failed
    · rintro ⟨finiteX, finiteY, -⟩
      exact absurd ⟨finiteX, finiteY⟩ bounded

/-! ## §2. Laws -/

/-- **The laws of a power** `x ^ y`.  The rescued power is a double, whatever the operands.  Among
finite numbers the operation below traps for infinite powers, and for undefined ones; what it does
give is the power.  Odd exponents take opposite bases to opposite powers and even ones to the same
power, and the sign of a power with a whole exponent is settled, be it a zero, an infinity or a
number between them. -/
structure PowerLaws (x y : Double) : Prop where
  rescued : rescuedPower x y = .ok (x.pow y)
  given : ∀ z, power x y = .ok z → z = x.pow y
  overflow_iff : power x y = .error .overflow ↔
    x.isFinite = true ∧ y.isFinite = true ∧ x.toRat? ≠ some 0 ∧ (x.pow y).isInfinite = true
  domain_iff : power x y = .error .domain ↔
    x.isFinite = true ∧ y.isFinite = true ∧
      (x.toRat? = some 0 ∧ y.IsNegative ∨ x.IsNegative ∧ ∀ n : Int, y.toRat? ≠ some (n : ℚ))
  odd : ∀ n : Int, y.toRat? = some (n : ℚ) → ¬ 2 ∣ n → x.neg.pow y = (x.pow y).neg
  even : ∀ n : Int, y.toRat? = some (n : ℚ) → 2 ∣ n → x.neg.pow y = x.pow y
  sign : ∀ n : Int, y.toRat? = some (n : ℚ) → x ≠ nan →
    HasSign (x.isSigned && decide (¬ 2 ∣ n)) (x.pow y)
  undefined : x.isFinite = true → x.IsNegative → y.isFinite = true →
    (∀ n : Int, y.toRat? ≠ some (n : ℚ)) → x.pow y = nan
  zero_odd : ∀ s, x = zero s → ∀ n : Int, y.toRat? = some (n : ℚ) → n < 0 → ¬ 2 ∣ n →
    x.pow y = infinity s
  zero_other : x.toRat? = some 0 → y.isFinite = true → y.IsNegative →
    (∀ n : Int, y.toRat? = some (n : ℚ) → 2 ∣ n) → x.pow y = infinity false

theorem eq_pow_of_power {x y z : Double} (h : power x y = .ok z) : z = x.pow y := by
  unfold power at h
  split at h
  · cases result : x.pow y with
    | nan =>
      rw [result] at h
      cases h
    | infinity neg =>
      rw [result] at h
      dsimp only at h
      split at h
      · cases h
      · cases h
    | finite neg units fits =>
      rw [result] at h
      exact (Except.ok.inj h).symm
  · exact (Except.ok.inj h).symm

theorem isOddInteger_of_whole {y : Double} {n : Int} (whole : y.toInt? = some n) :
    y.isOddInteger = decide (¬ 2 ∣ n) := by
  rw [Bool.eq_iff_iff, isOddInteger_iff, decide_eq_true_iff]
  constructor
  · rintro ⟨m, same, odd⟩
    rw [toRat?_eq_intCast_iff, whole] at same
    obtain rfl := Option.some.inj same
    exact odd
  · intro odd
    exact ⟨n, toRat?_eq_intCast_iff.2 whole, odd⟩

theorem toInt?_eq_none_iff_toRat? {y : Double} :
    y.toInt? = none ↔ ∀ n : Int, y.toRat? ≠ some (n : ℚ) := by
  rw [Option.eq_none_iff_forall_ne_some]
  exact forall_congr' fun n => not_congr toRat?_eq_intCast_iff.symm

/-- **A negative power of a zero** is an infinity. -/
theorem pow_of_isZero {x y : Double} (zero : x.isZero = true) (finite : y.isFinite = true)
    (negative : y.isBelowZero = true) : x.pow y = infinity (x.isSigned && y.isOddInteger) := by
  cases x with
  | nan => cases zero
  | infinity => cases zero
  | finite s u fits =>
    obtain rfl : u = 0 := eq_of_beq zero
    cases y with
    | nan => cases finite
    | infinity => cases finite
    | finite t v fits' =>
      obtain ⟨signed, nonzero⟩ := (Bool.and_eq_true _ _).mp negative
      have exponent : (Double.finite t v fits').isZero = false :=
        beq_eq_false_iff_ne.2 (bne_iff_ne.1 nonzero)
      rw [pow_zero_base exponent, if_pos signed]
      rfl

/-- **The laws hold of all pairs of doubles**. -/
theorem powerLaws (x y : Double) : PowerLaws x y where
  rescued := rescuedPower_eq x y
  given z h := eq_pow_of_power h
  overflow_iff := by
    rw [power_eq_overflow_iff, ← Bool.not_eq_true, isZero_iff_toRat?]
  domain_iff := by
    rw [power_eq_domain_iff, isZero_iff_toRat?, isBelowZero_iff, isBelowZero_iff,
      toInt?_eq_none_iff_toRat?]
  odd n whole odd := pow_neg_of_odd (isOddInteger_iff.2 ⟨n, whole, odd⟩) x
  even n whole even := pow_neg_of_even (isEvenInteger_iff.2 ⟨n, whole, even⟩) x
  sign n whole number := by
    rw [toRat?_eq_intCast_iff] at whole
    rw [← isOddInteger_of_whole whole]
    exact hasSign_pow number whole
  undefined finiteX negative finiteY broken := by
    cases x with
    | nan => cases finiteX
    | infinity => cases finiteX
    | finite s u fits =>
      cases y with
      | nan => cases finiteY
      | infinity => cases finiteY
      | finite t v fits' =>
        exact pow_eq_nan_iff.2 ⟨isBelowZero_iff.2 negative, toInt?_eq_none_iff_toRat?.2 broken⟩
  zero_odd s base n whole below odd := by
    -- The pole of a zero base: odd exponents keep the sign of the zero.
    have negative : y.IsNegative := .inr ⟨n, whole, by exact_mod_cast below⟩
    have finite : y.isFinite = true := by
      rw [← isSome_toRat?, whole]
      rfl
    have isZero : x.isZero = true := by
      rw [base]
      rfl
    rw [pow_of_isZero isZero finite (isBelowZero_iff.2 negative),
      isOddInteger_iff.2 ⟨n, whole, odd⟩, base, Bool.and_true]
    rfl
  zero_other base finite negative even := by
    -- All other exponents, the fractional ones included, lose it.
    have notOdd : y.isOddInteger = false := by
      rw [Bool.eq_false_iff]
      intro odd
      obtain ⟨n, whole, odd⟩ := isOddInteger_iff.1 odd
      exact odd (even n whole)
    rw [pow_of_isZero (isZero_iff_toRat?.2 base) finite (isBelowZero_iff.2 negative), notOdd,
      Bool.and_false]

end Double

end LineCalc
