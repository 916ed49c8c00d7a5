/-
Exact — the rational number that a double is.

A finite double is a rational number, exactly.  Which doubles are zeros,
whole numbers, even numbers or numbers below zero is a matter of that
rational number, and the tests on the units of a double decide it.

## Main definitions

  * `Double.toRat?` — the rational number that a finite double is.
  * `Double.IsNegative` — the numbers below zero, with the infinity among
    them.

## Main statements

  * `Double.toRat?_eq_intCast_iff` — the whole numbers among the doubles.
  * `Double.isZero_iff_toRat?`, `Double.isBelowZero_iff`,
    `Double.isEvenInteger_iff`, `Double.isOddInteger_iff` — the tests on units
    decide on the number.
-/

import LineCalc.Double.Arithmetic
import LineCalc.Proofs.Double.Whole
import Mathlib.Algebra.Order.Field.Rat
import Mathlib.Tactic.FieldSimp
import Mathlib.Tactic.Ring

namespace LineCalc

namespace Double

/-! ## §1. The number -/

/-- **The rational number** that a finite double is. -/
def toRat? : Double → Option ℚ
  | finite neg units _ => some (signedUnits neg units / unitsPerOne)
  | _ => none

/-- **Negative**: below zero, perhaps beyond all numbers. -/
def IsNegative (x : Double) : Prop := x = infinity true ∨ ∃ q : ℚ, x.toRat? = some q ∧ q < 0

theorem isSome_toRat? (x : Double) : x.toRat?.isSome = x.isFinite := by
  cases x <;> rfl

theorem isFinite_of_toRat? {x : Double} {q : ℚ} (number : x.toRat? = some q) :
    x.isFinite = true := by
  rw [← isSome_toRat?, number]
  rfl

section units

variable {neg : Bool} {units : Nat} {fits : Representable units} {n : Int}

theorem unitsPerOne_ne_zero : (unitsPerOne : ℚ) ≠ 0 := by
  exact_mod_cast Nat.ne_of_gt unitsPerOne_pos

/-- A finite double is a whole number if its units make up full ones. -/
theorem toRat?_finite_eq_intCast_iff :
    (finite neg units fits).toRat? = some (n : ℚ) ↔ signedUnits neg units = n * unitsPerOne := by
  unfold toRat?
  rw [Option.some.injEq, div_eq_iff unitsPerOne_ne_zero]
  exact_mod_cast Iff.rfl

/-- A signed count is a multiple of another one if its magnitude is. -/
theorem signedUnits_eq_mul_iff {full : Nat} (pos : 0 < full) :
    signedUnits neg units = n * full ↔
      ∃ m : Nat, units = m * full ∧ n = if neg then -(m : Int) else m := by
  have pos' : (0 : Int) < full := by exact_mod_cast pos
  unfold signedUnits
  constructor
  · intro h
    refine ⟨n.natAbs, ?_, ?_⟩
    · -- Both sides are compared by their magnitudes.
      have magnitudes := congrArg Int.natAbs h
      rw [Int.natAbs_mul, Int.natAbs_natCast] at magnitudes
      rw [← magnitudes]
      cases neg <;> simp
    · cases neg with
      | false =>
        have sign : 0 ≤ n * (full : Int) := by rw [← h]; simp
        have nonneg : 0 ≤ n := nonneg_of_mul_nonneg_left sign pos'
        exact (Int.natAbs_of_nonneg nonneg).symm
      | true =>
        have sign : n * (full : Int) ≤ 0 := by rw [← h]; simp
        have nonpos : n ≤ 0 := nonpos_of_mul_nonpos_left sign pos'
        show n = -(n.natAbs : Int)
        rw [Int.ofNat_natAbs_of_nonpos nonpos, Int.neg_neg]
  · rintro ⟨m, rfl, rfl⟩
    cases neg <;> simp

end units

/-! ## §2. Whole numbers -/

/-- **The whole numbers among the doubles** are those that the units show. -/
theorem toRat?_eq_intCast_iff {x : Double} {n : Int} :
    x.toRat? = some (n : ℚ) ↔ x.toInt? = some n := by
  rw [toInt?_eq_some_iff]
  cases x with
  | nan => simp [toRat?]
  | infinity s => simp [toRat?]
  | finite neg units fits =>
    rw [toRat?_finite_eq_intCast_iff, signedUnits_eq_mul_iff unitsPerOne_pos]
    constructor
    · rintro ⟨m, whole, value⟩
      exact ⟨neg, units, fits, m, rfl, whole, value⟩
    · rintro ⟨neg', units', fits', m, same, whole, value⟩
      obtain ⟨rfl, rfl⟩ := Double.finite.inj same
      exact ⟨m, whole, value⟩

/-- **Zeros** are the doubles that are the number nought. -/
theorem isZero_iff_toRat? {x : Double} : x.isZero = true ↔ x.toRat? = some 0 := by
  cases x with
  | nan => simp [toRat?, isZero]
  | infinity s => simp [toRat?, isZero]
  | finite neg units fits =>
    have zero : (finite neg units fits).toRat? = some ((0 : Int) : ℚ) ↔
        signedUnits neg units = 0 * unitsPerOne := toRat?_finite_eq_intCast_iff
    rw [Int.cast_zero, Int.zero_mul] at zero
    rw [zero]
    show (units == 0) = true ↔ signedUnits neg units = 0
    unfold signedUnits
    cases neg <;> simp

theorem isZero_eq_false {x : Double} {q : ℚ} (number : x.toRat? = some q) (nonzero : q ≠ 0) :
    x.isZero = false := by
  rw [Bool.eq_false_iff, ne_eq, isZero_iff_toRat?, number, Option.some.injEq]
  exact nonzero

/-- **Negative numbers** are those with a sign, other than the zeros. -/
theorem isBelowZero_iff {x : Double} : x.isBelowZero = true ↔ x.IsNegative := by
  unfold IsNegative
  cases x with
  | nan => simp [toRat?, isBelowZero]
  | infinity s => simp [toRat?, isBelowZero]
  | finite neg units fits =>
    have pos : (0 : ℚ) < unitsPerOne := by exact_mod_cast unitsPerOne_pos
    have sign : (signedUnits neg units : ℚ) / unitsPerOne < 0 ↔ signedUnits neg units < 0 := by
      rw [div_lt_iff₀ pos, zero_mul]
      exact_mod_cast Iff.rfl
    simp only [toRat?, Option.some.injEq, reduceCtorEq, false_or, exists_eq_left', sign]
    show (neg && units != 0) = true ↔ signedUnits neg units < 0
    unfold signedUnits
    cases neg <;> simp [Nat.pos_iff_ne_zero]

/-- **Even numbers** are whole numbers that two divides. -/
theorem isEvenInteger_iff {x : Double} :
    x.isEvenInteger = true ↔ ∃ n : Int, x.toRat? = some (n : ℚ) ∧ 2 ∣ n := by
  simp only [toRat?_eq_intCast_iff]
  unfold isEvenInteger
  cases x.toInt? with
  | none => simp
  | some n =>
    simp only [Option.some.injEq, exists_eq_left', beq_iff_eq]
    exact Int.dvd_iff_emod_eq_zero.symm

/-- **Odd numbers** are whole numbers that two does not divide. -/
theorem isOddInteger_iff {x : Double} :
    x.isOddInteger = true ↔ ∃ n : Int, x.toRat? = some (n : ℚ) ∧ ¬ 2 ∣ n := by
  simp only [toRat?_eq_intCast_iff]
  unfold isOddInteger
  cases x.toInt? with
  | none => simp
  | some n =>
    simp only [Option.some.injEq, exists_eq_left', bne_iff_ne]
    exact not_congr Int.dvd_iff_emod_eq_zero.symm

end Double

end LineCalc
