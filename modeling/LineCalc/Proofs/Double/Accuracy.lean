/-
Accuracy — how far the rounding step moves a number.

A ratio is rounded to a multiple of the local spacing, and never by more than
half of it.  The spacing is the power of two that leaves 53 bits before it, so
a whole count of units is moved by at most one part in `2 ^ 53` of itself.

## Main definitions

  * `Double.roundoff` — one part in `2 ^ 53`.

## Main statements

  * `Double.abs_roundUnits_sub_le` — the error is at most half a spacing.
  * `Double.abs_roundUnits_whole_sub_le` — the relative error of a whole count.
  * `Double.mul_ofNat` — a whole factor is rounded once.
-/

import LineCalc.Double.Arithmetic
import LineCalc.Proofs.Double.Whole
import Mathlib.Algebra.Order.Field.Rat
import Mathlib.Algebra.Order.AbsoluteValue.Basic
import Mathlib.Tactic.FieldSimp
import Mathlib.Tactic.Linarith
import Mathlib.Tactic.Ring

namespace LineCalc

theorem cast_twoTo (k : Nat) : ((twoTo k : Nat) : ℚ) = 2 ^ k := by
  unfold twoTo
  exact_mod_cast Nat.cast_pow 2 k

namespace Double

/-! ## §1. Errors -/

theorem abs_roundQuotient_sub_le {num den : Nat} (pos : 0 < den) :
    |(roundQuotient num den : ℚ) - num / den| ≤ 1 / 2 := by
  have posQ : (0 : ℚ) < den := by exact_mod_cast pos
  -- Without denominators, the multiple of the divisor is at most half of it away.
  have bounds : 2 * (roundQuotient num den * den) ≤ 2 * num + den ∧
      2 * num ≤ 2 * (roundQuotient num den * den) + den := by
    have parts := Nat.div_add_mod num den
    have below := Nat.mod_lt num pos
    rw [Nat.mul_comm] at parts
    unfold roundQuotient
    dsimp only
    split
    · omega
    · rw [Nat.add_mul]
      omega
  obtain ⟨upper, lower⟩ := bounds
  have upperQ : 2 * ((roundQuotient num den : ℚ) * den) ≤ 2 * num + den := by exact_mod_cast upper
  have lowerQ : (2 : ℚ) * num ≤ 2 * ((roundQuotient num den : ℚ) * den) + den := by
    exact_mod_cast lower
  rw [abs_le]
  constructor
  · rw [neg_le_sub_iff_le_add, div_le_iff₀ posQ]
    linarith
  · rw [sub_le_iff_le_add, ← sub_le_iff_le_add', le_div_iff₀ posQ]
    linarith

/-- **The error of rounding** is at most half of the local spacing. -/
theorem abs_roundUnits_sub_le {num den : Nat} (pos : 0 < den) :
    |(roundUnits num den : ℚ) - num / den| ≤ 2 ^ gridExponent num den / 2 := by
  have posGrid : (0 : ℚ) < 2 ^ gridExponent num den := by positivity
  have posDen : (den : ℚ) ≠ 0 := by exact_mod_cast Nat.ne_of_gt pos
  have nearest := @abs_roundQuotient_sub_le num (den * twoTo (gridExponent num den))
    (Nat.mul_pos pos (twoTo_pos _))
  rw [Nat.cast_mul, cast_twoTo] at nearest
  unfold roundUnits
  dsimp only
  rw [Nat.cast_mul, cast_twoTo]
  generalize (2 : ℚ) ^ gridExponent num den = grid at *
  generalize (roundQuotient num _ : ℚ) = multiple at *
  calc |multiple * grid - num / den|
      = |(multiple - num / (den * grid)) * grid| := by
        congr 1
        field_simp
    _ = |multiple - num / (den * grid)| * grid := by rw [abs_mul, abs_of_pos posGrid]
    _ ≤ 1 / 2 * grid := mul_le_mul_of_nonneg_right nearest (le_of_lt posGrid)
    _ = grid / 2 := by ring

/-- **Roundoff**: the greatest relative error of one step. -/
def roundoff : ℚ := 1 / 2 ^ 53

/-- **The relative error of a whole count** is at most the roundoff. -/
theorem abs_roundUnits_whole_sub_le (m : Nat) :
    |(roundUnits m 1 : ℚ) - m| ≤ roundoff * m := by
  by_cases short : m.log2 ≤ 52
  · -- Up to 53 bits a count is its own rounding.
    have fits : twoTo (m.log2 - 52) ∣ m := by
      rw [Nat.sub_eq_zero_of_le short]
      exact Nat.one_dvd m
    rw [roundUnits_eq_self fits, sub_self, abs_zero]
    unfold roundoff
    exact mul_nonneg (by positivity) (Nat.cast_nonneg m)
  · have error := @abs_roundUnits_sub_le m 1 Nat.one_pos
    have nonzero : m ≠ 0 := by
      rintro rfl
      exact short (by decide)
    have leading : (2 : ℚ) ^ m.log2 ≤ m := by
      rw [← cast_twoTo]
      exact_mod_cast twoTo_log2_le nonzero
    have split : (2 : ℚ) ^ m.log2 = 2 ^ gridExponent m 1 * 2 ^ 52 := by
      unfold gridExponent
      rw [Nat.div_one, ← pow_add]
      congr 1
      omega
    rw [Nat.cast_one, div_one] at error
    calc |(roundUnits m 1 : ℚ) - m|
        ≤ 2 ^ gridExponent m 1 / 2 := error
      _ = roundoff * 2 ^ m.log2 := by
        unfold roundoff
        rw [split]
        ring
      _ ≤ roundoff * m := by
        unfold roundoff
        gcongr

/-! ## §2. Whole factors -/

theorem representable_whole {n : Nat} (h : n ≤ twoTo 53) : Representable (n * unitsPerOne) := by
  refine ⟨?_, significant_mul_twoTo h⟩
  calc n * unitsPerOne
      ≤ twoTo 53 * unitsPerOne := Nat.mul_le_mul_right _ h
    _ = twoTo (53 + 1074) := by
      unfold unitsPerOne
      rw [twoTo_add]
    _ < limit := by
      unfold limit
      exact twoTo_lt_twoTo (by decide)

/-- **A whole factor** multiplies the units, and the product is rounded once. -/
theorem mul_ofNat {units : Nat} (fits : Representable units) {n : Nat} (h : n ≤ twoTo 53) :
    (finite false units fits).mul (ofNat n) = ofRatio false (units * n) 1 := by
  have factor : ofNat n = finite false (n * unitsPerOne) (representable_whole h) :=
    ofRatio_units (representable_whole h)
  rw [factor]
  -- The factor brings in the units of one, and the product divides by them again.
  apply ofRatio_eq_of_mul_eq unitsPerOne_pos Nat.one_pos
  rw [Nat.mul_one, Nat.mul_assoc]

end Double

end LineCalc
