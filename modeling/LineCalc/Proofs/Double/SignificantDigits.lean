/-
SignificantDigits — how many digits tell doubles apart.

Two counts with at most 53 significant bits are at least one part in `2 ^ 53` of
the larger one apart, also where the spacing changes.  So a ratio that is nearer
than half of that to a short count is rounded to it.  A decimal that is rounded
to seventeen digits is moved by less, since `2 ^ 54` is less than `2 · 10 ^ 16`.

## Main statements

  * `Double.le_mul_abs_sub` — the gap between short counts.
  * `Double.roundUnits_eq_of_close` — what is close is rounded to the count.
  * `Decimal.abs_rounded_sub_le` — the error of rounding to digits.
  * `Double.ofDecimal_rounded` — seventeen digits of a double are read as it.
-/

import LineCalc.Proofs.Double.FiniteLiteral

namespace LineCalc

namespace Double

/-! ## §1. Gaps -/

section gaps

variable {a b : Nat}

/-- A count with 53 significant bits lies below the next power of two. -/
theorem lt_twoTo_mul (a : Nat) : a < twoTo 53 * twoTo (a.log2 - 52) := by
  rw [← twoTo_add]
  exact Nat.lt_of_lt_of_le (lt_twoTo_log2_succ a) (twoTo_le_twoTo (by omega))

/-- The spacing of a count is that of a larger one as well, or divides it. -/
theorem spacing_dvd_of_lt (less : a < b) (short : Short b) : twoTo (a.log2 - 52) ∣ b := by
  have exponent : a.log2 ≤ b.log2 := by
    by_cases zero : a = 0
    · rw [zero]
      exact Nat.zero_le b.log2
    · refine Nat.le_of_lt_succ ((log2_lt_iff_lt_twoTo zero).2 ?_)
      exact Nat.lt_trans less (lt_twoTo_log2_succ b)
  exact Nat.dvd_trans (twoTo_dvd_twoTo (by omega)) short

/-- **The gap** between two short counts is at least one part in `2 ^ 53` of the larger one. -/
theorem le_mul_sub (short : Short a) (short' : Short b) (less : a < b) :
    b ≤ twoTo 53 * (b - a) := by
  have below := lt_twoTo_mul a
  obtain ⟨m, multiple⟩ := short
  obtain ⟨n, multiple'⟩ := spacing_dvd_of_lt less short'
  have posGrid := twoTo_pos (a.log2 - 52)
  generalize twoTo (a.log2 - 52) = grid at below multiple multiple' posGrid
  subst multiple
  subst multiple'
  rw [Nat.mul_comm (twoTo 53)] at below
  have fewer : m < twoTo 53 := Nat.lt_of_mul_lt_mul_left below
  have before : m < n := Nat.lt_of_mul_lt_mul_left less
  rw [← Nat.mul_sub, Nat.mul_left_comm]
  refine Nat.mul_le_mul_left grid ?_
  -- Without the spacing the smaller one has at most 53 bits, and the larger one is farther on.
  obtain ⟨k, rfl⟩ := Nat.exists_eq_add_of_lt before
  have apart : m + k + 1 - m = k + 1 := by omega
  rw [apart]
  calc m + k + 1
      ≤ twoTo 53 + k := by omega
    _ ≤ twoTo 53 + twoTo 53 * k := Nat.add_le_add_left (Nat.le_mul_of_pos_left k (twoTo_pos 53)) _
    _ = twoTo 53 * (k + 1) := by rw [Nat.mul_add, Nat.mul_one, Nat.add_comm]

/-- **The gap** between two short counts, for either of them. -/
theorem le_mul_abs_sub (short : Short a) (short' : Short b) (other : b ≠ a) :
    (a : ℚ) ≤ 2 ^ 53 * |(b : ℚ) - a| := by
  have power : ((twoTo 53 : Nat) : ℚ) = 2 ^ 53 := cast_twoTo 53
  rcases Nat.lt_or_gt_of_ne other with less | more
  · have gap : (a : ℚ) ≤ (twoTo 53 * (a - b) : Nat) := by
      exact_mod_cast le_mul_sub short' short less
    rw [Nat.cast_mul, Nat.cast_sub less.le, power] at gap
    have lessQ : (b : ℚ) - a ≤ 0 := by
      rw [sub_nonpos]
      exact_mod_cast less.le
    rw [abs_of_nonpos lessQ, neg_sub]
    exact gap
  · have gap : (b : ℚ) ≤ (twoTo 53 * (b - a) : Nat) := by
      exact_mod_cast le_mul_sub short short' more
    rw [Nat.cast_mul, Nat.cast_sub more.le, power] at gap
    have moreQ : (a : ℚ) ≤ b := by exact_mod_cast more.le
    rw [abs_of_nonneg (sub_nonneg.2 moreQ)]
    exact moreQ.trans gap

end gaps

/-- **What is close to a short count is rounded to it**. -/
theorem roundUnits_eq_of_close {num den units : Nat} (pos : 0 < den) (short : Short units)
    (close : 2 ^ 54 * |(num / den : ℚ) - units| < units) : roundUnits num den = units := by
  by_contra other
  have nearest := @abs_roundUnits_sub_le_abs num den units pos short
  have gap := le_mul_abs_sub short (roundUnits_dvd num den) other
  have triangle := abs_sub_le (roundUnits num den : ℚ) (num / den) units
  rw [abs_sub_comm (units : ℚ)] at nearest
  -- Both counts are so close to the ratio that the gap is too small.
  have bound : (units : ℚ) ≤ 2 ^ 54 * |(num / den : ℚ) - units| :=
    calc (units : ℚ)
        ≤ 2 ^ 53 * |(roundUnits num den : ℚ) - units| := gap
      _ ≤ 2 ^ 53 * (2 * |(num / den : ℚ) - units|) := by
        gcongr
        linarith
      _ = 2 ^ 54 * |(num / den : ℚ) - units| := by ring
  exact absurd close (not_lt.2 bound)

end Double

namespace Decimal

/-! ## §2. Rounding to digits -/

/-- A number with more than one digit is at least the power of ten at its leading digit. -/
theorem tenTo_le_coefficient {d : Decimal} (long : 1 < d.digits.length) :
    tenTo (d.digits.length - 1) ≤ d.coefficient := by
  by_contra less
  rw [Nat.not_le] at less
  have shorter := Nat.toDigits_length 10 d.coefficient (d.digits.length - 1) (by omega) less
  unfold digits at shorter long
  omega

/-- **The error of rounding to digits** is at most half a unit of the last one. -/
theorem abs_rounded_sub_le (d : Decimal) {count : Nat} (some : 1 ≤ count) :
    2 * 10 ^ (count - 1) * |(d.rounded count).value - d.value| ≤ d.value := by
  have nonneg := Double.value_nonneg d
  unfold rounded
  dsimp only
  split
  · rw [sub_self, abs_zero, mul_zero]
    exact nonneg
  · next surplus =>
    have long : 1 < d.digits.length := by omega
    have leading := tenTo_le_coefficient long
    -- The coefficient is at least its leading power of ten, which splits into the digits kept and
    -- the digits dropped.
    have places : d.digits.length - 1 = (count - 1) + (d.digits.length - count) := by omega
    rw [places, tenTo_add] at leading
    generalize d.digits.length - count = surplus at leading ⊢
    have posGrid : (0 : ℚ) < 10 ^ surplus := by positivity
    have posPower : (0 : ℚ) < 10 ^ d.exponent := by
      rw [Double.ten_zpow_eq]
      exact div_pos (by exact_mod_cast tenTo_pos _) (by exact_mod_cast tenTo_pos _)
    have half := @Double.abs_roundQuotient_sub_le d.coefficient (tenTo surplus) (tenTo_pos _)
    rw [Double.cast_tenTo] at half
    have leadingQ : (10 : ℚ) ^ (count - 1) * 10 ^ surplus ≤ d.coefficient := by
      rw [← Double.cast_tenTo, ← Double.cast_tenTo]
      exact_mod_cast leading
    unfold value
    dsimp only
    rw [zpow_add₀ (by norm_num : (10 : ℚ) ≠ 0), zpow_natCast]
    generalize (Double.roundQuotient d.coefficient (tenTo surplus) : ℚ) = rounded at half ⊢
    generalize (10 : ℚ) ^ d.exponent = power at posPower ⊢
    generalize (10 : ℚ) ^ surplus = grid at posGrid half leadingQ ⊢
    -- Half a unit of the last digit kept, against a number of that many digits.
    calc 2 * 10 ^ (count - 1) * |rounded * (power * grid) - d.coefficient * power|
        = 2 * 10 ^ (count - 1) * (|rounded - d.coefficient / grid| * (grid * power)) := by
          rw [← abs_of_pos (mul_pos posGrid posPower), ← abs_mul]
          congr 2
          field_simp
      _ ≤ 2 * 10 ^ (count - 1) * (1 / 2 * (grid * power)) := by gcongr
      _ = 10 ^ (count - 1) * grid * power := by ring
      _ ≤ d.coefficient * power := by gcongr

end Decimal

namespace Double

/-! ## §3. Seventeen digits -/

section rounded

variable {units : Nat}

/-- With as many fives as places a decimal is a number of halves, halved as often. -/
theorem value_fives (units k : Nat) {e : Int} (places : e = -(k : Int)) :
    (⟨units * Nat.pow 5 k, e⟩ : Decimal).value = units / twoTo k := by
  have fives : ((Nat.pow 5 k : Nat) : ℚ) = 5 ^ k := by
    show ((5 ^ k : Nat) : ℚ) = 5 ^ k
    push_cast
    rfl
  have tens : (10 : ℚ) ^ k = 5 ^ k * 2 ^ k := by
    rw [← mul_pow]
    norm_num
  unfold Decimal.value
  dsimp only
  rw [places, zpow_neg, zpow_natCast, Nat.cast_mul, fives, tens, cast_twoTo]
  field_simp

theorem value_expansion (units : Nat) : (expansion units).value = units / unitsPerOne := by
  -- The exponent is forgotten, lest its power be computed.
  obtain ⟨k, hk⟩ : ∃ k : Nat, 1074 = k := ⟨1074, rfl⟩
  have places : (-1074 : Int) = -(k : Int) := by rw [← hk]; rfl
  unfold expansion unitsPerOne
  rw [hk]
  exact value_fives units k places

/-- What is as close to a double as seventeen digits are is read as the double. -/
theorem ofDecimal_of_close (fits : Representable units) {d : Decimal} (neg : Bool)
    (close : 2 * 10 ^ 16 * |d.value - units / unitsPerOne| ≤ units / unitsPerOne) :
    ofDecimal neg d.coefficient d.exponent = finite neg units fits := by
  have posOne : (0 : ℚ) < unitsPerOne := by exact_mod_cast unitsPerOne_pos
  by_cases zero : units = 0
  · -- Nothing but a zero is close to a zero.
    subst zero
    rw [Nat.cast_zero, zero_div, sub_zero] at close
    have none : |d.value| = 0 := by
      have nonneg := abs_nonneg d.value
      linarith
    apply ofDecimal_tiny
    rw [abs_eq_zero.1 none]
    exact div_nonneg zero_le_one (pow_nonneg zero_le_two 1075)
  · rw [ofDecimal_eq_ofRatio]
    refine ofRatio_of_roundUnits (roundUnits_eq_of_close (tenTo_pos _) fits.2 ?_) fits neg
    have some : (0 : ℚ) < units := by exact_mod_cast Nat.pos_of_ne_zero zero
    rw [← ratio_eq_value, abs_sub_comm, abs_units_sub, ← mul_div_assoc,
      div_le_div_iff_of_pos_right posOne, abs_sub_comm] at close
    have nonneg := abs_nonneg
      (((d.coefficient * tenTo d.exponent.toNat * unitsPerOne : Nat) : ℚ) /
        tenTo (-d.exponent).toNat - units)
    linarith

/-- **Seventeen digits of a double**, or more, are read as the double. -/
theorem ofDecimal_rounded (fits : Representable units) {count : Nat} (enough : 17 ≤ count)
    (neg : Bool) :
    ofDecimal neg ((expansion units).rounded count).normalized.coefficient
      ((expansion units).rounded count).normalized.exponent = finite neg units fits := by
  apply ofDecimal_of_close fits
  have error := (expansion units).abs_rounded_sub_le (show 1 ≤ count by omega)
  rw [value_expansion] at error
  rw [Decimal.value_normalized]
  refine LE.le.trans ?_ error
  gcongr
  · norm_num
  · omega

end rounded

end Double

end LineCalc
