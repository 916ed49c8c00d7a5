/-
Nearest — the rounding step finds the nearest double.

A ratio is rounded to a multiple of the local spacing.  Other counts of units
with at most 53 significant bits are multiples of it as well, or lie below the
power of two at the leading bit of the ratio, which is a multiple itself.  So no
such count is closer to the ratio than its rounding, and if another one is as
close then the rounding is even and the other one odd.

The limit of the range is a short count as well.  So a ratio is rounded beyond
the range from the middle between the largest double and the limit on, for the
largest double is odd.

## Main definitions

  * `Double.Short` — a count with at most 53 significant bits.
  * `Double.leadingBits` — the first 53 bits of a count.
  * `Double.threshold` — the middle between the largest double and the limit.
  * `Double.IsNearest` — the nearest double, ties to even.

## Main statements

  * `Double.abs_roundUnits_sub_le_abs` — no short count is closer.
  * `Double.odd_of_tie` — a count that is as close is odd.
  * `Double.roundUnits_lt_limit_iff` — what is rounded into the range.
  * `Double.isNearest_iff` — rounding is the nearest double, and no other
    double is.
-/

import LineCalc.Proofs.Double.Accuracy
import LineCalc.Proofs.Double.Exact
import Mathlib.Algebra.Order.Field.Basic

namespace LineCalc

/-! ## §1. Signs -/

def signed (neg : Bool) (a : ℚ) : ℚ := if neg then -a else a

section signs

variable {neg : Bool} {a b : ℚ}

theorem abs_signed_sub (neg : Bool) (a b : ℚ) : |signed neg a - signed neg b| = |a - b| := by
  cases neg with
  | false => rfl
  | true =>
    show |-a - -b| = |a - b|
    rw [neg_sub_neg, abs_sub_comm]

/-- Numbers of different signs are as far apart as their magnitudes together. -/
theorem abs_signed_not_sub (nonneg : 0 ≤ a) (nonneg' : 0 ≤ b) :
    |signed (!neg) a - signed neg b| = a + b := by
  cases neg with
  | false =>
    show |-a - b| = a + b
    rw [abs_of_nonpos (by linarith)]
    linarith
  | true =>
    show |a - -b| = a + b
    rw [abs_of_nonneg (by linarith)]
    linarith

theorem abs_signed (nonneg : 0 ≤ a) : |signed neg a| = a := by
  cases neg with
  | false => exact abs_of_nonneg nonneg
  | true =>
    show |-a| = a
    rw [abs_neg, abs_of_nonneg nonneg]

theorem signed_zero (neg : Bool) : signed neg 0 = 0 := by
  cases neg with
  | false => rfl
  | true => exact neg_zero

theorem signed_inj (same : signed neg a = signed neg b) : a = b := by
  have apart := abs_signed_sub neg a b
  rw [same, sub_self, abs_zero] at apart
  exact sub_eq_zero.1 (abs_eq_zero.1 apart.symm)

theorem abs_zero_sub (nonneg : 0 ≤ a) : |0 - a| = a := by
  rw [zero_sub, abs_neg, abs_of_nonneg nonneg]

end signs

namespace Double

/-! ## §2. Whole numbers -/

section whole

variable {num den : Nat}

theorem abs_roundQuotient_sub_lt (pos : 0 < den) (odd : ¬ 2 ∣ roundQuotient num den) :
    |(roundQuotient num den : ℚ) - num / den| < 1 / 2 := by
  have posQ : (0 : ℚ) < den := by exact_mod_cast pos
  have bounds : 2 * (roundQuotient num den * den) < 2 * num + den ∧
      2 * num < 2 * (roundQuotient num den * den) + den := by
    have parts := Nat.div_add_mod num den
    have below := Nat.mod_lt num pos
    rw [Nat.mul_comm] at parts
    unfold roundQuotient at odd ⊢
    dsimp only at odd ⊢
    split at odd
    · next down =>
      -- A tie would have been rounded down to an even number.
      rw [if_pos down]
      rcases down with less | ⟨-, even⟩
      · omega
      · exact absurd (Nat.dvd_of_mod_eq_zero even) odd
    · next up =>
      rw [if_neg up, Nat.add_mul]
      omega
  obtain ⟨upper, lower⟩ := bounds
  have upperQ : 2 * ((roundQuotient num den : ℚ) * den) < 2 * num + den := by exact_mod_cast upper
  have lowerQ : (2 : ℚ) * num < 2 * ((roundQuotient num den : ℚ) * den) + den := by
    exact_mod_cast lower
  rw [abs_lt]
  constructor
  · rw [neg_lt_sub_iff_lt_add, div_lt_iff₀ posQ]
    linarith
  · rw [sub_lt_iff_lt_add, ← sub_lt_iff_lt_add', lt_div_iff₀ posQ]
    linarith

theorem one_le_abs_sub {m n : Nat} (other : m ≠ n) : 1 ≤ |(m : ℚ) - n| := by
  have apart : (m : Int) - n ≠ 0 := by omega
  exact_mod_cast Int.one_le_abs apart

/-- Another whole number is at least as far from the ratio as one less its rounding. -/
theorem one_le_abs_sub_add {n : Nat} (other : n ≠ roundQuotient num den) :
    1 ≤ |(n : ℚ) - num / den| + |(roundQuotient num den : ℚ) - num / den| := by
  have apart := one_le_abs_sub other
  have triangle := abs_sub_le (n : ℚ) (num / den) (roundQuotient num den)
  rw [abs_sub_comm (num / den : ℚ)] at triangle
  linarith

/-- **No whole number is closer to a ratio** than its rounding. -/
theorem abs_roundQuotient_sub_le_abs (pos : 0 < den) (n : Nat) :
    |(roundQuotient num den : ℚ) - num / den| ≤ |(n : ℚ) - num / den| := by
  by_cases same : n = roundQuotient num den
  · rw [same]
  · have apart := one_le_abs_sub_add same
    have half := @abs_roundQuotient_sub_le num den pos
    linarith

/-- **Of two whole numbers that are as close** the rounding is even and the other one odd. -/
theorem even_roundQuotient_of_tie (pos : 0 < den) {n : Nat} (other : n ≠ roundQuotient num den)
    (tie : |(n : ℚ) - num / den| = |(roundQuotient num den : ℚ) - num / den|) :
    2 ∣ roundQuotient num den ∧ ¬ 2 ∣ n := by
  have apart := one_le_abs_sub_add other
  have half := @abs_roundQuotient_sub_le num den pos
  have even : 2 ∣ roundQuotient num den := by
    by_contra odd
    have less := abs_roundQuotient_sub_lt pos odd
    linarith
  -- Both are one half away, so they are neighbours.
  have near : |(n : ℚ) - roundQuotient num den| ≤ 1 := by
    have triangle := abs_sub_le (n : ℚ) (num / den) (roundQuotient num den)
    rw [abs_sub_comm (num / den : ℚ)] at triangle
    linarith
  have nearInt : |(n : Int) - roundQuotient num den| ≤ 1 := by exact_mod_cast near
  rw [abs_le] at nearInt
  exact ⟨even, by omega⟩

end whole

/-! ## §3. Counts of units -/

/-- **Short**: a count with at most 53 significant bits. -/
def Short (units : Nat) : Prop := twoTo (units.log2 - 52) ∣ units

/-- **The leading bits** of a count: the first 53, or all of them if there are fewer. -/
def leadingBits (units : Nat) : Nat := units / twoTo (units.log2 - 52)

theorem even_leadingBits {q k : Nat} (even : 2 ∣ q) (bound : q ≤ twoTo 53) :
    2 ∣ leadingBits (q * twoTo k) := by
  rcases Nat.eq_zero_or_pos q with rfl | pos
  · simp [leadingBits]
  have nonzero : q * twoTo k ≠ 0 := Nat.ne_of_gt (Nat.mul_pos pos (twoTo_pos k))
  unfold leadingBits
  rcases Nat.lt_or_eq_of_le bound with small | rfl
  · have below : q * twoTo k < twoTo (53 + k) := by
      rw [twoTo_add]
      exact Nat.mul_lt_mul_of_pos_right small (twoTo_pos k)
    have exponent : (q * twoTo k).log2 < 53 + k := (log2_lt_iff_lt_twoTo nonzero).2 below
    obtain ⟨c, split⟩ := @twoTo_dvd_twoTo ((q * twoTo k).log2 - 52) k (by omega)
    generalize twoTo ((q * twoTo k).log2 - 52) = divisor at split ⊢
    have posDivisor : 0 < divisor := by
      have posAll := twoTo_pos k
      rw [split] at posAll
      exact Nat.pos_of_mul_pos_right posAll
    rw [split, Nat.mul_left_comm, Nat.mul_div_cancel_left _ posDivisor]
    exact Dvd.dvd.mul_right even c
  · -- The next power of two has one bit more.
    rw [← twoTo_add, log2_twoTo, show 53 + k = 53 + k - 52 + 52 by omega, twoTo_add,
      show 53 + k - 52 + 52 - 52 = 53 + k - 52 by omega,
      Nat.mul_div_cancel_left _ (twoTo_pos _)]
    decide

/-- An odd multiple of a power of two, if it is short and not less than the spacing asks for, has
odd leading bits. -/
theorem odd_leadingBits {n k : Nat} (odd : ¬ 2 ∣ n) (short : Short (n * twoTo k))
    (spaced : k ≤ (n * twoTo k).log2 - 52) : ¬ 2 ∣ leadingBits (n * twoTo k) := by
  have exponent : (n * twoTo k).log2 - 52 = k := by
    by_contra other
    have more : twoTo (1 + k) ∣ n * twoTo k :=
      Nat.dvd_trans (twoTo_dvd_twoTo (by omega)) short
    rw [twoTo_add] at more
    exact odd (Nat.dvd_of_mul_dvd_mul_right (twoTo_pos k) more)
  unfold leadingBits
  rw [exponent, Nat.mul_div_cancel n (twoTo_pos k)]
  exact odd

section counts

variable {num den : Nat}

/-- A count has the spacing of a ratio, or lies below the leading bit of the ratio. -/
theorem spaced_or_lt (num den units : Nat) :
    gridExponent num den ≤ units.log2 - 52 ∨
      num / den ≠ 0 ∧ units < twoTo (num / den).log2 := by
  by_cases spaced : gridExponent num den ≤ units.log2 - 52
  · exact .inl spaced
  · have longer : 52 < (num / den).log2 ∧ units.log2 < (num / den).log2 := by
      unfold gridExponent at spaced
      omega
    refine .inr ⟨?_, ?_⟩
    · intro nothing
      rw [nothing] at longer
      exact absurd longer.1 (by decide)
    · by_cases zero : units = 0
      · rw [zero]
        exact twoTo_pos _
      · exact (log2_lt_iff_lt_twoTo zero).1 longer.2

/-- The distance of a multiple of the spacing is a multiple of it. -/
theorem abs_mul_twoTo_sub (pos : 0 < den) (n k : Nat) :
    |((n * twoTo k : Nat) : ℚ) - num / den| =
      |(n : ℚ) - num / (den * twoTo k : Nat)| * 2 ^ k := by
  have posGrid : (0 : ℚ) < 2 ^ k := by positivity
  have posDen : (den : ℚ) ≠ 0 := by exact_mod_cast Nat.ne_of_gt pos
  rw [Nat.cast_mul, Nat.cast_mul, cast_twoTo]
  calc |(n : ℚ) * 2 ^ k - num / den|
      = |((n : ℚ) - num / (den * 2 ^ k)) * 2 ^ k| := by
        congr 1
        field_simp
    _ = |(n : ℚ) - num / (den * 2 ^ k)| * 2 ^ k := by rw [abs_mul, abs_of_pos posGrid]

theorem abs_roundUnits_sub_le_abs_mul (pos : 0 < den) (n : Nat) :
    |(roundUnits num den : ℚ) - num / den| ≤
      |((n * twoTo (gridExponent num den) : Nat) : ℚ) - num / den| := by
  have posGrid := Nat.mul_pos pos (twoTo_pos (gridExponent num den))
  unfold roundUnits
  dsimp only
  rw [abs_mul_twoTo_sub pos, abs_mul_twoTo_sub pos]
  exact mul_le_mul_of_nonneg_right (abs_roundQuotient_sub_le_abs posGrid n) (by positivity)

/-- A count below the leading bit of the ratio is farther than the rounding. -/
theorem abs_roundUnits_sub_lt_abs (pos : 0 < den) {units : Nat} (nonzero : num / den ≠ 0)
    (less : units < twoTo (num / den).log2) :
    |(roundUnits num den : ℚ) - num / den| < |(units : ℚ) - num / den| := by
  have exponents : (num / den).log2 =
      (num / den).log2 - gridExponent num den + gridExponent num den := by
    unfold gridExponent
    omega
  -- The power of two at the leading bit lies between the count and the ratio.
  have closer := @abs_roundUnits_sub_le_abs_mul num den pos
    (twoTo ((num / den).log2 - gridExponent num den))
  rw [← twoTo_add, ← exponents] at closer
  have leading : ((twoTo (num / den).log2 : Nat) : ℚ) ≤ num / den := by
    have posQ : (0 : ℚ) < den := by exact_mod_cast pos
    rw [le_div_iff₀ posQ]
    exact_mod_cast (Nat.le_div_iff_mul_le pos).1 (twoTo_log2_le nonzero)
  have lessQ : (units : ℚ) < (twoTo (num / den).log2 : Nat) := by exact_mod_cast less
  rw [abs_of_nonpos (by linarith : ((twoTo (num / den).log2 : Nat) : ℚ) - num / den ≤ 0)] at closer
  rw [abs_of_neg (by linarith : (units : ℚ) - num / den < 0)]
  linarith

variable {units : Nat}

/-- **No short count is closer to a ratio** than its rounding. -/
theorem abs_roundUnits_sub_le_abs (pos : 0 < den) (short : Short units) :
    |(roundUnits num den : ℚ) - num / den| ≤ |(units : ℚ) - num / den| := by
  rcases spaced_or_lt num den units with spaced | ⟨nonzero, less⟩
  · obtain ⟨n, multiple⟩ := Nat.dvd_trans (twoTo_dvd_twoTo spaced) short
    rw [multiple, Nat.mul_comm]
    exact abs_roundUnits_sub_le_abs_mul pos n
  · exact le_of_lt (abs_roundUnits_sub_lt_abs pos nonzero less)

/-- **Of two short counts that are as close** the rounding is even and the other one odd. -/
theorem odd_of_tie (pos : 0 < den) (short : Short units) (other : units ≠ roundUnits num den)
    (tie : |(units : ℚ) - num / den| = |(roundUnits num den : ℚ) - num / den|) :
    2 ∣ leadingBits (roundUnits num den) ∧ ¬ 2 ∣ leadingBits units := by
  rcases spaced_or_lt num den units with spaced | ⟨nonzero, less⟩
  · obtain ⟨n, multiple⟩ := Nat.dvd_trans (twoTo_dvd_twoTo spaced) short
    rw [Nat.mul_comm] at multiple
    subst multiple
    have posGrid := Nat.mul_pos pos (twoTo_pos (gridExponent num den))
    unfold roundUnits at other tie ⊢
    dsimp only at other tie ⊢
    rw [abs_mul_twoTo_sub pos, abs_mul_twoTo_sub pos] at tie
    have tie' := mul_right_cancel₀ (by positivity : (2 : ℚ) ^ gridExponent num den ≠ 0) tie
    have other' : n ≠ roundQuotient num (den * twoTo (gridExponent num den)) := by
      intro same
      exact other (by rw [same])
    obtain ⟨even, odd⟩ := even_roundQuotient_of_tie posGrid other' tie'
    have bound := Nat.le_trans (roundQuotient_le_succ _ _) (div_grid_lt num den)
    exact ⟨even_leadingBits even bound, odd_leadingBits odd short spaced⟩
  · have farther := abs_roundUnits_sub_lt_abs pos nonzero less
    rw [tie] at farther
    exact absurd farther (lt_irrefl _)

theorem roundUnits_eq_zero_of_le (pos : 0 < den) (small : 2 * num ≤ den) :
    roundUnits num den = 0 := by
  have short : Short 0 := Nat.dvd_zero _
  have ratio : (num / den : ℚ) ≤ 1 / 2 := by
    have posQ : (0 : ℚ) < den := by exact_mod_cast pos
    have smallQ : (2 : ℚ) * num ≤ den := by exact_mod_cast small
    rw [div_le_div_iff₀ posQ two_pos]
    linarith
  have nonneg : (0 : ℚ) ≤ num / den := div_nonneg (Nat.cast_nonneg _) (Nat.cast_nonneg _)
  have closer := @abs_roundUnits_sub_le_abs num den _ pos short
  rw [Nat.cast_zero, abs_zero_sub nonneg] at closer
  have upper := (abs_le.1 closer).2
  by_contra nonzero
  have whole : (1 : ℚ) ≤ roundUnits num den := by
    exact_mod_cast Nat.one_le_iff_ne_zero.2 nonzero
  -- One unit is as close as none only in the middle, where none is the even choice.
  have tie : |((0 : Nat) : ℚ) - num / den| = |(roundUnits num den : ℚ) - num / den| := by
    rw [Nat.cast_zero, abs_zero_sub nonneg, abs_of_nonneg (by linarith)]
    linarith
  exact (odd_of_tie pos short (Ne.symm nonzero) tie).2 (Nat.dvd_zero 2)

end counts

/-! ## §4. The range -/

/-- **The threshold**: the middle between the largest double and the limit, in units. -/
def threshold : Nat := (twoTo 54 - 1) * twoTo 2044

theorem largest_add_half : largest + twoTo 2044 = threshold ∧ threshold + twoTo 2044 = limit := by
  decide +kernel

theorem short_limit : Short limit := by
  unfold Short limit
  rw [log2_twoTo]
  exact twoTo_dvd_twoTo (by decide)

theorem odd_leadingBits_largest : ¬ 2 ∣ leadingBits largest := by decide +kernel

/-- No short count lies between the largest double and the limit. -/
theorem le_largest {units : Nat} (short : Short units) (inside : units < limit) :
    units ≤ largest := by
  by_cases long : 2097 ≤ units.log2
  · -- With its leading bit in the last place a count is a multiple of the last spacing.
    obtain ⟨n, multiple⟩ : twoTo 2045 ∣ units :=
      Nat.dvd_trans (twoTo_dvd_twoTo (by omega)) short
    have bound : n < twoTo 53 := by
      have split : limit = twoTo 2045 * twoTo 53 := by
        unfold limit
        rw [← twoTo_add]
      rw [multiple, split] at inside
      exact Nat.lt_of_mul_lt_mul_left inside
    unfold largest
    rw [multiple, Nat.mul_comm]
    exact Nat.mul_le_mul_right _ (by omega)
  · have below : units < twoTo 2097 := by
      refine Nat.lt_of_lt_of_le (lt_twoTo_log2_succ units) (twoTo_le_twoTo (by omega))
    have half : twoTo 2097 ≤ largest := by decide +kernel
    omega

section range

variable {num den : Nat}

theorem middle : (0 : ℚ) < twoTo 2044 ∧ (largest : ℚ) + twoTo 2044 = threshold ∧
    (threshold : ℚ) + twoTo 2044 = limit := by
  obtain ⟨lower, upper⟩ := largest_add_half
  refine ⟨?_, ?_, ?_⟩
  · exact_mod_cast twoTo_pos 2044
  · exact_mod_cast lower
  · exact_mod_cast upper

/-- The middle itself is not rounded to the largest double, which is odd. -/
theorem roundUnits_ne_largest (pos : 0 < den) (tied : (num / den : ℚ) = threshold) :
    roundUnits num den ≠ largest := by
  intro same
  obtain ⟨posHalf, lower, upper⟩ := middle
  have other : limit ≠ roundUnits num den := by
    rw [same]
    decide +kernel
  have tie : |(limit : ℚ) - num / den| = |(roundUnits num den : ℚ) - num / den| := by
    rw [same, tied, abs_of_pos (by linarith), abs_of_neg (by linarith)]
    linarith
  have even := (odd_of_tie pos short_limit other tie).1
  rw [same] at even
  exact odd_leadingBits_largest even

/-- A ratio of at least the threshold is rounded beyond the range. -/
theorem limit_le_roundUnits (pos : 0 < den) (beyond : (threshold : ℚ) ≤ num / den) :
    limit ≤ roundUnits num den := by
  obtain ⟨posHalf, lower, upper⟩ := middle
  by_contra less
  rw [Nat.not_le] at less
  have most : (roundUnits num den : ℚ) ≤ largest := by
    exact_mod_cast le_largest (roundUnits_dvd num den) less
  have nearest := @abs_roundUnits_sub_le_abs num den limit pos short_limit
  rw [abs_of_nonpos (by linarith : (roundUnits num den : ℚ) - num / den ≤ 0)] at nearest
  by_cases outside : (limit : ℚ) ≤ num / den
  · rw [abs_of_nonpos (by linarith)] at nearest
    linarith
  · -- Only the tie is left.
    rw [not_le] at outside
    rw [abs_of_pos (by linarith)] at nearest
    have rounded : (roundUnits num den : ℚ) = largest := by linarith
    have tied : (num / den : ℚ) = threshold := by linarith
    exact roundUnits_ne_largest pos tied (by exact_mod_cast rounded)

theorem roundUnits_lt_limit (pos : 0 < den) (below : (num / den : ℚ) < threshold) :
    roundUnits num den < limit := by
  obtain ⟨posHalf, lower, upper⟩ := middle
  by_contra beyond
  have beyondQ : (limit : ℚ) ≤ roundUnits num den := by exact_mod_cast Nat.not_lt.1 beyond
  have nearest := @abs_roundUnits_sub_le_abs num den largest pos representable_largest.2
  rw [abs_of_nonneg (by linarith)] at nearest
  by_cases outside : (largest : ℚ) ≤ num / den
  · rw [abs_of_nonpos (by linarith)] at nearest
    linarith
  · rw [not_le] at outside
    rw [abs_of_pos (by linarith)] at nearest
    linarith

/-- **What is rounded into the range**: a ratio below the threshold. -/
theorem roundUnits_lt_limit_iff (pos : 0 < den) :
    roundUnits num den < limit ↔ num < threshold * den := by
  have posQ : (0 : ℚ) < den := by exact_mod_cast pos
  have cast : num < threshold * den ↔ (num / den : ℚ) < threshold := by
    rw [div_lt_iff₀ posQ]
    exact_mod_cast Iff.rfl
  rw [cast]
  constructor
  · intro inside
    by_contra beyond
    rw [not_lt] at beyond
    exact Nat.not_lt.2 (limit_le_roundUnits pos beyond) inside
  · exact roundUnits_lt_limit pos

end range

/-! ## §5. Doubles -/

def significand : Double → Nat
  | finite _ units _ => leadingBits units
  | _ => 0

/-- **Nearest**: a finite double than which no other is closer to `q`.  If another number is as
close, then the double is the even one. -/
structure IsNearest (q : ℚ) (x : Double) : Prop where
  isFinite : x.isFinite = true
  closest : ∀ r (y : Double) s, x.toRat? = some r → y.toRat? = some s → |r - q| ≤ |s - q|
  even : ∀ r (y : Double) s, x.toRat? = some r → y.toRat? = some s → s ≠ r → |s - q| = |r - q| →
    2 ∣ x.significand

section signs

variable {neg : Bool} {a : ℚ}

theorem toRat?_finite (neg : Bool) {units : Nat} (fits : Representable units) :
    (finite neg units fits).toRat? = some (signed neg (units / unitsPerOne)) := by
  cases neg with
  | false =>
    show some (((units : Int) : ℚ) / unitsPerOne) = some ((units : ℚ) / unitsPerOne)
    rw [Int.cast_natCast]
  | true =>
    show some (((-(units : Int) : Int) : ℚ) / unitsPerOne) = some (-((units : ℚ) / unitsPerOne))
    rw [Int.cast_neg, Int.cast_natCast, neg_div]

/-- Against a double of any sign there is a count, with the sign of the number, that is as close; it
is closer unless it is the double. -/
theorem exists_count_of_toRat? {y : Double} {s : ℚ} (number : y.toRat? = some s) (neg : Bool)
    (nonneg : 0 ≤ a) : ∃ units, Short units ∧
      |(units / unitsPerOne : ℚ) - a| ≤ |s - signed neg a| ∧
      (|(units / unitsPerOne : ℚ) - a| = |s - signed neg a| →
        s = signed neg (units / unitsPerOne)) := by
  cases y with
  | nan => exact nomatch number
  | infinity => exact nomatch number
  | finite neg' units fits =>
    rw [toRat?_finite] at number
    rw [← Option.some.inj number]
    by_cases same : neg' = neg
    · subst same
      refine ⟨units, fits.2, ?_, ?_⟩
      · rw [abs_signed_sub]
      · intro _
        rfl
    · -- On the other side of zero the zero itself is closer.
      have opposite : neg' = !neg := Bool.eq_not_of_ne same
      subst opposite
      have magnitude : (0 : ℚ) ≤ units / unitsPerOne :=
        div_nonneg (Nat.cast_nonneg _) (Nat.cast_nonneg _)
      rw [abs_signed_not_sub magnitude nonneg]
      refine ⟨0, Nat.dvd_zero _, ?_, ?_⟩
      · rw [Nat.cast_zero, zero_div, abs_zero_sub nonneg]
        linarith
      · intro tie
        rw [Nat.cast_zero, zero_div, abs_zero_sub nonneg] at tie
        have zero : (units / unitsPerOne : ℚ) = 0 := by linarith
        rw [zero, Nat.cast_zero, zero_div, signed_zero, signed_zero]

end signs

section nearest

variable {num den : Nat} {neg : Bool}

/-- Distances of counts of units, and of the numbers that they are. -/
theorem abs_units_sub (units num den : Nat) :
    |(units / unitsPerOne : ℚ) - num / den / unitsPerOne| =
      |(units : ℚ) - num / den| / unitsPerOne := by
  have pos : (0 : ℚ) < unitsPerOne := by exact_mod_cast unitsPerOne_pos
  rw [← sub_div, abs_div, abs_of_pos pos]

theorem isNearest_of_inside (pos : 0 < den) (inside : roundUnits num den < limit) (neg : Bool) :
    IsNearest (signed neg (num / den / unitsPerOne)) (ofRatio neg num den) := by
  have posOne : (0 : ℚ) < unitsPerOne := by exact_mod_cast unitsPerOne_pos
  have nonneg : (0 : ℚ) ≤ num / den / unitsPerOne :=
    div_nonneg (div_nonneg (Nat.cast_nonneg _) (Nat.cast_nonneg _)) (Nat.cast_nonneg _)
  have fits : Representable (roundUnits num den) := ⟨inside, roundUnits_dvd num den⟩
  rw [ofRatio_of_roundUnits rfl fits]
  constructor
  · rfl
  · intro r y s value number
    rw [toRat?_finite neg fits] at value
    obtain ⟨units, short, close, -⟩ := exists_count_of_toRat? number neg nonneg
    rw [← Option.some.inj value, abs_signed_sub]
    refine LE.le.trans ?_ close
    rw [abs_units_sub, abs_units_sub]
    exact div_le_div_of_nonneg_right (abs_roundUnits_sub_le_abs pos short) posOne.le
  · intro r y s value number other tie
    rw [toRat?_finite neg fits] at value
    obtain ⟨units, short, close, same⟩ := exists_count_of_toRat? number neg nonneg
    rw [← Option.some.inj value] at other tie
    rw [abs_signed_sub] at tie
    have between := @abs_roundUnits_sub_le_abs num den _ pos short
    have scaled := div_le_div_of_nonneg_right between posOne.le
    rw [← abs_units_sub, ← abs_units_sub] at scaled
    -- The double, the count and the rounding are all as far.
    have equal := same (by linarith)
    have tie' : |(units / unitsPerOne : ℚ) - num / den / unitsPerOne| =
        |(roundUnits num den / unitsPerOne : ℚ) - num / den / unitsPerOne| := by linarith
    rw [abs_units_sub, abs_units_sub] at tie'
    refine (odd_of_tie pos short ?_ ((div_left_inj' posOne.ne').1 tie')).1
    intro rounded
    exact other (by rw [equal, rounded])

/-- **Rounding is the nearest double**, with the sign of the ratio, and no other double is. -/
theorem isNearest_iff (pos : 0 < den) (inside : roundUnits num den < limit) {x : Double} :
    IsNearest (signed neg (num / den / unitsPerOne)) x ∧ x.isSigned = neg ↔
      x = ofRatio neg num den := by
  have posOne : (0 : ℚ) < unitsPerOne := by exact_mod_cast unitsPerOne_pos
  have rounded := isNearest_of_inside pos inside neg
  have fits' : Representable (roundUnits num den) := ⟨inside, roundUnits_dvd num den⟩
  rw [ofRatio_of_roundUnits rfl fits'] at rounded ⊢
  constructor
  · intro h
    obtain ⟨nearest, sign⟩ := h
    cases x with
    | nan => exact nomatch nearest.isFinite
    | infinity => exact nomatch nearest.isFinite
    | finite neg' units fits =>
      have same : neg' = neg := sign
      subst same
      have number := toRat?_finite neg' fits
      have number' := toRat?_finite neg' fits'
      -- Both are closest, so they are equally far; were they different, both would be odd in a tie,
      -- and each is even.
      have closer := nearest.closest _ _ _ number number'
      have closer' := rounded.closest _ _ _ number' number
      have tie := le_antisymm closer closer'
      by_contra different
      have other : units ≠ roundUnits num den := by
        intro equal
        subst equal
        exact different rfl
      have tie' := tie
      rw [abs_signed_sub, abs_signed_sub, abs_units_sub, abs_units_sub] at tie'
      have odd := (odd_of_tie pos fits.2 other ((div_left_inj' posOne.ne').1 tie')).2
      refine odd (nearest.even _ _ _ number number' ?_ tie.symm)
      intro equal
      have ratios := (div_left_inj' posOne.ne').1 (signed_inj equal)
      exact other (by exact_mod_cast ratios.symm)
  · intro same
    rw [same]
    exact ⟨rounded, rfl⟩

end nearest

end Double

end LineCalc
