/-
Rounding — laws of the one rounding step.

A result is a ratio of natural numbers, rounded once.  The rounding sees
the ratio and not its terms, it does not cross a power of two, and it gives
zero for less than half a unit.

## Main statements

  * `Double.ofRatio_eq_of_mul_eq` — equal ratios are rounded alike.
  * `Double.twoTo_le_roundUnits`, `Double.roundUnits_le_twoTo` — rounding
    does not cross a power of two.
  * `Double.ofRatio_eq_infinity`, `Double.ofRatio_eq_zero` — what lies
    beyond the range on either side.
-/

import LineCalc.Double.Basic

namespace LineCalc

namespace Double

/-! ## §1. Ratios -/

/-- A quotient is rounded as the quotient of equal multiples is. -/
theorem roundQuotient_mul_left {k : Nat} (pos : 0 < k) (num den : Nat) :
    roundQuotient (k * num) (k * den) = roundQuotient num den := by
  have below : 2 * (k * (num % den)) < k * den ↔ 2 * (num % den) < den := by
    rw [Nat.mul_left_comm, Nat.mul_lt_mul_left pos]
  have middle : 2 * (k * (num % den)) = k * den ↔ 2 * (num % den) = den := by
    rw [Nat.mul_left_comm, Nat.mul_right_inj (Nat.ne_of_gt pos)]
  unfold roundQuotient
  simp only [Nat.mul_div_mul_left num den pos, Nat.mul_mod_mul_left, below, middle]

/-- A ratio of units is rounded as the ratio of equal multiples is. -/
theorem roundUnits_mul_left {k : Nat} (pos : 0 < k) (num den : Nat) :
    roundUnits (k * num) (k * den) = roundUnits num den := by
  have grid : gridExponent (k * num) (k * den) = gridExponent num den := by
    unfold gridExponent
    rw [Nat.mul_div_mul_left num den pos]
  unfold roundUnits
  simp only [grid, Nat.mul_assoc, roundQuotient_mul_left pos]

theorem ofRatio_mul_left {k : Nat} (pos : 0 < k) (neg : Bool) (num den : Nat) :
    ofRatio neg (k * num) (k * den) = ofRatio neg num den := by
  unfold ofRatio
  simp only [roundUnits_mul_left pos]

/-- **Equal ratios are rounded alike**. -/
theorem ofRatio_eq_of_mul_eq {a b c d : Nat} (posB : 0 < b) (posD : 0 < d)
    (same : a * d = c * b) (neg : Bool) : ofRatio neg a b = ofRatio neg c d :=
  calc ofRatio neg a b
      = ofRatio neg (d * a) (d * b) := (ofRatio_mul_left posD neg a b).symm
    _ = ofRatio neg (b * c) (b * d) := by rw [Nat.mul_comm d a, same, Nat.mul_comm c b,
          Nat.mul_comm d b]
    _ = ofRatio neg c d := ofRatio_mul_left posB neg c d

/-- A ratio that is rounded into the range becomes a finite double. -/
theorem ofRatio_of_lt {num den : Nat} (inside : roundUnits num den < limit) (neg : Bool) :
    ofRatio neg num den = finite neg (roundUnits num den) ⟨inside, roundUnits_dvd num den⟩ :=
  dif_pos inside

/-- A ratio that is rounded beyond the range becomes an infinity. -/
theorem ofRatio_of_not_lt {num den : Nat} (outside : ¬ roundUnits num den < limit) (neg : Bool) :
    ofRatio neg num den = infinity neg :=
  dif_neg outside

/-- A ratio whose rounding is representable becomes that double. -/
theorem ofRatio_of_roundUnits {num den units : Nat} (rounded : roundUnits num den = units)
    (fits : Representable units) (neg : Bool) : ofRatio neg num den = finite neg units fits := by
  subst rounded
  exact ofRatio_of_lt fits.1 neg

/-- A ratio that becomes a finite double is rounded to its units. -/
theorem roundUnits_of_ofRatio {num den units : Nat} {neg sign : Bool}
    {fits : Representable units} (h : ofRatio neg num den = finite sign units fits) :
    roundUnits num den = units := by
  by_cases inside : roundUnits num den < limit
  · rw [ofRatio_of_lt inside] at h
    injection h
  · rw [ofRatio_of_not_lt inside] at h
    exact nomatch h

/-! ## §2. Bounds -/

theorem limit_eq : limit = twoTo 1024 * unitsPerOne := by
  unfold limit unitsPerOne
  rw [← twoTo_add]

theorem two_mul_unitsPerOne : 2 * unitsPerOne = twoTo 1075 := by
  have two : twoTo 1 = 2 := rfl
  unfold unitsPerOne
  rw [show 1075 = 1 + 1074 from rfl, twoTo_add, two]

theorem twoTo_log2_le {n : Nat} (h : n ≠ 0) : twoTo n.log2 ≤ n := Nat.log2_self_le h

/-- Rounding does not go below the power of two at the leading bit. -/
theorem twoTo_log2_le_roundUnits {num den : Nat} (h : num / den ≠ 0) :
    twoTo (num / den).log2 ≤ roundUnits num den := by
  have leading := twoTo_log2_le h
  unfold roundUnits
  dsimp only
  have exponents : (num / den).log2 =
      (num / den).log2 - gridExponent num den + gridExponent num den := by
    unfold gridExponent
    omega
  have posGrid := twoTo_pos (gridExponent num den)
  -- The leading bit survives the division by the spacing.
  have kept : twoTo ((num / den).log2 - gridExponent num den) ≤
      num / (den * twoTo (gridExponent num den)) := by
    rw [← Nat.div_div_eq_div_mul, Nat.le_div_iff_mul_le posGrid, ← twoTo_add, ← exponents]
    exact leading
  calc twoTo (num / den).log2
      = twoTo ((num / den).log2 - gridExponent num den) * twoTo (gridExponent num den) := by
        rw [← twoTo_add, ← exponents]
    _ ≤ _ := Nat.mul_le_mul_right _ (Nat.le_trans kept (le_roundQuotient _ _))

/-- **A ratio of at least a power of two is not rounded below it**. -/
theorem twoTo_le_roundUnits {num den k : Nat} (pos : 0 < den) (h : twoTo k * den ≤ num) :
    twoTo k ≤ roundUnits num den := by
  have quotient : twoTo k ≤ num / den := (Nat.le_div_iff_mul_le pos).2 h
  have nonzero : num / den ≠ 0 := Nat.ne_of_gt (Nat.lt_of_lt_of_le (twoTo_pos k) quotient)
  have exponent : k ≤ (num / den).log2 := by
    refine Nat.le_of_not_lt fun less => ?_
    have small := (log2_lt_iff_lt_twoTo nonzero).1 less
    omega
  exact Nat.le_trans (twoTo_le_twoTo exponent) (twoTo_log2_le_roundUnits nonzero)

/-- **A ratio below a power of two is not rounded beyond it**. -/
theorem roundUnits_le_twoTo {num den k : Nat} (h : num < twoTo k * den) :
    roundUnits num den ≤ twoTo k := by
  have quotient : num / den < twoTo k := Nat.div_lt_of_lt_mul (Nat.mul_comm _ _ ▸ h)
  have exponent : gridExponent num den ≤ k := by
    unfold gridExponent
    by_cases zero : num / den = 0
    · rw [zero]
      exact Nat.zero_le k
    · have less := (log2_lt_iff_lt_twoTo zero).2 quotient
      omega
  have posGrid := twoTo_pos (gridExponent num den)
  -- The spacing divides the power, so the power is itself a multiple that rounding can reach.
  have split : twoTo k = twoTo (k - gridExponent num den) * twoTo (gridExponent num den) := by
    rw [← twoTo_add, Nat.sub_add_cancel exponent]
  unfold roundUnits
  dsimp only
  rw [split]
  refine Nat.mul_le_mul_right _ ?_
  have whole : num / (den * twoTo (gridExponent num den)) < twoTo (k - gridExponent num den) := by
    rw [← Nat.div_div_eq_div_mul]
    apply Nat.div_lt_of_lt_mul
    rwa [Nat.mul_comm, ← split]
  exact Nat.le_trans (roundQuotient_le_succ _ _) whole

theorem roundUnits_eq_zero {num den : Nat} (h : 2 * num < den) : roundUnits num den = 0 := by
  have quotient : num / den = 0 := Nat.div_eq_of_lt (by omega)
  have rest : num % den = num := Nat.mod_eq_of_lt (by omega)
  have grid : twoTo (gridExponent num den) = 1 := by
    unfold gridExponent
    rw [quotient]
    rfl
  unfold roundUnits
  simp only [grid, Nat.mul_one]
  unfold roundQuotient
  simp [quotient, rest, h]

theorem ofRatio_eq_infinity {num den : Nat} (pos : 0 < den) (h : limit * den ≤ num) (neg : Bool) :
    ofRatio neg num den = infinity neg :=
  ofRatio_of_not_lt (Nat.not_lt.2 (twoTo_le_roundUnits pos h)) neg

theorem ofRatio_eq_zero {num den : Nat} (h : 2 * num < den) (neg : Bool) :
    ofRatio neg num den = zero neg :=
  ofRatio_of_roundUnits (roundUnits_eq_zero h) representable_zero neg

end Double

end LineCalc
