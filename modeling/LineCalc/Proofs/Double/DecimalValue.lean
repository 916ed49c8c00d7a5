/-
DecimalValue — reading depends on the value of a decimal alone.

The reader of decimal values settles plainly huge and plainly tiny ones
without forming them.  The laws here show that these short cuts change
nothing: a decimal is read as its exact value, rounded once.  So two
decimals of one value are read alike, and the shortest decimal of a double
is read as that double.

## Main definitions

  * `Decimal.value` — the rational number that a decimal writes.

## Main statements

  * `Double.ofDecimal_eq_ofRatio` — the short cuts change nothing.
  * `Double.ofDecimal_congr` — decimals of one value are read alike.
  * `Double.ofDecimal_shortest` — the shortest decimal reads back.
-/

import LineCalc.Double.Shortest
import LineCalc.Proofs.Double.Rounding
import Mathlib.Algebra.Order.Field.Rat
import Mathlib.Tactic.FieldSimp
import Mathlib.Tactic.Ring

namespace LineCalc

theorem twoTo_three_mul_le_tenTo (k : Nat) : twoTo (3 * k) ≤ tenTo k := by
  have eights : twoTo (3 * k) = Nat.pow 8 k := Nat.pow_mul 2 3 k
  rw [eights]
  exact Nat.pow_le_pow_left (by decide) k

theorem tenTo_zero : tenTo 0 = 1 := rfl

namespace Double

/-! ## §1. Short cuts -/

theorem limit_le_of_plainlyHuge {m : Nat} {e : Int} (nonzero : m ≠ 0)
    (h : plainlyHuge m e = true) : limit ≤ m * tenTo e.toNat * unitsPerOne := by
  unfold plainlyHuge at h
  simp only [Bool.and_eq_true, decide_eq_true_eq] at h
  obtain ⟨nonneg, large⟩ := h
  have exponent : 1024 ≤ m.log2 + 3 * e.toNat := by omega
  calc limit
      = twoTo 1024 * unitsPerOne := limit_eq
    _ ≤ twoTo (m.log2 + 3 * e.toNat) * unitsPerOne :=
        Nat.mul_le_mul_right _ (twoTo_le_twoTo exponent)
    _ = twoTo m.log2 * twoTo (3 * e.toNat) * unitsPerOne := by rw [twoTo_add]
    _ ≤ m * tenTo e.toNat * unitsPerOne :=
        Nat.mul_le_mul_right _
          (Nat.mul_le_mul (twoTo_log2_le nonzero) (twoTo_three_mul_le_tenTo _))

theorem lt_tenTo_of_plainlyTiny {m : Nat} {e : Int} (h : plainlyTiny m e = true) :
    2 * (m * unitsPerOne) < tenTo (-e).toNat := by
  unfold plainlyTiny at h
  simp only [Bool.and_eq_true, decide_eq_true_eq] at h
  obtain ⟨below, small⟩ := h
  have exponent : m.log2 + 1 + 1075 ≤ 3 * (-e).toNat := by omega
  calc 2 * (m * unitsPerOne)
      = m * twoTo 1075 := by rw [Nat.mul_left_comm, two_mul_unitsPerOne]
    _ < twoTo (m.log2 + 1) * twoTo 1075 :=
        Nat.mul_lt_mul_of_pos_right (lt_twoTo_log2_succ m) (twoTo_pos _)
    _ = twoTo (m.log2 + 1 + 1075) := (twoTo_add _ _).symm
    _ ≤ twoTo (3 * (-e).toNat) := twoTo_le_twoTo exponent
    _ ≤ tenTo (-e).toNat := twoTo_three_mul_le_tenTo _

/-- **A decimal is read as its exact value, rounded once**. -/
theorem ofDecimal_eq_ofRatio (neg : Bool) (m : Nat) (e : Int) :
    ofDecimal neg m e =
      ofRatio neg (m * tenTo e.toNat * unitsPerOne) (tenTo (-e).toNat) := by
  unfold ofDecimal
  by_cases nothing : m = 0
  · subst nothing
    rw [if_pos rfl]
    exact (ofRatio_eq_zero (by simpa using tenTo_pos _) neg).symm
  rw [if_neg nothing]
  -- The short cuts are taken for values whose rounding is known.
  by_cases huge : plainlyHuge m e = true
  · have nonneg : (-e).toNat = 0 := by
      unfold plainlyHuge at huge
      simp only [Bool.and_eq_true, decide_eq_true_eq] at huge
      omega
    rw [if_pos huge, nonneg]
    refine (ofRatio_eq_infinity (tenTo_pos 0) ?_ neg).symm
    rw [tenTo_zero, Nat.mul_one]
    exact limit_le_of_plainlyHuge nothing huge
  rw [if_neg huge]
  by_cases tiny : plainlyTiny m e = true
  · have below : e.toNat = 0 := by
      unfold plainlyTiny at tiny
      simp only [Bool.and_eq_true, decide_eq_true_eq] at tiny
      omega
    rw [if_pos tiny, below]
    refine (ofRatio_eq_zero ?_ neg).symm
    rw [tenTo_zero, Nat.mul_one]
    exact lt_tenTo_of_plainlyTiny tiny
  rw [if_neg tiny]
  -- Otherwise one of the two powers of ten is one.
  by_cases sign : 0 ≤ e
  · rw [if_pos sign, show (-e).toNat = 0 by omega]
    rfl
  · rw [if_neg sign, show e.toNat = 0 by omega, tenTo_zero, Nat.mul_one]

/-! ## §2. Values -/

end Double

/-- **The value of a decimal**. -/
def Decimal.value (d : Decimal) : ℚ := d.coefficient * (10 : ℚ) ^ d.exponent

namespace Double

theorem cast_tenTo (k : Nat) : ((tenTo k : Nat) : ℚ) = 10 ^ k := by
  show ((10 ^ k : Nat) : ℚ) = 10 ^ k
  push_cast
  rfl

/-- A power of ten with any exponent is the ratio of two powers with natural ones. -/
theorem ten_zpow_eq (e : Int) : (10 : ℚ) ^ e = (tenTo e.toNat : ℚ) / tenTo (-e).toNat := by
  rw [cast_tenTo, cast_tenTo, ← zpow_natCast, ← zpow_natCast,
    ← zpow_sub₀ (by norm_num : (10 : ℚ) ≠ 0)]
  congr 1
  omega

/-- **Decimals of one value are read alike**. -/
theorem ofDecimal_congr {d d' : Decimal} (same : d.value = d'.value) (neg : Bool) :
    ofDecimal neg d.coefficient d.exponent = ofDecimal neg d'.coefficient d'.exponent := by
  rw [ofDecimal_eq_ofRatio, ofDecimal_eq_ofRatio]
  refine ofRatio_eq_of_mul_eq (tenTo_pos _) (tenTo_pos _) ?_ neg
  unfold Decimal.value at same
  rw [ten_zpow_eq, ten_zpow_eq] at same
  have pos : (tenTo (-d.exponent).toNat : ℚ) ≠ 0 := by exact_mod_cast (tenTo_pos _).ne'
  have pos' : (tenTo (-d'.exponent).toNat : ℚ) ≠ 0 := by exact_mod_cast (tenTo_pos _).ne'
  rw [← mul_div_assoc, ← mul_div_assoc, div_eq_div_iff pos pos'] at same
  have crossed : d.coefficient * tenTo d.exponent.toNat * tenTo (-d'.exponent).toNat =
      d'.coefficient * tenTo d'.exponent.toNat * tenTo (-d.exponent).toNat := by
    exact_mod_cast same
  rw [Nat.mul_right_comm, crossed, Nat.mul_right_comm]

end Double

/-! ## §3. Zeros at the end -/

namespace Decimal

theorem value_cutZeros (coefficient : Nat) (exponent : Int) (places : Nat) :
    (cutZeros coefficient exponent places).value = (⟨coefficient, exponent⟩ : Decimal).value := by
  induction places generalizing coefficient exponent with
  | zero => rfl
  | succ places ih =>
    unfold cutZeros
    split
    · next cut =>
      rw [ih]
      have whole : coefficient = coefficient / 10 * 10 := by omega
      have cast : (coefficient : ℚ) = ((coefficient / 10 : Nat) : ℚ) * 10 := by
        exact_mod_cast whole
      unfold value
      rw [cast, zpow_add_one₀ (by norm_num : (10 : ℚ) ≠ 0)]
      ring
    · rfl

theorem value_normalized (d : Decimal) : d.normalized.value = d.value := by
  unfold normalized
  split
  · next nothing =>
    unfold value
    rw [nothing]
    simp
  · exact value_cutZeros d.coefficient d.exponent d.digits.length

end Decimal

namespace Double

/-! ## §4. Reading back -/

/-- A decimal reads back exactly if it is read as a double of that many units. -/
theorem readsBack_iff {units : Nat} {d : Decimal} :
    readsBack units d = true ↔
      ∃ sign fits, ofDecimal false d.coefficient d.exponent = finite sign units fits := by
  unfold readsBack
  cases ofDecimal false d.coefficient d.exponent with
  | nan => exact ⟨(nomatch ·), fun ⟨_, _, h⟩ => nomatch h⟩
  | infinity => exact ⟨(nomatch ·), fun ⟨_, _, h⟩ => nomatch h⟩
  | finite sign found fits =>
    constructor
    · intro h
      obtain rfl := eq_of_beq h
      exact ⟨sign, fits, rfl⟩
    · rintro ⟨_, _, h⟩
      injection h with _ same
      exact beq_iff_eq.2 same

theorem ofDecimal_of_readsBack {units : Nat} {d : Decimal} (h : readsBack units d = true)
    (fits : Representable units) (neg : Bool) :
    ofDecimal neg d.coefficient d.exponent = finite neg units fits := by
  obtain ⟨sign, fits', read⟩ := readsBack_iff.1 h
  rw [ofDecimal_eq_ofRatio] at read ⊢
  exact ofRatio_of_roundUnits (roundUnits_of_ofRatio read) fits neg

theorem readsBack_congr {units : Nat} {d d' : Decimal} (same : d.value = d'.value) :
    readsBack units d = readsBack units d' := by
  unfold readsBack
  rw [ofDecimal_congr same]

theorem five_pow_mul_twoTo (k : Nat) : Nat.pow 5 k * twoTo k = tenTo k := (Nat.mul_pow 5 2 k).symm

/-- In units of `2 ^ -k` all digits of a whole number of units stand before `10 ^ -k`. -/
theorem ofRatio_expansion (neg : Bool) (units k : Nat) :
    ofRatio neg (units * Nat.pow 5 k * twoTo k) (tenTo k) = ofRatio neg units 1 := by
  refine ofRatio_eq_of_mul_eq (tenTo_pos k) Nat.one_pos ?_ neg
  rw [Nat.mul_one, Nat.mul_assoc, five_pow_mul_twoTo]

theorem ofDecimal_expansion {units : Nat} (fits : Representable units) (neg : Bool) :
    ofDecimal neg (expansion units).coefficient (expansion units).exponent =
      finite neg units fits := by
  rw [ofDecimal_eq_ofRatio]
  unfold expansion unitsPerOne
  have whole : (-1074 : Int).toNat = 0 := rfl
  have places : (-(-1074) : Int).toNat = 1074 := rfl
  rw [whole, places, tenTo_zero, Nat.mul_one (units * Nat.pow 5 1074)]
  -- The exponent is forgotten, lest its power be computed.
  generalize 1074 = k
  rw [ofRatio_expansion]
  exact ofRatio_units fits

/-- Whatever grid the search ends on, the decimal found there reads back. -/
theorem readsBack_shortestAmong {units : Nat} {full : Decimal} (length : Nat)
    (counts : List Nat) (h : readsBack units full = true) :
    readsBack units (shortestAmong units full length counts) = true := by
  -- Either a grid has a neighbour that reads back, or the search goes on.
  induction counts with
  | nil => exact h
  | cons count more ih =>
    unfold shortestAmong
    split
    · next d found => exact List.find?_some found
    · exact ih

theorem readsBack_shortest {units : Nat} (fits : Representable units) :
    readsBack units (shortest units) = true := by
  unfold shortest
  dsimp only
  rw [readsBack_congr (Decimal.value_normalized _)]
  exact readsBack_shortestAmong _ _ (readsBack_iff.2 ⟨false, fits, ofDecimal_expansion fits false⟩)

/-- **The shortest decimal of a double is read as that double**. -/
theorem ofDecimal_shortest {units : Nat} (fits : Representable units) (neg : Bool) :
    ofDecimal neg (shortest units).coefficient (shortest units).exponent =
      finite neg units fits :=
  ofDecimal_of_readsBack (readsBack_shortest fits) fits neg

end Double

end LineCalc
