/-
FiniteLiteral — which literals stand for finite doubles, and for which.

The value of a decimal literal lies below a bound, which stands in the middle
between the largest double and `2 ^ 1024`, or the literal stands for no finite
double.  Below the bound it stands for the double that is nearest to its value,
however long it is and however large its exponent.

## Main definitions

  * `Double.bound` — the bound for the numbers of literals.

## Main statements

  * `Double.isNearest_ofDecimal_iff` — a decimal is read as its nearest double.
  * `Double.parseFinite?_eq_some_iff` — the literals of finite doubles.
  * `Double.parseFinite?_tiny` — the literals of zeros.
-/

import LineCalc.Proofs.Double.LiteralGrammar
import LineCalc.Proofs.Double.RecasedLiteral

namespace LineCalc

namespace Double

/-! ## §1. Decimals -/

/-- **The bound** for the numbers that are read as finite doubles. -/
def bound : ℚ := 2 ^ 1024 - 2 ^ 970

theorem bound_mul_unitsPerOne : bound * unitsPerOne = threshold := by
  have sum : (threshold : ℚ) + twoTo 2044 = limit := by exact_mod_cast largest_add_half.2
  have upper : (limit : ℚ) = 2 ^ 1024 * 2 ^ 1074 := by
    unfold limit
    rw [cast_twoTo, ← pow_add]
  have half : ((twoTo 2044 : Nat) : ℚ) = 2 ^ 970 * 2 ^ 1074 := by
    rw [cast_twoTo, ← pow_add]
  unfold bound unitsPerOne
  rw [cast_twoTo, sub_mul, ← upper, ← half, ← sum]
  ring

section decimals

variable {neg : Bool}

/-- The ratio that a decimal is rounded from, in ones, is its value. -/
theorem ratio_eq_value (d : Decimal) :
    ((d.coefficient * tenTo d.exponent.toNat * unitsPerOne : Nat) : ℚ) /
      tenTo (-d.exponent).toNat / unitsPerOne = d.value := by
  have pos : (tenTo (-d.exponent).toNat : ℚ) ≠ 0 := by exact_mod_cast (tenTo_pos _).ne'
  have posOne := unitsPerOne_ne_zero
  unfold Decimal.value
  rw [ten_zpow_eq]
  push_cast
  field_simp

theorem value_nonneg (d : Decimal) : 0 ≤ d.value := by
  unfold Decimal.value
  rw [ten_zpow_eq]
  exact mul_nonneg (Nat.cast_nonneg _) (div_nonneg (Nat.cast_nonneg _) (Nat.cast_nonneg _))

theorem roundUnits_lt_limit_iff_value (d : Decimal) :
    roundUnits (d.coefficient * tenTo d.exponent.toNat * unitsPerOne) (tenTo (-d.exponent).toNat) <
      limit ↔ d.value < bound := by
  have posOne : (0 : ℚ) < unitsPerOne := by exact_mod_cast unitsPerOne_pos
  have pos : (0 : ℚ) < tenTo (-d.exponent).toNat := by exact_mod_cast tenTo_pos _
  rw [roundUnits_lt_limit_iff (tenTo_pos _), ← ratio_eq_value, div_lt_iff₀ posOne,
    bound_mul_unitsPerOne, div_lt_iff₀ pos]
  exact_mod_cast Iff.rfl

/-- **A decimal is read as a finite double** exactly if its value lies below the bound. -/
theorem isFinite_ofDecimal_iff (neg : Bool) (d : Decimal) :
    (ofDecimal neg d.coefficient d.exponent).isFinite = true ↔ d.value < bound := by
  rw [ofDecimal_eq_ofRatio, ← roundUnits_lt_limit_iff_value]
  constructor
  · intro finite
    by_contra outside
    rw [ofRatio_of_not_lt outside] at finite
    exact nomatch finite
  · intro inside
    rw [ofRatio_of_lt inside]
    rfl

/-- **A decimal is read as its nearest double**, with its own sign, and as no other one. -/
theorem isNearest_ofDecimal_iff {d : Decimal} (inside : d.value < bound) {x : Double} :
    IsNearest (signed neg d.value) x ∧ x.isSigned = neg ↔
      x = ofDecimal neg d.coefficient d.exponent := by
  rw [← roundUnits_lt_limit_iff_value] at inside
  rw [ofDecimal_eq_ofRatio, ← isNearest_iff (tenTo_pos _) inside, ratio_eq_value]

theorem ofDecimal_tiny {d : Decimal} (tiny : d.value ≤ 1 / 2 ^ 1075) :
    ofDecimal neg d.coefficient d.exponent = zero neg := by
  have posOne : (0 : ℚ) < unitsPerOne := by exact_mod_cast unitsPerOne_pos
  have pos : (0 : ℚ) < tenTo (-d.exponent).toNat := by exact_mod_cast tenTo_pos _
  have half : (1 / 2 ^ 1075 : ℚ) * unitsPerOne = 1 / 2 := by
    have twice : (2 : ℚ) * unitsPerOne = 2 ^ 1075 := by
      rw [← cast_twoTo, ← two_mul_unitsPerOne]
      push_cast
      rfl
    rw [← twice]
    have posOne' := posOne.ne'
    field_simp
  rw [← ratio_eq_value, div_le_iff₀ posOne, half, div_le_div_iff₀ pos two_pos, one_mul] at tiny
  rw [ofDecimal_eq_ofRatio]
  rw [mul_comm] at tiny
  have none := roundUnits_eq_zero_of_le (tenTo_pos _) (by exact_mod_cast tiny)
  exact ofRatio_of_roundUnits none representable_zero neg

end decimals

/-! ## §2. Literals -/

/-- The literals that are numerals are those that can stand for finite doubles. -/
theorem parseFinite?_eq_some_iff_numeral {cs : List Char} {x : Double} :
    parseFinite? cs = some x ↔
      ∃ n, Literal.parse? cs = some (.numeral n) ∧ n.toDouble = x ∧ x.isFinite = true := by
  unfold parseFinite? parse?
  rw [Option.filter_eq_some_iff, Option.map_eq_some_iff]
  constructor
  · intro h
    obtain ⟨⟨l, read, value⟩, finite⟩ := h
    cases l with
    | numeral n => exact ⟨n, read, value, finite⟩
    | infinity neg =>
      rw [← value] at finite
      exact nomatch finite
    | nan =>
      rw [← value] at finite
      exact nomatch finite
  · intro h
    obtain ⟨n, read, value, finite⟩ := h
    exact ⟨⟨.numeral n, read, value⟩, finite⟩

/-- **The literals of finite doubles** are the decimal literals below the bound; each of them stands
for the double that is nearest to its number. -/
theorem parseFinite?_eq_some_iff {cs : List Char} {x : Double} :
    parseFinite? cs = some x ↔
      ∃ neg q, Numeral.IsDecimal cs neg q ∧ |q| < bound ∧ IsNearest q x ∧ x.isSigned = neg := by
  rw [parseFinite?_eq_some_iff_numeral]
  constructor
  · intro h
    obtain ⟨n, read, rfl, finite⟩ := h
    have inside := (isFinite_ofDecimal_iff _ ⟨n.coefficient, n.exponent⟩).1 finite
    refine ⟨n.neg, _, Numeral.isDecimal_of_parse? read, ?_, ?_⟩
    · rw [abs_signed (value_nonneg _)]
      exact inside
    · exact (isNearest_ofDecimal_iff inside).2 rfl
  · intro h
    obtain ⟨neg, q, literal, inside, nearest⟩ := h
    obtain ⟨c, e, read, rfl⟩ := literal.parse?
    rw [abs_signed (value_nonneg _)] at inside
    have value := (isNearest_ofDecimal_iff inside).1 nearest
    refine ⟨⟨neg, c, e⟩, read, value.symm, ?_⟩
    rw [value]
    exact (isFinite_ofDecimal_iff _ ⟨c, e⟩).2 inside

/-- Every decimal literal below the bound stands for a finite double. -/
theorem exists_parseFinite?_iff {cs : List Char} :
    (∃ x, parseFinite? cs = some x) ↔ ∃ neg q, Numeral.IsDecimal cs neg q ∧ |q| < bound := by
  constructor
  · intro h
    obtain ⟨x, read⟩ := h
    obtain ⟨neg, q, literal, inside, -⟩ := parseFinite?_eq_some_iff.1 read
    exact ⟨neg, q, literal, inside⟩
  · intro h
    obtain ⟨neg, q, literal, inside⟩ := h
    obtain ⟨c, e, read, rfl⟩ := literal.parse?
    rw [abs_signed (value_nonneg _)] at inside
    have finite := (isFinite_ofDecimal_iff neg ⟨c, e⟩).2 inside
    exact ⟨_, parseFinite?_eq_some_iff_numeral.2 ⟨⟨neg, c, e⟩, read, rfl, finite⟩⟩

/-- A literal of at most half a unit stands for a zero with its sign. -/
theorem parseFinite?_tiny {cs : List Char} {neg : Bool} {q : ℚ}
    (literal : Numeral.IsDecimal cs neg q) (tiny : |q| ≤ 1 / 2 ^ 1075) :
    parseFinite? cs = some (zero neg) := by
  obtain ⟨c, e, read, rfl⟩ := literal.parse?
  rw [abs_signed (value_nonneg _)] at tiny
  exact parseFinite?_eq_some_iff_numeral.2 ⟨⟨neg, c, e⟩, read, ofDecimal_tiny tiny, rfl⟩

/-- The words for infinities and NaNs, with any sign and in either case, are no finite doubles. -/
theorem parseFinite?_word {cs : List Char} {sign name : String} (signs : sign ∈ ["", "+", "-"])
    (named : name ∈ ["inf", "infinity", "nan"])
    (spelled : cs.map Char.toLower = (sign ++ name).toList) : parseFinite? cs = none := by
  have words : ∀ sign ∈ ["", "+", "-"], ∀ name ∈ ["inf", "infinity", "nan"],
      parseFinite? (sign ++ name).toList = none := by decide
  have small : Text.Recased cs (cs.map Char.toLower) := (Text.map_toLower_map_toLower cs).symm
  rw [parseFinite?_congr small, spelled]
  exact words sign signs name named

end Double

end LineCalc
