/-
Whole — the doubles that are whole numbers.

A finite double is a whole number if its units make up full ones.  Whether
it is even can be told from the remainder of a division by two, and every
natural number of moderate size has a finite double next to it.

## Main statements

  * `Double.toInt?_eq_some_iff` — the whole numbers are the multiples of
    one.
  * `Double.isEvenInteger_finite` — even numbers leave no rest when they are
    divided by two.
  * `Double.isFinite_ofNat` — natural numbers of moderate size are within
    the range.
-/

import LineCalc.Proofs.Double.Rounding

namespace LineCalc

theorem twoTo_lt_twoTo {j k : Nat} (h : j < k) : twoTo j < twoTo k := by
  have nonzero : twoTo j ≠ 0 := Nat.ne_of_gt (twoTo_pos j)
  refine (log2_lt_iff_lt_twoTo nonzero).1 ?_
  rwa [log2_twoTo]

namespace Double

theorem unitsPerOne_pos : 0 < unitsPerOne := twoTo_pos 1074

/-! ## §1. Multiples of one -/

/-- **The whole numbers are the multiples of one**. -/
theorem toInt?_eq_some_iff {x : Double} {n : Int} :
    x.toInt? = some n ↔
      ∃ neg units fits m, x = finite neg units fits ∧ units = m * unitsPerOne ∧
        n = if neg then -(m : Int) else m := by
  constructor
  · intro h
    cases x with
    | nan => exact nomatch h
    | infinity => exact nomatch h
    | finite neg units fits =>
      unfold toInt? at h
      dsimp only at h
      split at h
      · next divides =>
        obtain rfl := Option.some.inj h
        have whole : units = units / unitsPerOne * unitsPerOne :=
          (Nat.div_mul_cancel (Nat.dvd_of_mod_eq_zero divides)).symm
        exact ⟨neg, units, fits, units / unitsPerOne, rfl, whole, rfl⟩
      · exact nomatch h
  · rintro ⟨neg, units, fits, m, rfl, whole, rfl⟩
    have divides : units % unitsPerOne = 0 := by rw [whole, Nat.mul_mod_left]
    -- What was multiplied by the units of one is got back by dividing.
    have quotient : (units : Int) / unitsPerOne = m := by
      rw [← Int.natCast_ediv, whole, Nat.mul_div_cancel m unitsPerOne_pos]
    unfold toInt?
    dsimp only
    rw [if_pos divides, quotient]

theorem toInt?_eq_none_iff {neg : Bool} {units : Nat} {fits : Representable units} :
    (finite neg units fits).toInt? = none ↔ units % unitsPerOne ≠ 0 := by
  unfold toInt?
  dsimp only
  split
  · next whole => exact ⟨(nomatch ·), fun rest => absurd whole rest⟩
  · next rest => exact ⟨fun _ => rest, fun _ => rfl⟩

theorem toInt?_of_isZero {x : Double} (h : x.isZero = true) : x.toInt? = some 0 := by
  cases x with
  | nan => exact nomatch h
  | infinity => exact nomatch h
  | finite neg units fits =>
    have none : units = 0 := eq_of_beq h
    refine toInt?_eq_some_iff.2 ⟨neg, units, fits, 0, rfl, ?_, ?_⟩
    · rw [none, Nat.zero_mul]
    · cases neg <;> rfl

/-! ## §2. Parity -/

section parity

variable {neg : Bool} {units m : Nat} {fits : Representable units}

theorem isEvenInteger_of_whole (whole : units = m * unitsPerOne) :
    (finite neg units fits).isEvenInteger = (m % 2 == 0) := by
  have integer := toInt?_eq_some_iff.2 ⟨neg, units, fits, m, rfl, whole, rfl⟩
  unfold isEvenInteger
  rw [integer]
  dsimp only
  rw [Bool.eq_iff_iff, beq_iff_eq, beq_iff_eq]
  cases neg <;> simp only [Bool.false_eq_true, if_true, if_false] <;> omega

theorem isEvenInteger_of_toInt?_eq_none {x : Double} (h : x.toInt? = none) :
    x.isEvenInteger = false := by
  unfold isEvenInteger
  rw [h]

/-- **Even numbers leave no rest** when they are divided by two. -/
theorem isEvenInteger_finite :
    (finite neg units fits).isEvenInteger = (units % (2 * unitsPerOne) == 0) := by
  have pos := unitsPerOne_pos
  by_cases divides : units % unitsPerOne = 0
  · have whole : units = units / unitsPerOne * unitsPerOne :=
      (Nat.div_mul_cancel (Nat.dvd_of_mod_eq_zero divides)).symm
    rw [isEvenInteger_of_whole whole]
    generalize units / unitsPerOne = m at whole
    have rest : units % (2 * unitsPerOne) = m % 2 * unitsPerOne := by
      rw [whole, Nat.mul_mod_mul_right]
    rw [rest, Bool.eq_iff_iff, beq_iff_eq, beq_iff_eq, Nat.mul_eq_zero]
    exact ⟨.inl, fun either => either.resolve_right (Nat.ne_of_gt pos)⟩
  · rw [isEvenInteger_of_toInt?_eq_none (toInt?_eq_none_iff.2 divides)]
    refine (beq_eq_false_iff_ne.2 fun none => divides ?_).symm
    exact Nat.mod_eq_zero_of_dvd
      (Nat.dvd_trans (Nat.dvd_mul_left _ 2) (Nat.dvd_of_mod_eq_zero none))

theorem isOddInteger_eq (x : Double) :
    x.isOddInteger = (x.toInt?.isSome && !x.isEvenInteger) := by
  unfold isOddInteger isEvenInteger
  cases x.toInt? with
  | none => rfl
  | some n => rfl

end parity

/-! ## §3. Natural numbers -/

/-- **Natural numbers of moderate size** have a finite double next to them. -/
theorem isFinite_ofNat {n k : Nat} (h : n < twoTo k) (range : k < 1024) :
    (ofNat n).isFinite = true := by
  have small : n * unitsPerOne < twoTo (k + 1074) * 1 := by
    rw [Nat.mul_one, twoTo_add]
    exact Nat.mul_lt_mul_of_pos_right h unitsPerOne_pos
  have below : twoTo (k + 1074) < limit := by
    unfold limit
    exact twoTo_lt_twoTo (by omega)
  have inside : roundUnits (n * unitsPerOne) 1 < limit :=
    Nat.lt_of_le_of_lt (roundUnits_le_twoTo small) below
  unfold ofNat
  rw [ofRatio_of_lt inside]
  rfl

end Double

end LineCalc
