/-
Order — which of two doubles is the greater.

Finite doubles are ordered as the numbers that they are, with an infinity on
either side, and a NaN is not compared with anything.  The rounding step
keeps this order.  Within one spacing that is so because the nearest multiple
of it is monotone, and where the spacings differ a power of two lies between
the ratios that neither of them is rounded across.  So multiplying by a number
of at least one makes no number of at least one smaller, however it is rounded.

## Main definitions

  * `x ≤ y` — the order of doubles.

## Main statements

  * `Double.roundUnits_mono` — a greater ratio is not rounded to less.
  * `Double.le_ofRatio` — a double below a ratio stays below its rounding.
  * `Double.le_mul` — a factor of at least one makes nothing smaller.
  * `Double.one_le_ofNat` — natural numbers other than nought are at least one.
-/

import LineCalc.Proofs.Double.Exact

namespace LineCalc

namespace Double

/-! ## §1. Rounding -/

/-- Of two quotients by one divisor, the greater one is not rounded to less. -/
theorem roundQuotient_mono {num num' : Nat} (h : num ≤ num') (den : Nat) :
    roundQuotient num den ≤ roundQuotient num' den := by
  have wholes : num / den ≤ num' / den := Nat.div_le_div_right h
  by_cases same : num / den = num' / den
  · -- The whole parts agree, so the rests decide.
    have rests : num % den ≤ num' % den := by
      have parts := Nat.div_add_mod num den
      have parts' := Nat.div_add_mod num' den
      rw [same] at parts
      omega
    unfold roundQuotient
    simp only [same]
    split <;> split <;> omega
  · -- There is a whole number between them.
    have below := roundQuotient_le_succ num den
    have above := le_roundQuotient num' den
    omega

/-- Of two ratios with one denominator, the greater one is not rounded to less. -/
theorem roundUnits_mono_left {num num' : Nat} (h : num ≤ num') (den : Nat) :
    roundUnits num den ≤ roundUnits num' den := by
  have wholes : num / den ≤ num' / den := Nat.div_le_div_right h
  by_cases less : (num / den).log2 < (num' / den).log2
  · -- The leading bit of the greater one is a power of two between them.
    have nonzero' : num' / den ≠ 0 := by
      intro zero
      rw [zero] at less
      exact Nat.not_lt_zero _ less
    have pos : 0 < den := by
      apply Nat.pos_of_ne_zero
      rintro rfl
      exact nonzero' (Nat.div_zero num')
    have below : num / den < twoTo (num' / den).log2 := by
      by_cases zero : num / den = 0
      · rw [zero]
        exact twoTo_pos _
      · exact (log2_lt_iff_lt_twoTo zero).1 less
    calc roundUnits num den
        ≤ twoTo (num' / den).log2 :=
          roundUnits_le_twoTo (by rwa [Nat.div_lt_iff_lt_mul pos] at below)
      _ ≤ roundUnits num' den := twoTo_log2_le_roundUnits nonzero'
  · -- Otherwise both are rounded to multiples of one spacing.
    have grid : gridExponent num den = gridExponent num' den := by
      have leading : (num / den).log2 = (num' / den).log2 := by
        apply Nat.le_antisymm _ (Nat.not_lt.1 less)
        by_cases zero : num / den = 0
        · rw [zero]
          exact Nat.zero_le _
        · have kept := twoTo_log2_le zero
          have nonzero' : num' / den ≠ 0 := by omega
          refine Nat.not_lt.1 fun greater => ?_
          have short := (log2_lt_iff_lt_twoTo nonzero').1 greater
          omega
      unfold gridExponent
      rw [leading]
    unfold roundUnits
    dsimp only
    rw [grid]
    exact Nat.mul_le_mul_right _ (roundQuotient_mono h _)

/-- **Rounding is monotone**: a greater ratio is not rounded to less. -/
theorem roundUnits_mono {a b c d : Nat} (posB : 0 < b) (posD : 0 < d) (h : a * d ≤ c * b) :
    roundUnits a b ≤ roundUnits c d :=
  calc roundUnits a b
      = roundUnits (d * a) (d * b) := (roundUnits_mul_left posD a b).symm
    _ ≤ roundUnits (b * c) (d * b) :=
        roundUnits_mono_left (by rwa [Nat.mul_comm d a, Nat.mul_comm b c]) _
    _ = roundUnits c d := by rw [Nat.mul_comm d b, roundUnits_mul_left posB]

/-- A representable count below a ratio stays below its rounding. -/
theorem le_roundUnits {units num den : Nat} (fits : Representable units) (pos : 0 < den)
    (h : units * den ≤ num) : units ≤ roundUnits num den :=
  calc units
      = roundUnits units 1 := (roundUnits_eq_self fits.2).symm
    _ ≤ roundUnits num den := roundUnits_mono Nat.one_pos pos (by rwa [Nat.mul_one])

/-! ## §2. The order -/

/-- **Order**: nothing is below one infinity or above the other, and between them numbers are
compared.  A NaN is not comparable. -/
def AtMost (x y : Double) : Prop :=
  x ≠ nan ∧ y ≠ nan ∧ (x = infinity true ∨ y = infinity false ∨
    ∃ p q : ℚ, x.toRat? = some p ∧ y.toRat? = some q ∧ p ≤ q)

instance : LE Double := ⟨AtMost⟩

theorem le_infinity {x : Double} (number : x ≠ nan) : x ≤ infinity false :=
  ⟨number, nofun, .inr (.inl rfl)⟩

theorem le_self {x : Double} (number : x ≠ nan) : x ≤ x := by
  refine ⟨number, number, ?_⟩
  cases x with
  | nan => exact absurd rfl number
  | infinity s => cases s <;> simp
  | finite neg units fits => exact .inr (.inr ⟨_, _, rfl, rfl, le_rfl⟩)

theorem infinity_le_iff {x : Double} : infinity false ≤ x ↔ x = infinity false := by
  constructor
  · rintro ⟨-, -, below | same | ⟨p, q, value, -, -⟩⟩
    · exact nomatch below
    · exact same
    · exact nomatch value
  · rintro rfl
    exact le_infinity nofun

theorem finite_le_iff {a b : Nat} {fits : Representable a} {fits' : Representable b} :
    finite false a fits ≤ finite false b fits' ↔ a ≤ b := by
  have pos : (0 : ℚ) < unitsPerOne := by exact_mod_cast unitsPerOne_pos
  have units : signedUnits false a / (unitsPerOne : ℚ) ≤ signedUnits false b / unitsPerOne ↔
      a ≤ b := by
    rw [div_le_div_iff_of_pos_right pos]
    simp [signedUnits]
  constructor
  · rintro ⟨-, -, below | above | ⟨p, q, value, value', le⟩⟩
    · exact nomatch below
    · exact nomatch above
    · obtain rfl := Option.some.inj value
      obtain rfl := Option.some.inj value'
      exact units.1 le
  · intro le
    exact ⟨nofun, nofun, .inr (.inr ⟨_, _, rfl, rfl, units.2 le⟩)⟩

theorem le_trans {x y z : Double} (h : x ≤ y) (h' : y ≤ z) : x ≤ z := by
  obtain ⟨number, -, cases⟩ := h
  obtain ⟨-, number', cases'⟩ := h'
  refine ⟨number, number', ?_⟩
  rcases cases with below | above | ⟨p, q, value, value', le⟩
  · exact .inl below
  · -- Above the infinity in the middle there is only itself.
    rw [above] at cases'
    rcases cases' with below' | above' | ⟨p, q, value, -, -⟩
    · exact nomatch below'
    · exact .inr (.inl above')
    · exact nomatch value
  · rcases cases' with below' | above' | ⟨q', r, value'', value''', le'⟩
    · rw [below'] at value'
      exact nomatch value'
    · exact .inr (.inl above')
    · obtain rfl := Option.some.inj (value'.symm.trans value'')
      exact .inr (.inr ⟨p, r, value, value''', le.trans le'⟩)

/-! ## §3. Numbers of at least one -/

/-- **The numbers of at least one** are unsigned, and infinite or with at least the units of one. -/
theorem one_le_iff {x : Double} :
    one ≤ x ↔ x = infinity false ∨
      ∃ units fits, x = finite false units fits ∧ unitsPerOne ≤ units := by
  constructor
  · intro h
    cases x with
    | nan => exact absurd rfl h.2.1
    | infinity s =>
      obtain ⟨-, -, below | above | ⟨p, q, -, value, -⟩⟩ := h
      · exact nomatch below
      · exact .inl above
      · exact nomatch value
    | finite s units fits =>
      cases s with
      | false => exact .inr ⟨units, fits, rfl, finite_le_iff.1 h⟩
      | true =>
        -- A signed number is at most nought.
        obtain ⟨-, -, below | above | ⟨p, q, value, value', le⟩⟩ := h
        · exact nomatch below
        · exact nomatch above
        · obtain rfl := Option.some.inj value
          obtain rfl := Option.some.inj value'
          have pos : (0 : ℚ) < unitsPerOne := by exact_mod_cast unitsPerOne_pos
          rw [div_le_div_iff_of_pos_right pos] at le
          have counts : (unitsPerOne : ℤ) ≤ -(units : ℤ) := by exact_mod_cast le
          have posUnits := unitsPerOne_pos
          omega
  · rintro (rfl | ⟨units, fits, rfl, le⟩)
    · exact le_infinity nofun
    · exact finite_le_iff.2 le

/-- **A double below a ratio stays below its rounding**. -/
theorem le_ofRatio {units num den : Nat} (fits : Representable units) (pos : 0 < den)
    (h : units * den ≤ num) : finite false units fits ≤ ofRatio false num den := by
  by_cases inside : roundUnits num den < limit
  · rw [ofRatio_of_lt inside]
    exact finite_le_iff.2 (le_roundUnits fits pos h)
  · rw [ofRatio_of_not_lt inside]
    exact le_infinity nofun

/-- **A factor of at least one makes nothing smaller** that is at least one. -/
theorem le_mul {x y : Double} (hx : one ≤ x) (hy : one ≤ y) : x ≤ x.mul y := by
  have pos := unitsPerOne_pos
  rcases one_le_iff.1 hx with rfl | ⟨a, fitsA, rfl, leA⟩
  · rcases one_le_iff.1 hy with rfl | ⟨b, fitsB, rfl, leB⟩
    · exact le_infinity nofun
    · have nonzero : b ≠ 0 := by omega
      have product : (infinity false).mul (finite false b fitsB) = infinity false := if_neg nonzero
      rw [product]
      exact le_infinity nofun
  · rcases one_le_iff.1 hy with rfl | ⟨b, fitsB, rfl, leB⟩
    · have nonzero : a ≠ 0 := by omega
      have product : (finite false a fitsA).mul (infinity false) = infinity false := if_neg nonzero
      rw [product]
      exact le_infinity nofun
    · exact le_ofRatio fitsA pos (Nat.mul_le_mul_left a leB)

/-- The double next to a natural number, other than nought, is at least one. -/
theorem one_le_ofNat {n : Nat} (h : 1 ≤ n) : one ≤ ofNat n := by
  apply le_ofRatio representable_unitsPerOne Nat.one_pos
  rw [Nat.mul_one]
  exact Nat.le_mul_of_pos_left _ h

end Double

end LineCalc
