/-
Undefined — which operations make a NaN of numbers.

The invalid operations of binary64 are few.  A sum is undefined for opposite
infinities, a product for a zero and an infinity, a quotient for two zeros or
two infinities, and a power for a number below zero with an exponent that is
not whole.  The functions of angles are settled by rounding into the finite
doubles, so they are finite wherever they have a value.

## Main statements

  * `Double.add_eq_nan_iff`, `Double.mul_eq_nan_iff`, `Double.div_eq_nan_iff`,
    `Double.pow_eq_nan_iff_of_numbers` — the invalid operations.
  * `Double.isFinite_of_sin?`, `Double.isFinite_of_cos?`,
    `Double.isFinite_of_tan?` — functions of finite angles.
-/

import LineCalc.Proofs.Double.PowerLaws
import LineCalc.Proofs.Double.RootPower

namespace LineCalc

namespace Double

/-! ## §1. Finite doubles -/

theorem ne_nan_of_isFinite {x : Double} (finite : x.isFinite = true) : x ≠ nan := by
  rintro rfl
  exact nomatch finite

theorem not_isInfinite_of_isFinite {x : Double} (finite : x.isFinite = true) :
    ¬ x.isInfinite = true := by
  cases x with
  | nan => exact nofun
  | infinity => exact nomatch finite
  | finite => exact nofun

theorem isFinite_neg (x : Double) : x.neg.isFinite = x.isFinite := by
  cases x <;> rfl

/-! ## §2. The four operations -/

theorem ofRatio_ne_nan (neg : Bool) (num den : Nat) : ofRatio neg num den ≠ nan :=
  (hasSign_ofRatio neg num den).1

/-- **An undefined sum** is one of opposite infinities, or has a NaN as a term. -/
theorem add_eq_nan_iff {x y : Double} :
    x.add y = nan ↔ x = nan ∨ y = nan ∨ ∃ s, x = infinity s ∧ y = infinity (!s) := by
  cases x with
  | nan => simp [add]
  | infinity s =>
    cases y with
    | nan => simp [add]
    | infinity t => cases s <;> cases t <;> simp [add]
    | finite t b fits => simp [add]
  | finite s a fits =>
    cases y with
    | nan => simp [add]
    | infinity t => simp [add]
    | finite t b fits' =>
      -- The exact sum is a number, and so is its rounding.
      have number : addUnits s a t b ≠ nan := by
        unfold addUnits
        dsimp only
        split
        · exact (hasSign_finite _ _).1
        · exact ofRatio_ne_nan _ _ _
      simp [add, number]

theorem sub_eq_nan_iff {x y : Double} :
    x.sub y = nan ↔ x = nan ∨ y = nan ∨ ∃ s, x = infinity s ∧ y = infinity s := by
  unfold sub
  rw [add_eq_nan_iff]
  cases y <;> simp [neg]

/-- **An undefined product** is one of a zero and an infinity, or has a NaN as a factor. -/
theorem mul_eq_nan_iff {x y : Double} :
    x.mul y = nan ↔ x = nan ∨ y = nan ∨ (x.isZero = true ∧ y.isInfinite = true) ∨
      (x.isInfinite = true ∧ y.isZero = true) := by
  cases x with
  | nan => simp [mul]
  | infinity s =>
    cases y with
    | nan => simp [mul]
    | infinity t => simp [mul, isZero]
    | finite t b fits => by_cases zero : b = 0 <;> simp [mul, isZero, isInfinite, zero]
  | finite s a fits =>
    cases y with
    | nan => simp [mul]
    | infinity t => by_cases zero : a = 0 <;> simp [mul, isZero, isInfinite, zero]
    | finite t b fits' => simp [mul, isInfinite, ofRatio_ne_nan]

/-- **An undefined quotient** is one of two infinities or of two zeros, or has a NaN as a term. -/
theorem div_eq_nan_iff {x y : Double} :
    x.div y = nan ↔ x = nan ∨ y = nan ∨ (x.isInfinite = true ∧ y.isInfinite = true) ∨
      (x.isZero = true ∧ y.isZero = true) := by
  cases x with
  | nan => simp [div]
  | infinity s => cases y <;> simp [div, isZero, isInfinite]
  | finite s a fits =>
    cases y with
    | nan => simp [div]
    | infinity t => simp [div, isZero, isInfinite, zero]
    | finite t b fits' =>
      by_cases divisor : b = 0
      · by_cases dividend : a = 0 <;> simp [div, isZero, isInfinite, divisor, dividend]
      · simp [div, isZero, isInfinite, divisor, ofRatio_ne_nan]

theorem reciprocal_ne_nan {x : Double} (number : x ≠ nan) : x.reciprocal ≠ nan := by
  intro undefined
  rcases div_eq_nan_iff.1 undefined with unit | same | ⟨infinite, -⟩ | ⟨zero, -⟩
  · exact nomatch unit
  · exact number same
  · exact nomatch infinite
  · exact absurd (eq_of_beq zero) (Nat.ne_of_gt unitsPerOne_pos)

/-! ## §3. Powers -/

/-- **An undefined power** of numbers is one of a finite number below zero whose exponent is finite
and not whole. -/
theorem pow_eq_nan_iff_of_numbers {x y : Double} (hx : x ≠ nan) (hy : y ≠ nan) :
    x.pow y = nan ↔ x.isFinite = true ∧ y.isFinite = true ∧ x.isBelowZero = true ∧
      y.toInt? = none := by
  by_cases zero : y.isZero = true
  · -- The power is one, and a zero is a whole number.
    rw [pow_zero zero, toInt?_of_isZero zero]
    simp [one]
  cases y with
  | nan => exact absurd rfl hy
  | infinity t =>
    have defined : x.pow (infinity t) ≠ nan := (hasSign_pow_infinity hx t).1
    simp [defined, isFinite]
  | finite t v fits' =>
    have exponent : (finite t v fits').isZero = false := Bool.eq_false_iff.2 zero
    cases x with
    | nan => exact absurd rfl hx
    | infinity s =>
      rw [pow_infinity exponent]
      cases t <;> simp [isFinite, Double.zero]
    | finite s u fits =>
      rw [pow_eq_nan_iff]
      simp [isFinite]

/-- A power of a number that is not below zero is a number, whatever number is its exponent. -/
theorem pow_ne_nan {x y : Double} (hx : x ≠ nan) (hy : y ≠ nan)
    (nonnegative : x.isBelowZero = false) : x.pow y ≠ nan := by
  intro undefined
  obtain ⟨-, -, below, -⟩ := (pow_eq_nan_iff_of_numbers hx hy).1 undefined
  rw [nonnegative] at below
  exact nomatch below

theorem isBelowZero_neg {x : Double} (below : x.isBelowZero = true) :
    x.neg.isBelowZero = false := by
  cases x with
  | nan => rfl
  | infinity s =>
    obtain rfl : s = true := below
    rfl
  | finite s u fits =>
    obtain ⟨signed, -⟩ := (Bool.and_eq_true _ _).mp below
    rw [signed]
    rfl

end Double

/-! ## §4. Functions of angles -/

/-- Whatever attempt settles a value, it is one that was rounded. -/
theorem Enclosure.isFinite_settle {round : Bool → Nat → Nat → Double}
    (finite : ∀ neg num den, (round neg num den).isFinite = true)
    (enclose : Nat → Nat × Option Enclosure) (attempts precision : Nat) :
    (settle round enclose attempts precision).isFinite = true := by
  -- The induction is on the attempts that are left; the precision grows with each of them.
  induction attempts generalizing precision with
  | zero => exact finite _ _ _
  | succ attempts ih =>
    unfold settle
    dsimp only
    split
    · next x agreed =>
      obtain ⟨a, -, same⟩ := Option.bind_eq_some_iff.1 agreed
      unfold agreed? at same
      dsimp only at same
      split at same
      · rw [← Option.some.inj same]
        exact finite _ _ _
      · exact nomatch same
    · exact ih _

namespace Double

theorem isFinite_nearestFinite (neg : Bool) (num den : Nat) :
    (nearestFinite neg num den).isFinite = true := by
  unfold nearestFinite
  split <;> rfl

theorem isFinite_ofAngle (f : Nat → Enclosure × Enclosure → Option Enclosure) (units : Nat) :
    (Enclosure.ofAngle f units).isFinite = true :=
  Enclosure.isFinite_settle isFinite_nearestFinite _ _ _

theorem isFinite_signed {s : Bool} {x : Double} (finite : x.isFinite = true) :
    (if s then x.neg else x).isFinite = true := by
  cases s
  · exact finite
  · rwa [← isFinite_neg] at finite

/-- A function of angles is finite if it is so at the angle nought and everywhere else. -/
theorem isFinite_of_cases {units : Nat} {atZero elsewhere y : Double}
    (hz : atZero.isFinite = true) (he : elsewhere.isFinite = true)
    (value : (if units = 0 then some atZero else some elsewhere) = some y) :
    y.isFinite = true := by
  split at value
  · rwa [← Option.some.inj value]
  · rwa [← Option.some.inj value]

/-- **The sine** of a finite angle is finite. -/
theorem isFinite_of_sin? {x y : Double} (angle : x.isFinite = true) (value : x.sin? = some y) :
    y.isFinite = true := by
  cases x with
  | nan => exact nomatch angle
  | infinity s => exact nomatch angle
  | finite s units fits =>
    exact isFinite_of_cases rfl (isFinite_signed (isFinite_ofAngle _ _)) value

/-- **The cosine** of a finite angle is finite. -/
theorem isFinite_of_cos? {x y : Double} (angle : x.isFinite = true) (value : x.cos? = some y) :
    y.isFinite = true := by
  cases x with
  | nan => exact nomatch angle
  | infinity s => exact nomatch angle
  | finite s units fits =>
    exact isFinite_of_cases rfl (isFinite_ofAngle _ _) value

/-- **The tangent** of a finite angle is finite. -/
theorem isFinite_of_tan? {x y : Double} (angle : x.isFinite = true) (value : x.tan? = some y) :
    y.isFinite = true := by
  cases x with
  | nan => exact nomatch angle
  | infinity s => exact nomatch angle
  | finite s units fits =>
    exact isFinite_of_cases rfl (isFinite_signed (isFinite_ofAngle _ _)) value

end Double

end LineCalc
