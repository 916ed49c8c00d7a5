/-
Root — the signs of roots.

A root is taken of the magnitude of the radicand, and then given the sign of
the radicand.  So opposite radicands have opposite roots, unless the degree is
even.  Nothing here depends on what the reciprocal of the degree is: for a
tiny degree it is infinite, for a huge one it is tiny, and for most degrees it
is rounded.

## Main definitions

  * `Expr.RootLaws` — what is known of the roots of opposite radicands.

## Main statements

  * `Expr.rootValue_eq_signed` — a root of a degree that is not even is the
    power of the magnitude, with the sign of the radicand.
  * `Expr.rootValue_neg`, `Expr.rootValue_of_even` — roots of opposite
    radicands.
  * `Expr.hasSign_rootValue` — the sign of a root.
  * `Expr.root_laws` — the laws hold of all degrees and radicands other than
    nought.
-/

import LineCalc.Proofs.Double.RootPower
import LineCalc.Proofs.Expr.Failing
import LineCalc.Proofs.Expr.Undefined

namespace LineCalc

namespace Expr

open Double

/-! ## §1. Roots of numbers -/

variable {degree radicand : Double}

/-- A root of a number without a sign is a power of it, of whatever degree but nought. -/
theorem rootValue_of_unsigned (degree_ne : degree.isZero = false)
    (unsigned : radicand.isSigned = false) :
    rootValue degree radicand = .ok (radicand.pow degree.reciprocal) := by
  have nonnegative : radicand.isBelowZero = false := by
    cases radicand with
    | nan => rfl
    | infinity s => exact unsigned
    | finite s u fits =>
      obtain rfl : s = false := unsigned
      rfl
  unfold rootValue
  rw [degree_ne, nonnegative]
  rfl

/-- **A root of a degree that is not even** is the power of the magnitude, with the sign of the
radicand. -/
theorem rootValue_eq_signed (finite : degree.isFinite = true) (degree_ne : degree.isZero = false)
    (radicand_ne : radicand.isZero = false) (uneven : degree.isEvenInteger = false) :
    rootValue degree radicand =
      .ok ((radicand.abs.pow degree.reciprocal).negIf radicand.isSigned) := by
  cases sign : radicand.isSigned with
  | false =>
    rw [rootValue_of_unsigned degree_ne sign, abs_of_unsigned sign]
    rfl
  | true =>
    have below : radicand.isBelowZero = true := by rw [isBelowZero_of_isZero radicand_ne, sign]
    unfold rootValue
    rw [degree_ne, below, Bool.eq_false_iff.2 (not_isInfinite_of_isFinite finite), uneven,
      neg_of_signed sign]
    rfl

/-- Opposite radicands have opposite roots of a degree that is not even. -/
theorem rootValue_neg (finite : degree.isFinite = true) (degree_ne : degree.isZero = false)
    (number : radicand ≠ nan) (radicand_ne : radicand.isZero = false)
    (uneven : degree.isEvenInteger = false) :
    ∃ x, rootValue degree radicand = .ok x ∧ rootValue degree radicand.neg = .ok x.neg := by
  refine ⟨_, rootValue_eq_signed finite degree_ne radicand_ne uneven, ?_⟩
  rw [rootValue_eq_signed finite degree_ne ((isZero_neg radicand).trans radicand_ne) uneven,
    Double.abs_neg, isSigned_neg number]
  cases radicand.isSigned with
  | false => rfl
  | true => exact congrArg _ (neg_neg _).symm

theorem rootValue_of_even (finite : degree.isFinite = true) (degree_ne : degree.isZero = false)
    (radicand_ne : radicand.isZero = false) (even : degree.isEvenInteger = true)
    (signed : radicand.isSigned = true) :
    rootValue degree radicand = .error (.ofKind .evenRootOfNegative) := by
  have below : radicand.isBelowZero = true := by rw [isBelowZero_of_isZero radicand_ne, signed]
  unfold rootValue
  rw [degree_ne, below, Bool.eq_false_iff.2 (not_isInfinite_of_isFinite finite), even]
  rfl

/-- **A root is a number** with the sign of the radicand, if there is one. -/
theorem hasSign_rootValue (finite : degree.isFinite = true) (degree_ne : degree.isZero = false)
    (number : radicand ≠ nan) (radicand_ne : radicand.isZero = false) {x : Double}
    (value : rootValue degree radicand = .ok x) : HasSign radicand.isSigned x := by
  have exponent : degree.reciprocal ≠ nan := reciprocal_ne_nan (ne_nan_of_isFinite finite)
  have power : HasSign false (radicand.abs.pow degree.reciprocal) :=
    hasSign_pow_of_unsigned (abs_ne_nan number) exponent (isSigned_abs radicand)
  by_cases even : degree.isEvenInteger = true
  · -- Only a radicand without a sign has a root of even degree.
    cases sign : radicand.isSigned with
    | false =>
      rw [rootValue_of_unsigned degree_ne sign] at value
      rwa [abs_of_unsigned sign, Except.ok.inj value] at power
    | true =>
      rw [rootValue_of_even finite degree_ne radicand_ne even sign] at value
      exact nomatch value
  · rw [rootValue_eq_signed finite degree_ne radicand_ne (Bool.eq_false_iff.2 even)] at value
    rw [← Except.ok.inj value]
    exact hasSign_negIf power _

theorem rootValue_one (radicand_ne : radicand.isZero = false) :
    rootValue one radicand = .ok radicand := by
  have uneven : one.isEvenInteger = false := by
    unfold isEvenInteger
    rw [toInt?_one]
    rfl
  have nonzero : one.isZero = false := beq_eq_false_iff_ne.2 (Nat.ne_of_gt unitsPerOne_pos)
  rw [rootValue_eq_signed rfl nonzero radicand_ne uneven, reciprocal_one, Double.pow_one]
  cases sign : radicand.isSigned with
  | false => rw [abs_of_unsigned sign]; rfl
  | true => rw [← neg_of_signed sign]; exact congrArg _ (neg_neg radicand)

/-! ## §2. Laws -/

/-- **The laws of a root**.  The roots of opposite radicands are opposite, but for an even degree:
then the radicand without a sign has a root, and the one below zero has none.  A root is a number
with the sign of the radicand, and the first root is the radicand. -/
structure RootLaws (degree radicand : Double) : Prop where
  opposite : (∀ n : Int, degree.toRat? = some (n : ℚ) → ¬ 2 ∣ n) →
    ∃ x, (binary .root degree radicand).value = .ok x ∧
      (binary .root degree radicand.neg).value = .ok x.neg
  even : ∀ n : Int, degree.toRat? = some (n : ℚ) → 2 ∣ n →
    (∃ x, (binary .root degree radicand.abs).value = .ok x) ∧
      (binary .root degree radicand.abs.neg).value = .error (.ofKind .evenRootOfNegative)
  sign : ∀ x, (binary .root degree radicand).value = .ok x → HasSign radicand.isSigned x
  first : (binary .root one radicand).value = .ok radicand

/-- **The laws hold of all degrees and radicands** other than nought. -/
theorem root_laws {d v : ℚ} (degree_eq : degree.toRat? = some d) (degree_ne : d ≠ 0)
    (radicand_eq : radicand.toRat? = some v) (radicand_ne : v ≠ 0) :
    RootLaws degree radicand := by
  have finite := isFinite_of_toRat? degree_eq
  have zeroD := isZero_eq_false degree_eq degree_ne
  have zeroR := isZero_eq_false radicand_eq radicand_ne
  have number : radicand ≠ nan := ne_nan_of_isFinite (isFinite_of_toRat? radicand_eq)
  refine ⟨?opposite, ?even, ?sign, rootValue_one zeroR⟩
  case opposite =>
    intro odd
    apply rootValue_neg finite zeroD number zeroR
    rw [Bool.eq_false_iff]
    intro even
    obtain ⟨n, whole, divides⟩ := isEvenInteger_iff.1 even
    exact odd n whole divides
  -- By absolute values both radicands are covered, whatever the sign of the given one.
  case even =>
    intro n whole divides
    have even : degree.isEvenInteger = true := isEvenInteger_iff.2 ⟨n, whole, divides⟩
    have unsigned := isSigned_abs radicand
    have zeroA : radicand.abs.neg.isZero = false := by
      rw [isZero_neg, isZero_abs, zeroR]
    have signed : radicand.abs.neg.isSigned = true := by
      rw [isSigned_neg (abs_ne_nan number), unsigned]
      rfl
    exact ⟨⟨_, rootValue_of_unsigned zeroD unsigned⟩,
      rootValue_of_even finite zeroD zeroA even signed⟩
  case sign =>
    intro x value
    exact hasSign_rootValue finite zeroD number zeroR value

/-- The reciprocal of the least degree is infinite. -/
theorem root_laws_of_least :
    (least false).toRat? = some ((1 : ℚ) / unitsPerOne) ∧ (1 : ℚ) / unitsPerOne ≠ 0 ∧
      (least true).toRat? = some (-(1 : ℚ) / unitsPerOne) ∧ -(1 : ℚ) / unitsPerOne ≠ 0 ∧
      RootLaws (least false) (least true) := by
  have degree : (least false).toRat? = some ((1 : ℚ) / unitsPerOne) := rfl
  have radicand : (least true).toRat? = some (-(1 : ℚ) / unitsPerOne) := rfl
  have degree_ne : (1 : ℚ) / unitsPerOne ≠ 0 := div_ne_zero one_ne_zero unitsPerOne_ne_zero
  have radicand_ne : -(1 : ℚ) / unitsPerOne ≠ 0 :=
    div_ne_zero (neg_ne_zero.2 one_ne_zero) unitsPerOne_ne_zero
  exact ⟨degree, degree_ne, radicand, radicand_ne,
    root_laws degree degree_ne radicand radicand_ne⟩

end Expr

end LineCalc
