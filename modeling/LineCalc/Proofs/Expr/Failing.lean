/-
Failing — exactly when an expression has no value.

The operands of an expression may be any doubles.  Whether it has a value is
said here of the numbers that they are, without the tests of the calculator
and without their order.  A factorial needs a whole number of moderate size
that is not negative, an angle must not be infinite, nothing is divided by
nought, and a number below zero has roots of odd degrees and of degrees that
are no whole numbers.  Every other expression has a value, and on the way to
it no operation traps.

## Main definitions

  * `Expr.Fails` — the expressions without a value, and why they have none.
  * `Expr.FailsExactly` — an expression has a value, or fails as described.

## Main statements

  * `Expr.factorialValue_eq_error_iff`, `Expr.unaryValue_eq_error_iff`,
    `Expr.rootValue_eq_error_iff`, `Expr.operationValue_eq_error_iff` — the
    four forms.
  * `Expr.Fails.unique` — an expression fails in one way only.
  * `Expr.fails_exactly` — every expression has a value, or fails as
    described.
-/

import LineCalc.Proofs.Double.Exact
import LineCalc.Proofs.Expr.Guarded

namespace LineCalc

namespace Expr

open Double

/-! ## §1. Failing expressions -/

/-- **Moderate whole number**: one that 64 bits hold with a sign. -/
def IsModerate (n : Int) : Prop := -2 ^ 63 ≤ n ∧ n ≤ 2 ^ 63 - 1

/-- **The expressions without a value**, and why they have none. -/
inductive Fails : Expr → Fault → Prop where
  /-- The factorial of what is no whole number, or none of moderate size. -/
  | immoderateFactorial {x : Double} :
    (∀ n : Int, x.toRat? = some (n : ℚ) → ¬ IsModerate n) →
    Fails (factorial x) (.ofKind .nonIntegerFactorialOperand)
  | negativeFactorial {x : Double} {n : Int} :
    x.toRat? = some (n : ℚ) → IsModerate n → n < 0 →
    Fails (factorial x) (.ofKind .negativeFactorialOperand)
  /-- An infinite angle. -/
  | infiniteAngle {f : UnaryFunction} (s : Bool) :
    f ≠ .inv → Fails (unary f (infinity s)) .domain
  /-- The secant of an angle whose cosine is nought. -/
  | vanishingCosine {x cosine : Double} :
    x.cos? = some cosine → cosine.toRat? = some 0 →
    Fails (unary .sec x) (.ofKind .divisionByZero)
  | inverseOfZero {x : Double} :
    x.toRat? = some 0 → Fails (unary .inv x) (.ofKind .divisionByZero)
  | zeroDegree {degree value : Double} :
    degree.toRat? = some 0 → Fails (binary .root degree value) (.ofKind .zeroRootDegree)
  /-- A root of infinite degree of a number below zero. -/
  | infiniteDegree {value : Double} (s : Bool) :
    value.IsNegative → Fails (binary .root (infinity s) value) .domain
  | evenDegree {degree value : Double} {n : Int} :
    value.IsNegative → degree.toRat? = some (n : ℚ) → n ≠ 0 → 2 ∣ n →
    Fails (binary .root degree value) (.ofKind .evenRootOfNegative)
  | divisionByZero {left right : Double} :
    right.toRat? = some 0 → Fails (operation .div left right) (.ofKind .divisionByZero)

/-! ## §2. The four forms -/

/-- The bounds of moderate numbers are the greatest and the least whole number that a factorial
takes. -/
theorem isModerate_iff {n : Int} : IsModerate n ↔ ¬ (n < leastWhole ∨ greatestWhole < n) := by
  unfold IsModerate leastWhole greatestWhole
  omega

/-- **Factorials** fail by their operand. -/
theorem factorialValue_eq_error_iff {x : Double} {fault : Fault} :
    factorialValue x = .error fault ↔ Fails (factorial x) fault := by
  constructor
  · intro failed
    unfold factorialValue at failed
    split at failed
    -- No whole number at all, one out of range, or a negative one: the checks in their order.
    · next none =>
      injection failed with same
      rw [← same]
      apply Fails.immoderateFactorial
      intro n whole
      rw [toRat?_eq_intCast_iff, none] at whole
      cases whole
    · next n whole =>
      split at failed
      · next outside =>
        injection failed with same
        rw [← same]
        apply Fails.immoderateFactorial
        intro m whole' moderate
        rw [toRat?_eq_intCast_iff, whole] at whole'
        obtain rfl := Option.some.inj whole'
        exact isModerate_iff.1 moderate outside
      · next inside =>
        split at failed
        · next negative =>
          injection failed with same
          rw [← same]
          exact .negativeFactorial (toRat?_eq_intCast_iff.2 whole) (isModerate_iff.2 inside) negative
        · cases failed
  · intro fails
    unfold factorialValue
    cases fails with
    | immoderateFactorial outside =>
      cases whole : x.toInt? with
      | none => rfl
      | some n =>
        have immoderate := outside n (toRat?_eq_intCast_iff.2 whole)
        rw [isModerate_iff, not_not] at immoderate
        dsimp only
        rw [if_pos immoderate]
    | @negativeFactorial _ n whole moderate negative =>
      rw [toRat?_eq_intCast_iff.1 whole]
      dsimp only
      rw [if_neg (isModerate_iff.1 moderate), if_pos negative]

theorem reciprocalValue_eq_error_iff {x : Double} {fault : Fault} :
    reciprocalValue x = .error fault ↔ x.toRat? = some 0 ∧ fault = .ofKind .divisionByZero := by
  unfold reciprocalValue
  rw [← isZero_iff_toRat?]
  by_cases zero : x.isZero = true
  · simp [zero, eq_comm]
  · simp [zero]

theorem inDomain_eq_error_iff {x : Option Double} {fault : Fault} :
    inDomain x = .error fault ↔ x = none ∧ fault = .domain := by
  cases x <;> simp [inDomain, eq_comm]

theorem isInfinite_iff {x : Double} : x.isInfinite = true ↔ ∃ s, x = infinity s := by
  cases x <;> simp [isInfinite]

/-- **Functions** fail by their operand. -/
theorem unaryValue_eq_error_iff {f : UnaryFunction} {x : Double} {fault : Fault} :
    unaryValue f x = .error fault ↔ Fails (unary f x) fault := by
  -- An angle fails at an infinity, whatever the function; only the secant goes on from there.
  have angle : ∀ {g : UnaryFunction} {y : Option Double}, g ≠ .inv → g ≠ .sec →
      (y = none ↔ x.isInfinite = true) →
      (inDomain y = .error fault ↔ Fails (unary g x) fault) := by
    intro g y notInv notSec undefined
    rw [inDomain_eq_error_iff, undefined, isInfinite_iff]
    constructor
    · rintro ⟨⟨s, rfl⟩, rfl⟩
      exact .infiniteAngle s notInv
    · intro fails
      cases fails with
      | infiniteAngle s _ => exact ⟨⟨s, rfl⟩, rfl⟩
      | vanishingCosine => exact absurd rfl notSec
      | inverseOfZero => exact absurd rfl notInv
  cases f with
  | sin => exact angle nofun nofun sin?_eq_none
  | cos => exact angle nofun nofun cos?_eq_none
  | tan => exact angle nofun nofun tan?_eq_none
  | inv =>
    show reciprocalValue x = _ ↔ _
    rw [reciprocalValue_eq_error_iff]
    constructor
    · rintro ⟨zero, rfl⟩
      exact .inverseOfZero zero
    · intro fails
      cases fails with
      | infiniteAngle s notInv => exact absurd rfl notInv
      | inverseOfZero zero => exact ⟨zero, rfl⟩
  | sec =>
    cases cosine : x.cos? with
    | none =>
      obtain ⟨s, rfl⟩ := isInfinite_iff.1 (cos?_eq_none.1 cosine)
      constructor
      · intro failed
        injection failed with same
        rw [← same]
        exact .infiniteAngle s nofun
      · intro fails
        cases fails with
        | infiniteAngle => rfl
        | vanishingCosine defined => cases defined
    | some y =>
      have defined : unaryValue .sec x = reciprocalValue y := by
        unfold unaryValue
        rw [cosine]
        rfl
      rw [defined, reciprocalValue_eq_error_iff]
      constructor
      · rintro ⟨zero, rfl⟩
        exact .vanishingCosine cosine zero
      · intro fails
        cases fails with
        | infiniteAngle s _ => cases cosine
        | vanishingCosine defined zero =>
          obtain rfl := Option.some.inj (cosine.symm.trans defined)
          exact ⟨zero, rfl⟩

theorem not_isZero_of_whole {degree : Double} {n : Int} (whole : degree.toRat? = some (n : ℚ))
    (nonzero : n ≠ 0) : ¬ degree.isZero = true := by
  rw [isZero_iff_toRat?, whole, Option.some.injEq]
  exact_mod_cast nonzero

/-- **Roots** fail by their degree, and then for the sign of the radicand. -/
theorem rootValue_eq_error_iff {degree value : Double} {fault : Fault} :
    rootValue degree value = .error fault ↔ Fails (binary .root degree value) fault := by
  constructor
  · intro failed
    unfold rootValue at failed
    split at failed
    · next zero =>
      injection failed with same
      rw [← same]
      exact .zeroDegree (isZero_iff_toRat?.1 zero)
    · next nonzero =>
      split at failed
      · next below =>
        have negative := isBelowZero_iff.1 below
        split at failed
        · next infinite =>
          obtain ⟨s, rfl⟩ := isInfinite_iff.1 infinite
          injection failed with same
          rw [← same]
          exact .infiniteDegree s negative
        · split at failed
          · next even =>
            obtain ⟨n, whole, divides⟩ := isEvenInteger_iff.1 even
            injection failed with same
            rw [← same]
            -- Zero is even as well, but its own check came first.
            refine .evenDegree negative whole ?_ divides
            rintro rfl
            exact nonzero (isZero_iff_toRat?.2 (by simpa using whole))
          · cases failed
      · cases failed
  · intro fails
    unfold rootValue
    cases fails with
    | zeroDegree zero => rw [if_pos (isZero_iff_toRat?.2 zero)]
    | infiniteDegree s negative =>
      have infinite : (infinity s).isInfinite = true := rfl
      rw [if_neg (by simp [isZero]), if_pos (isBelowZero_iff.2 negative), if_pos infinite]
    | @evenDegree _ _ n negative whole nonzero divides =>
      -- A degree with a value as a number is no infinity, so the check ahead lets it pass.
      have finite : ¬ degree.isInfinite = true := by
        rw [isInfinite_iff]
        rintro ⟨s, rfl⟩
        cases whole
      rw [if_neg (not_isZero_of_whole whole nonzero), if_pos (isBelowZero_iff.2 negative),
        if_neg finite, if_pos (isEvenInteger_iff.2 ⟨n, whole, divides⟩)]

/-- **Operations** fail by a divisor that is nought. -/
theorem operationValue_eq_error_iff {op : Operator} {left right : Double} {fault : Fault} :
    operationValue op left right = .error fault ↔ Fails (operation op left right) fault := by
  have defined : ∀ {op : Operator} {y : Double}, op ≠ .div →
      ((.ok y : Except Fault Double) = .error fault ↔ Fails (operation op left right) fault) := by
    intro op y other
    constructor
    · intro failed
      cases failed
    · intro fails
      cases fails
      exact absurd rfl other
  -- Division is the only operation with a check ahead of it.
  cases op with
  | add => exact defined nofun
  | sub => exact defined nofun
  | mul => exact defined nofun
  | pow => exact defined nofun
  | div =>
    unfold operationValue
    dsimp only
    constructor
    · intro failed
      split at failed
      · next zero =>
        injection failed with same
        rw [← same]
        exact .divisionByZero (isZero_iff_toRat?.1 zero)
      · cases failed
    · intro fails
      cases fails with
      | divisionByZero zero => rw [if_pos (isZero_iff_toRat?.2 zero)]

/-! ## §3. All expressions -/

theorem value_eq_error_iff {expr : Expr} {fault : Fault} :
    expr.value = .error fault ↔ Fails expr fault := by
  cases expr with
  | factorial x => exact factorialValue_eq_error_iff
  | unary f x => exact unaryValue_eq_error_iff
  | binary f degree value =>
    cases f
    exact rootValue_eq_error_iff
  | operation op left right => exact operationValue_eq_error_iff

/-- **An expression fails in one way only**. -/
theorem Fails.unique {expr : Expr} {fault fault' : Fault} (h : Fails expr fault)
    (h' : Fails expr fault') : fault = fault' := by
  rw [← value_eq_error_iff] at h h'
  exact Except.error.inj (h.symm.trans h')

/-- **Failing exactly**: an expression has no value exactly for the reasons described.  Evaluated by
operations that may trap, it stops for the same reasons and for no other; and if there is none,
both give a number. -/
structure FailsExactly (expr : Expr) : Prop where
  value_iff : ∀ fault, expr.value = .error fault ↔ Fails expr fault
  guarded_iff : ∀ stop, expr.guardedValue = .error stop ↔
    ∃ fault, Fails expr fault ∧ stop = Stop.ofFault fault
  otherwise : (∀ fault, ¬ Fails expr fault) →
    ∃ x, expr.value = .ok x ∧ expr.guardedValue = .ok x

/-- **Every expression has a value, or fails as described**. -/
theorem fails_exactly (expr : Expr) : FailsExactly expr where
  value_iff fault := value_eq_error_iff
  guarded_iff stop := by
    rw [guardedValue_eq]
    constructor
    · intro stopped
      cases outcome : expr.value with
      | ok x =>
        rw [outcome] at stopped
        cases stopped
      | error fault =>
        rw [outcome] at stopped
        injection stopped with same
        exact ⟨fault, value_eq_error_iff.1 outcome, same.symm⟩
    · rintro ⟨fault, fails, rfl⟩
      rw [value_eq_error_iff.2 fails]
      rfl
  otherwise spared := by
    cases outcome : expr.value with
    | error fault => exact absurd (value_eq_error_iff.1 outcome) (spared fault)
    | ok x =>
      refine ⟨x, rfl, ?_⟩
      rw [guardedValue_eq, outcome]
      rfl

end Expr

end LineCalc
