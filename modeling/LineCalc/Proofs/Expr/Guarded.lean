/-
Guarded — evaluation by operations that may trap.

The calculator works on operations that do not take all arguments, and it
checks the arguments of some and rescues the traps of others.  Here an
expression is evaluated step by step by these operations.  The outcome is
that of `Expr.value`, for all operands: whatever that declares as a failure
is found before any trap, and the one trap that can be reached is the
angle or the remainder of an infinity.

## Main definitions

  * `Stop` — a declared failure, or a trap that nobody caught.
  * `Expr.guardedValue` — the evaluation by operations that may trap.

## Main statements

  * `Expr.guardedValue_eq` — the two evaluations agree.
-/

import LineCalc.Expr.Value
import LineCalc.Proofs.Double.Primitive

namespace LineCalc

/-- **Stop**: why a guarded evaluation has no result. -/
inductive Stop where
  /-- One of the calculator's own failures. -/
  | failure (failure : Failure)
  /-- A trap of an operation. -/
  | trap (trap : Trap)
  deriving DecidableEq, Inhabited

namespace Stop

/-- The stop of a fault: an argument outside the domain is a trap. -/
def ofFault : Fault → Stop
  | .failure f => failure f
  | .domain => trap .domain

/-- A declared failure of a kind that concerns the line as a whole. -/
def fail (kind : Failure.Kind) : Except Stop Double := .error (failure (.whole kind))

def attempt {α : Type} (outcome : Except Trap α) : Except Stop α := outcome.mapError trap

end Stop

namespace Expr

open Stop

/-! ## §1. Evaluation -/

/-- The product `start · i · (i + 1) · …` with at most `count` further factors.  It ends as soon as
it is infinite. -/
def guardedProduct (start : Double) (i : Nat) : Nat → Except Stop Double
  | 0 => .ok start
  | count + 1 => do
    let factor ← attempt (Double.convert i)
    let next := start.mul factor
    if next.isInfinite then .ok next else guardedProduct next (i + 1) count

/-- The factorial.  Only whole numbers of moderate size are truncated. -/
def guardedFactorial (x : Double) : Except Stop Double :=
  match x.toInt? with
  | none => fail .nonIntegerFactorialOperand
  | some n =>
    if n < leastWhole ∨ greatestWhole < n then fail .nonIntegerFactorialOperand
    else do
      let n ← attempt x.truncate
      if n < 0 then fail .negativeFactorialOperand
      else guardedProduct Double.one 2 (n.toNat - 1)

/-- The reciprocal.  The divisor is checked first. -/
def guardedReciprocal (x : Double) : Except Stop Double :=
  if x.isZero then fail .divisionByZero else attempt (Double.one.divide x)

def guardedUnary (f : UnaryFunction) (x : Double) : Except Stop Double :=
  match f with
  | .sin => attempt (Double.angular x.sin?)
  | .cos => attempt (Double.angular x.cos?)
  | .tan => attempt (Double.angular x.tan?)
  | .sec => do guardedReciprocal (← attempt (Double.angular x.cos?))
  | .inv => guardedReciprocal x

/-- The root.  The degree is divided by two only if the radicand is below zero. -/
def guardedRoot (degree value : Double) : Except Stop Double :=
  if degree.isZero then fail .zeroRootDegree
  else do
    let even ← if value.isBelowZero then attempt degree.remainderVanishes else .ok false
    if even then fail .evenRootOfNegative
    else do
      let exponent ← attempt (Double.one.divide degree)
      if value.isBelowZero then do
        let magnitude ← attempt (value.neg.rescuedPower exponent)
        .ok magnitude.neg
      else attempt (value.rescuedPower exponent)

/-- An operation.  The divisor is checked first. -/
def guardedOperation (op : Operator) (left right : Double) : Except Stop Double :=
  match op with
  | .add => .ok (left.add right)
  | .sub => .ok (left.sub right)
  | .mul => .ok (left.mul right)
  | .div => if right.isZero then fail .divisionByZero else attempt (left.divide right)
  | .pow => attempt (left.rescuedPower right)

/-- **Guarded evaluation** of an expression. -/
def guardedValue : Expr → Except Stop Double
  | factorial x => guardedFactorial x
  | unary f x => guardedUnary f x
  | binary .root degree value => guardedRoot degree value
  | operation op left right => guardedOperation op left right

/-! ## §2. Agreement -/

theorem product_of_isInfinite {start : Double} (h : start.isInfinite = true) (i count : Nat) :
    product start i count = start := by
  cases count with
  | zero => rfl
  | succ count => exact if_pos h

/-- **The guarded product is the product**, if its factors can be converted. -/
theorem guardedProduct_eq {start : Double} {i count : Nat} (finite : start.isInfinite = false)
    (small : i + count ≤ twoTo 63) :
    guardedProduct start i count = .ok (product start i count) := by
  -- One loop looks for an infinity before it multiplies and the other one after that, so the
  -- induction keeps a finite product as its invariant.
  induction count generalizing start i with
  | zero => rfl
  | succ count ih =>
    have factor : Double.convert i = .ok (Double.ofNat i) := Double.convert_eq (by omega)
    have step : product start i (count + 1) =
        product (start.mul (Double.ofNat i)) (i + 1) count := by
      rw [product, finite]
      rfl
    rw [guardedProduct, factor, step]
    show (if (start.mul (Double.ofNat i)).isInfinite then _ else _) = _
    cases next : (start.mul (Double.ofNat i)).isInfinite with
    | true => rw [product_of_isInfinite next]; rfl
    | false => exact ih next (by omega)

theorem guardedFactorial_eq (x : Double) :
    guardedFactorial x = (factorialValue x).mapError ofFault := by
  unfold guardedFactorial factorialValue
  cases whole : x.toInt? with
  | none => rfl
  | some n =>
    dsimp only
    by_cases outside : n < leastWhole ∨ greatestWhole < n
    · rw [if_pos outside, if_pos outside]
      rfl
    · rw [if_neg outside, if_neg outside, Double.truncate_of_toInt? whole]
      show (if n < 0 then _ else _) = _
      by_cases negative : n < 0
      · rw [if_pos negative, if_pos negative]
        rfl
      · -- The last factor is the operand itself, which was checked to be of moderate size.
        have upper : n ≤ greatestWhole := by omega
        have bound : greatestWhole + 1 = (twoTo 63 : Nat) := by decide +kernel
        have two : 2 ≤ twoTo 63 := by decide +kernel
        rw [if_neg negative, if_neg negative]
        refine guardedProduct_eq rfl ?_
        omega

theorem guardedReciprocal_eq (x : Double) :
    guardedReciprocal x = (reciprocalValue x).mapError ofFault := by
  unfold guardedReciprocal reciprocalValue Double.divide
  cases x.isZero <;> rfl

theorem attempt_angular (x : Option Double) :
    attempt (Double.angular x) = (inDomain x).mapError ofFault := by
  cases x <;> rfl

theorem guardedUnary_eq (f : UnaryFunction) (x : Double) :
    guardedUnary f x = (unaryValue f x).mapError ofFault := by
  cases f with
  | sin => exact attempt_angular x.sin?
  | cos => exact attempt_angular x.cos?
  | tan => exact attempt_angular x.tan?
  | sec =>
    unfold guardedUnary unaryValue
    dsimp only
    rw [attempt_angular]
    cases x.cos? with
    | none => rfl
    | some cosine => exact guardedReciprocal_eq cosine
  | inv => exact guardedReciprocal_eq x

/-- A root is divided only by what is not zero, and its power is rescued. -/
theorem guardedRoot_eq (degree value : Double) :
    guardedRoot degree value = (rootValue degree value).mapError ofFault := by
  unfold guardedRoot rootValue Double.divide
  rw [Double.remainderVanishes_eq]
  -- Behind each check the operations that follow are shielded by it.
  cases degree.isZero with
  | true => rfl
  | false =>
    cases value.isBelowZero with
    | false =>
      show attempt (value.rescuedPower _) = _
      rw [Double.rescuedPower_eq]
      rfl
    | true =>
      cases degree.isInfinite with
      | true => rfl
      | false =>
        cases degree.isEvenInteger with
        | true => rfl
        | false =>
          show (attempt (value.neg.rescuedPower _) >>= fun magnitude => .ok magnitude.neg) = _
          rw [Double.rescuedPower_eq]
          rfl

theorem guardedOperation_eq (op : Operator) (left right : Double) :
    guardedOperation op left right = (operationValue op left right).mapError ofFault := by
  cases op with
  | add => rfl
  | sub => rfl
  | mul => rfl
  | div =>
    unfold guardedOperation operationValue Double.divide
    cases right.isZero <;> rfl
  | pow =>
    unfold guardedOperation operationValue
    dsimp only
    rw [Double.rescuedPower_eq]
    rfl

/-- **The two evaluations agree**, whatever the operands. -/
theorem guardedValue_eq (expr : Expr) : expr.guardedValue = expr.value.mapError ofFault := by
  cases expr with
  | factorial x => exact guardedFactorial_eq x
  | unary f x => exact guardedUnary_eq f x
  | binary f degree value =>
    cases f
    exact guardedRoot_eq degree value
  | operation op left right => exact guardedOperation_eq op left right

end Expr

end LineCalc
