/-
Value — what an expression evaluates to.

Arithmetic follows binary64: overflow gives an infinity and an undefined
power a NaN, and both are values.  An expression has no value only for the
failures named in `Failure.Kind`, or because a trigonometric function or
the remainder of a root's degree is asked of an infinity, which cannot
happen with finite operands.

## Main definitions

  * `Fault` — a failure, or an argument outside the domain.
  * `Expr.value` — the value of an expression.
-/

import LineCalc.Double.Power
import LineCalc.Double.Trigonometry
import LineCalc.Expr.Basic
import LineCalc.Failure

namespace LineCalc

/-- **Fault**: why an expression has no value. -/
inductive Fault where
  /-- One of the calculator's own failures. -/
  | failure (failure : Failure)
  /-- A function of an infinity that has no limit there. -/
  | domain
  deriving DecidableEq, Inhabited

def Fault.message : Fault → String
  | failure f => f.message
  | domain => "math domain error"

/-- The fault of a kind that concerns the line as a whole. -/
def Fault.ofKind (kind : Failure.Kind) : Fault := .failure (.whole kind)

namespace Expr

/-! ## §1. Factorials -/

/-- The least whole number whose factorial can be asked for. -/
def leastWhole : Int := -9223372036854775808

/-- The greatest whole number whose factorial can be asked for. -/
def greatestWhole : Int := 9223372036854775807

/-- The product `start · i · (i + 1) · …` with `count` further factors, each step rounded.  An
infinity stays, so the product stops there. -/
def product (start : Double) (i : Nat) : Nat → Double
  | 0 => start
  | count + 1 =>
    if start.isInfinite then start else product (start.mul (Double.ofNat i)) (i + 1) count

def factorialValue (x : Double) : Except Fault Double :=
  match x.toInt? with
  | none => .error (.ofKind .nonIntegerFactorialOperand)
  | some n =>
    if n < leastWhole ∨ greatestWhole < n then .error (.ofKind .nonIntegerFactorialOperand)
    else if n < 0 then .error (.ofKind .negativeFactorialOperand)
    else .ok (product Double.one 2 (n.toNat - 1))

/-! ## §2. Functions and operators -/

/-- A value, or a domain fault if there is none. -/
def inDomain : Option Double → Except Fault Double
  | some x => .ok x
  | none => .error .domain

def reciprocalValue (x : Double) : Except Fault Double :=
  if x.isZero then .error (.ofKind .divisionByZero) else .ok x.reciprocal

/-- The value of a unary function. -/
def unaryValue (f : UnaryFunction) (x : Double) : Except Fault Double :=
  match f with
  | .sin => inDomain x.sin?
  | .cos => inDomain x.cos?
  | .tan => inDomain x.tan?
  | .sec => do reciprocalValue (← inDomain x.cos?)
  | .inv => reciprocalValue x

/-- **Roots**: the power with the reciprocal of the degree, keeping the sign of the radicand.  A
radicand below zero has no root of even degree, and an infinite degree is neither even nor odd. -/
def rootValue (degree value : Double) : Except Fault Double :=
  -- The degree is checked first, whatever the radicand.
  if degree.isZero then .error (.ofKind .zeroRootDegree)
  else if value.isBelowZero then
    if degree.isInfinite then .error .domain
    else if degree.isEvenInteger then .error (.ofKind .evenRootOfNegative)
    else .ok (value.neg.pow degree.reciprocal).neg
  else .ok (value.pow degree.reciprocal)

def operationValue (op : Operator) (left right : Double) : Except Fault Double :=
  match op with
  | .add => .ok (left.add right)
  | .sub => .ok (left.sub right)
  | .mul => .ok (left.mul right)
  | .div => if right.isZero then .error (.ofKind .divisionByZero) else .ok (left.div right)
  | .pow => .ok (left.pow right)

/-! ## §3. Expressions -/

/-- **The value of an expression**. -/
def value : Expr → Except Fault Double
  | factorial x => factorialValue x
  | unary f x => unaryValue f x
  | binary .root degree value => rootValue degree value
  | operation op left right => operationValue op left right

end Expr

end LineCalc
