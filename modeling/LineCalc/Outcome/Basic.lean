/-
Outcome — the result of a line as a value.

For callers that branch on a value instead of handling a failure, an
outcome holds the line and either its result or the kind, message and
offending piece of its failure.

## Main definitions

  * `Outcome` with `Outcome.success` and `Outcome.failure`.
  * `Outcome.ofLine` — the outcome of evaluating a line.
  * `Outcome.unwrap` — the result, or the failure again.

## Main statements

  * `Outcome.unwrap_success`, `Outcome.unwrap_failure` — unwrapping gives
    back what went in, but for the place of a failure.
-/

import LineCalc.Evaluation

namespace LineCalc

/-- **Outcome** of one line. -/
structure Outcome where
  expression : String
  value : Option Double
  error : Option Failure.Kind
  message : Option String
  token : Option String
  deriving DecidableEq, Inhabited

namespace Outcome

/-- The outcome of a line that has a value. -/
def success (expression : String) (value : Double) : Outcome :=
  ⟨expression, some value, none, none, none⟩

/-- The outcome of a line that has none. -/
def failure (expression : String) (f : Failure) : Outcome :=
  ⟨expression, none, some f.kind, some f.message, f.token⟩

def ok (outcome : Outcome) : Bool := outcome.error.isNone

/-- **The outcome of a line**; an absent line is shown as an empty one. -/
def ofLine (line : Option String) : Except Fault Outcome :=
  let expression := line.getD ""
  match evaluate line with
  | .ok x => .ok (success expression x)
  | .error (.failure f) => .ok (failure expression f)
  | .error .domain => .error .domain

/-! ## §2. Unwrapping -/

/-- **What unwrapping can raise**. -/
inductive Raised where
  /-- The failure that the outcome holds. -/
  | failure (failure : Failure)
  /-- The outcome holds neither a value nor an error. -/
  | nothing
  deriving DecidableEq, Inhabited

/-- The wording of what unwrapping raises. -/
def Raised.message : Raised → String
  | failure f => f.message
  | nothing => "EvaluationResult has neither a value nor an error"

/-- **Unwrapping**: the value of an outcome, or its failure without a place.  An error without a
message of its own is worded by its kind. -/
def unwrap (outcome : Outcome) : Except Raised Double :=
  match outcome.error with
  | some kind =>
    let message := outcome.message.getD (kind.message outcome.token)
    .error (.failure ⟨kind, outcome.token, none, message⟩)
  | none =>
    match outcome.value with
    | some x => .ok x
    | none => .error .nothing

theorem unwrap_success (expression : String) (x : Double) :
    (success expression x).unwrap = .ok x := rfl

theorem unwrap_failure (expression : String) (f : Failure) :
    (failure expression f).unwrap = .error (.failure f.unplaced) := rfl

end Outcome

end LineCalc
