/-
Agreement — an outcome tells what evaluating its line does.

A line is evaluated, or asked for its outcome.  The outcome of a line always
exists.  It holds the value that evaluation gives, or else what the failure
says; unwrapping it gives the value back, or the failure without its place.
Values and tokens are kept as they are: a zero is a value, and an empty token
is a token.

## Main definitions

  * `Outcome.TellsValue` — what the outcome of a line with a value holds.
  * `Outcome.TellsFailure` — what the outcome of any other line holds.

## Main statements

  * `Outcome.tellsFailure_failure` — a failure is told whatever its message.
  * `Outcome.ofLine_tells_evaluation` — outcomes and evaluation agree.
-/

import LineCalc.Outcome.Basic
import LineCalc.Proofs.Evaluation

namespace LineCalc

namespace Outcome

/-! ## §1. What outcomes hold -/

/-- **Telling a value**: the outcome holds the value and nothing of a failure. -/
structure TellsValue (outcome : Outcome) (x : Double) : Prop where
  ok : outcome.ok = true
  value : outcome.value = some x
  error : outcome.error = none
  message : outcome.message = none
  token : outcome.token = none
  unwrap : outcome.unwrap = .ok x

/-- **Telling a failure**: the outcome holds no value, but the kind, the message and the token of
the failure.  Unwrapping raises it again without its place, so its report is its message. -/
structure TellsFailure (outcome : Outcome) (failure : Failure) : Prop where
  ok : outcome.ok = false
  value : outcome.value = none
  error : outcome.error = some failure.kind
  message : outcome.message = some failure.message
  token : outcome.token = failure.token
  unwrap : ∃ raised : Failure, outcome.unwrap = .error (.failure raised) ∧
    raised.kind = failure.kind ∧ raised.category = failure.category ∧
    raised.token = failure.token ∧ raised.message = failure.message ∧
    raised.mark = none ∧ raised.describe = failure.message

theorem tellsValue_success (expression : String) (x : Double) :
    TellsValue (success expression x) x :=
  ⟨rfl, rfl, rfl, rfl, rfl, unwrap_success expression x⟩

/-- The outcome of a failure tells it, even if its message is not that of its kind. -/
theorem tellsFailure_failure (expression : String) (failure : Failure) :
    TellsFailure (.failure expression failure) failure := by
  refine ⟨rfl, rfl, rfl, rfl, rfl, failure.unplaced, ?_, rfl, rfl, rfl, rfl, rfl, rfl⟩
  exact unwrap_failure expression failure

theorem ofLine_of_value {line : Option String} {x : Double} (value : evaluate line = .ok x) :
    ofLine line = .ok (success (line.getD "") x) := by
  unfold ofLine
  rw [value]

theorem ofLine_of_failure {line : Option String} {failure : Failure}
    (refused : evaluate line = .error (.failure failure)) :
    ofLine line = .ok (.failure (line.getD "") failure) := by
  unfold ofLine
  rw [refused]

/-! ## §2. Lines -/

/-- **Outcomes tell what evaluation does**.  Every line, and an absent one, has an outcome that
shows the line and holds exactly one of a value and an error: if evaluation gives a value, the
outcome tells it, and otherwise evaluation fails and the outcome tells the failure. -/
theorem ofLine_tells_evaluation (line : Option String) :
    ∃ outcome, ofLine line = .ok outcome ∧ outcome.expression = line.getD "" ∧
      outcome.value.isSome = !outcome.error.isSome ∧
      ((∃ x, evaluate line = .ok x ∧ TellsValue outcome x) ∨
        ∃ failure, evaluate line = .error (.failure failure) ∧
          TellsFailure outcome failure) := by
  rcases evaluate_cases line with ⟨x, value⟩ | ⟨failure, refused⟩
  · exact ⟨_, ofLine_of_value value, rfl, rfl, .inl ⟨x, value, tellsValue_success _ x⟩⟩
  · exact ⟨_, ofLine_of_failure refused, rfl, rfl,
      .inr ⟨failure, refused, tellsFailure_failure _ failure⟩⟩

end Outcome

end LineCalc
