/-
Evaluation — from a line to a number.

## Main definitions

  * `evaluate` — the value of a line, or why it has none.

## Main statements

  * `evaluate_eq_value` — the value of a line is that of the expression it
    holds.
-/

import LineCalc.Expr.Value
import LineCalc.Line.Reading

namespace LineCalc

/-- **Evaluation** of a line; an absent line counts as empty. -/
def evaluate (line : Option String) : Except Fault Double :=
  match Line.read? line with
  | .ok expr => expr.value
  | .error failure => .error (.failure failure)

theorem evaluate_eq_value {line : String} {expr : Expr} (h : Line.read line = .ok expr) :
    evaluate (some line) = expr.value := by
  simp [evaluate, Line.read?, h]

end LineCalc
