/-
Display — how results are shown.

Without a precision a result is shown by its usual text.  A precision asks
for that many significant digits of the exact value, ties to even, without
zeros at the end.  Precisions that cannot be used are refused, whatever the
value.

## Main definitions

  * `Display.Refusal` — the ways in which a precision cannot be used.
  * `Display.text` — the text of a result.

## Main statements

  * `Display.refusal?_eq_none` — exactly the precisions from nought to
    2147483647 can be used.
-/

import LineCalc.Double.Layout

namespace LineCalc

namespace Display

/-- **Refusal**: why a precision cannot be used. -/
inductive Refusal where
  /-- The precision is below zero. -/
  | missing
  /-- The precision is above 2147483647. -/
  | tooBig
  /-- The precision is `2 ^ 63` or above. -/
  | tooManyDigits
  deriving DecidableEq, Inhabited

def Refusal.message : Refusal → String
  | missing => "Format specifier missing precision"
  | tooBig => "precision too big"
  | tooManyDigits => "Too many decimal digits in format string"

/-- Why a precision cannot be used, if so. -/
def refusal? (precision : Int) : Option Refusal :=
  if precision < 0 then some .missing
  else if 9223372036854775808 ≤ precision then some .tooManyDigits
  else if 2147483647 < precision then some .tooBig
  else none

/-- Exactly the precisions from nought to 2147483647 can be used. -/
theorem refusal?_eq_none {precision : Int} :
    refusal? precision = none ↔ 0 ≤ precision ∧ precision ≤ 2147483647 := by
  unfold refusal?
  split
  · simp; omega
  split
  · simp; omega
  split
  · simp; omega
  · simp; omega

/-- The layout of `count` significant digits: scientific notation below a ten-thousandth and
from `10 ^ count` on. -/
def significant (count : Nat) : Layout := ⟨-4, count, false, 2, "inf", "nan"⟩

/-- A result with a number of significant digits; no digit at all acts as one. -/
def withDigits (count : Nat) (x : Double) : String :=
  let count := max count 1
  String.ofList <|
    x.render (significant count) fun units => ((Double.expansion units).rounded count).normalized

/-- **The text of a result** at an optional precision. -/
def text (precision : Option Int) (x : Double) : Except Refusal String :=
  match precision with
  | none => .ok x.text
  | some p =>
    match refusal? p with
    | some refusal => .error refusal
    | none => .ok (withDigits p.toNat x)

end Display

end LineCalc
