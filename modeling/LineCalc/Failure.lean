/-
Failure — the ways in which a line has no result, and their reports.

A failure has a kind, which callers branch on, and for the kinds that
concern a piece of the line also that piece and its place.  The report is
the message, followed by the line with carets under the offending piece if
its place is known.

## Main definitions

  * `Failure.Kind` — the closed list of kinds, with tag, category and
    wording.
  * `Mark` — a stretch of a line, and its two-line picture.
  * `Failure` with `Failure.describe` and `Failure.render`.

## Main statements

  * `Failure.Kind.ofTag?_tag` — a kind is recovered from its tag.
  * `Failure.length_mark` — a located failure marks as many characters as
    its piece has, and at least one.
-/

import LineCalc.Text.Quoted

namespace LineCalc

/-! ## §1. Kinds -/

/-- **Category** of a failure. -/
inductive Failure.Category where
  /-- The line is malformed. -/
  | validation
  /-- The line asks for something undefined. -/
  | arithmetic
  deriving DecidableEq, Inhabited

def Failure.Category.tag : Failure.Category → String
  | validation => "validation"
  | arithmetic => "arithmetic"

/-- **Kind** of a failure. -/
inductive Failure.Kind where
  | emptyExpression
  | invalidFormat
  | invalidNumber
  | unknownFunction
  | unknownOperator
  | divisionByZero
  | nonIntegerFactorialOperand
  | negativeFactorialOperand
  | zeroRootDegree
  | evenRootOfNegative
  deriving DecidableEq, Inhabited

namespace Failure.Kind

def all : List Kind :=
  [emptyExpression, invalidFormat, invalidNumber, unknownFunction, unknownOperator,
    divisionByZero, nonIntegerFactorialOperand, negativeFactorialOperand, zeroRootDegree,
    evenRootOfNegative]

/-- The tag by which machine-readable output names a kind. -/
def tag : Kind → String
  | emptyExpression => "empty_expression"
  | invalidFormat => "invalid_format"
  | invalidNumber => "invalid_number"
  | unknownFunction => "unknown_function"
  | unknownOperator => "unknown_operator"
  | divisionByZero => "division_by_zero"
  | nonIntegerFactorialOperand => "non_integer_factorial_operand"
  | negativeFactorialOperand => "negative_factorial_operand"
  | zeroRootDegree => "zero_root_degree"
  | evenRootOfNegative => "even_root_of_negative"

def ofTag? (tag : String) : Option Kind := all.find? fun kind => kind.tag == tag

theorem ofTag?_tag (kind : Kind) : ofTag? kind.tag = some kind := by
  cases kind <;> decide

def category : Kind → Category
  | divisionByZero | negativeFactorialOperand | zeroRootDegree | evenRootOfNegative => .arithmetic
  | _ => .validation

def wording : Kind → String
  | emptyExpression => "Expression cannot be empty"
  | invalidFormat => "Invalid format. Use: \"1 + 1\", \"sin 0\", \"root 2 4\" or \"5!\""
  | invalidNumber => "Invalid number"
  | unknownFunction => "Unknown function"
  | unknownOperator => "Unknown operator"
  | divisionByZero => "Division by zero"
  | nonIntegerFactorialOperand => "Factorial requires integer input"
  | negativeFactorialOperand => "Factorial is not defined for negative numbers"
  | zeroRootDegree => "Root degree cannot be zero"
  | evenRootOfNegative => "Cannot calculate even root of negative number"

/-- The message of a failure: the wording, and the offending piece if there is one. -/
def message (kind : Kind) : Option String → String
  | none => kind.wording
  | some token => kind.wording ++ ": " ++ token

end Failure.Kind

/-! ## §2. Marks -/

/-- **Mark**: a stretch of a line, by its first column and its length in characters. -/
structure Mark where
  line : String
  column : Int
  length : Int
  deriving DecidableEq, Inhabited

/-- A row of one character; no characters for counts below one. -/
def Mark.row (c : Char) (count : Int) : String := String.ofList (List.replicate count.toNat c)

/-- **The picture of a mark**: the line, and below it carets under the stretch (at least one). -/
def Mark.render (mark : Mark) : String :=
  "  " ++ mark.line ++ "\n  " ++ Mark.row ' ' mark.column ++ Mark.row '^' (max 1 mark.length)

/-! ## §3. Failures -/

/-- **Failure**: a kind, the offending piece and its place if it has one, and a message. -/
structure Failure where
  kind : Failure.Kind
  token : Option String
  mark : Option Mark
  message : String
  deriving DecidableEq, Inhabited

namespace Failure

/-- A failure with the message of its kind. -/
def ofKind (kind : Kind) (token : Option String) (mark : Option Mark) : Failure :=
  ⟨kind, token, mark, kind.message token⟩

/-- A failure of the line as a whole. -/
def whole (kind : Kind) : Failure := ofKind kind none none

/-- The number of characters to mark for a piece of a line; an empty piece, or none, is marked by
one. -/
def markedLength : Option String → Nat
  | none => 1
  | some token => max 1 token.length

/-- **A located failure**: the piece `token`, if any, stands at `column` of `line`. -/
def located (kind : Kind) (line : String) (column : Int) (token : Option String) : Failure :=
  ofKind kind token (some ⟨line, column, markedLength token⟩)

/-- A located failure marks as many characters as its piece has, and at least one. -/
theorem length_mark (kind : Kind) (line : String) (column : Int) (token : String) :
    (located kind line column (some token)).mark.map Mark.length =
      some (max 1 (token.length : Int)) := by
  simp only [located, ofKind, markedLength, Option.map_some, Option.some.injEq]
  omega

def category (failure : Failure) : Category := failure.kind.category

/-- **The report of a failure**. -/
def describe (failure : Failure) : String :=
  match failure.mark with
  | none => failure.message
  | some mark => failure.message ++ "\n" ++ mark.render

/-- How diagnostics show a failure: by its kind and the offending piece. -/
def render (failure : Failure) : String :=
  let quoted (text : String) : String := String.ofList (Text.quoted text.toList)
  "EvaluationError(" ++ quoted failure.kind.tag ++ ", token=" ++
    (failure.token.map quoted).getD "None" ++ ")"

/-- The failure without its place. -/
def unplaced (failure : Failure) : Failure := { failure with mark := none }

end Failure

end LineCalc
