/-
Reading — from a line to an expression.

The first of these that applies decides:

  * a blank line is empty;
  * a line that ends in an exclamation mark is a factorial, whatever the
    number of its words;
  * two words are a function and its operand;
  * three words are a function and its two operands if the first word is
    the name of a function in any case of its letters, and otherwise an
    operation;
  * any other number of words has no meaning.

Operands are read before a name or symbol is looked up, and from left to
right, so the leftmost bad number is reported ahead of a bad name.

## Main definitions

  * `Line.operand` — reading one operand.
  * `Line.read` — reading a line.
-/

import LineCalc.Expr.Basic
import LineCalc.Failure
import LineCalc.Line.Word
import LineCalc.Numeral
import LineCalc.Text.Casing

namespace LineCalc

namespace Line

open Text

/-- The failure of a kind at a word of a line, reported as `token`. -/
def failureAt (kind : Failure.Kind) (line : String) (word : Word) (token : String) : Failure :=
  .located kind line word.column (some token)

/-- **Reading an operand**: a literal that stands for a finite double. -/
def operand (line : String) (word : Word) : Except Failure Double :=
  match Double.parseFinite? word.text.toList with
  | some x => .ok x
  | none => .error (failureAt .invalidNumber line word word.text)

/-- The lower-case form of a word, by which functions are recognised. -/
def nameOf (word : Word) : String := String.ofList (lower word.text.toList)

/-! ## §1. The four forms -/

/-- A factorial: all of the trimmed line but its exclamation mark is the operand. -/
def readFactorial (line : String) (body : List Char) : Except Failure Expr := do
  -- The body starts where the trimmed line does, unless only the mark is left of it.
  let column : Int := indent line + leadingBlanks body
  let x ← operand line ⟨String.ofList (trim body), column⟩
  pure (.factorial x)

def readUnary (line : String) (name arg : Word) : Except Failure Expr := do
  -- The operand comes first: a bad number is reported ahead of a bad name.
  let x ← operand line arg
  match UnaryFunction.ofName? (nameOf name) with
  | some f => pure (.unary f x)
  | none => throw (failureAt .unknownFunction line name (nameOf name))

/-- A function and its two operands. -/
def readBinary (line : String) (name first second : Word) : Except Failure Expr := do
  let degree ← operand line first
  let value ← operand line second
  match BinaryFunction.ofName? (nameOf name) with
  | some f => pure (.binary f degree value)
  | none => throw (failureAt .unknownFunction line name (nameOf name))

/-- Two operands around a symbol. -/
def readOperation (line : String) (left symbol right : Word) : Except Failure Expr := do
  let x ← operand line left
  let y ← operand line right
  match Operator.ofSymbol? symbol.text with
  | some op => pure (.operation op x y)
  | none => throw (failureAt .unknownOperator line symbol symbol.text)

/-- A line with these words that does not end in an exclamation mark. -/
def readWords (line : String) : List Word → Except Failure Expr
  | [name, arg] => readUnary line name arg
  | [first, second, third] =>
    if functionNames.contains (nameOf first) then readBinary line first second third
    else readOperation line first second third
  | _ => throw (.whole .invalidFormat)

/-! ## §2. Lines -/

/-- The text before the exclamation mark at the end of a trimmed text. -/
def beforeBang? (trimmed : List Char) : Option (List Char) :=
  match trimmed.reverse with
  | '!' :: before => some before.reverse
  | _ => none

/-- **Reading a line**. -/
def read (line : String) : Except Failure Expr :=
  let trimmed := trim line.toList
  if trimmed.isEmpty then throw (.whole .emptyExpression)
  else
    match beforeBang? trimmed with
    | some body => readFactorial line body
    | none => readWords line (words line)

/-- Reading a line that may be absent, which counts as empty. -/
def read? : Option String → Except Failure Expr
  | some line => read line
  | none => throw (.whole .emptyExpression)

end Line

end LineCalc
