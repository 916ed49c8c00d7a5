/-
Expr — the expressions of the calculator and their text.

A line holds one of four forms, whose operands are plain numbers; nothing
nests.  The vocabulary of functions and operators is closed.

## Main definitions

  * `Shape`, `UnaryFunction`, `BinaryFunction`, `Operator` — the vocabulary.
  * `Expr` — the four forms.
  * `Expr.text` — the text of an expression, which is a line again.

## Main statements

  * `UnaryFunction.ofName?_name`, `Operator.ofSymbol?_symbol` — names and
    symbols identify the vocabulary.
-/

import LineCalc.Double.Layout

namespace LineCalc

/-! ## §1. Vocabulary -/

/-- **Shape**: the four forms of a line. -/
inductive Shape where
  | factorial
  | unaryFunction
  | binaryFunction
  | binaryOperator
  deriving DecidableEq, Inhabited

namespace Shape

def all : List Shape := [factorial, unaryFunction, binaryFunction, binaryOperator]

def tag : Shape → String
  | factorial => "factorial"
  | unaryFunction => "unary_function"
  | binaryFunction => "binary_function"
  | binaryOperator => "binary_operator"

end Shape

/-- **Unary function**: angles are in radians. -/
inductive UnaryFunction where
  | sin
  | cos
  | tan
  | sec
  | inv
  deriving DecidableEq, Inhabited

namespace UnaryFunction

def all : List UnaryFunction := [sin, cos, tan, sec, inv]

/-- The name of a function on a line. -/
def name : UnaryFunction → String
  | sin => "sin"
  | cos => "cos"
  | tan => "tan"
  | sec => "sec"
  | inv => "inv"

/-- The function with a given name. -/
def ofName? (name : String) : Option UnaryFunction := all.find? fun f => f.name == name

theorem ofName?_name (f : UnaryFunction) : ofName? f.name = some f := by
  cases f <;> decide

end UnaryFunction

/-- **Binary function**. -/
inductive BinaryFunction where
  | root
  deriving DecidableEq, Inhabited

namespace BinaryFunction

def all : List BinaryFunction := [root]

/-- The name of a function on a line. -/
def name : BinaryFunction → String
  | root => "root"

/-- The function with a given name. -/
def ofName? (name : String) : Option BinaryFunction := all.find? fun f => f.name == name

theorem ofName?_name (f : BinaryFunction) : ofName? f.name = some f := by
  cases f; decide

end BinaryFunction

/-- **Operator**. -/
inductive Operator where
  | add
  | sub
  | mul
  | div
  | pow
  deriving DecidableEq, Inhabited

namespace Operator

def all : List Operator := [add, sub, mul, div, pow]

/-- The symbol of an operator on a line. -/
def symbol : Operator → String
  | add => "+"
  | sub => "-"
  | mul => "*"
  | div => "/"
  | pow => "^"

/-- The operator with a given symbol. -/
def ofSymbol? (symbol : String) : Option Operator := all.find? fun op => op.symbol == symbol

theorem ofSymbol?_symbol (op : Operator) : ofSymbol? op.symbol = some op := by
  cases op <;> decide

end Operator

/-- The names that select a function form over the operator form. -/
def functionNames : List String :=
  UnaryFunction.all.map UnaryFunction.name ++ BinaryFunction.all.map BinaryFunction.name

/-! ## §2. Expressions -/

/-- **Expression**: one of the four forms. -/
inductive Expr where
  /-- The form `operand!`. -/
  | factorial (operand : Double)
  /-- The form `f operand`. -/
  | unary (f : UnaryFunction) (operand : Double)
  /-- The form `f degree value`. -/
  | binary (f : BinaryFunction) (degree value : Double)
  /-- The form `left op right`. -/
  | operation (op : Operator) (left right : Double)
  deriving DecidableEq, Inhabited

namespace Expr

def shape : Expr → Shape
  | factorial _ => .factorial
  | unary _ _ => .unaryFunction
  | binary _ _ _ => .binaryFunction
  | operation _ _ _ => .binaryOperator

/-- The operands of an expression, from left to right. -/
def operands : Expr → List Double
  | factorial x => [x]
  | unary _ x => [x]
  | binary _ degree value => [degree, value]
  | operation _ left right => [left, right]

/-! ## §3. Text -/

/-- **The text of an operand**: a whole number of magnitude below `10 ^ 16` is written without a
point (and a zero without its sign), any other number by its usual text. -/
def operandText (x : Double) : String :=
  match x.toInt? with
  | some n => if n.natAbs < tenTo 16 then toString n else x.text
  | none => x.text

/-- **The text of an expression**. -/
def text : Expr → String
  | factorial x => operandText x ++ "!"
  | unary f x => f.name ++ " " ++ operandText x
  | binary f degree value => f.name ++ " " ++ operandText degree ++ " " ++ operandText value
  | operation op left right => operandText left ++ " " ++ op.symbol ++ " " ++ operandText right

end Expr

end LineCalc
