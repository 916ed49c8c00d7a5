/-
Numeral — the number literals that the calculator reads.

A literal is an optional sign, decimal digits with an optional point (at
least one digit on either side of it) and an optional exponent.  Digits of
any script stand for their values, and a single underscore may join two
digits.  The words `inf`, `infinity` and `nan` are literals too, in any
case; an operand, which has to be finite, refuses them.

## Main definitions

  * `Numeral` — a decimal literal as sign, coefficient and exponent.
  * `Literal` — a numeral, a signed infinity, or a NaN.
  * `Literal.parse?` — reading a literal.
  * `Double.parse?` — the double that a literal stands for.
  * `Double.parseFinite?` — the same for literals that stand for finite
    doubles.
-/

import LineCalc.Double.Decimal
import LineCalc.Text.DecimalDigit

namespace LineCalc

/-- **Numeral**: the decimal literal `± coefficient · 10 ^ exponent`. -/
structure Numeral where
  neg : Bool
  coefficient : Nat
  exponent : Int
  deriving DecidableEq, Inhabited

/-- **Literal**: what the text of a number can say. -/
inductive Literal where
  | numeral (n : Numeral)
  | infinity (neg : Bool)
  | nan
  deriving DecidableEq, Inhabited

namespace Numeral

/-! ## §1. Digits -/

/-- The digits that may follow a digit, each perhaps joined by an underscore, and the rest. -/
def moreDigits : List Char → List Nat × List Char
  | [] => ([], [])
  | '_' :: c :: rest =>
    match Text.digitValue? c with
    | some d => let (ds, left) := moreDigits rest; (d :: ds, left)
    | none => ([], '_' :: c :: rest)
  | c :: rest =>
    match Text.digitValue? c with
    | some d => let (ds, left) := moreDigits rest; (d :: ds, left)
    | none => ([], c :: rest)

/-- The row of digits at the start of a text, and the rest. -/
def digitRow : List Char → List Nat × List Char
  | [] => ([], [])
  | c :: rest =>
    match Text.digitValue? c with
    | some d => let (ds, left) := moreDigits rest; (d :: ds, left)
    | none => ([], c :: rest)

/-- The number that a row of digits writes. -/
def rowValue (ds : List Nat) : Nat := ds.foldl (fun n d => 10 * n + d) 0

/-- The sign at the start of a text (`true` for minus), and the rest. -/
def sign : List Char → Bool × List Char
  | '-' :: rest => (true, rest)
  | '+' :: rest => (false, rest)
  | cs => (false, cs)

/-! ## §2. Literals without their sign -/

/-- The fraction at the start of a text, if a point stands there, and the rest. -/
def fraction : List Char → List Nat × List Char
  | '.' :: rest => digitRow rest
  | cs => ([], cs)

/-- The exponent that makes up a text; no text at all means nought. -/
def exponent? : List Char → Option Int
  | [] => some 0
  | c :: rest =>
    if c = 'e' ∨ c = 'E' then
      let (neg, row) := sign rest
      match digitRow row with
      | (d :: ds, []) =>
        let magnitude : Int := rowValue (d :: ds)
        some (if neg then -magnitude else magnitude)
      | _ => none
    else none

/-- The numeral that makes up a text without a sign. -/
def unsigned? (neg : Bool) (cs : List Char) : Option Numeral :=
  let (whole, afterWhole) := digitRow cs
  let (part, afterPart) := fraction afterWhole
  if whole.isEmpty && part.isEmpty then none
  else (exponent? afterPart).map fun e => ⟨neg, rowValue (whole ++ part), e - part.length⟩

end Numeral

/-! ## §3. Literals -/

namespace Literal

/-- The word for a number that is not finite, in any case of its letters. -/
def word? (neg : Bool) (cs : List Char) : Option Literal :=
  let name := String.ofList (cs.map Char.toLower)
  if name = "inf" ∨ name = "infinity" then some (infinity neg)
  else if name = "nan" then some nan
  else none

/-- **Reading a literal**: the whole text has to be one. -/
def parse? (cs : List Char) : Option Literal :=
  let (neg, body) := Numeral.sign cs
  match Numeral.unsigned? neg body with
  | some n => some (numeral n)
  | none => word? neg body

end Literal

/-- The double nearest to a numeral. -/
def Numeral.toDouble (n : Numeral) : Double := Double.ofDecimal n.neg n.coefficient n.exponent

/-- The double that a literal stands for. -/
def Literal.toDouble : Literal → Double
  | numeral n => n.toDouble
  | infinity neg => .infinity neg
  | nan => .nan

/-- **Reading a double**. -/
def Double.parse? (cs : List Char) : Option Double := (Literal.parse? cs).map Literal.toDouble

/-- **Reading a finite double**: literals that stand for an infinity or a NaN are refused. -/
def Double.parseFinite? (cs : List Char) : Option Double :=
  (Double.parse? cs).filter Double.isFinite

theorem Double.isFinite_of_parseFinite? {cs : List Char} {x : Double}
    (h : Double.parseFinite? cs = some x) : x.isFinite = true :=
  (Option.filter_eq_some_iff.1 h).2

end LineCalc
