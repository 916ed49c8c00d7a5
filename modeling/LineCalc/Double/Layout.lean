/-
Layout — how the digits of a number are set out as text.

A number is written either with its point in place or in scientific
notation; a **layout** says for which exponents, whether a whole number
shows a decimal part, and how wide an exponent is.  Exponents always carry
a sign.

## Main definitions

  * `Layout` — the decisions of one written form.
  * `Decimal.render` — the text of a decimal in a layout.
  * `Double.render` — the text of any double in a layout.
  * `Layout.usual`, `Double.text` — the calculator's usual form.
-/

import LineCalc.Double.Shortest

namespace LineCalc

/-- **Layout**: the decisions of one written form of numbers. -/
structure Layout where
  /-- The least exponent of the leading digit that is written with the point in place. -/
  least : Int
  /-- The first exponent of the leading digit that is written in scientific notation again. -/
  beyond : Int
  /-- A whole number with its point in place ends in `.0`. -/
  showsFraction : Bool
  /-- The least number of digits of an exponent. -/
  exponentWidth : Nat
  /-- The text of infinity, without its sign. -/
  infinityText : String
  /-- The text of a NaN. -/
  nanText : String
  deriving Inhabited

namespace Decimal

/-! ## §1. The two notations -/

/-- Digits with the point in place; the leading digit counts `10 ^ exponent`. -/
def positional (showsFraction : Bool) (digits : List Char) (exponent : Int) : List Char :=
  if exponent < 0 then
    '0' :: '.' :: List.replicate (-exponent - 1).toNat '0' ++ digits
  else
    -- The digits before the point; zeros fill up a number that has fewer.
    let width := exponent.toNat + 1
    let whole := digits.take width ++ List.replicate (width - digits.length) '0'
    match digits.drop width with
    | [] => if showsFraction then whole ++ ['.', '0'] else whole
    | fraction => whole ++ '.' :: fraction

/-- Scientific notation: one digit, the others after a point, and the exponent with its sign. -/
def scientific (exponentWidth : Nat) (digits : List Char) (exponent : Int) : List Char :=
  let mantissa := match digits with
    | lead :: second :: more => lead :: '.' :: second :: more
    | short => short
  let magnitude := Nat.toDigits 10 exponent.natAbs
  mantissa ++ 'e' :: (if exponent < 0 then '-' else '+') ::
    (List.replicate (exponentWidth - magnitude.length) '0' ++ magnitude)

/-- **The text of a decimal** in a layout. -/
def render (layout : Layout) (d : Decimal) : List Char :=
  let exponent := d.leadingExponent
  if layout.least ≤ exponent ∧ exponent < layout.beyond then
    positional layout.showsFraction d.digits exponent
  else scientific layout.exponentWidth d.digits exponent

end Decimal

namespace Double

/-! ## §2. Doubles -/

/-- A text with a minus sign in front if asked for. -/
def signedText (neg : Bool) (magnitude : List Char) : List Char :=
  if neg then '-' :: magnitude else magnitude

/-- The text of a double in a layout, its digits chosen by `choose`. -/
def render (layout : Layout) (choose : Nat → Decimal) : Double → List Char
  | nan => layout.nanText.toList
  | infinity neg => signedText neg layout.infinityText.toList
  | finite neg units _ => signedText neg ((choose units).render layout)

end Double

/-- The calculator's usual layout: the point in place from a ten-thousandth up to, but not
including, `10 ^ 16`; whole numbers end in `.0`; exponents have two digits or more. -/
def Layout.usual : Layout := ⟨-4, 16, true, 2, "inf", "nan"⟩

/-- **The usual text** of a double: its shortest digits in the usual layout. -/
def Double.text (x : Double) : String := String.ofList (x.render Layout.usual shortest)

end LineCalc
