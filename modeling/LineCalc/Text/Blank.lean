/-
Blank — the characters that separate words, and trimming.

## Main definitions

  * `Text.isBlank` — the separators: tab to carriage return, the four
    information separators, next line, and the space, line and paragraph
    separators of all scripts.
  * `Text.trim` — a text without its outer blanks.

## Main statements

  * `Text.leadingBlanks_add_length` — trimming at the start removes exactly the leading blanks.
-/

import LineCalc.Text.Ranges

namespace LineCalc

namespace Text

/-! ## §1. Blanks -/

/-- **Blank ranges**, as first and last code points. -/
def blankRanges : List (Nat × Nat) := [
  (0x09, 0x0D), (0x1C, 0x20), (0x85, 0x85), (0xA0, 0xA0), (0x1680, 0x1680), (0x2000, 0x200A),
  (0x2028, 0x2029), (0x202F, 0x202F), (0x205F, 0x205F), (0x3000, 0x3000)]

/-- **Blank**: a character that separates words. -/
def isBlank (c : Char) : Bool := inRanges blankRanges c

/-! ## §2. Trimming -/

/-- A text without the blanks at its start. -/
def trimStart (cs : List Char) : List Char := cs.dropWhile isBlank

/-- A text without the blanks at its end. -/
def trimEnd (cs : List Char) : List Char := (cs.reverse.dropWhile isBlank).reverse

/-- A text without the blanks at either end. -/
def trim (cs : List Char) : List Char := trimEnd (trimStart cs)

/-- The number of blanks before the first other character, or of all characters if there is
none. -/
def leadingBlanks (cs : List Char) : Nat := (cs.takeWhile isBlank).length

theorem leadingBlanks_add_length (cs : List Char) :
    leadingBlanks cs + (trimStart cs).length = cs.length := by
  have whole := congrArg List.length (List.takeWhile_append_dropWhile (p := isBlank) (l := cs))
  rw [List.length_append] at whole
  exact whole

end Text

end LineCalc
