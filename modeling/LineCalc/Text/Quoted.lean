/-
Quoted — texts between quotation marks, as diagnostics show them.

Single marks are used unless the text holds a single mark and no double
one.  The mark in use and the backslash are escaped, and so is every
unprintable character, by the shortest numeric form that fits.  A text may
also be quoted in ASCII alone.

## Main definitions

  * `Text.quoted` — a text in quotation marks.
  * `Text.quotedInAscii` — the same with every character beyond ASCII
    escaped.
-/

import LineCalc.Text.Printable

namespace LineCalc

namespace Text

/-- A number below `16 ^ width` as lower-case hexadecimal digits, padded with zeros. -/
def hexPadded (width n : Nat) : List Char :=
  let digits := Nat.toDigits 16 n
  List.replicate (width - digits.length) '0' ++ digits

/-- The numeric escape of a character. -/
def numericEscape (c : Char) : List Char :=
  if c.toNat < 0x100 then '\\' :: 'x' :: hexPadded 2 c.toNat
  else if c.toNat < 0x10000 then '\\' :: 'u' :: hexPadded 4 c.toNat
  else '\\' :: 'U' :: hexPadded 8 c.toNat

/-- The quotation mark for a text. -/
def quoteMark (cs : List Char) : Char :=
  if cs.contains '\'' && !cs.contains '"' then '"' else '\''

/-- A character as it stands between the marks `mark`; `shows` says which characters are shown as
they are. -/
def quotedChar (shows : Char → Bool) (mark c : Char) : List Char :=
  if c = mark || c = '\\' then ['\\', c]
  else if c = '\n' then ['\\', 'n']
  else if c = '\r' then ['\\', 'r']
  else if c = '\t' then ['\\', 't']
  else if shows c then [c]
  else numericEscape c

/-- A text between its marks; `shows` says which characters are shown as they are. -/
def quotedShowing (shows : Char → Bool) (cs : List Char) : List Char :=
  let mark := quoteMark cs
  mark :: cs.flatMap (quotedChar shows mark) ++ [mark]

/-- **Quoted text**. -/
def quoted (cs : List Char) : List Char := quotedShowing isPrintable cs

def isAscii (c : Char) : Bool := c.toNat < 0x80

/-- **Quoted text in ASCII**. -/
def quotedInAscii (cs : List Char) : List Char :=
  quotedShowing (fun c => isPrintable c && isAscii c) cs

end Text

end LineCalc
