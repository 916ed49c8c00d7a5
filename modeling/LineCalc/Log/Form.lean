/-
Form — the forms of log lines.

A form is a text with placeholders: a per cent sign, the name of a field in
parentheses, flags, a width, a point with a limit to the number of
characters, and a letter that says how the field is shown, as in
`%(levelname)-8.3s`.  Two per cent signs stand for one.

Forms are looked at twice, by rules of different strictness.  A form is
**usable** if a placeholder with a name stands anywhere in it; names, digits
and letters are then taken from all scripts, and stars may stand for sizes.
When a line is made, each per cent sign has to begin a placeholder that can
be filled.

A field is a text, or another datum such as a number.  How placeholders show
data that are no texts is not laid down here: such a field comes with all
that placeholders show of it.

## Main definitions

  * `Form.isUsable` — the forms that have a placeholder with a name.
  * `Form.Placeholder` — a placeholder as it is filled.
  * `Form.Field` — what a placeholder is filled from.
  * `Form.line?` — the line that a form makes of some fields.
-/

import LineCalc.Text.Alphanumeric
import LineCalc.Text.DecimalDigit
import LineCalc.Text.Quoted

namespace LineCalc

namespace Log

namespace Form

/-- The form that a setting asks for: the bare message if the setting is empty. -/
def asked (format : String) : List Char :=
  if format = "" then "%(message)s".toList else format.toList

def isFlag (c : Char) : Bool := "#0+ -".toList.contains c

/-! ## §1. Usable forms -/

/-- A character of a field's name. -/
def isNameChar (c : Char) : Bool := Text.isAlphanumeric c || c = '_'

/-- A decimal digit of any script. -/
def isDigit (c : Char) : Bool := (Text.digitValue? c).isSome

/-- What follows the size at the start of a text: a star or a row of digits. -/
def afterSize? : List Char → Option (List Char)
  | [] => none
  | c :: rest =>
    if c = '*' then some rest
    else if isDigit c then some (rest.dropWhile isDigit)
    else none

/-- The letters that may close a placeholder, and the per cent sign. -/
def letters : List Char := "diouxefgcrsa%".toList

/-- The characters beyond ASCII that differ from one of the letters by case alone: the long s, the
dotless i and the dotted capital I. -/
def letterVariants : List Char := ['ſ', 'ı', 'İ']

/-- A character that may close a placeholder, in either case. -/
def isLetter (c : Char) : Bool := letters.contains c.toLower || letterVariants.contains c

/-- Flags, a width, a limit and a letter stand at the start of the text; only the letter has to. -/
def closes (cs : List Char) : Bool :=
  let left := cs.dropWhile isFlag
  let left := (afterSize? left).getD left
  let left := match left with
    | '.' :: rest => (afterSize? rest).getD left
    | _ => left
  left.head?.any isLetter

/-- A name in parentheses, with all that closes a placeholder after it, stands at the start of the
text. -/
def opens : List Char → Bool
  | '(' :: rest =>
    match rest.takeWhile isNameChar, rest.dropWhile isNameChar with
    | _ :: _, ')' :: left => closes left
    | _, _ => false
  | _ => false

/-- A placeholder with a name stands somewhere in the text. -/
def hasNamed : List Char → Bool
  | [] => false
  | c :: rest => (c == '%' && opens rest) || hasNamed rest

/-- **Usable forms**: those with a placeholder that has a name. -/
def isUsable (format : String) : Bool := hasNamed (asked format)

/-! ## §2. Placeholders -/

/-- **Placeholder**, as it is filled. -/
structure Placeholder where
  /-- The field that is meant. -/
  field : Option String
  /-- The flags; a dash puts the text at the left of its width. -/
  flags : List Char
  /-- The least number of characters. -/
  width : Nat
  /-- The greatest number of characters of the field. -/
  limit : Option Nat
  /-- How the field is shown. -/
  letter : Char
  deriving DecidableEq, Inhabited

/-- The name in parentheses at the start of a text, if it has one, and the rest. -/
def fieldName? (cs : List Char) : Option (Option String × List Char) :=
  match cs with
  | '(' :: rest =>
    match rest.dropWhile (· ≠ ')') with
    | _ :: left => some (some (String.ofList (rest.takeWhile (· ≠ ')'))), left)
    | [] => none
  | _ => some (none, cs)

/-- The number that the ASCII digits at the start of a text write, and the rest. -/
def readNumber (cs : List Char) : Nat × List Char :=
  let digits := (cs.takeWhile Char.isDigit).filterMap Text.digitValue?
  (digits.foldl (fun n d => 10 * n + d) 0, cs.dropWhile Char.isDigit)

/-- The limit after a point at the start of a text, if it has one, and the rest.  A point alone
limits the field to no characters. -/
def readLimit (cs : List Char) : Option Nat × List Char :=
  match cs with
  | '.' :: rest =>
    let (n, left) := readNumber rest
    (some n, left)
  | _ => (none, cs)

/-- A mark of the size of a number, which may stand before the letter and says nothing. -/
def isSizeMark (c : Char) : Bool := "hlL".toList.contains c

/-- A text without a mark of size at its start. -/
def afterSizeMark : List Char → List Char
  | [] => []
  | c :: rest => if isSizeMark c then rest else c :: rest

/-- The placeholder after a per cent sign, and the rest. -/
def Placeholder.read? (cs : List Char) : Option (Placeholder × List Char) := do
  let (field, left) ← fieldName? cs
  let flags := left.takeWhile isFlag
  let (width, left) := readNumber (left.dropWhile isFlag)
  let (limit, left) := readLimit left
  match afterSizeMark left with
  | [] => none
  | letter :: left => some (⟨field, flags, width, limit, letter⟩, left)

/-- A text cut and padded to the sizes of a placeholder. -/
def Placeholder.fit (p : Placeholder) (text : List Char) : List Char :=
  let text := match p.limit with
    | some n => text.take n
    | none => text
  let padding := List.replicate (p.width - text.length) ' '
  if p.flags.contains '-' then text ++ padding else padding ++ text

/-- **Field** of a record, or the record as a whole. -/
inductive Field where
  | text (s : String)
  /-- A datum that is no text, with what a placeholder shows of it if it can. -/
  | datum (shown : Placeholder → Option (List Char))

/-- What a placeholder shows of a field, if it can.  A text is shown as it is, quoted, or quoted in
ASCII, and as a character if it is one. -/
def Field.shown? (p : Placeholder) : Field → Option (List Char)
  | .datum shown => shown p
  | .text s =>
    match p.letter with
    | 's' => some (p.fit s.toList)
    | 'r' => some (p.fit (Text.quoted s.toList))
    | 'a' => some (p.fit (Text.quotedInAscii s.toList))
    | 'c' => if s.length = 1 then some ({ p with limit := none }.fit s.toList) else none
    | _ => none

/-- **Filling a placeholder** from some fields, if it can be filled.  A placeholder without a name
takes what is left over by the one before it, and nothing after one that took something; a per cent
sign takes nothing and has no size.  The second result is what is left over. -/
def Placeholder.fill? (p : Placeholder) (fields : String → Option Field) (left : Option Field) :
    Option (List Char × Option Field) :=
  match p.field with
  | none =>
    if p.letter = '%' then some (['%'], left)
    else (left.bind (Field.shown? p)).map fun shown => (shown, none)
  | some name =>
    match fields name with
    | none => none
    | some field =>
      if p.letter = '%' then some (['%'], some field)
      else (field.shown? p).map fun shown => (shown, none)

/-! ## §3. Lines -/

/-- A form filled from some fields, if each of its placeholders can be; the bound counts
characters. -/
def fill? (fields : String → Option Field) : Nat → Option Field → List Char → Option (List Char)
  | 0, _, cs => some cs
  | _, _, [] => some []
  | bound + 1, spare, c :: rest =>
    if c = '%' then do
      let (p, left) ← Placeholder.read? rest
      let (shown, spare) ← p.fill? fields spare
      let more ← fill? fields bound spare left
      some (shown ++ more)
    else (fill? fields bound spare rest).map (c :: ·)

/-- **The line** that a form makes of some fields and of the record as a whole. -/
def line? (format : String) (fields : String → Option Field) (whole : Field) : Option String :=
  (fill? fields (asked format).length (some whole) (asked format)).map fun text =>
    String.ofList text ++ "\n"

end Form

end Log

end LineCalc
