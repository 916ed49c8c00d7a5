/-
Text — strings, keys, comments and gaps of a TOML document.

Every reader takes the characters that are left and gives back what it
read and what is left then; there is no result if the document breaks a
rule.  Lines end in `\n` alone here.

## Main definitions

  * `Toml.stringValue` — a string in any of the four notations.
  * `Toml.key` — a bare, quoted or dotted key.
  * `Toml.gap` — blanks, line ends and comments between array items.
-/

import LineCalc.Toml.Value

namespace LineCalc

namespace Toml

/-! ## §1. Blanks and comments -/

def isSpace (c : Char) : Bool := c = ' ' || c = '\t'

/-- The text after blanks within a line. -/
def skipSpaces (cs : List Char) : List Char := cs.dropWhile isSpace

/-- A control character that no text may hold; tabs are allowed. -/
def isControl (c : Char) : Bool := (c.toNat < 0x20 && c != '\t') || c.toNat == 0x7F

/-- The text after a comment, if one stands here; the end of its line is left. -/
def skipComment (cs : List Char) : Option (List Char) :=
  match cs with
  | '#' :: rest =>
    let body := rest.takeWhile (· != '\n')
    if body.any isControl then none else some (rest.dropWhile (· != '\n'))
  | _ => some cs

/-- The text after blanks, line ends and comments; `inComment` says that a comment is open. -/
def gapFrom (inComment : Bool) : List Char → Option (List Char)
  | [] => some []
  | c :: rest =>
    if inComment then
      if c = '\n' then gapFrom false rest
      else if isControl c then none
      else gapFrom true rest
    else if isSpace c || c = '\n' then gapFrom false rest
    else if c = '#' then gapFrom true rest
    else some (c :: rest)

/-- **Gap**: the text after blanks, line ends and comments. -/
def gap (cs : List Char) : Option (List Char) := gapFrom false cs

/-! ## §2. Strings -/

/-- The value of a hexadecimal digit. -/
def hexValue? (c : Char) : Option Nat :=
  if '0' ≤ c ∧ c ≤ '9' then some (c.toNat - '0'.toNat)
  else if 'a' ≤ c ∧ c ≤ 'f' then some (c.toNat - 'a'.toNat + 10)
  else if 'A' ≤ c ∧ c ≤ 'F' then some (c.toNat - 'A'.toNat + 10)
  else none

/-- The character with a code point of `count` hexadecimal digits; surrogates are none. -/
def codePoint (count : Nat) (cs : List Char) : Option (Char × List Char) := do
  let digits := cs.take count
  if digits.length = count then
    let values ← digits.mapM hexValue?
    let n := values.foldl (fun n d => 16 * n + d) 0
    if n.isValidChar then pure (Char.ofNat n, cs.drop count) else none
  else none

/-- The text after an escaped line end: blanks up to the end of the line, then blanks and line
ends. -/
def lineContinuation (cs : List Char) : Option (List Char) :=
  match skipSpaces cs with
  | [] => some []
  | '\n' :: rest => some (rest.dropWhile fun c => isSpace c || c = '\n')
  | _ => none

/-- The characters that an escape stands for, read after its backslash. -/
def escape (multiline : Bool) (cs : List Char) : Option (List Char × List Char) :=
  match cs with
  | 'b' :: rest => some (['\x08'], rest)
  | 't' :: rest => some (['\t'], rest)
  | 'n' :: rest => some (['\n'], rest)
  | 'f' :: rest => some (['\x0c'], rest)
  | 'r' :: rest => some (['\r'], rest)
  | '"' :: rest => some (['"'], rest)
  | '\\' :: rest => some (['\\'], rest)
  | 'u' :: rest => (codePoint 4 rest).map fun (c, left) => ([c], left)
  | 'U' :: rest => (codePoint 8 rest).map fun (c, left) => ([c], left)
  | c :: _ =>
    if multiline && (isSpace c || c = '\n') then (lineContinuation cs).map fun left => ([], left)
    else none
  | [] => none

/-- A character that may stand in a string; line ends only in strings of several lines. -/
def isStringChar (multiline : Bool) (c : Char) : Bool := !isControl c || (multiline && c = '\n')

/-- The rest of a string with escapes, up to its closing marks.  The bound counts characters. -/
def basicBody (multiline : Bool) : Nat → List Char → Option (List Char × List Char)
  | 0, _ => none
  | _, [] => none
  | bound + 1, '"' :: rest =>
    if multiline then
      match rest with
      | '"' :: '"' :: left => some ([], left)
      | _ => (basicBody multiline bound rest).map fun (s, left) => ('"' :: s, left)
    else some ([], rest)
  | bound + 1, '\\' :: rest => do
    let (piece, left) ← escape multiline rest
    let (s, left) ← basicBody multiline bound left
    pure (piece ++ s, left)
  | bound + 1, c :: rest =>
    if isStringChar multiline c then
      (basicBody multiline bound rest).map fun (s, left) => (c :: s, left)
    else none

/-- The rest of a string without escapes, up to its closing marks. -/
def literalBody (multiline : Bool) : List Char → Option (List Char × List Char)
  | [] => none
  | '\'' :: rest =>
    if multiline then
      match rest with
      | '\'' :: '\'' :: left => some ([], left)
      | _ => (literalBody multiline rest).map fun (s, left) => ('\'' :: s, left)
    else some ([], rest)
  | c :: rest =>
    if isStringChar multiline c then
      (literalBody multiline rest).map fun (s, left) => (c :: s, left)
    else none

/-- A string of several lines with up to two more marks, which belong to it. -/
def withClosingMarks (mark : Char) (s left : List Char) : List Char × List Char :=
  match left with
  | a :: b :: rest =>
    if a = mark then (if b = mark then (s ++ [mark, mark], rest) else (s ++ [mark], b :: rest))
    else (s, left)
  | [a] => if a = mark then (s ++ [mark], []) else (s, left)
  | [] => (s, [])

/-- The text without a line end at its start. -/
def afterLineEnd : List Char → List Char
  | '\n' :: rest => rest
  | cs => cs

/-- A string on one line, read from its opening mark. -/
def singleLine (cs : List Char) : Option (String × List Char) :=
  match cs with
  | '"' :: rest =>
    (basicBody false (rest.length + 1) rest).map fun (s, left) => (String.ofList s, left)
  | '\'' :: rest => (literalBody false rest).map fun (s, left) => (String.ofList s, left)
  | _ => none

/-- **Strings** in all four notations, read from the opening mark. -/
def stringValue (cs : List Char) : Option (String × List Char) :=
  match cs with
  | '"' :: '"' :: '"' :: rest => do
    let body := afterLineEnd rest
    let (s, left) ← basicBody true (body.length + 1) body
    let (s, left) := withClosingMarks '"' s left
    pure (String.ofList s, left)
  | '\'' :: '\'' :: '\'' :: rest => do
    let (s, left) ← literalBody true (afterLineEnd rest)
    let (s, left) := withClosingMarks '\'' s left
    pure (String.ofList s, left)
  | _ => singleLine cs

/-! ## §3. Keys -/

def isBareKeyChar (c : Char) : Bool := c.isAlphanum || c = '-' || c = '_'

def keyPart (cs : List Char) : Option (String × List Char) :=
  match cs.takeWhile isBareKeyChar with
  | [] => singleLine cs
  | bare => some (String.ofList bare, cs.dropWhile isBareKeyChar)

/-- The parts of a key, of which there are at most as many as the bound. -/
def keyParts : Nat → List Char → Option (List String × List Char)
  | 0, _ => none
  | bound + 1, cs => do
    let (part, left) ← keyPart cs
    match skipSpaces left with
    | '.' :: rest =>
      let (parts, left) ← keyParts bound (skipSpaces rest)
      pure (part :: parts, left)
    | left => pure ([part], left)

/-- **Keys**: parts joined by points; blanks around the points and after the key are skipped. -/
def key (cs : List Char) : Option (List String × List Char) := keyParts (cs.length + 1) cs

end Toml

end LineCalc
