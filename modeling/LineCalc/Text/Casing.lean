/-
Casing — lower-case and upper-case forms of words, for all scripts.

Both maps go character by character, but for one rule: a capital sigma at
the end of a word becomes the final small sigma.

## Main definitions

  * `Text.lower` — the lower-case form, with the rule for the final sigma.
  * `Text.upper` — the upper-case form; some characters become several.
-/

import LineCalc.Text.Ranges
import LineCalc.Text.Casing.LowerTable
import LineCalc.Text.Casing.UpperTable
import LineCalc.Text.Casing.ContextTable

namespace LineCalc

namespace Text

/-! ## §1. Single characters -/

/-- The shift of a code point according to a table of runs. -/
def shift? (runs : List (Nat × Nat × Nat × Int)) (n : Nat) : Option Int :=
  (runs.find? fun (first, last, step, _) =>
    first ≤ n && n ≤ last && (n - first) % step == 0).map fun (_, _, _, shift) => shift

/-- A character moved according to a table of runs. -/
def shifted (runs : List (Nat × Nat × Nat × Int)) (c : Char) : Char :=
  match shift? runs c.toNat with
  | some shift => Char.ofNat (c.toNat + shift).toNat
  | none => c

/-- The lower-case form of a character, whatever stands around it. -/
def lowerChar (c : Char) : List Char :=
  if c = 'İ' then ['i', '\u0307'] else [shifted lowerRuns c]

/-- The upper-case form of a character. -/
def upperChar (c : Char) : List Char :=
  match upperExpansions.lookup c.toNat with
  | some expansion => expansion.map Char.ofNat
  | none => [shifted upperRuns c]

/-! ## §2. Words -/

/-- A character passed over when the surroundings of a sigma are judged. -/
def isIgnorable (c : Char) : Bool := inRanges ignorableRanges c

def isCased (c : Char) : Bool := inRanges casedRanges c

/-- The first character that is not ignorable is a cased letter. -/
def startsCased (cs : List Char) : Bool :=
  match cs.dropWhile isIgnorable with
  | [] => false
  | c :: _ => isCased c

/-- The lower-case form of a text that follows a cased letter (`afterCased`) or does not. -/
def lowerFrom (afterCased : Bool) : List Char → List Char
  | [] => []
  | c :: rest =>
    let form :=
      if c = 'Σ' then (if afterCased && !startsCased rest then ['ς'] else ['σ']) else lowerChar c
    form ++ lowerFrom (if isIgnorable c then afterCased else isCased c) rest

/-- **Lower case** of a text. -/
def lower (cs : List Char) : List Char := lowerFrom false cs

/-- **Upper case** of a text. -/
def upper (cs : List Char) : List Char := cs.flatMap upperChar

end Text

end LineCalc
