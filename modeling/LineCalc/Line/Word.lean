/-
Word — the words of a line and their columns.

A word is a maximal run of characters that are not blank.  Its column is
counted in characters from the start of the untrimmed line, so that a
report can point at it.

## Main definitions

  * `Word` — a piece of a line with its column.
  * `Line.words` — the words of a line, from left to right.
  * `Line.indent` — the number of leading blanks.

## Main statements

  * `Line.wordsFrom_of_blank` — a blank line has no words.
-/

import LineCalc.Text.Blank
import LineCalc.Text.Quoted

namespace LineCalc

/-- **Word**: a piece of a line and the column at which it starts. -/
structure Word where
  text : String
  column : Int
  deriving DecidableEq, Inhabited

/-- A word as diagnostics show it. -/
def Word.render (word : Word) : String :=
  "Token(" ++ String.ofList (Text.quoted word.text.toList) ++ ", pos=" ++ toString word.column ++ ")"

namespace Line

open Text

theorem length_dropWhile_le (p : Char → Bool) (cs : List Char) :
    (cs.dropWhile p).length ≤ cs.length :=
  (List.dropWhile_sublist p).length_le

/-- **Words** of a text whose first character stands in the given column. -/
def wordsFrom (column : Nat) (cs : List Char) : List Word :=
  match body : trimStart cs with
  | [] => []
  | c :: rest =>
    let start := column + leadingBlanks cs
    let more := rest.takeWhile fun d => !isBlank d
    ⟨String.ofList (c :: more), start⟩ ::
      wordsFrom (start + 1 + more.length) (rest.dropWhile fun d => !isBlank d)
termination_by cs.length
decreasing_by
  have shorter := length_dropWhile_le isBlank cs
  have after := length_dropWhile_le (fun d => !isBlank d) rest
  unfold trimStart at body
  rw [body, List.length_cons] at shorter
  omega

theorem wordsFrom_of_blank {column : Nat} {cs : List Char} (h : trimStart cs = []) :
    wordsFrom column cs = [] := by
  rw [wordsFrom]
  split
  · rfl
  · simp_all

/-- **The words of a line**. -/
def words (line : String) : List Word := wordsFrom 0 line.toList

/-- **Indent**: the number of blanks before the first word, or of all characters of a blank
line. -/
def indent (line : String) : Nat := leadingBlanks line.toList

end Line

end LineCalc
