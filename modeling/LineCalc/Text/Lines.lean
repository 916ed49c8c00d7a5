/-
Lines — the lines of a text.

A line ends at a line feed, at a carriage return, or at a carriage return
with a line feed after it.  The last line need not be ended.  These are
universal newlines, by which files are read.  The standard input of a POSIX
process is cut at line feeds alone, so a lone carriage return ends a line
here and not there.

## Main definitions

  * `Text.unifyLineEnds` — a text with a line feed for each of its line ends.
  * `Text.feedLines` — the lines of a text in which only line feeds end lines.
  * `Text.lines` — the lines of a text.

## Main statements

  * `Text.unifyLineEnds_eq_self` — a text without carriage returns stays as
    it is.
  * `Text.feedLines_ended` — lines that are written one after another, each
    with a line feed, are read back.
-/

namespace LineCalc

namespace Text

/-! ## §1. Line ends -/

/-- A text with a line feed for each of its line ends. -/
def unifyLineEnds : List Char → List Char
  | [] => []
  | '\r' :: '\n' :: rest => '\n' :: unifyLineEnds rest
  | '\r' :: rest => '\n' :: unifyLineEnds rest
  | c :: rest => c :: unifyLineEnds rest

theorem unifyLineEnds_eq_self {cs : List Char} (h : '\r' ∉ cs) : unifyLineEnds cs = cs := by
  fun_induction unifyLineEnds cs with
  | case1 => rfl
  | case2 rest => exact absurd List.mem_cons_self h
  | case3 rest => exact absurd List.mem_cons_self h
  | case4 c rest _ _ ih => rw [ih fun later => h (List.mem_cons_of_mem c later)]

/-! ## §2. Lines -/

/-- The lines of a text in which only line feeds end lines. -/
def feedLines : List Char → List (List Char)
  | [] => []
  | c :: rest =>
    if c = '\n' then [] :: feedLines rest
    else
      match feedLines rest with
      | [] => [[c]]
      | line :: more => (c :: line) :: more

theorem feedLines_append {line : List Char} (h : '\n' ∉ line) (rest : List Char) :
    feedLines (line ++ '\n' :: rest) = line :: feedLines rest := by
  induction line with
  | nil => simp [feedLines]
  | cons c line ih =>
    rw [List.mem_cons, not_or] at h
    rw [List.cons_append, feedLines, if_neg (Ne.symm h.1), ih h.2]

/-- Lines that are written one after another, each with a line feed, are read back. -/
theorem feedLines_ended {written : List (List Char)} (h : ∀ line ∈ written, '\n' ∉ line) :
    feedLines (written.flatMap fun line => line ++ ['\n']) = written := by
  induction written with
  | nil => rfl
  | cons line more ih =>
    rw [List.flatMap_cons, List.append_assoc, List.singleton_append,
      feedLines_append (h line List.mem_cons_self),
      ih fun other member => h other (List.mem_cons_of_mem line member)]

/-- **The lines of a text**, cut with universal newlines. -/
def lines (text : String) : List String :=
  (feedLines (unifyLineEnds text.toList)).map String.ofList

end Text

end LineCalc
