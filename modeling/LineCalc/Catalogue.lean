/-
Catalogue — the table of supported forms.

The table is drawn with box characters: a heavy frame around the heading, a
light one around the rows, each column as wide as its widest cell.

## Main definitions

  * `Catalogue.rows` — name, form and description of every function and
    operator.
  * `Catalogue.text` — the drawn table.
-/

namespace LineCalc

namespace Catalogue

def rows : List (List String) := [
  ["sin", "sin X", "Sine of X (radians)"],
  ["cos", "cos X", "Cosine of X (radians)"],
  ["tan", "tan X", "Tangent of X (radians)"],
  ["sec", "sec X", "Secant of X, 1 / cos X"],
  ["inv", "inv X", "Reciprocal, 1 / X"],
  ["root", "root N X", "N-th root of X"],
  ["+", "X + Y", "Addition"],
  ["-", "X - Y", "Subtraction"],
  ["*", "X * Y", "Multiplication"],
  ["/", "X / Y", "Division"],
  ["^", "X ^ Y", "Power"],
  ["!", "N!", "Factorial of a non-negative integer"]]

def heading : List String := ["Name", "Form", "Description"]

/-- The title above the catalogue. -/
def title : String := "Supported forms"

/-! ## §1. Drawing -/

def row (c : Char) (count : Nat) : String := String.ofList (List.replicate count c)

/-- The widths of the columns: those of their widest cells. -/
def widths (table : List (List String)) : List Nat :=
  table.foldl (fun ws cells => (ws.zip cells).map fun (w, cell) => max w cell.length) [0, 0, 0]

def cell (width : Nat) (text : String) : String :=
  " " ++ text ++ row ' ' (width - text.length) ++ " "

def cellLine (bar : String) (ws : List Nat) (cells : List String) : String :=
  bar ++ bar.intercalate ((ws.zip cells).map fun (w, text) => cell w text) ++ bar ++ "\n"

def frameLine (left : String) (line : Char) (cross right : String) (ws : List Nat) : String :=
  left ++ cross.intercalate (ws.map fun w => row line (w + 2)) ++ right ++ "\n"

/-- A text in the middle of a line of the given width. -/
def centered (width : Nat) (text : String) : String :=
  let space := width - text.length
  row ' ' (space / 2) ++ text ++ row ' ' (space - space / 2) ++ "\n"

/-- **The drawn table**. -/
def text : String :=
  let ws := widths (heading :: rows)
  let total := ws.foldl (fun n w => n + w + 3) 1
  centered total title ++
    frameLine "┏" '━' "┳" "┓" ws ++
    cellLine "┃" ws heading ++
    frameLine "┡" '━' "╇" "┩" ws ++
    String.join (rows.map (cellLine "│" ws)) ++
    frameLine "└" '─' "┴" "┘" ws

end Catalogue

end LineCalc
