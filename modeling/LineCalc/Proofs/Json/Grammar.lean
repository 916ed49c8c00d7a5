/-
Grammar — JSON texts and the values that they denote.

The grammar says which texts denote a value and which value that is: spaces
may stand around items, around members and around colons, strings may be
spelled in any way, and the members of an object keep their order.

## Main definitions

  * `Json.Value` — the values of JSON texts.
  * `Json.Cell`, `Json.Entry` — an item of an array and a member of an
    object, with their texts and the spaces around them.
  * `Json.Denotes`, `Json.Document` — the grammar.

## Main statements

  * `Json.Denotes.startsBarely` — no text of the grammar starts with a space
    or a closing bracket.
  * `Json.length_text_le_rowText` — the text of a cell is no longer than
    that of its row.
-/

import LineCalc.Proofs.Json.Numerals
import LineCalc.Proofs.Json.Spelling

namespace LineCalc

namespace Json

/-- **Value** of a JSON text.  A numeral has the double that it stands for as its value. -/
inductive Value where
  | null
  | bool (b : Bool)
  | number (x : Double)
  | string (s : String)
  | array (items : List Value)
  | object (members : List (String × Value))
  deriving Inhabited

variable {α : Type}

/-! ## §1. Texts and values -/

def isSpace (c : Char) : Bool := [' ', '\t', '\n', '\r'].contains c

/-- **Spaces**: a text without any other character. -/
def Spaces (cs : List Char) : Prop := ∀ c ∈ cs, isSpace c = true

def words : List (List Char × Value) :=
  [(['n', 'u', 'l', 'l'], .null), (['t', 'r', 'u', 'e'], .bool true),
    (['f', 'a', 'l', 's', 'e'], .bool false)]

/-- **Cell**: a value in a row of several, with its text and the spaces around it. -/
structure Cell (α : Type) where
  before : List Char
  text : List Char
  after : List Char
  value : α

/-- There are spaces around a cell, if anything. -/
def Cell.Spaced (cell : Cell α) : Prop := Spaces cell.before ∧ Spaces cell.after

/-- The text of a cell with what stands around it. -/
def Cell.framed (cell : Cell α) : List Char := cell.before ++ (cell.text ++ cell.after)

/-- The text of a row of cells, with commas between them. -/
def rowText (cells : List (Cell α)) : List Char :=
  ((cells.map Cell.framed).intersperse [',']).flatten

/-- **Entry** of an object: a name and a value, with their texts and the spaces around these. -/
structure Entry where
  before : List Char
  spelled : List Char
  name : List Char
  beforeColon : List Char
  afterColon : List Char
  text : List Char
  after : List Char
  value : Value

/-- The cell of an entry: its member of the object. -/
def Entry.cell (entry : Entry) : Cell (String × Value) where
  before := entry.before
  text := '"' :: (entry.spelled ++ '"' ::
    (entry.beforeColon ++ ':' :: (entry.afterColon ++ entry.text)))
  after := entry.after
  value := (String.ofList entry.name, entry.value)

/-- **Well-formed entry**: its name is spelled, and there are spaces between its parts, if
anything. -/
structure Entry.Formed (entry : Entry) : Prop where
  spells : Spells entry.spelled entry.name
  spaced : entry.cell.Spaced
  beforeColon : Spaces entry.beforeColon
  afterColon : Spaces entry.afterColon

/-- **The grammar**: the text denotes the value. -/
inductive Denotes : List Char → Value → Prop where
  | word {text : List Char} {v : Value} : (text, v) ∈ words → Denotes text v
  | number {text : List Char} {x : Double} : IsNumeral text → Double.parse? text = some x →
      Denotes text (.number x)
  | string {text cs : List Char} : Spells text cs →
      Denotes ('"' :: (text ++ ['"'])) (.string (String.ofList cs))
  | noItems {gap : List Char} : Spaces gap → Denotes ('[' :: (gap ++ [']'])) (.array [])
  | items {cells : List (Cell Value)} : cells ≠ [] → (∀ cell ∈ cells, cell.Spaced) →
      (∀ cell ∈ cells, Denotes cell.text cell.value) →
      Denotes ('[' :: (rowText cells ++ [']'])) (.array (cells.map Cell.value))
  | noMembers {gap : List Char} : Spaces gap → Denotes ('{' :: (gap ++ ['}'])) (.object [])
  | members {entries : List Entry} : entries ≠ [] → (∀ entry ∈ entries, entry.Formed) →
      (∀ entry ∈ entries, Denotes entry.text entry.value) →
      Denotes ('{' :: (rowText (entries.map Entry.cell) ++ ['}']))
        (.object ((entries.map Entry.cell).map Cell.value))

/-- **Document**: a whole text that denotes a value, with spaces around it. -/
def Document (s : String) (v : Value) : Prop :=
  ∃ before text after, s.toList = before ++ (text ++ after) ∧ Spaces before ∧ Spaces after ∧
    Denotes text v

/-! ## §2. Rows -/

theorem rowText_singleton (cell : Cell α) : rowText [cell] = cell.framed := by
  simp [rowText]

theorem rowText_cons_cons (cell next : Cell α) (more : List (Cell α)) :
    rowText (cell :: next :: more) = cell.framed ++ ',' :: rowText (next :: more) := by
  simp [rowText]

theorem length_text_le_rowText {cells : List (Cell α)} {cell : Cell α} (member : cell ∈ cells) :
    cell.text.length ≤ (rowText cells).length := by
  induction cells with
  | nil => exact nomatch member
  | cons first more ih =>
    have here : first.text.length ≤ first.framed.length := by
      simp only [Cell.framed, List.length_append]
      omega
    cases more with
    | nil =>
      obtain rfl := List.mem_singleton.1 member
      rwa [rowText_singleton]
    | cons next more =>
      rw [rowText_cons_cons, List.length_append, List.length_cons]
      rcases List.mem_cons.1 member with rfl | later
      · omega
      · have others := ih later
        omega

/-- An entry may stand in the cell: it is well-formed, and its text denotes its value. -/
def IsEntry (entry : Entry) : Prop := entry.Formed ∧ Denotes entry.text entry.value

theorem exists_entries {cells : List (Cell (String × Value))}
    (h : ∀ cell ∈ cells, ∃ entry, IsEntry entry ∧ entry.cell = cell) :
    ∃ entries : List Entry, entries.map Entry.cell = cells ∧ ∀ entry ∈ entries, IsEntry entry := by
  induction cells with
  | nil => exact ⟨[], rfl, nofun⟩
  | cons cell more ih =>
    obtain ⟨entry, isEntry, rfl⟩ := h cell (List.mem_cons_self ..)
    obtain ⟨entries, rfl, others⟩ := ih fun cell member => h cell (List.mem_cons_of_mem _ member)
    exact ⟨entry :: entries, rfl, List.forall_mem_cons.2 ⟨isEntry, others⟩⟩

/-! ## §3. Starts and ends -/

/-- A text starts barely: with a character that is neither a space nor the closing bracket. -/
def StartsBarely (close : Char) (cs : List Char) : Prop :=
  ∃ c rest, cs = c :: rest ∧ isSpace c = false ∧ c ≠ close

theorem isSpace_of_isDigit {c : Char} (digit : c.isDigit = true) : isSpace c = false := by
  have other : ∀ d : Char, d.isDigit = false → (c == d) = false :=
    fun d noDigit => beq_eq_false_iff_ne.2 (ne_of_isDigit digit noDigit)
  simp only [isSpace, List.contains_cons, List.contains_nil, other ' ' rfl, other '\t' rfl,
    other '\n' rfl, other '\r' rfl, Bool.or_false]

/-- No text of the grammar starts with a space or a closing bracket. -/
theorem Denotes.startsBarely {text : List Char} {v : Value} (h : Denotes text v) :
    StartsBarely ']' text := by
  cases h with
  | word member =>
    simp only [words, List.mem_cons, List.not_mem_nil, or_false, Prod.mk.injEq] at member
    rcases member with ⟨rfl, -⟩ | ⟨rfl, -⟩ | ⟨rfl, -⟩
    · exact ⟨'n', _, rfl, rfl, by decide⟩
    · exact ⟨'t', _, rfl, rfl, by decide⟩
    · exact ⟨'f', _, rfl, rfl, by decide⟩
  | number numeral =>
    obtain ⟨c, rest, rfl, minus | digit⟩ := numeral.exists_eq_cons
    · exact ⟨c, rest, rfl, by rw [minus]; rfl, by rw [minus]; decide⟩
    · exact ⟨c, rest, rfl, isSpace_of_isDigit digit, ne_of_isDigit digit rfl⟩
  | string => exact ⟨'"', _, rfl, rfl, by decide⟩
  | noItems => exact ⟨'[', _, rfl, rfl, by decide⟩
  | items => exact ⟨'[', _, rfl, rfl, by decide⟩
  | noMembers => exact ⟨'{', _, rfl, rfl, by decide⟩
  | members => exact ⟨'{', _, rfl, rfl, by decide⟩

theorem length_le_rowText {close : Char} {cells : List (Cell α)}
    (starts : ∀ cell ∈ cells, StartsBarely close cell.text) :
    cells.length ≤ (rowText cells).length := by
  induction cells with
  | nil => exact Nat.zero_le _
  | cons cell more ih =>
    obtain ⟨c, behind, text, -, -⟩ := starts cell (List.mem_cons_self ..)
    have long : 1 ≤ cell.framed.length := by
      rw [Cell.framed, text]
      simp only [List.length_append, List.length_cons]
      omega
    have others := ih fun cell member => starts cell (List.mem_cons_of_mem _ member)
    cases more with
    | nil => rwa [rowText_singleton]
    | cons next more =>
      simp only [rowText_cons_cons, List.length_append, List.length_cons] at others ⊢
      omega

def Delimited (cs : List Char) : Prop := ∀ c, cs.head? = some c → isNumeralChar c = false

theorem isNumeralChar_of_isSpace {c : Char} (space : isSpace c = true) :
    isNumeralChar c = false := by
  simp only [isSpace, List.contains_eq_mem, List.mem_cons, List.not_mem_nil, or_false,
    decide_eq_true_eq] at space
  rcases space with rfl | rfl | rfl | rfl <;> rfl

/-- A comma or a closing bracket, perhaps behind spaces, does not carry on a numeral. -/
theorem delimited_append {gap : List Char} (spaces : Spaces gap) {c : Char}
    (delimits : isNumeralChar c = false) (rest : List Char) : Delimited (gap ++ c :: rest) := by
  intro d first
  cases gap with
  | nil =>
    obtain rfl := Option.some.inj first
    exact delimits
  | cons space gap =>
    obtain rfl := Option.some.inj first
    exact isNumeralChar_of_isSpace (spaces space (List.mem_cons_self ..))

end Json

end LineCalc
