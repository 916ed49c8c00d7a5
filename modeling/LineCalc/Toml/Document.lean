/-
Document — TOML documents as tables.

A document is a sequence of statements, one a line: a key with a value, the
header of a table, or the header of an item of an array of tables.  Tables
may be filled in several places, but nothing may be defined twice, and what
was written as a whole (an inline table, an array) may not be added to
later.  A **draft** holds the table so far with the paths that are closed
in this way.

## Main definitions

  * `Toml.value` — a value, with the arrays and inline tables it holds.
  * `Toml.Draft` — the table so far and what may still be added.
  * `Toml.Document.read` — reading a document.
  * `Toml.Limits` — the limits of whoever reads it.
-/

import LineCalc.Text.Lines
import LineCalc.Toml.Scalar

namespace LineCalc

namespace Toml

/-! ## §1. Values -/

/-- A path that some path of the list leads to or through. -/
def covers (paths : List (List String)) (path : List String) : Bool :=
  paths.any fun p => p.isPrefixOf path

/-- An inline table with one more member, and the paths in it that are closed then. -/
def addInline (t : Table) (closed : List (List String)) (path : List String) (v : Value) :
    Option (Table × List (List String)) :=
  match path.getLast? with
  | none => none
  | some stem =>
    if covers closed path then none
    else
      (t.alter false (Table.add? stem v) path.dropLast).map fun t =>
        (t, if v.isContainer then path :: closed else closed)

mutual

/-- A value; the bound limits the nesting and the number of items. -/
def boundedValue (most : Option Nat) : Nat → List Char → Except Fault (Value × List Char)
  | 0, _ => .error .malformed
  | bound + 1, cs =>
    match cs with
    | '[' :: rest => do
      match ← orMalformed (gap rest) with
      | ']' :: left => pure (.array [], left)
      | rest =>
        let (items, left) ← boundedItems most bound rest
        pure (.array items, left)
    | '{' :: rest =>
      match skipSpaces rest with
      | '}' :: left => pure (.table [], left)
      | rest => do
        let (t, left) ← boundedMembers most bound [] [] rest
        pure (.table t, left)
    | '"' :: _ => orMalformed ((stringValue cs).map fun (s, left) => (.string s, left))
    | '\'' :: _ => orMalformed ((stringValue cs).map fun (s, left) => (.string s, left))
    | _ => scalar most cs

/-- The items of an array up to its closing bracket; a comma may stand after the last. -/
def boundedItems (most : Option Nat) : Nat → List Char → Except Fault (List Value × List Char)
  | 0, _ => .error .malformed
  | bound + 1, cs => do
    let (item, left) ← boundedValue most bound cs
    match ← orMalformed (gap left) with
    | ']' :: left => pure ([item], left)
    | ',' :: rest =>
      match ← orMalformed (gap rest) with
      | ']' :: left => pure ([item], left)
      | rest =>
        let (items, left) ← boundedItems most bound rest
        pure (item :: items, left)
    | _ => throw .malformed

/-- The members of an inline table up to its closing brace, all on one line. -/
def boundedMembers (most : Option Nat) :
    Nat → Table → List (List String) → List Char → Except Fault (Table × List Char)
  | 0, _, _, _ => .error .malformed
  | bound + 1, t, closed, cs => do
    let (path, left) ← orMalformed (key cs)
    let rest ← orMalformed (expect '=' left)
    let (v, left) ← boundedValue most bound (skipSpaces rest)
    let (t, closed) ← orMalformed (addInline t closed path v)
    match skipSpaces left with
    | '}' :: left => pure (t, left)
    | ',' :: rest => boundedMembers most bound t closed (skipSpaces rest)
    | _ => throw .malformed

end

/-- **Values**: no value nests deeper, or holds more items, than the text has characters. -/
def value (most : Option Nat) (cs : List Char) : Except Fault (Value × List Char) :=
  boundedValue most (2 * cs.length + 2) cs

/-! ## §2. Drafts -/

/-- **Draft** of a document. -/
structure Draft where
  /-- The table so far. -/
  root : Table
  /-- The paths that a header may not open any more. -/
  declared : List (List String)
  /-- The paths whose tables and arrays were written as a whole. -/
  closed : List (List String)
  /-- The paths that dotted keys went through since the last header; the next header declares
  them. -/
  passed : List (List String)
  /-- The path of the table that statements are in. -/
  header : List String
  deriving Inhabited

namespace Draft

/-- The draft of an empty document. -/
def empty : Draft := ⟨[], [], [], [], []⟩

/-- The draft at the start of a header. -/
def atHeader (d : Draft) : Draft := { d with declared := d.passed ++ d.declared, passed := [] }

/-- The draft after the header of a table. -/
def openTable (d : Draft) (path : List String) : Option Draft :=
  let d := d.atHeader
  if d.declared.contains path || covers d.closed path then none
  else
    (d.root.alter true some path).map fun root =>
      { d with root := root, declared := path :: d.declared, header := path }

/-- The draft after the header of an item: nothing is said yet about the new item. -/
def openItem (d : Draft) (path : List String) : Option Draft :=
  let d := d.atHeader
  match path.getLast? with
  | none => none
  | some stem =>
    if covers d.closed path then none
    else
      -- What was said about the former items does not bind the new one.
      let outside (p : List String) : Bool := !path.isPrefixOf p
      (d.root.alter true (Table.addItem? stem) path.dropLast).map fun root =>
        { d with
          root := root
          declared := path :: d.declared.filter outside
          closed := d.closed.filter outside
          header := path }

/-- The draft after a key with a value. -/
def assign (d : Draft) (path : List String) (v : Value) : Option Draft :=
  match path.getLast? with
  | none => none
  | some stem =>
    -- The tables that a dotted key goes through may not have headers of their own.
    let through := (List.range (path.length - 1)).map fun i => d.header ++ path.take (i + 1)
    let parent := d.header ++ path.dropLast
    if through.any d.declared.contains || covers d.closed parent then none
    else
      (d.root.alter true (Table.add? stem v) parent).map fun root =>
        { d with
          root := root
          passed := through ++ d.passed
          closed := if v.isContainer then (d.header ++ path) :: d.closed else d.closed }

end Draft

/-! ## §3. Statements -/

/-- The draft after the header that starts here, with the text left on its line. -/
def header (d : Draft) (cs : List Char) : Option (Draft × List Char) :=
  match cs with
  | '[' :: '[' :: rest => do
    let (path, left) ← key (skipSpaces rest)
    let d ← d.openItem path
    let left ← expect ']' left
    let left ← expect ']' left
    pure (d, left)
  | '[' :: rest => do
    let (path, left) ← key (skipSpaces rest)
    let d ← d.openTable path
    let left ← expect ']' left
    pure (d, left)
  | _ => none

/-- The draft after the statement that starts here, if any, with the text left on its line. -/
def statement (most : Option Nat) (d : Draft) (cs : List Char) :
    Except Fault (Draft × List Char) :=
  match cs with
  | [] => pure (d, cs)
  | '\n' :: _ => pure (d, cs)
  | '#' :: _ => pure (d, cs)
  | '[' :: _ => orMalformed (header d cs)
  | _ => do
    let (path, left) ← orMalformed (key cs)
    let rest ← orMalformed (expect '=' left)
    let (v, left) ← value most (skipSpaces rest)
    let d ← orMalformed (d.assign path v)
    pure (d, left)

/-- The draft after all statements, of which there are at most as many as the bound. -/
def statements (most : Option Nat) : Nat → Draft → List Char → Except Fault Draft
  | 0, _, _ => .error .malformed
  | bound + 1, d, cs => do
    let (d, left) ← statement most d (skipSpaces cs)
    match ← orMalformed (skipComment (skipSpaces left)) with
    | [] => pure d
    | '\n' :: rest => statements most bound d rest
    | _ => throw .malformed

namespace Document

/-- **Reading a document** whose decimal integers may have at most as many digits as `most` says. -/
def read (most : Option Nat) (text : String) : Except Fault Table :=
  let cs := Text.unifyLineEnds text.toList
  (statements most (cs.length + 1) .empty cs).map Draft.root

/-- The document of a text, if integers of any number of digits can be converted. -/
def parse? (text : String) : Option Table := (read none text).toOption

end Document

/-! ## §4. Limits -/

/-- **Limit** to what can be read. -/
inductive Limit where
  /-- The number of digits of a decimal integer. -/
  | digits
  /-- The room for values inside of others. -/
  | depth
  deriving DecidableEq, Inhabited

/-- The number of brackets and braces in a text that may open something. -/
def openings (text : String) : Nat := text.toList.countP fun c => c = '[' || c = '{'

/-- **Limits** of whoever reads a document.  How deep values may nest depends on how much room is
left when reading starts, so it is not told by one number. -/
structure Limits where
  /-- The greatest number of digits of a decimal integer, if there is one. -/
  digits : Option Nat
  /-- The texts whose values nest too deep. -/
  tooDeep : String → Bool
  /-- A number of openings for which there always is room. -/
  depth : Nat
  tooDeep_of_openings_le : ∀ text, openings text ≤ depth → tooDeep text = false

namespace Limits

def none : Limits := ⟨.none, fun _ => false, 0, fun _ _ => rfl⟩

instance : Inhabited Limits := ⟨none⟩

/-- **The limit that a text passes**, if it passes one. -/
def passedBy (limits : Limits) (text : String) : Option Limit :=
  if limits.tooDeep text then some .depth
  else
    match Document.read limits.digits text with
    | .error .overlong => some .digits
    | _ => .none

end Limits

end Toml

end LineCalc
