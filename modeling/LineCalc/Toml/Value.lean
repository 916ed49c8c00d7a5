/-
Value — the data of a TOML document.

A document is a table; a table maps keys to values, and keys are unique.
Every value has a type, and settings are checked by these types.

## Main definitions

  * `Toml.Value` and `Toml.Table`.
  * `Toml.Value.typeName` — the name of a value's type in messages.
  * `Toml.Date.isValid` — the dates of the calendar.
-/

import LineCalc.Double.Basic

namespace LineCalc

namespace Toml

/-! ## §1. Dates and times -/

/-- **Date** of the calendar. -/
structure Date where
  year : Nat
  month : Nat
  day : Nat
  deriving DecidableEq, Inhabited

/-- A year with a 29th of February. -/
def Date.isLeap (year : Nat) : Bool := year % 4 == 0 && (year % 100 != 0 || year % 400 == 0)

/-- The number of days of a month. -/
def Date.daysIn (year month : Nat) : Nat :=
  if month = 2 then (if isLeap year then 29 else 28)
  else if month = 4 ∨ month = 6 ∨ month = 9 ∨ month = 11 then 30
  else 31

/-- The dates that exist; years start at one. -/
def Date.isValid (d : Date) : Bool :=
  1 ≤ d.year && 1 ≤ d.month && d.month ≤ 12 && 1 ≤ d.day && d.day ≤ daysIn d.year d.month

/-- **Time** of the day, with the digits of its fraction of a second. -/
structure Time where
  hour : Nat
  minute : Nat
  second : Nat
  fraction : List Char
  deriving DecidableEq, Inhabited

/-! ## §2. Values -/

/-- **Value** of a TOML document. -/
inductive Value where
  | string (s : String)
  | integer (n : Int)
  | float (x : Double)
  | boolean (b : Bool)
  /-- A date with a time, and perhaps an offset from universal time in minutes. -/
  | dateTime (d : Date) (t : Time) (offset : Option Int)
  | date (d : Date)
  | time (t : Time)
  | array (items : List Value)
  | table (members : List (String × Value))
  deriving Inhabited

/-- **Table**: keys with their values, each key once. -/
abbrev Table := List (String × Value)

def Value.typeName : Value → String
  | string _ => "str"
  | integer _ => "int"
  | float _ => "float"
  | boolean _ => "bool"
  | dateTime _ _ _ => "datetime"
  | date _ => "date"
  | time _ => "time"
  | array _ => "list"
  | table _ => "dict"

/-- Tables and arrays: the values that hold others. -/
def Value.isContainer : Value → Bool
  | array _ => true
  | table _ => true
  | _ => false

/-! ## §3. Tables -/

namespace Table

def get? (t : Table) (key : String) : Option Value := t.lookup key

/-- The table with a key set to a value, in its old place if it has one. -/
def put (t : Table) (key : String) (v : Value) : Table :=
  match t with
  | [] => [(key, v)]
  | (k, w) :: rest => if k = key then (k, v) :: rest else (k, w) :: put rest key v

/-- **Descending**: the table changed at the end of a path by `change`.  Missing tables on the way
are made; with `intoArrays` the last item of an array of tables stands for the array.  There is no
result if something else is in the way, or if `change` has none. -/
def alter (intoArrays : Bool) (change : Table → Option Table) : List String → Table → Option Table
  | [], t => change t
  | key :: path, t =>
    match t.get? key with
    | none => (alter intoArrays change path []).map fun sub => t.put key (.table sub)
    | some (.table sub) => (alter intoArrays change path sub).map fun sub => t.put key (.table sub)
    | some (.array items) =>
      if intoArrays then
        match items.getLast? with
        | some (.table sub) =>
          (alter intoArrays change path sub).map fun sub =>
            t.put key (.array (items.dropLast ++ [.table sub]))
        | _ => none
      else none
    | some _ => none

/-- The table with a new key; none if the key is taken. -/
def add? (key : String) (v : Value) (t : Table) : Option Table :=
  match t.get? key with
  | none => some (t ++ [(key, v)])
  | some _ => none

/-- The table with an empty table put at the end of the array at a key, which is made if it is
missing. -/
def addItem? (key : String) (t : Table) : Option Table :=
  match t.get? key with
  | none => some (t ++ [(key, .array [.table []])])
  | some (.array items) => some (t.put key (.array (items ++ [.table []])))
  | some _ => none

end Table

end Toml

end LineCalc
