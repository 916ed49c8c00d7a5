/-
Scalar — numbers, booleans, dates and times of a TOML document.

Each reader recognises its notation at the start of the text and leaves the
rest; whether the rest may follow is seen by whoever reads on.  Readers of
one notation give an option; where integers may stand, a text is read or has
a fault, for a decimal integer may have more digits than can be converted.

## Main definitions

  * `Toml.Fault` — why a text is not read.
  * `Toml.number` — integers in four bases and floats.
  * `Toml.dateOrTime` — dates, times, and both together.
  * `Toml.scalar` — every value that is neither a string nor a container.
-/

import LineCalc.Double.Decimal
import LineCalc.Toml.Text

namespace LineCalc

namespace Toml

/-! ## §1. Faults -/

/-- **Fault**: why a text is not read. -/
inductive Fault where
  /-- A rule of documents is broken. -/
  | malformed
  /-- A decimal integer has more digits than can be converted. -/
  | overlong
  deriving DecidableEq, Inhabited

/-- What an option holds; it is a broken rule to hold nothing. -/
def orMalformed {α : Type} (found : Option α) : Except Fault α :=
  match found with
  | some a => .ok a
  | none => .error .malformed

/-! ## §2. Numbers -/

/-- A row of digits of some base, single underscores between them left out. -/
def digitRow (isDigit : Char → Bool) : List Char → List Char × List Char
  | [] => ([], [])
  | '_' :: c :: rest =>
    if isDigit c then
      let (ds, left) := digitRow isDigit rest
      (c :: ds, left)
    else ([], '_' :: c :: rest)
  | c :: rest =>
    if isDigit c then
      let (ds, left) := digitRow isDigit rest
      (c :: ds, left)
    else ([], c :: rest)

/-- A row of at least one digit, which an underscore does not start. -/
def digits? (isDigit : Char → Bool) (cs : List Char) : Option (List Char × List Char) :=
  match cs with
  | [] => none
  | c :: _ => if isDigit c then some (digitRow isDigit cs) else none

/-- A digit below the given base. -/
def isDigitOf (base : Nat) (c : Char) : Bool :=
  match hexValue? c with
  | some d => d < base
  | none => false

/-- The number that digits of a base write. -/
def valueOf (base : Nat) (ds : List Char) : Nat :=
  ds.foldl (fun n c => base * n + (hexValue? c).getD 0) 0

/-- An integer of another base than ten. -/
def basedInteger (cs : List Char) : Option (Value × List Char) :=
  let read (base : Nat) (rest : List Char) : Option (Value × List Char) :=
    (digits? (isDigitOf base) rest).map fun (ds, left) => (.integer (valueOf base ds), left)
  match cs with
  | '0' :: 'x' :: rest => read 16 rest
  | '0' :: 'o' :: rest => read 8 rest
  | '0' :: 'b' :: rest => read 2 rest
  | _ => none

/-- A sign (`true` for minus), if one stands here. -/
def sign : List Char → Bool × List Char
  | '-' :: rest => (true, rest)
  | '+' :: rest => (false, rest)
  | cs => (false, cs)

/-- The whole part of a decimal number: a zero alone, or digits that start otherwise. -/
def wholePart (cs : List Char) : Option (List Char × List Char) :=
  match cs with
  | '0' :: rest => some (['0'], rest)
  | _ => digits? Char.isDigit cs

/-- The digits after a point, if they stand here. -/
def fractionPart (cs : List Char) : Option (List Char × List Char) :=
  match cs with
  | '.' :: rest => digits? Char.isDigit rest
  | _ => none

/-- An exponent, if one stands here. -/
def exponentPart (cs : List Char) : Option (Int × List Char) :=
  match cs with
  | c :: rest =>
    if c = 'e' ∨ c = 'E' then
      let (neg, rest) := sign rest
      (digits? Char.isDigit rest).map fun (ds, left) =>
        ((if neg then -(valueOf 10 ds : Int) else valueOf 10 ds), left)
    else none
  | [] => none

/-- A decimal integer, or a float if it has a fraction or an exponent.  An integer may have at most
as many digits as `most` says, if it says a number; the digits of floats, and of integers of other
bases, are not counted. -/
def decimalNumber (most : Option Nat) (cs : List Char) : Except Fault (Value × List Char) := do
  let (neg, body) := sign cs
  let (whole, left) ← orMalformed (wholePart body)
  let (fraction, left) := ((fractionPart left).map fun (f, l) => (some f, l)).getD (none, left)
  let (exponent, left) := ((exponentPart left).map fun (e, l) => (some e, l)).getD (none, left)
  if fraction.isNone && exponent.isNone then
    if most.any (· < whole.length) then throw .overlong
    let n : Int := valueOf 10 whole
    pure (.integer (if neg then -n else n), left)
  else
    let places := fraction.getD []
    let scale : Int := exponent.getD 0 - places.length
    pure (.float (Double.ofDecimal neg (valueOf 10 (whole ++ places)) scale), left)

/-- The words for floats that are not finite. -/
def specialFloat (cs : List Char) : Option (Value × List Char) :=
  let (neg, body) := sign cs
  match body with
  | 'i' :: 'n' :: 'f' :: left => some (.float (.infinity neg), left)
  | 'n' :: 'a' :: 'n' :: left => some (.float .nan, left)
  | _ => none

/-- **Numbers**. -/
def number (most : Option Nat) (cs : List Char) : Except Fault (Value × List Char) :=
  match basedInteger cs with
  | some read => .ok read
  | none =>
    match decimalNumber most cs with
    | .error .malformed => orMalformed (specialFloat cs)
    | outcome => outcome

/-! ## §3. Dates and times -/

/-- The number written by exactly `count` decimal digits. -/
def fixedDigits (count : Nat) (cs : List Char) : Option (Nat × List Char) :=
  let ds := cs.take count
  if ds.length = count ∧ ds.all Char.isDigit then some (valueOf 10 ds, cs.drop count) else none

/-- The text after an expected character. -/
def expect (c : Char) (cs : List Char) : Option (List Char) :=
  match cs with
  | d :: rest => if d = c then some rest else none
  | [] => none

def dateOnly (cs : List Char) : Option (Date × List Char) := do
  let (year, left) ← fixedDigits 4 cs
  let (month, left) ← fixedDigits 2 (← expect '-' left)
  let (day, left) ← fixedDigits 2 (← expect '-' left)
  let d : Date := ⟨year, month, day⟩
  if d.isValid then pure (d, left) else none

/-- The digits of a fraction of a second, if a point with digits stands here. -/
def secondFraction (cs : List Char) : List Char × List Char :=
  match cs with
  | '.' :: c :: rest =>
    if c.isDigit then ((c :: rest).takeWhile Char.isDigit, (c :: rest).dropWhile Char.isDigit)
    else ([], cs)
  | _ => ([], cs)

/-- A time of the day, with seconds. -/
def timeOnly (cs : List Char) : Option (Time × List Char) := do
  let (hour, left) ← fixedDigits 2 cs
  let (minute, left) ← fixedDigits 2 (← expect ':' left)
  let (second, left) ← fixedDigits 2 (← expect ':' left)
  if hour < 24 ∧ minute < 60 ∧ second < 60 then
    let (fraction, left) := secondFraction left
    pure (⟨hour, minute, second, fraction⟩, left)
  else none

/-- An offset from universal time in minutes, if one stands here. -/
def offset (cs : List Char) : Option (Int × List Char) :=
  let hours (neg : Bool) (rest : List Char) : Option (Int × List Char) := do
    let (hour, left) ← fixedDigits 2 rest
    let (minute, left) ← fixedDigits 2 (← expect ':' left)
    let total : Int := hour * 60 + minute
    if hour < 24 ∧ minute < 60 then pure ((if neg then -total else total), left) else none
  match cs with
  | '+' :: rest => hours false rest
  | '-' :: rest => hours true rest
  | c :: rest => if c = 'Z' ∨ c = 'z' then some (0, rest) else none
  | [] => none

/-- A time after the mark that joins it to a date, with its offset. -/
def joinedTime (cs : List Char) : Option ((Time × Option Int) × List Char) :=
  match cs with
  | c :: rest =>
    if c = 'T' ∨ c = 't' ∨ c = ' ' then do
      let (t, left) ← timeOnly rest
      match offset left with
      | some (minutes, left) => pure ((t, some minutes), left)
      | none => pure ((t, none), left)
    else none
  | [] => none

/-- **Dates and times**. -/
def dateOrTime (cs : List Char) : Option (Value × List Char) :=
  match dateOnly cs with
  | some (d, left) =>
    match joinedTime left with
    | some ((t, minutes), left) => some (.dateTime d t minutes, left)
    | none => some (.date d, left)
  | none => (timeOnly cs).map fun (t, left) => (.time t, left)

/-! ## §4. Scalars -/

def boolean (cs : List Char) : Option (Value × List Char) :=
  match cs with
  | 't' :: 'r' :: 'u' :: 'e' :: left => some (.boolean true, left)
  | 'f' :: 'a' :: 'l' :: 's' :: 'e' :: left => some (.boolean false, left)
  | _ => none

/-- **Scalars**: booleans, dates and times, and numbers, in this order. -/
def scalar (most : Option Nat) (cs : List Char) : Except Fault (Value × List Char) :=
  match (boolean cs).orElse fun _ => dateOrTime cs with
  | some read => .ok read
  | none => number most cs

end Toml

end LineCalc
