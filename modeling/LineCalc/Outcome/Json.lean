/-
Json — outcomes as one line of JSON.

The five fields stand in a fixed order without spaces.  Strings escape the
quotation mark, the backslash and the control characters below the space,
and show all others as they are.  Numbers that are not finite are written
as strings, since JSON has no numerals for them.

## Main definitions

  * `Json.string`, `Json.number` — the JSON texts of strings and doubles.
  * `Outcome.json` — the JSON text of an outcome.
-/

import LineCalc.Outcome.Basic

namespace LineCalc

namespace Json

/-! ## §1. Strings -/

/-- A hexadecimal digit, in lower case. -/
def hexDigit (n : Nat) : Char := Nat.digitChar (n % 16)

/-- A character inside a JSON string. -/
def escape (c : Char) : List Char :=
  if c = '"' then ['\\', '"']
  else if c = '\\' then ['\\', '\\']
  else if c = '\x08' then ['\\', 'b']
  else if c = '\t' then ['\\', 't']
  else if c = '\n' then ['\\', 'n']
  else if c = '\x0c' then ['\\', 'f']
  else if c = '\r' then ['\\', 'r']
  else if c.toNat < 0x20 then
    ['\\', 'u', '0', '0', hexDigit (c.toNat / 16), hexDigit c.toNat]
  else [c]

/-- **The JSON text of a string**. -/
def string (s : String) : List Char := '"' :: s.toList.flatMap escape ++ ['"']

/-! ## §2. Numbers -/

/-- The layout of JSON numerals: the point in place from a hundred-thousandth up to, but not
including, `10 ^ 16`, and exponents without leading zeros. -/
def layout : Layout := ⟨-5, 16, true, 1, "Infinity", "NaN"⟩

/-- **The JSON text of a double**: a numeral, or a string if it is not finite. -/
def number (x : Double) : List Char :=
  let text := x.render layout Double.shortest
  if x.isFinite then text else '"' :: text ++ ['"']

/-! ## §3. Members -/

/-- The text of an optional value. -/
def optional (write : α → List Char) : Option α → List Char
  | some a => write a
  | none => ['n', 'u', 'l', 'l']

def member (name : String) (value : List Char) : List Char := string name ++ ':' :: value

/-- An object with the given members. -/
def object (members : List (List Char)) : List Char :=
  '{' :: (members.intersperse [',']).flatten ++ ['}']

end Json

/-- **The JSON text of an outcome**. -/
def Outcome.json (outcome : Outcome) : String :=
  String.ofList <| Json.object [
    Json.member "expression" (Json.string outcome.expression),
    Json.member "value" (Json.optional Json.number outcome.value),
    Json.member "error" (Json.optional (fun kind => Json.string kind.tag) outcome.error),
    Json.member "message" (Json.optional Json.string outcome.message),
    Json.member "token" (Json.optional Json.string outcome.token)]

end LineCalc
