/-
Lossless — the JSON text of an outcome loses nothing.

The text is an object of five members in a fixed order, on one line.  Read
as JSON it gives back the five fields of the outcome: any characters of its
strings, every finite double bit for bit, and those that are not finite by
their names.  A missing field is `null`, which is no string and no number,
so outcomes that differ have different texts.

## Main definitions

  * `Json.ofOptional`, `Json.ofDouble`, `Outcome.members` — the values that
    the text of an outcome denotes.
  * `Outcome.ofJson?` — the outcome of a JSON value, by the names of its
    members.

## Main statements

  * `Json.denotes_object` — the text of an object denotes its members.
  * `Outcome.denotes_json` — the text of an outcome denotes its members.
  * `Outcome.json_lossless` — it is one line of JSON, and is read back.
-/

import LineCalc.Outcome.Json
import LineCalc.Proofs.Json.Reading

namespace LineCalc

namespace Json

/-! ## §1. Texts and what they denote -/

variable {α : Type}

/-- An optional value; a missing one is `null`. -/
def ofOptional (value : α → Value) : Option α → Value
  | some a => value a
  | none => .null

/-- A double; one that is not finite is named by a string. -/
def ofDouble : Double → Value
  | .nan => .string "NaN"
  | .infinity neg => .string (if neg then "-Infinity" else "Infinity")
  | .finite neg units fits => .number (.finite neg units fits)

theorem denotes_string (s : String) : Denotes (string s) (.string s) := by
  have denotes := Denotes.string (spells_escape s.toList)
  rwa [String.ofList_toList] at denotes

theorem number_of_isFinite {x : Double} (finite : x.isFinite = true) :
    number x = x.render layout Double.shortest := by
  unfold number
  rw [if_pos finite]

theorem denotes_number (x : Double) : Denotes (number x) (ofDouble x) := by
  cases x with
  | nan => exact denotes_string "NaN"
  | infinity neg =>
    cases neg with
    | false => exact denotes_string "Infinity"
    | true => exact denotes_string "-Infinity"
  | finite neg units fits =>
    have value := Double.parse?_render layout (Double.ofDecimal_shortest fits neg)
    -- The numeral is the shortest text of the double, which reads back.
    rw [number_of_isFinite rfl]
    exact .number (isNumeral_render rfl) value

theorem denotes_optional {write : α → List Char} {value : α → Value}
    (denotes : ∀ a, Denotes (write a) (value a)) (a : Option α) :
    Denotes (optional write a) (ofOptional value a) := by
  cases a with
  | none => exact .word (List.mem_cons_self ..)
  | some a => exact denotes a

/-- The entry of a member that is written without spaces. -/
def bareEntry (name : String) (text : List Char) (v : Value) : Entry :=
  ⟨[], name.toList.flatMap escape, name.toList, [], [], text, [], v⟩

theorem framed_bareEntry (name : String) (text : List Char) (v : Value) :
    (bareEntry name text v).cell.framed = member name text := by
  simp [bareEntry, Entry.cell, Cell.framed, member, string]

theorem formed_bareEntry (name : String) (text : List Char) (v : Value) :
    (bareEntry name text v).Formed :=
  ⟨spells_escape _, ⟨nofun, nofun⟩, nofun, nofun⟩

/-- **The text of an object denotes its members**, in their order. -/
theorem denotes_object {written : List (String × List Char × Value)} (nonempty : written ≠ [])
    (denotes : ∀ part ∈ written, Denotes part.2.1 part.2.2) :
    Denotes (object (written.map fun part => member part.1 part.2.1))
      (.object (written.map fun part => (part.1, part.2.2))) := by
  let entries := written.map fun part => bareEntry part.1 part.2.1 part.2.2
  have text : (entries.map Entry.cell).map Cell.framed =
      written.map fun part => member part.1 part.2.1 := by
    simp [entries, Function.comp_def, framed_bareEntry]
  have members : (entries.map Entry.cell).map Cell.value =
      written.map fun part => (part.1, part.2.2) := by
    simp [entries, Function.comp_def, bareEntry, Entry.cell]
  have whole : Denotes ('{' :: (rowText (entries.map Entry.cell) ++ ['}']))
      (.object ((entries.map Entry.cell).map Cell.value)) := by
    refine .members (by simpa [entries] using nonempty) ?_ ?_
    · intro entry member
      obtain ⟨part, -, rfl⟩ := List.mem_map.1 member
      exact formed_bareEntry _ _ _
    · intro entry member
      obtain ⟨part, among, rfl⟩ := List.mem_map.1 member
      exact denotes part among
  rwa [rowText, text, members] at whole

/-! ## §2. One line -/

theorem visible_string (s : String) : Visible (string s) := by
  have inside : Visible (s.toList.flatMap escape) := by
    intro c member
    obtain ⟨d, -, escaped⟩ := List.mem_flatMap.1 member
    exact visible_escape d c escaped
  exact List.forall_mem_cons.2 ⟨by decide, visible_append inside (by decide)⟩

theorem visible_of_isNumeral {cs : List Char} (numeral : IsNumeral cs) : Visible cs := by
  intro c member
  have char := numeral.chars c member
  simp only [isNumeralChar, Bool.or_eq_true, List.contains_iff_mem] at char
  rcases char with digit | mark
  · have bounds := Char.isDigit_iff_toNat.1 digit
    exact Nat.le_trans (by decide) bounds.1
  · have all : Visible ['-', '+', '.', 'e', 'E'] := by decide
    exact all c mark

theorem visible_number (x : Double) : Visible (number x) := by
  cases x with
  | nan => exact visible_string "NaN"
  | infinity neg =>
    cases neg with
    | false => exact visible_string "Infinity"
    | true => exact visible_string "-Infinity"
  | finite neg units fits =>
    rw [number_of_isFinite rfl]
    exact visible_of_isNumeral (isNumeral_render rfl)

/-- The text of an optional value has no control character if no value's has one. -/
theorem visible_optional {write : α → List Char} (visible : ∀ a, Visible (write a))
    (a : Option α) : Visible (optional write a) := by
  cases a with
  | none =>
    have null : Visible ['n', 'u', 'l', 'l'] := by decide
    exact null
  | some a => exact visible a

/-- The text of a member has no control character if that of its value has none. -/
theorem visible_member (name : String) {text : List Char} (visible : Visible text) :
    Visible (member name text) :=
  visible_append (visible_string name) (List.forall_mem_cons.2 ⟨by decide, visible⟩)

/-- The text of an object has no control character if those of its members have none. -/
theorem visible_object {members : List (List Char)} (visible : ∀ text ∈ members, Visible text) :
    Visible (object members) := by
  have inside : Visible (members.intersperse [',']).flatten := by
    induction members with
    | nil => exact nofun
    | cons text more ih =>
      obtain ⟨first, others⟩ := List.forall_mem_cons.1 visible
      cases more with
      | nil => simpa using first
      | cons next more =>
        rw [List.intersperse_cons_cons, List.flatten_cons, List.flatten_cons]
        exact visible_append first (visible_append (by decide) (ih others))
  exact List.forall_mem_cons.2 ⟨by decide, visible_append inside (by decide)⟩

end Json

/-! ## §3. Outcomes -/

namespace Json.Value

variable {α : Type}

def string? : Value → Option String
  | .string s => some s
  | _ => none

/-- The double that a value stands for: a number, or one that is not finite by its name. -/
def double? : Value → Option Double
  | .number x => some x
  | .string s =>
    if s = "Infinity" then some (.infinity false)
    else if s = "-Infinity" then some (.infinity true)
    else if s = "NaN" then some .nan
    else none
  | _ => none

def kind? (v : Value) : Option Failure.Kind := v.string?.bind Failure.Kind.ofTag?

def optional? (read : Value → Option α) : Value → Option (Option α)
  | .null => some none
  | v => (read v).map some

theorem double?_ofDouble (x : Double) : double? (ofDouble x) = some x := by
  cases x with
  | nan => decide
  | infinity neg => cases neg <;> decide
  | finite neg units fits => rfl

theorem kind?_tag (kind : Failure.Kind) : kind? (.string kind.tag) = some kind :=
  Failure.Kind.ofTag?_tag kind

/-- An optional value is read back, unless `null` stands for a value. -/
theorem optional?_ofOptional {read : Value → Option α} {value : α → Value}
    (reads : ∀ a, read (value a) = some a) (null : read .null = none) (a : Option α) :
    optional? read (ofOptional value a) = some a := by
  cases a with
  | none => rfl
  | some a =>
    have found := reads a
    show optional? read (value a) = some (some a)
    -- The text of a value is not null, since null is not read as a value.
    unfold optional?
    split
    · next same =>
      rw [same, null] at found
      exact nomatch found
    · rw [found, Option.map_some]

end Json.Value

namespace Outcome

open Json

/-- **The members** that the text of an outcome denotes. -/
def members (outcome : Outcome) : List (String × Value) :=
  [("expression", .string outcome.expression),
    ("value", ofOptional ofDouble outcome.value),
    ("error", ofOptional (fun kind => .string kind.tag) outcome.error),
    ("message", ofOptional .string outcome.message),
    ("token", ofOptional .string outcome.token)]

/-- **The outcome of a JSON value**, by the names of its members. -/
def ofJson? : Value → Option Outcome
  | .object members => do
    let expression ← (← members.lookup "expression").string?
    let value ← (← members.lookup "value").optional? Value.double?
    let error ← (← members.lookup "error").optional? Value.kind?
    let message ← (← members.lookup "message").optional? Value.string?
    let token ← (← members.lookup "token").optional? Value.string?
    pure ⟨expression, value, error, message, token⟩
  | _ => none

/-- **The text of an outcome denotes its members**. -/
theorem denotes_json (outcome : Outcome) :
    Denotes outcome.json.toList (.object outcome.members) := by
  let written : List (String × List Char × Value) :=
    [("expression", Json.string outcome.expression, .string outcome.expression),
      ("value", optional number outcome.value, ofOptional ofDouble outcome.value),
      ("error", optional (fun kind => Json.string kind.tag) outcome.error,
        ofOptional (fun kind => .string kind.tag) outcome.error),
      ("message", optional Json.string outcome.message, ofOptional .string outcome.message),
      ("token", optional Json.string outcome.token, ofOptional .string outcome.token)]
  have denotes : ∀ part ∈ written, Denotes part.2.1 part.2.2 := by
    have value := denotes_optional denotes_number outcome.value
    have error := denotes_optional (fun kind : Failure.Kind => denotes_string kind.tag) outcome.error
    have text := denotes_optional denotes_string
    simp only [written, List.forall_mem_cons, List.not_mem_nil, false_imp_iff, implies_true,
      and_true]
    exact ⟨denotes_string _, value, error, text _, text _⟩
  have whole := denotes_object (List.cons_ne_nil _ _) denotes
  simp only [List.map_cons, List.map_nil] at whole
  unfold json members
  rw [String.toList_ofList]
  exact whole

theorem ofJson?_members (outcome : Outcome) : ofJson? (.object outcome.members) = some outcome := by
  have value := Value.optional?_ofOptional Value.double?_ofDouble rfl outcome.value
  have error := Value.optional?_ofOptional Value.kind?_tag rfl outcome.error
  have text : ∀ s, Value.optional? Value.string? (ofOptional .string s) = some s :=
    Value.optional?_ofOptional (fun _ => rfl) rfl
  simp [ofJson?, members, List.lookup_cons, Value.string?, value, error, text]

theorem visible_json (outcome : Outcome) : Visible outcome.json.toList := by
  have value := visible_member "value" (visible_optional visible_number outcome.value)
  have error := visible_member "error"
    (visible_optional (fun kind : Failure.Kind => visible_string kind.tag) outcome.error)
  have text := visible_optional visible_string
  unfold json
  rw [String.toList_ofList]
  apply visible_object
  simp only [List.forall_mem_cons, List.not_mem_nil, false_imp_iff, implies_true, and_true]
  exact ⟨visible_member _ (visible_string _), value, error, visible_member _ (text _),
    visible_member _ (text _)⟩

theorem parse?_json (outcome : Outcome) :
    parse? outcome.json = some (.object outcome.members) :=
  parse?_eq_some_iff.2 ⟨[], _, [], by simp, nofun, nofun, outcome.denotes_json⟩

/-- **The JSON text of an outcome loses nothing**.  It is in the grammar as an object whose members
are the five fields in their order, it has no control character, reading it gives the outcome back,
and no other outcome has the same text. -/
theorem json_lossless (outcome : Outcome) :
    (∃ members, Denotes outcome.json.toList (.object members) ∧
      members.map Prod.fst = ["expression", "value", "error", "message", "token"]) ∧
      (∀ c ∈ outcome.json.toList, 0x20 ≤ c.toNat) ∧
      (parse? outcome.json).bind ofJson? = some outcome ∧
      ∀ other : Outcome, other.json = outcome.json → other = outcome := by
  have read : ∀ outcome : Outcome, (parse? outcome.json).bind ofJson? = some outcome := by
    intro outcome
    rw [parse?_json, Option.bind_some, ofJson?_members]
  refine ⟨⟨outcome.members, outcome.denotes_json, rfl⟩, outcome.visible_json, read outcome, ?_⟩
  intro other same
  -- Both are what the one text is read as.
  have here := read outcome
  rw [← same, read other] at here
  exact Option.some.inj here

end Outcome

end LineCalc
