/-
Log — the records of an evaluation and their lines.

All records have the level `DEBUG`.  A line of the log is made from the
form given in the settings, in which `%(levelname)s`, `%(name)s` and
`%(message)s` stand for the parts of the record.  All other fields come with
the moment of the record.

## Main definitions

  * `Log.Record` with its `Log.Source`.
  * `Log.ofLine` — the records of evaluating a line.
  * `Log.ofSettings` — the record of settings that come from a file.
  * `Log.linesOf` — the lines of records.
-/

import LineCalc.Evaluation
import LineCalc.Log.Scene
import LineCalc.Settings.Basic

namespace LineCalc

namespace Log

/-! ## §1. Records -/

/-- **Source**: the part of the program that a record comes from. -/
inductive Source where
  | command
  | reader
  | evaluator
  deriving DecidableEq, Inhabited

/-- The name of a source in the log. -/
def Source.name : Source → String
  | command => "calcolatrice.cli"
  | reader => "calcolatrice.core.expression_lang.parser"
  | evaluator => "calcolatrice.core.expression_lang.evaluator"

/-- **Record** of level `DEBUG`. -/
structure Record where
  source : Source
  message : String
  deriving DecidableEq, Inhabited

def shown (s : String) : String := String.ofList (Text.quoted s.toList)

/-- **The records of evaluating a line**: one for a line of no form, one for an expression, and one
more if the expression has no value. -/
def ofLine (line : String) : List Record :=
  match Line.read line with
  | .ok expr =>
    let start : Record := ⟨.evaluator, "Evaluating " ++ expr.shape.tag ++ ": " ++ expr.text⟩
    match expr.value with
    | .error (.failure f) =>
      [start, ⟨.evaluator, "Evaluation of " ++ shown line ++ " failed: " ++ f.kind.tag⟩]
    | _ => [start]
  | .error f =>
    if f.kind = .invalidFormat then
      let count := (Line.words line).length
      [⟨.reader, "Rejecting " ++ toString count ++ "-token expression " ++ shown line⟩]
    else []

/-- The record of settings that come from a file. -/
def ofSettings (settings : Settings) : List Record :=
  match settings.source with
  | some path => [⟨.command, "Loaded settings from " ++ path⟩]
  | none => []

/-! ## §2. Lines -/

/-- The field of a record with a given name. -/
def Record.field? (record : Record) (moment : Moment) (name : String) : Option Form.Field :=
  if name = "levelname" then some (.text Level.debug.name)
  else if name = "name" then some (.text record.source.name)
  else if name = "message" then some (.text record.message)
  else moment.field? name

/-- **The line of a record** in a form, or what is written if the form cannot be filled. -/
def lineOf (format : String) (moment : Moment) (record : Record) : String :=
  (Form.line? format (record.field? moment) (.datum moment.whole)).getD moment.trouble

/-- The lines of the records of a step, one after another. -/
def linesOf (format : String) (moments : Nat → Moment) : List Record → String
  | [] => ""
  | record :: more =>
    lineOf format (moments 0) record ++ linesOf format (fun k => moments (k + 1)) more

end Log

end LineCalc
