/-
Settings — what a settings file may say.

A settings file is a TOML document with the sections `display`, `repl` and
`logging`, of which four keys are looked at.  The checks have a fixed
order, and the first that fails is reported; all other keys and sections
are ignored.

Where documents are read within limits, a text that passes one has no
settings, and it is not refused either.

## Main definitions

  * `Level` — the levels of the log.
  * `Settings` with its defaults.
  * `Settings.Problem` — the causes for which a file is refused.
  * `Settings.ofDocument` — the settings of a document.
  * `Settings.findIn`, `Settings.find` — the settings in force, in any
    surroundings and in the usual ones, limits left aside.
  * `Settings.load` — the settings in force within the limits.
-/

import LineCalc.Settings.Files
import LineCalc.Surroundings
import LineCalc.Text.Casing
import LineCalc.Text.Quoted
import LineCalc.Toml.Document

namespace LineCalc

/-! ## §1. Levels -/

/-- **Level** of the log. -/
inductive Level where
  | debug
  | info
  | warning
  | error
  | critical
  deriving DecidableEq, Inhabited

namespace Level

def all : List Level := [debug, info, warning, error, critical]

def name : Level → String
  | debug => "DEBUG"
  | info => "INFO"
  | warning => "WARNING"
  | error => "ERROR"
  | critical => "CRITICAL"

/-- The number of a level; records of lower levels are left out. -/
def rank : Level → Nat
  | debug => 10
  | info => 20
  | warning => 30
  | error => 40
  | critical => 50

def ofName? (name : String) : Option Level := all.find? fun level => level.name == name

theorem ofName?_name (level : Level) : ofName? level.name = some level := by
  cases level <;> decide

end Level

/-! ## §2. Settings -/

/-- **Settings** of the calculator. -/
structure Settings where
  /-- The number of significant digits of results. -/
  precision : Option Int
  /-- The prompt of a session. -/
  prompt : String
  /-- The least level of records that are logged. -/
  level : Level
  /-- The form of log lines. -/
  format : String
  /-- The file that the settings come from. -/
  source : Option String
  deriving DecidableEq, Inhabited

namespace Settings

def default : Settings :=
  ⟨none, "calc> ", .warning, "%(asctime)s [%(levelname)s] %(name)s: %(message)s", none⟩

/-- **Problem**: why a settings file is refused. -/
inductive Problem where
  | fileNotFound (path : String)
  | notToml (path mistake : String)
  | notTable (part : String)
  | wrongType (key expected actual : String)
  | precisionTooSmall (precision : Int)
  | unknownLevel (name : String)
  deriving DecidableEq, Inhabited

/-- The wording of a problem.  The detail of what is wrong with a text that is no document is the
parser's; it comes with the problem, and is left out in the usual surroundings. -/
def Problem.message : Problem → String
  | fileNotFound path => "Config file not found: " ++ path
  | notToml path mistake => "Invalid TOML in " ++ path ++ mistake
  | notTable name => "[" ++ name ++ "] must be a table"
  | wrongType key expected actual => key ++ " must be " ++ expected ++ ", got " ++ actual
  | precisionTooSmall precision =>
    "display.precision must be at least 1, got " ++ toString precision
  | unknownLevel name =>
    "logging.level must be one of " ++ ", ".intercalate (Level.all.map Level.name) ++ ", got " ++
      String.ofList (Text.quoted name.toList)

/-! ## §3. Checks -/

/-- The section of a document with a given name; a missing one is empty. -/
def sectionOf (document : Toml.Table) (name : String) : Except Problem Toml.Table :=
  match document.get? name with
  | none => .ok []
  | some (.table t) => .ok t
  | some _ => .error (.notTable name)

/-- The integer at a key of a section, if the key is there. -/
def integerAt (t : Toml.Table) (part key : String) : Except Problem (Option Int) :=
  match t.get? key with
  | none => .ok none
  | some (.integer n) => .ok (some n)
  | some v => .error (.wrongType (part ++ "." ++ key) "int" v.typeName)

/-- The string at a key of a section; `fallback` if the key is missing. -/
def stringAt (t : Toml.Table) (part key fallback : String) : Except Problem String :=
  match t.get? key with
  | none => .ok fallback
  | some (.string s) => .ok s
  | some v => .error (.wrongType (part ++ "." ++ key) "str" v.typeName)

/-- The precision that a section asks for. -/
def precisionOf (display : Toml.Table) : Except Problem (Option Int) := do
  match ← integerAt display "display" "precision" with
  | none => pure none
  | some n => if n < 1 then throw (.precisionTooSmall n) else pure (some n)

/-- The level that a section asks for, in any case of its letters. -/
def levelOf (logging : Toml.Table) : Except Problem Level := do
  let given ← stringAt logging "logging" "level" default.level.name
  let name := String.ofList (Text.upper given.toList)
  match Level.ofName? name with
  | some level => pure level
  | none => throw (.unknownLevel name)

/-- **The settings of a document** from the file `source`. -/
def ofDocument (source : String) (document : Toml.Table) : Except Problem Settings := do
  let display ← sectionOf document "display"
  let repl ← sectionOf document "repl"
  let logging ← sectionOf document "logging"
  let precision ← precisionOf display
  let level ← levelOf logging
  let prompt ← stringAt repl "repl" "prompt" default.prompt
  let format ← stringAt logging "logging" "format" default.format
  pure ⟨precision, prompt, level, format, some source⟩

/-! ## §4. Files -/

/-- **Obstacle**: why there are no settings. -/
inductive Obstacle where
  /-- The file is refused. -/
  | problem (problem : Problem)
  /-- The file is not a UTF-8 text. -/
  | notText
  /-- The file system refuses the path for its length. -/
  | nameTooLong
  deriving DecidableEq, Inhabited

/-- The settings of a file with the given bytes. -/
def ofBytes (mistake : String → String) (path : String) (bytes : ByteArray) :
    Except Obstacle Settings :=
  match String.fromUTF8? bytes with
  | none => .error .notText
  | some text =>
    match Toml.Document.parse? text with
    | none => .error (.problem (.notToml path (mistake text)))
    | some document => (ofDocument path document).mapError .problem

/-- The file of the settings if none is asked for, in the working directory. -/
def defaultPath : String := "calcolatrice.toml"

/-- The path of the file that is looked for. -/
def pathOf (config : Option String) : String :=
  match config with
  | some path => Path.plain path
  | none => defaultPath

/-- The path by which the file is named.  That of the default file is a full path, but in the usual
surroundings, whose working directory goes unnamed. -/
def sourceOf (folder : String) (config : Option String) : String :=
  match config with
  | some path => Path.plain path
  | none => folder ++ defaultPath

/-- **The settings in force**: those of the file that is asked for, or of the default file if
there is one, or the defaults.  Limits are left aside. -/
def findIn (around : Surroundings) (files : Files) (config : Option String) :
    Except Obstacle Settings :=
  match files (pathOf config) with
  | .file bytes => ofBytes around.mistake (sourceOf around.folder config) bytes
  | .nameTooLong => .error .nameTooLong
  | _ => if config.isSome then .error (.problem (.fileNotFound (pathOf config))) else .ok default

/-- The settings in force in the usual surroundings. -/
def find (files : Files) (config : Option String) : Except Obstacle Settings :=
  findIn .usual files config

/-! ## §5. Limits -/

/-- **Stop**: why there are no settings where documents are read within limits. -/
inductive Stop where
  | obstacle (obstacle : Obstacle)
  /-- The text of the file passes a limit. -/
  | limit (limit : Toml.Limit)
  deriving DecidableEq, Inhabited

/-- The limit that is passed by the text in the file at a path, if there is one. -/
def limitAt (limits : Toml.Limits) (files : Files) (path : String) : Option Toml.Limit :=
  match files path with
  | .file bytes => (String.fromUTF8? bytes).bind limits.passedBy
  | _ => none

/-- **Loading** the settings in force within the limits. -/
def load (around : Surroundings) (files : Files) (config : Option String) : Except Stop Settings :=
  match limitAt around.limits files (pathOf config) with
  | some limit => .error (.limit limit)
  | none => (findIn around files config).mapError .obstacle

end Settings

end LineCalc
