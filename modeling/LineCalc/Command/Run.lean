/-
Run — what the program does with its arguments.

The options of the program are read first; a request for the version or
for help is answered at once.  Then the command has to be known, the
settings are loaded, and only then the command's own options are read.
Results go to the standard stream, log lines and reports to the other.

## Main definitions

  * `Command.Response` — how a run ends.
  * `Command.start` — a run up to its end, or up to the start of a session.
  * `Command.runIn`, `Command.run` — a whole run, in any surroundings and in
    the usual ones.

## Main statements

  * `Command.runEval_output` — plain evaluation shows the value of the
    words joined by blanks.
-/

import LineCalc.Catalogue
import LineCalc.Command.Options
import LineCalc.Outcome.Json
import LineCalc.Session

namespace LineCalc

namespace Command

/-! ## §1. Ends of a run -/

/-- **Crash**: a cause that ends a run early, other than those that are reported. -/
inductive Crash where
  /-- The settings file is not a UTF-8 text. -/
  | notText
  /-- The path of the settings file is too long for the file system. -/
  | nameTooLong
  /-- The settings file passes a limit of whoever reads it. -/
  | limit (limit : Toml.Limit)
  /-- The form of log lines has no placeholder. -/
  | logForm (format : String)
  /-- The precision of results cannot be used. -/
  | precision (refusal : Display.Refusal)
  /-- An expression was evaluated outside the domain of a function. -/
  | domain
  deriving DecidableEq, Inhabited

def Crash.message : Crash → String
  | notText => "settings file is not UTF-8"
  | nameTooLong => "File name too long"
  | limit .digits => "Exceeds the limit for integer string conversion"
  | limit .depth => "maximum recursion depth exceeded"
  | logForm format => "Invalid format '" ++ format ++ "' for '%' style"
  | precision refusal => refusal.message
  | domain => Fault.domain.message

/-- **Response**: how a run ends. -/
inductive Response where
  /-- The run ends with an exit code. -/
  | done (exit : Nat) (output : Output)
  /-- A screen of help or usage is shown. -/
  | usage (exit : Nat)
  /-- The run ends early, after some output. -/
  | crashed (output : Output) (crash : Crash)
  deriving DecidableEq, Inhabited

/-- **Start** of a run: it is over at once, or a session begins after some output. -/
inductive Start where
  | over (response : Response)
  | session (opening : Output) (session : Session)
  deriving Inhabited

/-- The output of an end after what was written before. -/
def Response.after (opening : Output) : Response → Response
  | done exit output => done exit (opening ++ output)
  | usage exit => usage exit
  | crashed output crash => crashed (opening ++ output) crash

/-- A report on the stream for errors. -/
def report (text : String) : Output := .err (Screen.withoutStyles text ++ "\n")

/-! ## §2. Requests -/

def version : String := "0.3.0"

/-- The line that names the platform, its number left open. -/
def platformLine : String := "Python <version>"

/-- The lines that show the version. -/
def versionText : String := "calcolatrice " ++ version ++ "\n" ++ platformLine ++ "\n"

def wrongUse : Nat := 2

def answerRequest : Request → Response
  | .version => .done 0 (.out versionText)
  | .help => .usage 0

/-! ## §3. Commands -/

/-- The answer to an expression as JSON. -/
def runJson (session : Session) (line : String) : Response :=
  let log := Output.err (session.logOf line)
  match Outcome.ofLine (some line) with
  | .ok outcome => .done (if outcome.ok then 0 else 1) (log ++ .out (outcome.json ++ "\n"))
  | .error _ => .crashed log .domain

def runEval (session : Session) (line : String) : Response :=
  let log := Output.err (session.logOf line)
  match evaluate (some line) with
  | .ok x =>
    match Display.text session.settings.precision x with
    | .ok shown => .done 0 (log ++ .out (shown ++ "\n"))
    | .error refusal => .crashed log (.precision refusal)
  | .error (.failure f) => .done 1 (log ++ report ("Error: " ++ f.describe))
  | .error .domain => .crashed log .domain

theorem runEval_output {session : Session} {line shown : String} {x : Double}
    (quiet : session.logs = false) (h : evaluate (some line) = .ok x)
    (hs : Display.text session.settings.precision x = .ok shown) :
    runEval session line = .done 0 (.out (shown ++ "\n")) := by
  simp [runEval, h, hs, Session.logOf, quiet, Output.append_def, Output.err, Output.out]

def startEval (session : Session) (args : List String) : Response :=
  match readEval args with
  | none => .usage wrongUse
  | some options =>
    if options.help then .usage 0
    else
      let line := " ".intercalate options.words
      if options.json then runJson session line else runEval session line

/-- A command that takes no words. -/
def startBare (args : List String) (go : Start) : Start :=
  match readBare args with
  | none => .over (.usage wrongUse)
  | some (help, words) =>
    if help then .over (.usage 0)
    else if words.isEmpty then go
    else .over (.usage wrongUse)

/-- **Name** of a command. -/
inductive Name where
  | eval
  | repl
  | functions
  deriving DecidableEq, Inhabited

/-- The command with a given name. -/
def Name.of? (name : String) : Option Name :=
  if name = "eval" then some eval
  else if name = "repl" then some repl
  else if name = "functions" then some functions
  else none

/-- A command under the settings in force, after the output so far. -/
def startCommand (opening : Output) (session : Session) (name : Name) (args : List String) :
    Start :=
  match name with
  | .eval => .over ((startEval session args).after opening)
  | .repl => startBare args (.session opening session)
  | .functions => startBare args (.over (.done 0 (opening ++ .out Catalogue.text)))

/-! ## §4. The program -/

/-- The answer to a name that is no command.  After two dashes an option may stand in the place of
the name; it is then read as an option of the program. -/
def unknownCommand (args : List String) : Response :=
  match readGlobals args with
  | some (g, _) =>
    match g.request with
    | some request => answerRequest request
    | none => .usage wrongUse
  | none => .usage wrongUse

/-- The session of a command under some settings. -/
def sessionOf (around : Surroundings) (settings : Settings) (verbose : Bool) : Session where
  settings := settings
  logs := verbose || settings.level = .debug
  console := around.console
  scene := around.scene.next

def openingOf (around : Surroundings) (session : Session) : Output :=
  if session.logs then
    .err (Log.linesOf session.settings.format (around.scene 0) (Log.ofSettings session.settings))
  else .empty

/-- A command with the settings loaded. -/
def startLoaded (around : Surroundings) (settings : Settings) (verbose : Bool) (name : Name)
    (args : List String) : Start :=
  if Log.Form.isUsable settings.format then
    let session := sessionOf around settings verbose
    startCommand (openingOf around session) session name args
  else .over (.crashed .empty (.logForm settings.format))

def stopped : Settings.Stop → Response
  | .obstacle (.problem problem) => .done 2 (report ("Config error: " ++ problem.message))
  | .obstacle .notText => .crashed .empty .notText
  | .obstacle .nameTooLong => .crashed .empty .nameTooLong
  | .limit limit => .crashed .empty (.limit limit)

/-- A run whose options are read and ask for nothing, on the arguments from the command's name
on. -/
def startNamed (around : Surroundings) (files : Files) (g : Globals) : List String → Start
  | [] => .over (.usage wrongUse)
  | word :: args =>
    -- An unknown command is reported before the settings are looked at.
    match Name.of? word with
    | none => .over (unknownCommand (word :: args))
    | some name =>
      match Settings.load around files g.config with
      | .ok settings => startLoaded around settings g.verbose name args
      | .error stop => .over (stopped stop)

/-- **The start of a run**. -/
def start (around : Surroundings) (files : Files) (args : List String) : Start :=
  match readGlobals args with
  | none => .over (.usage wrongUse)
  | some (g, rest) =>
    match g.request with
    | some request => .over (answerRequest request)
    | none =>
      -- No argument can hold the path of a file with a NUL character.
      if g.config.any Path.holdsNul then .over (.usage wrongUse)
      else startNamed around files g rest

/-- The end of a session on an input. -/
def finish (opening : Output) (session : Session) (input : String) : Response :=
  match session.run input with
  | (output, none) => .done 0 (opening ++ output)
  | (output, some refusal) => .crashed (opening ++ output) (.precision refusal)

/-- The response to the start of a run. -/
def Start.respond (input : String) : Start → Response
  | .over response => response
  | .session opening held => finish opening held input

/-- **A whole run** on an input. -/
def runIn (around : Surroundings) (files : Files) (args : List String) (input : String) :
    Response :=
  (start around files args).respond input

/-- A whole run in the usual surroundings. -/
def run (files : Files) (args : List String) (input : String) : Response :=
  runIn .usual files args input

/-- The path of the settings file that a run looks for. -/
def settingsPath (args : List String) : String :=
  Settings.pathOf ((readGlobals args).bind fun (g, _) => g.config)

end Command

end LineCalc
