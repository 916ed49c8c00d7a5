/-
Session — evaluating lines one after another.

A session greets, and then for each line prompts, reads and answers, until
a line says `exit` or `quit` or the input ends.  Blank lines are passed
over.  No line changes how another is answered.

## Main definitions

  * `Session.respond` — the answer to one line, and whether the session
    goes on.
  * `Session.transcript` — the answers to a sequence of lines.
  * `Session.run` — a whole session on an input text.
-/

import LineCalc.Display
import LineCalc.Log
import LineCalc.Output
import LineCalc.Text.Lines

namespace LineCalc

/-- **Session**: the settings in force, whether records are logged, the console, and the scene from
the next line on. -/
structure Session where
  settings : Settings
  logs : Bool
  console : Screen.Console
  scene : Log.Scene
  deriving Inhabited

namespace Session

/-- The session after a line: nothing is different but the time. -/
def next (session : Session) : Session := { session with scene := session.scene.next }

/-- **Next**: how a session goes on after a line. -/
inductive Next where
  | goOn
  | stop
  /-- The result cannot be shown. -/
  | refuse (refusal : Display.Refusal)
  deriving DecidableEq, Inhabited

/-! ## §1. One line -/

/-- The words that end a session, in any case of their letters. -/
def exitWords : List String := ["exit", "quit"]

def greeting : String := "Enter an expression, or 'exit' to quit."

/-- The line of the greeting. -/
def banner : String := greeting ++ "\n"

/-- The line of the greeting as it is shown on a console. -/
def bannerOn (console : Screen.Console) : String := console.plain greeting ++ "\n"

def promptText (session : Session) : String := session.console.plain session.settings.prompt

/-- The log of evaluating a line. -/
def logOf (session : Session) (line : String) : String :=
  if session.logs then
    Log.linesOf session.settings.format (session.scene 0) (Log.ofLine line)
  else ""

/-- The answer to a line that is neither blank nor an exit word. -/
def answer (session : Session) (line : String) : Output × Next :=
  let log := Output.err (session.logOf line)
  match evaluate (some line) with
  | .ok x =>
    match Display.text session.settings.precision x with
    | .ok shown => (log ++ Output.out (session.console.plain shown ++ "\n"), .goOn)
    | .error refusal => (log, .refuse refusal)
  | .error fault => (log ++ Output.out (session.console.fault fault.message ++ "\n"), .goOn)

/-- **The answer to a line**, and how the session goes on. -/
def respond (session : Session) (line : String) : Output × Next :=
  let trimmed := Text.trim line.toList
  -- Blank lines are neither logged nor answered.
  if trimmed.isEmpty then (.empty, .goOn)
  else if exitWords.contains (String.ofList (Text.lower trimmed)) then (.empty, .stop)
  else session.answer (String.ofList trimmed)

/-! ## §2. Many lines -/

/-- The output of a session on a sequence of lines, and the refusal that ended it if one did. -/
def transcript (session : Session) : List String → Output × Option Display.Refusal
  | [] => (.out (session.promptText ++ "\n"), none)
  | line :: rest =>
    let (reply, next) := session.respond line
    let shown := Output.out session.promptText ++ reply
    match next with
    | .goOn =>
      let (more, refusal) := transcript session.next rest
      (shown ++ more, refusal)
    | .stop => (shown, none)
    | .refuse refusal => (shown, some refusal)

/-- **A whole session**. -/
def run (session : Session) (input : String) : Output × Option Display.Refusal :=
  let (output, refusal) := session.transcript (Text.lines input)
  (.out (bannerOn session.console) ++ output, refusal)

end Session

end LineCalc
