/-
Main — the program.

The outer layer reads the settings file that a run looks for, hands over to
`Command.start`, and writes what comes back.  A session is held line by
line, so that prompts appear before their lines are typed.  The outer layer
does not look at the clock: its surroundings are the usual ones.
-/

import LineCalc.Command.Run

namespace LineCalc

namespace Main

/-- What a path names; anything that cannot be read as a file counts as absent. -/
def entryAt (path : String) : IO Entry := do
  try
    return .file (← IO.FS.readBinFile path)
  catch _ =>
    return .absent

/-- Writing an output to both streams. -/
def write (output : Output) : IO Unit := do
  let stdout ← IO.getStdout
  stdout.putStr output.stdout
  stdout.flush
  let stderr ← IO.getStderr
  stderr.putStr output.stderr
  stderr.flush

/-- Writing the end of a run; the result is its exit code. -/
def close (response : Command.Response) : IO UInt32 := do
  match response with
  | .done exit output =>
    write output
    return exit.toUInt32
  | .usage exit =>
    write (.err "Usage: calcolatrice [--config FILE] [--verbose] [--version] eval|repl|functions\n")
    return exit.toUInt32
  | .crashed output crash =>
    write (output ++ .err (crash.message ++ "\n"))
    return 1

/-- A session, one line at a time; some lines may be waiting already. -/
partial def converse (session : Session) (waiting : List String) : IO UInt32 := do
  write (.out session.promptText)
  let waiting ←
    if waiting.isEmpty then
      pure (Text.lines (← (← IO.getStdin).getLine))
    else pure waiting
  match waiting with
  | [] =>
    write (.out "\n")
    return 0
  | line :: waiting =>
    let (reply, next) := session.respond line
    match next with
    | .goOn =>
      write reply
      converse session.next waiting
    | .stop => close (.done 0 reply)
    | .refuse refusal => close (.crashed reply (.precision refusal))

end Main

end LineCalc

open LineCalc in
def main (args : List String) : IO UInt32 := do
  let path := Command.settingsPath args
  let entry ← Main.entryAt path
  let files : Files := fun asked => if asked = path then entry else .absent
  match Command.start .usual files args with
  | .over response => Main.close response
  | .session opening session =>
    Main.write (opening ++ .out (Session.bannerOn session.console))
    Main.converse session []
