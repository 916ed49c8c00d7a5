/-
Tasks — what a command is asked to do.

Behind the name of a command its own arguments give it a task, or they are
answered by a screen of usage or help.  A task is performed under the
settings found, after the log of finding them.

## Main definitions

  * `Command.Task`, `Command.Name.task?` — what a command is asked to do.
  * `Command.Task.perform` — the response to a task.
  * `Command.Asks` — arguments that ask for a task.

## Main statements

  * `Command.startCommand_of_task`, `Command.startCommand_of_no_task` — a
    command with a task, and one without.
  * `Command.Asks.run_eq` — a run that is asked for a task performs it.
-/

import LineCalc.Proofs.Command.FrontEnds

namespace LineCalc

namespace Command

/-! ## §1. Tasks -/

/-- **Task**: what a command is asked to do. -/
inductive Task where
  | eval (json : Bool) (words : List String)
  | repl
  | functions
  deriving DecidableEq, Inhabited

/-- A task that takes no words, if there are none. -/
def bareTask? (task : Task) (args : List String) : Option Task :=
  if readBare args = some (false, []) then some task else none

/-- **The task of a command** by the arguments behind its name, if they are accepted and do not ask
for help. -/
def Name.task? (name : Name) (args : List String) : Option Task :=
  match name with
  | .eval =>
    match readEval args with
    | some ⟨json, false, words⟩ => some (.eval json words)
    | _ => none
  | .repl => bareTask? .repl args
  | .functions => bareTask? .functions args

/-- The response to a task under settings that can be used, after the output so far. -/
def Task.perform (opening : Output) (session : Session) (input : String) : Task → Response
  | .eval true words => (runJson session (lineOf words)).after opening
  | .eval false words => (runEval session (lineOf words)).after opening
  | .repl => finish opening session input
  | .functions => .done 0 (opening ++ .out Catalogue.text)

theorem startBare_of_bareTask {task asked : Task} {args : List String}
    (bare : bareTask? task args = some asked) (go : Start) :
    startBare args go = go ∧ asked = task := by
  unfold bareTask? at bare
  split at bare
  · next read =>
    refine ⟨?_, (Option.some.inj bare).symm⟩
    simp [startBare, read]
  · cases bare

/-- **A command performs its task**. -/
theorem startCommand_of_task {name : Name} {args : List String} {task : Task}
    (asked : name.task? args = some task) (opening : Output) (session : Session)
    (input : String) :
    (startCommand opening session name args).respond input =
      task.perform opening session input := by
  cases name with
  | eval =>
    unfold Name.task? at asked
    dsimp only at asked
    split at asked
    · next json words read =>
      obtain rfl := Option.some.inj asked
      show (startEval session args).after opening = _
      cases json <;> simp [startEval, read, Task.perform, lineOf]
    · cases asked
  | repl =>
    obtain ⟨started, rfl⟩ := startBare_of_bareTask asked (.session opening session)
    exact congrArg (Start.respond input) started
  | functions =>
    obtain ⟨started, rfl⟩ :=
      startBare_of_bareTask asked (.over (.done 0 (opening ++ .out Catalogue.text)))
    exact congrArg (Start.respond input) started

/-- **Arguments that give no task** are answered by a screen of usage or help, the same under all
settings. -/
theorem startCommand_of_no_task {name : Name} {args : List String}
    (unasked : name.task? args = none) :
    ∃ code, ∀ opening session, startCommand opening session name args = .over (.usage code) := by
  -- Why there is no task depends on the arguments alone, and so does the screen that answers them.
  have bare : ∀ task, bareTask? task args = none →
      ∃ code, ∀ go, startBare args go = .over (.usage code) := by
    intro task other
    unfold bareTask? at other
    unfold startBare
    cases read : readBare args with
    | none => exact ⟨_, fun _ => rfl⟩
    | some result =>
      obtain ⟨help, words⟩ := result
      cases help with
      | true => exact ⟨_, fun _ => rfl⟩
      | false =>
        cases words with
        | nil => simp [read] at other
        | cons word words => exact ⟨_, fun _ => rfl⟩
  cases name with
  | eval =>
    have answer : ∃ code, ∀ session, startEval session args = .usage code := by
      unfold startEval
      cases read : readEval args with
      | none => exact ⟨_, fun _ => rfl⟩
      | some options =>
        obtain ⟨json, help, words⟩ := options
        cases help with
        | true => exact ⟨_, fun _ => rfl⟩
        | false => simp [Name.task?, read] at unasked
    obtain ⟨code, answered⟩ := answer
    refine ⟨code, fun opening session => ?_⟩
    simp only [startCommand, answered, Response.after]
  | repl =>
    obtain ⟨code, answered⟩ := bare .repl unasked
    exact ⟨code, fun opening session => answered _⟩
  | functions =>
    obtain ⟨code, answered⟩ := bare .functions unasked
    exact ⟨code, fun opening session => answered _⟩

/-! ## §2. Runs -/

/-- **Asking for a task**: the arguments come to a command, by way of a settings file, and give it
a task. -/
def Asks (args : List String) (config : Option String) (task : Task) : Prop :=
  ∃ verbose name rest, Names args config verbose name rest ∧ name.task? rest = some task

/-- **A task is performed** under the settings found, if their form of log lines can be used. -/
theorem Asks.run_eq {files : Files} {args : List String} {config : Option String} {task : Task}
    {settings : Settings} (asks : Asks args config task)
    (found : Settings.find files config = .ok settings)
    (usable : Log.Form.isUsable settings.format = true) (input : String) :
    ∃ opening verbose,
      run files args input = task.perform opening (sessionOf .usual settings verbose) input := by
  obtain ⟨verbose, name, rest, names, asked⟩ := asks
  have started := names.start_eq (Settings.load_usual_of_ok found) usable
  refine ⟨openingOf .usual (sessionOf .usual settings verbose), verbose, ?_⟩
  rw [run, runIn, started, startCommand_of_task asked]

end Command

end LineCalc
