/-
Logging — what a run does does not depend on its log.

The option for the log, and the level of the log in the settings file,
decide whether records are logged, and nothing else.  A run that logs ends
as one that does not and writes the same on the standard stream.  The log
stands on the stream for errors, ahead of what the other run writes there.

Log lines may tell the time, and much else that differs from run to run.  So
runs are compared at all of their **scenes**.  Behind its log a run is the
same at any time; what a quieter run writes on the stream for errors is the
end of what a louder one writes there at the same time, and if the quieter
one logs nothing, at any other time too.

## Main definitions

  * `Command.Response.exitCode`, `Command.Response.written` — the parts of a
    response.
  * `Command.Response.Quieter` — a response that another repeats behind a log.
  * `Command.SameButLog` — runs that differ in the log at most, at all scenes.
  * `Command.LoadedLouder` — loading the same settings but for the level.
  * `Command.LogsAside` — what the log has no effect on.

## Main statements

  * `Command.Task.perform_quieter`, `Command.Task.perform_atLevel` — a task
    that is logged, and one under another level.
  * `Command.startLoaded_sameButLog`, `Command.runAt_sameButLog` — commands and
    runs that log at least as much.
  * `Command.logs_aside` — logging does not interfere.
-/

import LineCalc.Proofs.Command.Tasks
import LineCalc.Proofs.Command.Verbose
import LineCalc.Proofs.Session.Logging
import LineCalc.Proofs.Settings.Levels

namespace LineCalc

namespace Command

/-! ## §1. Responses -/

namespace Response

/-- The exit code of a response; it is 1 at an early end. -/
def exitCode : Response → Nat
  | done exit _ => exit
  | usage exit => exit
  | crashed _ _ => 1

/-- What a response writes besides screens of usage and help. -/
def written : Response → Output
  | done _ output => output
  | usage _ => .empty
  | crashed output _ => output

/-- **Quieter response**: the other one is the same behind a log.  So the two have the same exit
code and the same on the standard stream, and what the quieter one writes on the stream for errors
is the end of what the other writes there. -/
structure Quieter (quiet loud : Response) : Prop where
  same : ∃ log, loud = quiet.after (.err log)
  exitCode : loud.exitCode = quiet.exitCode
  stdout : loud.written.stdout = quiet.written.stdout
  stderr : ∃ log, loud.written.stderr = log ++ quiet.written.stderr

theorem quieter_of_eq {quiet loud : Response} {log : String}
    (same : loud = quiet.after (.err log)) : quiet.Quieter loud := by
  refine ⟨⟨log, same⟩, ?_, ?_, ?_⟩
  · rw [same]
    cases quiet <;> rfl
  · rw [same]
    cases quiet <;> simp [after, written, Output.append_def, Output.err]
  · rw [same]
    cases quiet with
    | done exit output => exact ⟨log, rfl⟩
    | usage exit => exact ⟨"", rfl⟩
    | crashed output crash => exact ⟨log, rfl⟩

namespace Quieter

theorem refl (response : Response) : response.Quieter response := by
  have same : response = response.after (.err "") := response.after_empty.symm
  exact quieter_of_eq same

theorem after_opening {quiet loud : Response} (quieter : quiet.Quieter loud) (opening : String) :
    (quiet.after .empty).Quieter (loud.after (.err opening)) := by
  obtain ⟨log, same⟩ := quieter.same
  have joined : loud.after (.err opening) = (quiet.after .empty).after (.err (opening ++ log)) := by
    rw [same]
    cases quiet <;> simp [after, Output.append_def, Output.err, Output.empty, String.append_assoc]
  exact quieter_of_eq joined

end Quieter

end Response

/-! ## §2. Tasks -/

section tasks

variable {bare session other : Session}

theorem runJson_quieter (silent : bare.logs = false) (session : Session) (line : String) :
    (runJson bare line).Quieter (runJson session line) := by
  have none : bare.logOf line = "" := by simp [Session.logOf, silent]
  have same : runJson session line = (runJson bare line).after (.err (session.logOf line)) := by
    unfold runJson
    rw [none]
    cases Outcome.ofLine (some line) <;> simp [Response.after, Output.append_def, Output.err]
  exact Response.quieter_of_eq same

theorem runEval_quieter (silent : bare.logs = false) (alike : session.Alike bare)
    (line : String) : (runEval bare line).Quieter (runEval session line) := by
  have none : bare.logOf line = "" := by simp [Session.logOf, silent]
  have same : runEval session line = (runEval bare line).after (.err (session.logOf line)) := by
    unfold runEval
    rw [none, alike.precision]
    cases evaluate (some line) with
    | error fault => cases fault <;> simp [Response.after, Output.append_def, Output.err]
    | ok x =>
      cases text : Display.text bare.settings.precision x <;>
        simp [text, Response.after, Output.append_def, Output.err]
  exact Response.quieter_of_eq same

/-- A session is held alike: whatever it logs, and wherever, stands by itself on the stream for
errors. -/
theorem finish_quieter (silent : bare.logs = false) (alike : session.Alike bare)
    (opening input : String) :
    (finish .empty bare input).Quieter (finish (.err opening) session input) := by
  have shown := alike.run input
  have nothing := Session.run_stderr silent input
  unfold finish
  revert shown nothing
  generalize session.run input = loud
  generalize bare.run input = quiet
  obtain ⟨output, ending⟩ := quiet
  obtain ⟨output', ending'⟩ := loud
  intro shown nothing
  obtain ⟨stdout, next⟩ := shown
  dsimp only at stdout next nothing
  rw [next]
  apply Response.quieter_of_eq
  show _ = Response.after (.err (opening ++ output'.stderr)) _
  cases ending <;>
    simp [Response.after, Output.append_def, Output.err, Output.empty, stdout, nothing]

/-- **A task is performed alike**, logged or not. -/
theorem Task.perform_quieter (task : Task) (silent : bare.logs = false)
    (alike : session.Alike bare) (opening input : String) :
    (task.perform .empty bare input).Quieter (task.perform (.err opening) session input) := by
  cases task with
  | eval json words =>
    cases json with
    | true => exact (runJson_quieter silent session _).after_opening opening
    | false => exact (runEval_quieter silent alike _).after_opening opening
  | repl => exact finish_quieter silent alike opening input
  | functions =>
    have catalogue := Response.Quieter.refl (.done 0 (.out Catalogue.text))
    exact catalogue.after_opening opening

/-- **A task that is not logged** is performed alike at any time. -/
theorem Task.perform_of_silent (task : Task) (silent : bare.logs = false)
    (silent' : other.logs = false) (alike : other.Alike bare) (input : String) :
    task.perform .empty other input = task.perform .empty bare input := by
  have log (line : String) : bare.logOf line = "" := by simp [Session.logOf, silent]
  have log' (line : String) : other.logOf line = "" := by simp [Session.logOf, silent']
  cases task with
  | eval json words =>
    cases json with
    | true => simp only [perform, runJson, log, log']
    | false => simp only [perform, runEval, log, log', alike.precision]
  | repl =>
    obtain ⟨stdout, next⟩ := alike.run input
    have stderr : (other.run input).1.stderr = (bare.run input).1.stderr := by
      rw [Session.run_stderr silent, Session.run_stderr silent']
    have same : other.run input = bare.run input := Prod.ext (Output.ext stdout stderr) next
    simp only [perform, finish, same]
  | functions => rfl

theorem Task.perform_atLevel (task : Task) (opening : Output) (session : Session) (level : Level)
    (input : String) :
    task.perform opening (session.atLevel level) input = task.perform opening session input := by
  have log (line : String) : (session.atLevel level).logOf line = session.logOf line := rfl
  have precision : (session.atLevel level).settings.precision = session.settings.precision := rfl
  cases task with
  | eval json words =>
    cases json with
    | true => simp only [perform, runJson, log]
    | false => simp only [perform, runEval, log, precision]
  | repl => simp only [perform, finish, Session.run_atLevel]
  | functions => rfl

end tasks

/-! ## §3. Runs at all scenes -/

/-- **Runs that differ in the log at most**, each seen as a function of its scene.  Behind their logs
both are one response at all scenes, so the exit code and the standard stream do not depend on the
scene.  At the same scene the first run is the quieter one; if it is the same at all scenes, since
it logs nothing, it is the quieter one at any two scenes. -/
structure SameButLog (quiet loud : Log.Scene → Response) : Prop where
  bare : ∃ bare : Response, ∀ scene, bare.Quieter (quiet scene) ∧ bare.Quieter (loud scene)
  exitCode : ∀ scene scene', (loud scene').exitCode = (quiet scene).exitCode
  stdout : ∀ scene scene', (loud scene').written.stdout = (quiet scene).written.stdout
  quieter : ∀ scene, (quiet scene).Quieter (loud scene)
  timeless : (∀ scene scene', quiet scene' = quiet scene) →
    ∀ scene scene', (quiet scene).Quieter (loud scene')

/-- It is enough that both are one response behind their logs, and that the first logs nothing or
the second logs the same. -/
theorem sameButLog_of_bare {quiet loud : Log.Scene → Response} {bare : Response}
    (first : ∀ scene, bare.Quieter (quiet scene)) (second : ∀ scene, bare.Quieter (loud scene))
    (either : (∀ scene, quiet scene = bare) ∨ ∀ scene, loud scene = quiet scene) :
    SameButLog quiet loud := by
  have quieter : ∀ scene, (quiet scene).Quieter (loud scene) := by
    intro scene
    rcases either with nothing | same
    · rw [nothing]
      exact second scene
    · rw [same]
      exact .refl _
  refine ⟨⟨bare, fun scene => ⟨first scene, second scene⟩⟩, ?_, ?_, quieter, ?_⟩
  · intro scene scene'
    rw [(second scene').exitCode, (first scene).exitCode]
  · intro scene scene'
    rw [(second scene').stdout, (first scene).stdout]
  · intro still scene scene'
    rw [← still scene scene']
    exact quieter scene'

theorem sameButLog_const (response : Response) :
    SameButLog (fun _ => response) fun _ => response :=
  sameButLog_of_bare (fun _ => .refl response) (fun _ => .refl response) (.inl fun _ => rfl)

/-! ## §4. Commands -/

section loaded

variable {around : Surroundings} {settings : Settings} {verbose verbose' : Bool} {level : Level}

/-- Whether records are logged: they are asked for, or the level is the lowest. -/
def logsUnder (verbose : Bool) (level : Level) : Bool := verbose || level = .debug

/-- The session under some settings in which nothing is logged. -/
def bareSession (around : Surroundings) (settings : Settings) : Session :=
  ⟨settings, false, around.console, around.scene⟩

/-- A command with a task performs it after what was logged before. -/
theorem startLoaded_of_task {name : Name} {args : List String} {task : Task}
    (usable : Log.Form.isUsable settings.format = true) (asked : name.task? args = some task)
    (input : String) :
    (startLoaded around settings verbose name args).respond input =
      task.perform (openingOf around (sessionOf around settings verbose))
        (sessionOf around settings verbose) input := by
  unfold startLoaded
  rw [if_pos usable, startCommand_of_task asked]

/-- **A command is answered alike**, logged or not, whatever its level and its scene. -/
theorem startLoaded_quieter (around : Surroundings) {name : Name} {args : List String} {task : Task}
    (usable : Log.Form.isUsable settings.format = true) (asked : name.task? args = some task)
    (verbose : Bool) (level : Level) (scene : Log.Scene) (input : String) :
    (task.perform .empty (bareSession around settings) input).Quieter
      ((startLoaded (around.atScene scene) (settings.withLevel level) verbose name args).respond
        input) := by
  have usable' : Log.Form.isUsable (settings.withLevel level).format = true := usable
  let session : Session := sessionOf (around.atScene scene) (settings.withLevel level) verbose
  obtain ⟨log, opening⟩ := openingOf_eq_err (around.atScene scene) session
  have alike : session.Alike (bareSession around settings) := ⟨rfl, rfl, rfl⟩
  rw [startLoaded_of_task usable' asked, opening]
  exact task.perform_quieter rfl alike log input

theorem startLoaded_of_silent {name : Name} {args : List String} {task : Task}
    (usable : Log.Form.isUsable settings.format = true) (asked : name.task? args = some task)
    (silent : logsUnder verbose settings.level = false) (scene : Log.Scene) (input : String) :
    (startLoaded (around.atScene scene) settings verbose name args).respond input =
      task.perform .empty (bareSession around settings) input := by
  let session : Session := sessionOf (around.atScene scene) settings verbose
  have quiet : session.logs = false := silent
  have alike : session.Alike (bareSession around settings) := ⟨rfl, rfl, rfl⟩
  rw [startLoaded_of_task usable asked, openingOf_of_silent quiet]
  exact task.perform_of_silent rfl quiet alike input

/-- A command that logs is answered alike under another level at which it logs. -/
theorem startLoaded_of_logged {name : Name} {args : List String} {task : Task}
    (usable : Log.Form.isUsable settings.format = true) (asked : name.task? args = some task)
    (logged : logsUnder verbose settings.level = true)
    (logged' : logsUnder verbose' level = true) (input : String) :
    (startLoaded around (settings.withLevel level) verbose' name args).respond input =
      (startLoaded around settings verbose name args).respond input := by
  have usable' : Log.Form.isUsable (settings.withLevel level).format = true := usable
  let session : Session := sessionOf around settings verbose
  have other : sessionOf around (settings.withLevel level) verbose' = session.atLevel level := by
    have same : logsUnder verbose' level = logsUnder verbose settings.level :=
      logged'.trans logged.symm
    exact congrArg (fun logs =>
      (⟨settings.withLevel level, logs, around.console, around.scene.next⟩ : Session)) same
  have opening : openingOf around (session.atLevel level) = openingOf around session := rfl
  rw [startLoaded_of_task usable asked, startLoaded_of_task usable' asked, other, opening]
  exact task.perform_atLevel _ session level input

/-- **A command under settings with another level** differs in the log at most, if it logs wherever
the other does. -/
theorem startLoaded_sameButLog
    (louder : logsUnder verbose settings.level = true → logsUnder verbose' level = true)
    (name : Name) (args : List String) (input : String) :
    SameButLog
      (fun scene => (startLoaded (around.atScene scene) settings verbose name args).respond input)
      fun scene => (startLoaded (around.atScene scene) (settings.withLevel level) verbose' name
        args).respond input := by
  have own : settings.withLevel settings.level = settings := rfl
  cases usable : Log.Form.isUsable settings.format with
  | false =>
    have useless : Log.Form.isUsable (settings.withLevel level).format = false := usable
    simp only [startLoaded, usable, useless, Bool.false_eq_true, if_false]
    exact sameButLog_const _
  | true =>
    have usable' : Log.Form.isUsable (settings.withLevel level).format = true := usable
    cases asked : name.task? args with
    | none =>
      obtain ⟨code, answered⟩ := startCommand_of_no_task asked
      simp only [startLoaded, usable, usable', if_true, answered]
      exact sameButLog_const _
    | some task =>
      let bare : Response := task.perform .empty (bareSession around settings) input
      have first : ∀ scene, bare.Quieter
          ((startLoaded (around.atScene scene) settings verbose name args).respond input) := by
        intro scene
        have behind := startLoaded_quieter around usable asked verbose settings.level scene input
        rwa [own] at behind
      have second : ∀ scene, bare.Quieter ((startLoaded (around.atScene scene)
          (settings.withLevel level) verbose' name args).respond input) := by
        intro scene
        exact startLoaded_quieter around usable asked verbose' level scene input
      refine sameButLog_of_bare first second ?_
      -- The first logs nothing, or both log the same.
      cases logs : logsUnder verbose settings.level with
      | false => exact .inl fun scene => startLoaded_of_silent usable asked logs scene input
      | true =>
        exact .inr fun scene => startLoaded_of_logged usable asked logs (louder logs) input

theorem startLoaded_still (silent : logsUnder verbose settings.level = false) (name : Name)
    (args : List String) (input : String) (scene scene' : Log.Scene) :
    (startLoaded (around.atScene scene') settings verbose name args).respond input =
      (startLoaded (around.atScene scene) settings verbose name args).respond input := by
  cases usable : Log.Form.isUsable settings.format with
  | false => simp only [startLoaded, usable, Bool.false_eq_true, if_false]
  | true =>
    cases asked : name.task? args with
    | none =>
      obtain ⟨code, answered⟩ := startCommand_of_no_task asked
      simp only [startLoaded, usable, if_true, answered]
    | some task =>
      rw [startLoaded_of_silent usable asked silent, startLoaded_of_silent usable asked silent]

end loaded

/-! ## §5. Runs -/

/-- A run on some files, arguments and input, as a function of its scene. -/
def runAt (around : Surroundings) (files : Files) (args : List String) (input : String)
    (scene : Log.Scene) : Response :=
  runIn (around.atScene scene) files args input

/-- **Loading the same but for the level**: both times there are no settings, for one reason, or
there are the same settings but for the level, and the second time records are logged if they are
the first. -/
inductive LoadedLouder (verbose verbose' : Bool) :
    Except Settings.Stop Settings → Except Settings.Stop Settings → Prop
  | stop (stop : Settings.Stop) : LoadedLouder verbose verbose' (.error stop) (.error stop)
  | settings {settings : Settings} {level : Level}
      (louder : logsUnder verbose settings.level = true → logsUnder verbose' level = true) :
      LoadedLouder verbose verbose' (.ok settings) (.ok (settings.withLevel level))

section runs

variable {around : Surroundings} {files files' : Files} {g : Globals} {verbose' : Bool}

/-- Settings are loaded without a look at the scene. -/
theorem load_atScene (around : Surroundings) (files : Files) (config : Option String)
    (scene : Log.Scene) :
    Settings.load (around.atScene scene) files config = Settings.load around files config := rfl

/-- **A run that reads the same options but for the log**, and loads the same settings but for the
level, differs in the log at most. -/
theorem runAt_sameButLog {args args' rest : List String} (read : readGlobals args = some (g, rest))
    (read' : readGlobals args' = some ({ g with verbose := verbose' }, rest))
    (loaded : LoadedLouder g.verbose verbose' (Settings.load around files g.config)
      (Settings.load around files' g.config)) (input : String) :
    SameButLog (runAt around files args input) (runAt around files' args' input) := by
  rcases answered_or_names g rest with ⟨response, answered⟩ | ⟨name, words, comes⟩
  · have quiet : runAt around files args input = fun _ => response :=
      funext fun scene => answered (around.atScene scene) files g.verbose args input read
    have loud : runAt around files' args' input = fun _ => response :=
      funext fun scene => answered (around.atScene scene) files' verbose' args' input read'
    rw [quiet, loud]
    exact sameButLog_const response
  · have names : Names args g.config g.verbose name words := comes g.verbose args read
    have names' : Names args' g.config verbose' name words := comes verbose' args' read'
    generalize first : Settings.load around files g.config = outcome at loaded
    generalize second : Settings.load around files' g.config = outcome' at loaded
    cases loaded with
    | stop stop =>
      have quiet : runAt around files args input = fun _ => stopped stop :=
        funext fun scene => names.runIn_of_stop ((load_atScene around files _ scene).trans first) input
      have loud : runAt around files' args' input = fun _ => stopped stop :=
        funext fun scene => names'.runIn_of_stop ((load_atScene around files' _ scene).trans second) input
      rw [quiet, loud]
      exact sameButLog_const (stopped stop)
    | @settings settings level louder =>
      have quiet : runAt around files args input = fun scene =>
          (startLoaded (around.atScene scene) settings g.verbose name words).respond input :=
        funext fun scene => names.runIn_of_ok ((load_atScene around files _ scene).trans first) input
      have loud : runAt around files' args' input = fun scene =>
          (startLoaded (around.atScene scene) (settings.withLevel level) verbose' name
            words).respond input :=
        funext fun scene => names'.runIn_of_ok ((load_atScene around files' _ scene).trans second) input
      rw [quiet, loud]
      exact startLoaded_sameButLog louder name words input

/-- **A run that logs nothing** is the same at all scenes. -/
theorem runAt_still {args rest : List String} (read : readGlobals args = some (g, rest))
    (silent : ∀ settings, Settings.load around files g.config = .ok settings →
      logsUnder g.verbose settings.level = false) (input : String) (scene scene' : Log.Scene) :
    runAt around files args input scene' = runAt around files args input scene := by
  unfold runAt
  rcases answered_or_names g rest with ⟨response, answered⟩ | ⟨name, words, comes⟩
  · rw [answered _ _ g.verbose _ _ read, answered _ _ g.verbose _ _ read]
  · have names : Names args g.config g.verbose name words := comes g.verbose args read
    cases loaded : Settings.load around files g.config with
    | error stop =>
      rw [names.runIn_of_stop ((load_atScene around files _ scene).trans loaded),
        names.runIn_of_stop ((load_atScene around files _ scene').trans loaded)]
    | ok settings =>
      rw [names.runIn_of_ok ((load_atScene around files _ scene).trans loaded),
        names.runIn_of_ok ((load_atScene around files _ scene').trans loaded)]
      exact startLoaded_still (silent settings loaded) name words input scene scene'

end runs

theorem loadedLouder_verbose (verbose : Bool) (loaded : Except Settings.Stop Settings) :
    LoadedLouder verbose true loaded loaded := by
  cases loaded with
  | error stop => exact .stop stop
  | ok settings =>
    have own : settings.withLevel settings.level = settings := rfl
    rw [← own]
    exact .settings fun _ => rfl

/-- A level that is at most as high logs wherever the other does. -/
theorem logsUnder_of_rank_le {level level' : Level} (lower : level'.rank ≤ level.rank)
    {verbose : Bool} (logs : logsUnder verbose level = true) : logsUnder verbose level' = true := by
  simp only [logsUnder, Bool.or_eq_true, decide_eq_true_eq] at logs ⊢
  refine logs.imp_right fun debug => ?_
  -- No level is lower than `DEBUG`.
  rw [debug] at lower
  revert lower
  cases level' <;> decide

/-- Of two files that differ in the level, the one with the lower level logs at least as much. -/
theorem loadedLouder_of_sameButLevel {around : Surroundings} {files files' : Files}
    {config : Option String} {document document' : Toml.Table} {level level' : Level}
    (holds : Settings.documentAt files (Settings.pathOf config) = some document)
    (holds' : Settings.documentAt files' (Settings.pathOf config) = some document')
    (limited : Settings.limitAt around.limits files' (Settings.pathOf config) =
      Settings.limitAt around.limits files (Settings.pathOf config))
    (same : Settings.SameButLevel document document' level level')
    (lower : level'.rank ≤ level.rank) (verbose : Bool) :
    LoadedLouder verbose verbose (Settings.load around files config)
      (Settings.load around files' config) := by
  obtain ⟨loaded', leveled⟩ := same.load_eq holds holds' limited
  rw [loaded']
  cases loaded : Settings.load around files config with
  | error stop => exact .stop stop
  | ok settings =>
    refine .settings fun logs => ?_
    rw [leveled settings loaded] at logs
    exact logsUnder_of_rank_le lower logs

/-- **Logging aside**: a run ends alike, and shows the same, with the option for the log and without
it, wherever the option stands in the row of options ahead of the command; arguments that can be
read start with such a row.  So do runs on two settings files that differ in the level of the log,
of which that with the lower level is the louder one; both are within the limits of reading, or past
the same one.  A run that is not asked for its log, with a level above the lowest, is the same at
all scenes. -/
structure LogsAside (around : Surroundings) (files : Files) (input : String) : Prop where
  verbose : ∀ {options g flag}, OptionRow .none options g → flag ∈ verboseFlags → ∀ rest,
    SameButLog (runAt around files (options ++ rest) input)
      (runAt around files (options ++ flag :: rest) input)
  ahead : ∀ {args g left}, readGlobals args = some (g, left) →
    ∃ options, OptionRow .none options g ∧
      (args = options ++ left ∨ args = options ++ "--" :: left)
  level : ∀ {files' args document document' level level'},
    Settings.documentAt files (settingsPath args) = some document →
    Settings.documentAt files' (settingsPath args) = some document' →
    Settings.limitAt around.limits files' (settingsPath args) =
      Settings.limitAt around.limits files (settingsPath args) →
    Settings.SameButLevel document document' level level' → level'.rank ≤ level.rank →
    SameButLog (runAt around files args input) (runAt around files' args input)
  silent : ∀ {args g left}, readGlobals args = some (g, left) → g.verbose = false →
    (∀ settings, Settings.load around files g.config = .ok settings → settings.level ≠ .debug) →
    ∀ scene scene', runAt around files args input scene' = runAt around files args input scene

/-- **Logging does not interfere** with what a run does. -/
theorem logs_aside (around : Surroundings) (files : Files) (input : String) :
    LogsAside around files input where
  verbose {options g flag} row asks rest := by
    have inserted := readGlobals_insert_verbose row asks rest
    cases read : readGlobals (options ++ rest) with
    | none =>
      -- An option that cannot be read is not read behind the inserted one either.
      rw [read, Option.map_none] at inserted
      unfold runAt runIn start
      rw [read, inserted]
      exact sameButLog_const _
    | some result =>
      rw [read, Option.map_some] at inserted
      exact runAt_sameButLog read inserted (loadedLouder_verbose _ _) input
  ahead read := exists_optionRow_of_readGlobals read
  level {files' args document document' level level'} holds holds' limited same lower := by
    cases read : readGlobals args with
    | none =>
      unfold runAt runIn start
      rw [read]
      exact sameButLog_const _
    | some result =>
      have path : settingsPath args = Settings.pathOf result.1.config := by
        simp [settingsPath, read]
      rw [path] at holds holds' limited
      exact runAt_sameButLog read read
        (loadedLouder_of_sameButLevel holds holds' limited same lower _) input
  silent {args g left} read unasked above scene scene' := by
    refine runAt_still read (fun settings loaded => ?_) input scene scene'
    simp [logsUnder, unasked, above settings loaded]

/-- The document that names a level and nothing else. -/
def leveled (name : String) : Toml.Table := [("logging", .table [("level", .string name)])]

/-- The level that a document names, if it names nothing else. -/
def leveledBy? : Toml.Table → Option String
  | [(part, .table [(key, .string name)])] =>
    if part = "logging" ∧ key = "level" then some name else none
  | _ => none

theorem eq_leveled {document : Toml.Table} {name : String} (named : leveledBy? document = some name) :
    document = leveled name := by
  unfold leveledBy? at named
  split at named
  · split at named
    · next parts =>
      obtain ⟨rfl, rfl⟩ := parts
      rw [← Option.some.inj named]
      rfl
    · cases named
  · cases named

/-- A directory with a settings file for such a document. -/
def leveledFiles (name : String) : Files :=
  .onlyDefault ("[logging]\nlevel = \"" ++ name ++ "\"\n").toUTF8

/-- The surroundings in a folder at some time. -/
def datedAt (folder time : String) : Surroundings :=
  { Surroundings.usual with folder, scene := .still time }

/-- At the level `ERROR` nothing is logged, at any time.  With the option, or at the level `DEBUG`,
the log stands by itself on the stream for errors, in the form that is used unless another is asked
for, and tells the time. -/
theorem logs_aside_of_error :
    Settings.documentAt (leveledFiles "ERROR") (settingsPath ["eval", "1 + 1"]) =
        some (leveled "ERROR") ∧
      Settings.documentAt (leveledFiles "debug") (settingsPath ["eval", "1 + 1"]) =
        some (leveled "debug") ∧
      Settings.SameButLevel (leveled "ERROR") (leveled "debug") .error .debug ∧
      SameButLog
        (runAt (datedAt "/sums/" "2024-02-29 12:00:00,000") (leveledFiles "ERROR") ["eval", "1 + 1"] "")
        (runAt (datedAt "/sums/" "2024-02-29 12:00:00,000") (leveledFiles "debug") ["eval", "1 + 1"]
          "") ∧
      SameButLog
        (runAt (datedAt "/sums/" "2024-02-29 12:00:00,000") (leveledFiles "ERROR") ["eval", "1 + 1"] "")
        (runAt (datedAt "/sums/" "2024-02-29 12:00:00,000") (leveledFiles "ERROR")
          ["--verbose", "eval", "1 + 1"] "") ∧
      runIn (datedAt "/sums/" "2024-02-29 12:00:00,000") (leveledFiles "ERROR") ["eval", "1 + 1"] "" =
        .done 0 (.out "2.0\n") ∧
      runIn (datedAt "/sums/" "2024-02-29 12:00:00,000") (leveledFiles "debug") ["eval", "1 + 1"] "" =
        .done 0 ⟨"2.0\n", "2024-02-29 12:00:00,000 [DEBUG] calcolatrice.cli: " ++
          "Loaded settings from /sums/calcolatrice.toml\n" ++
          "2024-02-29 12:00:00,000 [DEBUG] calcolatrice.core.expression_lang.evaluator: " ++
          "Evaluating binary_operator: 1 + 1\n"⟩ := by
  have path : settingsPath ["eval", "1 + 1"] = Settings.defaultPath := by decide
  have holds {name : String} (named : (Settings.documentAt (leveledFiles name)
      Settings.defaultPath).bind leveledBy? = some name) :
      Settings.documentAt (leveledFiles name) (settingsPath ["eval", "1 + 1"]) =
        some (leveled name) := by
    obtain ⟨document, there, named⟩ := Option.bind_eq_some_iff.1 named
    rw [path, there, eq_leveled named]
  have quiet := holds (show _ = some "ERROR" by decide +kernel)
  have loud := holds (show _ = some "debug" by decide +kernel)
  have same : Settings.SameButLevel (leveled "ERROR") (leveled "debug") .error .debug :=
    { sections := fun name other => by
        have apart : (name == "logging") = false := by simpa using other
        simp [leveled, Toml.Table.get?, List.lookup_cons, apart]
      logging := by
        refine ⟨[("level", .string "ERROR")], [("level", .string "debug")], rfl, rfl,
          fun key other => ?_, by decide +kernel, by decide +kernel⟩
        have apart : (key == "level") = false := by simpa using other
        simp [Toml.Table.get?, List.lookup_cons, apart] }
  have limited : Settings.limitAt .none (leveledFiles "debug") (settingsPath ["eval", "1 + 1"]) =
      Settings.limitAt .none (leveledFiles "ERROR") (settingsPath ["eval", "1 + 1"]) := by
    rw [Settings.limitAt_none, Settings.limitAt_none]
  have aside := logs_aside (datedAt "/sums/" "2024-02-29 12:00:00,000") (leveledFiles "ERROR") ""
  refine ⟨quiet, loud, same, aside.level quiet loud limited same (by decide), ?_,
    by decide +kernel, by decide +kernel⟩
  exact aside.verbose (.nil .none) (by decide) ["eval", "1 + 1"]

end Command

end LineCalc
