/-
Ending — how a run of a command ends.

A run that comes to a command ends in one of two ways.  It ends early for
four causes and for no other: the settings file holds no text, its path is
too long to be asked for, its form of log lines cannot be used, or a value
is to be displayed at a precision above the bound.  Otherwise it ends with
an exit code: 2 if the settings file is refused, 1 if an expression given
to `eval` fails, and 0 if not.

## Main definitions

  * `Command.Task.Displays`, `Command.Task.Fails` — when a task displays a
    value, and when it fails.
  * `Command.EndsEarly`, `Command.EndsWith` — the causes of an early end, and
    what leads to an exit code.
  * `Command.Ending` — how a run ends.

## Main statements

  * `Command.EndsEarly.run`, `Command.EndsWith.run` — how a run ends in each
    case.
  * `Command.ending_of_asks` — a run ends in these cases only.
  * `Command.ends_early_long_name` — a settings file that does not exist, and
    is not reported.
-/

import LineCalc.Proofs.Command.Tasks
import LineCalc.Proofs.Settings.BareName

namespace LineCalc

namespace Command

/-! ## §1. What a task does -/

/-- An outcome is written as JSON with an exit code that tells whether it holds an error. -/
theorem runJson_of_answer (session : Session) {line : String} {outcome : Outcome}
    (answer : Outcome.ofLine (some line) = .ok outcome) :
    ∃ output, runJson session line = .done (if outcome.ok then 0 else 1) output := by
  unfold runJson
  rw [answer]
  exact ⟨_, rfl⟩

theorem runEval_of_refused (session : Session) {line : String} {failure : Failure}
    (refused : evaluate (some line) = .error (.failure failure)) :
    ∃ output, runEval session line = .done 1 output := by
  unfold runEval
  rw [refused]
  exact ⟨_, rfl⟩

namespace Task

/-- **Displaying**: a value has to be shown to perform a task on an input.  Evaluation for JSON
writes values in a form of its own, and a session shows none behind a line that stops it. -/
def Displays (input : String) : Task → Prop
  | eval false words => ∃ x, evaluate (some (lineOf words)) = .ok x
  | eval true _ => False
  | repl => ∃ line ∈ Session.heard input, ∃ x, evaluate (some line) = .ok x
  | functions => False

/-- **Failing**: the expression of a task has no value.  A session does not fail by its lines. -/
def Fails : Task → Prop
  | eval _ words => ∃ failure, evaluate (some (lineOf words)) = .error (.failure failure)
  | repl => False
  | functions => False

variable {task : Task} {session : Session} {input : String}

/-- An expression that fails is answered with the exit code 1, in either form. -/
theorem perform_of_fails (fails : task.Fails) (opening : Output) (session : Session)
    (input : String) : ∃ output, task.perform opening session input = .done 1 output := by
  cases task with
  | eval json words =>
    obtain ⟨failure, refused⟩ := fails
    cases json with
    | true =>
      obtain ⟨output, answered⟩ := runJson_of_answer session (Outcome.ofLine_of_failure refused)
      exact ⟨opening ++ output, congrArg (Response.after opening) answered⟩
    | false =>
      obtain ⟨output, answered⟩ := runEval_of_refused session refused
      exact ⟨opening ++ output, congrArg (Response.after opening) answered⟩
  | repl => exact fails.elim
  | functions => exact fails.elim

/-- A task that does not fail is answered with the exit code 0, if the values that it has to
display can be shown. -/
theorem perform_of_not_fails (sound : ¬ task.Fails)
    (shows : task.Displays input → Display.Usable session.settings.precision)
    (opening : Output) : ∃ output, task.perform opening session input = .done 0 output := by
  cases task with
  | eval json words =>
    rcases evaluate_cases (some (lineOf words)) with ⟨x, value⟩ | failed
    · cases json with
      | true =>
        obtain ⟨output, answered⟩ := runJson_of_answer session (Outcome.ofLine_of_value value)
        exact ⟨opening ++ output, congrArg (Response.after opening) answered⟩
      | false =>
        obtain ⟨log, shown, -, displayed⟩ := runEval_of_usable session value (shows ⟨x, value⟩)
        exact ⟨_, congrArg (Response.after opening) displayed⟩
    · exact absurd failed sound
  | repl =>
    obtain ⟨output, ending⟩ := session.finish_eq opening input
    refine ⟨output, ending.trans ?_⟩
    -- The session ends early only at a value that it cannot show, so either nothing is to be shown
    -- or everything can be.
    have spared : (Session.heard input).findSome? session.refusalOf = none := by
      rw [Session.findSome?_refusalOf_eq_none_iff]
      by_cases displays : Displays input repl
      · exact .inl (shows displays)
      · exact .inr fun line among x value => displays ⟨line, among, x, value⟩
    rw [spared]
  | functions => exact ⟨_, rfl⟩

/-- A task ends early at the first value that it has to display, if none can be shown. -/
theorem perform_of_refusalAt {refusal : Display.Refusal} (displays : task.Displays input)
    (refused : Display.refusalAt session.settings.precision = some refusal) (opening : Output) :
    ∃ output, task.perform opening session input = .crashed output (.precision refusal) := by
  cases task with
  | eval json words =>
    cases json with
    | true => exact displays.elim
    | false =>
      obtain ⟨x, value⟩ := displays
      have stopped := runEval_of_refusalAt session value refused
      exact ⟨_, congrArg (Response.after opening) stopped⟩
  | repl =>
    obtain ⟨line, among, x, value⟩ := displays
    obtain ⟨output, ending⟩ := session.finish_eq opening input
    rw [Session.findSome?_refusalOf_of_ok among value refused] at ending
    exact ⟨output, ending⟩
  | functions => exact displays.elim

end Task

/-! ## §2. Cases -/

section cases

variable (files : Files) (config : Option String) (task : Task) (input : String)

/-- **Ending early**: the four causes of an early end. -/
inductive EndsEarly : Crash → Prop
  | notText {bytes : ByteArray} (entry : files (Settings.pathOf config) = .file bytes)
      (broken : ¬ bytes.IsValidUTF8) : EndsEarly .notText
  | nameTooLong (entry : files (Settings.pathOf config) = .nameTooLong) : EndsEarly .nameTooLong
  | logForm {settings : Settings} (found : Settings.find files config = .ok settings)
      (useless : Log.Form.isUsable settings.format = false) :
      EndsEarly (.logForm settings.format)
  | precision {settings : Settings} {p : Int} (found : Settings.find files config = .ok settings)
      (usable : Log.Form.isUsable settings.format = true)
      (given : settings.precision = some p) (excess : 2147483647 < p)
      (displays : task.Displays input) : EndsEarly (.precision (Settings.excessRefusal p))

/-- **Ending with an exit code**: the settings file is refused, or the task is performed and fails,
or it is performed and does not fail. -/
inductive EndsWith : Nat → Prop
  | refused {problem : Settings.Problem}
      (found : Settings.find files config = .error (.problem problem)) : EndsWith 2
  | failed {settings : Settings} (found : Settings.find files config = .ok settings)
      (usable : Log.Form.isUsable settings.format = true) (fails : task.Fails) : EndsWith 1
  | performed {settings : Settings} (found : Settings.find files config = .ok settings)
      (usable : Log.Form.isUsable settings.format = true)
      (shows : task.Displays input → settings.Precise) (sound : ¬ task.Fails) : EndsWith 0

end cases

variable {files : Files} {args : List String} {config : Option String} {task : Task}
  {input : String}

theorem EndsEarly.run {crash : Crash} (early : EndsEarly files config task input crash)
    (asks : Asks args config task) : ∃ output, run files args input = .crashed output crash := by
  obtain ⟨verbose, name, rest, names, asked⟩ := id asks
  cases early with
  | notText entry broken =>
    exact ⟨_, names.run_of_obstacle (Settings.findIn_of_not_isText entry broken) input⟩
  | nameTooLong entry =>
    exact ⟨_, names.run_of_obstacle (Settings.findIn_of_nameTooLong entry) input⟩
  | logForm found useless => exact ⟨_, names.run_of_form found useless input⟩
  | precision found usable given excess displays =>
    obtain ⟨opening, verbose, ran⟩ := asks.run_eq found usable input
    rw [ran]
    exact Task.perform_of_refusalAt displays (Settings.refusalAt_of_excess given excess) opening

theorem EndsWith.run {code : Nat} (ends : EndsWith files config task input code)
    (asks : Asks args config task) : ∃ output, run files args input = .done code output := by
  cases ends with
  | refused found =>
    obtain ⟨verbose, name, rest, names, -⟩ := asks
    exact ⟨_, names.run_of_problem found input⟩
  | failed found usable fails =>
    obtain ⟨opening, verbose, ran⟩ := asks.run_eq found usable input
    rw [ran]
    exact Task.perform_of_fails fails opening _ input
  | performed found usable shows sound =>
    obtain ⟨opening, verbose, ran⟩ := asks.run_eq found usable input
    rw [ran]
    refine Task.perform_of_not_fails sound (fun displays => ?_) opening
    exact (Settings.usable_iff_precise found).2 (shows displays)

/-- **There are no other cases**. -/
theorem endsEarly_or_endsWith (files : Files) (config : Option String) (task : Task)
    (input : String) :
    (∃ crash, EndsEarly files config task input crash) ∨
      ∃ code, EndsWith files config task input code := by
  by_cases readable : (files (Settings.pathOf config)).IsReadable
  · rcases Settings.findIn_of_isReadable .usual readable with
      ⟨settings, found⟩ | ⟨problem, found⟩
    · cases usable : Log.Form.isUsable settings.format with
      | false => exact .inl ⟨_, .logForm found usable⟩
      | true =>
        by_cases fails : task.Fails
        · exact .inr ⟨1, .failed found usable fails⟩
        by_cases shows : task.Displays input → settings.Precise
        · exact .inr ⟨0, .performed found usable shows fails⟩
        · -- A value is to be displayed at a precision above the bound.
          rw [Classical.not_imp] at shows
          obtain ⟨displays, imprecise⟩ := shows
          unfold Settings.Precise at imprecise
          push Not at imprecise
          obtain ⟨p, given, excess⟩ := imprecise
          exact .inl ⟨_, .precision found usable given excess displays⟩
    · exact .inr ⟨2, .refused found⟩
  · cases entry : files (Settings.pathOf config) with
    | absent =>
      rw [entry] at readable
      exact absurd trivial readable
    | folder =>
      rw [entry] at readable
      exact absurd trivial readable
    | nameTooLong => exact .inl ⟨_, .nameTooLong entry⟩
    | file bytes =>
      rw [entry] at readable
      exact .inl ⟨_, .notText entry readable⟩

/-! ## §3. Runs -/

/-- **How a run ends**.  It ends early exactly for one of the four causes, and with an exit code
exactly in one of the three cases, one of which is at hand.  If the settings file is refused, the
problem is all that is reported, and the task is not performed. -/
structure Ending (files : Files) (args : List String) (config : Option String) (task : Task)
    (input : String) : Prop where
  early_iff : ∀ crash, (∃ output, run files args input = .crashed output crash) ↔
    EndsEarly files config task input crash
  code_iff : ∀ code, (∃ output, run files args input = .done code output) ↔
    EndsWith files config task input code
  either : (∃ crash, EndsEarly files config task input crash) ∨
    ∃ code, EndsWith files config task input code
  refused : ∀ problem, Settings.find files config = .error (.problem problem) →
    run files args input =
      .done 2 (.err ("Config error: " ++ Screen.withoutStyles problem.message ++ "\n"))

/-- **A run ends early or with an exit code**, each in its own cases and in no other. -/
theorem ending_of_asks (asks : Asks args config task) (files : Files) (input : String) :
    Ending files args config task input where
  early_iff crash := by
    constructor
    · rintro ⟨output, ran⟩
      -- Some case is at hand, and it tells how the run ends.
      rcases endsEarly_or_endsWith files config task input with ⟨crash', early⟩ | ⟨code, ends⟩
      · obtain ⟨output', ran'⟩ := early.run asks
        rw [ran, Response.crashed.injEq] at ran'
        rw [ran'.2]
        exact early
      · obtain ⟨output', ran'⟩ := ends.run asks
        rw [ran] at ran'
        cases ran'
    · intro early
      exact early.run asks
  code_iff code := by
    constructor
    · rintro ⟨output, ran⟩
      rcases endsEarly_or_endsWith files config task input with ⟨crash, early⟩ | ⟨code', ends⟩
      · obtain ⟨output', ran'⟩ := early.run asks
        rw [ran] at ran'
        cases ran'
      · obtain ⟨output', ran'⟩ := ends.run asks
        rw [ran, Response.done.injEq] at ran'
        rw [ran'.1]
        exact ends
    · intro ends
      exact ends.run asks
  either := endsEarly_or_endsWith files config task input
  refused problem found := by
    obtain ⟨verbose, name, rest, names, -⟩ := asks
    exact names.run_of_problem found input

/-- Without a settings file a division by zero ends with the exit code 1. -/
theorem ending_of_division_by_zero :
    Asks ["eval", "1 / 0"] none (.eval false ["1 / 0"]) ∧
      Ending (fun _ => .absent) ["eval", "1 / 0"] none (.eval false ["1 / 0"]) "" ∧
      ∃ output, run (fun _ => .absent) ["eval", "1 / 0"] "" = .done 1 output := by
  have names : Names ["eval", "1 / 0"] none false .eval ["1 / 0"] :=
    ⟨⟨"eval", by decide, by decide⟩, rfl⟩
  have asks : Asks ["eval", "1 / 0"] none (.eval false ["1 / 0"]) :=
    ⟨false, .eval, ["1 / 0"], names, by decide⟩
  have ending := ending_of_asks asks (fun _ => .absent) ""
  refine ⟨asks, ending, (ending.code_iff 1).2 ?_⟩
  have found : Settings.find (fun _ => .absent) none = .ok .default := rfl
  have refused : evaluate (some (lineOf ["1 / 0"])) = .error (.failure (.whole .divisionByZero)) := by
    decide +kernel
  exact .failed found (by decide +kernel) ⟨_, refused⟩

/-- A name of one letter more than the name of a file may have. -/
def longName : String := .ofList (.replicate 256 'a')

/-- **A settings file that does not exist, and is not reported**: its name is longer than the name
of a file may be.  There is no file, there are no settings and no problem, and the run ends
early. -/
theorem ends_early_long_name :
    Asks ["--config", longName, "eval", "1 + 1"] (some longName) (.eval false ["1 + 1"]) ∧
      (∀ bytes, Files.ofFolder [] (Settings.pathOf (some longName)) ≠ .file bytes) ∧
      (∀ settings, Settings.find (.ofFolder []) (some longName) ≠ .ok settings) ∧
      (∀ problem, Settings.find (.ofFolder []) (some longName) ≠ .error (.problem problem)) ∧
      ∀ input, run (.ofFolder []) ["--config", longName, "eval", "1 + 1"] input =
        .crashed .empty .nameTooLong := by
  -- The name is never written out: all that is asked of it can be told from its row of letters.
  have letters : longName.toList = .replicate 256 'a' := String.toList_ofList
  have nul : Path.holdsNul longName = false := by
    rw [Path.holdsNul, letters]
    decide +kernel
  have names : Names ["--config", longName, "eval", "1 + 1"] (some longName) false .eval
      ["1 + 1"] := by
    refine ⟨⟨"eval", by decide +kernel, by decide⟩, ?_⟩
    rw [Option.any_some]
    exact nul
  have bare : Path.IsBare longName := by
    apply Path.isBare_of_toList
    · rw [letters]
      decide +kernel
    · rw [letters]
      decide +kernel
    · rw [letters]
      decide +kernel
  have long : Path.longestName < longName.utf8ByteSize := by
    rw [← String.utf8Len_toList, letters]
    decide +kernel
  have entry : Files.ofFolder [] (Settings.pathOf (some longName)) = .nameTooLong := by
    show Files.ofFolder [] (Path.plain longName) = _
    rw [bare.plain_eq]
    exact Files.ofFolder_of_long_name bare nul long []
  have found := Settings.find_of_long_name bare nul long []
  refine ⟨⟨false, .eval, _, names, by decide⟩, ?_, ?_, ?_, names.run_of_obstacle found⟩
  · intro bytes same
    rw [entry] at same
    cases same
  · intro settings same
    rw [found] at same
    cases same
  · intro problem same
    rw [found] at same
    cases same

end Command

end LineCalc
