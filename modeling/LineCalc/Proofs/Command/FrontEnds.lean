/-
FrontEnds — one line, asked in three ways.

A line may be given to `eval` as words, to `eval` for an answer as JSON, or
to a session as a line of input.  The three prepare it differently and
answer on different streams, but they answer for the same evaluation: with
its value, or with its failure.

A session answers with what its console makes of the text of the value, or
of the message.  Every console shows a verbatim message as it is, and the
text of a value if it fits into a line.  Nothing is said of what consoles do
to other texts; some of it shows already where nothing is done but to leave
out control characters.

## Main definitions

  * `Command.evalArgs`, `Command.jsonArgs`, `Command.replArgs` — the arguments
    for each way of asking.
  * `Command.Typeable` — a line that a session answers.
  * `Command.Serves` — options that lead to settings of use for all three.
  * `Command.AnswersValue`, `Command.AnswersFailure` — the three answers.
  * `Command.OneAnswer` — what is asked for does not depend on the way.

## Main statements

  * `Session.Plain.exchange` — a session on a single line.
  * `Command.front_ends_agree` — the three ways have one answer.
  * `Command.front_ends_differ_bell` — a message that a session does not show
    as it is.
-/

import LineCalc.Proofs.Line.Reported
import LineCalc.Proofs.Outcome.Agreement
import LineCalc.Proofs.Settings.Precision

namespace LineCalc

open Text

/-! ## §1. Texts -/

/-- A joined text has no characters but those of the separator and of the words. -/
theorem Text.mem_intercalate {separator : String} {words : List String} {c : Char}
    (member : c ∈ (separator.intercalate words).toList) :
    c ∈ separator.toList ∨ ∃ word ∈ words, c ∈ word.toList := by
  induction words with
  | nil => exact absurd member (by simp)
  | cons first rest ih =>
    cases rest with
    | nil => exact .inr ⟨first, List.mem_cons_self .., by simpa using member⟩
    | cons second more =>
      rw [String.intercalate_cons_cons] at member
      simp only [String.toList_append, List.mem_append] at member
      rcases member with (inFirst | inSeparator) | later
      · exact .inr ⟨first, List.mem_cons_self .., inFirst⟩
      · exact .inl inSeparator
      · refine (ih later).imp_right ?_
        rintro ⟨word, among, inside⟩
        exact ⟨word, List.mem_cons_of_mem first among, inside⟩

namespace Screen

/-- A report of a line without escape characters has no style sequences. -/
theorem withoutStyles_report {line : String} {failure : Failure}
    (refused : evaluate (some line) = .error (.failure failure)) (plain : '\x1b' ∉ line.toList) :
    withoutStyles ("Error: " ++ failure.describe) = "Error: " ++ failure.describe := by
  refine withoutStyles_eq_self fun member => ?_
  rw [String.toList_append, List.mem_append] at member
  rcases member with wording | report
  · exact absurd wording (by decide)
  · exact plain (Line.mem_of_mem_describe refused (by decide) (by decide) report)

end Screen

/-! ## §2. One line of input -/

namespace Command

/-- **Typeable line**: a session reads it as one line, and answers it. -/
structure Typeable (line : String) : Prop where
  unbroken : Unbroken line
  filled : ¬ Blanks line.toList
  stays : Session.isExit line = false

/-- What a session writes that is given one line and answers it. -/
def exchange (banner prompt answer : String) : String :=
  banner ++ prompt ++ answer ++ "\n" ++ prompt ++ "\n"

end Command

namespace Session

/-- **A session on a single line** writes the line's own output between two prompts. -/
theorem Plain.exchange {session : Session} (plain : Plain session) {line answer : String}
    (typeable : Command.Typeable line) (answered : session.owns line = answer ++ "\n") :
    Command.finish .empty session (line ++ "\n") =
      .done 0 (.out (Command.exchange (bannerOn session.console) session.promptText answer)) := by
  have unbroken : ∀ other ∈ [line], Unbroken other := by
    intro other among
    rw [List.mem_singleton.1 among]
    exact typeable.unbroken
  have written : ofLines [line] = line ++ "\n" := by simp [ofLines]
  have lines : Text.lines (line ++ "\n") = [line] := by rw [← written, lines_ofLines unbroken]
  rw [plain.finish_eq, lines, dialogue_cons_other typeable.stays, answered]
  simp [Command.exchange, dialogue, String.append_assoc]

end Session

/-! ## §3. Three ways of asking -/

namespace Command

/-- The arguments that ask for the value of some words. -/
def evalArgs (options words : List String) : List String := options ++ "eval" :: "--" :: words

/-- The arguments that ask for the outcome of some words as JSON. -/
def jsonArgs (options words : List String) : List String :=
  options ++ "eval" :: "--json" :: "--" :: words

def replArgs (options : List String) : List String := options ++ ["repl"]

def lineOf (words : List String) : String := " ".intercalate words

theorem Response.after_empty (response : Response) : response.after .empty = response := by
  cases response with
  | done exit output => exact congrArg (done exit) (Output.empty_append output)
  | usage exit => rfl
  | crashed output crash => exact congrArg (crashed · crash) (Output.empty_append output)

/-- **Serving**: the options of the program lead to settings that it can use, with a precision
within bounds, and ask for nothing to be logged. -/
structure Serves (around : Surroundings) (files : Files) (options : List String)
    (settings : Settings) : Prop where
  asked : ∃ config, readGlobals options = some (⟨config, false, none⟩, []) ∧
    config.any Path.holdsNul = false ∧ Settings.load around files config = .ok settings
  usable : Log.Form.isUsable settings.format = true
  precise : settings.Precise
  quiet : settings.level ≠ .debug

namespace Serves

variable {around : Surroundings} {files : Files} {options : List String} {settings : Settings}

theorem silent (serves : Serves around files options settings) :
    (sessionOf around settings false).logs = false := by
  simp [sessionOf, serves.quiet]

/-- A command behind the options starts with the settings and logs nothing. -/
theorem start_eq (serves : Serves around files options settings) {word : String} {name : Name}
    (plain : Argument.of word = .word word) (known : Name.of? word = some name)
    (rest : List String) :
    start around files (options ++ word :: rest) =
      startCommand .empty (sessionOf around settings false) name rest := by
  obtain ⟨config, asked, nul, loaded⟩ := serves.asked
  have names : Names (options ++ word :: rest) config false name rest :=
    ⟨⟨word, readGlobals_append_word asked plain rest, known⟩, nul⟩
  rw [names.start_eq loaded serves.usable, openingOf_of_silent serves.silent]

theorem plain (serves : Serves around files options settings) :
    (sessionOf around settings false).Plain := by
  obtain ⟨config, -, -, loaded⟩ := serves.asked
  have found := Settings.findIn_of_load loaded
  exact ⟨serves.silent, (Settings.usable_iff_precise found).2 serves.precise⟩

theorem run_eval (serves : Serves around files options settings) (words : List String)
    (input : String) :
    runIn around files (evalArgs options words) input =
      runEval (sessionOf around settings false) (lineOf words) := by
  have asked : readEval ("--" :: words) = some ⟨false, false, words⟩ := rfl
  rw [runIn, evalArgs, serves.start_eq (by decide) (by decide : Name.of? "eval" = some .eval)]
  simp only [startCommand, startEval_of_words asked]
  exact Response.after_empty _

theorem run_json (serves : Serves around files options settings) (words : List String)
    (input : String) :
    runIn around files (jsonArgs options words) input =
      runJson (sessionOf around settings false) (lineOf words) := by
  have asked : readEval ("--json" :: "--" :: words) = some ⟨true, false, words⟩ := rfl
  rw [runIn, jsonArgs, serves.start_eq (by decide) (by decide : Name.of? "eval" = some .eval)]
  simp only [startCommand, startEval, asked]
  exact Response.after_empty _

theorem run_repl (serves : Serves around files options settings) {line answer : String}
    (typeable : Typeable line)
    (answered : Session.own around.console settings.precision line = answer ++ "\n") :
    runIn around files (replArgs options) (line ++ "\n") =
      .done 0 (.out (exchange (Session.bannerOn around.console)
        (around.console.plain settings.prompt) answer)) := by
  rw [runIn, replArgs, serves.start_eq (by decide) (by decide : Name.of? "repl" = some .repl)]
  exact serves.plain.exchange typeable answered

end Serves

/-! ## §4. One answer -/

theorem runJson_of_ofLine {session : Session} {line : String} {outcome : Outcome}
    (silent : session.logs = false) (answer : Outcome.ofLine (some line) = .ok outcome) :
    runJson session line = .done (if outcome.ok then 0 else 1) (.out (outcome.json ++ "\n")) := by
  simp [runJson, answer, Session.logOf, silent, Output.append_def, Output.err, Output.out]

/-- Plain evaluation reports a failure as it is, if the line has no escape character. -/
theorem runEval_of_failure {session : Session} {line : String} {failure : Failure}
    (silent : session.logs = false)
    (refused : evaluate (some line) = .error (.failure failure)) (plain : '\x1b' ∉ line.toList) :
    runEval session line = .done 1 (.err ("Error: " ++ failure.describe ++ "\n")) := by
  simp [runEval, refused, Session.logOf, silent, report, Screen.withoutStyles_report refused plain,
    Output.append_def, Output.err]

theorem escape_not_mem_lineOf {words : List String}
    (plain : ∀ word ∈ words, '\x1b' ∉ word.toList) : '\x1b' ∉ (lineOf words).toList := by
  intro member
  rcases Text.mem_intercalate member with blank | ⟨word, among, inside⟩
  · exact absurd blank (by decide)
  · exact plain word among inside

section answers

variable (around : Surroundings) (files : Files) (options words : List String)
  (settings : Settings) (outcome : Outcome)

/-- **Answering with a value**: `eval` shows its text, the outcome is written as JSON, and a session
shows what its console makes of the text; that is the text, if it fits into a line. -/
structure AnswersValue (x : Double) (shown : String) : Prop where
  value : evaluate (some (lineOf words)) = .ok x
  text : Display.text settings.precision x = .ok shown
  eval : ∀ input,
    runIn around files (evalArgs options words) input = .done 0 (.out (shown ++ "\n"))
  json : ∀ input,
    runIn around files (jsonArgs options words) input = .done 0 (.out (outcome.json ++ "\n"))
  repl : Typeable (lineOf words) →
    runIn around files (replArgs options) (lineOf words ++ "\n") =
      .done 0 (.out (exchange (Session.bannerOn around.console)
        (around.console.plain settings.prompt) (around.console.plain shown)))
  same : shown.length ≤ around.console.width → around.console.plain shown = shown

/-- **Answering with a failure**: `eval` reports it, the outcome is written as JSON, and a session
shows what its console makes of the message; that is the message behind its heading, if together
they are verbatim.  A control character of the message is one of the line. -/
structure AnswersFailure (failure : Failure) : Prop where
  refused : evaluate (some (lineOf words)) = .error (.failure failure)
  eval : ∀ input, runIn around files (evalArgs options words) input =
    .done 1 (.err ("Error: " ++ failure.describe ++ "\n"))
  json : ∀ input,
    runIn around files (jsonArgs options words) input = .done 1 (.out (outcome.json ++ "\n"))
  repl : Typeable (lineOf words) →
    runIn around files (replArgs options) (lineOf words ++ "\n") =
      .done 0 (.out (exchange (Session.bannerOn around.console)
        (around.console.plain settings.prompt) (around.console.fault failure.message)))
  same : Screen.Verbatim around.console.width ("Error: " ++ failure.message) →
    around.console.fault failure.message = "Error: " ++ failure.message
  controls : ∀ c ∈ failure.message.toList, IsControl c → c ∈ (lineOf words).toList

/-- **One answer**: the line has a value or a failure, and each way of asking answers with it.
Words that make the same line are answered alike, and the answer as JSON is the same under any
other settings, wherever they come from. -/
structure OneAnswer : Prop where
  answer : ∃ outcome, Outcome.ofLine (some (lineOf words)) = .ok outcome ∧
    ((∃ x shown, AnswersValue around files options words settings outcome x shown) ∨
      ∃ failure, AnswersFailure around files options words settings outcome failure)
  joined : ∀ words' input, lineOf words' = lineOf words →
    runIn around files (evalArgs options words') input =
        runIn around files (evalArgs options words) input ∧
      runIn around files (jsonArgs options words') input =
        runIn around files (jsonArgs options words) input
  unsettled : ∀ around' files' options' settings' input, Serves around' files' options' settings' →
    runIn around' files' (jsonArgs options' words) input =
      runIn around files (jsonArgs options words) input

end answers

variable {around : Surroundings} {files : Files} {options words : List String}
  {settings : Settings}

theorem Serves.answersValue (serves : Serves around files options settings) {x : Double}
    (value : evaluate (some (lineOf words)) = .ok x) :
    ∃ shown,
      AnswersValue around files options words settings (.success (lineOf words) x) x shown := by
  obtain ⟨shown, text⟩ := Display.exists_text serves.plain.usable x
  refine ⟨shown, value, text, fun input => ?_, fun input => ?_, fun typeable => ?_,
    around.console.plain_of_text text⟩
  · rw [serves.run_eval]
    exact runEval_output serves.silent value text
  · rw [serves.run_json]
    exact runJson_of_ofLine serves.silent (Outcome.ofLine_of_value value)
  · exact serves.run_repl typeable (Session.own_of_value value text)

theorem Serves.answersFailure (serves : Serves around files options settings) {failure : Failure}
    (plain : '\x1b' ∉ (lineOf words).toList)
    (refused : evaluate (some (lineOf words)) = .error (.failure failure)) :
    AnswersFailure around files options words settings (.failure (lineOf words) failure)
      failure := by
  refine ⟨refused, fun input => ?_, fun input => ?_, fun typeable => ?_,
    around.console.fault_of_verbatim _, fun c member control => ?_⟩
  · rw [serves.run_eval]
    exact runEval_of_failure serves.silent refused plain
  · rw [serves.run_json]
    exact runJson_of_ofLine serves.silent (Outcome.ofLine_of_failure refused)
  · exact serves.run_repl typeable (Session.own_of_failure typeable.filled refused)
  · exact Line.mem_of_mem_message refused control member

/-- **The three ways of asking have one answer**, for any words without escape characters. -/
theorem front_ends_agree (serves : Serves around files options settings)
    (plain : ∀ word ∈ words, '\x1b' ∉ word.toList) :
    OneAnswer around files options words settings where
  answer := by
    rcases evaluate_cases (some (lineOf words)) with ⟨x, value⟩ | ⟨failure, refused⟩
    · obtain ⟨shown, answers⟩ := serves.answersValue value
      exact ⟨_, Outcome.ofLine_of_value value, .inl ⟨x, shown, answers⟩⟩
    · have answers := serves.answersFailure (escape_not_mem_lineOf plain) refused
      exact ⟨_, Outcome.ofLine_of_failure refused, .inr ⟨failure, answers⟩⟩
  joined words' input same := by
    rw [serves.run_eval, serves.run_eval, serves.run_json, serves.run_json, same]
    exact ⟨rfl, rfl⟩
  unsettled around' files' options' settings' input serves' := by
    rw [serves.run_json, serves'.run_json]
    -- Neither session logs, and nothing else of them is asked for.
    simp [runJson, Session.logOf, serves.silent, serves'.silent]

theorem serves_default : Serves .usual (fun _ => .absent) [] .default where
  asked := ⟨none, by decide, by decide, Settings.load_usual_of_ok rfl⟩
  usable := by decide +kernel
  precise p given := nomatch given
  quiet := by decide

/-- Without a settings file the words of a root of a negative number have one answer. -/
theorem front_ends_agree_default :
    Serves .usual (fun _ => .absent) [] .default ∧
      OneAnswer .usual (fun _ => .absent) [] ["root", "2", "-4"] .default :=
  ⟨serves_default, front_ends_agree serves_default (by decide)⟩

/-- **A bell is for `eval` only**: the message for the unknown function holds the bell of its name,
`eval` reports it so, and a session shows the message without it. -/
theorem front_ends_differ_bell :
    Serves .usual (fun _ => .absent) [] .default ∧ Typeable (lineOf ["bar\x07", "5"]) ∧
      ∃ failure, evaluate (some (lineOf ["bar\x07", "5"])) = .error (.failure failure) ∧
        run (fun _ => .absent) (evalArgs [] ["bar\x07", "5"]) "" =
          .done 1 (.err ("Error: " ++ failure.describe ++ "\n")) ∧
        run (fun _ => .absent) (replArgs []) (lineOf ["bar\x07", "5"] ++ "\n") =
          .done 0 (.out (exchange Session.banner "calc> " "Error: Unknown function: bar")) ∧
        "Error: Unknown function: bar" ≠ "Error: " ++ failure.message := by
  have refused : evaluate (some (lineOf ["bar\x07", "5"])) =
      .error (.failure (Line.failureAt .unknownFunction "bar\x07 5" ⟨"bar\x07", 0⟩ "bar\x07")) := by
    decide +kernel
  have typeable : Typeable (lineOf ["bar\x07", "5"]) :=
    { unbroken := by
        unfold Unbroken
        decide +kernel
      filled := fun blanks => absurd (blanks 'b' (by decide)) (by decide)
      stays := by decide +kernel }
  exact ⟨serves_default, typeable, _, refused, by decide +kernel, by decide +kernel, by decide⟩

end Command

end LineCalc
