/-
Precision — which precisions serve for showing results.

Loading accepts every precision of at least one.  Showing results takes no
more than 2147483647 digits, and whether a value can be shown depends on
the precision alone.  So a precision that was accepted serves for every
value, every expression and every session, or for none: then evaluation
ends early, and a session ends at its first line with a value.

## Main definitions

  * `Display.refusalAt` — why no value can be shown at a precision.
  * `Session.refusalOf` — why a line ends a session early.
  * `Settings.Precise` — settings whose precision is within bounds.
  * `Settings.Displaying` — what becomes of values under settings.

## Main statements

  * `Session.respond_next` — how a session goes on after a line.
  * `Session.transcript_refusal` — the first line that is refused ends the
    session early, and no other does.
  * `Command.Names.displayed_iff`, `Command.Names.endsWell_iff` — when a value
    is displayed, and when a session ends well.
  * `Settings.displaying_of_find` — what becomes of values under the settings
    found.
  * `Settings.find_too_precise` — a precision that is accepted and shows
    nothing.
-/

import LineCalc.Proofs.Session.Dialogue
import LineCalc.Proofs.Settings.Loading

namespace LineCalc

/-! ## §1. One value -/

namespace Display

/-- **Why no value can be shown** at an optional precision, if so. -/
def refusalAt (precision : Option Int) : Option Refusal := precision.bind refusal?

theorem refusalAt_eq_none_iff {precision : Option Int} :
    refusalAt precision = none ↔ Usable precision := by
  cases precision with
  | none =>
    constructor
    · intro _ p given
      exact nomatch given
    · intro _
      rfl
  | some p =>
    show refusal? p = none ↔ _
    rw [refusal?_eq_none]
    constructor
    · intro bounds q given
      obtain rfl := Option.some.inj given
      exact bounds
    · intro usable
      exact usable p rfl

theorem text_of_refusalAt {precision : Option Int} {refusal : Refusal}
    (refused : refusalAt precision = some refusal) (x : Double) :
    text precision x = .error refusal := by
  obtain ⟨p, rfl, why⟩ := Option.bind_eq_some_iff.1 refused
  simp only [text, why]

/-- **One value has a text if all have**. -/
theorem exists_text_iff {precision : Option Int} (x : Double) :
    (∃ shown, text precision x = .ok shown) ↔ Usable precision := by
  constructor
  · rintro ⟨shown, hasText⟩
    rw [← refusalAt_eq_none_iff]
    cases refused : refusalAt precision with
    | none => rfl
    | some refusal => exact nomatch (text_of_refusalAt refused x).symm.trans hasText
  · intro usable
    exact exists_text usable x

end Display

/-! ## §2. Sessions -/

namespace Session

/-- **Why a line ends a session early**, if so: it has a value, and no value can be shown. -/
def refusalOf (session : Session) (line : String) : Option Display.Refusal :=
  if (evaluate (some line)).isOk then Display.refusalAt session.settings.precision else none

theorem refusalOf_of_error {session : Session} {line : String} {fault : Fault}
    (failed : evaluate (some line) = .error fault) : session.refusalOf line = none := by
  simp [refusalOf, failed, Except.isOk, Except.toBool]

theorem refusalOf_of_ok {session : Session} {line : String} {x : Double}
    (value : evaluate (some line) = .ok x) :
    session.refusalOf line = Display.refusalAt session.settings.precision := by
  simp [refusalOf, value, Except.isOk, Except.toBool]

/-- A line that is neither blank nor an exit word is refused, or the session goes on. -/
theorem answer_trim_next (session : Session) (line : String) :
    (session.answer (String.ofList (Text.trim line.toList))).2 =
      ((session.refusalOf line).map Next.refuse).getD .goOn := by
  unfold answer
  cases outcome : evaluate (some (String.ofList (Text.trim line.toList))) with
  | ok x =>
    rw [refusalOf_of_ok (evaluate_of_trim_eq_ok outcome)]
    cases refused : Display.refusalAt session.settings.precision with
    | none =>
      obtain ⟨shown, text⟩ := Display.exists_text (Display.refusalAt_eq_none_iff.1 refused) x
      simp only [text]
      rfl
    | some refusal =>
      simp only [Display.text_of_refusalAt refused x]
      rfl
  | error fault =>
    obtain ⟨fault', whole, -⟩ := evaluate_of_trim_eq_error outcome
    rw [refusalOf_of_error whole]
    rfl

/-- **How a session goes on after a line**: an exit word stops it, a line that is refused ends it
early, and after any other line it goes on. -/
theorem respond_next (session : Session) (line : String) :
    (session.respond line).2 =
      if isExit line then .stop else ((session.refusalOf line).map Next.refuse).getD .goOn := by
  unfold respond
  by_cases blanks : Text.Blanks line.toList
  · have empty : Text.trim line.toList = [] := Text.trim_eq_nil_iff.2 blanks
    have stays : isExit line = false := by
      rw [isExit, empty]
      decide
    have ignored : session.refusalOf line = none := by
      cases outcome : evaluate (some line) with
      | ok x => exact absurd blanks (not_blanks_of_value outcome)
      | error fault => exact refusalOf_of_error outcome
    rw [stays, ignored, empty]
    rfl
  · have filled : ¬ (Text.trim line.toList).isEmpty = true := by
      rwa [List.isEmpty_iff, Text.trim_eq_nil_iff]
    simp only [if_neg filled, ← session.answer_trim_next line, isExit]
    split <;> rfl

/-- **The first line that is refused ends a session early**, unless the session stops before. -/
theorem transcript_refusal (session : Session) (lines : List String) :
    (session.transcript lines).2 =
      (lines.takeWhile fun line => !isExit line).findSome? session.refusalOf := by
  induction lines generalizing session with
  | nil => rfl
  | cons line rest ih =>
    have next := session.respond_next line
    -- The time of a session has no part in what it refuses.
    have later : (session.next.transcript rest).2 =
        (rest.takeWhile fun line => !isExit line).findSome? session.refusalOf := ih session.next
    unfold transcript
    cases ends : isExit line with
    | true =>
      rw [ends] at next
      simp [next, ends]
    | false =>
      rw [ends] at next
      cases refused : session.refusalOf line with
      | none =>
        rw [refused] at next
        simp [next, ends, refused, later]
      | some refusal =>
        rw [refused] at next
        simp [next, ends, refused]

/-- **The lines that a session hears**: those before the first that stops it. -/
def heard (input : String) : List String :=
  (Text.lines input).takeWhile fun line => !isExit line

theorem finish_eq (session : Session) (opening : Output) (input : String) :
    ∃ output, Command.finish opening session input =
      match (heard input).findSome? session.refusalOf with
      | none => .done 0 output
      | some refusal => .crashed output (.precision refusal) := by
  rw [heard, ← transcript_refusal]
  unfold Command.finish run
  cases session.transcript (Text.lines input) with
  | mk output ending => cases ending <;> exact ⟨_, rfl⟩

/-- No line is refused if every value can be shown, or if there is none to show. -/
theorem findSome?_refusalOf_eq_none_iff (session : Session) (lines : List String) :
    lines.findSome? session.refusalOf = none ↔
      Display.Usable session.settings.precision ∨
        ∀ line ∈ lines, ∀ x, evaluate (some line) ≠ .ok x := by
  rw [List.findSome?_eq_none_iff, ← Display.refusalAt_eq_none_iff]
  constructor
  · intro spared
    cases refused : Display.refusalAt session.settings.precision with
    | none => exact .inl rfl
    | some refusal =>
      refine .inr fun line among x value => ?_
      have spares := spared line among
      rw [refusalOf_of_ok value, refused] at spares
      exact nomatch spares
  · rintro (usable | valueless) line among
    · unfold refusalOf
      rw [usable, ite_self]
    · cases outcome : evaluate (some line) with
      | ok x => exact absurd outcome (valueless line among x)
      | error fault => exact refusalOf_of_error outcome

/-- If a line has a value and no value can be shown, a line is refused, and for that reason. -/
theorem findSome?_refusalOf_of_ok {session : Session} {lines : List String} {line : String}
    {x : Double} {refusal : Display.Refusal} (among : line ∈ lines)
    (value : evaluate (some line) = .ok x)
    (refused : Display.refusalAt session.settings.precision = some refusal) :
    lines.findSome? session.refusalOf = some refusal := by
  cases first : lines.findSome? session.refusalOf with
  | none =>
    have spared := List.findSome?_eq_none_iff.1 first line among
    rw [refusalOf_of_ok value, refused] at spared
    exact nomatch spared
  | some other =>
    obtain ⟨line', -, why⟩ := List.exists_of_findSome?_eq_some first
    -- Whichever line it is, it is refused for its value.
    cases outcome : evaluate (some line') with
    | ok x' =>
      rw [refusalOf_of_ok outcome, refused] at why
      exact why.symm
    | error fault =>
      rw [refusalOf_of_error outcome] at why
      exact nomatch why

end Session

/-! ## §3. Settings -/

namespace Settings

/-- **Precise settings**: no precision, or one that is not above 2147483647. -/
def Precise (settings : Settings) : Prop := ∀ p, settings.precision = some p → p ≤ 2147483647

/-- The reason for which a precision above the bound is refused. -/
def excessRefusal (precision : Int) : Display.Refusal :=
  if precision < 9223372036854775808 then .tooBig else .tooManyDigits

/-- The precision of settings that were found can be used exactly if it is not above the bound. -/
theorem usable_iff_precise {around : Surroundings} {files : Files} {config : Option String}
    {settings : Settings} (found : findIn around files config = .ok settings) :
    Display.Usable settings.precision ↔ settings.Precise := by
  constructor
  · intro usable p given
    exact (usable p given).2
  · intro precise p given
    exact ⟨Int.le_trans Int.one_nonneg (one_le_of_findIn found given), precise p given⟩

theorem refusalAt_of_excess {settings : Settings} {p : Int} (given : settings.precision = some p)
    (excess : 2147483647 < p) : Display.refusalAt settings.precision = some (excessRefusal p) := by
  rw [given]
  show Display.refusal? p = _
  unfold Display.refusal? excessRefusal
  rw [if_neg (by omega)]
  by_cases huge : p < 9223372036854775808
  · rw [if_neg (Int.not_le.2 huge), if_pos excess, if_pos huge]
  · rw [if_pos (Int.not_lt.1 huge), if_neg huge]

end Settings

/-! ## §4. The program -/

namespace Command

/-- Arguments behind `eval` that are words, after options that ask for nothing, are evaluated. -/
theorem startEval_of_words {session : Session} {args words : List String}
    (asked : readEval args = some ⟨false, false, words⟩) :
    startEval session args = runEval session (" ".intercalate words) := by
  simp [startEval, asked]

theorem runEval_of_usable (session : Session) {line : String} {x : Double}
    (value : evaluate (some line) = .ok x)
    (usable : Display.Usable session.settings.precision) :
    ∃ log shown, Display.text session.settings.precision x = .ok shown ∧
      runEval session line = .done 0 ⟨shown ++ "\n", log⟩ := by
  obtain ⟨shown, text⟩ := Display.exists_text usable x
  refine ⟨session.logOf line, shown, text, ?_⟩
  simp [runEval, value, text, Output.append_def, Output.err, Output.out]

theorem runEval_of_refusalAt (session : Session) {line : String} {x : Double}
    {refusal : Display.Refusal} (value : evaluate (some line) = .ok x)
    (refused : Display.refusalAt session.settings.precision = some refusal) :
    runEval session line = .crashed (.err (session.logOf line)) (.precision refusal) := by
  simp [runEval, value, Display.text_of_refusalAt refused x]

namespace Names

variable {files : Files} {args rest words : List String} {config : Option String} {verbose : Bool}
  {settings : Settings} {line : String} {x : Double} {p : Int}

theorem run_eval (names : Names args config verbose .eval rest)
    (found : Settings.find files config = .ok settings)
    (usable : Log.Form.isUsable settings.format = true)
    (asked : readEval rest = some ⟨false, false, words⟩) (input : String) :
    ∃ log, run files args input =
      (runEval (sessionOf .usual settings verbose) (" ".intercalate words)).after (.err log) := by
  have started := names.start_eq (Settings.load_usual_of_ok found) usable
  obtain ⟨log, opening⟩ := openingOf_eq_err .usual (sessionOf .usual settings verbose)
  refine ⟨log, ?_⟩
  rw [run, runIn, started, ← opening]
  simp only [startCommand, startEval_of_words asked]
  rfl

theorem run_repl (names : Names args config verbose .repl rest)
    (found : Settings.find files config = .ok settings)
    (usable : Log.Form.isUsable settings.format = true)
    (bare : readBare rest = some (false, [])) (input : String) :
    ∃ log, run files args input = finish (.err log) (sessionOf .usual settings verbose) input := by
  have started := names.start_eq (Settings.load_usual_of_ok found) usable
  obtain ⟨log, opening⟩ := openingOf_eq_err .usual (sessionOf .usual settings verbose)
  refine ⟨log, ?_⟩
  rw [run, runIn, started, ← opening]
  simp [startCommand, startBare, bare, Start.respond]

/-- **A value is displayed** by a run exactly if its settings are precise, and have a form of log
lines that can be used. -/
theorem displayed_iff (names : Names args config verbose .eval rest)
    (found : Settings.find files config = .ok settings)
    (asked : readEval rest = some ⟨false, false, words⟩)
    (value : evaluate (some (" ".intercalate words)) = .ok x) (input : String) :
    (∃ log shown, Display.text settings.precision x = .ok shown ∧
      run files args input = .done 0 ⟨shown ++ "\n", log⟩) ↔
        Log.Form.isUsable settings.format = true ∧ settings.Precise := by
  rw [← Settings.usable_iff_precise found]
  constructor
  · rintro ⟨log, shown, text, displayed⟩
    refine ⟨?_, (Display.exists_text_iff x).1 ⟨shown, text⟩⟩
    by_contra useless
    rw [names.run_of_form found (Bool.eq_false_iff.2 useless)] at displayed
    cases displayed
  · rintro ⟨usable, precise⟩
    obtain ⟨log, run⟩ := names.run_eval found usable asked input
    obtain ⟨more, shown, text, displayed⟩ :=
      runEval_of_usable (sessionOf .usual settings verbose) value precise
    refine ⟨log ++ more, shown, text, ?_⟩
    rw [run, displayed]
    simp [Response.after, Output.append_def, Output.err]

theorem run_eval_of_excess (names : Names args config verbose .eval rest)
    (found : Settings.find files config = .ok settings)
    (asked : readEval rest = some ⟨false, false, words⟩)
    (value : evaluate (some (" ".intercalate words)) = .ok x)
    (usable : Log.Form.isUsable settings.format = true) (given : settings.precision = some p)
    (excess : 2147483647 < p) (input : String) :
    ∃ output, run files args input = .crashed output (.precision (Settings.excessRefusal p)) := by
  obtain ⟨log, run⟩ := names.run_eval found usable asked input
  have refused := Settings.refusalAt_of_excess given excess
  rw [run, runEval_of_refusalAt (sessionOf .usual settings verbose) value refused]
  exact ⟨_, rfl⟩

/-- **A session ends well** exactly if its settings are precise or no line that it hears has a value,
and its form of log lines can be used. -/
theorem endsWell_iff (names : Names args config verbose .repl rest)
    (found : Settings.find files config = .ok settings)
    (bare : readBare rest = some (false, [])) (input : String) :
    (∃ output, run files args input = .done 0 output) ↔
      Log.Form.isUsable settings.format = true ∧
        (settings.Precise ∨ ∀ line ∈ Session.heard input, ∀ x, evaluate (some line) ≠ .ok x) := by
  cases usable : Log.Form.isUsable settings.format with
  | false =>
    rw [names.run_of_form found usable]
    simp
  | true =>
    obtain ⟨log, run⟩ := names.run_repl found usable bare input
    let session : Session := sessionOf .usual settings verbose
    obtain ⟨output, ending⟩ := session.finish_eq (.err log) input
    have spared := session.findSome?_refusalOf_eq_none_iff (Session.heard input)
    rw [run, ending, ← Settings.usable_iff_precise found]
    refine Iff.trans ?_ (spared.trans (by simp [session, sessionOf]))
    cases (Session.heard input).findSome? session.refusalOf <;> simp

/-- At a precision above the bound a session ends early instead if a line that it hears has a
value. -/
theorem run_repl_of_excess (names : Names args config verbose .repl rest)
    (found : Settings.find files config = .ok settings)
    (bare : readBare rest = some (false, [])) {input : String}
    (among : line ∈ Session.heard input) (value : evaluate (some line) = .ok x)
    (usable : Log.Form.isUsable settings.format = true) (given : settings.precision = some p)
    (excess : 2147483647 < p) :
    ∃ output, run files args input = .crashed output (.precision (Settings.excessRefusal p)) := by
  obtain ⟨log, run⟩ := names.run_repl found usable bare input
  have refused := Settings.refusalAt_of_excess given excess
  obtain ⟨output, ending⟩ := (sessionOf .usual settings verbose).finish_eq (.err log) input
  rw [Session.findSome?_refusalOf_of_ok among value refused] at ending
  exact ⟨output, run.trans ending⟩

end Names

end Command

namespace Settings

/-- **Displaying**: what becomes of values under settings that were found.  Every value has a text
if the settings are precise, and otherwise none has.  A line with a value is displayed by `eval`,
and a session on any input ends well, exactly if besides the form of log lines can be used; a
session whose lines have no values needs no precision.  Otherwise both end early, for the reason
for which the precision is refused. -/
structure Displaying (files : Files) (config : Option String) (settings : Settings) : Prop where
  value_iff : ∀ x, (∃ shown, Display.text settings.precision x = .ok shown) ↔ settings.Precise
  eval_iff : ∀ {args verbose rest words x}, Command.Names args config verbose .eval rest →
    Command.readEval rest = some ⟨false, false, words⟩ →
    evaluate (some (" ".intercalate words)) = .ok x → ∀ input,
    ((∃ log shown, Display.text settings.precision x = .ok shown ∧
      Command.run files args input = .done 0 ⟨shown ++ "\n", log⟩) ↔
        Log.Form.isUsable settings.format = true ∧ settings.Precise)
  repl_iff : ∀ {args verbose rest}, Command.Names args config verbose .repl rest →
    Command.readBare rest = some (false, []) → ∀ input,
    ((∃ output, Command.run files args input = .done 0 output) ↔
      Log.Form.isUsable settings.format = true ∧
        (settings.Precise ∨ ∀ line ∈ Session.heard input, ∀ x, evaluate (some line) ≠ .ok x))
  eval_refused : ∀ {args verbose rest words x p}, Command.Names args config verbose .eval rest →
    Command.readEval rest = some ⟨false, false, words⟩ →
    evaluate (some (" ".intercalate words)) = .ok x →
    Log.Form.isUsable settings.format = true →
    settings.precision = some p → 2147483647 < p → ∀ input,
    ∃ output, Command.run files args input = .crashed output (.precision (excessRefusal p))
  repl_refused : ∀ {args verbose rest input line x p}, Command.Names args config verbose .repl rest →
    Command.readBare rest = some (false, []) →
    line ∈ Session.heard input → evaluate (some line) = .ok x →
    Log.Form.isUsable settings.format = true →
    settings.precision = some p → 2147483647 < p →
    ∃ output, Command.run files args input = .crashed output (.precision (excessRefusal p))

/-- **What becomes of values** under the settings found. -/
theorem displaying_of_find {files : Files} {config : Option String} {settings : Settings}
    (found : find files config = .ok settings) : Displaying files config settings where
  value_iff x := (Display.exists_text_iff x).trans (usable_iff_precise found)
  eval_iff names asked value input := names.displayed_iff found asked value input
  repl_iff names bare input := names.endsWell_iff found bare input
  eval_refused names asked value usable given excess input :=
    names.run_eval_of_excess found asked value usable given excess input
  repl_refused names bare among value usable given excess :=
    names.run_repl_of_excess found bare among value usable given excess

/-- The highest precision within the bound: it is accepted, and shows the value of a line. -/
theorem displaying_of_find_widest :
    ∃ settings files, find files none = .ok settings ∧ settings.precision = some 2147483647 ∧
      Displaying files none settings ∧
      ∃ log shown, Display.text settings.precision (.ofNat 2) = .ok shown ∧
        Command.run files ["eval", "1 + 1"] "" = .done 0 ⟨shown ++ "\n", log⟩ := by
  have found : find (Files.onlyDefault "[display]\nprecision = 2147483647\n".toUTF8) none =
      .ok { default with precision := some 2147483647, source := some defaultPath } := by
    decide +kernel
  have names : Command.Names ["eval", "1 + 1"] none false .eval ["1 + 1"] :=
    ⟨⟨"eval", by decide, by decide⟩, rfl⟩
  have asked : Command.readEval ["1 + 1"] = some ⟨false, false, ["1 + 1"]⟩ := by decide
  have value : evaluate (some (" ".intercalate ["1 + 1"])) = .ok (.ofNat 2) := by decide +kernel
  have displaying := displaying_of_find found
  refine ⟨_, _, found, rfl, displaying, (displaying.eval_iff names asked value "").2 ?_⟩
  refine ⟨by decide +kernel, fun p given => ?_⟩
  obtain rfl := Option.some.inj given
  exact Int.le_refl _

/-- One more: it is accepted as well, but neither `eval` nor a session shows the value of a line. -/
theorem find_too_precise :
    ∃ settings files, find files none = .ok settings ∧ settings.precision = some 2147483648 ∧
      (∀ x, Display.text settings.precision x = .error .tooBig) ∧
      Command.run files ["eval", "1 + 1"] "" = .crashed .empty (.precision .tooBig) ∧
      Command.run files ["repl"] "1 + 1\n" =
        .crashed (.out (Session.banner ++ "calc> ")) (.precision .tooBig) := by
  have found : find (Files.onlyDefault "[display]\nprecision = 2147483648\n".toUTF8) none =
      .ok { default with precision := some 2147483648, source := some defaultPath } := by
    decide +kernel
  refine ⟨_, _, found, rfl, fun x => ?_, by decide +kernel, by decide +kernel⟩
  exact Display.text_of_refusalAt (by decide) x

end Settings

end LineCalc
