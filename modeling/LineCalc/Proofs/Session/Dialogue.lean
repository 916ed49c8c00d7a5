/-
Dialogue — a session answers its lines one by one.

The output of a session is put together from answers to single lines: the
prompt and the line's own output, over and over, up to the first line that
ends the session or to the end of the input.  A line's own output is a
function of the line and of the precision, so no line has a say in how
another is answered, no failure ends a session, and nothing behind a line
that ends it is looked at.

What is shown is up to the console.  Every console shows verbatim texts as
they are, and so the texts of results, if they fit into a line.

## Main definitions

  * `Session.isExit` — a line that ends a session.
  * `Session.own`, `Session.dialogue` — a line's own output, and the output
    put together from these.
  * `Session.OwnOutput` — what the own output of every line is.
  * `Session.Conversing` — runs that hold a dialogue.

## Main statements

  * `Session.ownOutput_own` — at a precision that can be used, own outputs
    are as described.
  * `Session.Plain.respond_eq` — one line gives its own output.
  * `Session.Plain.transcript_eq` — many lines give a dialogue.
  * `Session.repl_eq_dialogue` — every session of the program is a dialogue.
-/

import LineCalc.Proofs.Command.Start
import LineCalc.Proofs.Evaluation
import LineCalc.Proofs.Line.Trimmed
import LineCalc.Proofs.Screen.Steady

namespace LineCalc

/-! ## §1. Inputs and precisions -/

namespace Text

/-- **Unbroken line**: it has no line end. -/
def Unbroken (line : String) : Prop := '\n' ∉ line.toList ∧ '\r' ∉ line.toList

/-- The text that lines make, each with a line feed behind it. -/
def ofLines (lines : List String) : String := String.join (lines.map (· ++ "\n"))

/-- **Lines that are written are read again**. -/
theorem lines_ofLines {written : List String} (unbroken : ∀ line ∈ written, Unbroken line) :
    lines (ofLines written) = written := by
  have chars : (ofLines written).toList =
      (written.map String.toList).flatMap fun line => line ++ ['\n'] := by
    clear unbroken
    unfold ofLines
    induction written with
    | nil => rfl
    | cons line rest ih =>
      rw [List.map_cons, String.join_cons, String.toList_append, ih]
      simp
  -- No line holds a line feed, and there are no carriage returns to be unified with one.
  have feeds : ∀ line ∈ written.map String.toList, '\n' ∉ line := by
    intro line among
    obtain ⟨text, member, rfl⟩ := List.mem_map.1 among
    exact (unbroken text member).1
  have returns : '\r' ∉ (written.map String.toList).flatMap fun line => line ++ ['\n'] := by
    intro returned
    obtain ⟨line, among, inside⟩ := List.mem_flatMap.1 returned
    obtain ⟨text, member, rfl⟩ := List.mem_map.1 among
    rcases List.mem_append.1 inside with here | feed
    · exact (unbroken text member).2 here
    · exact absurd (List.mem_singleton.1 feed) (by decide)
  rw [lines, chars, unifyLineEnds_eq_self returns, feedLines_ended feeds]
  simp [Function.comp_def]

end Text

/-- **Usable precision**: every value has a text at it. -/
def Display.Usable (precision : Option Int) : Prop :=
  ∀ p, precision = some p → 0 ≤ p ∧ p ≤ 2147483647

theorem Display.exists_text {precision : Option Int} (usable : Usable precision) (x : Double) :
    ∃ shown, Display.text precision x = .ok shown := by
  cases precision with
  | none => exact ⟨x.text, rfl⟩
  | some p =>
    refine ⟨withDigits p.toNat x, ?_⟩
    simp only [Display.text, refusal?_eq_none.2 (usable p rfl)]

namespace Session

/-! ## §2. One line -/

/-- A line that ends a session: trimmed and in lower case, it is an exit word. -/
def isExit (line : String) : Bool :=
  exitWords.contains (String.ofList (Text.lower (Text.trim line.toList)))

/-- **A line's own output** on a console, at a precision: nothing for a blank line, and otherwise
the value of the line or the message of its failure, as they are shown. -/
def own (console : Screen.Console) (precision : Option Int) (line : String) : String :=
  if (Text.trim line.toList).isEmpty then ""
  else
    match evaluate (some line) with
    | .ok x => ((Display.text precision x).toOption.map fun t => console.plain t ++ "\n").getD ""
    | .error fault => console.fault fault.message ++ "\n"

/-- **Own outputs**: what a function gives for each kind of line.  A text is shown as it is if it
is verbatim, and the text of a value is if it fits into a line. -/
structure OwnOutput (console : Screen.Console) (precision : Option Int) (own : String → String) :
    Prop where
  blank : ∀ line, Text.Blanks line.toList → own line = ""
  value : ∀ line x, evaluate (some line) = .ok x →
    ∃ shown, Display.text precision x = .ok shown ∧ own line = console.plain shown ++ "\n" ∧
      (shown.length ≤ console.width → own line = shown ++ "\n")
  failure : ∀ line failure, ¬ Text.Blanks line.toList →
    evaluate (some line) = .error (.failure failure) →
    own line = console.fault failure.message ++ "\n" ∧
      (Screen.Verbatim console.width ("Error: " ++ failure.message) →
        own line = "Error: " ++ failure.message ++ "\n")

theorem not_blanks_of_value {line : String} {x : Double} (value : evaluate (some line) = .ok x) :
    ¬ Text.Blanks line.toList := by
  intro blanks
  have empty : Text.trim line.toList = [] := Text.trim_eq_nil_iff.2 blanks
  have refused : Line.read line = .error (.whole .emptyExpression) := by
    simp [Line.read, empty, throw, throwThe, MonadExceptOf.throw]
  rw [evaluate_eq_failure refused] at value
  exact nomatch value

section own

variable {console : Screen.Console} {precision : Option Int} {line : String}

theorem own_of_not_blanks (filled : ¬ Text.Blanks line.toList) :
    own console precision line =
      match evaluate (some line) with
      | .ok x =>
        ((Display.text precision x).toOption.map fun t => console.plain t ++ "\n").getD ""
      | .error fault => console.fault fault.message ++ "\n" := by
  unfold own
  rw [if_neg]
  rwa [List.isEmpty_iff, Text.trim_eq_nil_iff]

theorem own_of_value {shown : String} {x : Double} (value : evaluate (some line) = .ok x)
    (text : Display.text precision x = .ok shown) :
    own console precision line = console.plain shown ++ "\n" := by
  rw [own_of_not_blanks (not_blanks_of_value value), value]
  simp only [text]
  rfl

theorem own_of_failure {fault : Fault} (filled : ¬ Text.Blanks line.toList)
    (refused : evaluate (some line) = .error fault) :
    own console precision line = console.fault fault.message ++ "\n" := by
  rw [own_of_not_blanks filled, refused]

/-- **Own outputs are as described** at a precision that can be used. -/
theorem ownOutput_own (usable : Display.Usable precision) :
    OwnOutput console precision (own console precision) where
  blank line blanks := by
    unfold own
    rw [if_pos (List.isEmpty_iff.2 (Text.trim_eq_nil_iff.2 blanks))]
  value line x value := by
    obtain ⟨shown, text⟩ := Display.exists_text usable x
    have output : own console precision line = console.plain shown ++ "\n" :=
      own_of_value value text
    refine ⟨shown, text, output, fun fits => ?_⟩
    rw [output, console.plain_of_text text fits]
  failure line failure filled refused := by
    have output : own console precision line = console.fault failure.message ++ "\n" :=
      own_of_failure filled refused
    refine ⟨output, fun verbatim => ?_⟩
    have shown : console.fault failure.message = "Error: " ++ failure.message :=
      console.fault_of_verbatim _ verbatim
    rw [output, shown]

end own

/-- **Plain session**: nothing is logged, and the precision can be used. -/
structure Plain (session : Session) : Prop where
  quiet : session.logs = false
  usable : Display.Usable session.settings.precision

theorem Plain.next {session : Session} (plain : Plain session) : Plain session.next :=
  ⟨plain.quiet, plain.usable⟩

/-- The own outputs of a session: its own settings and its own console tell them. -/
def owns (session : Session) : String → String := own session.console session.settings.precision

/-- A session that logs nothing answers a line by the line's own output. -/
theorem Plain.answer_trim {session : Session} (plain : Plain session) {line : String}
    (filled : ¬ Text.Blanks line.toList) :
    session.answer (String.ofList (Text.trim line.toList)) =
      (.out (session.owns line), .goOn) := by
  unfold answer owns
  simp only [logOf, plain.quiet, Bool.false_eq_true, if_false]
  -- The trimmed line is evaluated; the own output is that of the line itself.
  cases outcome : evaluate (some (String.ofList (Text.trim line.toList))) with
  | ok x =>
    obtain ⟨shown, text⟩ := Display.exists_text plain.usable x
    rw [own_of_value (evaluate_of_trim_eq_ok outcome) text]
    simp only [text]
    exact congrArg (·, Next.goOn) (Output.empty_append _)
  | error fault =>
    obtain ⟨fault', whole, message⟩ := evaluate_of_trim_eq_error outcome
    rw [own_of_failure filled whole, message]
    exact congrArg (·, Next.goOn) (Output.empty_append _)

/-- **One line of a session**: it ends the session, or gives its own output and the session goes
on. -/
theorem Plain.respond_eq {session : Session} (plain : Plain session) (line : String) :
    session.respond line =
      if isExit line then (.empty, .stop) else (.out (session.owns line), .goOn) := by
  unfold respond
  by_cases blanks : Text.Blanks line.toList
  · have empty : Text.trim line.toList = [] := Text.trim_eq_nil_iff.2 blanks
    have stays : isExit line = false := by
      rw [isExit, empty]
      decide
    have nothing : session.owns line = "" := (ownOutput_own plain.usable).blank line blanks
    rw [stays, nothing, empty]
    rfl
  · have filled : ¬ (Text.trim line.toList).isEmpty = true := by
      rwa [List.isEmpty_iff, Text.trim_eq_nil_iff]
    simp only [if_neg filled, plain.answer_trim blanks]
    rfl

/-! ## §3. Many lines -/

/-- **Dialogue**: the prompt and the own output of each line before the first that ends the
session, the prompt once more, and a line end if no line ends the session. -/
def dialogue (prompt : String) (own : String → String) (lines : List String) : String :=
  String.join ((lines.takeWhile fun line => !isExit line).map fun line => prompt ++ own line) ++
    prompt ++ (if lines.any isExit then "" else "\n")

variable {prompt : String} {own : String → String} {line : String}

theorem dialogue_cons_exit (ends : isExit line = true) (rest : List String) :
    dialogue prompt own (line :: rest) = prompt := by
  simp [dialogue, ends]

theorem dialogue_cons_other (stays : isExit line = false) (rest : List String) :
    dialogue prompt own (line :: rest) = prompt ++ own line ++ dialogue prompt own rest := by
  simp [dialogue, stays, String.append_assoc]

theorem dialogue_append_exit (ends : isExit line = true) (before after : List String) :
    dialogue prompt own (before ++ line :: after) = dialogue prompt own (before ++ [line]) := by
  -- A line before may end the session itself; then neither is looked at.
  induction before with
  | nil => rw [List.nil_append, List.nil_append, dialogue_cons_exit ends, dialogue_cons_exit ends]
  | cons first before ih =>
    cases stays : isExit first with
    | true => rw [List.cons_append, List.cons_append, dialogue_cons_exit stays,
        dialogue_cons_exit stays]
    | false =>
      rw [List.cons_append, List.cons_append, dialogue_cons_other stays,
        dialogue_cons_other stays, ih]

/-- **Many lines of a session** give the dialogue, and nothing ends the session early. -/
theorem Plain.transcript_eq {session : Session} (plain : Plain session) (lines : List String) :
    session.transcript lines =
      (.out (dialogue session.promptText session.owns lines), none) := by
  induction lines generalizing session with
  | nil => simp [transcript, dialogue]
  | cons line rest ih =>
    have later : session.next.transcript rest =
        (.out (dialogue session.promptText session.owns rest), none) := ih plain.next
    unfold transcript
    rw [plain.respond_eq line]
    -- The session stops at the line, or its own output stands before the rest of the dialogue.
    cases ends : isExit line with
    | true =>
      rw [dialogue_cons_exit ends]
      exact congrArg (·, none) (Output.append_empty _)
    | false =>
      simp only [Bool.false_eq_true, if_false, later]
      rw [dialogue_cons_other ends]
      simp [Output.append_def, Output.out, String.append_assoc]

/-- **A whole session** is the greeting and the dialogue of its lines. -/
theorem Plain.finish_eq {session : Session} (plain : Plain session) (input : String) :
    Command.finish .empty session input =
      .done 0 (.out (bannerOn session.console ++
        dialogue session.promptText session.owns (Text.lines input))) := by
  unfold Command.finish run
  rw [plain.transcript_eq]
  simp [Output.append_def, Output.out, Output.empty]

/-- The greeting has 39 characters, and is shown as it is on every console that has the room. -/
theorem bannerOn_eq {console : Screen.Console} (wide : 39 ≤ console.width) :
    bannerOn console = banner := by
  have steady : Screen.SteadyText greeting.toList := by decide
  have fits : greeting.length ≤ console.width := by
    have length : greeting.length = 39 := by decide
    omega
  rw [bannerOn, console.plain_of_verbatim _ (Screen.verbatim_of_steady steady fits), banner]

/-! ## §4. The program -/

/-- **Holding a dialogue**: a run ends well, whatever its input, and writes the greeting and the
dialogue of the lines of the input, with nothing on the other stream.  The own output of a line is
a function of the line and the precision, and nothing else.  Lines behind one that ends the session
have no effect.  The greeting and the prompt are shown as they are where they fit in. -/
structure Conversing (around : Surroundings) (files : Files) (args : List String)
    (settings : Settings) (own : String → String) : Prop where
  outputs : OwnOutput around.console settings.precision own
  run : ∀ input, Command.runIn around files args input =
    .done 0 (.out (bannerOn around.console ++
      dialogue (around.console.plain settings.prompt) own (Text.lines input)))
  written : ∀ lines, (∀ line ∈ lines, Text.Unbroken line) →
    Command.runIn around files args (Text.ofLines lines) =
      .done 0 (.out (bannerOn around.console ++
        dialogue (around.console.plain settings.prompt) own lines))
  ended : ∀ before line after, (∀ other ∈ before ++ line :: after, Text.Unbroken other) →
    isExit line = true →
    Command.runIn around files args (Text.ofLines (before ++ line :: after)) =
      Command.runIn around files args (Text.ofLines (before ++ [line]))
  greeted : 39 ≤ around.console.width → bannerOn around.console = banner
  prompt : Screen.Verbatim around.console.width settings.prompt →
    around.console.plain settings.prompt = settings.prompt

/-- **Every session of the program is a dialogue**, in all surroundings.  Let the settings in force
be ones that the program can use, with a precision of at most 2147483647 if there is one, and with
a level of the log above the lowest. -/
theorem repl_eq_dialogue {around : Surroundings} {files : Files} {args rest : List String}
    {config : Option String} {settings : Settings} (asked : Command.readGlobals args =
      some (⟨config, false, none⟩, "repl" :: rest))
    (bare : Command.readBare rest = some (false, []))
    (nul : config.any Path.holdsNul = false)
    (loaded : Settings.load around files config = .ok settings)
    (usable : Log.Form.isUsable settings.format = true)
    (precise : ∀ p, settings.precision = some p → p ≤ 2147483647)
    (quiet : settings.level ≠ .debug) :
    Conversing around files args settings (Session.own around.console settings.precision) := by
  -- The lower bound of the precision is a check of the settings, and need not be asked for.
  have least : ∀ p, settings.precision = some p → 1 ≤ p := fun p given =>
    Settings.one_le_of_findIn (Settings.findIn_of_load loaded) given
  let session : Session := Command.sessionOf around settings false
  have silent : session.logs = false := by simp [session, Command.sessionOf, quiet]
  have plain : Plain session :=
    ⟨silent, fun p given => ⟨Int.le_trans Int.one_nonneg (least p given), precise p given⟩⟩
  have names : Command.Names args config false .repl rest := ⟨⟨"repl", asked, by decide⟩, nul⟩
  have started : Command.start around files args = .session .empty session := by
    rw [names.start_eq loaded usable, Command.openingOf_of_silent silent]
    simp [Command.startCommand, Command.startBare, bare, session]
  have run : ∀ input, Command.runIn around files args input =
      .done 0 (.out (bannerOn around.console ++ dialogue (around.console.plain settings.prompt)
        (Session.own around.console settings.precision) (Text.lines input))) := by
    intro input
    unfold Command.runIn
    rw [started]
    exact plain.finish_eq input
  refine ⟨ownOutput_own plain.usable, run, ?_, ?_, bannerOn_eq,
    around.console.plain_of_verbatim _⟩
  · intro lines unbroken
    rw [run, Text.lines_ofLines unbroken]
  · intro before line after unbroken ends
    -- Two runs are compared, with the lines behind the exit word and without them.
    have shorter : ∀ other ∈ before ++ [line], Text.Unbroken other := by
      intro other among
      refine unbroken other ?_
      rcases List.mem_append.1 among with early | last
      · exact List.mem_append_left _ early
      · rw [List.mem_singleton.1 last]
        exact List.mem_append_right _ (List.mem_cons_self ..)
    rw [run, run, Text.lines_ofLines unbroken, Text.lines_ofLines shorter,
      dialogue_append_exit ends]

/-- A session without a settings file: a blank line, a failure, and a line behind the end. -/
theorem repl_eq_dialogue_default :
    Command.run (fun _ => .absent) ["repl"] " \n!\n Exit\n5!\n" =
      .done 0 (.out ("Enter an expression, or 'exit' to quit.\n" ++
        "calc> calc> Error: Invalid number: \ncalc> ")) := by
  have asked : Command.readGlobals ["repl"] = some (⟨none, false, none⟩, ["repl"]) := by decide
  have loaded : Settings.load .usual (fun _ => .absent) none = .ok .default :=
    Settings.load_usual_of_ok rfl
  have conversing := repl_eq_dialogue asked (by decide) (by decide) loaded
    (by decide +kernel) (by decide) (by decide)
  rw [Command.run, conversing.run]
  decide +kernel

end Session

end LineCalc
