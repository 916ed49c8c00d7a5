/-
Logging — what a session shows does not depend on its log.

What a session answers is up to its precision, its prompt and its console.
Whether it logs, at which level and in which form, and what time it is, has
no effect but on the stream for errors, where nothing stands besides the
log.  A level is never looked at once the session has begun, so sessions
under two levels do not differ at all.

## Main definitions

  * `Session.Alike` — two sessions that differ in their logs at most.
  * `Session.SameShown` — two answers that differ in their logs at most.
  * `Session.atLevel` — a session under another level.

## Main statements

  * `Session.Alike.respond`, `Session.Alike.run` — sessions that are alike
    show the same.
  * `Session.run_stderr` — a session that logs nothing writes nothing on the
    stream for errors.
  * `Session.run_atLevel` — the level has no effect.
-/

import LineCalc.Session

namespace LineCalc

namespace Session

/-! ## §1. Sessions that are alike -/

/-- **Alike**: two sessions differ in what their logs are made from, and in nothing else. -/
structure Alike (a b : Session) : Prop where
  precision : a.settings.precision = b.settings.precision
  prompt : a.settings.prompt = b.settings.prompt
  console : a.console = b.console

/-- **Showing the same**: two answers agree but for what is on the stream for errors. -/
structure SameShown {α : Type} (a b : Output × α) : Prop where
  stdout : a.1.stdout = b.1.stdout
  next : a.2 = b.2

namespace Alike

variable {a b : Session}

theorem next (alike : Alike a b) : Alike a.next b.next :=
  ⟨alike.precision, alike.prompt, alike.console⟩

theorem promptText (alike : Alike a b) : a.promptText = b.promptText := by
  unfold Session.promptText
  rw [alike.prompt, alike.console]

/-- A line with another character than blanks is answered alike. -/
theorem answer (alike : Alike a b) (line : String) : SameShown (a.answer line) (b.answer line) := by
  unfold Session.answer
  rw [alike.precision, alike.console]
  cases evaluate (some line) with
  | error fault => exact ⟨rfl, rfl⟩
  | ok x =>
    cases text : Display.text b.settings.precision x with
    | ok shown =>
      simp only [text]
      exact ⟨rfl, rfl⟩
    | error refusal =>
      simp only [text]
      exact ⟨rfl, rfl⟩

/-- **A line is answered alike**. -/
theorem respond (alike : Alike a b) (line : String) :
    SameShown (a.respond line) (b.respond line) := by
  unfold Session.respond
  dsimp only
  split
  · exact ⟨rfl, rfl⟩
  split
  · exact ⟨rfl, rfl⟩
  · exact alike.answer _

theorem transcript (alike : Alike a b) (lines : List String) :
    SameShown (a.transcript lines) (b.transcript lines) := by
  induction lines generalizing a b with
  | nil =>
    unfold Session.transcript
    rw [alike.promptText]
    exact ⟨rfl, rfl⟩
  | cons line rest ih =>
    obtain ⟨shown, next⟩ := alike.respond line
    have later := ih alike.next
    unfold Session.transcript
    rw [alike.promptText]
    -- Both go on in the same way, or stop, or are refused, with the same reply.
    revert shown next
    generalize a.respond line = first
    generalize b.respond line = second
    obtain ⟨reply, next⟩ := first
    obtain ⟨reply', next'⟩ := second
    intro shown same
    dsimp only at shown same
    rw [same]
    cases next' with
    | goOn => exact ⟨by simp [Output.append_def, shown, later.stdout], later.next⟩
    | stop => exact ⟨by simp [Output.append_def, shown], rfl⟩
    | refuse refusal => exact ⟨by simp [Output.append_def, shown], rfl⟩

/-- **Sessions that are alike show the same**. -/
theorem run (alike : Alike a b) (input : String) : SameShown (a.run input) (b.run input) := by
  obtain ⟨shown, next⟩ := alike.transcript (Text.lines input)
  refine ⟨?_, next⟩
  simp [Session.run, Output.append_def, shown, alike.console]

end Alike

/-! ## §2. Sessions that log nothing -/

variable {session : Session}

/-- A session that logs nothing answers a line on the standard stream. -/
theorem respond_stderr (silent : session.logs = false) (line : String) :
    (session.respond line).1.stderr = "" := by
  unfold respond
  dsimp only
  split
  · rfl
  split
  · rfl
  unfold answer
  have log (line : String) : session.logOf line = "" := by simp [logOf, silent]
  rw [log]
  cases evaluate (some (String.ofList (Text.trim line.toList))) with
  | error fault => rfl
  | ok x =>
    cases text : Display.text session.settings.precision x <;> simp only [text] <;> rfl

theorem transcript_stderr (silent : session.logs = false) (lines : List String) :
    (session.transcript lines).1.stderr = "" := by
  induction lines generalizing session with
  | nil => rfl
  | cons line rest ih =>
    have own := respond_stderr silent line
    have later : (session.next.transcript rest).1.stderr = "" := ih silent
    unfold transcript
    cases answered : session.respond line with
    | mk reply next =>
      have own : reply.stderr = "" := by simpa [answered] using own
      cases next <;> simp [Output.append_def, Output.out, own, later]

/-- **A session that logs nothing** writes nothing on the stream for errors. -/
theorem run_stderr (silent : session.logs = false) (input : String) :
    (session.run input).1.stderr = "" := by
  simp [run, Output.append_def, Output.out, transcript_stderr silent]

/-! ## §3. Levels -/

def atLevel (level : Level) (session : Session) : Session :=
  { session with settings := { session.settings with level } }

theorem respond_atLevel (level : Level) (session : Session) (line : String) :
    (session.atLevel level).respond line = session.respond line := by
  have log (text : String) : (session.atLevel level).logOf text = session.logOf text := rfl
  have precision : (session.atLevel level).settings.precision = session.settings.precision := rfl
  have console : (session.atLevel level).console = session.console := rfl
  simp only [respond, answer, log, precision, console]

theorem transcript_atLevel (level : Level) (session : Session) (lines : List String) :
    (session.atLevel level).transcript lines = session.transcript lines := by
  have prompt (session : Session) : (session.atLevel level).promptText = session.promptText := rfl
  have next (session : Session) : (session.atLevel level).next = session.next.atLevel level := rfl
  induction lines generalizing session with
  | nil => rfl
  | cons line rest ih =>
    unfold transcript
    rw [respond_atLevel, prompt, next, ih]

/-- **The level has no effect** on a session. -/
theorem run_atLevel (level : Level) (session : Session) (input : String) :
    (session.atLevel level).run input = session.run input := by
  have console : (session.atLevel level).console = session.console := rfl
  unfold run
  rw [transcript_atLevel, console]

end Session

end LineCalc
