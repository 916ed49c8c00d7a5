/-
Start — which command a run comes to, and what it starts with.

The options of the program end at the first word, so what is read of them
does not depend on the arguments behind it.  A run whose options ask for
nothing loads the settings and comes to its command.  The command is given
the settings and the arguments behind its name, and nothing else of what
stood ahead of them.

## Main definitions

  * `Command.Names` — arguments that come to a command, by way of a settings
    file.

## Main statements

  * `Command.readGlobals_append_word` — a word and what is behind it are
    left as they are.
  * `Command.Names.runIn_of_stop` — a run without settings.
  * `Command.Names.start_eq` — the command under the settings loaded.
  * `Command.answered_or_names` — every run comes to a command, or is
    answered without a look at any file.
-/

import LineCalc.Command.Run
import LineCalc.Proofs.Settings.Checks

namespace LineCalc

namespace Screen

/-- What stands ahead of all escape characters is shown as it is. -/
theorem withoutStyles_append {a : String} (plain : '\x1b' ∉ a.toList) (b : String) :
    withoutStyles (a ++ b) = a ++ withoutStyles b := by
  have chars : ∀ cs ds : List Char, '\x1b' ∉ cs →
      boundedWithoutStyles (cs ++ ds).length (cs ++ ds) =
        cs ++ boundedWithoutStyles ds.length ds := by
    intro cs ds absent
    induction cs with
    | nil => rfl
    | cons c cs ih =>
      have first : c ≠ '\x1b' := fun e => absent (e ▸ List.mem_cons_self)
      have others : '\x1b' ∉ cs := fun m => absent (List.mem_cons_of_mem _ m)
      rw [List.cons_append, List.length_cons, boundedWithoutStyles,
        afterSequence?_of_ne first]
      dsimp only
      rw [ih others]
      rfl
  unfold withoutStyles
  rw [String.toList_append, chars _ _ plain, String.ofList_append, String.ofList_toList]

end Screen

namespace Command

/-! ## §1. Options ahead of a word -/

/-- Letters are read alike with more arguments behind them, and leave no more than there were. -/
theorem readLetters_append {g g' : Globals} {letters : List Char} {args left : List String}
    (read : readLetters g letters args = some (g', left)) (more : List String) :
    readLetters g letters (args ++ more) = some (g', left ++ more) ∧
      left.length ≤ args.length := by
  induction letters generalizing g with
  | nil =>
    obtain ⟨rfl, rfl⟩ := Prod.mk.inj (Option.some.inj read)
    exact ⟨rfl, Nat.le_refl _⟩
  | cons c letters ih =>
    unfold readLetters at read ⊢
    split at read
    · next isV =>
      rw [if_pos isV]
      exact ih read
    split at read
    · next isV isC =>
      rw [if_neg isV, if_pos isC]
      -- The value is the rest of the letters, or the next argument.
      split at read
      · next bare =>
        rw [if_pos bare]
        cases args with
        | nil => exact nomatch read
        | cons value args =>
          obtain ⟨rfl, rfl⟩ := Prod.mk.inj (Option.some.inj read)
          exact ⟨rfl, Nat.le_succ _⟩
      · next given =>
        rw [if_neg given]
        obtain ⟨rfl, rfl⟩ := Prod.mk.inj (Option.some.inj read)
        exact ⟨rfl, Nat.le_refl _⟩
    · exact nomatch read

theorem readLong_append {g g' : Globals} {name : String} {value : Option String}
    {args left : List String} (read : readLong g name value args = some (g', left))
    (more : List String) :
    readLong g name value (args ++ more) = some (g', left ++ more) ∧
      left.length ≤ args.length := by
  unfold readLong at read ⊢
  split at read
  · next isConfig =>
    rw [if_pos isConfig]
    cases value with
    | some value =>
      obtain ⟨rfl, rfl⟩ := Prod.mk.inj (Option.some.inj read)
      exact ⟨rfl, Nat.le_refl _⟩
    | none =>
      cases args with
      | nil => exact nomatch read
      | cons value args =>
        obtain ⟨rfl, rfl⟩ := Prod.mk.inj (Option.some.inj read)
        exact ⟨rfl, Nat.le_succ _⟩
  · next other =>
    rw [if_neg other]
    split at read
    · exact nomatch read
    · next bare =>
      rw [if_neg bare]
      -- Three names are left, and none of them takes an argument.
      split at read
      · next isVerbose =>
        rw [if_pos isVerbose]
        obtain ⟨rfl, rfl⟩ := Prod.mk.inj (Option.some.inj read)
        exact ⟨rfl, Nat.le_refl _⟩
      split at read
      · next notVerbose isVersion =>
        rw [if_neg notVerbose, if_pos isVersion]
        obtain ⟨rfl, rfl⟩ := Prod.mk.inj (Option.some.inj read)
        exact ⟨rfl, Nat.le_refl _⟩
      split at read
      · next notVerbose notVersion isHelp =>
        rw [if_neg notVerbose, if_neg notVersion, if_pos isHelp]
        obtain ⟨rfl, rfl⟩ := Prod.mk.inj (Option.some.inj read)
        exact ⟨rfl, Nat.le_refl _⟩
      · exact nomatch read

/-- **Options end at a word**: what is read of the options of the program does not depend on a word
behind them, and the word is left with what is behind it. -/
theorem readGlobals_append_word {options : List String} {g : Globals} {word text : String}
    (read : readGlobals options = some (g, [])) (plain : Argument.of word = .word text)
    (rest : List String) : readGlobals (options ++ word :: rest) = some (g, word :: rest) := by
  -- The bound is at least the number of options, and the word and its rest are one more.
  have bounded : ∀ (bound : Nat) (options : List String) (g' : Globals),
      boundedGlobals bound g' options = some (g, []) → options.length ≤ bound →
      boundedGlobals (bound + (word :: rest).length) g' (options ++ word :: rest) =
        some (g, word :: rest) := by
    intro bound
    induction bound with
    | zero =>
      intro options g' read short
      obtain rfl := List.eq_nil_of_length_eq_zero (Nat.le_zero.1 short)
      obtain ⟨rfl, -⟩ := Prod.mk.inj (Option.some.inj read)
      simp [boundedGlobals, plain]
    | succ bound ih =>
      intro options g' read short
      cases options with
      | nil =>
        obtain ⟨rfl, -⟩ := Prod.mk.inj (Option.some.inj read)
        simp [boundedGlobals, plain]
      | cons option options =>
        have fits : options.length ≤ bound := Nat.le_of_succ_le_succ short
        rw [Nat.succ_add, List.cons_append]
        unfold boundedGlobals at read ⊢
        cases form : Argument.of option with
        | endOfOptions =>
          simp only [form] at read ⊢
          obtain ⟨rfl, rfl⟩ := Prod.mk.inj (Option.some.inj read)
          rfl
        | word text =>
          simp only [form] at read
          exact nomatch read
        | long name value =>
          simp only [form] at read ⊢
          obtain ⟨⟨g'', left⟩, first, later⟩ := Option.bind_eq_some_iff.1 read
          obtain ⟨same, shorter⟩ := readLong_append first (word :: rest)
          rw [same]
          exact ih left g'' later (Nat.le_trans shorter fits)
        | short letters =>
          simp only [form] at read ⊢
          obtain ⟨⟨g'', left⟩, first, later⟩ := Option.bind_eq_some_iff.1 read
          obtain ⟨same, shorter⟩ := readLetters_append first (word :: rest)
          rw [same]
          exact ih left g'' later (Nat.le_trans shorter fits)
  unfold readGlobals
  rw [List.length_append]
  exact bounded options.length options .none read (Nat.le_refl _)

/-! ## §2. The command of a run -/

/-- **Coming to a command**: the options of the program ask for nothing that is answered ahead of
loading the settings, and a command is named behind them. -/
structure Names (args : List String) (config : Option String) (verbose : Bool) (name : Name)
    (rest : List String) : Prop where
  asked : ∃ word, readGlobals args = some (⟨config, verbose, none⟩, word :: rest) ∧
    Name.of? word = some name
  nul : config.any Path.holdsNul = false

namespace Names

variable {around : Surroundings} {files : Files} {args rest : List String}
  {config : Option String} {verbose : Bool} {name : Name}

/-- **A run without settings** ends for the reason for which there are none. -/
theorem runIn_of_stop {stop : Settings.Stop} (names : Names args config verbose name rest)
    (loaded : Settings.load around files config = .error stop) (input : String) :
    runIn around files args input = stopped stop := by
  obtain ⟨word, asked, known⟩ := names.asked
  simp [runIn, start, startNamed, asked, names.nul, known, loaded, Start.respond]

theorem stopped_problem (problem : Settings.Problem) :
    stopped (.obstacle (.problem problem)) =
      .done 2 (.err ("Config error: " ++ Screen.withoutStyles problem.message ++ "\n")) := by
  have shown : Screen.withoutStyles ("Config error: " ++ problem.message) =
      "Config error: " ++ Screen.withoutStyles problem.message :=
    Screen.withoutStyles_append (by decide) _
  simp [stopped, report, shown]

/-- In the usual surroundings a run without settings ends for an obstacle. -/
theorem run_of_obstacle {obstacle : Settings.Obstacle}
    (names : Names args config verbose name rest)
    (found : Settings.find files config = .error obstacle) (input : String) :
    run files args input = stopped (.obstacle obstacle) :=
  names.runIn_of_stop (Settings.load_usual_of_error found) input

/-- A command whose settings file has a problem reports the problem. -/
theorem run_of_problem {problem : Settings.Problem} (names : Names args config verbose name rest)
    (found : Settings.find files config = .error (.problem problem)) (input : String) :
    run files args input =
      .done 2 (.err ("Config error: " ++ Screen.withoutStyles problem.message ++ "\n")) := by
  rw [names.run_of_obstacle found, stopped_problem]

/-- **The command of a run** is given the settings loaded and the arguments behind its name, and
what was logged before stands ahead of its output. -/
theorem start_eq {settings : Settings} (names : Names args config verbose name rest)
    (loaded : Settings.load around files config = .ok settings)
    (usable : Log.Form.isUsable settings.format = true) :
    start around files args =
      startCommand (openingOf around (sessionOf around settings verbose))
        (sessionOf around settings verbose) name rest := by
  obtain ⟨word, asked, known⟩ := names.asked
  simp [start, startNamed, startLoaded, asked, names.nul, known, loaded, usable]

theorem runIn_of_ok {settings : Settings} (names : Names args config verbose name rest)
    (loaded : Settings.load around files config = .ok settings) (input : String) :
    runIn around files args input =
      (startLoaded around settings verbose name rest).respond input := by
  obtain ⟨word, asked, known⟩ := names.asked
  simp [runIn, start, startNamed, asked, names.nul, known, loaded]

/-- Under settings whose form of log lines cannot be used a run ends early. -/
theorem runIn_of_form {settings : Settings} (names : Names args config verbose name rest)
    (loaded : Settings.load around files config = .ok settings)
    (useless : Log.Form.isUsable settings.format = false) (input : String) :
    runIn around files args input = .crashed .empty (.logForm settings.format) := by
  rw [names.runIn_of_ok loaded]
  simp [startLoaded, useless, Start.respond]

theorem run_of_form {settings : Settings} (names : Names args config verbose name rest)
    (found : Settings.find files config = .ok settings)
    (useless : Log.Form.isUsable settings.format = false) (input : String) :
    run files args input = .crashed .empty (.logForm settings.format) :=
  names.runIn_of_form (Settings.load_usual_of_ok found) useless input

end Names

/-- **Coming to a command or not** is up to the options that were read, that for the log apart, and
to the arguments behind them.  A run that does not come to one is answered by these alone. -/
theorem answered_or_names (g : Globals) (rest : List String) :
    (∃ response, ∀ around files verbose args input,
      readGlobals args = some ({ g with verbose }, rest) →
        runIn around files args input = response) ∨
      ∃ name words, ∀ verbose args, readGlobals args = some ({ g with verbose }, rest) →
        Names args g.config verbose name words := by
  obtain ⟨config, verbose, request⟩ := g
  cases request with
  | some request =>
    refine .inl ⟨answerRequest request, fun around files verbose args input read => ?_⟩
    simp [runIn, start, read, Start.respond]
  | none =>
    cases nul : config.any Path.holdsNul with
    | true =>
      refine .inl ⟨.usage wrongUse, fun around files verbose args input read => ?_⟩
      simp [runIn, start, read, nul, Start.respond]
    | false =>
      cases rest with
      | nil =>
        refine .inl ⟨.usage wrongUse, fun around files verbose args input read => ?_⟩
        simp [runIn, start, startNamed, read, nul, Start.respond]
      | cons word words =>
        cases known : Name.of? word with
        | none =>
          refine .inl ⟨unknownCommand (word :: words), fun around files verbose args input read => ?_⟩
          simp [runIn, start, startNamed, read, nul, known, Start.respond]
        | some name => exact .inr ⟨name, words, fun verbose args read => ⟨⟨word, read, known⟩, nul⟩⟩

/-- What is logged before a command stands on the stream for errors. -/
theorem openingOf_eq_err (around : Surroundings) (session : Session) :
    ∃ log, openingOf around session = .err log := by
  unfold openingOf
  split
  · exact ⟨_, rfl⟩
  · exact ⟨"", rfl⟩

theorem openingOf_of_silent {around : Surroundings} {session : Session}
    (silent : session.logs = false) : openingOf around session = .empty := by
  unfold openingOf
  rw [if_neg (by simp [silent])]

end Command

end LineCalc
