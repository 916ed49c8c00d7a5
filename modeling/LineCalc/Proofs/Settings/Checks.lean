/-
Checks — what the settings that passed the checks are like.

A document is checked step by step, and what comes of all steps comes of
each of them.  So settings in force ask for no precision below one.

## Main statements

  * `Settings.exists_of_bind_eq_ok` — one step behind another.
  * `Settings.one_le_of_findIn` — a precision in force is at least one.
  * `Settings.load_usual` — the usual surroundings limit nothing.
-/

import LineCalc.Proofs.Toml.Limits
import LineCalc.Settings.Basic

namespace LineCalc

namespace Settings

theorem exists_of_bind_eq_ok {ε α β : Type} {first : Except ε α} {next : α → Except ε β} {b : β}
    (h : (first >>= next) = .ok b) : ∃ a, first = .ok a ∧ next a = .ok b := by
  cases first with
  | error problem => exact nomatch h
  | ok a => exact ⟨a, rfl, h⟩

theorem one_le_of_precisionOf {display : Toml.Table} {p : Int}
    (h : precisionOf display = .ok (some p)) : 1 ≤ p := by
  obtain ⟨asked, given, h⟩ := exists_of_bind_eq_ok h
  cases asked with
  | none => exact nomatch h
  | some n =>
    by_cases small : n < 1
    · simp [small, throw, throwThe, MonadExceptOf.throw] at h
    · simp [small, pure, Except.pure] at h
      omega

/-- The precision of a document is what its section for the display asks for. -/
theorem precisionOf_of_ofDocument {source : String} {document : Toml.Table} {settings : Settings}
    (h : ofDocument source document = .ok settings) :
    ∃ display, precisionOf display = .ok settings.precision := by
  unfold ofDocument at h
  obtain ⟨display, -, h⟩ := exists_of_bind_eq_ok h
  obtain ⟨repl, -, h⟩ := exists_of_bind_eq_ok h
  obtain ⟨logging, -, h⟩ := exists_of_bind_eq_ok h
  obtain ⟨precision, asked, h⟩ := exists_of_bind_eq_ok h
  obtain ⟨level, -, h⟩ := exists_of_bind_eq_ok h
  obtain ⟨prompt, -, h⟩ := exists_of_bind_eq_ok h
  obtain ⟨format, -, h⟩ := exists_of_bind_eq_ok h
  rw [← Except.ok.inj h]
  exact ⟨display, asked⟩

section found

variable {around : Surroundings} {files : Files} {config : Option String} {settings : Settings}
  {p : Int}

theorem one_le_of_findIn (found : findIn around files config = .ok settings)
    (asked : settings.precision = some p) : 1 ≤ p := by
  unfold findIn at found
  cases entry : files (pathOf config) with
  | file bytes =>
    simp only [entry, ofBytes] at found
    split at found
    · exact nomatch found
    split at found
    · exact nomatch found
    next document _ =>
    cases made : ofDocument (sourceOf around.folder config) document with
    | error problem =>
      rw [made] at found
      exact nomatch found
    | ok settings' =>
      rw [made] at found
      obtain rfl := Except.ok.inj found
      obtain ⟨display, given⟩ := precisionOf_of_ofDocument made
      exact one_le_of_precisionOf (given.trans (congrArg Except.ok asked))
  | nameTooLong =>
    simp only [entry] at found
    exact nomatch found
  | _ =>
    -- Without a file the defaults are in force, and they ask for no precision.
    simp only [entry] at found
    split at found
    · exact nomatch found
    · obtain rfl := Except.ok.inj found
      exact nomatch asked

theorem findIn_of_load (loaded : load around files config = .ok settings) :
    findIn around files config = .ok settings := by
  unfold load at loaded
  split at loaded
  · exact nomatch loaded
  · cases found : findIn around files config with
    | error obstacle =>
      rw [found] at loaded
      exact nomatch loaded
    | ok settings' =>
      rw [found] at loaded
      exact congrArg Except.ok (Except.ok.inj loaded)

theorem load_of_within (within : limitAt around.limits files (pathOf config) = none) :
    load around files config = (findIn around files config).mapError .obstacle := by
  unfold load
  rw [within]

theorem load_of_limitAt {limit : Toml.Limit}
    (passed : limitAt around.limits files (pathOf config) = some limit) :
    load around files config = .error (.limit limit) := by
  unfold load
  rw [passed]

theorem limitAt_none (files : Files) (path : String) : limitAt .none files path = none := by
  unfold limitAt
  split
  · rw [Option.bind_eq_none_iff]
    exact fun text _ => Toml.Limits.passedBy_none text
  · rfl

theorem load_usual (files : Files) (config : Option String) :
    load .usual files config = (find files config).mapError .obstacle :=
  load_of_within (limitAt_none files _)

theorem load_usual_of_ok (found : find files config = .ok settings) :
    load .usual files config = .ok settings := by
  rw [load_usual, found]
  rfl

theorem load_usual_of_error {obstacle : Obstacle} (found : find files config = .error obstacle) :
    load .usual files config = .error (.obstacle obstacle) := by
  rw [load_usual, found]
  rfl

end found

end Settings

end LineCalc
