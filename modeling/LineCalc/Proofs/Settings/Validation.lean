/-
Validation — what a settings file is held to, and in which order.

A document is held to nine checks, which look at three sections and four keys
and at nothing else.  The first check that it violates is the problem that is
reported.  A document that violates none of them leads to settings, which are
what it gives and, where it is silent, the defaults.

Each step of loading is shown to hold the document to its own checks, and one
step behind another holds it to the checks of both, in that order.

## Main definitions

  * `Settings.valueAt` — the value at a key of a section.
  * `Settings.Check` — the checks, in their order.
  * `Settings.Violation`, `Settings.FirstViolation` — the check that a document
    violates, and the first of them.
  * `Settings.Gives` — the settings that a document gives.
  * `Settings.SameValues` — documents that say the same where they are looked at.

## Main statements

  * `Settings.HoldsTo.bind` — checks one behind the other.
  * `Settings.ofDocument_eq_error_iff` — the problem is the first violation.
  * `Settings.ofDocument_eq_ok_iff` — the settings are those that are given.
  * `Settings.ofDocument_congr` — nothing else in a document matters.
  * `Settings.validation` — and what this means for files.
-/

import LineCalc.Proofs.Settings.Checks
import LineCalc.Proofs.Settings.Levels
import Mathlib.Control.Monad.Basic
import Mathlib.Tactic.ByContra

namespace LineCalc

theorem Level.ofName?_eq_some_iff {name : String} {level : Level} :
    ofName? name = some level ↔ name = level.name := by
  constructor
  · intro found
    have same := List.find?_some found
    exact (eq_of_beq same).symm
  · intro same
    rw [same, ofName?_name]

namespace Settings

/-! ## §1. Checks -/

/-- **The value at a key** of a section, if the section is a table that holds the key. -/
def valueAt (document : Toml.Table) (part key : String) : Option Toml.Value :=
  match document.get? part with
  | some (.table t) => Toml.Table.get? t key
  | _ => none

/-- The name of a level as it is looked for: in capital letters. -/
def capitals (name : String) : String := String.ofList (Text.upper name.toList)

/-- **Check** of a document. -/
inductive Check where
  /-- The section is a table, if it is there. -/
  | table (part : String)
  /-- The precision is an integer, if it is given. -/
  | integer
  /-- The precision is at least one. -/
  | positive
  /-- The value at a key is a string, if it is given. -/
  | string (part key : String)
  /-- The level is one of the five, whatever the case of its letters. -/
  | known
  deriving DecidableEq, Inhabited

def Check.all : List Check :=
  [table "display", table "repl", table "logging", integer, positive, string "logging" "level",
    known, string "repl" "prompt", string "logging" "format"]

/-- **Violation** of a check by a document, with the problem as which it is reported. -/
inductive Violation (document : Toml.Table) : Check → Problem → Prop
  | notTable {part v} :
      document.get? part = some v → (∀ t, v ≠ .table t) →
      Violation document (.table part) (.notTable part)
  | notInteger {v} :
      valueAt document "display" "precision" = some v → (∀ n, v ≠ .integer n) →
      Violation document .integer (.wrongType "display.precision" "int" v.typeName)
  | tooSmall {n} :
      valueAt document "display" "precision" = some (.integer n) → n < 1 →
      Violation document .positive (.precisionTooSmall n)
  | notString {part key v} :
      valueAt document part key = some v → (∀ s, v ≠ .string s) →
      Violation document (.string part key) (.wrongType (part ++ "." ++ key) "str" v.typeName)
  | unknownLevel {s} :
      valueAt document "logging" "level" = some (.string s) →
      (∀ level : Level, capitals s ≠ level.name) →
      Violation document .known (.unknownLevel (capitals s))

/-- **Passing** a check. -/
def Passes (document : Toml.Table) (check : Check) : Prop :=
  ∀ problem, ¬ Violation document check problem

/-- **The first violation** among checks: a violated one behind checks that the document passes. -/
inductive FirstViolation (document : Toml.Table) : List Check → Problem → Prop
  | here {check rest problem} :
      Violation document check problem → FirstViolation document (check :: rest) problem
  | later {check rest problem} :
      Passes document check → FirstViolation document rest problem →
      FirstViolation document (check :: rest) problem

section first

variable {document : Toml.Table} {check : Check} {checks more : List Check} {problem : Problem}

theorem Violation.unique {problem' : Problem} (h : Violation document check problem)
    (h' : Violation document check problem') : problem = problem' := by
  cases h with
  | notTable => cases h' with
    | notTable => rfl
  | notInteger found => cases h' with
    | notInteger found' => rw [Option.some.inj (found.symm.trans found')]
  | tooSmall found => cases h' with
    | tooSmall found' =>
      have same := Option.some.inj (found.symm.trans found')
      rw [Toml.Value.integer.inj same]
  | notString found => cases h' with
    | notString found' => rw [Option.some.inj (found.symm.trans found')]
  | unknownLevel found => cases h' with
    | unknownLevel found' =>
      have same := Option.some.inj (found.symm.trans found')
      rw [Toml.Value.string.inj same]

/-- A first violation among checks is no longer one behind which all pass. -/
theorem FirstViolation.not_passes (h : FirstViolation document checks problem) :
    ¬ ∀ check ∈ checks, Passes document check := by
  intro passes
  induction h with
  | here violated => exact passes _ (by simp) _ violated
  | later _ _ ih => exact ih fun check member => passes check (by simp [member])

theorem passes_of_no_first (h : ∀ problem, ¬ FirstViolation document checks problem) :
    ∀ check ∈ checks, Passes document check := by
  induction checks with
  | nil => simp
  | cons first rest ih =>
    have passes : Passes document first := fun problem violated => h problem (.here violated)
    intro check member
    rcases List.mem_cons.1 member with rfl | member
    · exact passes
    · exact ih (fun problem violated => h problem (.later passes violated)) check member

/-- The first violation among checks and more is among the checks, or all of these are passed. -/
theorem firstViolation_append_iff :
    FirstViolation document (checks ++ more) problem ↔
      FirstViolation document checks problem ∨
        (∀ check ∈ checks, Passes document check) ∧ FirstViolation document more problem := by
  -- On the checks ahead: the first of them is violated, or it is passed and the rest decides.
  induction checks with
  | nil =>
    have none : ¬ FirstViolation document [] problem := nofun
    simp [none]
  | cons first rest ih =>
    rw [List.cons_append]
    constructor
    · intro h
      cases h with
      | here violated => exact .inl (.here violated)
      | later passes h =>
        rcases ih.1 h with inside | ⟨passed, behind⟩
        · exact .inl (.later passes inside)
        · refine .inr ⟨?_, behind⟩
          intro check member
          rcases List.mem_cons.1 member with rfl | member
          · exact passes
          · exact passed check member
    · intro h
      rcases h with inside | ⟨passed, behind⟩
      · cases inside with
        | here violated => exact .here violated
        | later passes inside => exact .later passes (ih.2 (.inl inside))
      · have rest := fun check member => passed check (List.mem_cons_of_mem first member)
        exact .later (passed first (by simp)) (ih.2 (.inr ⟨rest, behind⟩))

end first

/-! ## §2. Steps -/

/-- **Holding to checks**: the outcome is the problem of the first violation, if there is one. -/
def HoldsTo {α : Type} (document : Toml.Table) (checks : List Check) (outcome : Except Problem α) :
    Prop :=
  ∀ problem, outcome = .error problem ↔ FirstViolation document checks problem

namespace HoldsTo

variable {α β : Type} {document : Toml.Table} {checks more : List Check}

theorem passes {a : α} (h : HoldsTo document checks (.ok a)) :
    ∀ check ∈ checks, Passes document check := by
  apply passes_of_no_first
  intro problem violated
  have refused := (h problem).2 violated
  simp at refused

theorem exists_ok {outcome : Except Problem α} (h : HoldsTo document checks outcome)
    (passes : ∀ check ∈ checks, Passes document check) : ∃ a, outcome = .ok a := by
  cases outcome with
  | ok a => exact ⟨a, rfl⟩
  | error problem => exact absurd passes ((h problem).1 rfl).not_passes

theorem ok (document : Toml.Table) (a : α) : HoldsTo document [] (.ok a) := by
  intro problem
  constructor
  · intro refused
    simp at refused
  · intro violated
    exact nomatch violated

theorem of_passes {check : Check} (passes : Passes document check) (a : α) :
    HoldsTo document [check] (.ok a) := by
  intro problem
  constructor
  · intro refused
    simp at refused
  · intro violated
    refine absurd ?_ violated.not_passes
    simpa using passes

theorem of_violation {check : Check} {found : Problem} (violated : Violation document check found) :
    HoldsTo document [check] (.error found : Except Problem α) := by
  intro problem
  constructor
  · intro same
    rw [← Except.error.inj same]
    exact .here violated
  · intro first
    cases first with
    | here violated' => rw [violated.unique violated']
    | later passes => exact absurd violated (passes found)

/-- **One step behind another** holds to the checks of both, in that order. -/
theorem bind {first : Except Problem α} {next : α → Except Problem β}
    (holds : HoldsTo document checks first)
    (then' : ∀ a, first = .ok a → HoldsTo document more (next a)) :
    HoldsTo document (checks ++ more) (first >>= next) := by
  intro problem
  rw [firstViolation_append_iff]
  -- If the first step refuses, no later check is reached; if not, its checks are all passed.
  cases first with
  | error found =>
    have violated := (holds found).1 rfl
    have refused : (Except.error found >>= next) = .error found := rfl
    rw [refused]
    constructor
    · intro same
      rw [← Except.error.inj same]
      exact .inl violated
    · intro h
      rcases h with inside | ⟨passed, -⟩
      · rw [Except.error.inj ((holds problem).2 inside)]
      · exact absurd passed violated.not_passes
  | ok a =>
    have goesOn : (Except.ok a >>= next) = next a := rfl
    have passed := holds.passes
    rw [goesOn, then' a rfl problem]
    constructor
    · intro behind
      exact .inr ⟨passed, behind⟩
    · intro h
      rcases h with inside | ⟨-, behind⟩
      · exact absurd passed inside.not_passes
      · exact behind

end HoldsTo

/-! ## §3. The steps of loading -/

section steps

variable {document t : Toml.Table} {part key : String}

theorem valueAt_of_sectionOf (h : sectionOf document part = .ok t) (key : String) :
    valueAt document part key = t.get? key := by
  unfold sectionOf at h
  unfold valueAt
  cases found : document.get? part with
  | none =>
    rw [found] at h
    rw [← Except.ok.inj h]
    rfl
  | some v =>
    rw [found] at h
    cases v with
    | table inner =>
      rw [← Except.ok.inj h]
    | _ => exact nomatch h

theorem holdsTo_sectionOf (document : Toml.Table) (part : String) :
    HoldsTo document [.table part] (sectionOf document part) := by
  unfold sectionOf
  cases found : document.get? part with
  | none =>
    apply HoldsTo.of_passes
    intro problem violated
    cases violated with
    | notTable there => simp [found] at there
  | some v =>
    cases v with
    | table inner =>
      apply HoldsTo.of_passes
      intro problem violated
      cases violated with
      | notTable there other =>
        rw [found] at there
        exact other inner (Option.some.inj there).symm
    | _ => exact .of_violation (.notTable found nofun)

theorem holdsTo_integerAt (values : valueAt document "display" "precision" = t.get? "precision") :
    HoldsTo document [.integer] (integerAt t "display" "precision") := by
  unfold integerAt
  cases found : t.get? "precision" with
  | none =>
    apply HoldsTo.of_passes
    intro problem violated
    cases violated with
    | notInteger there => simp [values, found] at there
  | some v =>
    rw [found] at values
    cases v with
    | integer n =>
      apply HoldsTo.of_passes
      intro problem violated
      cases violated with
      | notInteger there other =>
        rw [values] at there
        exact other n (Option.some.inj there).symm
    | _ => exact .of_violation (.notInteger values nofun)

theorem holdsTo_stringAt (values : valueAt document part key = t.get? key) (fallback : String) :
    HoldsTo document [.string part key] (stringAt t part key fallback) := by
  unfold stringAt
  cases found : t.get? key with
  | none =>
    apply HoldsTo.of_passes
    intro problem violated
    cases violated with
    | notString there => simp [values, found] at there
  | some v =>
    rw [found] at values
    cases v with
    | string s =>
      apply HoldsTo.of_passes
      intro problem violated
      cases violated with
      | notString there other =>
        rw [values] at there
        exact other s (Option.some.inj there).symm
    | _ => exact .of_violation (.notString values nofun)

theorem get?_of_integerAt {asked : Option Int} (h : integerAt t part key = .ok asked) :
    t.get? key = asked.map .integer := by
  unfold integerAt at h
  split at h
  · next none =>
    rw [← Except.ok.inj h]
    exact none
  · next n given =>
    rw [← Except.ok.inj h]
    exact given
  · exact nomatch h

/-- The string that passed its check is the value of its key, or stands for it. -/
theorem get?_of_stringAt {fallback s : String} (h : stringAt t part key fallback = .ok s) :
    (t.get? key).getD (.string fallback) = .string s := by
  unfold stringAt at h
  split at h
  · next none =>
    rw [none, ← Except.ok.inj h]
    rfl
  · next given =>
    rw [given, ← Except.ok.inj h]
    rfl
  · exact nomatch h

/-- The precision is an integer and at least one, if it is given. -/
theorem holdsTo_precisionOf (values : valueAt document "display" "precision" = t.get? "precision") :
    HoldsTo document [.integer, .positive] (precisionOf t) := by
  unfold precisionOf
  -- The type first, and only behind it the bound.
  show HoldsTo document ([.integer] ++ [.positive]) _
  apply (holdsTo_integerAt values).bind
  intro asked read
  have given := values.trans (get?_of_integerAt read)
  cases asked with
  | none =>
    apply HoldsTo.of_passes
    intro problem violated
    cases violated with
    | tooSmall there => simp [given] at there
  | some n =>
    show HoldsTo document [.positive] (if n < 1 then .error (.precisionTooSmall n) else .ok (some n))
    by_cases small : n < 1
    · rw [if_pos small]
      exact .of_violation (.tooSmall given small)
    · rw [if_neg small]
      apply HoldsTo.of_passes
      intro problem violated
      cases violated with
      | tooSmall there less =>
        rw [given] at there
        rw [Toml.Value.integer.inj (Option.some.inj there)] at small
        exact small less

/-- The precision that passed its checks is the value of its key. -/
theorem get?_of_precisionOf {precision : Option Int} (h : precisionOf t = .ok precision) :
    t.get? "precision" = precision.map .integer := by
  unfold precisionOf at h
  cases read : integerAt t "display" "precision" with
  | error problem =>
    rw [read] at h
    exact nomatch h
  | ok asked =>
    have given := get?_of_integerAt read
    rw [read] at h
    simp only [bind, Except.bind, pure, Except.pure, throw, throwThe, MonadExceptOf.throw] at h
    split at h
    · rw [← Except.ok.inj h]
      exact given
    · split at h
      · simp at h
      · rw [← Except.ok.inj h]
        exact given

theorem levelOf_eq (t : Toml.Table) :
    levelOf t = stringAt t "logging" "level" default.level.name >>= fun given =>
      match Level.ofName? (capitals given) with
      | some level => .ok level
      | none => .error (.unknownLevel (capitals given)) := rfl

/-- The level is a string and the name of a level, if it is given. -/
theorem holdsTo_levelOf (values : valueAt document "logging" "level" = t.get? "level") :
    HoldsTo document [.string "logging" "level", .known] (levelOf t) := by
  rw [levelOf_eq]
  show HoldsTo document ([.string "logging" "level"] ++ [.known]) _
  apply (holdsTo_stringAt values _).bind
  intro given read
  have stands := get?_of_stringAt read
  rw [← values] at stands
  cases found : Level.ofName? (capitals given) with
  | none =>
    apply HoldsTo.of_violation
    cases there : valueAt document "logging" "level" with
    | none =>
      -- The name that stands for a missing one is that of a level.
      rw [there] at stands
      rw [← Toml.Value.string.inj stands] at found
      exact absurd found (by decide)
    | some v =>
      rw [there, Option.getD_some] at stands
      rw [stands] at there
      refine .unknownLevel there ?_
      intro level same
      rw [Level.ofName?_eq_some_iff.2 same] at found
      simp at found
  | some level =>
    apply HoldsTo.of_passes
    intro problem violated
    cases violated with
    | unknownLevel there other =>
      rw [there] at stands
      rw [← Toml.Value.string.inj stands] at found
      exact other level (Level.ofName?_eq_some_iff.1 found)

/-- The level that passed its checks is named by the value of its key, or stands for it. -/
theorem get?_of_levelOf {level : Level} (h : levelOf t = .ok level) :
    ∃ name, (t.get? "level").getD (.string "WARNING") = .string name ∧
      level.name = capitals name := by
  rw [levelOf_eq] at h
  cases read : stringAt t "logging" "level" default.level.name with
  | error problem =>
    rw [read] at h
    exact nomatch h
  | ok given =>
    rw [read] at h
    simp only [bind, Except.bind] at h
    split at h
    · next known found =>
      rw [← Except.ok.inj h]
      exact ⟨given, get?_of_stringAt read, (Level.ofName?_eq_some_iff.1 found).symm⟩
    · simp at h

end steps

/-! ## §4. Documents -/

def levelNumbers : List (String × Nat) :=
  [("DEBUG", 10), ("INFO", 20), ("WARNING", 30), ("ERROR", 40), ("CRITICAL", 50)]

theorem mem_levelNumbers (level : Level) : (level.name, level.rank) ∈ levelNumbers := by
  cases level <;> decide

/-- **The settings that a document gives**: the values of its keys and, where it has none, the
defaults.  The level is named in capital letters and has its number, and the file is the source. -/
structure Gives (document : Toml.Table) (source : String) (settings : Settings) : Prop where
  precision : valueAt document "display" "precision" = settings.precision.map .integer
  prompt : (valueAt document "repl" "prompt").getD (.string "calc> ") = .string settings.prompt
  level : ∃ name, (valueAt document "logging" "level").getD (.string "WARNING") = .string name ∧
    settings.level.name = capitals name
  number : (settings.level.name, settings.level.rank) ∈ levelNumbers
  format : (valueAt document "logging" "format").getD
    (.string "%(asctime)s [%(levelname)s] %(name)s: %(message)s") = .string settings.format
  source : settings.source = some source

/-- **The same values** at the four keys, in sections that are tables, or missing, in both documents
or in neither. -/
structure SameValues (document document' : Toml.Table) : Prop where
  tables : ∀ part ∈ ["display", "repl", "logging"],
    Passes document (.table part) ↔ Passes document' (.table part)
  values : ∀ place ∈ [("display", "precision"), ("repl", "prompt"), ("logging", "level"),
    ("logging", "format")], valueAt document place.1 place.2 = valueAt document' place.1 place.2

section documents

variable {source : String} {document document' : Toml.Table} {settings settings' : Settings}

theorem eq_of_name {level level' : Level} (same : level.name = level'.name) : level = level' := by
  have found := Level.ofName?_name level
  rw [same, Level.ofName?_name] at found
  exact (Option.some.inj found).symm

theorem Gives.unique (h : Gives document source settings) (h' : Gives document source settings') :
    settings = settings' := by
  obtain ⟨name, named, level⟩ := h.level
  obtain ⟨name', named', level'⟩ := h'.level
  have precision : settings.precision = settings'.precision := by
    have same := h.precision.symm.trans h'.precision
    exact Option.map_injective (fun m n => Toml.Value.integer.inj) same
  have prompt : settings.prompt = settings'.prompt :=
    Toml.Value.string.inj (h.prompt.symm.trans h'.prompt)
  have format : settings.format = settings'.format :=
    Toml.Value.string.inj (h.format.symm.trans h'.format)
  have level : settings.level = settings'.level := by
    rw [Toml.Value.string.inj (named.symm.trans named'), ← level'] at level
    exact eq_of_name level
  have file : settings.source = settings'.source := h.source.trans h'.source.symm
  cases settings
  cases settings'
  simp only at precision prompt format level file
  rw [precision, prompt, format, level, file]

/-- The steps of loading hold a document to all checks, in their order. -/
theorem holdsTo_ofDocument (source : String) (document : Toml.Table) :
    HoldsTo document Check.all (ofDocument source document) := by
  unfold ofDocument
  apply (holdsTo_sectionOf document "display").bind
  intro display displayed
  apply (holdsTo_sectionOf document "repl").bind
  intro repl prompted
  apply (holdsTo_sectionOf document "logging").bind
  intro logging logged
  apply (holdsTo_precisionOf (valueAt_of_sectionOf displayed _)).bind
  intro precision _
  apply (holdsTo_levelOf (valueAt_of_sectionOf logged _)).bind
  intro level _
  apply (holdsTo_stringAt (valueAt_of_sectionOf prompted _) _).bind
  intro prompt _
  apply (holdsTo_stringAt (valueAt_of_sectionOf logged _) _).bind
  intro format _
  exact .ok document _

/-- What comes of the steps of loading is what the document gives. -/
theorem gives_of_ofDocument (h : ofDocument source document = .ok settings) :
    Gives document source settings := by
  unfold ofDocument at h
  obtain ⟨display, displayed, h⟩ := exists_of_bind_eq_ok h
  obtain ⟨repl, prompted, h⟩ := exists_of_bind_eq_ok h
  obtain ⟨logging, logged, h⟩ := exists_of_bind_eq_ok h
  obtain ⟨precision, precise, h⟩ := exists_of_bind_eq_ok h
  obtain ⟨level, leveled, h⟩ := exists_of_bind_eq_ok h
  obtain ⟨prompt, asked, h⟩ := exists_of_bind_eq_ok h
  obtain ⟨format, formed, h⟩ := exists_of_bind_eq_ok h
  rw [← Except.ok.inj h]
  exact {
    precision := by rw [valueAt_of_sectionOf displayed, get?_of_precisionOf precise]
    prompt := by rw [valueAt_of_sectionOf prompted, ← get?_of_stringAt asked]; rfl
    level := by
      rw [valueAt_of_sectionOf logged]
      exact get?_of_levelOf leveled
    number := mem_levelNumbers level
    format := by rw [valueAt_of_sectionOf logged, ← get?_of_stringAt formed]; rfl
    source := rfl }

/-- **The problem of a document is its first violation**. -/
theorem ofDocument_eq_error_iff {problem : Problem} :
    ofDocument source document = .error problem ↔ FirstViolation document Check.all problem :=
  holdsTo_ofDocument source document problem

/-- **The settings of a document are those that it gives**, if it passes every check. -/
theorem ofDocument_eq_ok_iff :
    ofDocument source document = .ok settings ↔
      (∀ check ∈ Check.all, Passes document check) ∧ Gives document source settings := by
  constructor
  · intro made
    have holds := holdsTo_ofDocument source document
    rw [made] at holds
    exact ⟨holds.passes, gives_of_ofDocument made⟩
  · intro h
    obtain ⟨passes, gives⟩ := h
    obtain ⟨settings', made⟩ := (holdsTo_ofDocument source document).exists_ok passes
    rw [made, (gives_of_ofDocument made).unique gives]

theorem SameValues.symm (same : SameValues document document') : SameValues document' document where
  tables part member := (same.tables part member).symm
  values place member := (same.values place member).symm

theorem SameValues.violation (same : SameValues document document') {check : Check}
    (member : check ∈ Check.all) {problem : Problem} (h : Violation document check problem) :
    Violation document' check problem := by
  cases h with
  | @notTable part v found other =>
    have asked : part ∈ ["display", "repl", "logging"] := by simpa [Check.all] using member
    -- A part that is no table in the one document is a violation there, so it is none only if it is
    -- one in the other.
    by_contra none
    refine (same.tables part asked).2 ?_ _ (.notTable found other)
    intro problem violated
    cases violated with
    | notTable found' other' => exact none (.notTable found' other')
  | notInteger found other =>
    rw [same.values ("display", "precision") (by simp)] at found
    exact .notInteger found other
  | tooSmall found less =>
    rw [same.values ("display", "precision") (by simp)] at found
    exact .tooSmall found less
  | @notString part key v found other =>
    -- Strings are asked for at three places, all of them places of values.
    have asked : (part, key) ∈ [("display", "precision"), ("repl", "prompt"), ("logging", "level"),
        ("logging", "format")] := by
      simp only [Check.all, List.mem_cons, List.not_mem_nil, Check.string.injEq, reduceCtorEq,
        false_or, or_false] at member
      rcases member with ⟨rfl, rfl⟩ | ⟨rfl, rfl⟩ | ⟨rfl, rfl⟩ <;> simp
    rw [same.values (part, key) asked] at found
    exact .notString found other
  | unknownLevel found other =>
    rw [same.values ("logging", "level") (by simp)] at found
    exact .unknownLevel found other

/-- Documents with the same values have the same first violation. -/
theorem SameValues.firstViolation (same : SameValues document document') {checks : List Check}
    (all : checks ⊆ Check.all) {problem : Problem} (h : FirstViolation document checks problem) :
    FirstViolation document' checks problem := by
  induction h with
  | here violated =>
    exact .here (same.violation (all (by simp)) violated)
  | later passes _ ih =>
    have rest := (List.cons_subset.1 all).2
    refine .later ?_ (ih rest)
    intro problem violated
    exact passes problem (same.symm.violation (all (by simp)) violated)

theorem SameValues.gives (same : SameValues document document')
    (h : Gives document source settings) : Gives document' source settings where
  precision := by
    rw [← same.values ("display", "precision") (by simp)]
    exact h.precision
  prompt := by
    rw [← same.values ("repl", "prompt") (by simp)]
    exact h.prompt
  level := by
    rw [← same.values ("logging", "level") (by simp)]
    exact h.level
  number := h.number
  format := by
    rw [← same.values ("logging", "format") (by simp)]
    exact h.format
  source := h.source

/-- **Nothing else in a document matters**. -/
theorem ofDocument_congr (same : SameValues document document') :
    ofDocument source document = ofDocument source document' := by
  cases made : ofDocument source document with
  | error problem =>
    have first := ofDocument_eq_error_iff.1 made
    symm
    apply ofDocument_eq_error_iff.2
    exact same.firstViolation (List.Subset.refl _) first
  | ok settings =>
    have gives := (ofDocument_eq_ok_iff.1 made).2
    cases made' : ofDocument source document' with
    | error problem =>
      have first := ofDocument_eq_error_iff.1 made'
      have refused := same.symm.firstViolation (List.Subset.refl _) first
      rw [ofDocument_eq_error_iff.2 refused] at made
      exact nomatch made
    | ok settings' =>
      have gives' := (ofDocument_eq_ok_iff.1 made').2
      rw [(same.gives gives).unique gives']

end documents

/-! ## §5. Files -/

/-- **Validation** of a settings file: what becomes of the document in the file, and which documents
and files become the same. -/
structure Validation (files : Files) (config : Option String) : Prop where
  /-- The problem of a file is the first violation of its document. -/
  refused : ∀ document problem, documentAt files (pathOf config) = some document →
    (find files config = .error (.problem problem) ↔ FirstViolation document Check.all problem)
  /-- The settings of a file are those that its document gives, if it violates nothing. -/
  accepted : ∀ document settings, documentAt files (pathOf config) = some document →
    (find files config = .ok settings ↔
      (∀ check ∈ Check.all, Passes document check) ∧ Gives document (pathOf config) settings)
  /-- A document leads to settings or to a problem, and to nothing else. -/
  decided : ∀ document, documentAt files (pathOf config) = some document →
    (∃ settings, find files config = .ok settings) ∨
      ∃ problem, find files config = .error (.problem problem)
  /-- Documents with the same values at the four keys become the same. -/
  determined : ∀ files' document document', documentAt files (pathOf config) = some document →
    documentAt files' (pathOf config) = some document' → SameValues document document' →
    find files config = find files' config
  /-- A file that is asked for is the only one that matters. -/
  only_asked : ∀ files' path, config = some path →
    files (Path.plain path) = files' (Path.plain path) → find files config = find files' config
  /-- If none is asked for, the default file is the only one that matters. -/
  only_default : ∀ files', config = none →
    files "calcolatrice.toml" = files' "calcolatrice.toml" → find files config = find files' config

theorem find_congr {files files' : Files} {config : Option String}
    (same : files (pathOf config) = files' (pathOf config)) :
    find files config = find files' config := by
  simp only [find, findIn, same]

/-- **A settings file is held to its checks, in their order, and to nothing else**. -/
theorem validation (files : Files) (config : Option String) : Validation files config where
  refused document problem holds := by
    have held : ofDocument (pathOf config) document = .error problem ↔ _ := ofDocument_eq_error_iff
    rw [find_of_documentAt holds, ← held]
    cases ofDocument (pathOf config) document with
    | error found => simp [Except.mapError]
    | ok settings => simp [Except.mapError]
  accepted document settings holds := by
    rw [find_of_documentAt holds, ← ofDocument_eq_ok_iff]
    cases ofDocument (pathOf config) document with
    | error found => simp [Except.mapError]
    | ok settings => simp [Except.mapError]
  decided document holds := by
    rw [find_of_documentAt holds]
    cases ofDocument (pathOf config) document with
    | error problem => exact .inr ⟨problem, rfl⟩
    | ok settings => exact .inl ⟨settings, rfl⟩
  determined files' document document' holds holds' same := by
    rw [find_of_documentAt holds, find_of_documentAt holds', ofDocument_congr same]
  only_asked files' path asked same := by
    apply find_congr
    rw [asked]
    exact same
  only_default files' asked same := by
    apply find_congr
    rw [asked]
    exact same

/-- Of two faults the one that is checked first is reported, wherever it stands in the file. -/
example : find
    (fun _ => .file "[logging]\nlevel = \"loud\"\n[display]\nprecision = true\n".toUTF8) none =
      .error (.problem (.wrongType "display.precision" "int" "bool")) := by
  decide +kernel

end Settings

end LineCalc
