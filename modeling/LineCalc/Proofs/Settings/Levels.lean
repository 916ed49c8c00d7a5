/-
Levels — settings files that differ in the level of the log.

The level is checked in its turn, between the precision and the prompt.
Two documents that ask for known levels, and say the same of everything
else, have the same problem, or lead to settings that differ in the level.

## Main definitions

  * `Settings.documentAt` — the document in the file at a path.
  * `Settings.SameButLevel` — documents that differ in the level.
  * `Settings.withLevel` — settings with another level.

## Main statements

  * `Settings.SameButLevel.ofDocument_eq` — what becomes of the second
    document, by what becomes of the first.
  * `Settings.SameButLevel.load_eq` — and of files that hold them.
-/

import LineCalc.Proofs.Settings.Checks

namespace LineCalc

namespace Settings

/-! ## §1. Documents -/

def withLevel (level : Level) (settings : Settings) : Settings := { settings with level }

/-- **The same but for the level**: the documents have the same in each section but that of the log,
and the same there at each key but that of the level.  What they ask for there are known levels,
those given. -/
structure SameButLevel (document document' : Toml.Table) (level level' : Level) : Prop where
  sections : ∀ name, name ≠ "logging" → document'.get? name = document.get? name
  logging : ∃ t t', sectionOf document "logging" = .ok t ∧ sectionOf document' "logging" = .ok t' ∧
    (∀ key, key ≠ "level" → t'.get? key = t.get? key) ∧
    levelOf t = .ok level ∧ levelOf t' = .ok level'

namespace SameButLevel

variable {document document' : Toml.Table} {level level' : Level}

theorem sectionOf_eq (same : SameButLevel document document' level level') {name : String}
    (other : name ≠ "logging") : sectionOf document' name = sectionOf document name := by
  unfold sectionOf
  rw [same.sections name other]

/-- **What becomes of the second document**: its problem is that of the first, or its settings are
those of the first with the level that it asks for. -/
theorem ofDocument_eq (same : SameButLevel document document' level level') (source : String) :
    ofDocument source document' = (ofDocument source document).map (withLevel level') ∧
      ∀ settings, ofDocument source document = .ok settings → settings.level = level := by
  obtain ⟨t, t', found, found', others, asked, asked'⟩ := same.logging
  have format : stringAt t' "logging" "format" default.format =
      stringAt t "logging" "format" default.format := by
    unfold stringAt
    rw [others "format" (by decide)]
  unfold ofDocument
  rw [same.sectionOf_eq (by decide : "display" ≠ "logging"),
    same.sectionOf_eq (by decide : "repl" ≠ "logging"), found, found']
  -- The checks ahead of the level, then those behind it.
  cases sectionOf document "display" with
  | error problem => exact ⟨rfl, nofun⟩
  | ok display =>
    cases sectionOf document "repl" with
    | error problem => exact ⟨rfl, nofun⟩
    | ok repl =>
      simp only [bind, Except.bind, asked, asked', format]
      cases precisionOf display with
      | error problem => exact ⟨rfl, nofun⟩
      | ok precision =>
        cases stringAt repl "repl" "prompt" default.prompt with
        | error problem => exact ⟨rfl, nofun⟩
        | ok prompt =>
          cases stringAt t "logging" "format" default.format with
          | error problem => exact ⟨rfl, nofun⟩
          | ok format =>
            refine ⟨rfl, fun settings made => ?_⟩
            rw [← Except.ok.inj made]

end SameButLevel

/-! ## §2. Files -/

/-- The document in the file at a path, if there is a file and it holds one. -/
def documentAt (files : Files) (path : String) : Option Toml.Table :=
  match files path with
  | .file bytes => (String.fromUTF8? bytes).bind Toml.Document.parse?
  | _ => none

section files

variable {around : Surroundings} {files files' : Files} {config : Option String}
  {document document' : Toml.Table}

theorem findIn_of_documentAt (holds : documentAt files (pathOf config) = some document) :
    findIn around files config =
      (ofDocument (sourceOf around.folder config) document).mapError .problem := by
  unfold documentAt at holds
  split at holds
  · next bytes entry =>
    obtain ⟨text, decoded, parsed⟩ := Option.bind_eq_some_iff.1 holds
    simp only [findIn, entry, ofBytes, decoded, parsed]
  · cases holds

theorem sourceOf_empty (config : Option String) : sourceOf "" config = pathOf config := by
  cases config with
  | none => exact String.empty_append
  | some path => rfl

/-- In the usual surroundings the file is named by the path that is looked for. -/
theorem find_of_documentAt (holds : documentAt files (pathOf config) = some document) :
    find files config = (ofDocument (pathOf config) document).mapError .problem := by
  unfold find
  rw [findIn_of_documentAt holds, ← sourceOf_empty config]
  rfl

/-- **What becomes of the second file**: it is refused for the reason of the first, or its settings
are those of the first with its own level.  Either both can be read within the limits, or neither
can, for the same reason. -/
theorem SameButLevel.load_eq {level level' : Level}
    (same : SameButLevel document document' level level')
    (holds : documentAt files (pathOf config) = some document)
    (holds' : documentAt files' (pathOf config) = some document')
    (limited : limitAt around.limits files' (pathOf config) =
      limitAt around.limits files (pathOf config)) :
    load around files' config = (load around files config).map (withLevel level') ∧
      ∀ settings, load around files config = .ok settings → settings.level = level := by
  cases passed : limitAt around.limits files (pathOf config) with
  | some limit =>
    rw [load_of_limitAt passed, load_of_limitAt (limited.trans passed)]
    exact ⟨rfl, nofun⟩
  | none =>
    obtain ⟨made', leveled⟩ := same.ofDocument_eq (sourceOf around.folder config)
    rw [load_of_within passed, load_of_within (limited.trans passed), findIn_of_documentAt holds,
      findIn_of_documentAt holds', made']
    cases made : ofDocument (sourceOf around.folder config) document with
    | error problem => exact ⟨rfl, nofun⟩
    | ok settings =>
      refine ⟨rfl, fun found same => ?_⟩
      rw [← Except.ok.inj same]
      exact leveled settings made

end files

end Settings

end LineCalc
