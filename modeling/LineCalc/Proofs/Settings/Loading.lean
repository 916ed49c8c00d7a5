/-
Loading — what becomes of a settings file.

A settings file holds values of any type at any key, and most operations on
values take values of one type only.  Here a file is loaded by such
operations: each ends the loading if it meets a value that it does not take.
None of them ever does, for every check stands ahead of the operations that
need it, so the two ways of loading agree.  What is left over are the three
stages ahead of the checks.  A path may be too long to be asked for, a file
may hold no text, and a text may pass a limit of whoever reads it; none of
these is reported as a problem.

## Main definitions

  * `Settings.Halt` — a declared obstacle, or a value that was misused.
  * `Settings.guardedFind` — loading by operations that may be misused.
  * `Entry.IsReadable` — what a path names can be asked for, and is a text
    if it is a file.
  * `Settings.Loading` — what becomes of a settings file.

## Main statements

  * `Settings.guardedFind_eq` — no value is misused.
  * `Files.isReadable_ofFolder_iff` — in a working directory, a path of usual
    length is readable unless it names a file without a text.
  * `Settings.answered_iff_isReadable` — exactly readable paths are answered
    for, limits left aside.
  * `Settings.load_or_report` — what becomes of every settings file.
  * `Settings.find_lone_byte` — a file without a text is neither loaded nor
    reported.
-/

import LineCalc.Proofs.Command.Start
import Mathlib.Tactic.ByContra

namespace LineCalc

namespace Settings

/-! ## §1. Operations on values -/

/-- **Misuse**: an operation on a value that does not take it. -/
inductive Misuse where
  /-- A key was looked up in something else than a table. -/
  | members
  /-- Something else than an integer was compared. -/
  | order
  /-- The letters of something else than a string were asked for. -/
  | letters
  /-- The number of an unknown level was asked for. -/
  | level
  deriving DecidableEq, Inhabited

/-- **Halt**: why loading ends early. -/
inductive Halt where
  /-- A declared obstacle. -/
  | obstacle (obstacle : Obstacle)
  /-- A misused value. -/
  | misuse (misuse : Misuse)
  deriving DecidableEq, Inhabited

def Halt.ofProblem (problem : Problem) : Halt := .obstacle (.problem problem)

/-- An operation that nobody shields from misuse. -/
def attempt {α : Type} (outcome : Except Misuse α) : Except Halt α := outcome.mapError .misuse

def membersOf : Toml.Value → Except Misuse Toml.Table
  | .table t => .ok t
  | _ => .error .members

def integerOf : Toml.Value → Except Misuse Int
  | .integer n => .ok n
  | _ => .error .order

def lettersOf : Toml.Value → Except Misuse String
  | .string s => .ok s
  | _ => .error .letters

def levelNamed (name : String) : Except Misuse Level :=
  match Level.ofName? name with
  | some level => .ok level
  | none => .error .level

def isBoolean : Toml.Value → Bool
  | .boolean _ => true
  | _ => false

/-- A value of the named type; booleans count as integers. -/
def isOfType (kind : String) (v : Toml.Value) : Bool :=
  v.typeName == kind || (kind == "int" && isBoolean v)

/-! ## §2. Loading by operations that may be misused -/

/-- The section of a document with a given name, still a value; a missing one is empty. -/
def guardedSection (document : Toml.Value) (name : String) : Except Halt Toml.Value := do
  let members ← attempt (membersOf document)
  let part := (members.get? name).getD (.table [])
  if isOfType "dict" part then pure part else throw (.ofProblem (.notTable name))

/-- The value at a key of a section, or the fallback, of the named type; booleans are refused where
integers are asked for. -/
def guardedTyped (part : Toml.Value) (name key kind : String) (fallback : Option Toml.Value) :
    Except Halt (Option Toml.Value) := do
  let members ← attempt (membersOf part)
  match (members.get? key).orElse fun _ => fallback with
  | none => pure none
  | some v =>
    if !isOfType kind v || isBoolean v then
      throw (.ofProblem (.wrongType (name ++ "." ++ key) kind v.typeName))
    else pure (some v)

/-- The precision that a section asks for, still a value. -/
def guardedPrecision (display : Toml.Value) : Except Halt (Option Toml.Value) := do
  match ← guardedTyped display "display" "precision" "int" none with
  | none => pure none
  | some v =>
    let n ← attempt (integerOf v)
    if n < 1 then throw (.ofProblem (.precisionTooSmall n)) else pure (some v)

/-- A string at a key of a section, still a value. -/
def guardedString (part : Toml.Value) (name key fallback : String) : Except Halt Toml.Value := do
  match ← guardedTyped part name key "str" (some (.string fallback)) with
  | some v => pure v
  | none => throw (.misuse .letters)

/-- The name of the level that a section asks for. -/
def guardedLevel (logging : Toml.Value) : Except Halt String := do
  let given ← guardedString logging "logging" "level" default.level.name
  let letters ← attempt (lettersOf given)
  let name := String.ofList (Text.upper letters.toList)
  if (Level.all.map Level.name).contains name then pure name
  else throw (.ofProblem (.unknownLevel name))

/-- **Guarded checks** of a document.  The values that pass are put to use at the end. -/
def guardedOfDocument (source : String) (document : Toml.Value) : Except Halt Settings := do
  let display ← guardedSection document "display"
  let repl ← guardedSection document "repl"
  let logging ← guardedSection document "logging"
  let precision ← guardedPrecision display
  let level ← guardedLevel logging
  let prompt ← guardedString repl "repl" "prompt" default.prompt
  let format ← guardedString logging "logging" "format" default.format
  let digits ← precision.mapM fun v => attempt (integerOf v)
  let prompt ← attempt (lettersOf prompt)
  let level ← attempt (levelNamed level)
  let format ← attempt (lettersOf format)
  pure ⟨digits, prompt, level, format, some source⟩

/-- **Guarded loading** of the settings in force. -/
def guardedFind (around : Surroundings) (files : Files) (config : Option String) :
    Except Halt Settings :=
  let source := sourceOf around.folder config
  match files (pathOf config) with
  | .nameTooLong => .error (.obstacle .nameTooLong)
  | .file bytes =>
    match String.fromUTF8? bytes with
    | none => .error (.obstacle .notText)
    | some text =>
      match Toml.Document.parse? text with
      | none => .error (.ofProblem (.notToml source (around.mistake text)))
      | some document => guardedOfDocument source (.table document)
  | _ => if config.isSome then .error (.ofProblem (.fileNotFound (pathOf config))) else .ok default

/-! ## §3. No value is misused -/

/-- A check ahead of the rest: if the guarded check gives what the check gives, as a value, and the
two ways of going on agree on that, they agree as a whole. -/
theorem guarded_bind {α β γ : Type} {inject : α → β} {guarded : Except Halt β}
    {check : Except Problem α} {rest : β → Except Halt γ} {rest' : α → Except Problem γ}
    (checked : guarded = (check.map inject).mapError .ofProblem)
    (later : ∀ a, check = .ok a → rest (inject a) = (rest' a).mapError .ofProblem) :
    guarded >>= rest = (check >>= rest').mapError .ofProblem := by
  subst checked
  cases outcome : check with
  | error problem => rfl
  | ok a => exact later a outcome

theorem guardedSection_eq (document : Toml.Table) (name : String) :
    guardedSection (.table document) name =
      ((sectionOf document name).map Toml.Value.table).mapError .ofProblem := by
  unfold guardedSection sectionOf
  show (if isOfType "dict" ((document.get? name).getD (.table [])) then _ else _) = _
  cases document.get? name with
  | none => rfl
  | some v => cases v <;> rfl

theorem guardedTyped_integer (t : Toml.Table) (name key : String) :
    guardedTyped (.table t) name key "int" none =
      ((integerAt t name key).map (Option.map Toml.Value.integer)).mapError .ofProblem := by
  unfold guardedTyped integerAt
  show (match (t.get? key).orElse fun _ => none with | none => _ | some v => _) = _
  cases t.get? key with
  | none => rfl
  | some v => cases v <;> rfl

/-- A string that passes its check is one, and the fallback passes. -/
theorem guardedString_eq (t : Toml.Table) (name key fallback : String) :
    guardedString (.table t) name key fallback =
      ((stringAt t name key fallback).map Toml.Value.string).mapError .ofProblem := by
  unfold guardedString guardedTyped stringAt
  show (match (t.get? key).orElse fun _ => some (.string fallback) with
    | none => _ | some v => _) >>= _ = _
  cases t.get? key with
  | none => rfl
  | some v => cases v <;> rfl

theorem guardedPrecision_eq (t : Toml.Table) :
    guardedPrecision (.table t) =
      ((precisionOf t).map (Option.map Toml.Value.integer)).mapError .ofProblem := by
  unfold guardedPrecision precisionOf
  rw [guardedTyped_integer]
  cases integerAt t "display" "precision" with
  | error problem => rfl
  | ok asked =>
    cases asked with
    | none => rfl
    | some n =>
      show (if n < 1 then _ else _) = Except.mapError _ (Except.map _ (if n < 1 then _ else _))
      split <;> rfl

theorem contains_levelName (name : String) :
    (Level.all.map Level.name).contains name = (Level.ofName? name).isSome := by
  rw [Bool.eq_iff_iff, List.contains_iff_mem, List.mem_map]
  simp only [Level.ofName?, List.find?_isSome, beq_iff_eq]

theorem guardedLevel_eq (t : Toml.Table) :
    guardedLevel (.table t) = ((levelOf t).map Level.name).mapError .ofProblem := by
  unfold guardedLevel levelOf
  rw [guardedString_eq]
  cases stringAt t "logging" "level" default.level.name with
  | error problem => rfl
  | ok given =>
    -- The letters are there, so what is left is to look for the level.
    show (if (Level.all.map Level.name).contains (String.ofList (Text.upper given.toList)) then
      pure (String.ofList (Text.upper given.toList)) else _) = Except.mapError _ (Except.map _
        (match Level.ofName? (String.ofList (Text.upper given.toList)) with | some _ => _ | none => _))
    rw [contains_levelName]
    cases found : Level.ofName? (String.ofList (Text.upper given.toList)) with
    | none => rfl
    | some level =>
      have same := List.find?_some found
      have named : level.name = String.ofList (Text.upper given.toList) := eq_of_beq same
      rw [← named]
      rfl

/-- **No value of a document is misused**. -/
theorem guardedOfDocument_eq (source : String) (document : Toml.Table) :
    guardedOfDocument source (.table document) =
      (ofDocument source document).mapError .ofProblem := by
  unfold guardedOfDocument ofDocument
  refine guarded_bind (guardedSection_eq document "display") fun display _ => ?_
  refine guarded_bind (guardedSection_eq document "repl") fun repl _ => ?_
  refine guarded_bind (guardedSection_eq document "logging") fun logging _ => ?_
  refine guarded_bind (guardedPrecision_eq display) fun precision _ => ?_
  refine guarded_bind (guardedLevel_eq logging) fun level _ => ?_
  refine guarded_bind (guardedString_eq repl _ _ _) fun prompt _ => ?_
  refine guarded_bind (guardedString_eq logging _ _ _) fun format _ => ?_
  -- What passed its check is of the type that its use asks for.
  have known : levelNamed level.name = .ok level := by
    unfold levelNamed
    rw [Level.ofName?_name]
  rw [known]
  cases precision <;> rfl

/-- **No value is misused**: guarded loading ends as loading does. -/
theorem guardedFind_eq (around : Surroundings) (files : Files) (config : Option String) :
    guardedFind around files config = (findIn around files config).mapError .obstacle := by
  have missing : ∀ path : String,
      (if config.isSome then .error (.ofProblem (.fileNotFound path)) else .ok default :
        Except Halt Settings) =
      (if config.isSome then .error (.problem (.fileNotFound path)) else .ok default :
        Except Obstacle Settings).mapError .obstacle := by
    intro path
    split <;> rfl
  unfold guardedFind findIn
  dsimp only
  cases files (pathOf config) with
  | absent => exact missing _
  | folder => exact missing _
  | nameTooLong => rfl
  | file bytes =>
    dsimp only [ofBytes]
    cases String.fromUTF8? bytes with
    | none => rfl
    | some text =>
      dsimp only
      cases Toml.Document.parse? text with
      | none => rfl
      | some document =>
        dsimp only
        rw [guardedOfDocument_eq]
        cases ofDocument (sourceOf around.folder config) document <;> rfl

end Settings

/-! ## §4. Readable entries -/

/-- **Readable entry**: the path could be asked for, and if it names a file, the file holds a
text. -/
def Entry.IsReadable : Entry → Prop
  | nameTooLong => False
  | file bytes => bytes.IsValidUTF8
  | absent => True
  | folder => True

namespace Files

/-- No entry of a working directory is refused for the length of a path whose names are short. -/
theorem walk_ne_nameTooLong {members : List (String × Entry)}
    (plain : ∀ m ∈ members, m.2 ≠ .nameTooLong) {names : List String}
    (short : ∀ name ∈ names, name.utf8ByteSize ≤ Path.longestName) (place : Place) :
    walk members place names ≠ .nameTooLong := by
  induction names generalizing place with
  | nil => simp [walk]
  | cons name rest ih =>
    have fits : name.utf8ByteSize ≤ Path.longestName := short name (List.mem_cons_self ..)
    have later : ∀ place, walk members place rest ≠ .nameTooLong :=
      ih fun other inside => short other (List.mem_cons_of_mem name inside)
    unfold walk
    rw [if_neg (Nat.not_lt.2 fits)]
    split
    · exact later _
    split
    · cases found : members.lookup name with
      | none => simp
      | some entry =>
        obtain ⟨before, after, parts, -⟩ := List.lookup_eq_some_iff.1 found
        have usual : entry ≠ .nameTooLong := plain (name, entry) (by simp [parts])
        cases entry with
        | folder => exact later .below
        | nameTooLong => exact absurd rfl usual
        | absent =>
          dsimp only
          split <;> simp
        | file bytes =>
          dsimp only
          split <;> simp
    · simp

/-- **In a working directory** a path of usual length is readable unless it names a file without a
text. -/
theorem isReadable_ofFolder_iff {members : List (String × Entry)} {path : String}
    (plain : ∀ m ∈ members, m.2 ≠ .nameTooLong) (short : path.utf8ByteSize ≤ Path.longestPath)
    (shortNames : ∀ name ∈ Path.names path, name.utf8ByteSize ≤ Path.longestName) :
    (ofFolder members path).IsReadable ↔
      ∀ bytes, ofFolder members path = .file bytes → bytes.IsValidUTF8 := by
  have allowed : ofFolder members path ≠ .nameTooLong := by
    unfold ofFolder
    split
    · exact nofun
    split
    · next long => exact absurd short (Nat.not_le.2 long)
    · exact walk_ne_nameTooLong plain shortNames _
  cases entry : ofFolder members path with
  | nameTooLong => exact absurd entry allowed
  | file bytes => exact ⟨fun isText other same => by cases same; exact isText, fun h => h bytes rfl⟩
  | absent => exact ⟨fun _ => nofun, fun _ => trivial⟩
  | folder => exact ⟨fun _ => nofun, fun _ => trivial⟩

/-- The files of a directory that holds nothing but a default file of these bytes. -/
def onlyDefault (bytes : ByteArray) : Files := fun path =>
  if path = Settings.defaultPath then .file bytes else .absent

end Files

namespace Settings

variable {around : Surroundings} {files : Files} {config : Option String} {bytes : ByteArray}

/-- A file that holds a text is loaded, or a problem is reported. -/
theorem ofBytes_of_isText (isText : bytes.IsValidUTF8) (mistake : String → String)
    (path : String) :
    (∃ settings, ofBytes mistake path bytes = .ok settings) ∨
      ∃ problem, ofBytes mistake path bytes = .error (.problem problem) := by
  have text : String.fromUTF8? bytes = some (String.fromUTF8 bytes isText) := dif_pos isText
  unfold ofBytes
  rw [text]
  dsimp only
  cases Toml.Document.parse? (String.fromUTF8 bytes isText) with
  | none => exact .inr ⟨_, rfl⟩
  | some document =>
    dsimp only
    cases ofDocument path document with
    | ok settings => exact .inl ⟨settings, rfl⟩
    | error problem => exact .inr ⟨problem, rfl⟩

theorem findIn_of_file (entry : files (pathOf config) = .file bytes) :
    findIn around files config = ofBytes around.mistake (sourceOf around.folder config) bytes := by
  simp only [findIn, entry]

theorem findIn_of_not_isText (entry : files (pathOf config) = .file bytes)
    (broken : ¬ bytes.IsValidUTF8) : findIn around files config = .error .notText := by
  have none : String.fromUTF8? bytes = none := dif_neg broken
  rw [findIn_of_file entry, ofBytes, none]

theorem findIn_of_nameTooLong (entry : files (pathOf config) = .nameTooLong) :
    findIn around files config = .error .nameTooLong := by
  simp only [findIn, entry]

/-- Without a file there are the defaults, or it is reported that there is none. -/
theorem findIn_of_no_file
    (missing : files (pathOf config) = .absent ∨ files (pathOf config) = .folder) :
    (∃ settings, findIn around files config = .ok settings) ∨
      ∃ problem, findIn around files config = .error (.problem problem) := by
  have found : findIn around files config =
      if config.isSome then .error (.problem (.fileNotFound (pathOf config))) else .ok default := by
    rcases missing with absent | folder
    · simp only [findIn, absent]
    · simp only [findIn, folder]
  rw [found]
  cases config with
  | none => exact .inl ⟨_, rfl⟩
  | some config => exact .inr ⟨_, rfl⟩

/-- Loading from a readable path ends in settings or in a problem. -/
theorem findIn_of_isReadable (around : Surroundings) (readable : (files (pathOf config)).IsReadable) :
    (∃ settings, findIn around files config = .ok settings) ∨
      ∃ problem, findIn around files config = .error (.problem problem) := by
  cases entry : files (pathOf config) with
  | absent => exact findIn_of_no_file (.inl entry)
  | folder => exact findIn_of_no_file (.inr entry)
  | nameTooLong =>
    rw [entry] at readable
    exact readable.elim
  | file bytes =>
    rw [entry] at readable
    rw [findIn_of_file entry]
    exact ofBytes_of_isText readable _ _

/-- Loading from any other path ends in an obstacle that is no problem. -/
theorem findIn_of_not_isReadable (around : Surroundings)
    (unreadable : ¬ (files (pathOf config)).IsReadable) :
    findIn around files config = .error .notText ∨
      findIn around files config = .error .nameTooLong := by
  cases entry : files (pathOf config) with
  | absent =>
    rw [entry] at unreadable
    exact absurd trivial unreadable
  | folder =>
    rw [entry] at unreadable
    exact absurd trivial unreadable
  | nameTooLong => exact .inr (findIn_of_nameTooLong entry)
  | file bytes =>
    rw [entry] at unreadable
    exact .inl (findIn_of_not_isText entry unreadable)

/-- **Exactly readable paths are answered for**: with settings or with a problem. -/
theorem answered_iff_isReadable (around : Surroundings) (files : Files) (config : Option String) :
    ((∃ settings, findIn around files config = .ok settings) ∨
      ∃ problem, findIn around files config = .error (.problem problem)) ↔
      (files (pathOf config)).IsReadable := by
  constructor
  · intro answered
    by_contra unreadable
    rcases findIn_of_not_isReadable around unreadable with broken | long
    · simp [broken] at answered
    · simp [long] at answered
  · exact findIn_of_isReadable around

/-! ## §5. Limits -/

theorem limitAt_of_not_isReadable (limits : Toml.Limits)
    (unreadable : ¬ (files (pathOf config)).IsReadable) :
    limitAt limits files (pathOf config) = none := by
  unfold limitAt
  split
  · next bytes entry =>
    rw [entry] at unreadable
    have none : String.fromUTF8? bytes = none := dif_neg unreadable
    rw [none]
    rfl
  · rfl

/-- **Within the limits exactly readable paths are answered for**, and no others. -/
theorem answered_iff (around : Surroundings) (files : Files) (config : Option String) :
    ((∃ settings, load around files config = .ok settings) ∨
      ∃ problem, load around files config = .error (.obstacle (.problem problem))) ↔
      (files (pathOf config)).IsReadable ∧
        limitAt around.limits files (pathOf config) = none := by
  cases passed : limitAt around.limits files (pathOf config) with
  | some limit =>
    rw [load_of_limitAt passed]
    simp
  | none =>
    rw [load_of_within passed, ← answered_iff_isReadable around]
    cases findIn around files config with
    | ok settings => simp [Except.mapError]
    | error obstacle => simp [Except.mapError]

/-! ## §6. The program -/

/-- **What becomes of a settings file**.  No value in it is misused.  It is loaded, or a problem is
reported, exactly if its path is readable and its text passes no limit of whoever reads it; a
command then answers a problem with a report and the exit code 2.  Otherwise loading ends in an
obstacle or at the limit, and no command answers that.  Within the limits a text is read as it is
without them.  In a working directory, with a path of usual length, what is not readable is a file
without a text. -/
structure Loading (around : Surroundings) (files : Files) (config : Option String) : Prop where
  guarded : guardedFind around files config = (findIn around files config).mapError .obstacle
  answered_iff : ((∃ settings, load around files config = .ok settings) ∨
    ∃ problem, load around files config = .error (.obstacle (.problem problem))) ↔
      (files (pathOf config)).IsReadable ∧ limitAt around.limits files (pathOf config) = none
  reported : ∀ {args verbose name rest problem}, Command.Names args config verbose name rest →
    load around files config = .error (.obstacle (.problem problem)) → ∀ input,
    Command.runIn around files args input =
      .done 2 (.err ("Config error: " ++ Screen.withoutStyles problem.message ++ "\n"))
  unreadable : ∀ {args verbose name rest}, Command.Names args config verbose name rest →
    ¬ (files (pathOf config)).IsReadable → ∀ input,
    Command.runIn around files args input = .crashed .empty .notText ∨
      Command.runIn around files args input = .crashed .empty .nameTooLong
  limited : ∀ {args verbose name rest limit}, Command.Names args config verbose name rest →
    limitAt around.limits files (pathOf config) = some limit → ∀ input,
    Command.runIn around files args input = .crashed .empty (.limit limit)
  within : ∀ {bytes text}, files (pathOf config) = .file bytes →
    String.fromUTF8? bytes = some text → limitAt around.limits files (pathOf config) = none →
    (Toml.Document.read around.limits.digits text).toOption = Toml.Document.parse? text
  folder : ∀ members, files = .ofFolder members → (∀ m ∈ members, m.2 ≠ .nameTooLong) →
    (pathOf config).utf8ByteSize ≤ Path.longestPath →
    (∀ name ∈ Path.names (pathOf config), name.utf8ByteSize ≤ Path.longestName) →
    ((files (pathOf config)).IsReadable ↔
      ∀ bytes, files (pathOf config) = .file bytes → bytes.IsValidUTF8)

/-- **Every settings file is loaded or reported if it can be read within the limits**, and nothing
else is. -/
theorem load_or_report (around : Surroundings) (files : Files) (config : Option String) :
    Loading around files config where
  guarded := guardedFind_eq around files config
  answered_iff := answered_iff around files config
  reported names loaded input := by
    rw [names.runIn_of_stop loaded, Command.Names.stopped_problem]
  unreadable names unreadable input := by
    have loaded := load_of_within (limitAt_of_not_isReadable around.limits unreadable)
    rcases findIn_of_not_isReadable around unreadable with broken | long
    · rw [broken] at loaded
      exact .inl (names.runIn_of_stop loaded input)
    · rw [long] at loaded
      exact .inr (names.runIn_of_stop loaded input)
  limited names passed input := names.runIn_of_stop (load_of_limitAt passed) input
  within {bytes text} entry decoded unpassed := by
    unfold limitAt at unpassed
    simp only [entry, decoded, Option.bind_some] at unpassed
    exact Toml.Limits.read_of_passedBy unpassed
  folder members folder plain short shortNames := by
    rw [folder]
    exact Files.isReadable_ofFolder_iff plain short shortNames

/-- A default file of one byte that starts no character: there are no settings, and no problem is
reported. -/
theorem find_lone_byte :
    find (Files.onlyDefault ⟨#[0xff]⟩) none = .error .notText ∧
      Command.run (Files.onlyDefault ⟨#[0xff]⟩) ["eval", "1 + 1"] "" = .crashed .empty .notText := by
  have entry : Files.onlyDefault ⟨#[0xff]⟩ (pathOf none) = .file ⟨#[0xff]⟩ := rfl
  have broken : find (Files.onlyDefault ⟨#[0xff]⟩) none = .error .notText :=
    findIn_of_not_isText entry (by decide +kernel)
  have names : Command.Names ["eval", "1 + 1"] none false .eval ["1 + 1"] :=
    ⟨⟨"eval", by decide, by decide⟩, rfl⟩
  exact ⟨broken, names.run_of_obstacle broken ""⟩

end Settings

end LineCalc
