/-
Verbose — the option that asks for a log.

The options of the program are a row, each with the value that it takes, up
to the first argument that is none.  The option for the log may stand
anywhere in the row.  With it the same is read of the other options, and the
same arguments are left for the command.

## Main definitions

  * `Command.readOption` — one option.
  * `Command.OptionRow` — a row of options, each with its value.
  * `Command.Globals.verbosely` — the options with the log asked for.

## Main statements

  * `Command.boundedGlobals_cons` — reading the first argument.
  * `Command.boundedGlobals_congr` — a bound will do if it is at least the
    number of arguments.
  * `Command.OptionRow.readGlobals_append`, `Command.exists_optionRow` — a row
    of options is read first, and there is one wherever options are read.
  * `Command.boundedGlobals_verbosely` — what is read does not depend on
    whether the log was asked for.
  * `Command.readGlobals_insert_verbose` — the option behind a row of options.
-/

import LineCalc.Proofs.Command.Start

namespace LineCalc

namespace Command

/-! ## §1. Rows of options -/

/-- One option, with the arguments that follow. -/
def readOption (g : Globals) (args : List String) : Argument → Option (Globals × List String)
  | .long name value => readLong g name value args
  | .short letters => readLetters g letters args
  | _ => none

/-- An option is read alike with more arguments behind it, and leaves no more than there were. -/
theorem readOption_append {g g' : Globals} {args left : List String} {option : Argument}
    (read : readOption g args option = some (g', left)) (more : List String) :
    readOption g (args ++ more) option = some (g', left ++ more) ∧ left.length ≤ args.length := by
  cases option with
  | long name value => exact readLong_append read more
  | short letters => exact readLetters_append read more
  | endOfOptions => cases read
  | word text => cases read

/-- **Row of options**: each is read in turn, with the value behind it if it takes one, and they
lead from the options read so far to others. -/
inductive OptionRow : Globals → List String → Globals → Prop
  | nil (g : Globals) : OptionRow g [] g
  | cons {g g' g'' : Globals} {arg : String} {taken more : List String}
      (read : readOption g taken (.of arg) = some (g', [])) (row : OptionRow g' more g'') :
      OptionRow g (arg :: (taken ++ more)) g''

/-- What is read at an argument that is no option: the options end there, or it cannot be read. -/
def endAt (g : Globals) (arg : String) (args : List String) : Option (Globals × List String) :=
  match Argument.of arg with
  | .endOfOptions => some (g, args)
  | .word _ => some (g, arg :: args)
  | _ => none

/-- **The first argument**: an option is read, and then the options behind it. -/
theorem boundedGlobals_cons (bound : Nat) (g : Globals) (arg : String) (args : List String) :
    boundedGlobals (bound + 1) g (arg :: args) =
      match readOption g args (.of arg) with
      | some (g', left) => boundedGlobals bound g' left
      | none => endAt g arg args := by
  rw [boundedGlobals]
  unfold endAt
  cases Argument.of arg with
  | endOfOptions => rfl
  | word text => rfl
  | long name value =>
    simp only [readOption]
    cases readLong g name value args <;> rfl
  | short letters =>
    simp only [readOption]
    cases readLetters g letters args <;> rfl

/-- **Any bound will do** if it is at least the number of arguments: each option leaves fewer of
them, so no such bound is reached. -/
theorem boundedGlobals_congr {first second : Nat} {g : Globals} {args : List String}
    (fits : args.length ≤ first) (fits' : args.length ≤ second) :
    boundedGlobals first g args = boundedGlobals second g args := by
  -- On the first bound; the second and the arguments change with each option.
  induction first generalizing second g args with
  | zero =>
    obtain rfl := List.eq_nil_of_length_eq_zero (Nat.le_zero.1 fits)
    cases second <;> rfl
  | succ first ih =>
    cases args with
    | nil => cases second <;> rfl
    | cons arg args =>
      cases second with
      | zero => simp at fits'
      | succ second =>
        have fits : args.length ≤ first := Nat.le_of_succ_le_succ fits
        have fits' : args.length ≤ second := Nat.le_of_succ_le_succ fits'
        rw [boundedGlobals_cons, boundedGlobals_cons]
        cases read : readOption g args (.of arg) with
        | none => rfl
        | some result =>
          have shorter := (readOption_append read []).2
          exact ih (Nat.le_trans shorter fits) (Nat.le_trans shorter fits')

theorem OptionRow.boundedGlobals_append {g g' : Globals} {options : List String}
    (row : OptionRow g options g') (rest : List String) :
    boundedGlobals (options ++ rest).length g (options ++ rest) =
      boundedGlobals rest.length g' rest := by
  induction row with
  | nil g => rfl
  | cons read row ih =>
    obtain ⟨read, -⟩ := readOption_append read (_ ++ rest)
    rw [List.cons_append, List.append_assoc, List.length_cons, boundedGlobals_cons, read, ← ih]
    exact boundedGlobals_congr (by simp) (Nat.le_refl _)

/-- **A row of options is read first**. -/
theorem OptionRow.readGlobals_append {g : Globals} {options : List String}
    (row : OptionRow .none options g) (rest : List String) :
    readGlobals (options ++ rest) = boundedGlobals rest.length g rest :=
  row.boundedGlobals_append rest

theorem readLetters_split {g g' : Globals} {letters : List Char} {args left : List String}
    (read : readLetters g letters args = some (g', left)) :
    ∃ taken, args = taken ++ left ∧ readLetters g letters taken = some (g', []) := by
  -- On the letters: only that of a value takes an argument, and it is the last one read.
  induction letters generalizing g with
  | nil =>
    obtain ⟨rfl, rfl⟩ := Prod.mk.inj (Option.some.inj read)
    exact ⟨[], rfl, rfl⟩
  | cons c letters ih =>
    unfold readLetters at read
    split at read
    · next isV =>
      obtain ⟨taken, parts, again⟩ := ih read
      refine ⟨taken, parts, ?_⟩
      unfold readLetters
      rw [if_pos isV, again]
    split at read
    · next notV isC =>
      split at read
      · next bare =>
        cases args with
        | nil => cases read
        | cons value args =>
          obtain ⟨rfl, rfl⟩ := Prod.mk.inj (Option.some.inj read)
          refine ⟨[value], rfl, ?_⟩
          unfold readLetters
          rw [if_neg notV, if_pos isC, if_pos bare]
      · next given =>
        obtain ⟨rfl, rfl⟩ := Prod.mk.inj (Option.some.inj read)
        refine ⟨[], rfl, ?_⟩
        unfold readLetters
        rw [if_neg notV, if_pos isC, if_neg given]
    · cases read

theorem readLong_split {g g' : Globals} {name : String} {value : Option String}
    {args left : List String} (read : readLong g name value args = some (g', left)) :
    ∃ taken, args = taken ++ left ∧ readLong g name value taken = some (g', []) := by
  by_cases valued : name = "config" ∧ value = none
  · obtain ⟨rfl, rfl⟩ := valued
    cases args with
    | nil => cases read
    | cons given args =>
      obtain ⟨rfl, rfl⟩ := Prod.mk.inj (Option.some.inj read)
      exact ⟨[given], rfl, rfl⟩
  · -- The other options take nothing, and are read alike whatever is behind them.
    have alike : ∀ others,
        readLong g name value others = (readLong g name value []).map fun r => (r.1, others) := by
      intro others
      unfold readLong
      split
      · next isConfig =>
        cases value with
        | none => exact absurd ⟨isConfig, rfl⟩ valued
        | some value => rfl
      split
      · rfl
      split
      · rfl
      split
      · rfl
      split <;> rfl
    refine ⟨[], ?_, ?_⟩
    · rw [alike] at read
      obtain ⟨r, -, same⟩ := Option.map_eq_some_iff.1 read
      exact (Prod.mk.inj same).2
    · rw [alike] at read ⊢
      obtain ⟨r, first, same⟩ := Option.map_eq_some_iff.1 read
      rw [first, ← (Prod.mk.inj same).1]
      rfl

theorem readOption_split {g g' : Globals} {args left : List String} {option : Argument}
    (read : readOption g args option = some (g', left)) :
    ∃ taken, args = taken ++ left ∧ readOption g taken option = some (g', []) := by
  cases option with
  | long name value => exact readLong_split read
  | short letters => exact readLetters_split read
  | endOfOptions => cases read
  | word text => cases read

theorem eq_of_endOfOptions {arg : String} (ends : Argument.of arg = .endOfOptions) : arg = "--" := by
  unfold Argument.of at ends
  split at ends
  · next chars =>
    rw [← String.toList_inj, chars]
    rfl
  · cases ends
  · cases ends
  · cases ends

/-- **Options that can be read start with a row of options**, which two dashes may end. -/
theorem exists_optionRow {bound : Nat} {g g' : Globals} {args left : List String}
    (read : boundedGlobals bound g args = some (g', left)) (fits : args.length ≤ bound) :
    ∃ options, OptionRow g options g' ∧ (args = options ++ left ∨ args = options ++ "--" :: left) := by
  induction bound generalizing g args with
  | zero =>
    obtain ⟨rfl, rfl⟩ := Prod.mk.inj (Option.some.inj read)
    exact ⟨[], .nil g, .inl rfl⟩
  | succ bound ih =>
    cases args with
    | nil =>
      obtain ⟨rfl, rfl⟩ := Prod.mk.inj (Option.some.inj read)
      exact ⟨[], .nil g, .inl rfl⟩
    | cons arg args =>
      have fits : args.length ≤ bound := Nat.le_of_succ_le_succ fits
      rw [boundedGlobals_cons] at read
      -- Either an option is taken off the front, or the row ends here, before two dashes or before
      -- a word.
      cases first : readOption g args (.of arg) with
      | some result =>
        obtain ⟨g'', later⟩ := result
        rw [first] at read
        have shorter := (readOption_append first []).2
        obtain ⟨taken, rfl, own⟩ := readOption_split first
        obtain ⟨options, row, parts⟩ := ih read (Nat.le_trans shorter fits)
        refine ⟨arg :: (taken ++ options), .cons own row, ?_⟩
        rcases parts with rfl | rfl
        · exact .inl (by simp)
        · exact .inr (by simp)
      | none =>
        simp only [first, endAt] at read
        split at read
        · next ends =>
          obtain ⟨rfl, rfl⟩ := Prod.mk.inj (Option.some.inj read)
          exact ⟨[], .nil g, .inr (by rw [eq_of_endOfOptions ends]; rfl)⟩
        · obtain ⟨rfl, rfl⟩ := Prod.mk.inj (Option.some.inj read)
          exact ⟨[], .nil g, .inl rfl⟩
        · cases read

/-- **Arguments that can be read** have a row of options ahead of what is left of them. -/
theorem exists_optionRow_of_readGlobals {g : Globals} {args left : List String}
    (read : readGlobals args = some (g, left)) :
    ∃ options, OptionRow .none options g ∧
      (args = options ++ left ∨ args = options ++ "--" :: left) :=
  exists_optionRow read (Nat.le_refl _)

/-! ## §2. Asking for the log -/

def Globals.verbosely (g : Globals) : Globals := { g with verbose := true }

/-- What has been read, with the log asked for. -/
def verboselyRead (result : Globals × List String) : Globals × List String :=
  (result.1.verbosely, result.2)

theorem readLetters_verbosely (g : Globals) (letters : List Char) (args : List String) :
    readLetters g.verbosely letters args = (readLetters g letters args).map verboselyRead := by
  induction letters generalizing g with
  | nil => rfl
  | cons c letters ih =>
    unfold readLetters
    split
    · exact ih { g with verbose := true }
    split
    · split
      · cases args <;> rfl
      · rfl
    · rfl

theorem readLong_verbosely (g : Globals) (name : String) (value : Option String)
    (args : List String) :
    readLong g.verbosely name value args = (readLong g name value args).map verboselyRead := by
  unfold readLong
  split
  · cases value with
    | some value => rfl
    | none => cases args <;> rfl
  split
  · rfl
  -- Three names are left, and none of them takes an argument.
  split
  · rfl
  split
  · rfl
  · split <;> rfl

theorem readOption_verbosely (g : Globals) (args : List String) (option : Argument) :
    readOption g.verbosely args option = (readOption g args option).map verboselyRead := by
  cases option with
  | long name value => exact readLong_verbosely g name value args
  | short letters => exact readLetters_verbosely g letters args
  | endOfOptions => rfl
  | word text => rfl

/-- **The options are read alike** if the log was asked for before. -/
theorem boundedGlobals_verbosely (bound : Nat) (g : Globals) (args : List String) :
    boundedGlobals bound g.verbosely args = (boundedGlobals bound g args).map verboselyRead := by
  induction bound generalizing g args with
  | zero => rfl
  | succ bound ih =>
    cases args with
    | nil => rfl
    | cons arg args =>
      rw [boundedGlobals_cons, boundedGlobals_cons, readOption_verbosely]
      cases readOption g args (.of arg) with
      | some result => exact ih result.1 result.2
      | none =>
        simp only [Option.map_none, endAt]
        split <;> rfl

def verboseFlags : List String := ["--verbose", "-v"]

/-- **The option that asks for the log**, behind a row of options, changes nothing else of what is
read. -/
theorem readGlobals_insert_verbose {g : Globals} {options : List String} {flag : String}
    (row : OptionRow .none options g) (asks : flag ∈ verboseFlags) (rest : List String) :
    readGlobals (options ++ flag :: rest) =
      (readGlobals (options ++ rest)).map verboselyRead := by
  have read : readOption g rest (.of flag) = some (g.verbosely, rest) := by
    simp only [verboseFlags, List.mem_cons, List.not_mem_nil, or_false] at asks
    obtain rfl | rfl := asks
    · have form : Argument.of "--verbose" = .long "verbose" none := by decide
      rw [form]
      rfl
    · have form : Argument.of "-v" = .short ['v'] := by decide
      rw [form]
      rfl
  rw [row.readGlobals_append, row.readGlobals_append, List.length_cons, boundedGlobals_cons, read]
  exact boundedGlobals_verbosely rest.length g rest

end Command

end LineCalc
