/-
Reading — reading JSON texts.

A reader takes a value from the front of a text and leaves the rest.  Rows
of items and of members are read alike, by a reader for their cells.  The
reader reads exactly the texts of the grammar, each as the value that it
denotes, so a text denotes at most one value.

## Main definitions

  * `Json.value?`, `Json.parse?` — the reader.
  * `Json.Readable` — a cell that a reader reads up to where it ends.
  * `Json.Sound` — a reader that only reads texts of their values.

## Main statements

  * `Json.value?_of_denotes` — a text of the grammar is read up to where
    it ends.
  * `Json.sound_value?` — what is read is a text of the grammar.
  * `Json.parse?_eq_some_iff` — exactly the texts of the grammar are read.
-/

import LineCalc.Proofs.Json.Grammar
import Mathlib.Data.List.TakeWhile

namespace LineCalc

namespace Json

variable {α : Type}

/-! ## §1. The reader -/

def skipSpaces (cs : List Char) : List Char := cs.dropWhile isSpace

/-- The items of a row up to the closing bracket, and the rest.  The bound counts items. -/
def row? (read : List Char → Option (α × List Char)) (close : Char) :
    Nat → List Char → Option (List α × List Char)
  | 0, _ => none
  | bound + 1, cs => do
    let (a, rest) ← read (skipSpaces cs)
    match skipSpaces rest with
    | [] => none
    | c :: left =>
      if c = ',' then
        let (more, left) ← row? read close bound left
        pure (a :: more, left)
      else if c = close then pure ([a], left)
      else none

/-- The items behind an opening bracket, if there are any, and the rest. -/
def bracketed? (read : List Char → Option (α × List Char)) (close : Char) (cs : List Char) :
    Option (List α × List Char) :=
  match skipSpaces cs with
  | [] => none
  | c :: rest => if c = close then some ([], rest) else row? read close cs.length cs

def member? (read : List Char → Option (Value × List Char)) :
    List Char → Option ((String × Value) × List Char)
  | '"' :: rest => do
    let (name, rest) ← spelled? rest.length rest
    match skipSpaces rest with
    | ':' :: rest =>
      let (v, left) ← read (skipSpaces rest)
      pure ((String.ofList name, v), left)
    | _ => none
  | _ => none

def number? (cs : List Char) : Option (Value × List Char) :=
  let text := cs.takeWhile isNumeralChar
  if isNumeral text then
    (Double.parse? text).map fun x => (.number x, cs.dropWhile isNumeralChar)
  else none

def atom? (cs : List Char) : Option (Value × List Char) :=
  match words.find? fun (text, _) => text.isPrefixOf cs with
  | some (text, v) => some (v, cs.drop text.length)
  | none => number? cs

/-- **Reading a value**, and the rest.  The bound counts brackets within brackets. -/
def value? : Nat → List Char → Option (Value × List Char)
  | 0, _ => none
  | _, [] => none
  | bound + 1, c :: rest =>
    if c = '"' then
      (spelled? rest.length rest).map fun (s, left) => (.string (String.ofList s), left)
    else if c = '[' then
      (bracketed? (value? bound) ']' rest).map fun (items, left) => (.array items, left)
    else if c = '{' then
      (bracketed? (member? (value? bound)) '}' rest).map fun (members, left) =>
        (.object members, left)
    else atom? (c :: rest)

/-- **Reading a text**: the whole text has to denote a value. -/
def parse? (s : String) : Option Value :=
  match value? s.toList.length (skipSpaces s.toList) with
  | some (v, rest) => if (skipSpaces rest).isEmpty then some v else none
  | none => none

/-! ## §2. Spaces -/

theorem skipSpaces_append {gap : List Char} (spaces : Spaces gap) {c : Char}
    (bare : isSpace c = false) (rest : List Char) : skipSpaces (gap ++ c :: rest) = c :: rest := by
  apply dropWhile_append_of_head spaces
  intro d first
  obtain rfl := Option.some.inj first
  exact bare

theorem skipSpaces_eq_nil {gap : List Char} (spaces : Spaces gap) : skipSpaces gap = [] :=
  List.dropWhile_eq_nil_iff.2 spaces

theorem exists_spaces (cs : List Char) : ∃ gap, Spaces gap ∧ cs = gap ++ skipSpaces cs :=
  ⟨cs.takeWhile isSpace, List.all_eq_true.1 List.all_takeWhile,
    List.takeWhile_append_dropWhile.symm⟩

theorem StartsBarely.skipSpaces_append {close : Char} {gap cs : List Char}
    (h : StartsBarely close cs) (spaces : Spaces gap) (rest : List Char) :
    skipSpaces (gap ++ (cs ++ rest)) = cs ++ rest := by
  obtain ⟨c, more, rfl, bare, -⟩ := h
  exact Json.skipSpaces_append spaces bare _

/-! ## §3. Rows are read -/

section rows

variable {read : List Char → Option (α × List Char)} {close : Char}

/-- **A readable cell**: it has spaces around it, starts barely, and is read up to a text that does
not carry on a numeral. -/
structure Readable (read : List Char → Option (α × List Char)) (close : Char) (cell : Cell α) :
    Prop where
  spaced : cell.Spaced
  starts : StartsBarely close cell.text
  reads : ∀ rest, Delimited rest → read (cell.text ++ rest) = some (cell.value, rest)

/-- A readable cell is read up to the comma or bracket behind it. -/
theorem Readable.read_framed {cell : Cell α} (h : Readable read close cell) {c : Char}
    (delimits : isNumeralChar c = false) (bare : isSpace c = false) (rest : List Char) :
    ∃ left, read (skipSpaces (cell.framed ++ c :: rest)) = some (cell.value, left) ∧
      skipSpaces left = c :: rest := by
  refine ⟨cell.after ++ c :: rest, ?_, ?_⟩
  · rw [Cell.framed, List.append_assoc, List.append_assoc,
      h.starts.skipSpaces_append h.spaced.1]
    exact h.reads _ (delimited_append h.spaced.2 delimits rest)
  · exact skipSpaces_append h.spaced.2 bare rest

theorem row?_of_cells (closes : close = ']' ∨ close = '}') {cells : List (Cell α)}
    (nonempty : cells ≠ []) (readable : ∀ cell ∈ cells, Readable read close cell) {bound : Nat}
    (enough : cells.length ≤ bound) (rest : List Char) :
    row? read close bound (rowText cells ++ close :: rest) =
      some (cells.map Cell.value, rest) := by
  have delimits : isNumeralChar close = false := by rcases closes with rfl | rfl <;> rfl
  have bare : isSpace close = false := by rcases closes with rfl | rfl <;> rfl
  have other : close ≠ ',' := by rcases closes with rfl | rfl <;> decide
  induction cells generalizing bound with
  | nil => exact absurd rfl nonempty
  | cons cell more ih =>
    obtain ⟨bound, rfl⟩ := Nat.exists_eq_succ_of_ne_zero (Nat.ne_of_gt (Nat.zero_lt_of_lt enough))
    have first := readable cell (List.mem_cons_self ..)
    -- The last cell stands before the bracket, the others before commas.
    cases more with
    | nil =>
      obtain ⟨left, reads, behind⟩ := first.read_framed delimits bare rest
      simp [row?, rowText_singleton, reads, behind, other]
    | cons next more =>
      have others := ih (List.cons_ne_nil _ _)
        (fun cell member => readable cell (List.mem_cons_of_mem _ member))
        (Nat.le_of_succ_le_succ enough)
      obtain ⟨left, reads, behind⟩ := first.read_framed (c := ',') rfl rfl
        (rowText (next :: more) ++ close :: rest)
      rw [rowText_cons_cons, List.append_assoc, List.cons_append]
      simp [row?, reads, behind, others]

theorem bracketed?_of_cells (closes : close = ']' ∨ close = '}') {cells : List (Cell α)}
    (nonempty : cells ≠ []) (readable : ∀ cell ∈ cells, Readable read close cell)
    (rest : List Char) :
    bracketed? read close (rowText cells ++ close :: rest) = some (cells.map Cell.value, rest) := by
  have enough : cells.length ≤ (rowText cells ++ close :: rest).length := by
    have long := length_le_rowText fun cell member => (readable cell member).starts
    rw [List.length_append]
    omega
  have row := row?_of_cells closes nonempty readable enough rest
  -- The text does not start with the closing bracket.
  obtain ⟨cell, more, rfl⟩ := List.exists_cons_of_ne_nil nonempty
  obtain ⟨spaced, starts, -⟩ := readable cell (List.mem_cons_self ..)
  obtain ⟨behind, parts⟩ : ∃ behind, rowText (cell :: more) ++ close :: rest =
      cell.before ++ (cell.text ++ behind) := by
    cases more with
    | nil => exact ⟨cell.after ++ close :: rest, by simp [rowText_singleton, Cell.framed]⟩
    | cons next more => exact ⟨_, by
        rw [rowText_cons_cons, Cell.framed, List.append_assoc, List.append_assoc, List.append_assoc]⟩
  have skipped := starts.skipSpaces_append spaced.1 behind
  obtain ⟨c, text, same, -, other⟩ := starts
  rw [← parts, same] at skipped
  simp only [bracketed?, skipped, List.cons_append, other, if_false, row]

theorem bracketed?_of_spaces (closes : close = ']' ∨ close = '}') {gap : List Char}
    (spaces : Spaces gap) (rest : List Char) :
    bracketed? read close (gap ++ close :: rest) = some ([], rest) := by
  have bare : isSpace close = false := by rcases closes with rfl | rfl <;> rfl
  simp only [bracketed?, skipSpaces_append spaces bare, if_true]

end rows

/-! ## §4. Every text of the grammar is read -/

/-- A bound for a text with a character in front is one more than a bound for the rest. -/
theorem exists_bound {c : Char} {text : List Char} {bound : Nat}
    (enough : (c :: text).length ≤ bound) :
    ∃ smaller, bound = smaller + 1 ∧ text.length ≤ smaller := by
  cases bound with
  | zero => exact absurd enough (Nat.not_succ_le_zero _)
  | succ smaller => exact ⟨smaller, rfl, Nat.le_of_succ_le_succ enough⟩

theorem enclosed_append (first last : Char) (text rest : List Char) :
    first :: (text ++ [last]) ++ rest = first :: (text ++ last :: rest) := by
  rw [List.cons_append, List.append_assoc, List.singleton_append]

theorem value?_of_word {text : List Char} {v : Value} (member : (text, v) ∈ words) {bound : Nat}
    (enough : text.length ≤ bound) (rest : List Char) :
    value? bound (text ++ rest) = some (v, rest) := by
  simp only [words, List.mem_cons, List.not_mem_nil, or_false, Prod.mk.injEq] at member
  rcases member with ⟨rfl, rfl⟩ | ⟨rfl, rfl⟩ | ⟨rfl, rfl⟩
  all_goals
    obtain ⟨bound, rfl, -⟩ := exists_bound enough
    simp [value?, atom?, words, List.isPrefixOf]

theorem value?_of_numeral {text : List Char} {x : Double} (numeral : IsNumeral text)
    (value : Double.parse? text = some x) {bound : Nat} (enough : text.length ≤ bound)
    {rest : List Char} (delimited : Delimited rest) :
    value? bound (text ++ rest) = some (.number x, rest) := by
  have taken : (text ++ rest).takeWhile isNumeralChar = text := by
    have dropped := dropWhile_append_of_head numeral.chars delimited
    have whole := List.takeWhile_append_dropWhile (p := isNumeralChar) (l := text ++ rest)
    rw [dropped] at whole
    exact List.append_cancel_right whole
  have read : number? (text ++ rest) = some (.number x, rest) := by
    simp only [number?, taken, isNumeral_iff.2 numeral, if_true, value, Option.map_some,
      dropWhile_append_of_head numeral.chars delimited]
  obtain ⟨c, more, rfl, first⟩ := numeral.exists_eq_cons
  obtain ⟨bound, rfl, -⟩ := exists_bound enough
  -- No word and no bracket starts like a numeral.
  have other : ∀ d, d ≠ '-' → d.isDigit = false → c ≠ d := by
    intro d noMinus noDigit
    rcases first with rfl | digit
    · exact noMinus.symm
    · exact ne_of_isDigit digit noDigit
  have noWord : (words.find? fun (word, _) => word.isPrefixOf (c :: (more ++ rest))) = none := by
    simp [words, List.isPrefixOf, (other 'n' (by decide) rfl).symm,
      (other 't' (by decide) rfl).symm, (other 'f' (by decide) rfl).symm]
  rw [List.cons_append] at read ⊢
  simp only [value?, atom?, noWord, read, other '"' (by decide) rfl, other '[' (by decide) rfl,
    other '{' (by decide) rfl, if_false]

theorem readable_of_formed {read : List Char → Option (Value × List Char)} {entry : Entry}
    (formed : entry.Formed) (starts : StartsBarely ']' entry.text)
    (reads : ∀ rest, Delimited rest → read (entry.text ++ rest) = some (entry.value, rest)) :
    Readable (member? read) '}' entry.cell where
  spaced := formed.spaced
  starts := ⟨'"', _, rfl, rfl, by decide⟩
  reads rest delimited := by
    let behind := entry.beforeColon ++ ':' :: (entry.afterColon ++ (entry.text ++ rest))
    have colon : skipSpaces behind = ':' :: (entry.afterColon ++ (entry.text ++ rest)) :=
      skipSpaces_append formed.beforeColon rfl _
    have name := spelled?_length_append formed.spells behind
    have text : entry.cell.text ++ rest = '"' :: (entry.spelled ++ '"' :: behind) := by
      simp [Entry.cell, behind]
    rw [text]
    simp only [member?, name, Option.bind_eq_bind, Option.bind_some, colon,
      starts.skipSpaces_append formed.afterColon rest, reads rest delimited, Option.pure_def]
    rfl

/-- **A text of the grammar is read up to where it ends**. -/
theorem value?_of_denotes {text : List Char} {v : Value} (h : Denotes text v) {bound : Nat}
    (enough : text.length ≤ bound) {rest : List Char} (delimited : Delimited rest) :
    value? bound (text ++ rest) = some (v, rest) := by
  -- The induction is on the grammar; items and members are read with a smaller bound.
  induction h generalizing bound rest with
  | word member => exact value?_of_word member enough rest
  | number numeral value => exact value?_of_numeral numeral value enough delimited
  | @string text cs spells =>
    obtain ⟨bound, rfl, -⟩ := exists_bound enough
    rw [enclosed_append]
    simp only [value?, if_true, spelled?_length_append spells rest, Option.map_some]
  | @noItems gap spaces =>
    obtain ⟨bound, rfl, -⟩ := exists_bound enough
    have read : bracketed? (value? bound) ']' (gap ++ ']' :: rest) = some ([], rest) :=
      bracketed?_of_spaces (.inl rfl) spaces rest
    rw [enclosed_append]
    simp [value?, read]
  | @items cells nonempty spaced denotes ih =>
    obtain ⟨bound, rfl, inner⟩ := exists_bound enough
    have readable : ∀ cell ∈ cells, Readable (value? bound) ']' cell := by
      intro cell member
      have short := length_text_le_rowText member
      have inside : cell.text.length ≤ bound := by
        rw [List.length_append] at inner
        omega
      exact ⟨spaced cell member, (denotes cell member).startsBarely,
        fun rest delimited => ih cell member inside delimited⟩
    have read := bracketed?_of_cells (.inl rfl) nonempty readable rest
    rw [enclosed_append]
    simp [value?, read]
  | @noMembers gap spaces =>
    obtain ⟨bound, rfl, -⟩ := exists_bound enough
    have read : bracketed? (member? (value? bound)) '}' (gap ++ '}' :: rest) = some ([], rest) :=
      bracketed?_of_spaces (.inr rfl) spaces rest
    rw [enclosed_append]
    simp [value?, read]
  | @members entries nonempty formed denotes ih =>
    obtain ⟨bound, rfl, inner⟩ := exists_bound enough
    have readable : ∀ cell ∈ entries.map Entry.cell, Readable (member? (value? bound)) '}' cell := by
      intro cell member
      have short := length_text_le_rowText member
      obtain ⟨entry, among, rfl⟩ := List.mem_map.1 member
      have inside : entry.text.length ≤ bound := by
        simp only [Entry.cell, List.length_cons, List.length_append] at inner short
        omega
      exact readable_of_formed (formed entry among) (denotes entry among).startsBarely
        fun rest delimited => ih entry among inside delimited
    have cells : entries.map Entry.cell ≠ [] := by simpa using nonempty
    have read := bracketed?_of_cells (.inr rfl) cells readable rest
    rw [enclosed_append]
    simp only [value?, read]
    rfl

/-! ## §5. Only texts of the grammar are read -/

/-- **Sound reading**: what is read from the front of a text is a good text of its value. -/
def Sound (good : List Char → α → Prop) (read : List Char → Option (α × List Char)) : Prop :=
  ∀ cs a rest, read cs = some (a, rest) → ∃ text, good text a ∧ cs = text ++ rest

section rows

variable {good : List Char → α → Prop} {read : List Char → Option (α × List Char)} {close : Char}

theorem exists_cells (sound : Sound good read) {bound : Nat} {cs rest : List Char} {as : List α}
    (h : row? read close bound cs = some (as, rest)) :
    ∃ cells : List (Cell α), cells ≠ [] ∧
      (∀ cell ∈ cells, cell.Spaced ∧ good cell.text cell.value) ∧
      as = cells.map Cell.value ∧ cs = rowText cells ++ close :: rest := by
  induction bound generalizing cs as with
  | zero => cases h
  | succ bound ih =>
    obtain ⟨⟨a, behind⟩, first, h⟩ := Option.bind_eq_some_iff.1 h
    obtain ⟨before, spacesBefore, parts⟩ := exists_spaces cs
    obtain ⟨text, isGood, skipped⟩ := sound _ _ _ first
    obtain ⟨after, spacesAfter, parts'⟩ := exists_spaces behind
    let cell : Cell α := ⟨before, text, after, a⟩
    have whole : cs = cell.framed ++ skipSpaces behind := by
      rw [parts, skipped, Cell.framed, List.append_assoc, List.append_assoc, ← parts']
    dsimp only at h
    split at h
    · cases h
    next c left ended =>
    rw [ended] at whole
    split at h
    · next comma =>
      -- Behind a comma the row goes on.
      obtain ⟨⟨more, left'⟩, later, same⟩ := Option.bind_eq_some_iff.1 h
      obtain ⟨rfl, rfl⟩ := Prod.mk.inj (Option.some.inj same)
      obtain ⟨cells, nonempty, good', rfl, rfl⟩ := ih later
      refine ⟨cell :: cells, List.cons_ne_nil _ _, ?_, rfl, ?_⟩
      · exact List.forall_mem_cons.2 ⟨⟨⟨spacesBefore, spacesAfter⟩, isGood⟩, good'⟩
      · obtain ⟨next, others, rfl⟩ := List.exists_cons_of_ne_nil nonempty
        rw [whole, comma, rowText_cons_cons, List.append_assoc, List.cons_append]
    split at h
    · next closed =>
      obtain ⟨rfl, rfl⟩ := Prod.mk.inj (Option.some.inj h)
      refine ⟨[cell], List.cons_ne_nil _ _, ?_, rfl, ?_⟩
      · intro cell' member
        obtain rfl := List.mem_singleton.1 member
        exact ⟨⟨spacesBefore, spacesAfter⟩, isGood⟩
      · rw [whole, closed, rowText_singleton]
    · cases h

/-- What is read behind an opening bracket are spaces or a row of good texts. -/
theorem bracketed?_cases (sound : Sound good read) {cs rest : List Char} {as : List α}
    (h : bracketed? read close cs = some (as, rest)) :
    (as = [] ∧ ∃ gap, Spaces gap ∧ cs = gap ++ close :: rest) ∨
      ∃ cells : List (Cell α), cells ≠ [] ∧
        (∀ cell ∈ cells, cell.Spaced ∧ good cell.text cell.value) ∧
        as = cells.map Cell.value ∧ cs = rowText cells ++ close :: rest := by
  unfold bracketed? at h
  split at h
  · exact nomatch h
  next c behind skipped =>
  split at h
  · next closed =>
    obtain ⟨rfl, rfl⟩ := Prod.mk.inj (Option.some.inj h)
    obtain ⟨gap, spaces, parts⟩ := exists_spaces cs
    rw [skipped, closed] at parts
    exact .inl ⟨rfl, gap, spaces, parts⟩
  · exact .inr (exists_cells sound h)

end rows

theorem exists_numeral {cs rest : List Char} {v : Value} (h : number? cs = some (v, rest)) :
    ∃ text, Denotes text v ∧ cs = text ++ rest := by
  unfold number? at h
  dsimp only at h
  split at h
  · next numeral =>
    obtain ⟨x, value, same⟩ := Option.map_eq_some_iff.1 h
    obtain ⟨rfl, rfl⟩ := Prod.mk.inj same
    exact ⟨_, .number (isNumeral_iff.1 numeral) value, List.takeWhile_append_dropWhile.symm⟩
  · exact nomatch h

theorem exists_atom {cs rest : List Char} {v : Value} (h : atom? cs = some (v, rest)) :
    ∃ text, Denotes text v ∧ cs = text ++ rest := by
  unfold atom? at h
  split at h
  · next text v' found =>
    obtain ⟨rfl, rfl⟩ := Prod.mk.inj (Option.some.inj h)
    have first := List.find?_some found
    have isPrefix : text <+: cs := List.isPrefixOf_iff_prefix.1 first
    exact ⟨text, .word (List.mem_of_find?_eq_some found),
      (List.prefix_iff_eq_append.1 isPrefix).symm⟩
  · exact exists_numeral h

/-- What is read as a member of an object is the text of an entry, up to spaces around it. -/
theorem sound_member? {read : List Char → Option (Value × List Char)} (sound : Sound Denotes read) :
    Sound (fun text a => ∀ before after, Spaces before → Spaces after →
      ∃ entry, IsEntry entry ∧ entry.cell = ⟨before, text, after, a⟩) (member? read) := by
  intro cs a rest h
  unfold member? at h
  split at h
  · next behind =>
    obtain ⟨⟨name, afterName⟩, spelled, h⟩ := Option.bind_eq_some_iff.1 h
    dsimp only at h
    split at h
    · next afterColon colon =>
      obtain ⟨⟨v, left⟩, value, same⟩ := Option.bind_eq_some_iff.1 h
      obtain ⟨rfl, rfl⟩ := Prod.mk.inj (Option.some.inj same)
      obtain ⟨text, spells, rfl⟩ := exists_spells spelled
      obtain ⟨gap, spaces, parts⟩ := exists_spaces afterName
      obtain ⟨gap', spaces', parts'⟩ := exists_spaces afterColon
      obtain ⟨written, denotes, skipped⟩ := sound _ _ _ value
      refine ⟨'"' :: (text ++ '"' :: (gap ++ ':' :: (gap' ++ written))), ?_, ?_⟩
      -- What was read is the name, the colon with the spaces around it, and the value.
      · intro before after spacesBefore spacesAfter
        let entry : Entry := ⟨before, text, name, gap, gap', written, after, v⟩
        exact ⟨entry, ⟨⟨spells, ⟨spacesBefore, spacesAfter⟩, spaces, spaces'⟩, denotes⟩, rfl⟩
      · rw [parts, colon, parts', skipped]
        simp
    · exact nomatch h
  · exact nomatch h

/-- **What is read is a text of the grammar**. -/
theorem sound_value? (bound : Nat) : Sound Denotes (value? bound) := by
  -- The cases follow the first character, as the reader does.
  induction bound with
  | zero =>
    intro cs v rest h
    exact nomatch h
  | succ bound sound =>
    intro cs v rest h
    cases cs with
    | nil => exact nomatch h
    | cons c behind =>
      unfold value? at h
      split at h
      · next mark =>
        obtain ⟨⟨cs, left⟩, spelled, same⟩ := Option.map_eq_some_iff.1 h
        obtain ⟨rfl, rfl⟩ := Prod.mk.inj same
        obtain ⟨text, spells, rfl⟩ := exists_spells spelled
        exact ⟨_, .string spells, by simp [mark]⟩
      split at h
      · next mark =>
        obtain ⟨⟨items, left⟩, read, same⟩ := Option.map_eq_some_iff.1 h
        obtain ⟨rfl, rfl⟩ := Prod.mk.inj same
        rcases bracketed?_cases sound read with
          ⟨rfl, gap, spaces, rfl⟩ | ⟨cells, nonempty, good, rfl, rfl⟩
        · exact ⟨_, .noItems spaces, by simp [mark]⟩
        · exact ⟨_, .items nonempty (fun cell member => (good cell member).1)
            (fun cell member => (good cell member).2), by simp [mark]⟩
      split at h
      · next mark =>
        obtain ⟨⟨members, left⟩, read, same⟩ := Option.map_eq_some_iff.1 h
        obtain ⟨rfl, rfl⟩ := Prod.mk.inj same
        rcases bracketed?_cases (sound_member? sound) read with
          ⟨rfl, gap, spaces, rfl⟩ | ⟨cells, nonempty, good, rfl, rfl⟩
        · exact ⟨_, .noMembers spaces, by simp [mark]⟩
        · obtain ⟨entries, rfl, isEntry⟩ := exists_entries fun cell member =>
            (good cell member).2 cell.before cell.after (good cell member).1.1
              (good cell member).1.2
          have nonempty' : entries ≠ [] := by simpa using nonempty
          exact ⟨_, .members nonempty' (fun entry member => (isEntry entry member).1)
            (fun entry member => (isEntry entry member).2), by simp [mark]⟩
      · exact exists_atom h

/-! ## §6. Whole texts -/

/-- **Exactly the texts of the grammar are read**, each as the one value that it denotes. -/
theorem parse?_eq_some_iff {s : String} {v : Value} : parse? s = some v ↔ Document s v := by
  constructor
  · intro h
    unfold parse? at h
    split at h
    · next v' rest read =>
      split at h
      · next empty =>
        obtain rfl := Option.some.inj h
        obtain ⟨before, spacesBefore, parts⟩ := exists_spaces s.toList
        obtain ⟨text, denotes, skipped⟩ := sound_value? _ _ _ _ read
        obtain ⟨after, spacesAfter, parts'⟩ := exists_spaces rest
        rw [List.isEmpty_iff.1 empty, List.append_nil] at parts'
        exact ⟨before, text, after, by rw [parts, skipped, ← parts'], spacesBefore, spacesAfter,
          denotes⟩
      · exact nomatch h
    · exact nomatch h
  · rintro ⟨before, text, after, parts, spacesBefore, spacesAfter, denotes⟩
    have skipped := denotes.startsBarely.skipSpaces_append spacesBefore after
    -- The reader has a bound on nesting; the length of the text is always enough.
    have enough : text.length ≤ s.toList.length := by
      rw [parts]
      simp only [List.length_append]
      omega
    have delimited : Delimited after := by
      intro c first
      exact isNumeralChar_of_isSpace (spacesAfter c (List.mem_of_head? first))
    unfold parse?
    rw [parts] at enough ⊢
    rw [skipped, value?_of_denotes denotes enough delimited]
    simp [skipSpaces_eq_nil spacesAfter]

end Json

end LineCalc
