/-
Layout — how blanks and words make up a line.

The reader of a line trims it, looks at its last character and splits it
into words, each with a pass of its own over the characters.  Here the same
line is described by what it is made of, without any of these passes, and
each pass is shown to find exactly that description.

## Main definitions

  * `Text.TrimsTo` — a text as outer blanks around a body.
  * `Line.Exclaims` — a line that ends, but for blanks, in an exclamation
    mark.
  * `Line.Laid` — a line as words between gaps, each word with its column.
  * `Line.StandsAt` — a maximal run of characters that are not blanks.

## Main statements

  * `Text.trim_eq_iff` — trimming finds the body.
  * `Line.beforeBang?_trim`, `Line.beforeBang?_trim_eq_none` — the last
    character of the trimmed line decides whether the line exclaims.
  * `Line.standsAt_of_mem_words` — every word stands at its column.
  * `Line.indent_spec` — the indent is the column of the first character
    that is not a blank.
-/

import LineCalc.Line.Reading
import Mathlib.Data.List.TakeWhile

namespace LineCalc

/-! ## §1. Trimming -/

namespace Text

/-- **Blanks**: a text without any other character. -/
def Blanks (cs : List Char) : Prop := ∀ c ∈ cs, isBlank c = true

/-- The first character, if there is one, is not a blank. -/
def StartsBare (cs : List Char) : Prop := ∀ c, cs.head? = some c → isBlank c = false

/-- The last character, if there is one, is not a blank. -/
def EndsBare (cs : List Char) : Prop := ∀ c, cs.getLast? = some c → isBlank c = false

/-- **Trimming**, as a relation: the text is `body` between blanks, and `body` has none at
either end. -/
def TrimsTo (cs body : List Char) : Prop :=
  ∃ before after, cs = before ++ body ++ after ∧ Blanks before ∧ Blanks after ∧
    StartsBare body ∧ EndsBare body

theorem blanks_nil : Blanks [] := fun _ member => nomatch member

theorem trimStart_append {gap : List Char} (blanks : Blanks gap) (rest : List Char) :
    trimStart (gap ++ rest) = trimStart rest :=
  List.dropWhile_append_of_pos blanks

theorem trimStart_eq_self {cs : List Char} (bare : StartsBare cs) : trimStart cs = cs := by
  cases cs with
  | nil => rfl
  | cons c rest =>
    have first : isBlank c = false := bare c rfl
    exact List.dropWhile_cons_of_neg (by simp [first])

theorem trimStart_eq_nil_iff {cs : List Char} : trimStart cs = [] ↔ Blanks cs :=
  List.dropWhile_eq_nil_iff

/-- What is left after the blanks at the start does not start with one. -/
theorem startsBare_trimStart (cs : List Char) : StartsBare (trimStart cs) := by
  intro c first
  have found := List.head?_dropWhile_not isBlank cs
  rw [show cs.dropWhile isBlank = trimStart cs from rfl, first] at found
  simpa using found

/-- Trimming at the end is trimming at the start, seen from the other side. -/
theorem trimEnd_eq_reverse (cs : List Char) : trimEnd cs = (trimStart cs.reverse).reverse := rfl

theorem trimEnd_append {gap : List Char} (blanks : Blanks gap) (cs : List Char) :
    trimEnd (cs ++ gap) = trimEnd cs := by
  have flipped : Blanks gap.reverse := fun c member => blanks c (List.mem_reverse.1 member)
  rw [trimEnd_eq_reverse, List.reverse_append, trimStart_append flipped, ← trimEnd_eq_reverse]

theorem trimEnd_eq_self {cs : List Char} (bare : EndsBare cs) : trimEnd cs = cs := by
  have flipped : StartsBare cs.reverse := fun c first => bare c (by rwa [List.head?_reverse] at first)
  rw [trimEnd_eq_reverse, trimStart_eq_self flipped, List.reverse_reverse]

theorem exists_blanks_append_trimStart (cs : List Char) :
    ∃ gap, Blanks gap ∧ gap.length = leadingBlanks cs ∧ cs = gap ++ trimStart cs := by
  refine ⟨cs.takeWhile isBlank, ?_, rfl, List.takeWhile_append_dropWhile.symm⟩
  intro c member
  exact List.all_eq_true.1 List.all_takeWhile c member

theorem exists_trimEnd_append_blanks (cs : List Char) :
    ∃ gap, Blanks gap ∧ cs = trimEnd cs ++ gap := by
  obtain ⟨gap, blanks, -, parts⟩ := exists_blanks_append_trimStart cs.reverse
  refine ⟨gap.reverse, fun c member => blanks c (List.mem_reverse.1 member), ?_⟩
  rw [trimEnd_eq_reverse, ← List.reverse_append, ← parts, List.reverse_reverse]

/-- What is left after the blanks at the end does not end with one. -/
theorem endsBare_trimEnd (cs : List Char) : EndsBare (trimEnd cs) := by
  intro c last
  rw [trimEnd_eq_reverse, List.getLast?_reverse] at last
  exact startsBare_trimStart _ c last

theorem startsBare_trimEnd {cs : List Char} (bare : StartsBare cs) : StartsBare (trimEnd cs) := by
  obtain ⟨gap, -, parts⟩ := exists_trimEnd_append_blanks cs
  intro c first
  apply bare c
  rw [parts, List.head?_append, first]
  rfl

/-- **Trimming finds the body** between the outer blanks, and there is no other. -/
theorem trim_eq_iff {cs body : List Char} : trim cs = body ↔ TrimsTo cs body := by
  constructor
  · rintro rfl
    obtain ⟨before, blanksBefore, -, front⟩ := exists_blanks_append_trimStart cs
    obtain ⟨after, blanksAfter, back⟩ := exists_trimEnd_append_blanks (trimStart cs)
    refine ⟨before, after, ?_, blanksBefore, blanksAfter, ?_, endsBare_trimEnd _⟩
    · rw [List.append_assoc]
      unfold trim
      rw [← back]
      exact front
    · exact startsBare_trimEnd (startsBare_trimStart cs)
  · rintro ⟨before, after, rfl, blanksBefore, blanksAfter, starts, ends⟩
    unfold trim
    rw [List.append_assoc, trimStart_append blanksBefore]
    cases body with
    | nil =>
      -- Without a body the blanks behind it are cut off at the start as well.
      rw [List.nil_append, trimStart_eq_nil_iff.2 blanksAfter]
      rfl
    | cons c rest =>
      have bare : StartsBare (c :: rest ++ after) := starts
      rw [trimStart_eq_self bare, trimEnd_append blanksAfter, trimEnd_eq_self ends]

theorem trim_eq_nil_iff {cs : List Char} : trim cs = [] ↔ Blanks cs := by
  constructor
  · intro empty
    obtain ⟨before, after, rfl, blanksBefore, blanksAfter, -⟩ := trim_eq_iff.1 empty
    intro c member
    simp only [List.append_nil, List.mem_append] at member
    exact member.elim (blanksBefore c) (blanksAfter c)
  · intro blanks
    refine trim_eq_iff.2 ⟨cs, [], by simp, blanks, blanks_nil, ?_, ?_⟩
    · exact fun c first => nomatch first
    · exact fun c last => nomatch last

end Text

namespace Line

open Text

/-! ## §2. The last character -/

/-- **Exclaiming**: the last character that is not a blank is an exclamation mark, and `body` is
the trimmed text before it. -/
def Exclaims (cs body : List Char) : Prop :=
  ∃ before after, cs = before ++ '!' :: after ∧ Blanks after ∧ TrimsTo before body

/-- A text ends in an exclamation mark exactly if one stands behind the rest. -/
theorem beforeBang?_eq_some_iff {cs body : List Char} :
    beforeBang? cs = some body ↔ cs = body ++ ['!'] := by
  unfold beforeBang?
  constructor
  · intro found
    split at found
    · next before reversed =>
      have same : before.reverse = body := Option.some.inj found
      rw [← List.reverse_reverse cs, reversed, List.reverse_cons, same]
    · exact nomatch found
  · rintro rfl
    simp

/-- The mark at the end of the line is the last character after trimming, and the blanks before
the first other character are cut off from the text before it. -/
theorem trim_append_bang {before after : List Char} (blanks : Blanks after) :
    trim (before ++ '!' :: after) = trimStart before ++ ['!'] := by
  obtain ⟨gap, blanksBefore, -, parts⟩ := exists_blanks_append_trimStart before
  refine trim_eq_iff.2 ⟨gap, after, ?_, blanksBefore, blanks, ?_, ?_⟩
  · rw [List.append_assoc, List.append_assoc, ← List.append_assoc gap, ← parts]
    rfl
  · intro c first
    cases rest : trimStart before with
    | nil =>
      rw [rest] at first
      obtain rfl : '!' = c := by simpa using first
      rfl
    | cons d more =>
      rw [rest] at first
      apply startsBare_trimStart before c
      rw [rest]
      exact first
  · intro c last
    obtain rfl : '!' = c := by simpa using last
    rfl

/-- In a line that exclaims, trimming leaves the mark and the text before it. -/
theorem beforeBang?_trim {before after : List Char} (blanks : Blanks after) :
    beforeBang? (trim (before ++ '!' :: after)) = some (trimStart before) :=
  beforeBang?_eq_some_iff.2 (trim_append_bang blanks)

/-- **The body of a line that exclaims** is found by trimming twice. -/
theorem exclaims_iff {cs body : List Char} :
    Exclaims cs body ↔
      ∃ kept, beforeBang? (trim cs) = some kept ∧ StartsBare kept ∧ trim kept = body := by
  constructor
  · rintro ⟨before, after, rfl, blanks, trims⟩
    refine ⟨trimStart before, beforeBang?_trim blanks, startsBare_trimStart _, ?_⟩
    have again : trim (trimStart before) = trim before := by
      unfold trim
      rw [trimStart_eq_self (startsBare_trimStart before)]
    rw [again, trim_eq_iff.2 trims]
  · rintro ⟨kept, found, -, trimmed⟩
    have ending := beforeBang?_eq_some_iff.1 found
    obtain ⟨front, back, parts, blanksFront, blanksBack, -⟩ := trim_eq_iff.1 ending
    refine ⟨front ++ kept, back, by simpa using parts, blanksBack, ?_⟩
    rw [← trimmed, ← trim_eq_iff]
    unfold trim
    rw [trimStart_append blanksFront]

/-- A line that does not exclaim has no mark at its trimmed end. -/
theorem beforeBang?_trim_eq_none {cs : List Char} (h : ∀ body, ¬ Exclaims cs body) :
    beforeBang? (trim cs) = none := by
  cases found : beforeBang? (trim cs) with
  | none => rfl
  | some kept =>
    refine absurd (exclaims_iff.2 ⟨kept, found, ?_, rfl⟩) (h (trim kept))
    intro c first
    have whole : StartsBare (trim cs) := startsBare_trimEnd (startsBare_trimStart cs)
    apply whole c
    rw [beforeBang?_eq_some_iff.1 found, List.head?_append, first]
    rfl

theorem not_blanks_of_exclaims {cs body : List Char} (h : Exclaims cs body) : ¬ Blanks cs := by
  rintro blanks
  obtain ⟨before, after, rfl, -⟩ := h
  have mark : isBlank '!' = true := blanks '!' (by simp)
  exact absurd mark (by decide)

/-! ## §3. Words between gaps -/

/-- **A piece**: a row of characters that are not blanks, and not an empty one. -/
def IsPiece (piece : List Char) : Prop := piece ≠ [] ∧ ∀ c ∈ piece, isBlank c = false

/-- The first character, if there is one, is a blank. -/
def StartsBlank (cs : List Char) : Prop := ∀ c, cs.head? = some c → isBlank c = true

/-- The last character, if there is one, is a blank. -/
def EndsBlank (cs : List Char) : Prop := ∀ c, cs.getLast? = some c → isBlank c = true

/-- **Layout**: a text, whose first character stands in the given column, is a row of words
between gaps of blanks.  A gap before the first word, or behind the last, may be empty; two words
are never without one. -/
inductive Laid : Nat → List Char → List Word → Prop
  | blanks {column gap} : Blanks gap → Laid column gap []
  | word {column gap piece rest words} :
      Blanks gap → IsPiece piece → StartsBlank rest →
      Laid (column + gap.length + piece.length) rest words →
      Laid column (gap ++ piece ++ rest)
        (⟨String.ofList piece, (column + gap.length : Nat)⟩ :: words)

theorem wordsFrom_of_trimStart {column : Nat} {cs rest : List Char} {c : Char}
    (h : trimStart cs = c :: rest) :
    wordsFrom column cs =
      ⟨String.ofList (c :: rest.takeWhile fun d => !isBlank d),
        (column + leadingBlanks cs : Nat)⟩ ::
      wordsFrom (column + leadingBlanks cs + 1 + (rest.takeWhile fun d => !isBlank d).length)
        (rest.dropWhile fun d => !isBlank d) := by
  rw [wordsFrom]
  split
  · next empty => rw [h] at empty; exact nomatch empty
  · next c' rest' found =>
    rw [h] at found
    obtain ⟨rfl, rfl⟩ := List.cons.inj found
    rfl

theorem takeWhile_piece {piece rest : List Char} (bare : ∀ c ∈ piece, isBlank c = false)
    (starts : StartsBlank rest) :
    (piece ++ rest).takeWhile (fun d => !isBlank d) = piece ∧
      (piece ++ rest).dropWhile (fun d => !isBlank d) = rest := by
  have inside : ∀ c ∈ piece, (!isBlank c) = true := fun c member => by simp [bare c member]
  rw [List.takeWhile_append_of_pos inside, List.dropWhile_append_of_pos inside]
  cases rest with
  | nil => simp
  | cons c more =>
    have outside : isBlank c = true := starts c rfl
    simp [outside]

theorem laid_wordsFrom (column : Nat) (cs : List Char) : Laid column cs (wordsFrom column cs) := by
  -- The cases are those of the splitter: a text of blanks, or a word and the text behind it.
  fun_induction wordsFrom column cs with
  | case1 column cs empty => exact .blanks (trimStart_eq_nil_iff.1 empty)
  | case2 column cs c rest body start more ih =>
    obtain ⟨gap, blanks, length, parts⟩ := exists_blanks_append_trimStart cs
    have whole : cs = gap ++ (c :: more) ++ rest.dropWhile (fun d => !isBlank d) := by
      rw [List.append_assoc, List.cons_append, List.takeWhile_append_dropWhile, ← body]
      exact parts
    have bare : isBlank c = false := startsBare_trimStart cs c (by rw [body]; rfl)
    have piece : IsPiece (c :: more) := by
      refine ⟨List.cons_ne_nil _ _, fun d member => ?_⟩
      rcases List.mem_cons.1 member with rfl | member
      · exact bare
      · simpa using List.all_eq_true.1 List.all_takeWhile d member
    have starts : StartsBlank (rest.dropWhile fun d => !isBlank d) := by
      intro d first
      have found := List.head?_dropWhile_not (fun d => !isBlank d) rest
      rw [first] at found
      simpa using found
    have tail : Laid (column + gap.length + (c :: more).length)
        (rest.dropWhile fun d => !isBlank d)
        (wordsFrom (start + 1 + more.length) (rest.dropWhile fun d => !isBlank d)) := by
      rw [length, List.length_cons, show column + leadingBlanks cs + (more.length + 1) =
        start + 1 + more.length from by omega]
      exact ih
    have laid := Laid.word blanks piece starts tail
    rw [← whole, length] at laid
    exact laid

theorem wordsFrom_of_laid {column : Nat} {cs : List Char} {words : List Word}
    (h : Laid column cs words) : wordsFrom column cs = words := by
  -- The induction is on the layout, from the last gap to the first word.
  induction h with
  | blanks blanks => exact wordsFrom_of_blank (trimStart_eq_nil_iff.2 blanks)
  | @word column gap piece rest words blanks isPiece starts _ ih =>
    obtain ⟨nonempty, bare⟩ := isPiece
    obtain ⟨c, more, rfl⟩ := List.exists_cons_of_ne_nil nonempty
    have first : isBlank c = false := bare c (List.mem_cons_self ..)
    have start : trimStart (gap ++ (c :: more) ++ rest) = c :: (more ++ rest) := by
      have starts : StartsBare (c :: more ++ rest) := by
        rintro d ⟨⟩
        exact first
      rw [List.append_assoc, trimStart_append blanks, trimStart_eq_self starts]
      rfl
    have indent : leadingBlanks (gap ++ (c :: more) ++ rest) = gap.length := by
      have counted := leadingBlanks_add_length (gap ++ (c :: more) ++ rest)
      rw [start] at counted
      simp only [List.length_append, List.length_cons] at counted
      omega
    obtain ⟨taken, left⟩ :=
      takeWhile_piece (fun d member => bare d (List.mem_cons_of_mem c member)) starts
    rw [wordsFrom_of_trimStart start, indent, taken, left, ← ih, List.length_cons,
      show column + gap.length + (more.length + 1) = column + gap.length + 1 + more.length
        from by omega]

theorem laid_words (line : String) : Laid 0 line.toList (words line) :=
  laid_wordsFrom 0 line.toList

theorem Laid.blanks_of_nil {column : Nat} {cs : List Char} (h : Laid column cs []) : Blanks cs := by
  cases h with
  | blanks blanks => exact blanks

/-! ## §4. Columns -/

/-- **Standing at a column**: `piece` is a maximal run of characters that are not blanks, and
`column` characters stand before it. -/
def StandsAt (cs : List Char) (column : Nat) (piece : List Char) : Prop :=
  ∃ before after, cs = before ++ piece ++ after ∧ before.length = column ∧
    IsPiece piece ∧ EndsBlank before ∧ StartsBlank after

/-- What stands at a column is read there, character by character. -/
theorem StandsAt.slice {cs piece : List Char} {column : Nat} (h : StandsAt cs column piece) :
    (cs.drop column).take piece.length = piece := by
  obtain ⟨before, after, rfl, rfl, -⟩ := h
  rw [List.append_assoc, List.drop_left, List.take_left]

theorem StandsAt.lt_length {cs piece : List Char} {column : Nat} (h : StandsAt cs column piece) :
    column < cs.length := by
  obtain ⟨before, after, rfl, rfl, ⟨nonempty, -⟩, -⟩ := h
  have longer : 0 < piece.length := List.length_pos_iff.2 nonempty
  simp only [List.length_append]
  omega

/-- What stands in a text stands further to the right once a piece with its gap is put in
front. -/
theorem StandsAt.shift {gap piece rest run : List Char} {column : Nat} (starts : StartsBlank rest)
    (h : StandsAt rest column run) :
    StandsAt (gap ++ piece ++ rest) ((gap ++ piece).length + column) run := by
  obtain ⟨before, after, rfl, rfl, isRun, ends, opens⟩ := h
  refine ⟨gap ++ piece ++ before, after, by simp, by simp [Nat.add_assoc], isRun, ?_, opens⟩
  obtain ⟨d, more, rfl⟩ := List.exists_cons_of_ne_nil isRun.1
  cases before with
  | nil =>
    -- Two pieces without a gap would be one: the rest starts with a blank.
    have blank : isBlank d = true := starts d rfl
    rw [isRun.2 d (List.mem_cons_self ..)] at blank
    exact nomatch blank
  | cons b bs =>
    have same : (gap ++ piece ++ b :: bs).getLast? = (b :: bs).getLast? := by
      simp [List.getLast?_append, List.getLast?_cons]
    intro c last
    exact ends c (same ▸ last)

theorem Laid.standsAt {column : Nat} {cs : List Char} {words : List Word}
    (h : Laid column cs words) {word : Word} (member : word ∈ words) :
    ∃ offset : Nat, word.column = (column + offset : Nat) ∧
      StandsAt cs offset word.text.toList := by
  induction h with
  | blanks => exact nomatch member
  | @word column gap piece rest words blanks isPiece starts _ ih =>
    rcases List.mem_cons.1 member with rfl | later
    · refine ⟨gap.length, rfl, ?_⟩
      rw [String.toList_ofList]
      exact ⟨gap, rest, rfl, rfl, isPiece, fun c last => blanks c (List.mem_of_getLast? last),
        starts⟩
    · obtain ⟨offset, place, stands⟩ := ih later
      refine ⟨(gap ++ piece).length + offset, ?_, stands.shift starts⟩
      rw [place, List.length_append]
      omega

/-- **Every word of a line stands at its column**. -/
theorem standsAt_of_mem_words {line : String} {word : Word} (member : word ∈ words line) :
    ∃ column : Nat, word.column = column ∧ StandsAt line.toList column word.text.toList := by
  obtain ⟨column, place, stands⟩ := (laid_words line).standsAt member
  exact ⟨column, by simpa using place, stands⟩

/-- **The indent** counts the blanks before the first other character. -/
theorem indent_spec {line : String} (h : ¬ Blanks line.toList) :
    Blanks (line.toList.take (indent line)) ∧
      ∃ c, line.toList[indent line]? = some c ∧ isBlank c = false := by
  obtain ⟨gap, blanks, length, parts⟩ := exists_blanks_append_trimStart line.toList
  have counted : gap.length = indent line := length
  cases rest : trimStart line.toList with
  | nil => exact absurd (trimStart_eq_nil_iff.1 rest) h
  | cons c more =>
    rw [rest] at parts
    have bare : isBlank c = false := startsBare_trimStart line.toList c (by rw [rest]; rfl)
    rw [parts, ← counted, List.take_left]
    exact ⟨blanks, c, by simp, bare⟩

end Line

end LineCalc
