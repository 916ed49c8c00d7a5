/-
Spacing — gaps between words change nothing.

Two lines of the same words mean the same, whatever blanks stand around the
words and between them, and so do two lines that differ in the blanks before
the exclamation mark at their end.  Reading looks at a line in several ways,
and each of them is shown to depend on the words alone: whether there are
any, whether the last one ends in the mark, what stands before the mark, and
how the words are read one by one.  Only the text that a report of a factorial
names keeps the gaps of the line.

## Main definitions

  * `Line.MadeOf`, `Line.SameWords` — the words of a line, without columns
    and gaps.
  * `Line.Respaced` — a line with other gaps.
  * `Failure.Alike` — reports that differ in places and gaps only.
  * `Line.Agree` — lines that mean the same.

## Main statements

  * `Line.exclaiming_iff` — the words tell whether a line exclaims.
  * `Line.sameWords_body` — and the words of its body.
  * `Line.isNumber_congr` — bodies of the same words are the same numbers.
  * `Line.agree_of_respaced` — respaced lines agree.
-/

import LineCalc.Proofs.Double.Literal
import LineCalc.Proofs.Evaluation
import LineCalc.Proofs.Line.Trimmed

namespace LineCalc

namespace Line

open Text

/-! ## §1. Words without columns -/

/-- **Composition**: the line is a row of words between gaps of blanks, and these are the texts of
the words. -/
def MadeOf (line : String) (texts : List String) : Prop :=
  ∃ words, Laid 0 line.toList words ∧ words.map Word.text = texts

/-- **Same words**: two lines are made of the same words, in whatever gaps. -/
def SameWords (line line' : String) : Prop := ∃ texts, MadeOf line texts ∧ MadeOf line' texts

/-- A line is made of the words that splitting finds, and of no others. -/
theorem madeOf_iff {line : String} {texts : List String} :
    MadeOf line texts ↔ (words line).map Word.text = texts := by
  constructor
  · rintro ⟨row, laid, rfl⟩
    have found : words line = row := wordsFrom_of_laid laid
    rw [found]
  · intro same
    exact ⟨words line, laid_words line, same⟩

/-- Lines have the same words if splitting finds the same texts. -/
theorem sameWords_iff {line line' : String} :
    SameWords line line' ↔ (words line).map Word.text = (words line').map Word.text := by
  constructor
  · rintro ⟨texts, made, made'⟩
    rw [madeOf_iff.1 made, madeOf_iff.1 made']
  · intro same
    exact ⟨_, madeOf_iff.2 same, madeOf_iff.2 rfl⟩

theorem SameWords.refl (line : String) : SameWords line line := sameWords_iff.2 rfl

theorem SameWords.symm {line line' : String} (h : SameWords line line') : SameWords line' line :=
  sameWords_iff.2 (sameWords_iff.1 h).symm

theorem blanks_of_sameWords {line line' : String} (same : SameWords line line')
    (blanks : Blanks line.toList) : Blanks line'.toList := by
  have none : words line = [] := wordsFrom_of_laid (.blanks blanks)
  have texts := sameWords_iff.1 same
  rw [none] at texts
  have none' : words line' = [] := List.map_eq_nil_iff.1 texts.symm
  have laid := laid_words line'
  rw [none'] at laid
  exact laid.blanks_of_nil

/-- A text that neither starts nor ends with a blank and has only one word is that word. -/
theorem eq_of_words_singleton {cs : List Char} {text : String} (starts : StartsBare cs)
    (ends : EndsBare cs) (single : (words (String.ofList cs)).map Word.text = [text]) :
    String.ofList cs = text := by
  obtain ⟨word, one, rfl⟩ : ∃ word, words (String.ofList cs) = [word] ∧ word.text = text := by
    cases row : words (String.ofList cs) with
    | nil =>
      rw [row] at single
      exact nomatch single
    | cons word more =>
      rw [row, List.map_cons, List.cons.injEq, List.map_eq_nil_iff] at single
      obtain ⟨same, rfl⟩ := single
      exact ⟨word, rfl, same⟩
  -- What stands around the word is blank, and there is no blank at either end.
  have laid := laid_words (String.ofList cs)
  rw [String.toList_ofList, one] at laid
  cases laid with
  | @word _ gap piece rest _ blanks isPiece _ more =>
    have before : gap = [] := by
      cases gap with
      | nil => rfl
      | cons c gap =>
        have blank : isBlank c = true := blanks c (List.mem_cons_self ..)
        rw [starts c rfl] at blank
        exact nomatch blank
    have after : rest = [] := by
      have blanks := more.blanks_of_nil
      rcases List.eq_nil_or_concat rest with none | ⟨front, c, rfl⟩
      · exact none
      · have blank : isBlank c = true := blanks c (by simp)
        rw [ends c (by simp)] at blank
        exact nomatch blank
    rw [before, after, List.nil_append, List.append_nil]

/-! ## §2. The mark -/

/-- **Exclaiming**: the last character of the line but for blanks is an exclamation mark. -/
def Exclaiming (line : String) : Prop := ∃ body, Exclaims line.toList body

theorem exclaims_append (before : List Char) {after : List Char} (blanks : Blanks after) :
    Exclaims (before ++ '!' :: after) (trim before) :=
  ⟨before, after, rfl, blanks, trim_eq_iff.1 rfl⟩

/-- A mark behind a text lengthens its last word, or is a word of its own behind a blank. -/
theorem Laid.append_bang {column : Nat} {cs : List Char} {row : List Word}
    (h : Laid column cs row) {after : List Char} (blanks : Blanks after) :
    ∃ (row' : List Word) (front : List String) (last : List Char),
      Laid column (cs ++ '!' :: after) row' ∧
      row'.map Word.text = front ++ [String.ofList (last ++ ['!'])] ∧
      row.map Word.text = front ++ if last = [] then [] else [String.ofList last] := by
  have opens : StartsBlank after := fun c first => blanks c (List.mem_of_head? first)
  induction h with
  | @blanks column gap gapBlanks =>
    have mark : IsPiece ['!'] := ⟨List.cons_ne_nil _ _, List.forall_mem_singleton.2 (by decide)⟩
    have laid := @Laid.word column _ _ _ _ gapBlanks mark opens (.blanks blanks)
    rw [List.append_assoc, List.singleton_append] at laid
    exact ⟨_, [], [], laid, rfl, rfl⟩
  | @word column gap piece rest row gapBlanks isPiece starts laid ih =>
    cases rest with
    | nil =>
      -- Nothing separates the last piece from the mark.
      obtain rfl : row = [] := (wordsFrom_of_laid laid).symm.trans (wordsFrom_of_blank rfl)
      have longer : IsPiece (piece ++ ['!']) := by
        refine ⟨by simp, fun c member => ?_⟩
        rcases List.mem_append.1 member with inside | mark
        · exact isPiece.2 c inside
        · rw [List.mem_singleton.1 mark]
          decide
      have laid' := @Laid.word column _ _ _ _ gapBlanks longer opens (.blanks blanks)
      rw [← List.append_assoc gap, List.append_assoc (gap ++ piece), List.singleton_append]
        at laid'
      refine ⟨_, [], piece, by rwa [List.append_nil], rfl, ?_⟩
      rw [if_neg isPiece.1]
      rfl
    | cons c rest =>
      -- A blank follows the piece, so the mark belongs to what comes later.
      obtain ⟨row', front, last, laid', texts', texts⟩ := ih
      have starts' : StartsBlank (c :: rest ++ '!' :: after) := by
        intro d first
        exact starts d first
      have whole := Laid.word gapBlanks isPiece starts' laid'
      rw [← List.append_assoc] at whole
      refine ⟨_, String.ofList piece :: front, last, whole, ?_, ?_⟩
      · rw [List.map_cons, texts', List.cons_append]
      · rw [List.map_cons, texts, List.cons_append]

/-- **The words of a line that exclaims**: the last one ends in the mark, and without it they are
the words of the body. -/
theorem texts_of_exclaims {line : String} {body : List Char} (h : Exclaims line.toList body) :
    ∃ (front : List String) (last : List Char),
      (words line).map Word.text = front ++ [String.ofList (last ++ ['!'])] ∧
      (words (String.ofList body)).map Word.text =
        front ++ if last = [] then [] else [String.ofList last] := by
  obtain ⟨before, after, parts, blanks, trims⟩ := h
  have laid := laid_words (String.ofList before)
  rw [String.toList_ofList] at laid
  obtain ⟨row, front, last, laid', texts', texts⟩ := laid.append_bang blanks
  rw [← parts] at laid'
  have found : words line = row := wordsFrom_of_laid laid'
  have trimmed := texts_words_trim (String.ofList before)
  rw [String.toList_ofList, trim_eq_iff.2 trims] at trimmed
  exact ⟨front, last, found ▸ texts', trimmed.trans texts⟩

theorem Laid.exclaims {column : Nat} {cs : List Char} {row : List Word}
    (h : Laid column cs row) {front : List String} {last : List Char}
    (ends : row.map Word.text = front ++ [String.ofList (last ++ ['!'])]) :
    ∃ body, Exclaims cs body := by
  induction h generalizing front with
  | blanks => simp at ends
  | @word column gap piece rest row blanks isPiece starts laid ih =>
    cases front with
    | nil =>
      -- The word is the last one, so only blanks stand behind it.
      rw [List.map_cons, List.nil_append, List.cons.injEq, List.map_eq_nil_iff,
        String.ofList_inj] at ends
      obtain ⟨rfl, rfl⟩ := ends
      refine ⟨trim (gap ++ last), ?_⟩
      have whole := exclaims_append (gap ++ last) laid.blanks_of_nil
      simpa using whole
    | cons first front =>
      rw [List.map_cons, List.cons_append, List.cons.injEq] at ends
      obtain ⟨body, before, after, rfl, blanksAfter, -⟩ := ih ends.2
      refine ⟨trim (gap ++ piece ++ before), ?_⟩
      have whole := exclaims_append (gap ++ piece ++ before) blanksAfter
      rwa [List.append_assoc] at whole

/-- A line of the same words as one that exclaims does so as well. -/
theorem SameWords.exclaiming {line line' : String} (same : SameWords line line')
    (h : Exclaiming line) : Exclaiming line' := by
  obtain ⟨body, exclaims⟩ := h
  obtain ⟨front, last, texts, -⟩ := texts_of_exclaims exclaims
  rw [sameWords_iff.1 same] at texts
  exact (laid_words line').exclaims texts

/-- **The words tell whether a line exclaims**. -/
theorem exclaiming_iff {line line' : String} (same : SameWords line line') :
    Exclaiming line ↔ Exclaiming line' :=
  ⟨same.exclaiming, same.symm.exclaiming⟩

/-- **The words tell those of the body**. -/
theorem sameWords_body {line line' : String} {body body' : List Char}
    (same : SameWords line line') (h : Exclaims line.toList body)
    (h' : Exclaims line'.toList body') :
    SameWords (String.ofList body) (String.ofList body') := by
  obtain ⟨front, last, texts, inner⟩ := texts_of_exclaims h
  obtain ⟨front', last', texts', inner'⟩ := texts_of_exclaims h'
  have rows := texts.symm.trans ((sameWords_iff.1 same).trans texts')
  obtain ⟨rfl, ending⟩ := List.append_inj' rows rfl
  rw [List.singleton_inj, String.ofList_inj, List.append_cancel_right_eq] at ending
  rw [sameWords_iff, inner, inner', ending]

/-! ## §3. Bodies as numbers -/

theorem Exclaims.bare {cs body : List Char} (h : Exclaims cs body) :
    StartsBare body ∧ EndsBare body := by
  obtain ⟨-, -, -, -, -, -, -, -, -, starts, ends⟩ := h
  exact ⟨starts, ends⟩

theorem words_of_isNumber {text : String} {x : Double} (number : IsNumber text x) :
    (words text).map Word.text = [text] := by
  have inner : InnerText text.toList := Double.innerText_of_parseFinite? number
  have nonempty : text.toList ≠ [] := by
    intro empty
    unfold IsNumber at number
    rw [empty] at number
    exact nomatch number
  have isPiece : IsPiece text.toList := ⟨nonempty, fun c member => (inner c member).1⟩
  have opens : StartsBlank [] := fun c first => nomatch first
  have laid := @Laid.word 0 _ _ _ _ blanks_nil isPiece opens (.blanks blanks_nil)
  rw [List.nil_append, List.append_nil] at laid
  have found : words text = _ := wordsFrom_of_laid laid
  rw [found, List.map_singleton, String.ofList_toList]

/-- **Bodies of the same words are the same numbers**: no number has a gap inside. -/
theorem isNumber_congr {cs body body' : List Char} (h : Exclaims cs body')
    (same : SameWords (String.ofList body) (String.ofList body')) {x : Double}
    (number : IsNumber (String.ofList body) x) : IsNumber (String.ofList body') x := by
  have single := words_of_isNumber number
  rw [sameWords_iff.1 same] at single
  obtain ⟨starts, ends⟩ := h.bare
  rw [eq_of_words_singleton starts ends single]
  exact number

end Line

/-! ## §4. Agreement -/

/-- **Alike reports**: of one kind, and naming the same words.  Reports of lines that do not exclaim
name the very same text. -/
structure Failure.Alike (exclaims : Prop) (failure failure' : Failure) : Prop where
  kind_eq : failure.kind = failure'.kind
  token_eq : ¬ exclaims → failure.token = failure'.token
  words : Option.Rel Line.SameWords failure.token failure'.token

/-- **Alike outcomes**: the same result, or alike reports. -/
inductive AlikeOutcomes {α : Type} (exclaims : Prop) :
    Except Failure α → Except Failure α → Prop
  | result (a : α) : AlikeOutcomes exclaims (.ok a) (.ok a)
  | report {failure failure' : Failure} :
      failure.Alike exclaims failure' → AlikeOutcomes exclaims (.error failure) (.error failure')

theorem Failure.alike_of_unplaced {exclaims : Prop} {failure failure' : Failure}
    (same : failure.unplaced = failure'.unplaced) : failure.Alike exclaims failure' := by
  have kind : failure.unplaced.kind = failure'.unplaced.kind := by rw [same]
  have token : failure.token = failure'.token := by
    show failure.unplaced.token = failure'.unplaced.token
    rw [same]
  refine ⟨kind, fun _ => token, ?_⟩
  rw [token]
  cases failure'.token with
  | none => exact .none
  | some text => exact .some (.refl text)

theorem alikeOutcomes_of_unplaced {α : Type} {exclaims : Prop} {outcome outcome' : Except Failure α}
    (same : outcome.mapError Failure.unplaced = outcome'.mapError Failure.unplaced) :
    AlikeOutcomes exclaims outcome outcome' := by
  cases outcome with
  | ok a =>
    cases outcome' with
    | ok a' =>
      obtain rfl := Except.ok.inj same
      exact .result a
    | error failure' => exact nomatch same
  | error failure =>
    cases outcome' with
    | ok a' => exact nomatch same
    | error failure' => exact .report (Failure.alike_of_unplaced (Except.error.inj same))

namespace Line

open Text

/-- **Agreement** of two lines: both exclaim or neither does, and they are read alike and evaluated
alike.  Evaluating either gives a value or a report. -/
structure Agree (line line' : String) : Prop where
  exclaiming : Exclaiming line ↔ Exclaiming line'
  read : AlikeOutcomes (Exclaiming line) (read line) (read line')
  evaluate : ∃ outcome outcome' : Except Failure Double,
    evaluate (some line) = outcome.mapError .failure ∧
    evaluate (some line') = outcome'.mapError .failure ∧
    AlikeOutcomes (Exclaiming line) outcome outcome'

theorem agree_of_read {line line' : String} (exclaiming : Exclaiming line ↔ Exclaiming line')
    (alike : AlikeOutcomes (Exclaiming line) (read line) (read line')) : Agree line line' := by
  refine ⟨exclaiming, alike, ?_⟩
  cases held : Line.read line with
  | ok expr =>
    rw [held] at alike
    cases held' : Line.read line' with
    | error failure' =>
      rw [held'] at alike
      exact nomatch alike
    | ok expr' =>
      rw [held'] at alike
      cases alike
      -- One expression has one value, or one report that names nothing.
      rw [evaluate_eq_value held, evaluate_eq_value held']
      rcases evaluate_cases (some line) with ⟨x, value⟩ | ⟨failure, refused⟩
      · rw [evaluate_eq_value held] at value
        exact ⟨.ok x, .ok x, value, value, .result x⟩
      · rw [evaluate_eq_value held] at refused
        exact ⟨.error failure, .error failure, refused, refused,
          .report (Failure.alike_of_unplaced rfl)⟩
  | error failure =>
    rw [held] at alike
    cases held' : Line.read line' with
    | ok expr' =>
      rw [held'] at alike
      exact nomatch alike
    | error failure' =>
      rw [held'] at alike
      cases alike with
      | report alike =>
        exact ⟨.error failure, .error failure', evaluate_eq_failure held,
          evaluate_eq_failure held', .report alike⟩

/-! ## §5. Other gaps -/

theorem read_unplaced_of_sameWords {line line' : String} (same : SameWords line line')
    (quiet : ¬ Exclaiming line) :
    (read line).mapError Failure.unplaced = (read line').mapError Failure.unplaced := by
  by_cases blanks : Blanks line.toList
  · rw [read_of_blanks blanks, read_of_blanks (blanks_of_sameWords same blanks)]
  · have filled : ¬ Blanks line'.toList :=
      fun blanks' => blanks (blanks_of_sameWords same.symm blanks')
    have quiet' : ¬ Exclaiming line' := fun loud => quiet ((exclaiming_iff same).2 loud)
    rw [read_of_not_exclaims blanks (not_exists.1 quiet),
      read_of_not_exclaims filled (not_exists.1 quiet')]
    exact readWords_unplaced (sameWords_iff.1 same)

/-- Lines that exclaim behind bodies of the same words are read alike. -/
theorem alike_of_exclaims {line line' : String} {body body' : List Char}
    (h : Exclaims line.toList body) (h' : Exclaims line'.toList body')
    (same : SameWords (String.ofList body) (String.ofList body')) :
    AlikeOutcomes (Exclaiming line) (read line) (read line') := by
  rcases number_or_not (String.ofList body) with ⟨x, number⟩ | refused
  · rw [read_of_exclaims_number h number,
      read_of_exclaims_number h' (isNumber_congr h' same number)]
    exact .result _
  · have refused' : ∀ x, ¬ IsNumber (String.ofList body') x :=
      fun x number => refused x (isNumber_congr h same.symm number)
    rw [read_of_exclaims_bad h refused, read_of_exclaims_bad h' refused']
    exact .report ⟨rfl, fun quiet => absurd ⟨body, h⟩ quiet, .some same⟩

/-- **Respacing**: a line of the same words, or a line with other blanks before the exclamation
mark at its end. -/
inductive Respaced : String → String → Prop
  | gaps {line line' texts} : MadeOf line texts → MadeOf line' texts → Respaced line line'
  | bang {before gap gap' after : List Char} :
      Blanks gap → Blanks gap' → Blanks after →
      Respaced (String.ofList (before ++ gap ++ '!' :: after))
        (String.ofList (before ++ gap' ++ '!' :: after))

theorem agree_of_sameWords {line line' : String} (same : SameWords line line') :
    Agree line line' := by
  apply agree_of_read (exclaiming_iff same)
  by_cases loud : Exclaiming line
  · obtain ⟨body, h⟩ := loud
    obtain ⟨body', h'⟩ := same.exclaiming ⟨body, h⟩
    exact alike_of_exclaims h h' (sameWords_body same h h')
  · exact alikeOutcomes_of_unplaced (read_unplaced_of_sameWords same loud)

theorem trim_append_blanks {before gap : List Char} (blanks : Blanks gap) :
    trim (before ++ gap) = trim before := by
  obtain ⟨front, back, parts, blanksFront, blanksBack, starts, ends⟩ :=
    trim_eq_iff.1 (rfl : trim before = trim before)
  refine trim_eq_iff.2 ⟨front, back ++ gap, ?_, blanksFront,
    List.forall_mem_append.2 ⟨blanksBack, blanks⟩, starts, ends⟩
  have whole := congrArg (· ++ gap) parts
  simpa only [List.append_assoc] using whole

theorem agree_of_bang {before gap gap' after : List Char} (blanks : Blanks gap)
    (blanks' : Blanks gap') (blanksAfter : Blanks after) :
    Agree (String.ofList (before ++ gap ++ '!' :: after))
      (String.ofList (before ++ gap' ++ '!' :: after)) := by
  have exclaims : ∀ {gap : List Char}, Blanks gap →
      Exclaims (String.ofList (before ++ gap ++ '!' :: after)).toList (trim before) := by
    intro gap blanks
    rw [String.toList_ofList, ← trim_append_blanks blanks]
    exact exclaims_append (before ++ gap) blanksAfter
  apply agree_of_read ⟨fun _ => ⟨_, exclaims blanks'⟩, fun _ => ⟨_, exclaims blanks⟩⟩
  exact alike_of_exclaims (exclaims blanks) (exclaims blanks') (.refl _)

/-- **Respaced lines agree**: gaps are of no importance for what is read and what it is worth.  A
report is of the same kind and names the same words, and in a line that does not exclaim the same
text. -/
theorem agree_of_respaced {line line' : String} (h : Respaced line line') : Agree line line' := by
  cases h with
  | gaps made made' => exact agree_of_sameWords ⟨_, made, made'⟩
  | bang blanks blanks' blanksAfter => exact agree_of_bang blanks blanks' blanksAfter

/-- The gap between the words of a bad operand, and a gap before the mark of a good one. -/
theorem agree_of_respaced_factorials :
    (Respaced "1 2!" "\t1\u3000\u20282! " ∧ Agree "1 2!" "\t1\u3000\u20282! ") ∧
      Respaced "5!\n" "5\x1c !\n" ∧ Agree "5!\n" "5\x1c !\n" := by
  have gaps : Respaced "1 2!" "\t1\u3000\u20282! " :=
    @Respaced.gaps _ _ ["1", "2!"] (madeOf_iff.2 (by decide +kernel))
      (madeOf_iff.2 (by decide +kernel))
  have bang : Respaced "5!\n" "5\x1c !\n" :=
    @Respaced.bang ['5'] [] ['\x1c', ' '] ['\n'] blanks_nil
      (List.all_eq_true.1 (by decide)) (List.all_eq_true.1 (by decide))
  exact ⟨⟨gaps, agree_of_respaced gaps⟩, bang, agree_of_respaced bang⟩

end Line

end LineCalc
