/-
Location — where a report points.

A report with a place points into the line as it was typed.  In a line that
exclaims it points at the first character that is not a blank, where the
text before the mark starts; in any other line it points at a word, and the
meaning of the line says at which one.

## Main definitions

  * `Line.Blamed` — the word that a report is about.
  * `Line.PointsInto` — a place in a line: at its body
    (`Line.PointsAtBody`) or at a word (`Line.PointsAtWord`).

## Main statements

  * `Line.mark_points_into_line` — every place of a report is one.
-/

import LineCalc.Proofs.Line.Grammar

namespace LineCalc

namespace Line

open Text

/-! ## §1. Words -/

/-- **Blame**: the word that a report is about, and the text that the report names. -/
inductive Blamed (words : List Word) : Failure.Kind → Word → String → Prop
  | operand {operands bad} :
      Operands words operands → LeftmostBad operands bad →
      Blamed words .invalidNumber bad bad.text
  | function {name rest} :
      words = name :: rest → Blamed words .unknownFunction name (nameOf name)
  | operator {left symbol right} :
      words = [left, symbol, right] → Blamed words .unknownOperator symbol symbol.text

theorem Operands.subset {words operands : List Word} (h : Operands words operands) {word : Word}
    (member : word ∈ operands) : word ∈ words := by
  cases h with
  | unary => exact List.mem_cons_of_mem _ member
  | binary => exact List.mem_cons_of_mem _ member
  | operation =>
    rcases List.mem_cons.1 member with rfl | member
    · exact List.mem_cons_self ..
    · exact List.mem_cons_of_mem _ (List.mem_cons_of_mem _ member)

theorem LeftmostBad.mem {operands : List Word} {bad : Word} (h : LeftmostBad operands bad) :
    bad ∈ operands := by
  obtain ⟨before, after, rfl, -⟩ := h
  simp

theorem Blamed.mem {words : List Word} {kind : Failure.Kind} {word : Word} {token : String}
    (h : Blamed words kind word token) : word ∈ words := by
  cases h with
  | operand operands bad => exact operands.subset bad.mem
  | function parts =>
    rw [parts]
    exact List.mem_cons_self ..
  | operator parts =>
    rw [parts]
    exact List.mem_cons_of_mem _ (List.mem_cons_self ..)

/-- But for the name of a function, which is named in lower case, a report names the word as it
stands. -/
theorem Blamed.token_eq {words : List Word} {kind : Failure.Kind} {word : Word} {token : String}
    (h : Blamed words kind word token) (verbatim : kind ≠ .unknownFunction) :
    token = word.text := by
  cases h with
  | operand => rfl
  | function => exact absurd rfl verbatim
  | operator => rfl

/-- A row of words without a meaning has the wrong length, or a word of it is blamed. -/
theorem Sentence.error_cases {line : String} {words : List Word} {failure : Failure}
    (h : Sentence line words (.error failure)) :
    failure = .whole .invalidFormat ∨
      ∃ kind word token, Blamed words kind word token ∧
        failure = failureAt kind line word token := by
  cases h with
  | badOperand operands bad => exact .inr ⟨_, _, _, .operand operands bad, rfl⟩
  | unknownUnary => exact .inr ⟨_, _, _, .function rfl, rfl⟩
  | unknownBinary => exact .inr ⟨_, _, _, .function rfl, rfl⟩
  | unknownOperator => exact .inr ⟨_, _, _, .operator rfl, rfl⟩
  | count => exact .inl rfl

/-! ## §2. Bodies -/

/-- The body of a line that exclaims starts at the indent; between a missing body and the mark
there is nothing. -/
theorem Exclaims.parts {cs body : List Char} (h : Exclaims cs body) :
    ∃ gap more rest, cs = gap ++ body ++ more ++ '!' :: rest ∧
      gap.length = leadingBlanks cs ∧ (body = [] → more = []) := by
  obtain ⟨kept, found, bare, trimmed⟩ := exclaims_iff.1 h
  obtain ⟨gap, after, whole, blanks, -, starts, -⟩ :=
    trim_eq_iff.1 (beforeBang?_eq_some_iff.1 found)
  obtain ⟨more, blanksMore, split⟩ := exists_trimEnd_append_blanks kept
  have same : trimEnd kept = body := by
    rw [← trimmed]
    unfold trim
    rw [trimStart_eq_self bare]
  rw [same] at split
  refine ⟨gap, more, after, ?_, ?_, ?_⟩
  · rw [whole, split]
    simp
  -- Both lengths add up to that of the line, since what stands before the mark does not start with
  -- a blank.
  · have counted := leadingBlanks_add_length cs
    have kernel : StartsBare (kept ++ ['!'] ++ after) := by
      intro c first
      cases kept with
      | nil => exact starts c first
      | cons d rest => exact bare c first
    have rest : trimStart cs = kept ++ ['!'] ++ after := by
      rw [whole, List.append_assoc gap, trimStart_append blanks, trimStart_eq_self kernel]
    rw [rest, whole] at counted
    simp only [List.length_append] at counted
    rw [whole]
    omega
  · rintro rfl
    -- Blanks behind an empty body would stand at the start of what was trimmed.
    cases more with
    | nil => rfl
    | cons c rest =>
      have blank : isBlank c = true := blanksMore c (List.mem_cons_self ..)
      rw [bare c (by rw [split]; rfl)] at blank
      exact nomatch blank

/-! ## §3. Places -/

/-- **A place in a line that exclaims**: the column of the first character that is not a blank.
The report names the text before the mark, which stands there; without any text the mark itself
does. -/
structure PointsAtBody (line : String) (kind : Failure.Kind) (token : String) (column : Nat) :
    Prop where
  kind_eq : kind = .invalidNumber
  body : Exclaims line.toList token.toList
  gap : Blanks (line.toList.take column)
  first : ∃ c, line.toList[column]? = some c ∧ isBlank c = false
  slice : (line.toList.drop column).take token.length = token.toList
  lone : token = "" → line.toList[column]? = some '!'

/-- **A place in any other line**: the column at which the blamed word stands.  The report names
the word, or its lower case if it is taken for the name of a function. -/
structure PointsAtWord (line : String) (kind : Failure.Kind) (token : String) (column : Nat) :
    Prop where
  word : ∃ words word, Laid 0 line.toList words ∧ Blamed words kind word token ∧
    word ∈ words ∧ word.column = column ∧ StandsAt line.toList column word.text.toList
  slice : kind ≠ .unknownFunction → (line.toList.drop column).take token.length = token.toList

theorem pointsAtBody_of_exclaims {line : String} {body : List Char}
    (h : Exclaims line.toList body) :
    PointsAtBody line .invalidNumber (String.ofList body) (indent line) := by
  obtain ⟨gap, more, rest, parts, length, lone⟩ := h.parts
  have counted : gap.length = indent line := length
  obtain ⟨blanks, first⟩ := indent_spec (not_blanks_of_exclaims h)
  -- What stands before the body is as long as the indent, so cutting it off leaves the body.
  refine ⟨rfl, by rwa [String.toList_ofList], blanks, first, ?_, ?_⟩
  · rw [String.toList_ofList, String.length_ofList, ← counted, parts, List.append_assoc,
      List.append_assoc, List.drop_left, List.take_left]
  · intro empty
    have none : body = [] := by
      rw [← String.toList_ofList (l := body), empty]
      rfl
    rw [← counted, parts, none, lone none]
    simp

theorem pointsAtWord_of_blamed {line : String} {words : List Word} {kind : Failure.Kind}
    {word : Word} {token : String} (laid : Laid 0 line.toList words)
    (blamed : Blamed words kind word token) :
    ∃ column : Nat, word.column = column ∧ PointsAtWord line kind token column := by
  obtain ⟨column, place, stands⟩ := laid.standsAt blamed.mem
  rw [Nat.zero_add] at place
  refine ⟨column, place, ⟨words, word, laid, blamed, blamed.mem, place, stands⟩, ?_⟩
  intro verbatim
  rw [blamed.token_eq verbatim, ← String.length_toList]
  exact stands.slice

/-- **Pointing into a line**: the place of a report lies in the line as it was typed, at the body
of a line that exclaims and at a word of any other line. -/
def PointsInto (line : String) (failure : Failure) (mark : Mark) : Prop :=
  ∃ (token : String) (column : Nat), failure.token = some token ∧
    mark.line = line ∧ mark.column = column ∧
    (((∃ body, Exclaims line.toList body) ∧ PointsAtBody line failure.kind token column) ∨
      ((∀ body, ¬ Exclaims line.toList body) ∧ PointsAtWord line failure.kind token column))

/-- **Every place points into the line**: at the first character of the body of a line that
exclaims, and in any other line at the word that is to blame. -/
theorem mark_points_into_line {line : String} {failure : Failure} {mark : Mark}
    (refused : read line = .error failure) (placed : failure.mark = some mark) :
    PointsInto line failure mark := by
  have meaning : Grammar (some line) (.error failure) := by
    rw [← refused]
    exact grammar_read? (some line)
  cases meaning with
  | blank => exact nomatch placed
  | @badFactorial _ body exclaims bad =>
    obtain rfl := Option.some.inj placed
    exact ⟨String.ofList body, indent line, rfl, rfl, rfl,
      .inl ⟨⟨body, exclaims⟩, pointsAtBody_of_exclaims exclaims⟩⟩
  | sentence nonblank exclaims laid sentence =>
    rcases sentence.error_cases with rfl | ⟨kind, word, token, blamed, rfl⟩
    · exact nomatch placed
    · obtain rfl := Option.some.inj placed
      obtain ⟨column, place, points⟩ := pointsAtWord_of_blamed laid blamed
      exact ⟨token, column, rfl, rfl, place, .inr ⟨exclaims, points⟩⟩

/-- In a line indented by a tab the bad operand is found behind the good one and the gaps. -/
theorem mark_points_into_line_indented :
    read "\t1 +  2x " = .error (failureAt .invalidNumber "\t1 +  2x " ⟨"2x", 6⟩ "2x") ∧
      PointsInto "\t1 +  2x " (failureAt .invalidNumber "\t1 +  2x " ⟨"2x", 6⟩ "2x")
        ⟨"\t1 +  2x ", 6, 2⟩ :=
  ⟨by decide +kernel, mark_points_into_line (by decide +kernel) rfl⟩

end Line

end LineCalc
