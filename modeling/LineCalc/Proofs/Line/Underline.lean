/-
Underline — what the carets of a report stand under.

A report with a place shows its message, the line, and a row of carets.  The
row starts under the offending text: the word that is to blame, or the text
before the mark of a line that exclaims, or the mark itself if there is no
such text.  It is as long as the text that the report names.  That is the
offending text as it stands in the line, but for an unknown function, which
is named in lower case: there the dotted capital I becomes two characters,
and the row is longer by one caret for each.

## Main definitions

  * `Text.OneLine` — a text without line breaks.
  * `Underlines`, `Pictures` — carets under a stretch of a line, and a report
    that shows them below the line.
  * `Line.Offender` — the offending text of a line and its column.
  * `Line.surplus` — the carets behind the offending text.

## Main statements

  * `Text.length_lower` — lower case lengthens a text by its dotted capital
    Is.
  * `Line.evaluate_underlines_offender` — every report with a place
    underlines the offending text, and no more exactly if it has no surplus.
-/

import LineCalc.Proofs.Evaluation

namespace LineCalc

/-! ## §1. Texts -/

namespace Text

/-- **Line breaks**, as first and last code points: line feed to carriage return, the first three
information separators, next line, and the separators of lines and paragraphs. -/
def lineBreakRanges : List (Nat × Nat) := [
  (0x0A, 0x0D), (0x1C, 0x1E), (0x85, 0x85), (0x2028, 0x2029)]

/-- **Line break**: a character that ends a line. -/
def isLineBreak (c : Char) : Bool := inRanges lineBreakRanges c

/-- **One line**: a text without line breaks. -/
def OneLine (s : String) : Prop := ∀ c ∈ s.toList, isLineBreak c = false

instance (s : String) : Decidable (OneLine s) := List.decidableBAll _ s.toList

theorem oneLine_append {s t : String} (h : OneLine s) (h' : OneLine t) : OneLine (s ++ t) := by
  intro c member
  rw [String.toList_append, List.mem_append] at member
  exact member.elim (h c) (h' c)

/-- The lower case of a character is one character, or two for the dotted capital I. -/
theorem length_lowerChar (c : Char) : (lowerChar c).length = 1 + if c = 'İ' then 1 else 0 := by
  unfold lowerChar
  split <;> rfl

/-- **Lower case lengthens a text** by its dotted capital Is, whatever stands before it. -/
theorem length_lowerFrom (afterCased : Bool) (cs : List Char) :
    (lowerFrom afterCased cs).length = cs.length + cs.count 'İ' := by
  -- The sigma rule changes which character is written, never how many.
  induction cs generalizing afterCased with
  | nil => rfl
  | cons c rest ih =>
    unfold lowerFrom
    dsimp only
    rw [List.length_append, ih, List.length_cons, List.count_cons]
    by_cases sigma : c = 'Σ'
    · subst sigma
      have other : ('Σ' == 'İ') = false := by decide
      rw [if_pos rfl, other]
      split <;> simp <;> omega
    · rw [if_neg sigma, length_lowerChar]
      by_cases dotted : c = 'İ'
      · simp [dotted]
        omega
      · simp [dotted]
        omega

theorem length_lower (cs : List Char) : (lower cs).length = cs.length + cs.count 'İ' :=
  length_lowerFrom false cs

end Text

/-! ## §2. Rows of carets -/

/-- **Underlining** a stretch of a line that is shown behind two blanks: the carets stand under the
`length` characters from `column` on, with blanks before them and nothing behind. -/
structure Underlines (marker : String) (column length : Nat) : Prop where
  blank : ∀ i < column + 2, marker.toList[i]? = some ' '
  caret_iff : ∀ i, marker.toList[i + 2]? = some '^' ↔ column ≤ i ∧ i < column + length
  length_eq : marker.length = column + 2 + length

theorem Underlines.unique {marker : String} {column length length' : Nat}
    (h : Underlines marker column length) (h' : Underlines marker column length') :
    length = length' := by
  have counted := h.length_eq
  have counted' := h'.length_eq
  omega

namespace Mark

/-- **The row of carets** of a mark. -/
def carets (mark : Mark) : String :=
  "  " ++ row ' ' mark.column ++ row '^' (max 1 mark.length)

/-- A row of carets is a row of blanks and then a row of carets. -/
theorem toList_carets {line : String} {column : Nat} {length : Int} (pos : 1 ≤ length) :
    (carets ⟨line, column, length⟩).toList =
      List.replicate (column + 2) ' ' ++ List.replicate length.toNat '^' := by
  have margin : "  ".toList = List.replicate 2 ' ' := by decide
  unfold carets row
  simp only [String.toList_append, String.toList_ofList]
  rw [margin, List.replicate_append_replicate, Int.max_eq_right pos, Int.toNat_natCast,
    Nat.add_comm 2]

theorem oneLine_carets {line : String} {column : Nat} {length : Int} (pos : 1 ≤ length) :
    Text.OneLine (carets ⟨line, column, length⟩) := by
  intro c member
  rw [toList_carets pos, List.mem_append] at member
  rcases member with blank | caret
  · rw [List.eq_of_mem_replicate blank]
    rfl
  · rw [List.eq_of_mem_replicate caret]
    rfl

/-- **A row of carets underlines** its stretch. -/
theorem underlines_carets (line : String) (column : Nat) {length : Nat} (pos : 1 ≤ length) :
    Underlines (carets ⟨line, column, length⟩) column length := by
  have characters := @toList_carets line column length (Int.ofNat_le.2 pos)
  rw [Int.toNat_natCast] at characters
  constructor
  · intro i inside
    rw [characters, List.getElem?_append_left (by simpa using inside)]
    simp [inside]
  · intro i
    rw [characters]
    by_cases before : i < column
    · have other : (List.replicate (column + 2) ' ')[i + 2]? = some ' ' := by simp [before]
      rw [List.getElem?_append_left (by simpa using before), other]
      simp
      omega
    · rw [List.getElem?_append_right (by simp; omega), List.length_replicate,
        List.getElem?_replicate]
      split <;> simp <;> omega
  · rw [← String.length_toList, characters]
    simp

end Mark

theorem Failure.describe_of_mark {failure : Failure} {mark : Mark}
    (placed : failure.mark = some mark) :
    failure.describe = failure.message ++ "\n" ++ ("  " ++ mark.line) ++ "\n" ++ mark.carets := by
  have margin : "\n  " = "\n" ++ "  " := by decide
  unfold describe
  rw [placed]
  unfold Mark.render Mark.carets
  rw [margin]
  simp only [String.append_assoc]

/-- **Picturing** a stretch of a line: the report is the message and two more lines, the line behind
two blanks, and a marker that underlines the stretch. -/
def Pictures (failure : Failure) (line : String) (column length : Nat) : Prop :=
  ∃ marker, failure.describe = failure.message ++ "\n" ++ ("  " ++ line) ++ "\n" ++ marker ∧
    (Text.OneLine line → Text.OneLine ("  " ++ line)) ∧ Text.OneLine marker ∧
    Underlines marker column length

theorem Pictures.unique {failure : Failure} {line : String} {column length length' : Nat}
    (h : Pictures failure line column length) (h' : Pictures failure line column length') :
    length = length' := by
  obtain ⟨marker, described, -, -, underlines⟩ := h
  obtain ⟨marker', described', -, -, underlines'⟩ := h'
  obtain rfl : marker = marker' := (String.append_right_inj _).1 (described.symm.trans described')
  exact underlines.unique underlines'

theorem pictures_of_mark {failure : Failure} {line : String} {column length : Nat}
    (placed : failure.mark = some ⟨line, column, length⟩) (pos : 1 ≤ length) :
    Pictures failure line column length := by
  have margin : Text.OneLine "  " := by
    intro c member
    have blank : c = ' ' := by simpa using member
    rw [blank]
    rfl
  have described := failure.describe_of_mark placed
  exact ⟨_, described, Text.oneLine_append margin, Mark.oneLine_carets (Int.ofNat_le.2 pos),
    Mark.underlines_carets line column pos⟩

namespace Line

open Text

/-! ## §3. Offending texts -/

/-- **Offender**: the text of a line that a report is about, and its column.  In a line that
exclaims it is the text before the mark, or without any such text the mark; in any other line it
is the word that is to blame, as it stands there. -/
inductive Offender (line : String) : Failure.Kind → Nat → List Char → Prop
  | body {column body} :
      Exclaims line.toList body → body ≠ [] → Blanks (line.toList.take column) →
      (line.toList.drop column).take body.length = body →
      Offender line .invalidNumber column body
  | bang {column} :
      Exclaims line.toList [] → Blanks (line.toList.take column) →
      line.toList[column]? = some '!' → Offender line .invalidNumber column ['!']
  | word {words kind word token} {column : Nat} :
      (∀ body, ¬ Exclaims line.toList body) → Laid 0 line.toList words →
      Blamed words kind word token → word.column = column →
      StandsAt line.toList column word.text.toList →
      Offender line kind column word.text.toList

theorem Offender.slice {line : String} {kind : Failure.Kind} {column : Nat} {piece : List Char}
    (h : Offender line kind column piece) :
    (line.toList.drop column).take piece.length = piece := by
  cases h with
  | body _ _ _ slice => exact slice
  | bang _ _ mark =>
    obtain ⟨inside, found⟩ := List.getElem?_eq_some_iff.1 mark
    rw [List.drop_eq_getElem_cons inside, found]
    rfl
  | word _ _ _ _ stands => exact stands.slice

/-- **Surplus**: the carets behind the offender.  An unknown function is marked by its name in
lower case, which is longer than the word by its dotted capital Is. -/
def surplus (kind : Failure.Kind) (piece : List Char) : Nat :=
  if kind = .unknownFunction then piece.count 'İ' else 0

/-- There is no surplus but behind a function with a dotted capital I in its name. -/
theorem surplus_eq_zero_iff {kind : Failure.Kind} {piece : List Char} :
    surplus kind piece = 0 ↔ (kind = .unknownFunction → 'İ' ∉ piece) := by
  unfold surplus
  split
  · next function => simp [function, List.count_eq_zero]
  · next other => simp [other]

/-- What a report names is as long as the blamed word and its surplus. -/
theorem Blamed.length_token {words : List Word} {kind : Failure.Kind} {word : Word}
    {token : String} (h : Blamed words kind word token) :
    token.length = word.text.toList.length + surplus kind word.text.toList := by
  cases h with
  | operand => exact String.length_toList.symm
  | function =>
    unfold nameOf
    rw [String.length_ofList, length_lower]
    rfl
  | operator => exact String.length_toList.symm

/-- The mark of a word starts at the word and is as long as the word and its surplus. -/
theorem mark_of_blamed {line : String} {words : List Word} {kind : Failure.Kind} {word : Word}
    {token : String} (exclaims : ∀ body, ¬ Exclaims line.toList body)
    (laid : Laid 0 line.toList words) (blamed : Blamed words kind word token) :
    ∃ (column : Nat) (piece : List Char), Offender line kind column piece ∧ piece ≠ [] ∧
      (failureAt kind line word token).mark =
        some ⟨line, column, (piece.length + surplus kind piece : Nat)⟩ := by
  obtain ⟨column, place, stands⟩ := laid.standsAt blamed.mem
  rw [Nat.zero_add] at place
  obtain ⟨-, -, -, -, ⟨nonempty, -⟩, -⟩ := id stands
  have pos : 0 < word.text.toList.length := List.length_pos_iff.2 nonempty
  have length := blamed.length_token
  refine ⟨column, word.text.toList, .word exclaims laid blamed place stands, nonempty, ?_⟩
  show some (Mark.mk line word.column (max 1 token.length : Nat)) = _
  rw [place, Nat.max_eq_right (by omega), length]

/-- The mark of a body starts at the body and is as long as the body; without a body it is the
exclamation mark. -/
theorem mark_of_body {line : String} {body : List Char} (exclaims : Exclaims line.toList body) :
    ∃ (column : Nat) (piece : List Char), Offender line .invalidNumber column piece ∧ piece ≠ [] ∧
      (failureAt .invalidNumber line ⟨String.ofList body, indent line⟩
        (String.ofList body)).mark =
        some ⟨line, column, (piece.length + surplus .invalidNumber piece : Nat)⟩ := by
  have points := pointsAtBody_of_exclaims exclaims
  have slice := points.slice
  rw [String.length_ofList, String.toList_ofList] at slice
  refine ⟨indent line, ?_⟩
  cases body with
  | nil =>
    refine ⟨['!'], .bang exclaims points.gap (points.lone rfl), List.cons_ne_nil _ _, ?_⟩
    rfl
  | cons c rest =>
    refine ⟨c :: rest, .body exclaims (List.cons_ne_nil _ _) points.gap slice,
      List.cons_ne_nil _ _, ?_⟩
    show some (Mark.mk line (indent line) (max 1 (String.ofList (c :: rest)).length : Nat)) = _
    rw [String.length_ofList, Nat.max_eq_right (by simp)]
    rfl

/-- **Every place is the place of an offender**, and as long as it but for the surplus. -/
theorem mark_of_evaluate {line : String} {failure : Failure} {mark : Mark}
    (refused : evaluate (some line) = .error (.failure failure))
    (placed : failure.mark = some mark) :
    ∃ (column : Nat) (piece : List Char), Offender line failure.kind column piece ∧ piece ≠ [] ∧
      mark = ⟨line, column, (piece.length + surplus failure.kind piece : Nat)⟩ := by
  have meaning := grammar_read? (some line)
  rw [read_of_evaluate_placed refused placed] at meaning
  cases meaning with
  | blank => exact nomatch placed
  | badFactorial exclaims =>
    obtain ⟨column, piece, offender, nonempty, marked⟩ := mark_of_body exclaims
    exact ⟨column, piece, offender, nonempty, Option.some.inj (placed.symm.trans marked)⟩
  | sentence _ exclaims laid sentence =>
    rcases sentence.error_cases with rfl | ⟨kind, word, token, blamed, rfl⟩
    · exact nomatch placed
    · obtain ⟨column, piece, offender, nonempty, marked⟩ := mark_of_blamed exclaims laid blamed
      exact ⟨column, piece, offender, nonempty, Option.some.inj (placed.symm.trans marked)⟩

/-! ## §4. Reports -/

/-- **Every report with a place underlines the offender**.  The report is the message and two more
lines: the line behind two blanks, and carets that start under the offender and end with it and
its surplus.  So the carets stand under the offender and nothing else exactly if no function with
a dotted capital I in its name is reported. -/
theorem evaluate_underlines_offender {line : String} {failure : Failure} {mark : Mark}
    (refused : evaluate (some line) = .error (.failure failure))
    (placed : failure.mark = some mark) :
    ∃ (column : Nat) (piece : List Char), Offender line failure.kind column piece ∧
      (line.toList.drop column).take piece.length = piece ∧
      Pictures failure line column (piece.length + surplus failure.kind piece) ∧
      (Pictures failure line column piece.length ↔
        (failure.kind = .unknownFunction → 'İ' ∉ piece)) := by
  obtain ⟨column, piece, offender, nonempty, rfl⟩ := mark_of_evaluate refused placed
  have pos : 1 ≤ piece.length + surplus failure.kind piece :=
    Nat.le_add_right_of_le (List.length_pos_iff.2 nonempty)
  have pictures := pictures_of_mark placed pos
  refine ⟨column, piece, offender, offender.slice, pictures, ?_⟩
  rw [← surplus_eq_zero_iff]
  constructor
  · intro exact
    have same := exact.unique pictures
    omega
  · intro none
    rwa [none, Nat.add_zero] at pictures

/-- In a line indented by a tab the mark itself is underlined if nothing stands before it. -/
theorem evaluate_underlines_offender_lone_mark :
    evaluate (some "\t ! ") = .error (.failure (failureAt .invalidNumber "\t ! " ⟨"", 2⟩ "")) ∧
      ∃ (column : Nat) (piece : List Char), Offender "\t ! " .invalidNumber column piece ∧
        ("\t ! ".toList.drop column).take piece.length = piece ∧
        Pictures (failureAt .invalidNumber "\t ! " ⟨"", 2⟩ "") "\t ! " column
          (piece.length + surplus .invalidNumber piece) ∧
        (Pictures (failureAt .invalidNumber "\t ! " ⟨"", 2⟩ "") "\t ! " column piece.length ↔
          (Failure.Kind.invalidNumber = .unknownFunction → 'İ' ∉ piece)) := by
  have refused : evaluate (some "\t ! ") =
      .error (.failure (failureAt .invalidNumber "\t ! " ⟨"", 2⟩ "")) := by decide +kernel
  exact ⟨refused, evaluate_underlines_offender refused rfl⟩

/-- **A dotted capital I is marked twice**: the unknown function `İ` is underlined by two carets,
the second of which stands under the blank behind it. -/
theorem evaluate_dotted_not_exact :
    evaluate (some "İ 5") =
        .error (.failure (failureAt .unknownFunction "İ 5" ⟨"İ", 0⟩ "i\u0307")) ∧
      OneLine "İ 5" ∧
      ¬ ∃ (column : Nat) (piece : List Char), Offender "İ 5" .unknownFunction column piece ∧
        Pictures (failureAt .unknownFunction "İ 5" ⟨"İ", 0⟩ "i\u0307") "İ 5" column
          piece.length := by
  refine ⟨by decide +kernel, by decide +kernel, ?_⟩
  rintro ⟨column, piece, offender, exact⟩
  have two : Pictures (failureAt .unknownFunction "İ 5" ⟨"İ", 0⟩ "i\u0307") "İ 5" 0 2 :=
    pictures_of_mark rfl (by decide)
  cases offender with
  | word _ laid blamed place =>
    have words : Line.words "İ 5" = [⟨"İ", 0⟩, ⟨"5", 2⟩] := by decide +kernel
    cases blamed with
    | function parts =>
      rw [← wordsFrom_of_laid laid] at parts
      obtain ⟨rfl, -⟩ := List.cons.inj (words.symm.trans parts)
      obtain rfl : column = 0 := Int.ofNat_inj.1 place.symm
      exact absurd (exact.unique two) (by decide)

end Line

end LineCalc
