/-
Trimmed — outer blanks change nothing but places.

A line is read as what its words say, and the columns of the words only show
in the places of reports.  Blanks at either end of a line add no words and
hide no mark, so a line and its trimmed text have the same value, or fail
alike but for the place of the failure.

## Main definitions

  * `Fault.unplaced` — a fault without its place.

## Main statements

  * `Line.readWords_unplaced` — but for places, a row of words means what
    its texts say.
  * `Line.texts_words_trim` — a line and its trimmed text have the same
    words.
  * `evaluate_trim` — outer blanks change nothing but places.
  * `evaluate_of_trim_eq_ok`, `evaluate_of_trim_eq_error` — the value, or
    the message, of the trimmed text is that of the line.
-/

import LineCalc.Evaluation
import LineCalc.Proofs.Line.Layout

namespace LineCalc

def Fault.unplaced : Fault → Fault
  | failure f => .failure f.unplaced
  | domain => .domain

theorem Fault.message_unplaced (fault : Fault) : fault.unplaced.message = fault.message := by
  cases fault <;> rfl

/-- Changing the faults of one computation after another changes those of both. -/
theorem mapError_bind {ε ε' α β : Type} (change : ε → ε') (first : Except ε α)
    (next : α → Except ε β) :
    (first >>= next).mapError change =
      first.mapError change >>= fun a => (next a).mapError change := by
  cases first <;> rfl

namespace Line

open Text

/-! ## §1. Words without places -/

section readers

variable {line line' : String} {name name' arg arg' first first' second second' : Word}

theorem operand_unplaced (same : arg.text = arg'.text) :
    (operand line arg).mapError Failure.unplaced =
      (operand line' arg').mapError Failure.unplaced := by
  unfold operand
  rw [same]
  cases Double.parseFinite? arg'.text.toList <;> rfl

theorem nameOf_congr (same : name.text = name'.text) : nameOf name = nameOf name' := by
  unfold nameOf
  rw [same]

theorem readUnary_unplaced (sameName : name.text = name'.text) (same : arg.text = arg'.text) :
    (readUnary line name arg).mapError Failure.unplaced =
      (readUnary line' name' arg').mapError Failure.unplaced := by
  unfold readUnary
  rw [mapError_bind, mapError_bind, operand_unplaced same, nameOf_congr sameName]
  congr 1
  funext x
  cases UnaryFunction.ofName? (nameOf name') <;> rfl

/-- But for places, a function and two operands mean what their texts say. -/
theorem readBinary_unplaced (sameName : name.text = name'.text)
    (sameFirst : first.text = first'.text) (sameSecond : second.text = second'.text) :
    (readBinary line name first second).mapError Failure.unplaced =
      (readBinary line' name' first' second').mapError Failure.unplaced := by
  unfold readBinary
  rw [mapError_bind, mapError_bind, operand_unplaced sameFirst, nameOf_congr sameName]
  congr 1
  funext x
  rw [mapError_bind, mapError_bind, operand_unplaced sameSecond]
  congr 1
  funext y
  cases BinaryFunction.ofName? (nameOf name') <;> rfl

/-- But for places, two operands around a symbol mean what their texts say. -/
theorem readOperation_unplaced (sameFirst : first.text = first'.text)
    (sameSymbol : name.text = name'.text) (sameSecond : second.text = second'.text) :
    (readOperation line first name second).mapError Failure.unplaced =
      (readOperation line' first' name' second').mapError Failure.unplaced := by
  unfold readOperation
  rw [mapError_bind, mapError_bind, operand_unplaced sameFirst, sameSymbol]
  congr 1
  funext x
  rw [mapError_bind, mapError_bind, operand_unplaced sameSecond]
  congr 1
  funext y
  cases Operator.ofSymbol? name'.text <;> rfl

theorem readFactorial_unplaced (body : List Char) :
    (readFactorial line body).mapError Failure.unplaced =
      (readFactorial line' body).mapError Failure.unplaced := by
  unfold readFactorial
  rw [mapError_bind, mapError_bind]
  congr 1
  exact operand_unplaced rfl

end readers

/-- **But for places, a row of words means what its texts say**. -/
theorem readWords_unplaced {line line' : String} {words words' : List Word}
    (same : words.map Word.text = words'.map Word.text) :
    (readWords line words).mapError Failure.unplaced =
      (readWords line' words').mapError Failure.unplaced := by
  have count : words.length = words'.length := by
    simpa using congrArg List.length same
  -- The rows are compared number by number of words, as they are read.
  match words, words', count with
  | [], [], _ => rfl
  | [_], [_], _ => rfl
  | [name, arg], [name', arg'], _ =>
    simp only [List.map_cons, List.map_nil, List.cons.injEq, and_true] at same
    exact readUnary_unplaced same.1 same.2
  | [first, second, third], [first', second', third'], _ =>
    simp only [List.map_cons, List.map_nil, List.cons.injEq, and_true] at same
    obtain ⟨sameFirst, sameSecond, sameThird⟩ := same
    simp only [readWords, nameOf_congr sameFirst]
    split
    · exact readBinary_unplaced sameFirst sameSecond sameThird
    · exact readOperation_unplaced sameFirst sameSecond sameThird
  | _ :: _ :: _ :: _ :: _, _ :: _ :: _ :: _ :: _, _ => rfl

/-! ## §2. Outer blanks -/

/-- A text laid out from one column is laid out from any other, in the same words. -/
theorem Laid.shift {column : Nat} {cs : List Char} {words : List Word} (h : Laid column cs words)
    (column' : Nat) :
    ∃ words', Laid column' cs words' ∧ words'.map Word.text = words.map Word.text := by
  induction h generalizing column' with
  | blanks blanks => exact ⟨[], .blanks blanks, rfl⟩
  | @word column gap piece rest words blanks isPiece starts _ ih =>
    obtain ⟨more, laid, same⟩ := ih (column' + gap.length + piece.length)
    refine ⟨_, .word blanks isPiece starts laid, ?_⟩
    simp only [List.map_cons, same]

theorem Laid.blanks_append {column : Nat} {gap cs : List Char} {words : List Word}
    (blanks : Blanks gap) (h : Laid (column + gap.length) cs words) :
    Laid column (gap ++ cs) words := by
  cases h with
  | blanks more => exact .blanks (List.forall_mem_append.2 ⟨blanks, more⟩)
  | @word _ inner piece rest words more isPiece starts laid =>
    have whole : Blanks (gap ++ inner) := List.forall_mem_append.2 ⟨blanks, more⟩
    have columns : column + (gap ++ inner).length = column + gap.length + inner.length := by
      rw [List.length_append, Nat.add_assoc]
    rw [← columns] at laid
    have row := Laid.word whole isPiece starts laid
    rw [columns] at row
    simpa only [List.append_assoc] using row

theorem Laid.append_blanks {column : Nat} {gap cs : List Char} {words : List Word}
    (blanks : Blanks gap) (h : Laid column cs words) : Laid column (cs ++ gap) words := by
  induction h with
  | blanks more => exact .blanks (List.forall_mem_append.2 ⟨more, blanks⟩)
  | @word column inner piece rest words more isPiece starts _ ih =>
    have opens : StartsBlank (rest ++ gap) := by
      intro c first
      cases rest with
      | nil => exact blanks c (List.mem_of_head? first)
      | cons d rest => exact starts c first
    rw [List.append_assoc]
    exact .word more isPiece opens ih

theorem trim_trim (cs : List Char) : trim (trim cs) = trim cs := by
  obtain ⟨-, -, -, -, -, starts, ends⟩ := trim_eq_iff.1 (rfl : trim cs = trim cs)
  exact trim_eq_iff.2 ⟨[], [], by simp, blanks_nil, blanks_nil, starts, ends⟩

/-- **A line and its trimmed text have the same words**. -/
theorem texts_words_trim (line : String) :
    (words (String.ofList (trim line.toList))).map Word.text = (words line).map Word.text := by
  obtain ⟨before, after, parts, blanksBefore, blanksAfter, -, -⟩ :=
    trim_eq_iff.1 (rfl : trim line.toList = trim line.toList)
  have laid := laid_words (String.ofList (trim line.toList))
  rw [String.toList_ofList] at laid
  obtain ⟨more, shifted, same⟩ := laid.shift (0 + before.length)
  have whole := (shifted.append_blanks blanksAfter).blanks_append blanksBefore
  rw [← List.append_assoc, ← parts] at whole
  rw [← same, ← wordsFrom_of_laid whole]
  rfl

theorem read_trim (line : String) :
    (read (String.ofList (trim line.toList))).mapError Failure.unplaced =
      (read line).mapError Failure.unplaced := by
  unfold read
  simp only [String.toList_ofList, trim_trim]
  split
  · rfl
  · cases beforeBang? (trim line.toList) with
    | none => exact readWords_unplaced (texts_words_trim line)
    | some body =>
      exact readFactorial_unplaced body

end Line

/-! ## §3. Evaluation -/

/-- A line without an expression fails with the report of reading it. -/
theorem evaluate_eq_failure {line : String} {failure : Failure}
    (h : Line.read line = .error failure) : evaluate (some line) = .error (.failure failure) := by
  simp [evaluate, Line.read?, h]

theorem evaluate_unplaced_congr {line line' : String}
    (same : (Line.read line).mapError Failure.unplaced =
      (Line.read line').mapError Failure.unplaced) :
    (evaluate (some line)).mapError Fault.unplaced =
      (evaluate (some line')).mapError Fault.unplaced := by
  -- Forgetting places keeps values apart from reports, so one line is read exactly if the other is.
  cases read : Line.read line with
  | ok expr =>
    cases read' : Line.read line' with
    | ok expr' =>
      rw [read, read'] at same
      obtain rfl := Except.ok.inj same
      rw [evaluate_eq_value read, evaluate_eq_value read']
    | error failure' =>
      rw [read, read'] at same
      exact nomatch same
  | error failure =>
    cases read' : Line.read line' with
    | ok expr' =>
      rw [read, read'] at same
      exact nomatch same
    | error failure' =>
      rw [read, read'] at same
      have unplaced : failure.unplaced = failure'.unplaced := Except.error.inj same
      rw [evaluate_eq_failure read, evaluate_eq_failure read']
      show Except.error (Fault.failure failure.unplaced) = .error (.failure failure'.unplaced)
      rw [unplaced]

/-- **Outer blanks change nothing but places**: a line has the value of its trimmed text, or fails
as it does. -/
theorem evaluate_trim (line : String) :
    (evaluate (some (String.ofList (Text.trim line.toList)))).mapError Fault.unplaced =
      (evaluate (some line)).mapError Fault.unplaced :=
  evaluate_unplaced_congr (Line.read_trim line)

theorem evaluate_of_trim_eq_ok {line : String} {x : Double}
    (value : evaluate (some (String.ofList (Text.trim line.toList))) = .ok x) :
    evaluate (some line) = .ok x := by
  have same := evaluate_trim line
  rw [value] at same
  cases whole : evaluate (some line) with
  | ok y =>
    rw [whole] at same
    exact same.symm
  | error fault =>
    rw [whole] at same
    exact nomatch same

/-- A fault of the trimmed text is one of the line, with the same message. -/
theorem evaluate_of_trim_eq_error {line : String} {fault : Fault}
    (refused : evaluate (some (String.ofList (Text.trim line.toList))) = .error fault) :
    ∃ fault', evaluate (some line) = .error fault' ∧ fault'.message = fault.message := by
  have same := evaluate_trim line
  rw [refused] at same
  cases whole : evaluate (some line) with
  | ok y =>
    rw [whole] at same
    exact nomatch same
  | error fault' =>
    rw [whole] at same
    have unplaced : fault.unplaced = fault'.unplaced := Except.error.inj same
    refine ⟨fault', rfl, ?_⟩
    rw [← fault'.message_unplaced, ← unplaced, fault.message_unplaced]

end LineCalc
