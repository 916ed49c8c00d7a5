/-
Grammar — what every line means.

The grammar says which lines hold an expression and, for each other line,
which report it gets.  It speaks of the line as it is laid out (blanks, the
last character that is not one, words) and not of the passes by which the
line is read.  Reading agrees with it on every line.

## Main definitions

  * `Line.IsNumber` — a literal of a finite double.
  * `Line.IsFunction` — a word that names a function in any case.
  * `Line.Operands` — the operands among the words of a line.
  * `Line.LeftmostBad` — the operand that is reported.
  * `Line.Sentence` — the meaning of a row of words.
  * `Line.Grammar` — the meaning of a line.

## Main statements

  * `Line.read?_eq_iff_grammar` — reading is the grammar.
-/

import LineCalc.Proofs.Line.Layout

namespace LineCalc

/-! ## §1. Vocabulary -/

/-- What can be looked up is missing if nothing has the property looked for. -/
theorem lookup_eq_none_iff {α : Type} {found : Option α} {P : α → Prop}
    (spec : ∀ {a}, found = some a ↔ P a) : found = none ↔ ∀ a, ¬ P a := by
  rw [Option.eq_none_iff_forall_ne_some]
  exact forall_congr' fun a => not_congr spec

theorem UnaryFunction.ofName?_eq_some_iff {name : String} {f : UnaryFunction} :
    ofName? name = some f ↔ name = f.name := by
  constructor
  · intro found
    have same := List.find?_some found
    exact (eq_of_beq same).symm
  · rintro rfl
    exact ofName?_name f

theorem UnaryFunction.ofName?_eq_none_iff {name : String} :
    ofName? name = none ↔ ∀ f : UnaryFunction, name ≠ f.name :=
  lookup_eq_none_iff ofName?_eq_some_iff

/-- A binary function is found by its name and by no other text. -/
theorem BinaryFunction.ofName?_eq_some_iff {name : String} {f : BinaryFunction} :
    ofName? name = some f ↔ name = f.name := by
  constructor
  · intro found
    have same := List.find?_some found
    exact (eq_of_beq same).symm
  · rintro rfl
    exact ofName?_name f

theorem BinaryFunction.ofName?_eq_none_iff {name : String} :
    ofName? name = none ↔ ∀ f : BinaryFunction, name ≠ f.name :=
  lookup_eq_none_iff ofName?_eq_some_iff

theorem Operator.ofSymbol?_eq_some_iff {symbol : String} {op : Operator} :
    ofSymbol? symbol = some op ↔ symbol = op.symbol := by
  constructor
  · intro found
    have same := List.find?_some found
    exact (eq_of_beq same).symm
  · rintro rfl
    exact ofSymbol?_symbol op

theorem Operator.ofSymbol?_eq_none_iff {symbol : String} :
    ofSymbol? symbol = none ↔ ∀ op : Operator, symbol ≠ op.symbol :=
  lookup_eq_none_iff ofSymbol?_eq_some_iff

namespace Line

open Text

/-- **Number**: a literal that stands for the finite double `x`. -/
def IsNumber (text : String) (x : Double) : Prop := Double.parseFinite? text.toList = some x

/-- **Function word**: in lower case it is the name of a function. -/
def IsFunction (word : Word) : Prop :=
  (∃ f : UnaryFunction, nameOf word = f.name) ∨ ∃ f : BinaryFunction, nameOf word = f.name

/-- The names of functions are those that select a function form. -/
theorem mem_functionNames_iff {name : String} :
    name ∈ functionNames ↔
      (∃ f : UnaryFunction, name = f.name) ∨ ∃ f : BinaryFunction, name = f.name := by
  have allUnary : ∀ f : UnaryFunction, f ∈ UnaryFunction.all := fun f => by cases f <;> decide
  have allBinary : ∀ f : BinaryFunction, f ∈ BinaryFunction.all := fun f => by cases f; decide
  simp only [functionNames, List.mem_append, List.mem_map]
  constructor
  · rintro (⟨f, -, rfl⟩ | ⟨f, -, rfl⟩)
    · exact .inl ⟨f, rfl⟩
    · exact .inr ⟨f, rfl⟩
  · rintro (⟨f, rfl⟩ | ⟨f, rfl⟩)
    · exact .inl ⟨f, allUnary f, rfl⟩
    · exact .inr ⟨f, allBinary f, rfl⟩

theorem contains_functionNames_iff {word : Word} :
    functionNames.contains (nameOf word) = true ↔ IsFunction word := by
  rw [List.contains_iff_mem]
  exact mem_functionNames_iff

/-! ## §2. Operands -/

/-- **Operands** of a row of words: the second word of two; of three words the last two behind a
function, and otherwise the outer two. -/
inductive Operands : List Word → List Word → Prop
  | unary {name arg} : Operands [name, arg] [arg]
  | binary {name first second} :
      IsFunction name → Operands [name, first, second] [first, second]
  | operation {left symbol right} :
      ¬ IsFunction left → Operands [left, symbol, right] [left, right]

/-- **The leftmost bad operand**: it is not a number, and those before it are. -/
def LeftmostBad (operands : List Word) (bad : Word) : Prop :=
  ∃ before after, operands = before ++ bad :: after ∧
    (∀ word ∈ before, ∃ x, IsNumber word.text x) ∧ ∀ x, ¬ IsNumber bad.text x

theorem number_or_not (text : String) : (∃ x, IsNumber text x) ∨ ∀ x, ¬ IsNumber text x := by
  by_cases h : ∃ x, IsNumber text x
  · exact .inl h
  · exact .inr fun x number => h ⟨x, number⟩

theorem operand_of_number {line : String} {word : Word} {x : Double} (h : IsNumber word.text x) :
    operand line word = .ok x := by
  unfold IsNumber at h
  unfold operand
  rw [h]

theorem operand_of_not_number {line : String} {word : Word} (h : ∀ x, ¬ IsNumber word.text x) :
    operand line word = .error (failureAt .invalidNumber line word word.text) := by
  unfold operand
  cases found : Double.parseFinite? word.text.toList with
  | none => rfl
  | some x => exact absurd found (h x)

theorem leftmostBad_singleton {arg bad : Word} :
    LeftmostBad [arg] bad ↔ bad = arg ∧ ∀ x, ¬ IsNumber arg.text x := by
  constructor
  · rintro ⟨before, after, parts, -, refused⟩
    cases before with
    | nil =>
      obtain ⟨rfl, -⟩ := List.cons.inj parts
      exact ⟨rfl, refused⟩
    | cons w before => simp at parts
  · rintro ⟨rfl, refused⟩
    refine ⟨[], [], rfl, ?_, refused⟩
    exact fun word member => nomatch member

/-- Of two operands the second is reported only behind a good first one. -/
theorem leftmostBad_pair {first second bad : Word} :
    LeftmostBad [first, second] bad ↔
      (bad = first ∧ ∀ x, ¬ IsNumber first.text x) ∨
        (bad = second ∧ (∃ x, IsNumber first.text x) ∧ ∀ x, ¬ IsNumber second.text x) := by
  constructor
  · rintro ⟨before, after, parts, good, refused⟩
    cases before with
    | nil =>
      obtain ⟨rfl, -⟩ := List.cons.inj parts
      exact .inl ⟨rfl, refused⟩
    | cons w before =>
      obtain ⟨rfl, rest⟩ := List.cons.inj parts
      obtain ⟨rfl, number⟩ := leftmostBad_singleton.1
        ⟨before, after, rest, fun v member => good v (List.mem_cons_of_mem _ member), refused⟩
      exact .inr ⟨rfl, good first (List.mem_cons_self ..), number⟩
  · rintro (⟨rfl, refused⟩ | ⟨rfl, number, refused⟩)
    · refine ⟨[], [second], rfl, ?_, refused⟩
      exact fun word member => nomatch member
    · refine ⟨[first], [], rfl, fun w member => ?_, refused⟩
      obtain rfl := List.mem_singleton.1 member
      exact number

/-! ## §3. Rows of words -/

/-- **Sentence**: what a row of words of a line that does not exclaim means.  A bad operand is
reported ahead of an unknown name or symbol. -/
inductive Sentence (line : String) : List Word → Except Failure Expr → Prop
  | unary {name arg f x} :
      nameOf name = UnaryFunction.name f → IsNumber arg.text x →
      Sentence line [name, arg] (.ok (.unary f x))
  | binary {name first second f x y} :
      nameOf name = BinaryFunction.name f → IsNumber first.text x → IsNumber second.text y →
      Sentence line [name, first, second] (.ok (.binary f x y))
  | operation {left symbol right op x y} :
      ¬ IsFunction left → IsNumber left.text x → symbol.text = Operator.symbol op →
      IsNumber right.text y →
      Sentence line [left, symbol, right] (.ok (.operation op x y))
  | badOperand {words operands bad} :
      Operands words operands → LeftmostBad operands bad →
      Sentence line words (.error (failureAt .invalidNumber line bad bad.text))
  | unknownUnary {name arg x} :
      IsNumber arg.text x → (∀ f, nameOf name ≠ UnaryFunction.name f) →
      Sentence line [name, arg] (.error (failureAt .unknownFunction line name (nameOf name)))
  | unknownBinary {name first second x y} :
      IsFunction name → IsNumber first.text x → IsNumber second.text y →
      (∀ f, nameOf name ≠ BinaryFunction.name f) →
      Sentence line [name, first, second]
        (.error (failureAt .unknownFunction line name (nameOf name)))
  | unknownOperator {left symbol right x y} :
      ¬ IsFunction left → IsNumber left.text x → IsNumber right.text y →
      (∀ op, symbol.text ≠ Operator.symbol op) →
      Sentence line [left, symbol, right]
        (.error (failureAt .unknownOperator line symbol symbol.text))
  | count {words} :
      words.length ≠ 2 → words.length ≠ 3 →
      Sentence line words (.error (.whole .invalidFormat))

section readers

variable {line : String} {name arg first second third bad : Word} {x y : Double}

theorem readUnary_of_number (h : IsNumber arg.text x) :
    readUnary line name arg = match UnaryFunction.ofName? (nameOf name) with
      | some f => .ok (.unary f x)
      | none => .error (failureAt .unknownFunction line name (nameOf name)) := by
  unfold readUnary
  rw [operand_of_number h]
  rfl

theorem readUnary_of_bad (h : ∀ x, ¬ IsNumber arg.text x) :
    readUnary line name arg = .error (failureAt .invalidNumber line arg arg.text) := by
  unfold readUnary
  rw [operand_of_not_number h]
  rfl

/-- Behind two numbers the name of a binary function is looked up. -/
theorem readBinary_of_numbers (h : IsNumber first.text x) (h' : IsNumber second.text y) :
    readBinary line name first second = match BinaryFunction.ofName? (nameOf name) with
      | some f => .ok (.binary f x y)
      | none => .error (failureAt .unknownFunction line name (nameOf name)) := by
  unfold readBinary
  rw [operand_of_number h, operand_of_number h']
  rfl

theorem readBinary_of_bad (h : LeftmostBad [first, second] bad) :
    readBinary line name first second =
      .error (failureAt .invalidNumber line bad bad.text) := by
  unfold readBinary
  rcases leftmostBad_pair.1 h with ⟨rfl, refused⟩ | ⟨rfl, ⟨x, number⟩, refused⟩
  · rw [operand_of_not_number refused]
    rfl
  · rw [operand_of_number number, operand_of_not_number refused]
    rfl

theorem readOperation_of_numbers (h : IsNumber first.text x) (h' : IsNumber third.text y) :
    readOperation line first second third = match Operator.ofSymbol? second.text with
      | some op => .ok (.operation op x y)
      | none => .error (failureAt .unknownOperator line second second.text) := by
  unfold readOperation
  rw [operand_of_number h, operand_of_number h']
  rfl

/-- The leftmost bad operand hides the other one and the symbol. -/
theorem readOperation_of_bad (h : LeftmostBad [first, third] bad) :
    readOperation line first second third =
      .error (failureAt .invalidNumber line bad bad.text) := by
  unfold readOperation
  rcases leftmostBad_pair.1 h with ⟨rfl, refused⟩ | ⟨rfl, ⟨x, number⟩, refused⟩
  · rw [operand_of_not_number refused]
    rfl
  · rw [operand_of_number number, operand_of_not_number refused]
    rfl

theorem readWords_of_function (h : IsFunction first) :
    readWords line [first, second, third] = readBinary line first second third :=
  if_pos (contains_functionNames_iff.2 h)

theorem readWords_of_not_function (h : ¬ IsFunction first) :
    readWords line [first, second, third] = readOperation line first second third :=
  if_neg fun named => h (contains_functionNames_iff.1 named)

end readers

/-- A row of two words means what the reader of the unary form says. -/
theorem sentence_readUnary (line : String) (name arg : Word) :
    Sentence line [name, arg] (readUnary line name arg) := by
  -- A bad operand hides the name, so the operand decides first.
  rcases number_or_not arg.text with ⟨x, number⟩ | refused
  · rw [readUnary_of_number number]
    cases found : UnaryFunction.ofName? (nameOf name) with
    | some f => exact .unary (UnaryFunction.ofName?_eq_some_iff.1 found) number
    | none => exact .unknownUnary number (UnaryFunction.ofName?_eq_none_iff.1 found)
  · rw [readUnary_of_bad refused]
    exact .badOperand .unary (leftmostBad_singleton.2 ⟨rfl, refused⟩)

/-- A row of three words behind a function name means what the reader of that form says. -/
theorem sentence_readBinary (line : String) {name : Word} (first second : Word)
    (function : IsFunction name) :
    Sentence line [name, first, second] (readBinary line name first second) := by
  rcases number_or_not first.text with ⟨x, number⟩ | refused
  · rcases number_or_not second.text with ⟨y, number'⟩ | refused
    · rw [readBinary_of_numbers number number']
      cases found : BinaryFunction.ofName? (nameOf name) with
      | some f => exact .binary (BinaryFunction.ofName?_eq_some_iff.1 found) number number'
      | none =>
        exact .unknownBinary function number number'
          (BinaryFunction.ofName?_eq_none_iff.1 found)
    · have bad : LeftmostBad [first, second] second :=
        leftmostBad_pair.2 (.inr ⟨rfl, ⟨x, number⟩, refused⟩)
      rw [readBinary_of_bad bad]
      exact .badOperand (.binary function) bad
  · have bad : LeftmostBad [first, second] first := leftmostBad_pair.2 (.inl ⟨rfl, refused⟩)
    rw [readBinary_of_bad bad]
    exact .badOperand (.binary function) bad

theorem sentence_readOperation (line : String) {left : Word} (symbol right : Word)
    (function : ¬ IsFunction left) :
    Sentence line [left, symbol, right] (readOperation line left symbol right) := by
  rcases number_or_not left.text with ⟨x, number⟩ | refused
  · rcases number_or_not right.text with ⟨y, number'⟩ | refused
    · rw [readOperation_of_numbers number number']
      cases found : Operator.ofSymbol? symbol.text with
      | some op =>
        exact .operation function number (Operator.ofSymbol?_eq_some_iff.1 found) number'
      | none =>
        exact .unknownOperator function number number' (Operator.ofSymbol?_eq_none_iff.1 found)
    · have bad : LeftmostBad [left, right] right :=
        leftmostBad_pair.2 (.inr ⟨rfl, ⟨x, number⟩, refused⟩)
      rw [readOperation_of_bad bad]
      exact .badOperand (.operation function) bad
  · have bad : LeftmostBad [left, right] left := leftmostBad_pair.2 (.inl ⟨rfl, refused⟩)
    rw [readOperation_of_bad bad]
    exact .badOperand (.operation function) bad

theorem sentence_readWords (line : String) (words : List Word) :
    Sentence line words (readWords line words) := by
  match words with
  | [] => exact .count (by simp) (by simp)
  | [_] => exact .count (by simp) (by simp)
  | [name, arg] => exact sentence_readUnary line name arg
  | [first, second, third] =>
    by_cases function : IsFunction first
    · rw [readWords_of_function function]
      exact sentence_readBinary line second third function
    · rw [readWords_of_not_function function]
      exact sentence_readOperation line second third function
  | _ :: _ :: _ :: _ :: _ => exact .count (by simp) (by simp)

theorem readWords_of_sentence {line : String} {words : List Word} {r : Except Failure Expr}
    (h : Sentence line words r) : readWords line words = r := by
  -- One rule of the grammar, one way through the reader.
  cases h with
  | unary name number =>
    show readUnary line _ _ = _
    rw [readUnary_of_number number, UnaryFunction.ofName?_eq_some_iff.2 name]
  | @binary _ _ _ f _ _ name number number' =>
    rw [readWords_of_function (.inr ⟨f, name⟩), readBinary_of_numbers number number',
      BinaryFunction.ofName?_eq_some_iff.2 name]
  | operation function number symbol number' =>
    rw [readWords_of_not_function function, readOperation_of_numbers number number',
      Operator.ofSymbol?_eq_some_iff.2 symbol]
  | badOperand operands bad =>
    cases operands with
    | unary =>
      obtain ⟨rfl, refused⟩ := leftmostBad_singleton.1 bad
      exact readUnary_of_bad refused
    | binary function => rw [readWords_of_function function, readBinary_of_bad bad]
    | operation function => rw [readWords_of_not_function function, readOperation_of_bad bad]
  | unknownUnary number unknown =>
    show readUnary line _ _ = _
    rw [readUnary_of_number number, UnaryFunction.ofName?_eq_none_iff.2 unknown]
  | unknownBinary function number number' unknown =>
    rw [readWords_of_function function, readBinary_of_numbers number number',
      BinaryFunction.ofName?_eq_none_iff.2 unknown]
  | unknownOperator function number number' unknown =>
    rw [readWords_of_not_function function, readOperation_of_numbers number number',
      Operator.ofSymbol?_eq_none_iff.2 unknown]
  | count notTwo notThree =>
    match words with
    | [] => rfl
    | [_] => rfl
    | [_, _] => exact absurd rfl notTwo
    | [_, _, _] => exact absurd rfl notThree
    | _ :: _ :: _ :: _ :: _ => rfl

/-! ## §4. Lines -/

/-- **Grammar**: what a line means, or an absent one. -/
inductive Grammar : Option String → Except Failure Expr → Prop
  | absent : Grammar none (.error (.whole .emptyExpression))
  | blank {line : String} :
      Blanks line.toList → Grammar (some line) (.error (.whole .emptyExpression))
  | factorial {line : String} {body x} :
      Exclaims line.toList body → IsNumber (String.ofList body) x →
      Grammar (some line) (.ok (.factorial x))
  | badFactorial {line : String} {body} :
      Exclaims line.toList body → (∀ x, ¬ IsNumber (String.ofList body) x) →
      Grammar (some line)
        (.error (failureAt .invalidNumber line ⟨String.ofList body, indent line⟩
          (String.ofList body)))
  | sentence {line : String} {words r} :
      ¬ Blanks line.toList → (∀ body, ¬ Exclaims line.toList body) →
      Laid 0 line.toList words → Sentence line words r → Grammar (some line) r

theorem read_of_blanks {line : String} (h : Blanks line.toList) :
    read line = .error (.whole .emptyExpression) := by
  unfold read
  rw [trim_eq_nil_iff.2 h]
  rfl

/-- A line that exclaims is a factorial of its body, which starts at the indent. -/
theorem read_of_exclaims {line : String} {body : List Char} (h : Exclaims line.toList body) :
    read line = (operand line ⟨String.ofList body, indent line⟩).map .factorial := by
  obtain ⟨kept, found, bare, trimmed⟩ := exclaims_iff.1 h
  have nonempty : (trim line.toList).isEmpty = false := by
    rw [beforeBang?_eq_some_iff.1 found]
    cases kept <;> rfl
  have flush : leadingBlanks kept = 0 := by
    have counted := leadingBlanks_add_length kept
    rw [trimStart_eq_self bare] at counted
    omega
  have form : readFactorial line kept =
      (operand line ⟨String.ofList body, indent line⟩).map .factorial := by
    unfold readFactorial
    rw [trimmed, flush, Int.natCast_zero, Int.add_zero]
    dsimp only
    cases operand line ⟨String.ofList body, indent line⟩ <;> rfl
  unfold read
  simp only [nonempty, found, form]
  rfl

theorem read_of_exclaims_number {line : String} {body : List Char} {x : Double}
    (h : Exclaims line.toList body) (number : IsNumber (String.ofList body) x) :
    read line = .ok (.factorial x) := by
  rw [read_of_exclaims h, @operand_of_number line ⟨String.ofList body, indent line⟩ x number]
  rfl

/-- A line that exclaims behind anything else gets a report of all that stands before the
mark. -/
theorem read_of_exclaims_bad {line : String} {body : List Char} (h : Exclaims line.toList body)
    (refused : ∀ x, ¬ IsNumber (String.ofList body) x) :
    read line = .error (failureAt .invalidNumber line ⟨String.ofList body, indent line⟩
      (String.ofList body)) := by
  rw [read_of_exclaims h,
    @operand_of_not_number line ⟨String.ofList body, indent line⟩ refused]
  rfl

theorem read_of_not_exclaims {line : String} (nonblank : ¬ Blanks line.toList)
    (h : ∀ body, ¬ Exclaims line.toList body) : read line = readWords line (words line) := by
  have nonempty : (trim line.toList).isEmpty = false := by
    rw [List.isEmpty_eq_false_iff]
    exact fun empty => nonblank (trim_eq_nil_iff.1 empty)
  unfold read
  simp only [nonempty, beforeBang?_trim_eq_none h]
  rfl

theorem grammar_read? (line : Option String) : Grammar line (read? line) := by
  match line with
  | none => exact .absent
  | some line =>
    show Grammar (some line) (read line)
    -- The three kinds of lines, in the order in which reading tells them apart.
    by_cases blanks : Blanks line.toList
    · rw [read_of_blanks blanks]
      exact .blank blanks
    by_cases exclaims : ∃ body, Exclaims line.toList body
    · obtain ⟨body, exclaims⟩ := exclaims
      rcases number_or_not (String.ofList body) with ⟨x, number⟩ | refused
      · rw [read_of_exclaims_number exclaims number]
        exact .factorial exclaims number
      · rw [read_of_exclaims_bad exclaims refused]
        exact .badFactorial exclaims refused
    · have none : ∀ body, ¬ Exclaims line.toList body := fun body h => exclaims ⟨body, h⟩
      rw [read_of_not_exclaims blanks none]
      exact .sentence blanks none (laid_words line) (sentence_readWords line _)

theorem read?_of_grammar {line : Option String} {r : Except Failure Expr} (h : Grammar line r) :
    read? line = r := by
  cases h with
  | absent => rfl
  | blank blanks => exact read_of_blanks blanks
  | factorial exclaims number => exact read_of_exclaims_number exclaims number
  | badFactorial exclaims refused => exact read_of_exclaims_bad exclaims refused
  | sentence nonblank exclaims laid sentence =>
    show read _ = _
    rw [read_of_not_exclaims nonblank exclaims]
    have split : words _ = _ := wordsFrom_of_laid laid
    rw [split, readWords_of_sentence sentence]

/-- **Reading is the grammar**: every line, and an absent one, has exactly one meaning, and
reading finds it. -/
theorem read?_eq_iff_grammar (line : Option String) (r : Except Failure Expr) :
    read? line = r ↔ Grammar line r :=
  ⟨fun h => h ▸ grammar_read? line, read?_of_grammar⟩

end Line

end LineCalc
