/-
RoundTrip — the text of an expression is a line that holds it.

An expression is written as one of four rows of words.  Each row is read as
the form that it was written from, and every operand as the same double, but
for a negative zero, whose sign is not written.

## Main definitions

  * `Line.spaced` — texts with a single space before each.
  * `Expr.lineWith` — the line of an expression, with given texts for its
    operands.
  * `Expr.mapOperands` — an expression with other operands.

## Main statements

  * `Line.read_of_pieces` — a row of words means what its words say.
  * `Expr.read_lineWith` — with literals for its operands an expression is read.
  * `Expr.read_text` — an expression is read back from its text.
-/

import LineCalc.Evaluation
import LineCalc.Proofs.Expr.Operand

namespace LineCalc

/-! ## §1. Rows of words -/

namespace Line

open Text

theorem isPiece_of_innerText {cs : List Char} (h : InnerText cs) (nonempty : cs ≠ []) :
    IsPiece cs :=
  ⟨nonempty, fun c member => (h c member).1⟩

/-- Whether a text is a piece can be tested character by character. -/
theorem isPiece_of_all {cs : List Char} (nonempty : cs ≠ [])
    (h : cs.all (fun c => !isBlank c) = true) : IsPiece cs := by
  refine ⟨nonempty, fun c member => ?_⟩
  have bare := List.all_eq_true.1 h c member
  simpa using bare

/-- **Spacing**: texts with a single space before each. -/
def spaced (texts : List String) : List Char := texts.flatMap fun text => ' ' :: text.toList

theorem exists_laid_spaced (column : Nat) {texts : List String}
    (h : ∀ text ∈ texts, IsPiece text.toList) :
    ∃ words, Laid column (spaced texts) words ∧ words.map Word.text = texts := by
  have space : Blanks [' '] := fun c member => by
    obtain rfl := List.mem_singleton.1 member
    rfl
  induction texts generalizing column with
  | nil => exact ⟨[], .blanks blanks_nil, rfl⟩
  | cons text texts ih =>
    obtain ⟨words, laid, same⟩ := ih (column + 1 + text.toList.length)
      fun t member => h t (List.mem_cons_of_mem _ member)
    have starts : StartsBlank (spaced texts) := by
      cases texts with
      | nil => exact fun c first => nomatch first
      | cons next more =>
        rintro c ⟨⟩
        rfl
    have row := Laid.word space (h text (List.mem_cons_self ..)) starts laid
    refine ⟨_, row, ?_⟩
    rw [List.map_cons, same, String.ofList_toList]

theorem not_blanks_of_innerText {front piece : List Char} (inner : InnerText piece)
    (nonempty : piece ≠ []) : ¬ Blanks (front ++ piece) := by
  intro blanks
  obtain ⟨c, rest, rfl⟩ := List.exists_cons_of_ne_nil nonempty
  have bare : isBlank c = false := (inner c (List.mem_cons_self ..)).1
  have blank : isBlank c = true := blanks c (by simp)
  rw [bare] at blank
  exact nomatch blank

/-- A text that ends in a piece without an exclamation mark does not exclaim. -/
theorem not_exclaims_of_innerText {front piece : List Char} (inner : InnerText piece)
    (nonempty : piece ≠ []) (body : List Char) : ¬ Exclaims (front ++ piece) body := by
  rintro ⟨before, after, parts, blanks, -⟩
  obtain ⟨c, last⟩ : ∃ c, piece.getLast? = some c :=
    ⟨_, List.getLast?_eq_some_getLast nonempty⟩
  have bare : Inner c := inner c (List.mem_of_getLast? last)
  have ends : (before ++ '!' :: after).getLast? = some c := by
    rw [← parts, List.getLast?_append, last]
    rfl
  -- Behind the mark there are blanks only, and the last character is neither.
  cases left : after.getLast? with
  | none =>
    obtain rfl := List.getLast?_eq_none_iff.1 left
    have mark : '!' = c := by simpa using ends
    exact bare.2 mark.symm
  | some d =>
    have same : d = c := by
      simpa [List.getLast?_append, List.getLast?_cons, left] using ends
    have blank : isBlank d = true := blanks d (List.mem_of_getLast? left)
    rw [same, bare.1] at blank
    exact nomatch blank

/-- **A row of pieces**, the last one without an exclamation mark, means what its words say. -/
theorem read_of_pieces {line : String} {r : Except Failure Expr} {first last : String}
    {middle : List String}
    (parts : line.toList = first.toList ++ spaced (middle ++ [last]))
    (isPiece : ∀ text ∈ first :: middle, IsPiece text.toList)
    (inner : InnerText last.toList) (nonempty : last.toList ≠ [])
    (meaning : ∀ words : List Word, words.map Word.text = first :: (middle ++ [last]) →
      Sentence line words r) :
    read line = r := by
  -- The words of the line are the pieces.
  have pieces : ∀ text ∈ middle ++ [last], IsPiece text.toList := by
    intro text member
    rcases List.mem_append.1 member with inside | outside
    · exact isPiece text (List.mem_cons_of_mem _ inside)
    · obtain rfl := List.mem_singleton.1 outside
      exact isPiece_of_innerText inner nonempty
  obtain ⟨words, laid, texts⟩ :=
    exists_laid_spaced (0 + ([] : List Char).length + first.toList.length) pieces
  have starts : StartsBlank (spaced (middle ++ [last])) := by
    cases middle <;> (rintro c ⟨⟩; rfl)
  have row := Laid.word blanks_nil (isPiece first (List.mem_cons_self ..)) starts laid
  rw [List.nil_append, ← parts, String.ofList_toList] at row
  -- The line is neither blank nor does it exclaim: this is settled by its last piece.
  have ending : line.toList = (first.toList ++ spaced middle ++ [' ']) ++ last.toList := by
    rw [parts]
    simp [spaced]
  have exclaims : ∀ body, ¬ Exclaims line.toList body := by
    rw [ending]
    exact not_exclaims_of_innerText inner nonempty
  have nonblank : ¬ Blanks line.toList := by
    rw [ending]
    exact not_blanks_of_innerText inner nonempty
  show read? (some line) = r
  refine read?_of_grammar (.sentence nonblank exclaims row (meaning _ ?_))
  rw [List.map_cons, texts]

theorem exists_two_words {words : List Word} {a b : String}
    (h : words.map Word.text = [a, b]) :
    ∃ first second, words = [first, second] ∧ first.text = a ∧ second.text = b := by
  obtain ⟨first, rest, rfl, firstText, h⟩ := List.map_eq_cons_iff.1 h
  obtain ⟨second, rest, rfl, secondText, h⟩ := List.map_eq_cons_iff.1 h
  obtain rfl := List.map_eq_nil_iff.1 h
  exact ⟨first, second, rfl, firstText, secondText⟩

theorem exists_three_words {words : List Word} {a b c : String}
    (h : words.map Word.text = [a, b, c]) :
    ∃ first second third, words = [first, second, third] ∧
      first.text = a ∧ second.text = b ∧ third.text = c := by
  obtain ⟨first, rest, rfl, firstText, h⟩ := List.map_eq_cons_iff.1 h
  obtain ⟨second, third, rfl, secondText, thirdText⟩ := exists_two_words h
  exact ⟨first, second, third, rfl, firstText, secondText, thirdText⟩

/-- The name of a function is a piece, and the function is found by it. -/
theorem functionName_spec {name : String}
    (h : (∃ f : UnaryFunction, name = f.name) ∨ ∃ f : BinaryFunction, name = f.name) :
    IsPiece name.toList ∧ ∀ word : Word, word.text = name → nameOf word = name := by
  have spec : IsPiece name.toList ∧ String.ofList (lower name.toList) = name := by
    rcases h with ⟨f, rfl⟩ | ⟨f, rfl⟩ <;> cases f <;>
      exact ⟨isPiece_of_all (by decide) (by decide), by decide +kernel⟩
  refine ⟨spec.1, fun word text => ?_⟩
  unfold nameOf
  rw [text, spec.2]

end Line

/-! ## §2. Expressions -/

namespace Expr

open Text Line

theorem isPiece_symbol (op : Operator) : IsPiece op.symbol.toList := by
  cases op <;> exact isPiece_of_all (by decide) (by decide)

/-- **The line of an expression** with the given texts for its operands; nothing if there are more
or fewer texts than operands. -/
def lineWith : Expr → List String → String
  | factorial _, [a] => a ++ "!"
  | unary f _, [a] => f.name ++ " " ++ a
  | binary f _ _, [a, b] => f.name ++ " " ++ a ++ " " ++ b
  | operation op _ _, [a, b] => a ++ " " ++ op.symbol ++ " " ++ b
  | _, _ => ""

section forms

variable {a b : String} {x y : Double}

theorem isPiece_of_isNumber (number : IsNumber a x) : IsPiece a.toList := by
  obtain ⟨inner, nonempty⟩ := innerText_of_isNumber number
  exact isPiece_of_innerText inner nonempty

theorem read_factorial (number : IsNumber a x) : read (a ++ "!") = .ok (factorial x) := by
  obtain ⟨inner, -⟩ := innerText_of_isNumber number
  have parts : (a ++ "!").toList = a.toList ++ '!' :: [] := by
    rw [String.toList_append]
    rfl
  have trims : TrimsTo a.toList a.toList := by
    refine ⟨[], [], by simp, blanks_nil, blanks_nil, ?_, ?_⟩
    · exact fun c first => (inner c (List.mem_of_head? first)).1
    · exact fun c last => (inner c (List.mem_of_getLast? last)).1
  have number' : IsNumber (String.ofList a.toList) x := by
    rw [String.ofList_toList]
    exact number
  exact read_of_exclaims_number ⟨_, _, parts, blanks_nil, trims⟩ number'

theorem read_unary (f : UnaryFunction) (number : IsNumber a x) :
    read (f.name ++ " " ++ a) = .ok (unary f x) := by
  obtain ⟨inner, nonempty⟩ := innerText_of_isNumber number
  obtain ⟨isPiece, nameOf_eq⟩ := functionName_spec (.inl ⟨f, rfl⟩)
  have parts : (f.name ++ " " ++ a).toList = f.name.toList ++ spaced ([] ++ [a]) := by
    simp [spaced]
  refine read_of_pieces parts (by simpa using isPiece) inner nonempty ?_
  intro words texts
  obtain ⟨name, arg, rfl, nameText, argText⟩ := exists_two_words texts
  exact .unary (nameOf_eq name nameText) (argText ▸ number)

theorem read_binary (f : BinaryFunction) (number : IsNumber a x) (number' : IsNumber b y) :
    read (f.name ++ " " ++ a ++ " " ++ b) = .ok (binary f x y) := by
  obtain ⟨inner, nonempty⟩ := innerText_of_isNumber number'
  obtain ⟨isPiece, nameOf_eq⟩ := functionName_spec (.inr ⟨f, rfl⟩)
  have parts : (f.name ++ " " ++ a ++ " " ++ b).toList =
      f.name.toList ++ spaced ([a] ++ [b]) := by
    simp [spaced]
  have pieces : ∀ text ∈ [f.name, a], IsPiece text.toList :=
    List.forall_mem_cons.2 ⟨isPiece, List.forall_mem_singleton.2 (isPiece_of_isNumber number)⟩
  refine read_of_pieces parts pieces inner nonempty ?_
  intro words texts
  obtain ⟨name, first, second, rfl, nameText, firstText, secondText⟩ := exists_three_words texts
  exact .binary (nameOf_eq name nameText) (firstText ▸ number) (secondText ▸ number')

/-- Two numbers around a symbol are an operation.  The first word is a number, and no number names a
function. -/
theorem read_operation (op : Operator) (number : IsNumber a x) (number' : IsNumber b y) :
    read (a ++ " " ++ op.symbol ++ " " ++ b) = .ok (operation op x y) := by
  obtain ⟨inner, nonempty⟩ := innerText_of_isNumber number'
  have parts : (a ++ " " ++ op.symbol ++ " " ++ b).toList =
      a.toList ++ spaced ([op.symbol] ++ [b]) := by
    simp [spaced]
  have pieces : ∀ text ∈ [a, op.symbol], IsPiece text.toList :=
    List.forall_mem_cons.2
      ⟨isPiece_of_isNumber number, List.forall_mem_singleton.2 (isPiece_symbol op)⟩
  refine read_of_pieces parts pieces inner nonempty ?_
  intro words texts
  obtain ⟨left, symbol, right, rfl, leftText, symbolText, rightText⟩ := exists_three_words texts
  have numberX : IsNumber left.text x := leftText ▸ number
  exact .operation (not_isFunction_of_isNumber numberX) numberX symbolText (rightText ▸ number')

end forms

/-- **With literals for its operands** an expression is read. -/
theorem read_lineWith {expr : Expr} {texts : List String}
    (numbers : List.Forall₂ IsNumber texts expr.operands) :
    read (expr.lineWith texts) = .ok expr := by
  cases expr with
  | factorial x =>
    obtain ⟨a, rest, number, none, rfl⟩ := List.forall₂_cons_right_iff.1 numbers
    obtain rfl := List.forall₂_nil_right_iff.1 none
    exact read_factorial number
  | unary f x =>
    obtain ⟨a, rest, number, none, rfl⟩ := List.forall₂_cons_right_iff.1 numbers
    obtain rfl := List.forall₂_nil_right_iff.1 none
    exact read_unary f number
  | binary f x y =>
    obtain ⟨a, rest, number, more, rfl⟩ := List.forall₂_cons_right_iff.1 numbers
    obtain ⟨b, rest, number', none, rfl⟩ := List.forall₂_cons_right_iff.1 more
    obtain rfl := List.forall₂_nil_right_iff.1 none
    exact read_binary f number number'
  | operation op x y =>
    obtain ⟨a, rest, number, more, rfl⟩ := List.forall₂_cons_right_iff.1 numbers
    obtain ⟨b, rest, number', none, rfl⟩ := List.forall₂_cons_right_iff.1 more
    obtain rfl := List.forall₂_nil_right_iff.1 none
    exact read_operation op number number'

/-- **The expression with other operands**. -/
def mapOperands (change : Double → Double) : Expr → Expr
  | factorial x => factorial (change x)
  | unary f x => unary f (change x)
  | binary f degree value => binary f (change degree) (change value)
  | operation op left right => operation op (change left) (change right)

theorem operands_mapOperands (change : Double → Double) (expr : Expr) :
    (expr.mapOperands change).operands = expr.operands.map change := by
  cases expr with
  | factorial => rfl
  | unary => rfl
  | binary => rfl
  | operation => rfl

/-- With the usual texts of the operands the line is the text of the expression, whatever becomes of
the operands. -/
theorem lineWith_mapOperands (change : Double → Double) (expr : Expr) :
    (expr.mapOperands change).lineWith (expr.operands.map operandText) = expr.text := by
  cases expr with
  | factorial => rfl
  | unary => rfl
  | binary => rfl
  | operation => rfl

/-- The text of an expression is read as the expression without signs of zeros. -/
theorem read_text_eq {expr : Expr} (finite : ∀ x ∈ expr.operands, x.isFinite = true) :
    read expr.text = .ok (expr.mapOperands Double.plain) := by
  have numbers : List.Forall₂ IsNumber (expr.operands.map operandText)
      (expr.mapOperands Double.plain).operands := by
    rw [operands_mapOperands, List.forall₂_map_left_iff, List.forall₂_map_right_iff]
    exact List.forall₂_same.2 fun x member => isNumber_operandText (finite x member)
  have back := read_lineWith numbers
  rwa [lineWith_mapOperands] at back

theorem text_mapOperands_plain (expr : Expr) :
    (expr.mapOperands Double.plain).text = expr.text := by
  cases expr <;> simp only [mapOperands, text, operandText_plain]

theorem mapOperands_eq_self {expr : Expr} {change : Double → Double}
    (h : ∀ x ∈ expr.operands, change x = x) : expr.mapOperands change = expr := by
  cases expr <;> simp_all [operands, mapOperands]

/-- **An expression is read back from its text**: the same form of the same operands, but for the
signs of zeros.  So the text is a fixed point, and without a negative zero the expression has the
value of its text. -/
theorem read_text {expr : Expr} (finite : ∀ x ∈ expr.operands, x.isFinite = true) :
    read expr.text = .ok (expr.mapOperands Double.plain) ∧
      (expr.mapOperands Double.plain).text = expr.text ∧
      ((∀ x ∈ expr.operands, x ≠ Double.zero true) →
        expr.mapOperands Double.plain = expr ∧ evaluate (some expr.text) = expr.value) := by
  have back := read_text_eq finite
  refine ⟨back, text_mapOperands_plain expr, fun unsigned => ?_⟩
  have same := mapOperands_eq_self fun x member => Double.plain_eq_self (unsigned x member)
  refine ⟨same, ?_⟩
  rw [evaluate_eq_value back, same]

/-- The sum of one and a negative zero is read back as that of one and a zero, which has the value of
its text. -/
theorem read_text_negative_zero :
    (∀ x ∈ (operation .add Double.one (Double.zero true)).operands, x.isFinite = true) ∧
      (operation .add Double.one (Double.zero true)).text = "1 + 0" ∧
      read "1 + 0" = .ok (operation .add Double.one (Double.zero false)) ∧
      (∀ x ∈ (operation .add Double.one (Double.zero false)).operands, x ≠ Double.zero true) ∧
      evaluate (some "1 + 0") = (operation .add Double.one (Double.zero false)).value := by
  have finite : ∀ neg, ∀ x ∈ (operation .add Double.one (Double.zero neg)).operands,
      x.isFinite = true := by decide +kernel
  have written : ∀ neg, (operation .add Double.one (Double.zero neg)).text = "1 + 0" := by
    decide +kernel
  have plain : (operation .add Double.one (Double.zero true)).mapOperands Double.plain =
      operation .add Double.one (Double.zero false) := by decide +kernel
  have unsigned : ∀ x ∈ (operation .add Double.one (Double.zero false)).operands,
      x ≠ Double.zero true := by decide +kernel
  obtain ⟨back, -, -⟩ := read_text (finite true)
  obtain ⟨-, -, same⟩ := read_text (finite false)
  rw [written, plain] at back
  rw [written] at same
  exact ⟨finite true, written true, back, unsigned, (same unsigned).2⟩

end Expr

end LineCalc
