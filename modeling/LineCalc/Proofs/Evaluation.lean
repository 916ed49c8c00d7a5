/-
Evaluation — the only ways in which a line has no value.

A line has a value or one of the declared failures.  Operands are finite as
they are read, so no operation is asked for an angle or a remainder of an
infinity, and every other trap is checked for or rescued.  Kinds divide
into those found by reading and those found by computing, and exactly the
kinds that concern a piece of the line have a token and a place, which lies
in the line as it was typed.

## Main definitions

  * `Failure.Kind.isReading`, `Failure.Kind.isPlaced` — the two divisions
    of the kinds.
  * `guardedEvaluate` — evaluation by operations that may trap.
  * `Placed` — a failure with a token and a place, or with neither.
  * `Declared` — the outcome of a line is a declared one.

## Main statements

  * `Expr.value_error_cases` — why an expression has no value.
  * `evaluate_declared` — the outcome of every line is a declared one.
-/

import LineCalc.Evaluation
import LineCalc.Proofs.Expr.Guarded
import LineCalc.Proofs.Line.Location

namespace LineCalc

/-! ## §1. Kinds -/

namespace Failure.Kind

/-- **Reading kinds**: those of lines that hold no expression. -/
def isReading : Kind → Bool
  | emptyExpression | invalidFormat | invalidNumber | unknownFunction | unknownOperator => true
  | _ => false

/-- **Placed kinds**: those that concern a piece of the line. -/
def isPlaced : Kind → Bool
  | invalidNumber | unknownFunction | unknownOperator => true
  | _ => false

end Failure.Kind

/-! ## §2. Faults of expressions -/

namespace Expr

/-- **Computing**: a fault of a kind that is found by computing. -/
def Computing (fault : Fault) : Prop :=
  ∃ kind : Failure.Kind, kind.isReading = false ∧ fault = .ofKind kind

theorem computing_of_factorialValue {x : Double} {fault : Fault}
    (h : factorialValue x = .error fault) : Computing fault := by
  unfold factorialValue at h
  split at h
  · injection h with same
    exact ⟨_, rfl, same.symm⟩
  · split at h
    · injection h with same
      exact ⟨_, rfl, same.symm⟩
    · split at h
      · injection h with same
        exact ⟨_, rfl, same.symm⟩
      · exact nomatch h

theorem computing_of_reciprocalValue {x : Double} {fault : Fault}
    (h : reciprocalValue x = .error fault) : Computing fault := by
  unfold reciprocalValue at h
  split at h
  · injection h with same
    exact ⟨_, rfl, same.symm⟩
  · exact nomatch h

theorem inDomain_error {x : Option Double} {fault : Fault} (h : inDomain x = .error fault) :
    x = none ∧ fault = .domain := by
  cases x with
  | none =>
    injection h with same
    exact ⟨rfl, same.symm⟩
  | some y => exact nomatch h

/-- A unary function fails by its operand, or has none for the angle of an infinity. -/
theorem unaryValue_error {f : UnaryFunction} {x : Double} {fault : Fault}
    (h : unaryValue f x = .error fault) :
    (fault = .domain ∧ x.isInfinite = true) ∨ Computing fault := by
  cases f with
  | sin =>
    obtain ⟨none, domain⟩ := inDomain_error h
    exact .inl ⟨domain, Double.sin?_eq_none.1 none⟩
  | cos =>
    obtain ⟨none, domain⟩ := inDomain_error h
    exact .inl ⟨domain, Double.cos?_eq_none.1 none⟩
  | tan =>
    obtain ⟨none, domain⟩ := inDomain_error h
    exact .inl ⟨domain, Double.tan?_eq_none.1 none⟩
  -- The secant is the inverse of a cosine: it fails where there is no cosine, or as an inverse
  -- does.
  | sec =>
    unfold unaryValue at h
    dsimp only at h
    cases cosine : x.cos? with
    | none =>
      rw [cosine] at h
      injection h with same
      exact .inl ⟨same.symm, Double.cos?_eq_none.1 cosine⟩
    | some y =>
      rw [cosine] at h
      exact .inr (computing_of_reciprocalValue h)
  | inv => exact .inr (computing_of_reciprocalValue h)

theorem rootValue_error {degree value : Double} {fault : Fault}
    (h : rootValue degree value = .error fault) :
    (fault = .domain ∧ degree.isInfinite = true) ∨ Computing fault := by
  unfold rootValue at h
  split at h
  · injection h with same
    exact .inr ⟨_, rfl, same.symm⟩
  · split at h
    · split at h
      · next infinite =>
        injection h with same
        exact .inl ⟨same.symm, infinite⟩
      · split at h
        · injection h with same
          exact .inr ⟨_, rfl, same.symm⟩
        · exact nomatch h
    · exact nomatch h

theorem computing_of_operationValue {op : Operator} {left right : Double} {fault : Fault}
    (h : operationValue op left right = .error fault) : Computing fault := by
  cases op with
  | div =>
    unfold operationValue at h
    dsimp only at h
    split at h
    · injection h with same
      exact ⟨_, rfl, same.symm⟩
    · exact nomatch h
  | add => exact nomatch h
  | sub => exact nomatch h
  | mul => exact nomatch h
  | pow => exact nomatch h

/-- **Why an expression has no value**: an infinite operand, or a declared failure. -/
theorem value_error_cases {expr : Expr} {fault : Fault} (h : expr.value = .error fault) :
    (fault = .domain ∧ ∃ x ∈ expr.operands, x.isInfinite = true) ∨ Computing fault := by
  cases expr with
  | factorial x => exact .inr (computing_of_factorialValue h)
  | unary f x =>
    refine (unaryValue_error h).imp_left fun ⟨domain, infinite⟩ => ⟨domain, x, ?_, infinite⟩
    exact List.mem_cons_self ..
  | binary f degree value =>
    cases f
    refine (rootValue_error h).imp_left fun ⟨domain, infinite⟩ => ⟨domain, degree, ?_, infinite⟩
    exact List.mem_cons_self ..
  | operation op left right => exact .inr (computing_of_operationValue h)

theorem computing_of_value {expr : Expr} {fault : Fault} (h : expr.value = .error fault)
    (finite : ∀ x ∈ expr.operands, x.isFinite = true) : Computing fault := by
  rcases value_error_cases h with ⟨-, x, member, infinite⟩ | computing
  · have bounded := finite x member
    cases x with
    | infinity => exact nomatch bounded
    | nan => exact nomatch infinite
    | finite => exact nomatch infinite
  · exact computing

end Expr

/-! ## §3. Reports of lines -/

/-- **Placement**: a failure of a placed kind has a token and a place in the line, where it marks
as many characters as the token has, or one for an empty token.  A failure of any other kind has
neither. -/
structure Placed (line : Option String) (failure : Failure) : Prop where
  token_iff : failure.token.isSome = failure.mark.isSome
  kind_iff : failure.mark.isSome = failure.kind.isPlaced
  inside : ∀ mark, failure.mark = some mark →
    ∃ source token, line = some source ∧ failure.token = some token ∧ mark.line = source ∧
      0 ≤ mark.column ∧ mark.column < source.length ∧
      mark.length = max 1 (token.length : Int)

theorem placed_whole (line : Option String) {kind : Failure.Kind} (h : kind.isPlaced = false) :
    Placed line (.whole kind) :=
  ⟨rfl, h.symm, fun _ none => nomatch none⟩

theorem placed_failureAt {line : String} {kind : Failure.Kind} {word : Word} {token : String}
    {column : Nat} (placed : kind.isPlaced = true) (place : word.column = column)
    (inside : column < line.toList.length) :
    Placed (some line) (Line.failureAt kind line word token) := by
  refine ⟨rfl, placed.symm, fun mark marked => ?_⟩
  obtain rfl := Option.some.inj marked
  have length : line.toList.length = line.length := String.length_toList
  refine ⟨line, token, rfl, rfl, rfl, ?_, ?_, ?_⟩
  · show 0 ≤ word.column
    omega
  · show word.column < line.length
    omega
  · exact Option.some.inj (Failure.length_mark kind line word.column token)

namespace Line

theorem Blamed.isPlaced {words : List Word} {kind : Failure.Kind} {word : Word} {token : String}
    (h : Blamed words kind word token) : kind.isPlaced = true := by
  cases h <;> rfl

theorem isReading_of_isPlaced {kind : Failure.Kind} (h : kind.isPlaced = true) :
    kind.isReading = true := by
  cases kind <;> first | rfl | exact nomatch h

/-- **The reports of reading** are of a reading kind, and placed. -/
theorem Grammar.error_spec {line : Option String} {failure : Failure}
    (h : Grammar line (.error failure)) :
    failure.kind.isReading = true ∧ Placed line failure := by
  cases h with
  | absent => exact ⟨rfl, placed_whole none rfl⟩
  | blank => exact ⟨rfl, placed_whole _ rfl⟩
  | @badFactorial line body exclaims refused =>
    -- The mark itself keeps the indent inside the line, even if nothing stands before it.
    obtain ⟨-, c, first, -⟩ := indent_spec (not_blanks_of_exclaims exclaims)
    obtain ⟨inside, -⟩ := List.getElem?_eq_some_iff.1 first
    exact ⟨rfl, placed_failureAt rfl rfl inside⟩
  | sentence nonblank exclaims laid sentence =>
    rcases sentence.error_cases with rfl | ⟨kind, word, token, blamed, rfl⟩
    · exact ⟨rfl, placed_whole _ rfl⟩
    · obtain ⟨column, place, stands⟩ := laid.standsAt blamed.mem
      rw [Nat.zero_add] at place
      exact ⟨isReading_of_isPlaced blamed.isPlaced,
        placed_failureAt blamed.isPlaced place stands.lt_length⟩

theorem Sentence.isFinite {line : String} {words : List Word} {expr : Expr}
    (h : Sentence line words (.ok expr)) : ∀ x ∈ expr.operands, x.isFinite = true := by
  intro x member
  cases h with
  | unary named number =>
    obtain rfl := List.mem_singleton.1 member
    exact Double.isFinite_of_parseFinite? number
  | binary named first second =>
    rcases List.mem_cons.1 member with rfl | member
    · exact Double.isFinite_of_parseFinite? first
    · obtain rfl := List.mem_singleton.1 member
      exact Double.isFinite_of_parseFinite? second
  | operation nameless left symbol right =>
    rcases List.mem_cons.1 member with rfl | member
    · exact Double.isFinite_of_parseFinite? left
    · obtain rfl := List.mem_singleton.1 member
      exact Double.isFinite_of_parseFinite? right

/-- **The operands of a line are finite**. -/
theorem Grammar.isFinite {line : Option String} {expr : Expr} (h : Grammar line (.ok expr)) :
    ∀ x ∈ expr.operands, x.isFinite = true := by
  cases h with
  | factorial exclaims number =>
    intro x member
    obtain rfl := List.mem_singleton.1 member
    exact Double.isFinite_of_parseFinite? number
  | sentence nonblank exclaims laid sentence => exact sentence.isFinite

end Line

/-! ## §4. Lines -/

/-- **Guarded evaluation** of a line. -/
def guardedEvaluate (line : Option String) : Except Stop Double :=
  match Line.read? line with
  | .ok expr => expr.guardedValue
  | .error failure => .error (.failure failure)

theorem guardedEvaluate_eq (line : Option String) :
    guardedEvaluate line = (evaluate line).mapError Stop.ofFault := by
  unfold guardedEvaluate evaluate
  cases Line.read? line with
  | ok expr => exact expr.guardedValue_eq
  | error failure => rfl

/-- **Declared outcome**: a line has a value or a declared failure, and no trap is left over.  Its
operands are finite, each kind of failure is found where it belongs, and the reports are placed. -/
structure Declared (line : Option String) : Prop where
  outcome : (∃ x, guardedEvaluate line = .ok x ∧ evaluate line = .ok x) ∨
    ∃ failure, guardedEvaluate line = .error (.failure failure) ∧
      evaluate line = .error (.failure failure)
  operands : ∀ expr, Line.read? line = .ok expr → ∀ x ∈ expr.operands, x.isFinite = true
  reading : ∀ failure, Line.read? line = .error failure → failure.kind.isReading = true
  computing : ∀ expr failure, Line.read? line = .ok expr →
    expr.value = .error (.failure failure) → failure.kind.isReading = false
  placed : ∀ failure, evaluate line = .error (.failure failure) → Placed line failure

/-- A failure of computing is no failure of reading, and has no place. -/
theorem Expr.Computing.spec {fault : Fault} (h : Expr.Computing fault) (line : Option String) :
    ∃ failure, fault = .failure failure ∧ failure.kind.isReading = false ∧
      Placed line failure := by
  obtain ⟨kind, computing, rfl⟩ := h
  refine ⟨.whole kind, rfl, computing, placed_whole line ?_⟩
  cases placed : kind.isPlaced with
  | false => rfl
  | true =>
    rw [Line.isReading_of_isPlaced placed] at computing
    exact nomatch computing

/-- A line without an expression has the report of reading it as its outcome. -/
theorem declared_of_read_error {line : Option String} {failure : Failure}
    (read : Line.read? line = .error failure) : Declared line := by
  have meaning := Line.grammar_read? line
  rw [read] at meaning
  obtain ⟨reading, placed⟩ := meaning.error_spec
  -- Nothing is computed, so both ways of evaluating end with the report of reading.
  have outcome : evaluate line = .error (.failure failure) := by
    unfold evaluate
    rw [read]
  have guarded : guardedEvaluate line = .error (.failure failure) := by
    rw [guardedEvaluate_eq, outcome]
    rfl
  refine ⟨.inr ⟨failure, guarded, outcome⟩, ?_, ?_, ?_, ?_⟩
  · intro expr held
    exact nomatch read.symm.trans held
  · intro failure' refused
    obtain rfl := Except.error.inj (read.symm.trans refused)
    exact reading
  · intro expr failure' held
    exact nomatch read.symm.trans held
  · intro failure' refused
    obtain rfl := Fault.failure.inj (Except.error.inj (outcome.symm.trans refused))
    exact placed

/-- A line with an expression has its value as outcome, or why there is none. -/
theorem declared_of_read_ok {line : Option String} {expr : Expr}
    (read : Line.read? line = .ok expr) : Declared line := by
  have meaning := Line.grammar_read? line
  rw [read] at meaning
  have finite := meaning.isFinite
  have outcome : evaluate line = expr.value := by
    unfold evaluate
    rw [read]
  -- No operation is trapped, so the guarded value is the value.
  have guarded : guardedEvaluate line = expr.value.mapError Stop.ofFault := by
    rw [guardedEvaluate_eq, outcome]
  have operands : ∀ held, Line.read? line = .ok held → ∀ x ∈ held.operands, x.isFinite = true := by
    intro held same
    obtain rfl := Except.ok.inj (read.symm.trans same)
    exact finite
  have reading : ∀ failure, Line.read? line = .error failure → failure.kind.isReading = true :=
    fun failure refused => nomatch read.symm.trans refused
  cases value : expr.value with
  | ok x =>
    rw [value] at outcome guarded
    refine ⟨.inl ⟨x, guarded, outcome⟩, operands, reading, ?_, ?_⟩
    · intro held failure same refused
      obtain rfl := Except.ok.inj (read.symm.trans same)
      exact nomatch value.symm.trans refused
    · intro failure refused
      exact nomatch outcome.symm.trans refused
  | error fault =>
    obtain ⟨failure, rfl, computing, placed⟩ :=
      (Expr.computing_of_value value finite).spec line
    rw [value] at outcome guarded
    refine ⟨.inr ⟨failure, guarded, outcome⟩, operands, reading, ?_, ?_⟩
    · intro held failure' same refused
      obtain rfl := Except.ok.inj (read.symm.trans same)
      obtain rfl := Fault.failure.inj (Except.error.inj (value.symm.trans refused))
      exact computing
    · intro failure' refused
      obtain rfl := Fault.failure.inj (Except.error.inj (outcome.symm.trans refused))
      exact placed

/-- **A line has a value or a failure**, and nothing else comes of it. -/
theorem evaluate_cases (line : Option String) :
    (∃ x, evaluate line = .ok x) ∨ ∃ failure, evaluate line = .error (.failure failure) := by
  cases read : Line.read? line with
  | ok expr =>
    rcases (declared_of_read_ok read).outcome with ⟨x, -, value⟩ | ⟨failure, -, refused⟩
    · exact .inl ⟨x, value⟩
    · exact .inr ⟨failure, refused⟩
  | error failure =>
    refine .inr ⟨failure, ?_⟩
    unfold evaluate
    rw [read]

theorem read_of_evaluate_placed {line : Option String} {failure : Failure} {mark : Mark}
    (refused : evaluate line = .error (.failure failure)) (placed : failure.mark = some mark) :
    Line.read? line = .error failure := by
  unfold evaluate at refused
  cases read : Line.read? line with
  | error report =>
    rw [read] at refused
    obtain rfl := Fault.failure.inj (Except.error.inj refused)
    rfl
  | ok expr =>
    -- An expression of finite operands only has failures of the line as a whole.
    rw [read] at refused
    have meaning := Line.grammar_read? line
    rw [read] at meaning
    obtain ⟨kind, -, whole⟩ := Expr.computing_of_value refused meaning.isFinite
    obtain rfl := Fault.failure.inj whole
    exact nomatch placed

/-- **The outcome of every line is a declared one**. -/
theorem evaluate_declared (line : Option String) : Declared line := by
  cases read : Line.read? line with
  | ok expr => exact declared_of_read_ok read
  | error failure => exact declared_of_read_error read

end LineCalc
