/-
Operand — the texts of operands.

An operand is written as the digits of a whole number, or in its usual
text.  Either text is read as the double that it was written from, but for
a negative zero, whose sign is not written.  As any other number it is a single
word, it does not exclaim, and it is not taken for the name of a function.

## Main definitions

  * `Double.plain` — a double whose sign is dropped if it is a zero.

## Main statements

  * `Line.not_isFunction_of_isNumber` — a number names no function.
  * `Expr.operandText_cases` — the two forms of an operand.
  * `Expr.isNumber_operandText` — an operand is read back from its text.
-/

import LineCalc.Proofs.Double.FiniteLiteral
import LineCalc.Proofs.Double.Whole
import LineCalc.Proofs.Line.Grammar

namespace LineCalc

/-! ## §1. Whole numbers and zeros -/

namespace Double

/-- **The double without the sign of a zero**. -/
def plain (x : Double) : Double := if x.isZero then zero false else x

theorem plain_eq_self {x : Double} (h : x ≠ zero true) : x.plain = x := by
  unfold plain
  split
  · next isZero =>
    cases x with
    | nan => exact nomatch isZero
    | infinity => exact nomatch isZero
    | finite neg units fits =>
      obtain rfl : units = 0 := eq_of_beq isZero
      cases neg with
      | false => rfl
      | true => exact absurd rfl h
  · rfl

theorem ofDecimal_whole {units m : Nat} (fits : Representable units)
    (whole : units = m * unitsPerOne) (neg : Bool) :
    ofDecimal neg m 0 = finite neg units fits := by
  have nought : (0 : Int).toNat = 0 := rfl
  rw [ofDecimal_eq_ofRatio, Int.neg_zero, nought, tenTo_zero, Nat.mul_one, ← whole]
  exact ofRatio_units fits

theorem plain_whole {neg : Bool} {units m : Nat} (fits : Representable units)
    (whole : units = m * unitsPerOne) :
    (finite neg units fits).plain = finite (decide (m ≠ 0) && neg) units fits := by
  by_cases nothing : m = 0
  · obtain rfl : units = 0 := by rw [whole, nothing, Nat.zero_mul]
    rw [decide_eq_false (not_not.2 nothing), Bool.false_and]
    rfl
  · rw [decide_eq_true nothing, Bool.true_and]
    refine plain_eq_self fun same => nothing ?_
    have none : units = 0 := by injection same
    rw [whole, Nat.mul_eq_zero] at none
    exact none.resolve_right (Nat.ne_of_gt unitsPerOne_pos)

end Double

/-! ## §2. Numbers -/

namespace Text

/-- **Start of a number**: a character before the letters, or a digit of any script. -/
def StartsNumber (c : Char) : Prop := c.toNat < 65 ∨ ∃ d, digitValue? c = some d

/-- No digit and no character before the letters has another lower case. -/
theorem lowerRuns_disjoint : ∀ run ∈ lowerRuns,
    65 ≤ run.1 ∧ ∀ first ∈ digitZeros, run.2.1 < first ∨ first + 9 < run.1 := by
  decide +kernel

/-- The start of a number is not a character that has a lower case of its own. -/
theorem StartsNumber.ne {c other : Char} (h : StartsNumber c) (letter : 65 ≤ other.toNat)
    (digitless : digitValue? other = none) : c ≠ other := by
  intro same
  rw [same] at h
  rcases h with below | ⟨d, digit⟩
  · omega
  · rw [digitless] at digit
    exact nomatch digit

/-- The table of lower-case forms passes over the start of a number. -/
theorem StartsNumber.shift?_eq_none {c : Char} (h : StartsNumber c) :
    shift? lowerRuns c.toNat = none := by
  unfold shift?
  rw [Option.map_eq_none_iff, List.find?_eq_none]
  intro run member
  obtain ⟨start, stop, step, move⟩ := run
  obtain ⟨beyond, disjoint⟩ := lowerRuns_disjoint _ member
  simp only [Bool.and_eq_true, decide_eq_true_eq]
  dsimp only at beyond disjoint
  rcases h with below | ⟨d, digit⟩
  · omega
  · unfold digitValue? at digit
    obtain ⟨first, found, -⟩ := Option.map_eq_some_iff.1 digit
    have inside := List.find?_some found
    simp only [Bool.and_eq_true, decide_eq_true_eq] at inside
    have apart := disjoint first (List.mem_of_find?_eq_some found)
    omega

theorem exists_lower_cons {c : Char} (h : StartsNumber c) (rest : List Char) :
    ∃ more, lower (c :: rest) = c :: more := by
  have sigma : c ≠ 'Σ' := h.ne (by decide) (by decide)
  have dotted : c ≠ 'İ' := h.ne (by decide) (by decide)
  have form : lowerChar c = [c] := by
    unfold lowerChar shifted
    rw [if_neg dotted, h.shift?_eq_none]
  unfold lower lowerFrom
  dsimp only
  rw [if_neg sigma, form]
  exact ⟨_, rfl⟩

end Text

namespace Numeral

open Text

theorem Mantissa.exists_eq_cons {cs : List Char} {whole part : List Nat}
    (form : Mantissa cs whole part) : ∃ c rest, cs = c :: rest ∧ StartsNumber c := by
  have point : StartsNumber '.' := .inl (by decide)
  have starts {row : List Char} {ds : List Nat} (digits : Row row ds) (behind : List Char) :
      ∃ c rest, row ++ behind = c :: rest ∧ StartsNumber c := by
    obtain ⟨⟨c, d, more, rfl, digit⟩, -⟩ := digits.exists_eq_cons
    exact ⟨c, more ++ behind, rfl, .inr ⟨d, digit⟩⟩
  cases form with
  | whole row =>
    have start := starts row []
    rwa [List.append_nil] at start
  | closed row => exact starts row _
  | parts row => exact starts row _
  | part => exact ⟨'.', _, rfl, point⟩

theorem IsDecimal.exists_eq_cons {cs : List Char} {neg : Bool} {q : ℚ} (h : IsDecimal cs neg q) :
    ∃ c rest, cs = c :: rest ∧ StartsNumber c := by
  cases h with
  | literal signs form =>
    obtain ⟨c, rest, rfl, start⟩ := form.exists_eq_cons
    cases signs with
    | absent => exact ⟨c, _, rfl, start⟩
    | plus => exact ⟨'+', _, rfl, .inl (by decide)⟩
    | minus => exact ⟨'-', _, rfl, .inl (by decide)⟩

end Numeral

namespace Line

open Text

section numbers

variable {text : String} {x : Double}

theorem exists_eq_cons_of_isNumber (number : IsNumber text x) :
    ∃ c rest, text.toList = c :: rest ∧ StartsNumber c := by
  obtain ⟨neg, q, literal, -⟩ := Double.parseFinite?_eq_some_iff.1 number
  exact literal.exists_eq_cons

theorem innerText_of_isNumber (number : IsNumber text x) :
    InnerText text.toList ∧ text.toList ≠ [] := by
  obtain ⟨c, rest, characters, -⟩ := exists_eq_cons_of_isNumber number
  refine ⟨Double.innerText_of_parseFinite? number, ?_⟩
  rw [characters]
  exact List.cons_ne_nil c rest

theorem head_functionName {name : String}
    (h : (∃ f : UnaryFunction, name = f.name) ∨ ∃ f : BinaryFunction, name = f.name) :
    ∀ c, name.toList.head? = some c → 65 ≤ c.toNat ∧ digitValue? c = none := by
  rcases h with ⟨f, rfl⟩ | ⟨f, rfl⟩
  · cases f <;> (rintro c ⟨⟩; decide)
  · cases f
    rintro c ⟨⟩
    decide

/-- **A number names no function**. -/
theorem not_isFunction_of_isNumber {word : Word} (number : IsNumber word.text x) :
    ¬ IsFunction word := by
  intro named
  obtain ⟨c, rest, characters, start⟩ := exists_eq_cons_of_isNumber number
  obtain ⟨more, lower⟩ := exists_lower_cons start rest
  have first : (nameOf word).toList.head? = some c := by
    unfold nameOf
    rw [characters, lower, String.toList_ofList]
    rfl
  obtain ⟨letter, digitless⟩ := head_functionName named c first
  exact start.ne letter digitless rfl

end numbers

end Line

/-! ## §3. Operands -/

namespace Expr

open Text Line

theorem toList_toString (n : Int) :
    (toString n).toList = Double.signedText (decide (n < 0)) (Nat.toDigits 10 n.natAbs) := by
  cases n with
  | ofNat m =>
    show (Nat.repr m).toList = _
    rw [Nat.toList_repr]
    rfl
  | negSucc m =>
    show ("-" ++ Nat.repr (m + 1)).toList = _
    have minus : "-".toList = ['-'] := by decide
    have below : decide (Int.negSucc m < 0) = true := decide_eq_true (Int.negSucc_lt_zero m)
    rw [String.toList_append, Nat.toList_repr, minus, below]
    rfl

/-- **An operand is written** as its digits if it is a whole number below `10 ^ 16`, and in its
usual text otherwise. -/
theorem operandText_cases (x : Double) :
    (∃ neg units fits m, x = .finite neg units fits ∧ units = m * Double.unitsPerOne ∧
      (operandText x).toList =
        Double.signedText (decide (m ≠ 0) && neg) (Nat.toDigits 10 m)) ∨
    (x.isZero = false ∧ operandText x = x.text) := by
  unfold operandText
  cases whole : x.toInt? with
  | none =>
    refine .inr ⟨?_, rfl⟩
    cases zero : x.isZero with
    | false => rfl
    | true =>
      rw [Double.toInt?_of_isZero zero] at whole
      exact nomatch whole
  | some n =>
    dsimp only
    split
    · obtain ⟨neg, units, fits, m, rfl, units_eq, rfl⟩ := Double.toInt?_eq_some_iff.1 whole
      refine .inl ⟨neg, units, fits, m, rfl, units_eq, ?_⟩
      -- An integer has no negative zero, so a zero is written without its sign.
      have magnitude : (if neg then -(m : Int) else m).natAbs = m := by
        cases neg <;> simp
      have sign : decide ((if neg then -(m : Int) else m) < 0) = (decide (m ≠ 0) && neg) := by
        cases neg with
        | false => simp
        | true => simp [Nat.pos_iff_ne_zero]
      rw [toList_toString, magnitude, sign]
    -- Too large to be written out; then it is not a zero.
    · next large =>
      refine .inr ⟨?_, rfl⟩
      cases zero : x.isZero with
      | false => rfl
      | true =>
        rw [Double.toInt?_of_isZero zero] at whole
        obtain rfl := Option.some.inj whole
        exact absurd (tenTo_pos 16) large

/-- **An operand is read back from its text**, a zero without its sign. -/
theorem isNumber_operandText {x : Double} (finite : x.isFinite = true) :
    IsNumber (operandText x) x.plain := by
  have same : x.plain.isFinite = true := by
    unfold Double.plain
    split
    · rfl
    · exact finite
  unfold IsNumber Double.parseFinite?
  have parsed : Double.parse? (operandText x).toList = some x.plain := by
    rcases operandText_cases x with ⟨neg, units, fits, m, rfl, whole, text⟩ | ⟨nonzero, text⟩
    · rw [text, Double.parse?_toDigits, Double.ofDecimal_whole fits whole,
        Double.plain_whole fits whole]
    · rw [text, Double.parse?_text finite]
      unfold Double.plain
      rw [nonzero]
      rfl
  rw [parsed]
  exact Option.filter_eq_some_iff.2 ⟨rfl, same⟩

theorem operandText_of_isZero {x : Double} (h : x.isZero = true) :
    operandText x = toString (0 : Int) := by
  unfold operandText
  rw [Double.toInt?_of_isZero h]
  exact if_pos (tenTo_pos 16)

theorem operandText_plain (x : Double) : operandText x.plain = operandText x := by
  unfold Double.plain
  split
  · next isZero =>
    have zero : (Double.zero false).isZero = true := rfl
    rw [operandText_of_isZero zero, operandText_of_isZero isZero]
  · rfl

end Expr

end LineCalc
