/-
Undefined — the one origin of a NaN.

The operands of a line are finite, and nothing nests.  An infinity may still
come up on the way: a sum or a product overflows, the reciprocal of a tiny
degree is infinite, and so is a long product.  None of them meets a zero or an
opposite infinity there, so that none of the invalid operations is made but
one, the power of a number below zero whose exponent is not whole.

## Main definitions

  * `Expr.IsBrokenPower` — the powers that no real number is.

## Main statements

  * `Expr.factorialValue_ne_nan`, `Expr.unaryValue_ne_nan`,
    `Expr.rootValue_ne_nan` — no NaN comes of the forms with a name or a mark.
  * `Expr.operationValue_eq_nan_iff` — which operations give a NaN.
  * `evaluate_eq_nan_iff` — the value of a line is a NaN exactly for a broken
    power.
-/

import LineCalc.Proofs.Double.Undefined
import LineCalc.Proofs.Evaluation
import LineCalc.Proofs.Expr.Product

namespace LineCalc

namespace Expr

open Double

/-- **Broken power**: one of a negative number, with an exponent that is not whole. -/
def IsBrokenPower (expr : Expr) : Prop :=
  ∃ left right, expr = operation .pow left right ∧ left.IsNegative ∧
    ∀ n : Int, right.toRat? ≠ some (n : ℚ)

/-! ## §1. Factorials and functions -/

theorem factorialValue_ne_nan (x : Double) : factorialValue x ≠ .ok nan := by
  unfold factorialValue
  split
  · exact nofun
  · next n _ =>
    split
    · exact nofun
    · split
      · exact nofun
      · rw [product_eq_plainProduct]
        intro undefined
        exact (one_le_plainProduct n.toNat).2.1 (Except.ok.inj undefined)

theorem reciprocalValue_ne_nan {x : Double} (number : x ≠ nan) : reciprocalValue x ≠ .ok nan := by
  unfold reciprocalValue
  split
  · exact nofun
  · intro undefined
    exact reciprocal_ne_nan number (Except.ok.inj undefined)

/-- A function of angles does not give a NaN if all its values are finite. -/
theorem inDomain_ne_nan {y? : Option Double} (finite : ∀ y, y? = some y → y.isFinite = true) :
    inDomain y? ≠ .ok nan := by
  cases y? with
  | none => exact nofun
  | some y =>
    intro undefined
    exact ne_nan_of_isFinite (finite y rfl) (Except.ok.inj undefined)

theorem unaryValue_ne_nan (f : UnaryFunction) {x : Double} (finite : x.isFinite = true) :
    unaryValue f x ≠ .ok nan := by
  cases f with
  | sin => exact inDomain_ne_nan fun y => isFinite_of_sin? finite
  | cos => exact inDomain_ne_nan fun y => isFinite_of_cos? finite
  | tan => exact inDomain_ne_nan fun y => isFinite_of_tan? finite
  | sec =>
    unfold unaryValue
    dsimp only
    cases cosine : x.cos? with
    | none => exact nofun
    | some y => exact reciprocalValue_ne_nan (ne_nan_of_isFinite (isFinite_of_cos? finite cosine))
  | inv => exact reciprocalValue_ne_nan (ne_nan_of_isFinite finite)

/-! ## §2. Roots -/

/-- **No root is a NaN**, for the radicand is made positive before its power is taken. -/
theorem rootValue_ne_nan {degree value : Double} (hd : degree ≠ nan) (hv : value ≠ nan) :
    rootValue degree value ≠ .ok nan := by
  have exponent : degree.reciprocal ≠ nan := reciprocal_ne_nan hd
  unfold rootValue
  split
  · exact nofun
  · split
    · next below =>
      split
      · exact nofun
      · split
        · exact nofun
        · intro undefined
          have power := pow_ne_nan (mt neg_eq_nan_iff.1 hv) exponent (isBelowZero_neg below)
          exact power (neg_eq_nan_iff.1 (Except.ok.inj undefined))
    · next nonnegative =>
      intro undefined
      exact pow_ne_nan hv exponent (Bool.eq_false_iff.2 nonnegative) (Except.ok.inj undefined)

/-! ## §3. Operations -/

/-- No operation on finite operands but the power is a NaN: an infinity is made by overflow, and
nothing comes after it. -/
theorem operationValue_ne_nan {op : Operator} (other : op ≠ .pow) {left right : Double}
    (finiteL : left.isFinite = true) (finiteR : right.isFinite = true) :
    operationValue op left right ≠ .ok nan := by
  have numberL := ne_nan_of_isFinite finiteL
  have numberR := ne_nan_of_isFinite finiteR
  have boundedL := not_isInfinite_of_isFinite finiteL
  have boundedR := not_isInfinite_of_isFinite finiteR
  intro undefined
  -- Each operation is undefined for a NaN, or for an infinity together with something: never for
  -- two finite numbers.
  cases op with
  | add =>
    rcases add_eq_nan_iff.1 (Except.ok.inj undefined) with h | h | ⟨s, rfl, -⟩
    · exact numberL h
    · exact numberR h
    · exact boundedL rfl
  | sub =>
    rcases sub_eq_nan_iff.1 (Except.ok.inj undefined) with h | h | ⟨s, rfl, -⟩
    · exact numberL h
    · exact numberR h
    · exact boundedL rfl
  | mul =>
    rcases mul_eq_nan_iff.1 (Except.ok.inj undefined) with h | h | ⟨-, h⟩ | ⟨h, -⟩
    · exact numberL h
    · exact numberR h
    · exact boundedR h
    · exact boundedL h
  | div =>
    unfold operationValue at undefined
    dsimp only at undefined
    split at undefined
    · exact nomatch undefined
    · next nonzero =>
      rcases div_eq_nan_iff.1 (Except.ok.inj undefined) with h | h | ⟨h, -⟩ | ⟨-, h⟩
      · exact numberL h
      · exact numberR h
      · exact boundedL h
      · exact nonzero h
  | pow => exact other rfl

/-- **Operations on finite operands** give a NaN only as broken powers. -/
theorem operationValue_eq_nan_iff {op : Operator} {left right : Double}
    (finiteL : left.isFinite = true) (finiteR : right.isFinite = true) :
    operationValue op left right = .ok nan ↔ IsBrokenPower (operation op left right) := by
  by_cases power : op = .pow
  · subst power
    show Except.ok (left.pow right) = .ok nan ↔ _
    rw [Except.ok.injEq, pow_eq_nan_iff_of_numbers (ne_nan_of_isFinite finiteL)
      (ne_nan_of_isFinite finiteR), isBelowZero_iff, toInt?_eq_none_iff_toRat?]
    constructor
    · rintro ⟨-, -, negative, broken⟩
      exact ⟨left, right, rfl, negative, broken⟩
    · rintro ⟨left', right', same, negative, broken⟩
      obtain ⟨-, rfl, rfl⟩ := Expr.operation.inj same
      exact ⟨finiteL, finiteR, negative, broken⟩
  · constructor
    · intro undefined
      exact absurd undefined (operationValue_ne_nan power finiteL finiteR)
    · rintro ⟨left', right', same, -⟩
      obtain ⟨symbol, -, -⟩ := Expr.operation.inj same
      exact absurd symbol power

/-! ## §4. Lines -/

/-- The value of an expression with finite operands is a NaN exactly for a broken power. -/
theorem value_eq_nan_iff {expr : Expr} (finite : ∀ x ∈ expr.operands, x.isFinite = true) :
    expr.value = .ok nan ↔ expr.IsBrokenPower := by
  -- All shapes but one have no NaN, and are no powers either.
  have other : expr.value ≠ .ok nan → expr.shape ≠ .binaryOperator →
      (expr.value = .ok nan ↔ expr.IsBrokenPower) := by
    intro defined shape
    constructor
    · intro undefined
      exact absurd undefined defined
    · rintro ⟨left, right, rfl, -⟩
      exact absurd rfl shape
  cases expr with
  | factorial x => exact other (factorialValue_ne_nan x) nofun
  | unary f x =>
    have operand := finite x (List.mem_cons_self ..)
    exact other (unaryValue_ne_nan f operand) nofun
  | binary f degree value =>
    have first := finite degree (List.mem_cons_self ..)
    have second := finite value (List.mem_cons_of_mem _ (List.mem_cons_self ..))
    cases f
    exact other (rootValue_ne_nan (ne_nan_of_isFinite first) (ne_nan_of_isFinite second)) nofun
  | operation op left right =>
    have first := finite left (List.mem_cons_self ..)
    have second := finite right (List.mem_cons_of_mem _ (List.mem_cons_self ..))
    exact operationValue_eq_nan_iff first second

end Expr

/-- **The one origin of a NaN**: the value of a line is a NaN exactly if the line holds the power of
a negative number with an exponent that is not whole. -/
theorem evaluate_eq_nan_iff (line : Option String) :
    evaluate line = .ok .nan ↔ ∃ expr, Line.read? line = .ok expr ∧ expr.IsBrokenPower := by
  have meaning := Line.grammar_read? line
  unfold evaluate
  cases read : Line.read? line with
  | error failure => simp
  | ok expr =>
    rw [read] at meaning
    -- What is read has finite operands, whatever the line.
    simpa using Expr.value_eq_nan_iff meaning.isFinite

end LineCalc
