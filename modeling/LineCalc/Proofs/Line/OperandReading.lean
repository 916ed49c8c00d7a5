/-
OperandReading — which words are operands, and of which double.

A word is an operand if it is a decimal literal whose number lies below the
bound.  It is read as the double that is nearest to the number.  Every other
word is reported as it stands, in its own column, the words for infinities and
NaNs among them.

## Main definitions

  * `Line.OperandReading` — which words are operands, and what they are.

## Main statements

  * `Line.operand_reading` — reading an operand is exact.
-/

import LineCalc.Line.Reading
import LineCalc.Proofs.Double.FiniteLiteral

namespace LineCalc

namespace Line

open Double Numeral

/-- **Reading an operand**: which words are operands, what they are, and how others are reported. -/
structure OperandReading (line : String) (word : Word) : Prop where
  /-- A word is an operand exactly if it is a decimal literal below the bound. -/
  accepted : (∃ x, operand line word = .ok x) ↔
    ∃ neg q, IsDecimal word.text.toList neg q ∧ |q| < 2 ^ 1024 - 2 ^ 970
  /-- It is read as the double nearest to the number, ties to even, with the sign of the literal. -/
  nearest : ∀ x, operand line word = .ok x ↔
    ∃ neg q, IsDecimal word.text.toList neg q ∧ |q| < 2 ^ 1024 - 2 ^ 970 ∧
      IsNearest q x ∧ x.isSigned = neg
  /-- A literal of at most half the least double is a zero. -/
  tiny : ∀ neg q, IsDecimal word.text.toList neg q → |q| ≤ 1 / 2 ^ 1075 →
    operand line word = .ok (.zero neg)
  /-- Every other word is reported as it stands, in its own column. -/
  refused : ∀ failure, operand line word = .error failure ↔
    (¬ ∃ neg q, IsDecimal word.text.toList neg q ∧ |q| < 2 ^ 1024 - 2 ^ 970) ∧
      failure = .located .invalidNumber line word.column (some word.text)
  /-- The words for infinities and NaNs are reported, however they are spelled. -/
  spelled : ∀ sign ∈ ["", "+", "-"], ∀ name ∈ ["inf", "infinity", "nan"],
    word.text.toList.map Char.toLower = (sign ++ name).toList →
    operand line word = .error (.located .invalidNumber line word.column (some word.text))
  /-- No operand is an infinity or a NaN. -/
  finite : ∀ x, operand line word = .ok x → x.isFinite = true

section operands

variable {line : String} {word : Word} {x : Double}

/-- A word is an operand if it is the literal of a finite double. -/
theorem operand_eq_ok_iff : operand line word = .ok x ↔ parseFinite? word.text.toList = some x := by
  unfold operand
  cases parseFinite? word.text.toList with
  | none => simp
  | some y => simp

theorem operand_eq_error_iff {failure : Failure} :
    operand line word = .error failure ↔ parseFinite? word.text.toList = none ∧
      failure = .located .invalidNumber line word.column (some word.text) := by
  unfold operand failureAt
  cases parseFinite? word.text.toList with
  | none => simp [eq_comm]
  | some y => simp

end operands

/-- **Reading an operand is exact**, up to its limits. -/
theorem operand_reading (line : String) (word : Word) : OperandReading line word where
  accepted := by
    simp only [operand_eq_ok_iff]
    exact exists_parseFinite?_iff
  nearest x := by
    rw [operand_eq_ok_iff]
    exact parseFinite?_eq_some_iff
  tiny neg q literal small := operand_eq_ok_iff.2 (parseFinite?_tiny literal small)
  refused failure := by
    have none : parseFinite? word.text.toList = none ↔
        ¬ ∃ x, parseFinite? word.text.toList = some x := by
      rw [← Option.isSome_iff_exists, Option.not_isSome_iff_eq_none]
    rw [operand_eq_error_iff, none, exists_parseFinite?_iff]
    exact Iff.rfl
  spelled sign signed name named spelled :=
    operand_eq_error_iff.2 ⟨parseFinite?_word signed named spelled, rfl⟩
  finite x read := isFinite_of_parseFinite? (operand_eq_ok_iff.1 read)

/-- In the middle between two doubles the even one is read. -/
example : operand "9007199254740993!" ⟨"9007199254740993", 0⟩ = .ok (.ofNat 9007199254740992) := by
  decide +kernel

end Line

end LineCalc
