/-
Display — a displayed result can be typed back.

Without a precision a result is shown by its shortest digits, and with a
precision of seventeen or more by digits that tell it from every other double.
Either way the text is a literal of the result: it is a single word, and read as
an operand it is the result again, with the sign of a zero.  So a result may
take part in another expression by its text, in any place of an operand.  What
is shown for an infinity or a NaN is no operand.

## Main definitions

  * `Display.Enough` — no precision, or one that tells doubles apart.
  * `Display.TypedBack` — a text that can be typed back.

## Main statements

  * `Display.isNumber_of_text` — the text of a finite result is a literal of it.
  * `Display.typed_back` — every displayed result can be typed back.
-/

import LineCalc.Display
import LineCalc.Proofs.Double.SignificantDigits
import LineCalc.Proofs.Expr.RoundTrip

namespace LineCalc

open Line

namespace Display

/-! ## §1. Texts -/

/-- **Enough digits**: no precision, or one that can be used and tells doubles apart. -/
def Enough (precision : Option Int) : Prop :=
  ∀ p, precision = some p → 17 ≤ p ∧ p ≤ 2147483647

section texts

variable {precision : Option Int} {x : Double} {shown : String}

/-- With enough digits every double is shown, by its usual text or by some number of digits. -/
theorem text_of_enough (enough : Enough precision) (x : Double) :
    text precision x = .ok x.text ∨
      ∃ count, 17 ≤ count ∧ text precision x = .ok (withDigits count x) := by
  cases precision with
  | none => exact .inl rfl
  | some p =>
    obtain ⟨least, most⟩ := enough p rfl
    have usable : refusal? p = none := refusal?_eq_none.2 ⟨by omega, most⟩
    refine .inr ⟨p.toNat, by omega, ?_⟩
    unfold text
    simp only [usable]

/-- Seventeen digits of a finite double, or more, are read as the double. -/
theorem parse?_withDigits {count : Nat} (enough : 17 ≤ count) (finite : x.isFinite = true) :
    Double.parse? (withDigits count x).toList = some x := by
  cases x with
  | nan => exact nomatch finite
  | infinity => exact nomatch finite
  | finite neg units fits =>
    have some : max count 1 = count := by omega
    unfold withDigits
    simp only [some, String.toList_ofList]
    -- The choice of digits is named, lest they be computed.
    generalize chosen : (fun units => ((Double.expansion units).rounded count).normalized) = choose
    have digits : choose units = ((Double.expansion units).rounded count).normalized := by
      rw [← chosen]
    apply Double.parse?_render
    rw [digits]
    exact Double.ofDecimal_rounded fits enough neg

/-- **The text of a finite result is a literal of it**. -/
theorem isNumber_of_text (enough : Enough precision) (finite : x.isFinite = true)
    (displayed : text precision x = .ok shown) : IsNumber shown x := by
  have parsed : Double.parse? shown.toList = some x := by
    rcases text_of_enough enough x with usual | ⟨count, digits, counted⟩
    · rw [← Except.ok.inj (usual.symm.trans displayed)]
      exact Double.parse?_text finite
    · rw [← Except.ok.inj (counted.symm.trans displayed)]
      exact parse?_withDigits digits finite
  unfold IsNumber Double.parseFinite?
  rw [parsed]
  exact Option.filter_eq_some_iff.2 ⟨rfl, finite⟩

theorem mem_of_text_of_not_finite (enough : Enough precision) (other : x.isFinite = false)
    (displayed : text precision x = .ok shown) : shown ∈ ["inf", "-inf", "nan"] := by
  rcases text_of_enough enough x with usual | ⟨count, -, counted⟩
  · rw [← Except.ok.inj (usual.symm.trans displayed)]
    cases x with
    | nan => decide
    | infinity neg => cases neg <;> decide
    | finite => exact nomatch other
  · rw [← Except.ok.inj (counted.symm.trans displayed)]
    cases x with
    | nan =>
      show String.ofList "nan".toList ∈ _
      decide
    | infinity neg =>
      show String.ofList (Double.signedText neg "inf".toList) ∈ _
      cases neg <;> decide
    | finite => exact nomatch other

end texts

/-! ## §2. Typing back -/

/-- **Typing back**: what is shown for a result is a text without blanks that is read as the result,
alone and in the place of any operand of an expression; for an infinity or a NaN it is refused. -/
structure TypedBack (precision : Option Int) (x : Double) (shown : String) : Prop where
  displayed : text precision x = .ok shown
  solid : ∀ c ∈ shown.toList, Text.isBlank c = false
  accepted : x.isFinite = true → ∀ line column, operand line ⟨shown, column⟩ = .ok x
  refused : x.isFinite = false → ∀ line column, operand line ⟨shown, column⟩ =
    .error (.located .invalidNumber line column (some shown))
  /-- The other operands may be any literals. -/
  fed : x.isFinite = true → ∀ (expr : Expr) texts,
    List.Forall₂ (fun a y => a = shown ∧ y = x ∨ IsNumber a y) texts expr.operands →
    read (expr.lineWith texts) = .ok expr ∧ evaluate (some (expr.lineWith texts)) = expr.value

theorem typedBack_of_isFinite {precision : Option Int} {x : Double} {shown : String}
    (enough : Enough precision) (finite : x.isFinite = true)
    (displayed : text precision x = .ok shown) : TypedBack precision x shown := by
  have number := isNumber_of_text enough finite displayed
  constructor
  · exact displayed
  · intro c member
    exact ((innerText_of_isNumber number).1 c member).1
  · intro _ line column
    exact operand_of_number number
  · intro other
    rw [finite] at other
    exact nomatch other
  · intro _ expr texts parts
    have numbers : List.Forall₂ IsNumber texts expr.operands := by
      refine parts.imp ?_
      intro a y part
      rcases part with ⟨rfl, rfl⟩ | literal
      · exact number
      · exact literal
    have back := Expr.read_lineWith numbers
    exact ⟨back, evaluate_eq_value back⟩

theorem typedBack_of_not_isFinite {precision : Option Int} {x : Double} {shown : String}
    (enough : Enough precision) (other : x.isFinite = false)
    (displayed : text precision x = .ok shown) : TypedBack precision x shown := by
  -- An infinity and a NaN are shown as words that are no operands.
  have words : ∀ word ∈ ["inf", "-inf", "nan"],
      (word.toList.all fun c => !Text.isBlank c) = true ∧
        Double.parseFinite? word.toList = none := by decide
  obtain ⟨bare, none⟩ := words shown (mem_of_text_of_not_finite enough other displayed)
  constructor
  · exact displayed
  · intro c member
    simpa using List.all_eq_true.1 bare c member
  · intro finite
    rw [other] at finite
    exact nomatch finite
  · intro _ line column
    apply operand_of_not_number
    intro y number
    unfold IsNumber at number
    rw [none] at number
    exact nomatch number
  · intro finite
    rw [other] at finite
    exact nomatch finite

/-- **Every displayed result can be typed back**, without a precision and with seventeen digits or
more. -/
theorem typed_back {precision : Option Int} (enough : Enough precision) (x : Double) :
    ∃ shown, TypedBack precision x shown := by
  obtain ⟨shown, displayed⟩ : ∃ shown, text precision x = .ok shown := by
    rcases text_of_enough enough x with usual | ⟨count, -, counted⟩
    · exact ⟨_, usual⟩
    · exact ⟨_, counted⟩
  cases finite : x.isFinite with
  | true => exact ⟨shown, typedBack_of_isFinite enough finite displayed⟩
  | false => exact ⟨shown, typedBack_of_not_isFinite enough finite displayed⟩

/-- A tenth is shown with seventeen digits, which are typed back as a tenth. -/
theorem typed_back_tenth :
    Enough (some 17) ∧
      TypedBack (some 17) (.ofDecimal false 1 (-1)) "0.10000000000000001" := by
  have enough : Enough (some 17) := by
    intro p same
    obtain rfl := Option.some.inj same
    decide
  have displayed : text (some 17) (.ofDecimal false 1 (-1)) = .ok "0.10000000000000001" := by
    decide +kernel
  obtain ⟨shown, back⟩ := typed_back enough (.ofDecimal false 1 (-1))
  have same := Except.ok.inj (back.displayed.symm.trans displayed)
  rw [same] at back
  exact ⟨enough, back⟩

end Display

end LineCalc
