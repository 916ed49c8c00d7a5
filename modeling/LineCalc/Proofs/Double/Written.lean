/-
Written — the text of a decimal is a literal of its value.

A decimal is written with its point in place or in scientific notation, and
read as a row of digits, a fraction and an exponent.  Whatever the layout,
what is read has the value of what was written; the coefficient and the
exponent may differ, since zeros are written to fill up a number.  So a
double is read back from any text whose digits read back.

## Main definitions

  * `Text.Digits` — a row of ASCII digits.
  * `Numeral.Writes` — a text without a sign that writes a given value.

## Main statements

  * `Decimal.writes_render` — the text of a decimal writes its value.
  * `Double.parse?_render` — a double is read back in every layout.
  * `Double.parse?_text` — a double is read back from its usual text.
-/

import LineCalc.Double.Layout
import LineCalc.Numeral
import LineCalc.Proofs.Double.DecimalValue

namespace LineCalc

/-! ## §1. Rows of digits -/

namespace Text

/-- **Digit text**: a row of ASCII digits. -/
def Digits (cs : List Char) : Prop := ∀ c ∈ cs, c.isDigit = true

def digitOf (c : Char) : Nat := c.toNat - '0'.toNat

theorem digitValue?_of_isDigit {c : Char} (h : c.isDigit = true) :
    digitValue? c = some (digitOf c) := by
  have bounds : 48 ≤ c.toNat ∧ c.toNat ≤ 57 := Char.isDigit_iff_toNat.1 h
  have here : (0x30 ≤ c.toNat && c.toNat < 0x30 + 10) = true := by
    simp only [Bool.and_eq_true, decide_eq_true_eq]
    omega
  have zeros : digitZeros = 0x30 :: digitZeros.tail := rfl
  have found : (digitZeros.find? fun first => first ≤ c.toNat && c.toNat < first + 10) =
      some 0x30 := by
    rw [zeros]
    exact List.find?_cons_of_pos here
  unfold digitValue?
  rw [found]
  rfl

theorem digits_append {cs cs' : List Char} (h : Digits cs) (h' : Digits cs') :
    Digits (cs ++ cs') :=
  List.forall_mem_append.2 ⟨h, h'⟩

theorem digits_replicate (k : Nat) : Digits (List.replicate k '0') := by
  intro c member
  rw [List.eq_of_mem_replicate member]
  rfl

theorem digits_toDigits (n : Nat) : Digits (Nat.toDigits 10 n) :=
  fun _ member => Nat.isDigit_of_mem_toDigits (by decide) (by decide) member

end Text

namespace Numeral

open Text

/-- **Stopping**: a text that does not carry on a row of digits. -/
def Stops (cs : List Char) : Prop :=
  ∀ c, cs.head? = some c → c ≠ '_' ∧ digitValue? c = none

theorem stops_nil : Stops [] := fun _ first => nomatch first

theorem stops_cons {c : Char} {rest : List Char} (underscore : c ≠ '_')
    (digit : digitValue? c = none) : Stops (c :: rest) := by
  rintro d first
  obtain rfl := Option.some.inj first
  exact ⟨underscore, digit⟩

theorem moreDigits_cons {c : Char} (h : c ≠ '_') (rest : List Char) :
    moreDigits (c :: rest) = match digitValue? c with
      | some d => (d :: (moreDigits rest).1, (moreDigits rest).2)
      | none => ([], c :: rest) := by
  rw [moreDigits.eq_def]
  split
  · next empty => exact nomatch empty
  · next same => exact absurd (List.cons.inj same).1 h
  · next same =>
    obtain ⟨rfl, rfl⟩ := List.cons.inj same
    rfl

theorem moreDigits_append {cs rest : List Char} (digits : Digits cs) (stops : Stops rest) :
    moreDigits (cs ++ rest) = (cs.map digitOf, rest) := by
  -- The induction is on the digits; behind the last one the text stops the row.
  induction cs with
  | nil =>
    cases rest with
    | nil => rfl
    | cons c rest =>
      obtain ⟨underscore, digit⟩ := stops c rfl
      rw [List.nil_append, moreDigits_cons underscore, digit]
      rfl
  | cons c cs ih =>
    have digit : c.isDigit = true := digits c (List.mem_cons_self ..)
    have underscore : c ≠ '_' := by
      rintro rfl
      exact absurd digit (by decide)
    have tail : Digits cs := fun d member => digits d (List.mem_cons_of_mem c member)
    rw [List.cons_append, moreDigits_cons underscore, digitValue?_of_isDigit digit, ih tail]
    rfl

theorem digitRow_append {cs rest : List Char} (digits : Digits cs) (stops : Stops rest) :
    digitRow (cs ++ rest) = (cs.map digitOf, rest) := by
  cases cs with
  | nil =>
    cases rest with
    | nil => rfl
    | cons c rest =>
      have digit : digitValue? c = none := (stops c rfl).2
      unfold digitRow
      simp only [List.nil_append, digit]
      rfl
  | cons c cs =>
    have digit : c.isDigit = true := digits c (List.mem_cons_self ..)
    have tail : Digits cs := fun d member => digits d (List.mem_cons_of_mem c member)
    unfold digitRow
    simp only [List.cons_append, digitValue?_of_isDigit digit, moreDigits_append tail stops]
    rfl

theorem rowValue_map_digitOf (cs : List Char) :
    rowValue (cs.map digitOf) = Nat.ofDigitChars 10 cs 0 := by
  unfold rowValue
  rw [List.foldl_map, Nat.ofDigitChars_eq_foldl]
  rfl

/-! ## §2. Literals -/

theorem exponent?_row {row : List Char} (digits : Digits row) (nonempty : row ≠ [])
    (neg : Bool) :
    exponent? ('e' :: (if neg then '-' else '+') :: row) =
      some (if neg then -(Nat.ofDigitChars 10 row 0 : Int) else Nat.ofDigitChars 10 row 0) := by
  obtain ⟨c, cs, rfl⟩ := List.exists_cons_of_ne_nil nonempty
  have read := digitRow_append digits stops_nil
  rw [List.append_nil] at read
  have value := rowValue_map_digitOf (c :: cs)
  rw [List.map_cons] at read value
  have signed : sign ((if neg then '-' else '+') :: c :: cs) = (neg, c :: cs) := by
    cases neg <;> rfl
  unfold exponent?
  simp only [true_or, if_true, signed, read, value]

theorem unsigned?_of_point {whole part tail : List Char} {e : Int} (digits : Digits whole)
    (nonempty : whole ≠ []) (digits' : Digits part) (stops : Stops tail)
    (exponent : exponent? tail = some e) (neg : Bool) :
    unsigned? neg (whole ++ '.' :: (part ++ tail)) =
      some ⟨neg, Nat.ofDigitChars 10 (whole ++ part) 0, e - part.length⟩ := by
  have point : Stops ('.' :: (part ++ tail)) := stops_cons (by decide) (by decide)
  have some : (whole.map digitOf).isEmpty = false := by
    rw [List.isEmpty_map, List.isEmpty_eq_false_iff]
    exact nonempty
  have behind : fraction ('.' :: (part ++ tail)) = (part.map digitOf, tail) :=
    digitRow_append digits' stops
  unfold unsigned?
  simp only [digitRow_append digits point, behind, some, Bool.false_and, Bool.false_eq_true,
    if_false, exponent, Option.map_some, List.length_map, ← List.map_append,
    rowValue_map_digitOf]

theorem unsigned?_of_whole {whole tail : List Char} {e : Int} (digits : Digits whole)
    (nonempty : whole ≠ []) (stops : Stops tail) (pointless : tail.head? ≠ some '.')
    (exponent : exponent? tail = some e) (neg : Bool) :
    unsigned? neg (whole ++ tail) = some ⟨neg, Nat.ofDigitChars 10 whole 0, e⟩ := by
  have some : (whole.map digitOf).isEmpty = false := by
    rw [List.isEmpty_map, List.isEmpty_eq_false_iff]
    exact nonempty
  have behind : fraction tail = ([], tail) := by
    unfold fraction
    split
    · exact absurd rfl pointless
    · rfl
  unfold unsigned?
  simp only [digitRow_append digits stops, behind, some, Bool.false_and, Bool.false_eq_true,
    if_false, exponent, Option.map_some, List.length_nil, List.append_nil,
    rowValue_map_digitOf, Int.natCast_zero, Int.sub_zero]

/-- **Writing a value**: read as a literal without a sign, the text has that value. -/
def Writes (cs : List Char) (value : ℚ) : Prop :=
  ∀ neg, ∃ c e, unsigned? neg cs = some ⟨neg, c, e⟩ ∧ (⟨c, e⟩ : Decimal).value = value

end Numeral

/-! ## §3. The two notations -/

namespace Decimal

open Text Numeral

/-- Zeros behind a coefficient count as much as the exponent does. -/
theorem value_mul_tenTo (c k : Nat) (e : Int) :
    (⟨10 ^ k * c, e⟩ : Decimal).value = (⟨c, e + k⟩ : Decimal).value := by
  unfold value
  push_cast
  rw [zpow_add₀ (by norm_num : (10 : ℚ) ≠ 0), zpow_natCast]
  ring

theorem ofDigitChars_zeros_append (k : Nat) (cs : List Char) :
    Nat.ofDigitChars 10 (List.replicate k '0' ++ cs) 0 = Nat.ofDigitChars 10 cs 0 := by
  rw [Nat.ofDigitChars_append, Nat.ofDigitChars_replicate_zero, Nat.mul_zero]

theorem ofDigitChars_append_zeros (cs : List Char) (k : Nat) :
    Nat.ofDigitChars 10 (cs ++ List.replicate k '0') 0 = 10 ^ k * Nat.ofDigitChars 10 cs 0 := by
  rw [Nat.ofDigitChars_append, Nat.ofDigitChars_replicate_zero]

section notations

variable {digits : List Char} (isDigits : Digits digits) (nonempty : digits ≠ [])

include isDigits in
theorem writes_small {exponent : Int} (negative : exponent < 0) (showsFraction : Bool) :
    Writes (positional showsFraction digits exponent)
      (⟨Nat.ofDigitChars 10 digits 0, exponent + 1 - digits.length⟩ : Decimal).value := by
  intro neg
  have zero : Digits ['0'] := digits_replicate 1
  -- The point stands ahead of all digits, behind a zero of its own; zeros fill up the places
  -- between.
  have part : Digits (List.replicate (-exponent - 1).toNat '0' ++ digits) :=
    digits_append (digits_replicate _) isDigits
  have read := unsigned?_of_point zero (List.cons_ne_nil _ _) part stops_nil rfl neg
  have text : positional showsFraction digits exponent =
      ['0'] ++ '.' :: (List.replicate (-exponent - 1).toNat '0' ++ digits ++ []) := by
    unfold positional
    rw [if_pos negative, List.append_nil]
    rfl
  have coefficient : Nat.ofDigitChars 10
      (['0'] ++ (List.replicate (-exponent - 1).toNat '0' ++ digits)) 0 =
        Nat.ofDigitChars 10 digits 0 :=
    (ofDigitChars_zeros_append 1 _).trans (ofDigitChars_zeros_append _ _)
  have places : (0 : Int) - (List.replicate (-exponent - 1).toNat '0' ++ digits).length =
      exponent + 1 - digits.length := by
    rw [List.length_append, List.length_replicate]
    omega
  rw [← text, coefficient, places] at read
  exact ⟨_, _, read, rfl⟩

include isDigits nonempty in
/-- A whole number is filled up behind, and may show a decimal part. -/
theorem writes_whole {exponent : Int} (nonneg : ¬ exponent < 0)
    (short : digits.length ≤ exponent.toNat + 1) (showsFraction : Bool) :
    Writes (positional showsFraction digits exponent)
      (⟨Nat.ofDigitChars 10 digits 0, exponent + 1 - digits.length⟩ : Decimal).value := by
  intro neg
  let zeros := List.replicate (exponent.toNat + 1 - digits.length) '0'
  have whole : Digits (digits ++ zeros) := digits_append isDigits (digits_replicate _)
  have some : digits ++ zeros ≠ [] := by simp [nonempty]
  have places : exponent + 1 - digits.length =
      ((exponent.toNat + 1 - digits.length : Nat) : Int) := by omega
  have text : positional showsFraction digits exponent =
      if showsFraction then digits ++ zeros ++ ['.', '0'] else digits ++ zeros := by
    unfold positional
    rw [if_neg nonneg]
    simp only [List.take_of_length_le short, List.drop_of_length_le short]
    rfl
  rw [text, places]
  -- A decimal part is one more zero, taken back by the exponent.
  cases showsFraction with
  | false =>
    have read := unsigned?_of_whole whole some stops_nil (by simp) rfl neg
    rw [List.append_nil, ofDigitChars_append_zeros] at read
    refine ⟨_, _, read, ?_⟩
    rw [value_mul_tenTo, Int.zero_add]
  | true =>
    have zero : Digits ['0'] := digits_replicate 1
    have read := unsigned?_of_point whole some zero stops_nil rfl neg
    have more : digits ++ zeros ++ ['0'] = digits ++ List.replicate
        (exponent.toNat + 1 - digits.length + 1) '0' := by
      rw [List.replicate_succ', List.append_assoc]
    rw [more, ofDigitChars_append_zeros] at read
    refine ⟨_, _, read, ?_⟩
    rw [value_mul_tenTo]
    congr 2
    simp only [List.length_singleton]
    omega

include isDigits in
theorem writes_parts {exponent : Int} (nonneg : ¬ exponent < 0)
    (long : exponent.toNat + 1 < digits.length) (showsFraction : Bool) :
    Writes (positional showsFraction digits exponent)
      (⟨Nat.ofDigitChars 10 digits 0, exponent + 1 - digits.length⟩ : Decimal).value := by
  intro neg
  let width := exponent.toNat + 1
  have whole : Digits (digits.take width) := fun c member =>
    isDigits c (List.mem_of_mem_take member)
  have part : Digits (digits.drop width) := fun c member =>
    isDigits c (List.mem_of_mem_drop member)
  -- The point stands among the digits, so there are some on either side.
  have some : digits.take width ≠ [] := by
    rw [← List.length_pos_iff, List.length_take]
    omega
  have read := unsigned?_of_point whole some part stops_nil rfl neg
  have text : positional showsFraction digits exponent =
      digits.take width ++ '.' :: (digits.drop width ++ []) := by
    obtain ⟨c, rest, left⟩ : ∃ c rest, digits.drop width = c :: rest := by
      refine List.exists_cons_of_ne_nil ?_
      rw [← List.length_pos_iff, List.length_drop]
      omega
    have full : width - digits.length = 0 := by omega
    unfold positional
    rw [if_neg nonneg]
    simp only [show exponent.toNat + 1 = width from rfl, left, full, List.replicate_zero,
      List.append_nil]
  have places : (0 : Int) - (digits.drop width).length = exponent + 1 - digits.length := by
    rw [List.length_drop]
    omega
  rw [← text, List.take_append_drop, places] at read
  exact ⟨_, _, read, rfl⟩

include isDigits nonempty in
/-- **With its point in place** a row of digits keeps its value. -/
theorem writes_positional (showsFraction : Bool) (exponent : Int) :
    Writes (positional showsFraction digits exponent)
      (⟨Nat.ofDigitChars 10 digits 0, exponent + 1 - digits.length⟩ : Decimal).value := by
  by_cases negative : exponent < 0
  · exact writes_small isDigits negative showsFraction
  rcases Nat.lt_or_ge (exponent.toNat + 1) digits.length with long | short
  · exact writes_parts isDigits negative long showsFraction
  · exact writes_whole isDigits nonempty negative short showsFraction

end notations

/-- The exponent of a number in scientific notation is read back. -/
theorem exponent?_scientific (width : Nat) (exponent : Int) :
    exponent? ('e' :: (if exponent < 0 then '-' else '+') ::
      (List.replicate (width - (Nat.toDigits 10 exponent.natAbs).length) '0' ++
        Nat.toDigits 10 exponent.natAbs)) = some exponent := by
  have row : Digits (List.replicate (width - (Nat.toDigits 10 exponent.natAbs).length) '0' ++
      Nat.toDigits 10 exponent.natAbs) :=
    digits_append (digits_replicate _) (digits_toDigits _)
  have nonempty : List.replicate (width - (Nat.toDigits 10 exponent.natAbs).length) '0' ++
      Nat.toDigits 10 exponent.natAbs ≠ [] := by
    simp [Nat.toDigits_ne_nil]
  have read := exponent?_row row nonempty (decide (exponent < 0))
  rw [ofDigitChars_zeros_append, Nat.ofDigitChars_ten_toDigits] at read
  simp only [decide_eq_true_eq] at read
  rw [read]
  congr 1
  split <;> omega

/-- **In scientific notation** a row of digits keeps its value. -/
theorem writes_scientific {digits : List Char} (isDigits : Digits digits)
    (nonempty : digits ≠ []) (width : Nat) (exponent : Int) :
    Writes (scientific width digits exponent)
      (⟨Nat.ofDigitChars 10 digits 0, exponent + 1 - digits.length⟩ : Decimal).value := by
  intro neg
  have power := exponent?_scientific width exponent
  let tail := 'e' :: (if exponent < 0 then '-' else '+') ::
    (List.replicate (width - (Nat.toDigits 10 exponent.natAbs).length) '0' ++
      Nat.toDigits 10 exponent.natAbs)
  have stops : Stops tail := stops_cons (by decide) (by decide)
  -- A single digit stands without a point.
  match digits, nonempty with
  | [lead], _ =>
    have read := unsigned?_of_whole isDigits (List.cons_ne_nil _ _) stops (by simp [tail]) power neg
    refine ⟨_, _, read, ?_⟩
    congr 2
    simp only [List.length_singleton]
    omega
  | lead :: second :: more, _ =>
    have whole : Digits [lead] := fun c member =>
      isDigits c (List.mem_singleton.1 member ▸ List.mem_cons_self ..)
    have part : Digits (second :: more) := fun c member =>
      isDigits c (List.mem_cons_of_mem _ member)
    have read := unsigned?_of_point whole (List.cons_ne_nil _ _) part stops power neg
    refine ⟨_, _, read, ?_⟩
    congr 2
    simp only [List.length_cons]
    omega

/-- **The text of a decimal writes its value**, whatever the layout. -/
theorem writes_render (layout : Layout) (d : Decimal) : Writes (d.render layout) d.value := by
  have isDigits : Digits d.digits := digits_toDigits d.coefficient
  have nonempty : d.digits ≠ [] := Nat.toDigits_ne_nil
  have coefficient : Nat.ofDigitChars 10 d.digits 0 = d.coefficient :=
    Nat.ofDigitChars_ten_toDigits
  have exponent : d.leadingExponent + 1 - d.digits.length = d.exponent := by
    unfold leadingExponent
    omega
  unfold render
  dsimp only
  split
  · have writes := writes_positional isDigits nonempty layout.showsFraction d.leadingExponent
    rwa [coefficient, exponent] at writes
  · have writes := writes_scientific isDigits nonempty layout.exponentWidth d.leadingExponent
    rwa [coefficient, exponent] at writes

end Decimal

/-! ## §4. Doubles -/

namespace Double

open Numeral

theorem sign_of_unsigned? {cs : List Char} {n : Numeral} (h : unsigned? false cs = some n) :
    sign cs = (false, cs) := by
  unfold sign
  split
  · exact nomatch h
  · exact nomatch h
  · rfl

/-- A text with a sign stands for the value that it writes, rounded once. -/
theorem parse?_signedText {cs : List Char} {d : Decimal} (h : Writes cs d.value) (neg : Bool) :
    parse? (signedText neg cs) = some (ofDecimal neg d.coefficient d.exponent) := by
  -- Coefficient and exponent need not be those of `d`; the value is.
  obtain ⟨c, e, read, same⟩ := h neg
  obtain ⟨_, _, unsigned, -⟩ := h false
  have signed : sign (signedText neg cs) = (neg, cs) := by
    cases neg with
    | false => exact sign_of_unsigned? unsigned
    | true => rfl
  have literal : Literal.parse? (signedText neg cs) = some (.numeral ⟨neg, c, e⟩) := by
    unfold Literal.parse?
    simp only [signed, read]
  unfold parse?
  rw [literal, ← ofDecimal_congr same neg]
  rfl

theorem parse?_toDigits (neg : Bool) (m : Nat) :
    parse? (signedText neg (Nat.toDigits 10 m)) = some (ofDecimal neg m 0) := by
  refine parse?_signedText (d := ⟨m, 0⟩) (fun neg => ⟨m, 0, ?_, rfl⟩) neg
  have read := unsigned?_of_whole (Text.digits_toDigits m) Nat.toDigits_ne_nil stops_nil
    (by simp) rfl neg
  rwa [List.append_nil, Nat.ofDigitChars_ten_toDigits] at read

/-- **A double is read back in every layout** in which digits are written that read back. -/
theorem parse?_render {neg : Bool} {units : Nat} {fits : Representable units} (layout : Layout)
    {choose : Nat → Decimal}
    (h : ofDecimal neg (choose units).coefficient (choose units).exponent =
      finite neg units fits) :
    parse? ((finite neg units fits).render layout choose) = some (finite neg units fits) := by
  unfold render
  rw [parse?_signedText (Decimal.writes_render layout (choose units)) neg, h]

/-- **A finite double is read back from its usual text**. -/
theorem parse?_text {x : Double} (h : x.isFinite = true) : parse? x.text.toList = some x := by
  cases x with
  | nan => exact nomatch h
  | infinity => exact nomatch h
  | finite neg units fits =>
    unfold text
    rw [String.toList_ofList]
    exact parse?_render Layout.usual (ofDecimal_shortest fits neg)

end Double

end LineCalc
