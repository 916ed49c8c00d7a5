/-
LiteralGrammar — which texts are decimal literals, and of which number.

A decimal literal is made up of a sign, a mantissa and a power.  The mantissa
has digits on at least one side of an optional point, and the digits may come
from any script and be joined by single underscores.  The grammar says so
without reading from left to right, and gives every literal its exact number.

The readers of the parts are then compared with the grammar, in both
directions: what has the form of a part is read up to its end, and what is read
has the form of a part.

## Main definitions

  * `Numeral.Row`, `Numeral.Signs`, `Numeral.Mantissa`, `Numeral.Power` — the
    parts of a literal.
  * `Numeral.IsDecimal` — a decimal literal and its number.

## Main statements

  * `Numeral.IsDecimal.parse?` — a decimal literal is read as its number.
  * `Numeral.isDecimal_of_parse?` — what is read as a number is a decimal
    literal of it.
-/

import LineCalc.Proofs.Double.Literal
import LineCalc.Proofs.Double.Nearest
import LineCalc.Proofs.Double.Written
import Mathlib.Data.Nat.Digits.Defs

namespace LineCalc

namespace Numeral

open Text

/-! ## §1. The grammar -/

/-- **Row**: digits of any script, one behind the other or joined by a single underscore. -/
inductive Row : List Char → List Nat → Prop where
  | last {c : Char} {d : Nat} : digitValue? c = some d → Row [c] [d]
  | next {c : Char} {d : Nat} {cs : List Char} {ds : List Nat} :
      digitValue? c = some d → Row cs ds → Row (c :: cs) (d :: ds)
  | joined {c : Char} {d : Nat} {cs : List Char} {ds : List Nat} :
      digitValue? c = some d → Row cs ds → Row (c :: '_' :: cs) (d :: ds)

/-- **Sign**, if there is one; `true` for minus. -/
inductive Signs : List Char → Bool → Prop where
  | absent : Signs [] false
  | plus : Signs ['+'] false
  | minus : Signs ['-'] true

/-- **Mantissa**: the digits before and behind a point, or without one. -/
inductive Mantissa : List Char → List Nat → List Nat → Prop where
  | whole {cs : List Char} {ds : List Nat} : Row cs ds → Mantissa cs ds []
  | closed {cs : List Char} {ds : List Nat} : Row cs ds → Mantissa (cs ++ ['.']) ds []
  | parts {cs cs' : List Char} {ds ds' : List Nat} : Row cs ds → Row cs' ds' →
      Mantissa (cs ++ '.' :: cs') ds ds'
  | part {cs : List Char} {ds : List Nat} : Row cs ds → Mantissa ('.' :: cs) [] ds

def number (ds : List Nat) : Nat := Nat.ofDigits 10 ds.reverse

/-- **Power**: the exponent of ten behind a letter, if there is one. -/
inductive Power : List Char → Int → Prop where
  | absent : Power [] 0
  | power {letter : Char} {sign row : List Char} {neg : Bool} {ds : List Nat} :
      letter = 'e' ∨ letter = 'E' → Signs sign neg → Row row ds →
      Power (letter :: (sign ++ row)) (if neg then -(number ds : Int) else number ds)

/-- **Decimal literal** of the number `q`, with its sign. -/
inductive IsDecimal : List Char → Bool → ℚ → Prop where
  | literal {sign mantissa power : List Char} {neg : Bool} {whole part : List Nat} {e : Int} :
      Signs sign neg → Mantissa mantissa whole part → Power power e →
      IsDecimal (sign ++ (mantissa ++ power)) neg
        (signed neg ((number whole + number part / 10 ^ part.length) * 10 ^ e))

/-! ## §2. Numbers -/

theorem number_cons (d : Nat) (ds : List Nat) :
    number (d :: ds) = d * 10 ^ ds.length + number ds := by
  unfold number
  rw [List.reverse_cons, Nat.ofDigits_append, Nat.ofDigits_singleton, List.length_reverse]
  ring

theorem number_append (ds ds' : List Nat) :
    number (ds ++ ds') = number ds * 10 ^ ds'.length + number ds' := by
  unfold number
  rw [List.reverse_append, Nat.ofDigits_append, List.length_reverse]
  ring

theorem foldl_eq_number (ds : List Nat) (n : Nat) :
    ds.foldl (fun n d => 10 * n + d) n = n * 10 ^ ds.length + number ds := by
  induction ds generalizing n with
  | nil => simp [number]
  | cons d ds ih =>
    rw [List.foldl_cons, ih, number_cons, List.length_cons]
    ring

theorem rowValue_eq_number (ds : List Nat) : rowValue ds = number ds := by
  unfold rowValue
  rw [foldl_eq_number, Nat.zero_mul, Nat.zero_add]

/-- Digits behind the point count less by the number of their places. -/
theorem value_of_parts (whole part : List Nat) (e : Int) :
    (⟨rowValue (whole ++ part), e - part.length⟩ : Decimal).value =
      (number whole + number part / 10 ^ part.length) * 10 ^ e := by
  have ten : (10 : ℚ) ≠ 0 := by norm_num
  unfold Decimal.value
  rw [rowValue_eq_number, number_append, zpow_sub₀ ten, zpow_natCast]
  push_cast
  field_simp

/-! ## §3. Literals are read -/

section reads

variable {c : Char} {d : Nat} {cs rest : List Char} {ds : List Nat}

theorem ne_of_digitValue? {other : Char} (digit : digitValue? c = some d)
    (none : digitValue? other = none) : c ≠ other := by
  intro same
  rw [same, none] at digit
  exact nomatch digit

theorem moreDigits_digit (digit : digitValue? c = some d) (rest : List Char) :
    moreDigits (c :: rest) = (d :: (moreDigits rest).1, (moreDigits rest).2) := by
  rw [moreDigits_cons (ne_of_digitValue? digit (by decide)), digit]

theorem moreDigits_joined (digit : digitValue? c = some d) (rest : List Char) :
    moreDigits ('_' :: c :: rest) = (d :: (moreDigits rest).1, (moreDigits rest).2) := by
  rw [moreDigits, digit]

theorem digitRow_digit (digit : digitValue? c = some d) (rest : List Char) :
    digitRow (c :: rest) = (d :: (moreDigits rest).1, (moreDigits rest).2) := by
  rw [digitRow, digit]

theorem moreDigits_of_stops (stops : Stops rest) : moreDigits rest = ([], rest) := by
  have none : Digits [] := fun _ member => nomatch member
  exact moreDigits_append none stops

theorem digitRow_of_stops (stops : Stops rest) : digitRow rest = ([], rest) := by
  have none : Digits [] := fun _ member => nomatch member
  exact digitRow_append none stops

/-- Behind a digit a row is read up to its end, with an underscore before it or without one. -/
theorem Row.moreDigits_append (row : Row cs ds) (stops : Stops rest) :
    moreDigits (cs ++ rest) = (ds, rest) ∧ moreDigits ('_' :: (cs ++ rest)) = (ds, rest) := by
  induction row with
  | last digit =>
    rw [List.singleton_append, moreDigits_digit digit, moreDigits_joined digit,
      moreDigits_of_stops stops]
    exact ⟨rfl, rfl⟩
  | next digit _ ih =>
    rw [List.cons_append, moreDigits_digit digit, moreDigits_joined digit, ih.1]
    exact ⟨rfl, rfl⟩
  | joined digit _ ih =>
    rw [List.cons_append, List.cons_append, moreDigits_digit digit, moreDigits_joined digit, ih.2]
    exact ⟨rfl, rfl⟩

/-- **A row is read** up to its end. -/
theorem Row.digitRow_append (row : Row cs ds) (stops : Stops rest) :
    digitRow (cs ++ rest) = (ds, rest) := by
  cases row with
  | last digit =>
    rw [List.singleton_append, digitRow_digit digit, moreDigits_of_stops stops]
  | next digit more =>
    rw [List.cons_append, digitRow_digit digit, (more.moreDigits_append stops).1]
  | joined digit more =>
    rw [List.cons_append, List.cons_append, digitRow_digit digit,
      (more.moreDigits_append stops).2]

theorem Row.exists_eq_cons (row : Row cs ds) :
    (∃ c d more, cs = c :: more ∧ digitValue? c = some d) ∧ ds ≠ [] := by
  cases row with
  | last digit => exact ⟨⟨_, _, _, rfl, digit⟩, List.cons_ne_nil _ _⟩
  | next digit => exact ⟨⟨_, _, _, rfl, digit⟩, List.cons_ne_nil _ _⟩
  | joined digit => exact ⟨⟨_, _, _, rfl, digit⟩, List.cons_ne_nil _ _⟩

variable {sign mantissa power : List Char} {neg : Bool} {whole part : List Nat} {e : Int}

/-- **A sign is read** if none follows it. -/
theorem Signs.sign_append (signs : Signs sign neg)
    (unsigned : ∀ more, rest ≠ '-' :: more ∧ rest ≠ '+' :: more) :
    Numeral.sign (sign ++ rest) = (neg, rest) := by
  cases signs with
  | absent =>
    rw [List.nil_append]
    unfold Numeral.sign
    split
    · next more => exact absurd rfl (unsigned more).1
    · next more => exact absurd rfl (unsigned more).2
    · rfl
  | plus => rfl
  | minus => rfl

theorem Row.unsigned (row : Row cs ds) (rest more : List Char) :
    cs ++ rest ≠ '-' :: more ∧ cs ++ rest ≠ '+' :: more := by
  obtain ⟨⟨c, d, tail, rfl, digit⟩, -⟩ := row.exists_eq_cons
  constructor
  · intro same
    exact ne_of_digitValue? digit (by decide) (List.cons.inj same).1
  · intro same
    exact ne_of_digitValue? digit (by decide) (List.cons.inj same).1

/-- **A power is read**. -/
theorem Power.exponent?_eq (power : Power cs e) : exponent? cs = some e := by
  cases power with
  | absent => rfl
  | @power letter sign row neg ds mark signs digits =>
    have noSign := digits.unsigned []
    have read := digits.digitRow_append stops_nil
    rw [List.append_nil] at noSign read
    obtain ⟨d, more, rfl⟩ := List.exists_cons_of_ne_nil digits.exists_eq_cons.2
    unfold exponent?
    simp only [mark, if_true, signs.sign_append noSign, read, rowValue_eq_number]

theorem Power.stops (power : Power cs e) : Stops cs := by
  cases power with
  | absent => exact stops_nil
  | power mark =>
    rcases mark with rfl | rfl
    · exact stops_cons (by decide) (by decide)
    · exact stops_cons (by decide) (by decide)

theorem Power.fraction_eq (power : Power cs e) : fraction cs = ([], cs) := by
  cases power with
  | absent => rfl
  | power mark =>
    rcases mark with rfl | rfl
    · rfl
    · rfl

/-- **A mantissa and a power are read** as the numeral of their digits. -/
theorem Mantissa.unsigned?_append (form : Mantissa mantissa whole part) (tail : Power power e)
    (neg : Bool) : unsigned? neg (mantissa ++ power) =
      some ⟨neg, rowValue (whole ++ part), e - part.length⟩ := by
  have point (more : List Char) : Stops ('.' :: more) := stops_cons (by decide) (by decide)
  unfold unsigned?
  -- In each form the row of digits ends where a point or the power begins.
  cases form with
  | whole row =>
    have nonempty := row.exists_eq_cons.2
    simp [row.digitRow_append tail.stops, tail.fraction_eq, tail.exponent?_eq, nonempty]
  | closed row =>
    have nonempty := row.exists_eq_cons.2
    have behind : fraction ('.' :: power) = ([], power) := digitRow_of_stops tail.stops
    rw [List.append_assoc, List.singleton_append]
    simp [row.digitRow_append (point power), behind, tail.exponent?_eq, nonempty]
  | @parts cs cs' ds ds' row row' =>
    have nonempty := row.exists_eq_cons.2
    have behind : fraction ('.' :: (cs' ++ power)) = (part, power) :=
      row'.digitRow_append tail.stops
    rw [List.append_assoc, List.cons_append]
    simp [row.digitRow_append (point _), behind, tail.exponent?_eq, nonempty]
  | @part cs ds row =>
    have nonempty := row.exists_eq_cons.2
    have behind : fraction ('.' :: (cs ++ power)) = (part, power) :=
      row.digitRow_append tail.stops
    rw [List.cons_append, digitRow_of_stops (point _)]
    simp [behind, tail.exponent?_eq, nonempty]

theorem Mantissa.unsigned (form : Mantissa mantissa whole part) (rest more : List Char) :
    mantissa ++ rest ≠ '-' :: more ∧ mantissa ++ rest ≠ '+' :: more := by
  cases form with
  | whole row => exact row.unsigned rest more
  | closed row =>
    rw [List.append_assoc]
    exact row.unsigned _ more
  | parts row =>
    rw [List.append_assoc]
    exact row.unsigned _ more
  | part => simp

/-- **A decimal literal is read** as a numeral of its number. -/
theorem IsDecimal.parse? {q : ℚ} (h : IsDecimal cs neg q) :
    ∃ c e, Literal.parse? cs = some (.numeral ⟨neg, c, e⟩) ∧
      q = signed neg (⟨c, e⟩ : Decimal).value := by
  cases h with
  | @literal sign mantissa power neg whole part e signs form tail =>
    refine ⟨_, _, ?_, congrArg (signed neg) (value_of_parts whole part e).symm⟩
    unfold Literal.parse?
    rw [signs.sign_append (form.unsigned power)]
    simp only [form.unsigned?_append tail]

end reads

/-! ## §4. What is read is a literal -/

section read

variable {c : Char} {d : Nat} {neg : Bool}

theorem row_of_moreDigits (digit : digitValue? c = some d) (cs : List Char) :
    ∃ taken, Row taken (d :: (moreDigits cs).1) ∧ c :: cs = taken ++ (moreDigits cs).2 := by
  fun_induction moreDigits cs generalizing c d with
  | case1 => exact ⟨[c], .last digit, rfl⟩
  | case2 c' rest d' digit' ds left more ih =>
    obtain ⟨taken, row, parts⟩ := ih digit'
    rw [more] at row parts
    refine ⟨c :: '_' :: taken, .joined digit row, ?_⟩
    rw [parts]
    rfl
  | case3 c' rest none => exact ⟨[c], .last digit, rfl⟩
  | case4 c' rest other d' digit' ds left more ih =>
    obtain ⟨taken, row, parts⟩ := ih digit'
    rw [more] at row parts
    refine ⟨c :: taken, .next digit row, ?_⟩
    rw [parts]
    rfl
  | case5 c' rest other none => exact ⟨[c], .last digit, rfl⟩

/-- **What is read as a row** is one, or nothing is. -/
theorem row_of_digitRow (cs : List Char) :
    ((digitRow cs).1 = [] ∧ (digitRow cs).2 = cs) ∨
      ∃ taken, Row taken (digitRow cs).1 ∧ cs = taken ++ (digitRow cs).2 := by
  cases cs with
  | nil => exact .inl ⟨rfl, rfl⟩
  | cons c rest =>
    cases digit : digitValue? c with
    | none =>
      rw [digitRow, digit]
      exact .inl ⟨rfl, rfl⟩
    | some d =>
      rw [digitRow_digit digit]
      exact .inr (row_of_moreDigits digit rest)

/-- **What is read as a sign** is one. -/
theorem signs_of_sign (cs : List Char) :
    ∃ taken, Signs taken (sign cs).1 ∧ cs = taken ++ (sign cs).2 := by
  fun_cases sign cs with
  | case1 rest => exact ⟨['-'], .minus, rfl⟩
  | case2 rest => exact ⟨['+'], .plus, rfl⟩
  | case3 => exact ⟨[], .absent, rfl⟩

/-- **What is read as an exponent** is a power. -/
theorem power_of_exponent? {cs : List Char} {e : Int} (h : exponent? cs = some e) :
    Power cs e := by
  cases cs with
  | nil =>
    rw [← Option.some.inj h]
    exact .absent
  | cons letter rest =>
    rw [exponent?] at h
    split at h
    · next mark =>
      obtain ⟨taken, signs, parts⟩ := signs_of_sign rest
      have rows := row_of_digitRow (sign rest).2
      dsimp only at h
      split at h
      -- A letter without digits behind it is no exponent.
      · next d ds read =>
        rw [read] at rows
        rcases rows with ⟨empty, -⟩ | ⟨row, digits, row'⟩
        · exact absurd empty (List.cons_ne_nil d ds)
        · rw [List.append_nil] at row'
          rw [parts, row', ← Option.some.inj h, rowValue_eq_number]
          exact .power mark signs digits
      · simp at h
    · simp at h

/-- **What is read without a sign** is a mantissa and a power. -/
theorem mantissa_of_unsigned? {cs : List Char} {n : Numeral} (h : unsigned? neg cs = some n) :
    ∃ mantissa power whole part e, cs = mantissa ++ power ∧ Mantissa mantissa whole part ∧
      Power power e ∧ n = ⟨neg, rowValue (whole ++ part), e - part.length⟩ := by
  have wholes := row_of_digitRow cs
  unfold unsigned? at h
  rcases digits : digitRow cs with ⟨whole, rest⟩
  rw [digits] at wholes
  rcases digits' : fraction rest with ⟨part, power⟩
  simp only [digits, digits'] at h
  split at h
  · exact nomatch h
  · next some =>
    obtain ⟨e, exponent, same⟩ := Option.map_eq_some_iff.1 h
    have tail := power_of_exponent? exponent
    -- The mantissa is what stands before the power; its form depends on the point.
    suffices form : ∃ mantissa, cs = mantissa ++ power ∧ Mantissa mantissa whole part by
      obtain ⟨mantissa, parts, form⟩ := form
      exact ⟨mantissa, power, whole, part, e, parts, form, tail, same.symm⟩
    unfold fraction at digits'
    split at digits'
    · next behind =>
      have parts := row_of_digitRow behind
      rw [digits'] at parts
      rcases wholes with ⟨rfl, rfl⟩ | ⟨taken, row, rfl⟩
      · rcases parts with ⟨rfl, -⟩ | ⟨taken', row', rfl⟩
        · exact absurd rfl some
        · exact ⟨'.' :: taken', rfl, .part row'⟩
      · rcases parts with ⟨rfl, rfl⟩ | ⟨taken', row', rfl⟩
        · exact ⟨taken ++ ['.'], by simp, .closed row⟩
        · exact ⟨taken ++ '.' :: taken', by simp, .parts row row'⟩
    · obtain ⟨rfl, rfl⟩ := Prod.mk.inj digits'
      rcases wholes with ⟨rfl, -⟩ | ⟨taken, row, rfl⟩
      · exact absurd rfl some
      · exact ⟨taken, rfl, .whole row⟩

/-- **What is read as a numeral** is a decimal literal of its number. -/
theorem isDecimal_of_parse? {cs : List Char} {n : Numeral}
    (h : Literal.parse? cs = some (.numeral n)) :
    IsDecimal cs n.neg (signed n.neg (⟨n.coefficient, n.exponent⟩ : Decimal).value) := by
  obtain ⟨taken, signs, parts⟩ := signs_of_sign cs
  unfold Literal.parse? at h
  rcases split : sign cs with ⟨neg, body⟩
  rw [split] at signs parts h
  dsimp only at signs parts h
  split at h
  · next m read =>
    obtain ⟨mantissa, power, whole, part, e, rfl, form, tail, rfl⟩ := mantissa_of_unsigned? read
    rw [← Literal.numeral.inj (Option.some.inj h), value_of_parts, parts]
    exact .literal signs form tail
  · next none =>
    -- Words are no numerals.
    unfold Literal.word? at h
    dsimp only at h
    split at h
    · exact nomatch h
    · split at h
      · exact nomatch h
      · exact nomatch h

end read

end Numeral

end LineCalc
