/-
Numerals — the numbers of JSON texts.

A numeral has a whole part without idle zeros in front, perhaps a fraction
and perhaps a power of ten, and a minus sign in front if it is negative.
The calculator writes its finite doubles as numerals.

## Main definitions

  * `Json.Whole`, `Json.Fraction`, `Json.Power` — the parts of a numeral.
  * `Json.IsNumeral` — a text that is a numeral.
  * `Json.isNumeral` — the test for numerals.

## Main statements

  * `Json.isNumeral_iff` — exactly the numerals pass the test.
  * `Json.isNumeral_render` — finite doubles are written as numerals.
-/

import LineCalc.Outcome.Json
import LineCalc.Proofs.Double.Written

namespace LineCalc

namespace Json

open Text

/-! ## §1. Numerals -/

/-- **Row**: one digit or more. -/
def Row (cs : List Char) : Prop := cs ≠ [] ∧ Digits cs

/-- **Whole part**: a zero alone, or digits of which the first is none. -/
inductive Whole : List Char → Prop where
  | zero : Whole ['0']
  | row {lead : Char} {more : List Char} : lead.isDigit = true → lead ≠ '0' → Digits more →
      Whole (lead :: more)

/-- **Fraction**: digits behind a point, if there are any. -/
inductive Fraction : List Char → Prop where
  | absent : Fraction []
  | point {row : List Char} : Row row → Fraction ('.' :: row)

/-- **Power** of ten: a letter, perhaps a sign, and digits, if there is any. -/
inductive Power : List Char → Prop where
  | absent : Power []
  | power {letter : Char} {sign row : List Char} : letter = 'e' ∨ letter = 'E' →
      sign = [] ∨ sign = ['+'] ∨ sign = ['-'] → Row row → Power (letter :: (sign ++ row))

/-- **Magnitude**: a numeral without a sign. -/
inductive Magnitude : List Char → Prop where
  | parts {whole fraction power : List Char} : Whole whole → Fraction fraction → Power power →
      Magnitude (whole ++ (fraction ++ power))

/-- **Numeral** of a JSON text. -/
inductive IsNumeral : List Char → Prop where
  | positive {cs : List Char} : Magnitude cs → IsNumeral cs
  | negative {cs : List Char} : Magnitude cs → IsNumeral ('-' :: cs)

theorem ne_of_isDigit {c d : Char} (digit : c.isDigit = true) (other : d.isDigit = false) :
    c ≠ d := by
  rintro rfl
  exact nomatch digit.symm.trans other

theorem Whole.exists_eq_cons {whole : List Char} (h : Whole whole) :
    ∃ lead more, whole = lead :: more ∧ lead.isDigit = true := by
  cases h with
  | zero => exact ⟨'0', [], rfl, rfl⟩
  | row digit => exact ⟨_, _, rfl, digit⟩

theorem Whole.digits {whole : List Char} (h : Whole whole) : Digits whole := by
  cases h with
  | zero => exact digits_replicate 1
  | row digit _ more => exact List.forall_mem_cons.2 ⟨digit, more⟩

theorem IsNumeral.exists_eq_cons {cs : List Char} (h : IsNumeral cs) :
    ∃ c rest, cs = c :: rest ∧ (c = '-' ∨ c.isDigit = true) := by
  cases h with
  | positive magnitude =>
    obtain ⟨isWhole, -, -⟩ := magnitude
    obtain ⟨lead, more, rfl, digit⟩ := isWhole.exists_eq_cons
    exact ⟨lead, _, rfl, .inr digit⟩
  | negative => exact ⟨'-', _, rfl, .inl rfl⟩

/-! ## §2. The test -/

def afterRow? : List Char → Option (List Char)
  | [] => none
  | c :: rest => if c.isDigit then some (rest.dropWhile Char.isDigit) else none

/-- The text after a minus sign, if one stands here. -/
def afterMinus : List Char → List Char
  | '-' :: rest => rest
  | cs => cs

def afterWhole? : List Char → Option (List Char)
  | '0' :: rest => some rest
  | cs => afterRow? cs

def afterFraction? : List Char → Option (List Char)
  | '.' :: rest => afterRow? rest
  | cs => some cs

/-- The text after a sign, if one stands here. -/
def afterSign : List Char → List Char
  | '+' :: rest => rest
  | '-' :: rest => rest
  | cs => cs

def afterPower? : List Char → Option (List Char)
  | [] => some []
  | c :: rest => if c = 'e' ∨ c = 'E' then afterRow? (afterSign rest) else some (c :: rest)

/-- **The test for numerals**: the parts of a numeral make up the text. -/
def isNumeral (cs : List Char) : Bool :=
  ((afterWhole? (afterMinus cs)).bind afterFraction?).bind afterPower? == some []

/-- A text that does not carry on a row of digits. -/
def Ends (cs : List Char) : Prop := ∀ c, cs.head? = some c → c.isDigit = false

theorem dropWhile_append_of_head {p : Char → Bool} {cs rest : List Char}
    (inside : ∀ c ∈ cs, p c = true) (ends : ∀ c, rest.head? = some c → p c = false) :
    (cs ++ rest).dropWhile p = rest := by
  rw [List.dropWhile_append_of_pos inside]
  cases rest with
  | nil => rfl
  | cons c rest => exact List.dropWhile_cons_of_neg (by simp [ends c rfl])

theorem afterRow?_append {row rest : List Char} (isRow : Row row) (ends : Ends rest) :
    afterRow? (row ++ rest) = some rest := by
  obtain ⟨nonempty, digits⟩ := isRow
  obtain ⟨c, more, rfl⟩ := List.exists_cons_of_ne_nil nonempty
  obtain ⟨first, others⟩ := List.forall_mem_cons.1 digits
  simp only [List.cons_append, afterRow?, first, if_true, dropWhile_append_of_head others ends]

theorem exists_row {cs rest : List Char} (h : afterRow? cs = some rest) :
    ∃ row, Row row ∧ cs = row ++ rest := by
  unfold afterRow? at h
  split at h
  · exact nomatch h
  next c more =>
  split at h
  · next first =>
    obtain rfl := Option.some.inj h
    refine ⟨c :: more.takeWhile Char.isDigit, ⟨List.cons_ne_nil _ _, ?_⟩, ?_⟩
    · exact List.forall_mem_cons.2 ⟨first, List.all_eq_true.1 List.all_takeWhile⟩
    · rw [List.cons_append, List.takeWhile_append_dropWhile]
  · exact nomatch h

/-- A power of ten does not carry on a row of digits, and has no point in front. -/
theorem Power.ends {power : List Char} (h : Power power) :
    Ends power ∧ power.head? ≠ some '.' := by
  cases h with
  | absent =>
    constructor
    · intro c first
      exact nomatch first
    · intro first
      exact nomatch first
  | @power letter sign row letters =>
    constructor
    · intro c first
      obtain rfl := Option.some.inj first
      rcases letters with rfl | rfl <;> rfl
    · intro first
      obtain rfl := Option.some.inj first
      exact absurd letters (by decide)

/-- A fraction and a power of ten do not carry on a row of digits. -/
theorem Fraction.ends {fraction power : List Char} (h : Fraction fraction) (isPower : Power power) :
    Ends (fraction ++ power) := by
  cases h with
  | absent => exact isPower.ends.1
  | point =>
    intro c first
    obtain rfl := Option.some.inj first
    rfl

theorem afterSign_append {sign row : List Char} (signs : sign = [] ∨ sign = ['+'] ∨ sign = ['-'])
    (isRow : Row row) : afterSign (sign ++ row) = row := by
  rcases signs with rfl | rfl | rfl
  · obtain ⟨nonempty, digits⟩ := isRow
    obtain ⟨c, more, rfl⟩ := List.exists_cons_of_ne_nil nonempty
    have first : c.isDigit = true := digits c (List.mem_cons_self ..)
    unfold afterSign
    split
    · next same => exact absurd (List.cons.inj same).1 (ne_of_isDigit first rfl)
    · next same => exact absurd (List.cons.inj same).1 (ne_of_isDigit first rfl)
    · rfl
  · rfl
  · rfl

theorem afterPower?_power {power : List Char} (h : Power power) : afterPower? power = some [] := by
  cases h with
  | absent => rfl
  | @power letter sign row letters signs isRow =>
    have none : Ends [] := fun _ first => nomatch first
    have passed := afterRow?_append isRow none
    rw [List.append_nil] at passed
    simp only [afterPower?, letters, if_true, afterSign_append signs isRow, passed]

theorem afterFraction?_append {fraction power : List Char} (h : Fraction fraction)
    (isPower : Power power) : afterFraction? (fraction ++ power) = some power := by
  cases h with
  | absent =>
    rw [List.nil_append]
    unfold afterFraction?
    split
    · exact absurd rfl isPower.ends.2
    · rfl
  | point isRow => exact afterRow?_append isRow isPower.ends.1

theorem afterWhole?_append {whole rest : List Char} (h : Whole whole) (ends : Ends rest) :
    afterWhole? (whole ++ rest) = some rest := by
  cases h with
  | zero => rfl
  | @row lead more digit other digits =>
    have row : Row (lead :: more) :=
      ⟨List.cons_ne_nil _ _, List.forall_mem_cons.2 ⟨digit, digits⟩⟩
    unfold afterWhole?
    split
    · next same => exact absurd (List.cons.inj same).1 other
    · exact afterRow?_append row ends

theorem Magnitude.passed {cs : List Char} (h : Magnitude cs) :
    ((afterWhole? cs).bind afterFraction?).bind afterPower? = some [] := by
  obtain ⟨isWhole, isFraction, isPower⟩ := h
  rw [afterWhole?_append isWhole (isFraction.ends isPower), Option.bind_some,
    afterFraction?_append isFraction isPower, Option.bind_some, afterPower?_power isPower]

theorem Magnitude.afterMinus_eq {cs : List Char} (h : Magnitude cs) : afterMinus cs = cs := by
  obtain ⟨isWhole, -, -⟩ := h
  obtain ⟨lead, more, rfl, digit⟩ := isWhole.exists_eq_cons
  unfold afterMinus
  split
  · next same => exact absurd (List.cons.inj same).1 (ne_of_isDigit digit rfl)
  · rfl

theorem exists_whole {cs rest : List Char} (h : afterWhole? cs = some rest) :
    ∃ whole, Whole whole ∧ cs = whole ++ rest := by
  unfold afterWhole? at h
  split at h
  · obtain rfl := Option.some.inj h
    exact ⟨['0'], .zero, rfl⟩
  · next other =>
    obtain ⟨row, ⟨nonempty, digits⟩, rfl⟩ := exists_row h
    obtain ⟨lead, more, rfl⟩ := List.exists_cons_of_ne_nil nonempty
    obtain ⟨first, others⟩ := List.forall_mem_cons.1 digits
    refine ⟨lead :: more, .row first ?_ others, rfl⟩
    rintro rfl
    exact other _ rfl

theorem exists_fraction {cs rest : List Char} (h : afterFraction? cs = some rest) :
    ∃ fraction, Fraction fraction ∧ cs = fraction ++ rest := by
  unfold afterFraction? at h
  split at h
  · obtain ⟨row, isRow, rfl⟩ := exists_row h
    exact ⟨'.' :: row, .point isRow, rfl⟩
  · obtain rfl := Option.some.inj h
    exact ⟨[], .absent, rfl⟩

theorem exists_sign (cs : List Char) :
    ∃ sign, (sign = [] ∨ sign = ['+'] ∨ sign = ['-']) ∧ cs = sign ++ afterSign cs := by
  unfold afterSign
  split
  · exact ⟨['+'], .inr (.inl rfl), rfl⟩
  · exact ⟨['-'], .inr (.inr rfl), rfl⟩
  · exact ⟨[], .inl rfl, rfl⟩

theorem power_of_afterPower? {cs : List Char} (h : afterPower? cs = some []) : Power cs := by
  unfold afterPower? at h
  split at h
  · exact .absent
  next c rest =>
  split at h
  · next letters =>
    obtain ⟨sign, signs, parts⟩ := exists_sign rest
    obtain ⟨row, isRow, rest'⟩ := exists_row h
    rw [parts, rest', List.append_nil]
    exact .power letters signs isRow
  · exact nomatch h

theorem magnitude_of_passed {cs : List Char}
    (h : ((afterWhole? cs).bind afterFraction?).bind afterPower? = some []) : Magnitude cs := by
  obtain ⟨afterFraction, passed, last⟩ := Option.bind_eq_some_iff.1 h
  obtain ⟨afterWhole, first, second⟩ := Option.bind_eq_some_iff.1 passed
  obtain ⟨whole, isWhole, rfl⟩ := exists_whole first
  obtain ⟨fraction, isFraction, rfl⟩ := exists_fraction second
  exact .parts isWhole isFraction (power_of_afterPower? last)

/-- **Exactly the numerals pass the test**. -/
theorem isNumeral_iff {cs : List Char} : isNumeral cs = true ↔ IsNumeral cs := by
  unfold isNumeral
  rw [beq_iff_eq]
  constructor
  · -- A minus sign is passed over only where one stands.
    intro passed
    have magnitude := magnitude_of_passed passed
    unfold afterMinus at magnitude
    split at magnitude
    · exact .negative magnitude
    · exact .positive magnitude
  · intro numeral
    cases numeral with
    | positive magnitude =>
      rw [magnitude.afterMinus_eq]
      exact magnitude.passed
    | negative magnitude => exact magnitude.passed

/-! ## §3. Characters -/

def isNumeralChar (c : Char) : Bool := c.isDigit || ['-', '+', '.', 'e', 'E'].contains c

theorem isNumeralChar_of_digits {cs : List Char} (digits : Digits cs) :
    ∀ c ∈ cs, isNumeralChar c = true := by
  intro c member
  simp only [isNumeralChar, digits c member, Bool.true_or]

theorem Fraction.chars {fraction : List Char} (h : Fraction fraction) :
    ∀ c ∈ fraction, isNumeralChar c = true := by
  cases h with
  | absent => exact nofun
  | point isRow => exact List.forall_mem_cons.2 ⟨rfl, isNumeralChar_of_digits isRow.2⟩

theorem Power.chars {power : List Char} (h : Power power) :
    ∀ c ∈ power, isNumeralChar c = true := by
  cases h with
  | absent => exact nofun
  | power letters signs isRow =>
    have letter : ∀ c, c = 'e' ∨ c = 'E' → isNumeralChar c = true := by
      rintro c (rfl | rfl) <;> rfl
    have sign : ∀ cs, cs = [] ∨ cs = ['+'] ∨ cs = ['-'] → ∀ c ∈ cs, isNumeralChar c = true := by
      rintro cs (rfl | rfl | rfl)
      · exact nofun
      · exact List.forall_mem_cons.2 ⟨rfl, nofun⟩
      · exact List.forall_mem_cons.2 ⟨rfl, nofun⟩
    exact List.forall_mem_cons.2 ⟨letter _ letters,
      List.forall_mem_append.2 ⟨sign _ signs, isNumeralChar_of_digits isRow.2⟩⟩

theorem IsNumeral.chars {cs : List Char} (h : IsNumeral cs) :
    ∀ c ∈ cs, isNumeralChar c = true := by
  have magnitude : ∀ {cs : List Char}, Magnitude cs → ∀ c ∈ cs, isNumeralChar c = true := by
    rintro _ ⟨isWhole, isFraction, isPower⟩
    exact List.forall_mem_append.2 ⟨isNumeralChar_of_digits isWhole.digits,
      List.forall_mem_append.2 ⟨isFraction.chars, isPower.chars⟩⟩
  cases h with
  | positive isMagnitude => exact magnitude isMagnitude
  | negative isMagnitude => exact List.forall_mem_cons.2 ⟨rfl, magnitude isMagnitude⟩

/-! ## §4. The calculator's numerals -/

/-- The digits of a number other than nought do not start with a zero. -/
theorem exists_toDigits_eq_cons {n : Nat} (pos : n ≠ 0) :
    ∃ lead more, Nat.toDigits 10 n = lead :: more ∧ lead ≠ '0' := by
  induction n using Nat.strongRecOn with
  | ind n ih =>
    by_cases small : n < 10
    · have digits : ∀ d : Fin 10, d.val ≠ 0 → Nat.digitChar d ≠ '0' := by decide
      exact ⟨n.digitChar, [], Nat.toDigits_of_lt_base small, digits ⟨n, small⟩ pos⟩
    · -- The last digit is cut off.
      obtain ⟨lead, more, digits, other⟩ := ih (n / 10) (by omega) (by omega)
      refine ⟨lead, more ++ [(n % 10).digitChar], ?_, other⟩
      rw [Nat.toDigits_of_base_le (by decide) (Nat.le_of_not_lt small), digits, List.cons_append]

theorem coefficient_cutZeros_ne_zero {c : Nat} {e : Int} (pos : c ≠ 0) (places : Nat) :
    (Decimal.cutZeros c e places).coefficient ≠ 0 := by
  induction places generalizing c e with
  | zero => exact pos
  | succ places ih =>
    unfold Decimal.cutZeros
    split
    · apply ih
      omega
    · exact pos

/-- A normalized decimal is the plain nought, or another number than nought. -/
theorem normalized_cases (d : Decimal) :
    d.normalized = ⟨0, 0⟩ ∨ d.normalized.coefficient ≠ 0 := by
  unfold Decimal.normalized
  by_cases zero : d.coefficient = 0
  · rw [if_pos zero]
    exact .inl rfl
  · rw [if_neg zero]
    exact .inr (coefficient_cutZeros_ne_zero zero _)

section notations

variable {lead : Char} {more : List Char} (digits : Digits (lead :: more)) (other : lead ≠ '0')

include digits other in
theorem magnitude_positional (showsFraction : Bool) (exponent : Int) :
    Magnitude (Decimal.positional showsFraction (lead :: more) exponent) := by
  obtain ⟨first, others⟩ := List.forall_mem_cons.1 digits
  unfold Decimal.positional
  by_cases negative : exponent < 0
  · rw [if_pos negative]
    have row : Row (List.replicate (-exponent - 1).toNat '0' ++ lead :: more) :=
      ⟨by simp, digits_append (digits_replicate _) digits⟩
    simpa using Magnitude.parts .zero (.point row) .absent
  · rw [if_neg negative]
    let zeros := List.replicate (exponent.toNat + 1 - (lead :: more).length) '0'
    have whole : Whole (lead :: (more.take exponent.toNat ++ zeros)) :=
      .row first other (digits_append (fun c member => others c (List.mem_of_mem_take member))
        (digits_replicate _))
    dsimp only
    -- Digits that are left over stand behind the point.
    split
    · cases showsFraction with
      | true =>
        have row : Row ['0'] := ⟨List.cons_ne_nil _ _, digits_replicate 1⟩
        simpa [zeros] using Magnitude.parts whole (.point row) .absent
      | false => simpa [zeros] using Magnitude.parts whole .absent .absent
    · next left =>
      have row : Row ((lead :: more).drop (exponent.toNat + 1)) :=
        ⟨left, fun c member => digits c (List.mem_of_mem_drop member)⟩
      simpa [zeros] using Magnitude.parts whole (.point row) .absent

include digits other in
theorem magnitude_scientific (width : Nat) (exponent : Int) :
    Magnitude (Decimal.scientific width (lead :: more) exponent) := by
  obtain ⟨first, others⟩ := List.forall_mem_cons.1 digits
  let row := List.replicate (width - (Nat.toDigits 10 exponent.natAbs).length) '0' ++
    Nat.toDigits 10 exponent.natAbs
  have isRow : Row row :=
    ⟨by simp [row, Nat.toDigits_ne_nil], digits_append (digits_replicate _) (digits_toDigits _)⟩
  have power : Power ('e' :: ([if exponent < 0 then '-' else '+'] ++ row)) := by
    refine .power (.inl rfl) ?_ isRow
    by_cases negative : exponent < 0
    · exact .inr (.inr (by rw [if_pos negative]))
    · exact .inr (.inl (by rw [if_neg negative]))
  have whole : Whole [lead] := .row first other nofun
  unfold Decimal.scientific
  -- A single digit stands without a point.
  cases more with
  | nil => simpa [row] using Magnitude.parts whole .absent power
  | cons second more =>
    have part : Row (second :: more) := ⟨List.cons_ne_nil _ _, others⟩
    simpa [row] using Magnitude.parts whole (.point part) power

end notations

/-- A normalized decimal is a magnitude in the layout of numerals. -/
theorem magnitude_render (d : Decimal) : Magnitude (d.normalized.render layout) := by
  -- Nought has the one digit that may not stand in front of others.
  rcases normalized_cases d with zero | pos
  · rw [zero]
    exact .parts .zero (.point ⟨List.cons_ne_nil _ _, digits_replicate 1⟩) .absent
  · obtain ⟨lead, more, same, other⟩ := exists_toDigits_eq_cons pos
    have digits : Digits (lead :: more) := same ▸ digits_toDigits _
    have row : d.normalized.digits = lead :: more := same
    unfold Decimal.render
    dsimp only
    rw [row]
    split
    · exact magnitude_positional digits other _ _
    · exact magnitude_scientific digits other _ _

theorem exists_shortest_eq_normalized (units : Nat) :
    ∃ d : Decimal, Double.shortest units = d.normalized := by
  unfold Double.shortest
  exact ⟨_, rfl⟩

/-- **Finite doubles are written as numerals**. -/
theorem isNumeral_render {x : Double} (finite : x.isFinite = true) :
    IsNumeral (x.render layout Double.shortest) := by
  cases x with
  | nan => exact nomatch finite
  | infinity => exact nomatch finite
  | finite neg units fits =>
    obtain ⟨d, same⟩ := exists_shortest_eq_normalized units
    have magnitude := magnitude_render d
    rw [Double.render, same]
    cases neg with
    | false => exact .positive magnitude
    | true => exact .negative magnitude

end Json

end LineCalc
