/-
RootPower — the powers that roots are made of.

A root raises the magnitude of a number to the reciprocal of its degree.  The
reciprocal of one is one, and the power with that exponent takes the way
through the exact powers: the number is split into a power of two and an odd
rest, and put together again.

## Main definitions

  * `Double.least` — the least double of a sign but for the zero.

## Main statements

  * `Double.twoTo_mul_oddPart` — a number is what it was split into.
  * `Double.reciprocal_one` — the reciprocal of one.
  * `Double.pow_one` — the first power of every double is the double.
-/

import LineCalc.Proofs.Double.Reflection

namespace LineCalc

namespace Double

/-! ## §1. Signs and magnitudes -/

section operands

variable {x : Double}

theorem isBelowZero_of_isZero (nonzero : x.isZero = false) : x.isBelowZero = x.isSigned := by
  cases x with
  | nan => rfl
  | infinity s => rfl
  | finite s u fits =>
    have some : (u != 0) = true := by
      rw [bne, show (u == 0) = false from nonzero]
      rfl
    show (s && u != 0) = s
    rw [some, Bool.and_true]

theorem isZero_neg (x : Double) : x.neg.isZero = x.isZero := by
  cases x <;> rfl

theorem isZero_abs (x : Double) : x.abs.isZero = x.isZero := by
  cases x <;> rfl

theorem abs_of_unsigned (unsigned : x.isSigned = false) : x.abs = x := by
  cases x with
  | nan => rfl
  | infinity s =>
    obtain rfl : s = false := unsigned
    rfl
  | finite s u fits =>
    obtain rfl : s = false := unsigned
    rfl

theorem neg_of_signed (signed : x.isSigned = true) : x.neg = x.abs := by
  cases x with
  | nan => rfl
  | infinity s =>
    obtain rfl : s = true := signed
    rfl
  | finite s u fits =>
    obtain rfl : s = true := signed
    rfl

end operands

/-- The least double of a sign but for the zero: one unit. -/
def least (neg : Bool) : Double := finite neg 1 (by decide +kernel)

/-! ## §2. Odd parts -/

/-- **A number is what it was split into**: a power of two and the rest. -/
theorem twoTo_mul_oddPart (n : Nat) : twoTo (oddPart n).1 * (oddPart n).2 = n := by
  induction n using oddPart.induct with
  | case1 n even _ _ _ ih =>
    have half : 2 * (n / 2) = n := Nat.mul_div_cancel' (Nat.dvd_of_mod_eq_zero even.1)
    have two : twoTo 1 = 2 := rfl
    rw [oddPart, if_pos even]
    dsimp only
    rw [twoTo_add, two, Nat.mul_comm _ 2, Nat.mul_assoc, ih, half]
  | case2 n odd =>
    rw [oddPart, if_neg odd]
    exact Nat.one_mul n

theorem oddPart_twoTo (k : Nat) : oddPart (twoTo k) = (k, 1) := by
  induction k with
  | zero =>
    rw [oddPart, if_neg (by decide)]
    rfl
  | succ k ih =>
    have two : twoTo 1 = 2 := rfl
    have pos := twoTo_pos k
    have double : twoTo (k + 1) = twoTo k * 2 := by rw [twoTo_add, two]
    have even : twoTo (k + 1) % 2 = 0 ∧ twoTo (k + 1) ≠ 0 := by omega
    have half : twoTo (k + 1) / 2 = twoTo k := by omega
    rw [oddPart, if_pos even, half, ih]

/-! ## §3. First powers -/

/-- The ratio of two powers of two, with the smaller one divided out. -/
theorem twoPower_spec {e : Int} {j k : Nat} (h : e = j - k) :
    0 < (twoPower e).2 ∧ (twoPower e).1 * twoTo k = twoTo j * (twoPower e).2 := by
  unfold twoPower
  split
  · have whole : e.toNat + k = j := by omega
    refine ⟨Nat.one_pos, ?_⟩
    rw [← twoTo_add, whole, Nat.mul_one]
  · have whole : j + (-e).toNat = k := by omega
    refine ⟨twoTo_pos _, ?_⟩
    rw [← twoTo_add, whole, Nat.one_mul]

/-- The first power is exact: a ratio of units equal to the units. -/
theorem exactPower?_one (units : Nat) :
    ∃ num den, exactPower? units false unitsPerOne = some (num, den) ∧ 0 < den ∧
      num * 1 = units * den := by
  have whole : oddPart unitsPerOne = (1074, 1) := oddPart_twoTo 1074
  have first : 1 * twoTo (1074 - 1074) = 1 := rfl
  obtain ⟨twos, odd, split⟩ : ∃ twos odd, oddPart units = (twos, odd) := ⟨_, _, rfl⟩
  obtain ⟨pos, ratio⟩ := twoPower_spec (rfl : (twos : Int) - 1074 = twos - (1074 : Nat))
  have parts := twoTo_mul_oddPart units
  rw [split] at parts
  refine ⟨odd * (twoPower ((twos : Int) - 1074)).1 * unitsPerOne,
    (twoPower ((twos : Int) - 1074)).2, ?_, pos, ?_⟩
  · unfold exactPower?
    rw [whole, split]
    dsimp only
    rw [first, if_neg (by decide), Nat.sub_self, exactRoot?, Option.map_some]
    simp [Nat.pow]
  · show odd * (twoPower ((twos : Int) - 1074)).1 * twoTo 1074 * 1 = _
    rw [Nat.mul_one, Nat.mul_assoc, ratio, ← parts, ← Nat.mul_assoc, Nat.mul_comm odd]

theorem powMagnitude_one {units : Nat} (fits : Representable units) (neg : Bool) :
    powMagnitude neg units false unitsPerOne = finite neg units fits := by
  by_cases unit : units = unitsPerOne
  · rw [powMagnitude, if_pos unit, ← ofRatio_units fits, unit,
      ofRatio_units representable_unitsPerOne]
    cases neg
    · rfl
    · rfl
  · obtain ⟨num, den, exact, pos, same⟩ := exactPower?_one units
    rw [powMagnitude, if_neg unit, exact]
    show ofRatio neg num den = _
    rw [ofRatio_eq_of_mul_eq pos Nat.one_pos same, ofRatio_units fits]

/-- A quotient of finite numbers is the rounded ratio of their units. -/
theorem div_finite {s t : Bool} {a b : Nat} {fits : Representable a} {fits' : Representable b}
    (nonzero : b ≠ 0) :
    (finite s a fits).div (finite t b fits') = ofRatio (s ^^ t) (a * unitsPerOne) b :=
  if_neg nonzero

theorem reciprocal_one : one.reciprocal = one := by
  have nonzero : unitsPerOne ≠ 0 := Nat.ne_of_gt unitsPerOne_pos
  unfold reciprocal one
  rw [div_finite nonzero,
    ofRatio_eq_of_mul_eq unitsPerOne_pos Nat.one_pos (Nat.mul_one (unitsPerOne * unitsPerOne))]
  exact ofRatio_units representable_unitsPerOne

theorem toInt?_one : one.toInt? = some 1 := by decide +kernel

/-- **The first power** of every double is the double. -/
theorem pow_one (x : Double) : x.pow one = x := by
  have odd : one.isOddInteger = true := by
    unfold isOddInteger
    rw [toInt?_one]
    rfl
  have exponent : one.isZero = false := by decide +kernel
  -- A base that is not a number, an infinity, a zero, and any other, as in the definition of
  -- powers.
  cases x with
  | nan =>
    have other : ¬ nan = one := nofun
    unfold pow
    rw [exponent, if_neg (not_or.2 ⟨Bool.false_ne_true, other⟩)]
  | infinity s =>
    rw [one, pow_infinity exponent, ← one, odd, Bool.and_true]
    rfl
  | finite s u fits =>
    by_cases nought : u = 0
    · subst nought
      rw [one, pow_zero_base exponent, ← one, odd, Bool.and_true]
      rfl
    · rw [one, pow_finite nought exponent, ← one, odd, toInt?_one, Bool.and_true,
        Option.isNone_some, Bool.and_false, if_neg Bool.false_ne_true]
      exact powMagnitude_one fits s

end Double

end LineCalc
