/-
PowerSign — the sign of a power.

The sign of a power is settled before its magnitude, and no step after that
changes it: neither the exact ratios nor the ends of the enclosures give a
NaN or a number of the other sign.

## Main definitions

  * `Double.HasSign` — a number, finite or not, with the given sign bit.

## Main statements

  * `Double.hasSign_powMagnitude` — the magnitude of a power keeps the sign
    that it is given.
  * `Double.pow_eq_infinity` — an infinite power of finite numbers is
    negative exactly for a signed base and an odd exponent.
  * `Double.pow_eq_nan` — only a base below zero has undefined powers among
    the finite numbers.
-/

import LineCalc.Double.Power
import LineCalc.Proofs.Double.Rounding

namespace LineCalc

namespace Double

/-- **Sign**: not a NaN, and the sign bit is the given one. -/
def HasSign (neg : Bool) (x : Double) : Prop := x ≠ nan ∧ x.isSigned = neg

theorem hasSign_infinity (neg : Bool) : HasSign neg (infinity neg) := ⟨nofun, rfl⟩

theorem hasSign_finite (neg : Bool) {units : Nat} (fits : Representable units) :
    HasSign neg (finite neg units fits) :=
  ⟨nofun, rfl⟩

theorem hasSign_ofRatio (neg : Bool) (num den : Nat) : HasSign neg (ofRatio neg num den) := by
  by_cases inside : roundUnits num den < limit
  · rw [ofRatio_of_lt inside]
    exact hasSign_finite neg _
  · rw [ofRatio_of_not_lt inside]
    exact hasSign_infinity neg

theorem Magnitude.hasSign_settle (neg : Bool) (enclose : Nat → Magnitude)
    (attempts precision : Nat) : HasSign neg (settle neg enclose attempts precision) := by
  -- The induction is on the attempts that are left; the precision grows with each of them.
  induction attempts generalizing precision with
  | zero =>
    unfold settle
    split
    · exact hasSign_infinity neg
    · exact hasSign_finite neg _
    · exact hasSign_ofRatio neg _ _
  | succ attempts ih =>
    unfold settle
    split
    · exact hasSign_infinity neg
    · exact hasSign_finite neg _
    · dsimp only
      split
      · exact hasSign_ofRatio neg _ _
      · exact ih _

/-- **The magnitude of a power keeps the sign** that it is given. -/
theorem hasSign_powMagnitude (neg : Bool) (units : Nat) (negExponent : Bool) (exponent : Nat) :
    HasSign neg (powMagnitude neg units negExponent exponent) := by
  unfold powMagnitude
  split
  · cases neg
    · exact hasSign_finite false _
    · exact hasSign_finite true _
  · split
    · exact hasSign_ofRatio neg _ _
    · exact Magnitude.hasSign_settle neg _ _ _

theorem pow_finite_cases (s t : Bool) {u v : Nat} (fits : Representable u)
    (fits' : Representable v) :
    (finite s u fits).pow (finite t v fits') = one ∨
      (u ≠ 0 ∧ s = true ∧ (finite s u fits).pow (finite t v fits') = nan) ∨
      HasSign (s && (finite t v fits').isOddInteger)
        ((finite s u fits).pow (finite t v fits')) := by
  unfold pow
  split
  · exact .inl rfl
  -- A zero base has a power with a sign, of either kind; another base may have none at all.
  · dsimp only
    split
    · split
      · exact .inr (.inr (hasSign_infinity _))
      · exact .inr (.inr (hasSign_finite _ _))
    · next nonzero =>
      split
      · next undefined =>
        have signed : s = true := by
          simp only [Bool.and_eq_true] at undefined
          exact undefined.1
        exact .inr (.inl ⟨nonzero, signed, rfl⟩)
      · exact .inr (.inr (hasSign_powMagnitude _ _ _ _))

/-- **The sign of an infinite power** of finite numbers. -/
theorem pow_eq_infinity {s t neg : Bool} {u v : Nat} {fits : Representable u}
    {fits' : Representable v}
    (h : (finite s u fits).pow (finite t v fits') = infinity neg) :
    neg = (s && (finite t v fits').isOddInteger) := by
  rcases pow_finite_cases s t fits fits' with unit | ⟨-, -, undefined⟩ | ⟨-, sign⟩
  · rw [unit] at h
    exact nomatch h
  · rw [undefined] at h
    exact nomatch h
  · rw [h] at sign
    exact sign

/-- **An undefined power** of finite numbers has a base below zero. -/
theorem pow_eq_nan {s t : Bool} {u v : Nat} {fits : Representable u} {fits' : Representable v}
    (h : (finite s u fits).pow (finite t v fits') = nan) : u ≠ 0 ∧ s = true := by
  rcases pow_finite_cases s t fits fits' with unit | ⟨nonzero, signed, -⟩ | ⟨number, -⟩
  · rw [unit] at h
    exact nomatch h
  · exact ⟨nonzero, signed⟩
  · exact absurd h number

end Double

end LineCalc
