/-
Double — the binary64 numbers that the calculator computes with.

A finite double is a sign and a whole number of **units**, one unit being
`2 ^ -1074`, the smallest positive double.  Every finite double is such a
multiple, so the exact value of any sum, product or quotient of doubles is
a ratio of natural numbers, and one rounding step brings it back into the
type.  Nothing here uses machine floating point.

## Main definitions

  * `Double` — not a number, a signed infinity, or a signed count of units
    with at most 53 significant bits.
  * `Double.roundUnits num den` — the representable count nearest to
    `num / den`, ties to the even neighbour, with no upper limit.
  * `Double.ofRatio` — rounding into the type; counts of `2 ^ 1024` and
    more become an infinity.
  * `Double.nearestFinite` — rounding for quantities known to be finite.

## Main statements

  * `Double.roundUnits_dvd` — a rounded count has at most 53 significant
    bits.
  * `Double.roundUnits_eq_self` — a count with at most 53 significant bits
    is its own rounding.
-/

import LineCalc.Powers

namespace LineCalc

/-! ## §1. The type -/

namespace Double

def unitsPerOne : Nat := twoTo 1074

/-- The count of units of `2 ^ 1024`, the least power of two beyond the finite doubles. -/
def limit : Nat := twoTo 2098

/-- **Representable**: a count of units below `limit` whose significant bits number at most 53. -/
def Representable (units : Nat) : Prop :=
  units < limit ∧ twoTo (units.log2 - 52) ∣ units

instance (units : Nat) : Decidable (Representable units) :=
  inferInstanceAs (Decidable (_ ∧ _))

theorem representable_zero : Representable 0 := ⟨twoTo_pos _, Nat.dvd_zero _⟩

end Double

/-- **Double**: a binary64 value.  The sign of a zero is kept; all NaNs are one. -/
inductive Double where
  /-- The result of an undefined operation. -/
  | nan
  /-- An infinity of the given sign. -/
  | infinity (neg : Bool)
  /-- The number `± units · 2 ^ -1074`. -/
  | finite (neg : Bool) (units : Nat) (fits : Double.Representable units)
  deriving DecidableEq

namespace Double

instance : Inhabited Double := ⟨nan⟩

/-! ## §2. Rounding a ratio -/

/-- The whole number nearest to `num / den`; a tie goes to the even one. -/
def roundQuotient (num den : Nat) : Nat :=
  let whole := num / den
  let rest := num % den
  if 2 * rest < den ∨ (2 * rest = den ∧ whole % 2 = 0) then whole else whole + 1

/-- The exponent of the spacing of representable counts around `num / den`. -/
def gridExponent (num den : Nat) : Nat := (num / den).log2 - 52

/-- **Rounding**: the multiple of the local spacing nearest to `num / den`, ties to even. -/
def roundUnits (num den : Nat) : Nat :=
  let grid := twoTo (gridExponent num den)
  roundQuotient num (den * grid) * grid

theorem roundQuotient_le_succ (num den : Nat) : roundQuotient num den ≤ num / den + 1 := by
  unfold roundQuotient
  dsimp only
  split <;> omega

theorem le_roundQuotient (num den : Nat) : num / den ≤ roundQuotient num den := by
  unfold roundQuotient
  dsimp only
  split <;> omega

theorem roundQuotient_mul (q den : Nat) (pos : 0 < den) : roundQuotient (q * den) den = q := by
  have hdiv : q * den / den = q := Nat.mul_div_cancel q pos
  have hmod : q * den % den = 0 := Nat.mul_mod_left q den
  simp [roundQuotient, hdiv, hmod, pos]

/-- Below its own spacing the whole part of a ratio has at most 53 bits. -/
theorem div_grid_lt (num den : Nat) :
    num / (den * twoTo (gridExponent num den)) < twoTo 53 := by
  rw [← Nat.div_div_eq_div_mul]
  have upper : num / den < twoTo ((num / den).log2 + 1) := lt_twoTo_log2_succ _
  refine Nat.div_lt_of_lt_mul (Nat.lt_of_lt_of_le upper ?_)
  rw [← twoTo_add]
  exact twoTo_le_twoTo (by unfold gridExponent; omega)

/-- A multiple of `2 ^ k` by at most `2 ^ 53` has at most 53 significant bits. -/
theorem significant_mul_twoTo {q k : Nat} (bound : q ≤ twoTo 53) :
    twoTo ((q * twoTo k).log2 - 52) ∣ q * twoTo k := by
  rcases Nat.eq_zero_or_pos q with rfl | pos
  · simp
  rcases Nat.lt_or_eq_of_le bound with small | rfl
  · have nonzero : q * twoTo k ≠ 0 := Nat.ne_of_gt (Nat.mul_pos pos (twoTo_pos k))
    have below : q * twoTo k < twoTo (53 + k) := by
      rw [twoTo_add]
      exact Nat.mul_lt_mul_of_pos_right small (twoTo_pos k)
    have exponent : (q * twoTo k).log2 < 53 + k := (log2_lt_iff_lt_twoTo nonzero).2 below
    exact Nat.dvd_trans (twoTo_dvd_twoTo (by omega)) (Nat.dvd_mul_left _ _)
  · rw [← twoTo_add, log2_twoTo]
    exact twoTo_dvd_twoTo (by omega)

theorem roundUnits_dvd (num den : Nat) :
    twoTo ((roundUnits num den).log2 - 52) ∣ roundUnits num den := by
  unfold roundUnits
  exact significant_mul_twoTo
    (Nat.le_trans (roundQuotient_le_succ _ _) (div_grid_lt num den))

/-- A count with at most 53 significant bits is its own rounding. -/
theorem roundUnits_eq_self {units : Nat} (fits : twoTo (units.log2 - 52) ∣ units) :
    roundUnits units 1 = units := by
  unfold roundUnits gridExponent
  simp only [Nat.div_one, Nat.one_mul]
  obtain ⟨q, hq⟩ := fits
  have pos : 0 < twoTo (units.log2 - 52) := twoTo_pos _
  generalize twoTo (units.log2 - 52) = grid at *
  rw [hq, Nat.mul_comm grid q, roundQuotient_mul q grid pos]

/-- **Rounding into the type**: the double nearest to `± num / den` units. -/
def ofRatio (neg : Bool) (num den : Nat) : Double :=
  if fits : roundUnits num den < limit then
    finite neg (roundUnits num den) ⟨fits, roundUnits_dvd num den⟩
  else
    infinity neg

/-- The largest finite count of units: 53 significant ones. -/
def largest : Nat := (twoTo 53 - 1) * twoTo 2045

theorem representable_largest : Representable largest := by decide +kernel

/-- The finite double nearest to `± num / den` units, for quantities that stay in the range of
the finite doubles. -/
def nearestFinite (neg : Bool) (num den : Nat) : Double :=
  if fits : roundUnits num den < limit then
    finite neg (roundUnits num den) ⟨fits, roundUnits_dvd num den⟩
  else
    finite neg largest representable_largest

theorem ofRatio_units {neg : Bool} {units : Nat} (fits : Representable units) :
    ofRatio neg units 1 = finite neg units fits := by
  have same := roundUnits_eq_self fits.2
  simp only [ofRatio, same, fits.1, dite_true]

/-! ## §3. Constants and whole numbers -/

def zero (neg : Bool) : Double := finite neg 0 representable_zero

/-- The double nearest to a natural number. -/
def ofNat (n : Nat) : Double := ofRatio false (n * unitsPerOne) 1

theorem representable_unitsPerOne : Representable unitsPerOne := by decide +kernel

def one : Double := finite false unitsPerOne representable_unitsPerOne

/-! ## §4. Sign and class -/

/-- The sign bit; a NaN has none. -/
def isSigned : Double → Bool
  | nan => false
  | infinity neg => neg
  | finite neg _ _ => neg

def isZero : Double → Bool
  | finite _ units _ => units == 0
  | _ => false

def isBelowZero : Double → Bool
  | nan => false
  | infinity neg => neg
  | finite neg units _ => neg && units != 0

/-- Neither an infinity nor a NaN. -/
def isFinite : Double → Bool
  | finite _ _ _ => true
  | _ => false

def isInfinite : Double → Bool
  | infinity _ => true
  | _ => false

/-- The whole number that a finite double is, if it is one. -/
def toInt? : Double → Option Int
  | finite neg units _ =>
    if units % unitsPerOne = 0 then
      let magnitude : Int := units / unitsPerOne
      some (if neg then -magnitude else magnitude)
    else none
  | _ => none

/-- A finite whole number divisible by two. -/
def isEvenInteger (x : Double) : Bool :=
  match x.toInt? with
  | some n => n % 2 == 0
  | none => false

/-- A finite whole number not divisible by two. -/
def isOddInteger (x : Double) : Bool :=
  match x.toInt? with
  | some n => n % 2 != 0
  | none => false

end Double

end LineCalc
