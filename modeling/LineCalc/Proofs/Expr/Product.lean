/-
Product — the running products of a factorial.

A factorial is multiplied up from one, factor by factor, and each step is
rounded.  No factor is below one, so no step makes the product smaller, and
once it is infinite it stays so.  That is why the loop may stop there: what it
leaves out changes nothing.  How far a product is from the factorial it stands
for is bounded by the rounding of its steps, and the bound is sharp enough to
tell that the product of the first 170 numbers is finite and the next one is
not.

## Main definitions

  * `Expr.productOf` — the product of a row of factors, without early exit.
  * `Expr.plainProduct` — the product of the first natural numbers.
  * `Expr.countedProduct` — the loop with a count of its multiplications.
  * `Expr.FactorialLaws` — what is known of the factorial of a whole number.

## Main statements

  * `Expr.le_productOf` — no row of factors makes a product smaller.
  * `Expr.product_eq_productOf` — the early exit is invisible.
  * `Expr.accurate_plainProduct` — how far a product is from the factorial.
  * `Expr.factorial_laws` — the laws hold of all whole numbers of moderate
    size.
-/

import LineCalc.Expr.Value
import LineCalc.Proofs.Double.Accuracy
import LineCalc.Proofs.Double.Order
import LineCalc.Proofs.Expr.Guarded
import Mathlib.Data.Nat.Factorial.Basic
import Mathlib.Tactic.NormNum

namespace LineCalc

namespace Expr

open Double
open scoped Nat

/-! ## §1. Products without early exit -/

/-- The product `start · a · b · …` of a row of factors, from left to right, each step rounded. -/
def productOf (start : Double) (factors : List Nat) : Double :=
  factors.foldl (fun x i => x.mul (ofNat i)) start

/-- **The plain product** `1 · 2 · 3 · … · n`. -/
def plainProduct (n : Nat) : Double := productOf one (List.range' 2 (n - 1))

/-- **No row of factors makes a product smaller**, be they ever so many. -/
theorem le_productOf {start : Double} (h : one ≤ start) {factors : List Nat}
    (pos : ∀ i ∈ factors, 1 ≤ i) : start ≤ productOf start factors := by
  -- The invariant is that the product so far is at least one.
  induction factors generalizing start with
  | nil => exact le_self h.2.1
  | cons i factors ih =>
    have step : start ≤ start.mul (ofNat i) := le_mul h (one_le_ofNat (pos i (by simp)))
    have rest := ih (le_trans h step) fun j member => pos j (List.mem_cons_of_mem i member)
    exact le_trans step rest

/-- The factors of a plain product are positive, wherever the row starts. -/
theorem one_le_of_mem_range' {i start count : Nat} (h : 1 ≤ start)
    (member : i ∈ List.range' start count) : 1 ≤ i := by
  have bounds := List.mem_range'_1.1 member
  omega

theorem one_le_plainProduct (n : Nat) : one ≤ plainProduct n :=
  le_productOf (le_self nofun) fun _ member => one_le_of_mem_range' (by omega) member

theorem plainProduct_eq_productOf {n m : Nat} (pos : 1 ≤ n) (h : n ≤ m) :
    plainProduct m = productOf (plainProduct n) (List.range' (n + 1) (m - n)) := by
  have parts : List.range' 2 (m - 1) = List.range' 2 (n - 1) ++ List.range' (n + 1) (m - n) := by
    have whole := @List.range'_append 2 (n - 1) (m - n) 1
    rw [show 2 + 1 * (n - 1) = n + 1 by omega, show n - 1 + (m - n) = m - 1 by omega] at whole
    exact whole.symm
  unfold plainProduct productOf
  rw [parts, List.foldl_append]

/-- **Greater numbers have greater products**. -/
theorem plainProduct_mono {n m : Nat} (h : n ≤ m) : plainProduct n ≤ plainProduct m := by
  by_cases zero : n = 0
  · rw [zero]
    exact one_le_plainProduct m
  · rw [plainProduct_eq_productOf (by omega) h]
    exact le_productOf (one_le_plainProduct n) fun _ member =>
      one_le_of_mem_range' (by omega) member

/-! ## §2. The loop -/

/-- **The early exit is invisible**: an infinite product is not changed by what is left out. -/
theorem product_eq_productOf {start : Double} (h : one ≤ start) {i : Nat} (pos : 1 ≤ i)
    (count : Nat) : product start i count = productOf start (List.range' i count) := by
  induction count generalizing start i with
  | zero => rfl
  | succ count ih =>
    have step : start ≤ start.mul (ofNat i) := le_mul h (one_le_ofNat pos)
    by_cases infinite : start.isInfinite = true
    · -- The loop stops, and the plain product has nowhere to go.
      have same : start = infinity false := by
        rcases one_le_iff.1 h with same | ⟨units, fits, rfl, -⟩
        · exact same
        · exact nomatch infinite
      rw [product_of_isInfinite infinite]
      have rest : start ≤ productOf start (List.range' i (count + 1)) :=
        le_productOf h fun _ member => one_le_of_mem_range' pos member
      rw [same, infinity_le_iff] at rest
      rw [same, rest]
    · have next := ih (le_trans h step) (by omega : 1 ≤ i + 1)
      rw [product, if_neg infinite, next, List.range'_succ]
      rfl

/-- **The counted loop**: the product, and the number of multiplications that were made for it. -/
def countedProduct (start : Double) (i : Nat) : Nat → Double × Nat
  | 0 => (start, 0)
  | count + 1 =>
    if start.isInfinite then (start, 0)
    else
      let (x, steps) := countedProduct (start.mul (ofNat i)) (i + 1) count
      (x, steps + 1)

theorem fst_countedProduct (start : Double) (i count : Nat) :
    (countedProduct start i count).1 = product start i count := by
  induction count generalizing start i with
  | zero => rfl
  | succ count ih =>
    rw [countedProduct, product]
    split
    · rfl
    · exact ih _ _

/-- Once so many factors make an infinity, no more multiplications are made than that. -/
theorem snd_countedProduct_le {start : Double} {i k : Nat}
    (infinite : (product start i k).isInfinite = true) (count : Nat) :
    (countedProduct start i count).2 ≤ k := by
  induction k generalizing start i count with
  | zero =>
    have stopped : start.isInfinite = true := infinite
    cases count with
    | zero => exact Nat.zero_le _
    | succ count => rw [countedProduct, if_pos stopped]
  | succ k ih =>
    cases count with
    | zero => exact Nat.zero_le _
    | succ count =>
      rw [countedProduct]
      split
      · exact Nat.zero_le _
      · next finite =>
        rw [product, if_neg finite] at infinite
        exact Nat.succ_le_succ (ih infinite count)

/-! ## §3. Accuracy -/

/-- **Accurate**: off from the factorial of `n` by the roundoff of `n` steps at most, and infinite
only if a number so far off may be beyond the range. -/
inductive Accurate (n : Nat) : Double → Prop
  | inside {units : Nat} (fits : Representable units) :
    (1 - roundoff) ^ n * n ! * unitsPerOne ≤ units →
    units ≤ (1 + roundoff) ^ n * n ! * unitsPerOne → Accurate n (finite false units fits)
  | beyond : (2 : ℚ) ^ 1024 ≤ (1 + roundoff) ^ n * n ! → Accurate n (infinity false)

theorem roundoff_pos : 0 < roundoff := by
  unfold roundoff
  norm_num

theorem roundoff_lt_one : roundoff < 1 := by
  unfold roundoff
  norm_num

theorem accurate_one {n : Nat} (h : n ≤ 1) : Accurate n one := by
  have pos := roundoff_pos
  have units : (0 : ℚ) < unitsPerOne := by exact_mod_cast unitsPerOne_pos
  -- The number one is its own factorial; a step that is not made has no error either.
  rcases Nat.le_one_iff_eq_zero_or_eq_one.1 h with rfl | rfl
  · apply Accurate.inside
    · rw [pow_zero (1 - roundoff : ℚ), Nat.factorial_zero, Nat.cast_one, one_mul, one_mul]
    · rw [pow_zero (1 + roundoff : ℚ), Nat.factorial_zero, Nat.cast_one, one_mul, one_mul]
  · apply Accurate.inside
    · rw [pow_one (1 - roundoff : ℚ), Nat.factorial_one, Nat.cast_one, mul_one]
      nlinarith
    · rw [pow_one (1 + roundoff : ℚ), Nat.factorial_one, Nat.cast_one, mul_one]
      nlinarith

/-- **One more factor**, rounded once, keeps the product accurate. -/
theorem accurate_mul {n : Nat} {x : Double} (h : n + 1 ≤ twoTo 53) (accurate : Accurate n x) :
    Accurate (n + 1) (x.mul (ofNat (n + 1))) := by
  have pos := roundoff_pos
  have factorial : ((n + 1)! : ℚ) = (n + 1) * n ! := by
    rw [Nat.factorial_succ]
    push_cast
    rfl
  cases accurate with
  | @inside units fits lower upper =>
    -- The exact product of the units is moved by one roundoff.
    have error := abs_le.1 (abs_roundUnits_whole_sub_le (units * (n + 1)))
    push_cast at error
    have less : (0 : ℚ) ≤ 1 - roundoff := sub_nonneg.2 (le_of_lt roundoff_lt_one)
    have lower' : (1 - roundoff) ^ (n + 1) * (n + 1)! * unitsPerOne ≤
        roundUnits (units * (n + 1)) 1 :=
      calc (1 - roundoff) ^ (n + 1) * (n + 1)! * unitsPerOne
          = (1 - roundoff) * ((1 - roundoff) ^ n * n ! * unitsPerOne * (n + 1)) := by
            rw [factorial]
            ring
        _ ≤ (1 - roundoff) * (units * (n + 1)) := by gcongr
        _ ≤ roundUnits (units * (n + 1)) 1 := by linarith [error.1]
    have upper' : (roundUnits (units * (n + 1)) 1 : ℚ) ≤
        (1 + roundoff) ^ (n + 1) * (n + 1)! * unitsPerOne :=
      calc (roundUnits (units * (n + 1)) 1 : ℚ)
          ≤ (1 + roundoff) * (units * (n + 1)) := by linarith [error.2]
        _ ≤ (1 + roundoff) * ((1 + roundoff) ^ n * n ! * unitsPerOne * (n + 1)) := by gcongr
        _ = (1 + roundoff) ^ (n + 1) * (n + 1)! * unitsPerOne := by
            rw [factorial]
            ring
    rw [mul_ofNat fits h]
    by_cases range : roundUnits (units * (n + 1)) 1 < limit
    · rw [ofRatio_of_lt range]
      exact .inside _ lower' upper'
    · rw [ofRatio_of_not_lt range]
      refine .beyond ?_
      have reached : (limit : ℚ) ≤ (1 + roundoff) ^ (n + 1) * (n + 1)! * unitsPerOne :=
        le_trans (by exact_mod_cast Nat.not_lt.1 range) upper'
      have one : (0 : ℚ) < unitsPerOne := by exact_mod_cast unitsPerOne_pos
      rw [limit_eq, Nat.cast_mul, cast_twoTo] at reached
      exact le_of_mul_le_mul_right reached one
  | beyond reached =>
    have stays := le_mul (le_infinity nofun) (one_le_ofNat (Nat.le_add_left 1 n))
    rw [infinity_le_iff.1 stays]
    refine .beyond ?_
    calc (2 : ℚ) ^ 1024
        ≤ (1 + roundoff) ^ n * n ! := reached
      _ ≤ (1 + roundoff) ^ (n + 1) * (n + 1)! := by
        gcongr
        · linarith
        · omega
        · omega

/-- **The plain product is accurate**. -/
theorem accurate_plainProduct {n : Nat} (h : n ≤ twoTo 53) : Accurate n (plainProduct n) := by
  induction n with
  | zero => exact accurate_one (Nat.zero_le 1)
  | succ n ih =>
    by_cases first : n = 0
    · rw [first]
      exact accurate_one le_rfl
    · have step := accurate_mul h (ih (by omega))
      have last : plainProduct (n + 1) = (plainProduct n).mul (ofNat (n + 1)) := by
        rw [plainProduct_eq_productOf (by omega) (Nat.le_succ n), Nat.succ_sub (le_refl n),
          Nat.sub_self]
        rfl
      rwa [last]

/-- An accurate product is finite if no number so far off is beyond the range. -/
theorem Accurate.isFinite {n : Nat} {x : Double} (accurate : Accurate n x)
    (range : (1 + roundoff) ^ n * n ! < 2 ^ 1024) : x.isFinite = true := by
  cases accurate with
  | inside => rfl
  | beyond reached => exact absurd reached (not_le_of_gt range)

/-- An accurate product is infinite if every number so far off is beyond the range. -/
theorem Accurate.eq_infinity {n : Nat} {x : Double} (accurate : Accurate n x)
    (range : 2 ^ 1024 ≤ (1 - roundoff) ^ n * n !) : x = infinity false := by
  cases accurate with
  | beyond => rfl
  | @inside units fits lower _ =>
    have one : (0 : ℚ) ≤ unitsPerOne := Nat.cast_nonneg _
    have reached : (limit : ℚ) ≤ units := by
      rw [limit_eq, Nat.cast_mul, cast_twoTo]
      exact le_trans (mul_le_mul_of_nonneg_right range one) lower
    have below := fits.1
    have above : limit ≤ units := by exact_mod_cast reached
    omega

/-- **The last finite product** is that of the first 170 numbers. -/
theorem isFinite_plainProduct_170 : (plainProduct 170).isFinite = true := by
  apply (accurate_plainProduct (by decide)).isFinite
  have error : (1 + roundoff) ^ 170 ≤ 2 := by
    unfold roundoff
    norm_num
  have range : ((2 * 170 ! : Nat) : ℚ) < twoTo 1024 := by
    rw [Nat.cast_lt]
    decide +kernel
  rw [cast_twoTo, Nat.cast_mul, Nat.cast_two] at range
  calc (1 + roundoff) ^ 170 * 170 !
      ≤ 2 * 170 ! := mul_le_mul_of_nonneg_right error (Nat.cast_nonneg _)
    _ < 2 ^ 1024 := range

/-- **The first infinite product** is that of the first 171 numbers. -/
theorem plainProduct_171 : plainProduct 171 = infinity false := by
  apply (accurate_plainProduct (by decide)).eq_infinity
  have error : 1 / 2 ≤ (1 - roundoff) ^ 171 := by
    unfold roundoff
    norm_num
  have range : ((twoTo 1024 * 2 : Nat) : ℚ) ≤ 171 ! := by
    rw [Nat.cast_le]
    decide +kernel
  rw [Nat.cast_mul, Nat.cast_two] at range
  rw [← cast_twoTo]
  have half : ((twoTo 1024 : Nat) : ℚ) ≤ 1 / 2 * 171 ! := by
    -- Both numbers are too long to be looked at.
    generalize ((twoTo 1024 : Nat) : ℚ) = bound at *
    generalize ((171 ! : Nat) : ℚ) = factorial at *
    linarith
  calc ((twoTo 1024 : Nat) : ℚ)
      ≤ 1 / 2 * 171 ! := half
    _ ≤ (1 - roundoff) ^ 171 * 171 ! := mul_le_mul_of_nonneg_right error (Nat.cast_nonneg _)

/-! ## §4. Factorials -/

/-- **The laws of a factorial** of the double `x` that is the whole number `n`.  Its value is the
plain product, for which the loop makes 170 multiplications at most.  The product is a number, finite
for `n` up to 170 and infinite from there on, and no greater than the factorial of any number that
is at least `n`. -/
structure FactorialLaws (x : Double) (n : Nat) : Prop where
  value_eq : (factorial x).value = .ok (plainProduct n)
  counted : ∃ steps ≤ 170, countedProduct one 2 (n - 1) = (plainProduct n, steps)
  eq_one : n < 2 → plainProduct n = one
  finite : n ≤ 170 → (plainProduct n).isFinite = true
  infinite : 171 ≤ n → plainProduct n = infinity false
  number : plainProduct n ≠ nan
  mono : ∀ (y : Double) (m : Nat), y.toRat? = some (m : ℚ) → m ≤ 2 ^ 63 - 1 → n ≤ m →
    ∃ above, (factorial y).value = .ok above ∧ plainProduct n ≤ above

theorem product_eq_plainProduct (n : Nat) : product one 2 (n - 1) = plainProduct n :=
  product_eq_productOf (le_self nofun) (by decide) _

/-- The factorial of a whole number of moderate size is its plain product. -/
theorem factorial_value {x : Double} {n : Nat} (whole : x.toRat? = some (n : ℚ))
    (moderate : n ≤ 2 ^ 63 - 1) : (factorial x).value = .ok (plainProduct n) := by
  have integer : x.toInt? = some (n : Int) := by
    rw [← toRat?_eq_intCast_iff, whole, Int.cast_natCast]
  have inside : ¬ ((n : Int) < leastWhole ∨ greatestWhole < n) := by
    unfold leastWhole greatestWhole
    omega
  show factorialValue x = _
  unfold factorialValue
  rw [integer]
  dsimp only
  rw [if_neg inside, if_neg (by omega), Int.toNat_natCast, product_eq_plainProduct]

/-- **The laws hold of all whole numbers of moderate size**. -/
theorem factorial_laws {x : Double} {n : Nat} (whole : x.toRat? = some (n : ℚ))
    (moderate : n ≤ 2 ^ 63 - 1) : FactorialLaws x n where
  value_eq := factorial_value whole moderate
  counted := by
    have infinite : (product one 2 170).isInfinite = true := by
      rw [product_eq_plainProduct 171, plainProduct_171]
      rfl
    refine ⟨_, snd_countedProduct_le infinite (n - 1), ?_⟩
    rw [← product_eq_plainProduct, ← fst_countedProduct]
  eq_one small := by
    have none : n - 1 = 0 := by omega
    unfold plainProduct
    rw [none]
    rfl
  finite small := by
    -- A greater product is finite, and there is nothing above an infinity.
    have above := plainProduct_mono small
    rcases one_le_iff.1 (one_le_plainProduct n) with same | ⟨units, fits, same, -⟩
    · rw [same, infinity_le_iff] at above
      have finite := isFinite_plainProduct_170
      rw [above] at finite
      exact nomatch finite
    · rw [same]
      rfl
  infinite great := by
    have above := plainProduct_mono great
    rwa [plainProduct_171, infinity_le_iff] at above
  number := (one_le_plainProduct n).2.1
  mono y m wholeY moderateY le := ⟨_, factorial_value wholeY moderateY, plainProduct_mono le⟩

/-- A number of whose factors the loop never comes to more than the first 170. -/
theorem factorial_laws_of_great :
    (ofNat (2 ^ 62)).toRat? = some ((2 ^ 62 : Nat) : ℚ) ∧ 2 ^ 62 ≤ 2 ^ 63 - 1 ∧
      FactorialLaws (ofNat (2 ^ 62)) (2 ^ 62) := by
  have whole : (ofNat (2 ^ 62)).toRat? = some ((2 ^ 62 : Nat) : ℚ) := by
    have integer : (ofNat (2 ^ 62)).toInt? = some ((2 ^ 62 : Nat) : Int) := by decide +kernel
    rwa [← toRat?_eq_intCast_iff, Int.cast_natCast] at integer
  exact ⟨whole, by decide, factorial_laws whole (by decide)⟩

end Expr

end LineCalc
