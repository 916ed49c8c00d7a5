/-
Powers — the powers of two and of ten that scales are made of.

## Main statements

  * `twoTo_add` — exponents add.
  * `log2_lt_iff_lt_twoTo` — the binary logarithm is bounded as the number
    is.
-/

namespace LineCalc

/-- **The power of two** with a given exponent. -/
def twoTo (k : Nat) : Nat := Nat.pow 2 k

/-- **The power of ten** with a given exponent. -/
def tenTo (k : Nat) : Nat := Nat.pow 10 k

theorem twoTo_pos (k : Nat) : 0 < twoTo k := Nat.two_pow_pos k

theorem tenTo_pos (k : Nat) : 0 < tenTo k := Nat.pow_pos (by decide)

theorem twoTo_add (j k : Nat) : twoTo (j + k) = twoTo j * twoTo k := Nat.pow_add 2 j k

theorem tenTo_add (j k : Nat) : tenTo (j + k) = tenTo j * tenTo k := Nat.pow_add 10 j k

theorem twoTo_le_twoTo {j k : Nat} (h : j ≤ k) : twoTo j ≤ twoTo k :=
  Nat.pow_le_pow_right (by decide) h

theorem twoTo_dvd_twoTo {j k : Nat} (h : j ≤ k) : twoTo j ∣ twoTo k := Nat.pow_dvd_pow 2 h

theorem log2_twoTo (k : Nat) : (twoTo k).log2 = k := Nat.log2_two_pow

/-- The binary logarithm is below an exponent exactly if the number is below the power. -/
theorem log2_lt_iff_lt_twoTo {n k : Nat} (h : n ≠ 0) : n.log2 < k ↔ n < twoTo k :=
  Nat.log2_lt h

theorem lt_twoTo_log2_succ (n : Nat) : n < twoTo (n.log2 + 1) := Nat.lt_log2_self

end LineCalc
