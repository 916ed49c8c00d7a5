/-
RecasedLiteral — literals in either case of their letters.

The letters of a literal are the mark of its exponent and those of the words
for infinities and NaNs.  Each of them may be written in either case, so that
recased texts are the same number, or none.  The parts of a literal are
followed one by one: what a part is worth does not depend on case, and what is
left after it is a recasing again.

## Main statements

  * `Literal.parse?_map_toLower` — a literal in small letters is the same.
  * `Double.parseFinite?_congr` — recased texts are the same finite double.
-/

import LineCalc.Proofs.Double.Literal

namespace LineCalc

open Text

namespace Numeral

/-! ## §1. Parts of literals -/

/-- A character that joins no digits does not do so in small letters. -/
theorem not_joined {c : Char} {rest : List Char}
    (other : ∀ (d : Char) (more : List Char), c = '_' → rest = d :: more → False) (d : Char)
    (more : List Char) (joins : c.toLower = '_') (next : rest.map Char.toLower = d :: more) :
    False := by
  obtain ⟨d', more', rfl, -, -⟩ := List.map_eq_cons_iff.1 next
  exact other d' more' ((toLower_eq_iff (by decide) c).1 joins) rfl

/-- Further digits, and what is left of the small letters after them. -/
theorem moreDigits_map_toLower (cs : List Char) :
    moreDigits (cs.map Char.toLower) =
      ((moreDigits cs).1, (moreDigits cs).2.map Char.toLower) := by
  -- The cases are those of the reader: a joined digit, a digit, or neither.
  fun_induction moreDigits cs with
  | case1 => rfl
  | case2 c rest d digit ds left more ih =>
    rw [more] at ih
    show moreDigits ('_' :: c.toLower :: rest.map Char.toLower) = _
    rw [moreDigits, digitValue?_toLower, digit]
    dsimp only
    rw [ih]
  | case3 c rest none =>
    show moreDigits ('_' :: c.toLower :: rest.map Char.toLower) = _
    rw [moreDigits, digitValue?_toLower, none]
    rfl
  | case4 c rest other d digit ds left more ih =>
    rw [more] at ih
    rw [List.map_cons, moreDigits, digitValue?_toLower, digit]
    · dsimp only
      rw [ih]
    · exact not_joined other
  | case5 c rest other none =>
    rw [List.map_cons, moreDigits, digitValue?_toLower, none]
    exact not_joined other

/-- A row of digits, and what is left of the small letters after it. -/
theorem digitRow_map_toLower (cs : List Char) :
    digitRow (cs.map Char.toLower) = ((digitRow cs).1, (digitRow cs).2.map Char.toLower) := by
  cases cs with
  | nil => rfl
  | cons c rest =>
    rw [List.map_cons, digitRow, digitRow, digitValue?_toLower]
    cases digitValue? c with
    | none => rfl
    | some d => rw [moreDigits_map_toLower]

theorem sign_map_toLower (cs : List Char) :
    sign (cs.map Char.toLower) = ((sign cs).1, (sign cs).2.map Char.toLower) := by
  fun_cases sign cs with
  | case1 rest => rfl
  | case2 rest => rfl
  | case3 cs minus plus =>
    rw [sign]
    · intro rest h
      obtain ⟨rest', same⟩ := eq_cons_of_map_toLower (by decide) h
      exact minus rest' same
    · intro rest h
      obtain ⟨rest', same⟩ := eq_cons_of_map_toLower (by decide) h
      exact plus rest' same

theorem fraction_map_toLower (cs : List Char) :
    fraction (cs.map Char.toLower) = ((fraction cs).1, (fraction cs).2.map Char.toLower) := by
  fun_cases fraction cs with
  | case1 rest => exact digitRow_map_toLower rest
  | case2 cs point =>
    rw [fraction]
    intro rest h
    obtain ⟨rest', same⟩ := eq_cons_of_map_toLower (by decide) h
    exact point rest' same

theorem exponent?_map_toLower (cs : List Char) :
    exponent? (cs.map Char.toLower) = exponent? cs := by
  cases cs with
  | nil => rfl
  | cons c rest =>
    have letter : c.toLower = 'e' ∨ c.toLower = 'E' ↔ c = 'e' ∨ c = 'E' :=
      toLower_iff (P := fun d => d = 'e' ∨ d = 'E') (by decide) c
    rw [List.map_cons, exponent?, exponent?]
    simp only [letter, sign_map_toLower, digitRow_map_toLower]
    split
    · cases digitRow (sign rest).2 with
      | mk ds left => cases ds <;> cases left <;> rfl
    · rfl

/-- **A numeral** is the same in small letters. -/
theorem unsigned?_map_toLower (neg : Bool) (cs : List Char) :
    unsigned? neg (cs.map Char.toLower) = unsigned? neg cs := by
  unfold unsigned?
  simp only [digitRow_map_toLower, fraction_map_toLower, exponent?_map_toLower]

end Numeral

namespace Literal

/-! ## §2. Literals -/

theorem word?_map_toLower (neg : Bool) (cs : List Char) :
    word? neg (cs.map Char.toLower) = word? neg cs := by
  unfold word?
  rw [map_toLower_map_toLower]

/-- **A literal** is the same in small letters. -/
theorem parse?_map_toLower (cs : List Char) : parse? (cs.map Char.toLower) = parse? cs := by
  unfold parse?
  simp only [Numeral.sign_map_toLower, Numeral.unsigned?_map_toLower, word?_map_toLower]

end Literal

/-- **Recased texts** are the same finite double, or none. -/
theorem Double.parseFinite?_congr {cs ds : List Char} (h : Recased cs ds) :
    Double.parseFinite? cs = Double.parseFinite? ds := by
  have same : Literal.parse? cs = Literal.parse? ds :=
    calc Literal.parse? cs
        = Literal.parse? (cs.map Char.toLower) := (Literal.parse?_map_toLower cs).symm
      _ = Literal.parse? (ds.map Char.toLower) := congrArg Literal.parse? h
      _ = Literal.parse? ds := Literal.parse?_map_toLower ds
  unfold Double.parseFinite? Double.parse?
  rw [same]

end LineCalc
