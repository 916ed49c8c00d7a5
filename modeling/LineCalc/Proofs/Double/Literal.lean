/-
Literal — the characters of number literals.

A literal holds no blank, so it stands in a single word, and no exclamation
mark, so a line that ends in a literal does not exclaim.

## Main definitions

  * `Text.Inner` — a character that ends neither a word nor a factorial.
  * `Text.InnerText` — a text of such characters.

## Main statements

  * `Literal.innerText_of_parse?` — every literal is one.
-/

import LineCalc.Numeral
import LineCalc.Proofs.Text.Recased

namespace LineCalc

namespace Text

/-- **Inner character**: neither a blank nor an exclamation mark. -/
def Inner (c : Char) : Prop := isBlank c = false ∧ c ≠ '!'

instance (c : Char) : Decidable (Inner c) := inferInstanceAs (Decidable (_ ∧ _))

/-- No digit of any script lies in a range of blanks, or is the exclamation mark. -/
theorem digitZeros_disjoint : ∀ first ∈ digitZeros,
    33 < first ∧ ∀ range ∈ blankRanges, range.2 < first ∨ first + 9 < range.1 := by
  decide +kernel

theorem inner_of_digitValue? {c : Char} {d : Nat} (h : digitValue? c = some d) : Inner c := by
  unfold digitValue? at h
  obtain ⟨first, found, -⟩ := Option.map_eq_some_iff.1 h
  have inside := List.find?_some found
  simp only [Bool.and_eq_true, decide_eq_true_eq] at inside
  obtain ⟨beyond, apart⟩ := digitZeros_disjoint first (List.mem_of_find?_eq_some found)
  constructor
  · apply inRanges_eq_false
    intro range member
    have side := apart range member
    omega
  · rintro rfl
    have mark : '!'.toNat = 33 := rfl
    omega

theorem inner_of_toLower {c : Char} (h : Inner c.toLower) : Inner c :=
  (toLower_iff (by decide) c).1 h

/-- **Inner text**: all of its characters are inner ones. -/
def InnerText (cs : List Char) : Prop := ∀ c ∈ cs, Inner c

theorem innerText_nil : InnerText [] := fun _ member => nomatch member

theorem innerText_cons {c : Char} {cs : List Char} (h : Inner c) (rest : InnerText cs) :
    InnerText (c :: cs) :=
  List.forall_mem_cons.2 ⟨h, rest⟩

theorem innerText_append {cs cs' : List Char} (h : InnerText cs) (h' : InnerText cs') :
    InnerText (cs ++ cs') :=
  List.forall_mem_append.2 ⟨h, h'⟩

end Text

namespace Numeral

open Text

/-! ## §1. Parts of literals -/

/-- **Taking**: `left` is a text without an inner text at its start. -/
def Takes (cs left : List Char) : Prop := ∃ taken, cs = taken ++ left ∧ InnerText taken

theorem takes_self (cs : List Char) : Takes cs cs := ⟨[], rfl, innerText_nil⟩

theorem takes_cons {c : Char} {cs left : List Char} (h : Inner c) (rest : Takes cs left) :
    Takes (c :: cs) left := by
  obtain ⟨taken, rfl, inner⟩ := rest
  exact ⟨c :: taken, rfl, innerText_cons h inner⟩

theorem Takes.innerText {cs left : List Char} (h : Takes cs left) (rest : InnerText left) :
    InnerText cs := by
  obtain ⟨taken, rfl, inner⟩ := h
  exact innerText_append inner rest

theorem takes_moreDigits (cs : List Char) : Takes cs (moreDigits cs).2 := by
  fun_induction moreDigits cs with
  | case1 => exact takes_self []
  | case2 c rest d digit ds left more ih =>
    rw [more] at ih
    exact takes_cons (by decide) (takes_cons (inner_of_digitValue? digit) ih)
  | case3 c rest none => exact takes_self _
  | case4 c rest other d digit ds left more ih =>
    rw [more] at ih
    exact takes_cons (inner_of_digitValue? digit) ih
  | case5 c rest other none => exact takes_self _

theorem takes_digitRow (cs : List Char) : Takes cs (digitRow cs).2 := by
  fun_cases digitRow cs with
  | case1 => exact takes_self []
  | case2 c rest d digit ds left more =>
    have taken := takes_moreDigits rest
    rw [more] at taken
    exact takes_cons (inner_of_digitValue? digit) taken
  | case3 c rest none => exact takes_self _

theorem takes_sign (cs : List Char) : Takes cs (sign cs).2 := by
  fun_cases sign cs with
  | case1 rest => exact takes_cons (by decide) (takes_self rest)
  | case2 rest => exact takes_cons (by decide) (takes_self rest)
  | case3 => exact takes_self _

theorem takes_fraction (cs : List Char) : Takes cs (fraction cs).2 := by
  fun_cases fraction cs with
  | case1 rest => exact takes_cons (by decide) (takes_digitRow rest)
  | case2 => exact takes_self _

theorem innerText_of_exponent? {cs : List Char} {e : Int} (h : exponent? cs = some e) :
    InnerText cs := by
  cases cs with
  | nil => exact innerText_nil
  | cons c rest =>
    rw [exponent?] at h
    split at h
    · next letter =>
      -- What was read is the letter, a sign and digits, all of them characters of literals.
      have signs := takes_sign rest
      rcases signed : sign rest with ⟨neg, row⟩
      rw [signed] at h signs
      have taken := takes_digitRow row
      dsimp only at h
      split at h
      · next d ds read =>
        rw [read] at taken
        have inner : InnerText rest := signs.innerText (taken.innerText innerText_nil)
        rcases letter with rfl | rfl
        · exact innerText_cons (by decide) inner
        · exact innerText_cons (by decide) inner
      · exact nomatch h
    · exact nomatch h

theorem innerText_of_unsigned? {neg : Bool} {cs : List Char} {n : Numeral}
    (h : unsigned? neg cs = some n) : InnerText cs := by
  have wholes := takes_digitRow cs
  unfold unsigned? at h
  rcases whole : digitRow cs with ⟨ds, behind⟩
  have parts := takes_fraction behind
  rcases part : fraction behind with ⟨ds', tail⟩
  rw [whole] at wholes
  rw [part] at parts
  simp only [whole, part] at h
  split at h
  · exact nomatch h
  · obtain ⟨e, exponent, -⟩ := Option.map_eq_some_iff.1 h
    exact wholes.innerText (parts.innerText (innerText_of_exponent? exponent))

end Numeral

/-! ## §2. Literals -/

namespace Literal

open Text Numeral

theorem innerText_of_word? {neg : Bool} {cs : List Char} {l : Literal}
    (h : word? neg cs = some l) : InnerText cs := by
  have letters : ["inf", "infinity", "nan"].all
      (fun name => name.toList.all fun c => decide (Inner c)) = true := by decide
  have named : String.ofList (cs.map Char.toLower) ∈ ["inf", "infinity", "nan"] := by
    unfold word? at h
    dsimp only at h
    split at h
    · next name => rcases name with name | name <;> simp [name]
    · split at h
      · next name => simp [name]
      · exact nomatch h
  have lower := List.all_eq_true.1 (List.all_eq_true.1 letters _ named)
  rw [String.toList_ofList] at lower
  intro c member
  exact inner_of_toLower (of_decide_eq_true (lower _ (List.mem_map_of_mem member)))

/-- **A literal is inner text**. -/
theorem innerText_of_parse? {cs : List Char} {l : Literal} (h : parse? cs = some l) :
    InnerText cs := by
  unfold parse? at h
  dsimp only at h
  split at h
  · next n unsigned => exact (takes_sign cs).innerText (innerText_of_unsigned? unsigned)
  · exact (takes_sign cs).innerText (innerText_of_word? h)

end Literal

theorem Double.innerText_of_parseFinite? {cs : List Char} {x : Double}
    (h : Double.parseFinite? cs = some x) : Text.InnerText cs := by
  have parsed : Double.parse? cs = some x := (Option.filter_eq_some_iff.1 h).1
  obtain ⟨l, literal, -⟩ := Option.map_eq_some_iff.1 parsed
  exact Literal.innerText_of_parse? literal

end LineCalc
