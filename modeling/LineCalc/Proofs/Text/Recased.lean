/-
Recased — the case of ASCII letters.

Lower case is a matter of all scripts, and some of its rules are odd: a sigma
has two small forms, a dotted capital I becomes two characters, and the Kelvin
sign becomes a plain letter.  Two facts are shown of it here.  Texts that
differ in the case of their ASCII letters have the same lower case.  And a
plain lower case, which is one of ASCII characters without the letter of the
Kelvin sign, comes of ASCII letters alone.

## Main definitions

  * `Text.Recased` — texts that differ in the case of their ASCII letters.
  * `Text.IsPlain` — the characters that only ASCII characters lead to.

## Main statements

  * `Text.toLower_congr` — what does not tell the letters of both cases apart
    does not depend on case.
  * `Text.lower_congr` — recased texts have the same lower case.
  * `Text.map_toLower_of_lower` — plain lower case comes of ASCII letters.
-/

import LineCalc.Text.Blank
import LineCalc.Text.Casing
import LineCalc.Text.DecimalDigit

namespace LineCalc

namespace Text

/-! ## §1. Letters -/

/-- **Recasing**: a text with other choices of upper and lower case for its ASCII letters.  All
other characters stay what they are, for `Char.toLower` moves the capital letters from A to Z
only. -/
def Recased (cs ds : List Char) : Prop := cs.map Char.toLower = ds.map Char.toLower

instance (cs ds : List Char) : Decidable (Recased cs ds) :=
  inferInstanceAs (Decidable (_ = _))

theorem toLower_of_not_letter {c : Char} (other : ¬ (65 ≤ c.toNat ∧ c.toNat ≤ 90)) :
    c.toLower = c := by
  unfold Char.toLower
  apply dif_neg
  intro upper
  exact other (by simpa [UInt32.le_iff_toNat_le] using upper)

theorem exists_letter {c : Char} (letter : 65 ≤ c.toNat ∧ c.toNat ≤ 90) :
    ∃ n < 26, c = Char.ofNat (n + 65) := by
  refine ⟨c.toNat - 65, by omega, ?_⟩
  rw [Nat.sub_add_cancel letter.1, Char.ofNat_toNat]

/-- What takes one value for both cases of every letter does not depend on case. -/
theorem toLower_congr {α : Type} {f : Char → α}
    (letters : ∀ n < 26, f (Char.ofNat (n + 65)).toLower = f (Char.ofNat (n + 65))) (c : Char) :
    f c.toLower = f c := by
  -- Only the capital letters have another form at all, and these were looked at.
  by_cases letter : 65 ≤ c.toNat ∧ c.toNat ≤ 90
  · obtain ⟨n, small, rfl⟩ := exists_letter letter
    exact letters n small
  · rw [toLower_of_not_letter letter]

/-- A property that both cases of every letter have alike does not depend on case. -/
theorem toLower_iff {P : Char → Prop} [DecidablePred P]
    (letters : ∀ n < 26, P (Char.ofNat (n + 65)).toLower ↔ P (Char.ofNat (n + 65))) (c : Char) :
    P c.toLower ↔ P c := by
  have same := toLower_congr (f := fun d => decide (P d)) ?_ c
  · exact decide_eq_decide.1 same
  · intro n small
    exact decide_eq_decide.2 (letters n small)

@[simp] theorem toLower_toLower (c : Char) : c.toLower.toLower = c.toLower :=
  toLower_congr (by decide +kernel) c

theorem inRanges_eq_false {ranges : List (Nat × Nat)} {c : Char}
    (h : ∀ range ∈ ranges, c.toNat < range.1 ∨ range.2 < c.toNat) : inRanges ranges c = false := by
  unfold inRanges
  rw [List.any_eq_false]
  intro range member
  have outside := h range member
  simp only [Bool.and_eq_true, decide_eq_true_eq]
  omega

theorem inRanges_toLower {ranges : List (Nat × Nat)}
    (apart : ∀ range ∈ ranges, range.2 < 65 ∨ 90 < range.1 ∧ range.2 < 97 ∨ 122 < range.1)
    (c : Char) : inRanges ranges c.toLower = inRanges ranges c := by
  have codes : ∀ n < 26, (Char.ofNat (n + 65)).toNat = n + 65 ∧
      (Char.ofNat (n + 65)).toLower.toNat = n + 97 := by decide
  apply toLower_congr
  intro n small
  obtain ⟨upper, lower⟩ := codes n small
  have neither : ∀ d : Char, d.toNat = n + 65 ∨ d.toNat = n + 97 → inRanges ranges d = false := by
    intro d code
    apply inRanges_eq_false
    intro range member
    have side := apart range member
    omega
  rw [neither _ (.inl upper), neither _ (.inr lower)]

@[simp] theorem isBlank_toLower (c : Char) : isBlank c.toLower = isBlank c :=
  inRanges_toLower (by decide +kernel) c

@[simp] theorem digitValue?_toLower (c : Char) : digitValue? c.toLower = digitValue? c :=
  toLower_congr (by decide +kernel) c

@[simp] theorem isIgnorable_toLower (c : Char) : isIgnorable c.toLower = isIgnorable c :=
  inRanges_toLower (by decide +kernel) c

@[simp] theorem isCased_toLower (c : Char) : isCased c.toLower = isCased c :=
  toLower_congr (by decide +kernel) c

@[simp] theorem lowerChar_toLower (c : Char) : lowerChar c.toLower = lowerChar c :=
  toLower_congr (by decide +kernel) c

theorem toLower_eq_iff {d : Char} (other : d.isAlpha = false) (c : Char) :
    c.toLower = d ↔ c = d := by
  have alpha : ∀ n < 26, (Char.ofNat (n + 65)).toLower.isAlpha = true ∧
      (Char.ofNat (n + 65)).isAlpha = true := by decide
  refine @toLower_iff (· = d) _ ?_ c
  intro n small
  obtain ⟨lower, upper⟩ := alpha n small
  constructor
  · rintro rfl
    exact nomatch lower.symm.trans other
  · rintro rfl
    exact nomatch upper.symm.trans other

/-- A text that starts with no letter in small letters starts so. -/
theorem eq_cons_of_map_toLower {d : Char} (other : d.isAlpha = false) {cs rest : List Char}
    (h : cs.map Char.toLower = d :: rest) : ∃ rest', cs = d :: rest' := by
  obtain ⟨c, rest', rfl, first, -⟩ := List.map_eq_cons_iff.1 h
  rw [(toLower_eq_iff other c).1 first]
  exact ⟨rest', rfl⟩

theorem map_toLower_eq_singleton_iff {d : Char} (other : d.isAlpha = false) {cs : List Char} :
    cs.map Char.toLower = [d] ↔ cs = [d] := by
  constructor
  · intro h
    obtain ⟨c, rfl, same⟩ := List.map_eq_singleton_iff.1 h
    rw [(toLower_eq_iff other c).1 same]
  · rintro rfl
    rw [List.map_singleton, (toLower_eq_iff other d).2 rfl]

theorem map_toLower_map_toLower (cs : List Char) :
    (cs.map Char.toLower).map Char.toLower = cs.map Char.toLower := by
  simp

theorem Recased.length_eq {cs ds : List Char} (h : Recased cs ds) : cs.length = ds.length := by
  simpa using congrArg List.length h

/-! ## §2. Lower case -/

theorem startsCased_map_toLower (cs : List Char) :
    startsCased (cs.map Char.toLower) = startsCased cs := by
  have same : isIgnorable ∘ Char.toLower = isIgnorable := funext isIgnorable_toLower
  unfold startsCased
  rw [List.dropWhile_map, same]
  cases cs.dropWhile isIgnorable <;> simp

/-- Lower case does not depend on the case of ASCII letters, behind a cased letter or not. -/
theorem lowerFrom_map_toLower (afterCased : Bool) (cs : List Char) :
    lowerFrom afterCased (cs.map Char.toLower) = lowerFrom afterCased cs := by
  -- What stands behind a sigma is looked at in either case, and tells the same.
  induction cs generalizing afterCased with
  | nil => rfl
  | cons c rest ih =>
    have sigma : c.toLower = 'Σ' ↔ c = 'Σ' := toLower_eq_iff (by decide) c
    rw [List.map_cons, lowerFrom, lowerFrom]
    simp only [sigma, startsCased_map_toLower, lowerChar_toLower, isIgnorable_toLower,
      isCased_toLower, ih]

/-- **Recased texts have the same lower case**. -/
theorem lower_congr {cs ds : List Char} (h : Recased cs ds) : lower cs = lower ds :=
  calc lower cs
      = lower (cs.map Char.toLower) := (lowerFrom_map_toLower false cs).symm
    _ = lower (ds.map Char.toLower) := congrArg lower h
    _ = lower ds := lowerFrom_map_toLower false ds

/-! ## §3. Plain lower case -/

/-- **Plain**: an ASCII character other than the letter of the Kelvin sign. -/
def IsPlain (c : Char) : Prop := c.toNat < 128 ∧ c ≠ 'k'

instance (c : Char) : Decidable (IsPlain c) := inferInstanceAs (Decidable (_ ∧ _))

/-- The lower-case runs lead to code points of characters, and not to control characters. -/
theorem lowerRuns_bounds : ∀ run ∈ lowerRuns, 0x20 ≤ run.1 + run.2.2.2 ∧
    (run.2.1 + run.2.2.2 < 0xD800 ∨
      0xDFFF < run.1 + run.2.2.2 ∧ run.2.1 + run.2.2.2 < 0x110000) := by
  decide +kernel

/-- Two of the lower-case runs lead to ASCII characters: that of the capital letters, and that of
the Kelvin sign. -/
theorem lowerRuns_ascii : ∀ run ∈ lowerRuns,
    run = (0x41, 0x5A, 1, 32) ∨ run = (0x212A, 0x212A, 1, -8383) ∨ 128 ≤ run.1 + run.2.2.2 := by
  decide +kernel

theorem shifted_letters : ∀ n < 26,
    shifted lowerRuns (Char.ofNat (n + 65)) = (Char.ofNat (n + 65)).toLower := by
  decide +kernel

theorem shifted_lowerRuns_spec (c : Char) :
    shifted lowerRuns c = c ∨
      ∃ run ∈ lowerRuns, run.1 ≤ c.toNat ∧ c.toNat ≤ run.2.1 ∧
        ((shifted lowerRuns c).toNat : Int) = c.toNat + run.2.2.2 := by
  unfold shifted
  cases moved : shift? lowerRuns c.toNat with
  | none => exact .inl rfl
  | some shift =>
    refine .inr ?_
    obtain ⟨⟨first, last, step, shift'⟩, found, rfl⟩ := Option.map_eq_some_iff.1 moved
    have member := List.mem_of_find?_eq_some found
    obtain ⟨least, range⟩ := lowerRuns_bounds _ member
    have inside := List.find?_some found
    simp only [Bool.and_eq_true, decide_eq_true_eq] at inside least range
    obtain ⟨⟨from_first, to_last⟩, -⟩ := inside
    refine ⟨_, member, from_first, to_last, ?_⟩
    -- No run leads into the surrogates or out of range, so the shifted code is a character.
    have valid : (c.toNat + shift').toNat.isValidChar := by
      unfold Nat.isValidChar
      omega
    show ((Char.ofNat (c.toNat + shift').toNat).toNat : Int) = c.toNat + shift'
    rw [Char.ofNat, dif_pos valid]
    show ((c.toNat + shift').toNat : Int) = c.toNat + shift'
    omega

/-- **A plain character comes of an ASCII character**, by the case of its letter. -/
theorem shifted_eq_toLower {c : Char} (plain : IsPlain (shifted lowerRuns c)) :
    shifted lowerRuns c = c.toLower := by
  by_cases letter : 65 ≤ c.toNat ∧ c.toNat ≤ 90
  · obtain ⟨n, small, rfl⟩ := exists_letter letter
    exact shifted_letters n small
  · rw [toLower_of_not_letter letter]
    rcases shifted_lowerRuns_spec c with same | ⟨run, member, least, most, code⟩
    · exact same
    · -- A run that leads to ASCII characters is that of the letters, or that of the Kelvin sign.
      rcases lowerRuns_ascii run member with rfl | rfl | far
      · exact absurd ⟨least, most⟩ letter
      · have kelvin : (shifted lowerRuns c).toNat = 107 := by
          dsimp only at least most code
          omega
        refine absurd ?_ plain.2
        rw [← Char.ofNat_toNat (shifted lowerRuns c), kelvin]
      · have ascii := plain.1
        omega

theorem lowerChar_eq_toLower {c : Char} (plain : ∀ d ∈ lowerChar c, IsPlain d) :
    lowerChar c = [c.toLower] := by
  unfold lowerChar at plain ⊢
  split
  · next dotted =>
    rw [if_pos dotted] at plain
    exact absurd (plain '\u0307' (by simp)) (by decide)
  · next other =>
    rw [if_neg other] at plain
    rw [shifted_eq_toLower (plain _ (List.mem_singleton.2 rfl))]

theorem map_toLower_of_lowerFrom {afterCased : Bool} {cs : List Char}
    (plain : ∀ d ∈ lowerFrom afterCased cs, IsPlain d) :
    lowerFrom afterCased cs = cs.map Char.toLower := by
  induction cs generalizing afterCased with
  | nil => rfl
  | cons c rest ih =>
    rw [lowerFrom] at plain ⊢
    obtain ⟨plainForm, plainRest⟩ := List.forall_mem_append.1 plain
    rw [ih plainRest]
    split at plainForm
    · -- Neither form of a sigma is plain.
      split at plainForm
      · exact absurd (plainForm 'ς' (by simp)) (by decide)
      · exact absurd (plainForm 'σ' (by simp)) (by decide)
    · next other =>
      rw [if_neg other, lowerChar_eq_toLower plainForm]
      rfl

/-- **Plain lower case comes of ASCII letters** in either case, and of nothing else. -/
theorem map_toLower_of_lower {cs : List Char} (plain : ∀ d ∈ lower cs, IsPlain d) :
    lower cs = cs.map Char.toLower :=
  map_toLower_of_lowerFrom plain

/-- The Kelvin sign has the lower case of a letter, and is no recasing of it. -/
example : lower ['\u212a'] = ['k'] ∧ ¬ Recased ['\u212a'] ['k'] := by decide +kernel

end Text

end LineCalc
