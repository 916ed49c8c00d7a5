/-
Limits — reading a document within limits.

A limit to the digits of integers takes documents away and adds none.  A
text is read as it is without the limit, up to the first decimal integer
that has too many digits; if it comes to none, the limit has no effect.

The argument goes over the readers.  Two outcomes go together if the first
is cut short by the limit or is the second, and steps keep that.

## Main definitions

  * `Toml.Capped` — an outcome within a limit, beside the one without it.

## Main statements

  * `Toml.capped_bounded` — values, items and members.
  * `Toml.Document.capped_read` — documents.
  * `Toml.Limits.read_of_passedBy` — a text that passes no limit.
-/

import LineCalc.Toml.Document

namespace LineCalc

namespace Toml

/-! ## §1. Outcomes -/

/-- **Capped outcome**: it is cut short, or it is the free one, which nothing cuts short. -/
structure Capped {α : Type} (capped free : Except Fault α) : Prop where
  free_ne : free ≠ .error .overlong
  either : capped = .error .overlong ∨ capped = free

section outcomes

variable {α β : Type}

theorem capped_self {a : Except Fault α} (h : a ≠ .error .overlong) : Capped a a := ⟨h, .inr rfl⟩

theorem capped_ok (a : α) : Capped (.ok a) (.ok a) := capped_self nofun

theorem capped_malformed : Capped (.error .malformed : Except Fault α) (.error .malformed) :=
  capped_self nofun

theorem capped_orMalformed (found : Option α) : Capped (orMalformed found) (orMalformed found) := by
  cases found with
  | none => exact capped_malformed
  | some a => exact capped_ok a

/-- **One step behind another**. -/
theorem Capped.bind {capped free : Except Fault α} {next next' : α → Except Fault β}
    (first : Capped capped free) (later : ∀ a, Capped (next a) (next' a)) :
    Capped (capped >>= next) (free >>= next') := by
  have free_ne : (free >>= next') ≠ .error .overlong := by
    cases free with
    | error fault =>
      intro same
      exact first.free_ne (congrArg Except.error (Except.error.inj same))
    | ok a => exact (later a).free_ne
  refine ⟨free_ne, ?_⟩
  rcases first.either with rfl | rfl
  · exact .inl rfl
  · cases capped with
    | error fault => exact .inr rfl
    | ok a => exact (later a).either

end outcomes

/-! ## §2. Readers -/

theorem capped_decimalNumber (most : Option Nat) (cs : List Char) :
    Capped (decimalNumber most cs) (decimalNumber none cs) := by
  unfold decimalNumber
  refine (capped_orMalformed _).bind fun (whole, left) => ?_
  dsimp only
  split
  · -- The digits are counted on one side only.
    cases most with
    | none => exact capped_ok _
    | some most =>
      by_cases long : most < whole.length
      · exact ⟨nofun, .inl (by simp [long, bind, Except.bind, throw, throwThe, MonadExceptOf.throw])⟩
      · exact ⟨nofun, .inr (by simp [long])⟩
  · exact capped_ok _

theorem capped_scalar (most : Option Nat) (cs : List Char) :
    Capped (scalar most cs) (scalar none cs) := by
  unfold scalar number
  split
  · exact capped_ok _
  split
  · exact capped_ok _
  have decimal := capped_decimalNumber most cs
  rcases decimal.either with cut | same
  · rw [cut]
    refine ⟨?_, .inl rfl⟩
    split
    · exact (capped_orMalformed _).free_ne
    · exact decimal.free_ne
  · rw [same]
    split
    · exact capped_orMalformed _
    · exact capped_self decimal.free_ne

/-- **Values, items and members**, by induction on the bound that they share. -/
theorem capped_bounded (most : Option Nat) (bound : Nat) :
    (∀ cs, Capped (boundedValue most bound cs) (boundedValue none bound cs)) ∧
      (∀ cs, Capped (boundedItems most bound cs) (boundedItems none bound cs)) ∧
      ∀ t closed cs,
        Capped (boundedMembers most bound t closed cs) (boundedMembers none bound t closed cs) := by
  -- The three readers call each other with the next smaller bound, so one induction proves all
  -- three.
  induction bound with
  | zero =>
    refine ⟨fun cs => ?_, fun cs => ?_, fun t closed cs => ?_⟩
    · unfold boundedValue
      exact capped_malformed
    · unfold boundedItems
      exact capped_malformed
    · unfold boundedMembers
      exact capped_malformed
  | succ bound ih =>
    obtain ⟨values, items, members⟩ := ih
    refine ⟨fun cs => ?_, fun cs => ?_, fun t closed cs => ?_⟩
    · unfold boundedValue
      split
      · refine (capped_orMalformed _).bind fun rest => ?_
        split
        · exact capped_ok _
        · exact (items _).bind fun _ => capped_ok _
      · split
        · exact capped_ok _
        · exact (members _ _ _).bind fun _ => capped_ok _
      · exact capped_orMalformed _
      · exact capped_orMalformed _
      -- Only here is a numeral read, and the two readers may differ.
      · exact capped_scalar most cs
    · unfold boundedItems
      refine (values cs).bind fun (item, left) => ?_
      refine (capped_orMalformed _).bind fun rest => ?_
      split
      · exact capped_ok _
      · refine (capped_orMalformed _).bind fun rest => ?_
        split
        · exact capped_ok _
        · exact (items _).bind fun _ => capped_ok _
      · exact capped_malformed
    · unfold boundedMembers
      refine (capped_orMalformed _).bind fun (path, left) => ?_
      refine (capped_orMalformed _).bind fun rest => ?_
      refine (values _).bind fun (v, left) => ?_
      refine (capped_orMalformed _).bind fun (t, closed) => ?_
      dsimp only
      split
      · exact capped_ok _
      · exact members _ _ _
      · exact capped_malformed

theorem capped_statement (most : Option Nat) (d : Draft) (cs : List Char) :
    Capped (statement most d cs) (statement none d cs) := by
  unfold statement
  split
  · exact capped_ok _
  · exact capped_ok _
  · exact capped_ok _
  · exact capped_orMalformed _
  · refine (capped_orMalformed _).bind fun (path, left) => ?_
    refine (capped_orMalformed _).bind fun rest => ?_
    refine ((capped_bounded most _).1 _).bind fun (v, left) => ?_
    exact (capped_orMalformed _).bind fun d => capped_ok _

theorem capped_statements (most : Option Nat) (bound : Nat) (d : Draft) (cs : List Char) :
    Capped (statements most bound d cs) (statements none bound d cs) := by
  induction bound generalizing d cs with
  | zero => exact capped_malformed
  | succ bound ih =>
    unfold statements
    refine (capped_statement most d _).bind fun (d, left) => ?_
    refine (capped_orMalformed _).bind fun rest => ?_
    split
    · exact capped_ok _
    · exact ih d _
    · exact capped_malformed

/-- **Documents**: within a limit to digits a text is read as it is without it, unless it comes to a
decimal integer that is cut short. -/
theorem Document.capped_read (most : Option Nat) (text : String) :
    Capped (read most text) (read none text) :=
  (capped_statements most _ _ _).bind fun d => capped_ok d.root

/-! ## §3. Limits -/

namespace Limits

/-- **A text that passes no limit** is read as it is without limits. -/
theorem read_of_passedBy {limits : Limits} {text : String} (within : limits.passedBy text = .none) :
    (Document.read limits.digits text).toOption = Document.parse? text := by
  unfold passedBy at within
  split at within
  · cases within
  · rcases (Document.capped_read limits.digits text).either with cut | same
    · rw [cut] at within
      cases within
    · rw [same]
      rfl

theorem passedBy_none (text : String) : none.passedBy text = .none := by
  have free := (Document.capped_read .none text).free_ne
  unfold passedBy
  split
  · next deep => cases deep
  split
  · next long => exact absurd long free
  · rfl

end Limits

/-- Where integers have three digits at most, a fourth is one too many, but not in another base. -/
example : ({ Limits.none with digits := some 3 } : Limits).passedBy "a = 0x1234\nb = 1_234" =
    some .digits := by
  decide +kernel

end Toml

end LineCalc
