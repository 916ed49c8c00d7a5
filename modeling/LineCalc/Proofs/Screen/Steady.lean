/-
Steady — texts that every console shows as they are.

A console may do something to tabs, to control characters, to names between
colons and to backslashes.  A text with none of these, and with ASCII
characters alone, is shown as it is if it fits into a line.  The text of a
result is such a text: it is made of digits, a point, signs and letters.

## Main definitions

  * `Screen.Steady` — a character to which no console does anything.

## Main statements

  * `Screen.verbatim_of_steady` — a text of such characters.
  * `Display.steady_of_text` — the text of a result has no others.
  * `Screen.Console.plain_of_text` — so it is shown as it is.
-/

import LineCalc.Display
import LineCalc.Proofs.Double.Written
import LineCalc.Screen

namespace LineCalc

namespace Screen

/-! ## §1. Characters -/

/-- **Steady character**: printable ASCII, but no colon and no backslash. -/
def Steady (c : Char) : Prop := (32 ≤ c.toNat ∧ c.toNat < 127) ∧ c ≠ ':' ∧ c ≠ '\\'

instance (c : Char) : Decidable (Steady c) := inferInstanceAs (Decidable (_ ∧ _))

/-- **Steady text**: it has no other characters. -/
def SteadyText (cs : List Char) : Prop := ∀ c ∈ cs, Steady c

instance (cs : List Char) : Decidable (SteadyText cs) :=
  decidable_of_iff (cs.all fun c => decide (Steady c)) (by simp [SteadyText])

variable {c : Char} {cs cs' : List Char}

theorem steady_of_isDigit (h : c.isDigit = true) : Steady c := by
  have bounds : 48 ≤ c.toNat ∧ c.toNat ≤ 57 := Char.isDigit_iff_toNat.1 h
  refine ⟨by omega, ?_, ?_⟩
  · rintro rfl
    exact absurd h (by decide)
  · rintro rfl
    exact absurd h (by decide)

theorem steadyText_of_digits (h : Text.Digits cs) : SteadyText cs :=
  fun c member => steady_of_isDigit (h c member)

theorem steadyText_cons (h : Steady c) (rest : SteadyText cs) : SteadyText (c :: cs) :=
  List.forall_mem_cons.2 ⟨h, rest⟩

theorem steadyText_append (h : SteadyText cs) (h' : SteadyText cs') : SteadyText (cs ++ cs') :=
  List.forall_mem_append.2 ⟨h, h'⟩

theorem holdsCode_of_not_mem (h : ':' ∉ cs) : holdsCode cs = false := by
  induction cs with
  | nil => rfl
  | cons c rest ih =>
    rw [List.mem_cons, not_or] at h
    have other : c ≠ ':' := Ne.symm h.1
    simp [holdsCode, other, ih h.2]

theorem columns_of_steady (h : SteadyText cs) : columns cs = cs.length := by
  induction cs with
  | nil => rfl
  | cons c rest ih =>
    have ascii : c.toNat < 0x80 := by
      have bounds := (h c (List.mem_cons_self ..)).1
      omega
    have others : columns rest = rest.length := ih fun d m => h d (List.mem_cons_of_mem c m)
    have first : columns (c :: rest) = 1 + columns rest := by simp [columns, ascii]
    rw [first, others, List.length_cons, Nat.add_comm]

/-- **A steady text that fits into a line is verbatim**. -/
theorem verbatim_of_steady {width : Nat} {text : String} (steady : SteadyText text.toList)
    (fits : text.length ≤ width) : Verbatim width text where
  shown c member := by
    obtain ⟨⟨least, -⟩, -⟩ := steady c member
    refine ⟨?_, ?_⟩
    · simp only [isSuppressed, List.contains_cons, List.contains_nil, Bool.or_false,
        Bool.or_eq_false_iff, beq_eq_false_iff_ne]
      omega
    · rintro rfl
      exact absurd least (by decide)
  uncoded := holdsCode_of_not_mem fun member => (steady _ member).2.1 rfl
  narrow := by rwa [columns_of_steady steady, String.length_toList]
  opens before rest parts := by
    have backslash : '\\' ∈ text.toList := by simp [parts]
    exact absurd rfl (steady _ backslash).2.2
  ends last := absurd rfl (steady _ (List.mem_of_getLast? last)).2.2

end Screen

/-! ## §2. Numbers -/

open Screen

namespace Decimal

variable {digits : List Char}

theorem steady_positional (isDigits : Text.Digits digits) (showsFraction : Bool) (exponent : Int) :
    SteadyText (positional showsFraction digits exponent) := by
  have zeros (k : Nat) : SteadyText (List.replicate k '0') :=
    steadyText_of_digits (Text.digits_replicate k)
  unfold positional
  split
  · exact steadyText_cons (by decide) (steadyText_cons (by decide)
      (steadyText_append (zeros _) (steadyText_of_digits isDigits)))
  dsimp only
  generalize exponent.toNat + 1 = width
  have whole : SteadyText (digits.take width ++ List.replicate (width - digits.length) '0') :=
    steadyText_append (fun c member => steady_of_isDigit (isDigits c (List.mem_of_mem_take member)))
      (zeros _)
  split
  · split
    · exact steadyText_append whole (by decide)
    · exact whole
  · next behind =>
    have part : SteadyText (digits.drop width) := fun c member =>
      steady_of_isDigit (isDigits c (List.mem_of_mem_drop member))
    exact steadyText_append whole (steadyText_cons (by decide) part)

theorem steady_scientific (isDigits : Text.Digits digits) (width : Nat) (exponent : Int) :
    SteadyText (scientific width digits exponent) := by
  have magnitude : SteadyText (List.replicate
      (width - (Nat.toDigits 10 exponent.natAbs).length) '0' ++ Nat.toDigits 10 exponent.natAbs) :=
    steadyText_of_digits (Text.digits_append (Text.digits_replicate _) (Text.digits_toDigits _))
  have sign : Steady (if exponent < 0 then '-' else '+') := by split <;> decide
  have tail := steadyText_cons (show Steady 'e' by decide) (steadyText_cons sign magnitude)
  unfold scientific
  refine steadyText_append ?_ tail
  have steady := steadyText_of_digits isDigits
  split
  · next lead second more =>
    obtain ⟨first, others⟩ := List.forall_mem_cons.1 steady
    exact steadyText_cons first (steadyText_cons (by decide) others)
  · exact steady

theorem steady_render (layout : Layout) (d : Decimal) : SteadyText (d.render layout) := by
  have isDigits : Text.Digits d.digits := Text.digits_toDigits d.coefficient
  unfold render
  dsimp only
  split
  · exact steady_positional isDigits layout.showsFraction d.leadingExponent
  · exact steady_scientific isDigits layout.exponentWidth d.leadingExponent

end Decimal

theorem Double.steady_render {layout : Layout} (infinity : SteadyText layout.infinityText.toList)
    (nan : SteadyText layout.nanText.toList) (choose : Nat → Decimal) (x : Double) :
    SteadyText (x.render layout choose) := by
  have signed {cs : List Char} (neg : Bool) (h : SteadyText cs) : SteadyText (signedText neg cs) := by
    cases neg with
    | false => exact h
    | true => exact steadyText_cons (by decide) h
  cases x with
  | nan => exact nan
  | infinity neg => exact signed neg infinity
  | finite neg units fits => exact signed neg (Decimal.steady_render layout (choose units))

/-- **The text of a result is steady**. -/
theorem Display.steady_of_text {precision : Option Int} {x : Double} {shown : String}
    (displayed : text precision x = .ok shown) : SteadyText shown.toList := by
  unfold text at displayed
  split at displayed
  · obtain rfl := Except.ok.inj displayed
    unfold Double.text
    rw [String.toList_ofList]
    exact Double.steady_render (by decide) (by decide) Double.shortest x
  · next p =>
    split at displayed
    · exact nomatch displayed
    · obtain rfl := Except.ok.inj displayed
      unfold withDigits
      simp only [String.toList_ofList]
      -- The choice of digits is named, lest they be computed.
      generalize (fun units => ((Double.expansion units).rounded (max p.toNat 1)).normalized) = choose
      have words : SteadyText "inf".toList ∧ SteadyText "nan".toList := by decide
      exact Double.steady_render words.1 words.2 choose x

/-- **A result is shown as it is** on every console that is wide enough. -/
theorem Screen.Console.plain_of_text (console : Console) {precision : Option Int} {x : Double}
    {shown : String} (displayed : Display.text precision x = .ok shown)
    (fits : shown.length ≤ console.width) : console.plain shown = shown :=
  console.plain_of_verbatim shown (verbatim_of_steady (Display.steady_of_text displayed) fits)

end LineCalc
