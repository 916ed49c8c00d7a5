/-
Reported — which characters a report holds.

A report is put together from fixed wordings, from a piece of the line, and
from the line itself above a row of carets.  Only the name of an unknown
function is changed on the way, into lower case.  None of these brings in a
control character, so those of a report come from its line, but for the line
feeds between its parts.

## Main definitions

  * `Text.IsControl` — a control character.

## Main statements

  * `Text.mem_of_mem_lower` — lower case brings in no control character.
  * `Line.evaluate_failure_cases` — what a report is put together from.
  * `Line.mem_of_mem_message`, `Line.mem_of_mem_describe` — the control
    characters of a message, or of a report, come from its line.
-/

import LineCalc.Proofs.Line.Underline
import LineCalc.Proofs.Text.Recased

namespace LineCalc

/-! ## §1. Texts -/

namespace Text

/-- **Control character**: one below the space. -/
def IsControl (c : Char) : Prop := c.toNat < 0x20

instance (c : Char) : Decidable (IsControl c) := Nat.decLt c.toNat 0x20

def lacksControls (text : String) : Bool := text.toList.all fun c => !decide (IsControl c)

theorem not_mem_of_lacksControls {text : String} (lacks : lacksControls text = true) {c : Char}
    (control : IsControl c) : c ∉ text.toList := by
  intro member
  have printed := List.all_eq_true.1 lacks c member
  simp [control] at printed

/-- A character that is moved to lower case is moved to no control character. -/
theorem shifted_lowerRuns_cases (c : Char) :
    shifted lowerRuns c = c ∨ ¬ IsControl (shifted lowerRuns c) := by
  rcases shifted_lowerRuns_spec c with same | ⟨run, member, first, -, code⟩
  · exact .inl same
  · refine .inr ?_
    obtain ⟨least, -⟩ := lowerRuns_bounds run member
    show ¬ (shifted lowerRuns c).toNat < 0x20
    omega

/-- The lower case of a character holds no other control character. -/
theorem eq_of_mem_lowerChar {c d : Char} (control : IsControl d) (member : d ∈ lowerChar c) :
    d = c := by
  unfold lowerChar at member
  split at member
  · simp only [List.mem_cons, List.not_mem_nil, or_false] at member
    rcases member with rfl | rfl
    · exact absurd control (by decide)
    · exact absurd control (by decide)
  · obtain rfl := List.mem_singleton.1 member
    exact (shifted_lowerRuns_cases c).resolve_right (not_not_intro control)

/-- **Lower case brings in no control character**. -/
theorem mem_of_mem_lower {c : Char} {cs : List Char} (control : IsControl c)
    (member : c ∈ lower cs) : c ∈ cs := by
  -- The sigma rule looks around, so any text may stand before this one.
  have anywhere : ∀ afterCased, c ∈ lowerFrom afterCased cs → c ∈ cs := by
    clear member
    induction cs with
    | nil => exact fun _ member => member
    | cons d rest ih =>
      intro afterCased member
      unfold lowerFrom at member
      rcases List.mem_append.1 member with here | later
      · have same : c = d := by
          split at here
          · exfalso
            split at here
            · rw [List.mem_singleton.1 here] at control
              exact absurd control (by decide)
            · rw [List.mem_singleton.1 here] at control
              exact absurd control (by decide)
          · exact eq_of_mem_lowerChar control here
        rw [same]
        exact List.mem_cons_self ..
      · exact List.mem_cons_of_mem _ (ih _ later)
  exact anywhere false member

end Text

/-! ## §2. Wordings and carets -/

open Text

theorem Failure.Kind.not_mem_wording (kind : Kind) {c : Char} (control : IsControl c) :
    c ∉ kind.wording.toList := by
  have lacks : lacksControls kind.wording = true := by
    cases kind <;> decide +kernel
  exact not_mem_of_lacksControls lacks control

/-- A row of carets has no other characters than blanks and carets. -/
theorem Mark.not_mem_carets (mark : Mark) {c : Char} (control : IsControl c) :
    c ∉ mark.carets.toList := by
  intro member
  have cases : c = ' ' ∨ c = '^' := by
    unfold carets row at member
    simp only [String.toList_append, String.toList_ofList, List.mem_append] at member
    rcases member with (margin | blank) | caret
    · exact .inl (by simpa using margin)
    · exact .inl (List.eq_of_mem_replicate blank)
    · exact .inr (List.eq_of_mem_replicate caret)
  rcases cases with rfl | rfl
  · exact absurd control (by decide)
  · exact absurd control (by decide)

/-! ## §3. Reports -/

namespace Line

/-- What a report names of a word is the word, but for the case of its letters. -/
theorem Blamed.mem_of_mem_token {line : String} {words : List Word} {kind : Failure.Kind}
    {word : Word} {token : String} (laid : Laid 0 line.toList words)
    (blamed : Blamed words kind word token) {c : Char} (control : IsControl c)
    (member : c ∈ token.toList) : c ∈ line.toList := by
  have inWord : c ∈ word.text.toList := by
    cases blamed with
    | operand => exact member
    | function =>
      rw [nameOf, String.toList_ofList] at member
      exact mem_of_mem_lower control member
    | operator => exact member
  obtain ⟨column, -, stands⟩ := laid.standsAt blamed.mem
  rw [← stands.slice] at inWord
  exact List.mem_of_mem_drop (List.mem_of_mem_take inWord)

/-- **What a report is put together from**: it is about the line as a whole, or about a piece of it,
and the control characters of the piece are in the line. -/
theorem evaluate_failure_cases {line : String} {failure : Failure}
    (refused : evaluate (some line) = .error (.failure failure)) :
    (∃ kind, failure = .whole kind) ∨
      ∃ kind word token, failure = failureAt kind line word token ∧
        ∀ c ∈ token.toList, IsControl c → c ∈ line.toList := by
  have meaning := grammar_read? (some line)
  unfold evaluate at refused
  -- A failure of computing is about the line as a whole; a report of reading is so, or it blames a
  -- word.
  cases read : read? (some line) with
  | ok expr =>
    rw [read] at refused meaning
    obtain ⟨kind, -, whole⟩ := Expr.computing_of_value refused meaning.isFinite
    exact .inl ⟨kind, Fault.failure.inj whole⟩
  | error report =>
    rw [read] at refused meaning
    obtain rfl := Fault.failure.inj (Except.error.inj refused)
    cases meaning with
    | blank => exact .inl ⟨_, rfl⟩
    | @badFactorial _ body exclaims =>
      refine .inr ⟨_, _, _, rfl, fun c member _ => ?_⟩
      obtain ⟨gap, more, rest, parts, -, -⟩ := exclaims.parts
      rw [String.toList_ofList] at member
      rw [parts]
      simp [member]
    | sentence _ _ laid sentence =>
      rcases sentence.error_cases with rfl | ⟨kind, word, token, blamed, rfl⟩
      · exact .inl ⟨_, rfl⟩
      · exact .inr ⟨kind, word, token, rfl, fun c member control =>
          blamed.mem_of_mem_token laid control member⟩

/-- **The control characters of a message come from its line**. -/
theorem mem_of_mem_message {line : String} {failure : Failure}
    (refused : evaluate (some line) = .error (.failure failure)) {c : Char}
    (control : IsControl c) (member : c ∈ failure.message.toList) : c ∈ line.toList := by
  rcases evaluate_failure_cases refused with ⟨kind, rfl⟩ | ⟨kind, word, token, rfl, taken⟩
  · exact absurd member (kind.not_mem_wording control)
  · have parts : c ∈ (kind.wording ++ ": " ++ token).toList := member
    simp only [String.toList_append, List.mem_append] at parts
    rcases parts with (wording | colon) | named
    · exact absurd wording (kind.not_mem_wording control)
    · exact absurd colon (not_mem_of_lacksControls (by decide) control)
    · exact taken c named control

/-- **The control characters of a report come from its line**, but for line feeds. -/
theorem mem_of_mem_describe {line : String} {failure : Failure}
    (refused : evaluate (some line) = .error (.failure failure)) {c : Char}
    (control : IsControl c) (other : c ≠ '\n') (member : c ∈ failure.describe.toList) :
    c ∈ line.toList := by
  cases placed : failure.mark with
  | none =>
    unfold Failure.describe at member
    rw [placed] at member
    exact mem_of_mem_message refused control member
  | some mark =>
    obtain ⟨_, _, -, -, rfl⟩ := mark_of_evaluate refused placed
    rw [Failure.describe_of_mark placed] at member
    simp only [String.toList_append, List.mem_append] at member
    rcases member with (((message | feed) | margin | source) | feed) | carets
    · exact mem_of_mem_message refused control message
    · exact absurd (by simpa using feed) other
    · exact absurd margin (not_mem_of_lacksControls (by decide) control)
    · exact source
    · exact absurd (by simpa using feed) other
    · exact absurd carets (Mark.not_mem_carets _ control)

end Line

end LineCalc
