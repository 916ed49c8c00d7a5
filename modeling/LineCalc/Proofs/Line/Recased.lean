/-
Recased — lines in either case of their letters.

A function is recognised by the lower case of a word, which is a matter of all
scripts, and yet only words of ASCII letters are recognised.  A line may be
recased throughout: its words stay where they are, and so does the mark at its
end; a name is the same name, a number the same number, and a symbol has no
letters.  So the line is read as the same expression, or fails alike.

## Main definitions

  * `Failure.Recased` — reports that differ in the case of letters only.
  * `RecasedOutcomes` — the same result, or such reports.
  * `Line.Caseless` — names and lines do not depend on the case of ASCII
    letters.

## Main statements

  * `Line.lower_eq_name_iff` — which words are in lower case the name of a
    function.
  * `Line.words_recased` — a recased line has recased words in the same places.
  * `Line.read_recased` — a recased line is read as the same expression, or
    fails alike.
  * `Line.caseless` — names and lines do not depend on case.
-/

import LineCalc.Proofs.Double.RecasedLiteral
import LineCalc.Proofs.Line.Grammar

namespace LineCalc

/-! ## §1. Names -/

namespace Line

open Text

/-- The names of functions are their own lower case, and hold no letter of the Kelvin sign. -/
theorem functionNames_plain : ∀ name ∈ functionNames,
    lower name.toList = name.toList ∧ name.toList.map Char.toLower = name.toList ∧
      (name.toList.all fun c => decide (IsPlain c)) = true := by
  decide +kernel

theorem isPlain_of_mem {name : String} (known : name ∈ functionNames) {c : Char}
    (member : c ∈ name.toList) : IsPlain c := by
  obtain ⟨-, -, plain⟩ := functionNames_plain name known
  exact of_decide_eq_true (List.all_eq_true.1 plain c member)

/-- **A word is in lower case the name of a function** exactly if it is that name in any case of its
ASCII letters. -/
theorem lower_eq_name_iff {name : String} (known : name ∈ functionNames) (cs : List Char) :
    lower cs = name.toList ↔ Recased cs name.toList := by
  obtain ⟨ownLower, small, -⟩ := functionNames_plain name known
  constructor
  · intro same
    have ascii : lower cs = cs.map Char.toLower := by
      apply map_toLower_of_lower
      rw [same]
      exact fun c => isPlain_of_mem known
    show cs.map Char.toLower = name.toList.map Char.toLower
    rw [← ascii, same, small]
  · intro recased
    rw [lower_congr recased, ownLower]

/-- The name of a function in any case has ASCII characters only. -/
theorem ascii_of_recased {name : String} (known : name ∈ functionNames) {cs : List Char}
    (h : Recased cs name.toList) : ∀ c ∈ cs, c.toNat < 128 := by
  obtain ⟨-, small, -⟩ := functionNames_plain name known
  have same : cs.map Char.toLower = name.toList := h.trans small
  intro c member
  have ascii : c.toLower.toNat < 128 := by
    apply (isPlain_of_mem known _).1
    rw [← same]
    exact List.mem_map_of_mem member
  exact (toLower_iff (P := fun d => d.toNat < 128) (by decide) c).1 ascii

/-- The lower case of a word is the name of a function exactly if the word is recased from it. -/
theorem nameOf_eq_iff {name : String} (known : name ∈ functionNames) (word : Word) :
    nameOf word = name ↔ Recased word.text.toList name.toList := by
  rw [← lower_eq_name_iff known]
  unfold nameOf
  constructor
  · intro same
    rw [← same, String.toList_ofList]
  · intro same
    rw [same, String.ofList_toList]

end Line

/-! ## §2. Outcomes -/

/-- **Recased reports**: of one kind, at one place, and with the same token but for the case of its
letters.  The token of an unknown function is the same altogether. -/
structure Failure.Recased (failure failure' : Failure) : Prop where
  kind_eq : failure.kind = failure'.kind
  token : Option.Rel (fun text text' : String => Text.Recased text.toList text'.toList)
    failure.token failure'.token
  name_eq : failure.kind = .unknownFunction → failure.token = failure'.token
  place_eq : failure.mark.map (fun mark => (mark.column, mark.length)) =
    failure'.mark.map (fun mark => (mark.column, mark.length))

/-- **Recased outcomes**: the same result, or recased reports. -/
inductive RecasedOutcomes {α : Type} : Except Failure α → Except Failure α → Prop
  | result (a : α) : RecasedOutcomes (.ok a) (.ok a)
  | report {failure failure' : Failure} :
      failure.Recased failure' → RecasedOutcomes (.error failure) (.error failure')

/-- What goes on from recased outcomes in the same way has recased outcomes. -/
theorem RecasedOutcomes.bind {α β : Type} {first first' : Except Failure α}
    {next next' : α → Except Failure β} (h : RecasedOutcomes first first')
    (rest : ∀ a, RecasedOutcomes (next a) (next' a)) :
    RecasedOutcomes (first >>= next) (first' >>= next') := by
  cases h with
  | result a => exact rest a
  | report recased => exact .report recased

theorem Failure.recased_whole (kind : Failure.Kind) : (whole kind).Recased (whole kind) :=
  ⟨rfl, .none, fun _ => rfl, rfl⟩

namespace Line

open Text

/-! ## §3. Words -/

def lowered (word : Word) : Word := ⟨String.ofList (word.text.toList.map Char.toLower), word.column⟩

/-- Words are the same in small letters if they stand in one column and their texts are recased. -/
theorem lowered_eq_iff {word word' : Word} :
    lowered word = lowered word' ↔
      word.column = word'.column ∧ Recased word.text.toList word'.text.toList := by
  unfold lowered Recased
  rw [Word.mk.injEq, String.ofList_inj, and_comm]

section letters

variable {cs ds : List Char}

/-- The small letters of a text are blanks where the text has them. -/
theorem forall_isBlank_map_toLower {blank : Bool} (h : ∀ c ∈ cs, isBlank c = blank) :
    ∀ c ∈ cs.map Char.toLower, isBlank c = blank :=
  List.forall_mem_map.2 fun c member => (isBlank_toLower c).trans (h c member)

theorem isPiece_map_toLower (h : IsPiece cs) : IsPiece (cs.map Char.toLower) :=
  ⟨mt List.map_eq_nil_iff.1 h.1, forall_isBlank_map_toLower h.2⟩

theorem startsBlank_map_toLower (h : StartsBlank cs) : StartsBlank (cs.map Char.toLower) := by
  intro c first
  rw [List.head?_map] at first
  obtain ⟨d, found, rfl⟩ := Option.map_eq_some_iff.1 first
  rw [isBlank_toLower]
  exact h d found

theorem isBlank_comp_toLower : isBlank ∘ Char.toLower = isBlank := funext isBlank_toLower

theorem trimStart_map_toLower (cs : List Char) :
    trimStart (cs.map Char.toLower) = (trimStart cs).map Char.toLower := by
  unfold trimStart
  rw [List.dropWhile_map, isBlank_comp_toLower]

theorem trim_map_toLower (cs : List Char) :
    trim (cs.map Char.toLower) = (trim cs).map Char.toLower := by
  unfold trim
  rw [trimStart_map_toLower, trimEnd_eq_reverse, trimEnd_eq_reverse, ← List.map_reverse,
    trimStart_map_toLower, List.map_reverse]

theorem trim_recased (h : Recased cs ds) : Recased (trim cs) (trim ds) := by
  unfold Recased at h ⊢
  rw [← trim_map_toLower, ← trim_map_toLower, h]

theorem leadingBlanks_recased (h : Recased cs ds) : leadingBlanks cs = leadingBlanks ds := by
  have small : ∀ es : List Char, leadingBlanks (es.map Char.toLower) = leadingBlanks es := by
    intro es
    unfold leadingBlanks
    rw [List.takeWhile_map, isBlank_comp_toLower, List.length_map]
  rw [← small cs, h, small ds]

theorem beforeBang?_map_toLower (cs : List Char) :
    beforeBang? (cs.map Char.toLower) = (beforeBang? cs).map (List.map Char.toLower) := by
  apply Option.ext
  intro body
  rw [beforeBang?_eq_some_iff, Option.map_eq_some_iff]
  constructor
  · intro ending
    obtain ⟨front, back, rfl, rfl, last⟩ := List.map_eq_append_iff.1 ending
    rw [(map_toLower_eq_singleton_iff (by decide)).1 last]
    exact ⟨front, beforeBang?_eq_some_iff.2 rfl, rfl⟩
  · rintro ⟨front, found, rfl⟩
    rw [beforeBang?_eq_some_iff.1 found, List.map_append]
    rfl

end letters

/-- **A layout in small letters** has the words in small letters, in the same columns. -/
theorem Laid.lowered {column : Nat} {cs : List Char} {row : List Word} (h : Laid column cs row) :
    Laid column (cs.map Char.toLower) (row.map Line.lowered) := by
  -- The induction is on the layout.  No length changes with the case, so that no column does.
  induction h with
  | blanks blanks => exact .blanks (forall_isBlank_map_toLower blanks)
  | @word column gap piece rest row blanks isPiece starts _ ih =>
    have whole := @Laid.word column (gap.map Char.toLower) (piece.map Char.toLower) _
      (row.map Line.lowered) (forall_isBlank_map_toLower blanks) (isPiece_map_toLower isPiece)
      (startsBlank_map_toLower starts) (by simpa using ih)
    simpa [Line.lowered] using whole

/-- **A recased line has recased words** in the same places. -/
theorem words_recased {line line' : String} (h : Recased line.toList line'.toList) :
    (words line).map lowered = (words line').map lowered :=
  calc (words line).map lowered
      = wordsFrom 0 (line.toList.map Char.toLower) :=
        (wordsFrom_of_laid (laid_words line).lowered).symm
    _ = wordsFrom 0 (line'.toList.map Char.toLower) := congrArg (wordsFrom 0) h
    _ = (words line').map lowered := wordsFrom_of_laid (laid_words line').lowered

/-! ## §4. Readers -/

section readers

variable {line line' : String} {name name' arg arg' first first' second second' : Word}

theorem recased_failureAt {kind : Failure.Kind} {token token' : String}
    (place : arg.column = arg'.column) (recased : Recased token.toList token'.toList)
    (known : kind = .unknownFunction → token = token') :
    (failureAt kind line arg token).Recased (failureAt kind line' arg' token') := by
  refine ⟨rfl, .some recased, fun unknown => congrArg some (known unknown), ?_⟩
  have length : token.length = token'.length := by
    rw [← String.length_toList, ← String.length_toList]
    exact recased.length_eq
  simp [failureAt, Failure.located, Failure.ofKind, Failure.markedLength, place, length]

theorem operand_recased (same : lowered arg = lowered arg') :
    RecasedOutcomes (operand line arg) (operand line' arg') := by
  obtain ⟨place, recased⟩ := lowered_eq_iff.1 same
  unfold operand
  rw [Double.parseFinite?_congr recased]
  cases Double.parseFinite? arg'.text.toList with
  | some x => exact .result x
  | none => exact .report (recased_failureAt place recased nofun)

theorem nameOf_recased (same : lowered name = lowered name') : nameOf name = nameOf name' := by
  obtain ⟨-, recased⟩ := lowered_eq_iff.1 same
  unfold nameOf
  rw [lower_congr recased]

/-- The symbol of an operator is one character, and not a letter. -/
theorem symbol_spec (op : Operator) : ∃ d, op.symbol.toList = [d] ∧ d.isAlpha = false := by
  cases op
  · exact ⟨'+', rfl, rfl⟩
  · exact ⟨'-', rfl, rfl⟩
  · exact ⟨'*', rfl, rfl⟩
  · exact ⟨'/', rfl, rfl⟩
  · exact ⟨'^', rfl, rfl⟩

theorem eq_symbol_iff {op : Operator} {text : String} :
    text = op.symbol ↔ text.toList.map Char.toLower = op.symbol.toList := by
  obtain ⟨d, symbol, other⟩ := symbol_spec op
  rw [← String.toList_inj, symbol, map_toLower_eq_singleton_iff other]

theorem ofSymbol?_recased {symbol symbol' : String} (h : Recased symbol.toList symbol'.toList) :
    Operator.ofSymbol? symbol = Operator.ofSymbol? symbol' := by
  apply Option.ext
  intro op
  rw [Operator.ofSymbol?_eq_some_iff, Operator.ofSymbol?_eq_some_iff, eq_symbol_iff,
    eq_symbol_iff, h]

theorem readUnary_recased (sameName : lowered name = lowered name')
    (same : lowered arg = lowered arg') :
    RecasedOutcomes (readUnary line name arg) (readUnary line' name' arg') := by
  apply (operand_recased same).bind
  intro x
  rw [nameOf_recased sameName]
  cases UnaryFunction.ofName? (nameOf name') with
  | some f => exact .result _
  | none => exact .report (recased_failureAt (lowered_eq_iff.1 sameName).1 rfl fun _ => rfl)

theorem readBinary_recased (sameName : lowered name = lowered name')
    (sameFirst : lowered first = lowered first') (sameSecond : lowered second = lowered second') :
    RecasedOutcomes (readBinary line name first second)
      (readBinary line' name' first' second') := by
  apply (operand_recased sameFirst).bind
  intro x
  apply (operand_recased sameSecond).bind
  intro y
  rw [nameOf_recased sameName]
  cases BinaryFunction.ofName? (nameOf name') with
  | some f => exact .result _
  | none => exact .report (recased_failureAt (lowered_eq_iff.1 sameName).1 rfl fun _ => rfl)

theorem readOperation_recased (sameFirst : lowered first = lowered first')
    (sameSymbol : lowered name = lowered name') (sameSecond : lowered second = lowered second') :
    RecasedOutcomes (readOperation line first name second)
      (readOperation line' first' name' second') := by
  obtain ⟨place, recased⟩ := lowered_eq_iff.1 sameSymbol
  apply (operand_recased sameFirst).bind
  intro x
  apply (operand_recased sameSecond).bind
  intro y
  rw [ofSymbol?_recased recased]
  cases Operator.ofSymbol? name'.text with
  | some op => exact .result _
  | none => exact .report (recased_failureAt place recased nofun)

/-- **A row of recased words** is read alike. -/
theorem readWords_recased {row row' : List Word} (same : row.map lowered = row'.map lowered) :
    RecasedOutcomes (readWords line row) (readWords line' row') := by
  have count : row.length = row'.length := by
    simpa using congrArg List.length same
  match row, row', count with
  | [], [], _ => exact .report (Failure.recased_whole _)
  | [_], [_], _ => exact .report (Failure.recased_whole _)
  | [name, arg], [name', arg'], _ =>
    simp only [List.map_cons, List.map_nil, List.cons.injEq, and_true] at same
    exact readUnary_recased same.1 same.2
  | [first, second, third], [first', second', third'], _ =>
    simp only [List.map_cons, List.map_nil, List.cons.injEq, and_true] at same
    obtain ⟨sameFirst, sameSecond, sameThird⟩ := same
    -- The first word selects the same form.
    simp only [readWords, nameOf_recased sameFirst]
    split
    · exact readBinary_recased sameFirst sameSecond sameThird
    · exact readOperation_recased sameFirst sameSecond sameThird
  | _ :: _ :: _ :: _ :: _, _ :: _ :: _ :: _ :: _, _ => exact .report (Failure.recased_whole _)

theorem readFactorial_recased {body body' : List Char} (h : Recased line.toList line'.toList)
    (same : Recased body body') :
    RecasedOutcomes (readFactorial line body) (readFactorial line' body') := by
  have place : ((indent line + leadingBlanks body : Nat) : Int) =
      (indent line' + leadingBlanks body' : Nat) := by
    unfold indent
    rw [leadingBlanks_recased h, leadingBlanks_recased same]
  have recased : Recased (trim body) (trim body') := trim_recased same
  apply RecasedOutcomes.bind (operand_recased ?_) fun x => .result _
  apply lowered_eq_iff.2
  constructor
  · simpa using place
  · simpa using recased

end readers

/-! ## §5. Lines -/

/-- **A recased line is read as the same expression**, or fails alike. -/
theorem read_recased {line line' : String} (h : Recased line.toList line'.toList) :
    RecasedOutcomes (read line) (read line') := by
  have trimmed : Recased (trim line.toList) (trim line'.toList) := trim_recased h
  have empty : (trim line.toList).isEmpty = (trim line'.toList).isEmpty := by
    rw [Bool.eq_iff_iff, List.isEmpty_iff_length_eq_zero, List.isEmpty_iff_length_eq_zero,
      trimmed.length_eq]
  have bang : (beforeBang? (trim line.toList)).map (List.map Char.toLower) =
      (beforeBang? (trim line'.toList)).map (List.map Char.toLower) := by
    rw [← beforeBang?_map_toLower, ← beforeBang?_map_toLower, trimmed]
  unfold read
  dsimp only
  rw [empty]
  split
  · exact .report (Failure.recased_whole _)
  -- The mark is no letter, so both lines have it or neither has.
  · cases body : beforeBang? (trim line.toList) with
    | none =>
      cases body' : beforeBang? (trim line'.toList) with
      | none => exact readWords_recased (words_recased h)
      | some kept' =>
        rw [body, body'] at bang
        exact nomatch bang
    | some kept =>
      cases body' : beforeBang? (trim line'.toList) with
      | none =>
        rw [body, body'] at bang
        exact nomatch bang
      | some kept' =>
        rw [body, body'] at bang
        exact readFactorial_recased h (Option.some.inj bang)

/-- **Caselessness**.  A text is in lower case the name of a function exactly if it is that name in
any case of its letters, and then its characters are ASCII characters.  What a word is looked up as
is found exactly if the word is recased from the name, and the first of three words selects a
function exactly if it is recased from the name of one.  A recased line is read as the same
expression, or fails alike. -/
structure Caseless : Prop where
  names : ∀ name ∈ functionNames, ∀ cs : List Char,
    lower cs = name.toList ↔ Recased cs name.toList
  foreign : ∀ cs : List Char, (∃ c ∈ cs, 128 ≤ c.toNat) →
    ∀ name ∈ functionNames, lower cs ≠ name.toList
  unary : ∀ (word : Word) (f : UnaryFunction),
    UnaryFunction.ofName? (nameOf word) = some f ↔ Recased word.text.toList f.name.toList
  binary : ∀ (word : Word) (f : BinaryFunction),
    BinaryFunction.ofName? (nameOf word) = some f ↔ Recased word.text.toList f.name.toList
  selects : ∀ word : Word, functionNames.contains (nameOf word) = true ↔
    ∃ name ∈ functionNames, Recased word.text.toList name.toList
  lines : ∀ line line' : String, Recased line.toList line'.toList →
    RecasedOutcomes (read line) (read line')

/-- **Names and lines do not depend on the case** of ASCII letters. -/
theorem caseless : Caseless where
  names name known cs := lower_eq_name_iff known cs
  foreign cs foreign name known same := by
    obtain ⟨c, member, beyond⟩ := foreign
    have ascii := ascii_of_recased known ((lower_eq_name_iff known cs).1 same) c member
    omega
  unary word f := by
    have known : f.name ∈ functionNames := mem_functionNames_iff.2 (.inl ⟨f, rfl⟩)
    rw [UnaryFunction.ofName?_eq_some_iff, nameOf_eq_iff known]
  binary word f := by
    have known : f.name ∈ functionNames := mem_functionNames_iff.2 (.inr ⟨f, rfl⟩)
    rw [BinaryFunction.ofName?_eq_some_iff, nameOf_eq_iff known]
  selects word := by
    rw [List.contains_iff_mem]
    constructor
    · intro known
      exact ⟨_, known, (nameOf_eq_iff known word).1 rfl⟩
    · rintro ⟨name, known, recased⟩
      rw [(nameOf_eq_iff known word).2 recased]
      exact known
  lines _ _ := read_recased

end Line

end LineCalc
