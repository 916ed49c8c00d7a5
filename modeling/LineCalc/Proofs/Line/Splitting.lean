/-
Splitting — the words of a line are all of it but blanks.

A word is a maximal run of characters that are not blanks, read off the line
at the index that is its column.  Splitting loses no character but blanks and
makes none up: every other character of the line lies in exactly one word, and
the texts of the words are the fields between the blanks.  So the words say
where a trimmed line starts and ends, and two lines have the same words
exactly if they have the same characters, but for blanks, at the same indices.

The argument goes over the layout of a line.  From it comes which indices its
words cover, and how far apart they stand; all else follows from that.

## Main definitions

  * `Word.start`, `Word.stop`, `Word.Covers` — the indices of a word.
  * `Text.fields` — what stands between blanks.
  * `Text.SameBare` — the same characters, but for blanks, at the same indices.
  * `Line.Split` — what the words of a line have to do with it.

## Main statements

  * `Line.Laid.isBlank_eq_false_iff` — words cover all but the blanks.
  * `Line.Laid.congr` — the layout of a line depends on its characters other
    than blanks.
  * `Line.split_words` — the words of every line split it.
-/

import LineCalc.Proofs.Line.Layout
import Mathlib.Data.List.Pairwise

namespace LineCalc

/-! ## §1. Indices -/

namespace Word

def start (word : Word) : Nat := word.column.toNat

/-- The index behind a word's last character. -/
def stop (word : Word) : Nat := word.start + word.text.length

/-- **Covering**: the index is that of a character of the word. -/
def Covers (word : Word) (i : Nat) : Prop := word.start ≤ i ∧ i < word.stop

theorem start_le_stop (word : Word) : word.start ≤ word.stop := Nat.le_add_right ..

@[simp]
theorem start_natCast (text : String) (column : Nat) : (⟨text, column⟩ : Word).start = column :=
  Int.toNat_natCast column

@[simp]
theorem stop_ofList (piece : List Char) (column : Nat) :
    (⟨String.ofList piece, column⟩ : Word).stop = column + piece.length := by
  simp [stop]

end Word

namespace Text

/-- **Fields**: what stands between the blanks of a text, but for empty pieces. -/
def fields (cs : List Char) : List (List Char) :=
  (cs.splitOnP isBlank).filter fun piece => !piece.isEmpty

/-- **The same bare characters**: but for blanks, the same characters stand at each index. -/
def SameBare (cs cs' : List Char) : Prop :=
  ∀ (i : Nat) (c : Char), isBlank c = false → (cs[i]? = some c ↔ cs'[i]? = some c)

/-! ## §2. Fields -/

theorem fields_cons_blank {c : Char} (blank : isBlank c = true) (cs : List Char) :
    fields (c :: cs) = fields cs := by
  have split : (c :: cs).splitOnP isBlank = [] :: cs.splitOnP isBlank := by
    rw [List.splitOnP_cons_eq_if_modifyHead, if_pos blank]
  simp [fields, split]

theorem fields_append {gap : List Char} (blanks : Blanks gap) (rest : List Char) :
    fields (gap ++ rest) = fields rest := by
  induction gap with
  | nil => rfl
  | cons c gap ih =>
    have blank : isBlank c = true := blanks c (by simp)
    have more : Blanks gap := fun d member => blanks d (by simp [member])
    rw [List.cons_append, fields_cons_blank blank, ih more]

theorem fields_of_blanks {cs : List Char} (blanks : Blanks cs) : fields cs = [] := by
  have split := fields_append blanks []
  rw [List.append_nil] at split
  rw [split]
  simp [fields]

theorem fields_run {run rest : List Char} (nonempty : run ≠ [])
    (bare : ∀ c ∈ run, isBlank c = false)
    (ends : ∀ c, rest.head? = some c → isBlank c = true) :
    fields (run ++ rest) = run :: fields rest := by
  cases rest with
  | nil =>
    have split : run.splitOnP isBlank = [run] := List.splitOnP_eq_singleton bare
    rw [List.append_nil]
    simp [fields, split, nonempty]
  | cons c rest =>
    have blank : isBlank c = true := ends c rfl
    have split : (run ++ c :: rest).splitOnP isBlank = run :: rest.splitOnP isBlank :=
      List.splitOnP_append_cons_of_forall_mem bare c blank rest
    rw [fields_cons_blank blank]
    simp [fields, split, nonempty]

/-! ## §3. Bare characters -/

namespace SameBare

variable {cs cs' : List Char}

theorem symm (same : SameBare cs cs') : SameBare cs' cs := by
  intro i c bare
  exact (same i c bare).symm

theorem take (same : SameBare cs cs') (n : Nat) : SameBare (cs.take n) (cs'.take n) := by
  intro i c bare
  rw [List.getElem?_take, List.getElem?_take]
  by_cases before : i < n
  · simpa only [before, if_true] using same i c bare
  · simp only [before, if_false]

theorem drop (same : SameBare cs cs') (n : Nat) : SameBare (cs.drop n) (cs'.drop n) := by
  intro i c bare
  rw [List.getElem?_drop, List.getElem?_drop]
  exact same (n + i) c bare

/-- Where one text has a blank or ends, the other one has a blank if it goes on. -/
theorem isBlank_of (same : SameBare cs cs') {i : Nat}
    (blank : ∀ d, cs[i]? = some d → isBlank d = true) {c : Char} (place : cs'[i]? = some c) :
    isBlank c = true := by
  by_contra other
  have bare : isBlank c = false := by simpa using other
  exact other (blank c ((same i c bare).2 place))

theorem blanks (same : SameBare cs cs') (blanks : Blanks cs) : Blanks cs' := by
  intro c member
  obtain ⟨i, place⟩ := List.mem_iff_getElem?.1 member
  apply same.isBlank_of _ place
  intro d there
  exact blanks d (List.mem_of_getElem? there)

/-- A run of bare characters stands at the same indices in both texts. -/
theorem take_run {run rest : List Char} (same : SameBare (run ++ rest) cs')
    (bare : ∀ c ∈ run, isBlank c = false) : cs'.take run.length = run := by
  apply List.ext_getElem?
  intro i
  rw [List.getElem?_take]
  by_cases inside : i < run.length
  · have here : (run ++ rest)[i]? = some run[i] := by
      rw [List.getElem?_append_left inside, List.getElem?_eq_getElem inside]
    have there := (same i run[i] (bare _ (List.getElem_mem inside))).1 here
    rw [if_pos inside, there, List.getElem?_eq_getElem inside]
  · rw [if_neg inside, List.getElem?_eq_none (by omega)]

end SameBare

end Text

namespace Line

open Text

/-! ## §4. Layouts -/

/-- Of texts of the same bare characters both start with a blank, or end there, or neither does. -/
theorem startsBlank_of_sameBare {cs cs' : List Char} (same : SameBare cs cs')
    (starts : StartsBlank cs) : StartsBlank cs' := by
  intro c first
  rw [List.head?_eq_getElem?] at first
  apply same.isBlank_of _ first
  intro d there
  exact starts d (by rw [List.head?_eq_getElem?, there])

namespace Laid

variable {column : Nat} {cs : List Char} {words : List Word}

/-- **The layout depends on bare characters alone**: texts that have the same at each index are laid
out in the same words. -/
theorem congr (h : Laid column cs words) {cs' : List Char} (same : SameBare cs cs') :
    Laid column cs' words := by
  -- The induction is on the layout; the other text is cut at the same indices.
  induction h generalizing cs' with
  | blanks blanks => exact .blanks (same.blanks blanks)
  | @word column gap piece rest words gapBlanks isPiece starts _ ih =>
    have gapSame : SameBare gap (cs'.take gap.length) := by
      have cut := same.take gap.length
      rwa [List.append_assoc, List.take_left] at cut
    have after : SameBare (piece ++ rest) (cs'.drop gap.length) := by
      have cut := same.drop gap.length
      rwa [List.append_assoc, List.drop_left] at cut
    have pieceSame : (cs'.drop gap.length).take piece.length = piece := after.take_run isPiece.2
    have restSame : SameBare rest (cs'.drop (gap.length + piece.length)) := by
      have cut := after.drop piece.length
      rwa [List.drop_left, List.drop_drop] at cut
    have longer : gap.length < cs'.length := by
      have some := congrArg List.length pieceSame
      have filled : 0 < piece.length := List.length_pos_iff.2 isPiece.1
      simp only [List.length_take, List.length_drop] at some
      omega
    have length : (cs'.take gap.length).length = gap.length := by
      rw [List.length_take]
      omega
    have behind : cs'.drop gap.length = piece ++ cs'.drop (gap.length + piece.length) := by
      have cut := List.take_append_drop piece.length (cs'.drop gap.length)
      rw [pieceSame, List.drop_drop] at cut
      exact cut.symm
    have whole : cs' = cs'.take gap.length ++ piece ++ cs'.drop (gap.length + piece.length) := by
      rw [List.append_assoc, ← behind, List.take_append_drop]
    have laid : Laid (column + (cs'.take gap.length).length + piece.length)
        (cs'.drop (gap.length + piece.length)) words := by
      rw [length]
      exact ih restSame
    have row := Laid.word (gapSame.blanks gapBlanks) isPiece
      (startsBlank_of_sameBare restSame starts) laid
    rw [← whole, length] at row
    exact row

/-- No word starts before the column of the text, and none ends behind the text. -/
theorem bounds (h : Laid column cs words) {word : Word} (member : word ∈ words) :
    column ≤ word.start ∧ word.stop ≤ column + cs.length := by
  induction h with
  | blanks => simp at member
  | @word column gap piece rest words _ _ _ _ ih =>
    simp only [List.length_append]
    rcases List.mem_cons.1 member with rfl | later
    · simp only [Word.start_natCast, Word.stop_ofList]
      omega
    · have inside := ih later
      omega

theorem lt_start (h : Laid column cs words) (starts : StartsBlank cs) {word : Word}
    (member : word ∈ words) : column < word.start := by
  cases h with
  | blanks => simp at member
  | @word _ gap piece rest words _ isPiece _ laid =>
    obtain ⟨c, more, rfl⟩ := List.exists_cons_of_ne_nil isPiece.1
    have gapped : 0 < gap.length := by
      rw [List.length_pos_iff]
      intro none
      subst none
      have blank : isBlank c = true := starts c rfl
      rw [isPiece.2 c (by simp)] at blank
      simp at blank
    rcases List.mem_cons.1 member with rfl | later
    · simp only [Word.start_natCast]
      omega
    · have inside := laid.bounds later
      omega

/-- **Words stand apart**, one behind the other with a gap between them. -/
theorem apart (h : Laid column cs words) : words.Pairwise fun v w => v.stop < w.start := by
  induction h with
  | blanks => exact .nil
  | word _ _ starts laid ih =>
    rw [List.pairwise_cons]
    refine ⟨?_, ih⟩
    intro w later
    simp only [Word.stop_ofList]
    exact laid.lt_start starts later

/-- **Words cover all but the blanks**. -/
theorem isBlank_eq_false_iff (h : Laid column cs words) {i : Nat} {c : Char}
    (here : cs[i]? = some c) :
    isBlank c = false ↔ ∃ word ∈ words, word.Covers (column + i) := by
  induction h generalizing i with
  | blanks blanks =>
    have blank : isBlank c = true := blanks c (List.mem_of_getElem? here)
    simp [blank]
  | @word column gap piece rest words blanks isPiece starts laid ih =>
    -- The index is in the gap, in the piece or behind it.
    have later : ∀ word ∈ words, column + gap.length + piece.length ≤ word.start := by
      intro word member
      exact (laid.bounds member).1
    simp only [List.mem_cons, exists_eq_or_imp, Word.Covers, Word.start_natCast, Word.stop_ofList]
    by_cases inGap : i < gap.length
    · rw [List.append_assoc, List.getElem?_append_left inGap] at here
      have blank : isBlank c = true := blanks c (List.mem_of_getElem? here)
      simp only [blank, Bool.true_eq_false, false_iff]
      intro covered
      rcases covered with first | ⟨word, member, first, -⟩
      · omega
      · have beyond := later word member
        omega
    by_cases inPiece : i < gap.length + piece.length
    · rw [List.append_assoc, List.getElem?_append_right (by omega),
        List.getElem?_append_left (by omega)] at here
      have bare : isBlank c = false := isPiece.2 c (List.mem_of_getElem? here)
      simp only [bare, true_iff]
      exact .inl (by omega)
    · rw [List.getElem?_append_right (by rw [List.length_append]; omega), List.length_append]
        at here
      have index : column + gap.length + piece.length + (i - (gap.length + piece.length)) =
          column + i := by omega
      rw [ih here, index]
      constructor
      · exact .inr
      · intro covered
        exact covered.resolve_left (by omega)

/-- **The texts of words are the fields** of the text. -/
theorem texts_eq_fields (h : Laid column cs words) :
    words.map (fun word => word.text.toList) = fields cs := by
  induction h with
  | blanks blanks => rw [fields_of_blanks blanks, List.map_nil]
  | word blanks isPiece starts _ ih =>
    rw [List.append_assoc, fields_append blanks, fields_run isPiece.1 isPiece.2 starts, ← ih,
      List.map_cons, String.toList_ofList]

end Laid

/-! ## §5. The words of a line -/

section words

variable {line : String} {word first last : Word}

/-- The column of a word is an index, and the word is read there. -/
theorem word_spec (member : word ∈ words line) :
    word.column = word.start ∧ IsPiece word.text.toList ∧
      ∀ i, word.Covers i → line.toList[i]? = word.text.toList[i - word.start]? := by
  obtain ⟨column, place, before, after, parts, length, isPiece, -⟩ := standsAt_of_mem_words member
  have start : word.start = column := by rw [Word.start, place, Int.toNat_natCast]
  refine ⟨by rw [start, place], isPiece, ?_⟩
  intro i covers
  have stop : word.stop = column + word.text.toList.length := by
    rw [Word.stop, start, String.length_toList]
  obtain ⟨beyond, inside⟩ := covers
  rw [start] at beyond ⊢
  rw [stop] at inside
  rw [parts, List.append_assoc, List.getElem?_append_right (by omega),
    List.getElem?_append_left (by omega), length]

/-- What stands between two indices is blank if it is so at each index. -/
theorem blanks_extract {cs : List Char} {i j : Nat}
    (blank : ∀ k c, i ≤ k → k < j → cs[k]? = some c → isBlank c = true) :
    Blanks (cs.extract i j) := by
  intro c member
  obtain ⟨k, place⟩ := List.mem_iff_getElem?.1 member
  rw [List.extract_eq_take_drop, List.getElem?_take] at place
  by_cases inside : k < j - i
  · rw [if_pos inside, List.getElem?_drop] at place
    exact blank (i + k) c (by omega) (by omega) place
  · simp [inside] at place

theorem eq_of_covers {v w : Word} (mv : v ∈ words line) (mw : w ∈ words line) {i : Nat}
    (hv : v.Covers i) (hw : w.Covers i) : v = w := by
  let Apart (v w : Word) : Prop := v.stop < w.start ∨ w.stop < v.start
  have symmetric : Std.Symm Apart := ⟨fun v w => Or.symm⟩
  have apart : (words line).Pairwise Apart := (laid_words line).apart.imp .inl
  by_contra other
  have sides : v.stop < w.start ∨ w.stop < v.start := apart.forall mv mw other
  obtain ⟨startV, stopV⟩ := hv
  obtain ⟨startW, stopW⟩ := hw
  omega

theorem isBlank_of_not_covered {i : Nat} {c : Char} (here : line.toList[i]? = some c)
    (free : ∀ word ∈ words line, ¬ word.Covers i) : isBlank c = true := by
  by_contra other
  have bare : isBlank c = false := by simpa using other
  obtain ⟨word, member, covers⟩ := ((laid_words line).isBlank_eq_false_iff here).1 bare
  rw [Nat.zero_add] at covers
  exact free word member covers

theorem first_le (head : (words line).head? = some first) (member : word ∈ words line) :
    first.start ≤ word.start := by
  obtain ⟨more, row⟩ := List.head?_eq_some_iff.1 head
  have apart := (laid_words line).apart
  rw [row, List.pairwise_cons] at apart
  rw [row] at member
  rcases List.mem_cons.1 member with rfl | later
  · exact Nat.le_refl _
  · have beyond := apart.1 word later
    have filled := first.start_le_stop
    omega

theorem le_last (final : (words line).getLast? = some last) (member : word ∈ words line) :
    word.stop ≤ last.stop := by
  obtain ⟨before, row⟩ := List.getLast?_eq_some_iff.1 final
  have apart := (laid_words line).apart
  rw [row, List.pairwise_append] at apart
  rw [row] at member
  rcases List.mem_append.1 member with earlier | same
  · have beyond := apart.2.2 word earlier last (by simp)
    have filled := last.start_le_stop
    omega
  · rw [List.mem_singleton.1 same]

theorem blanks_between {before after : List Word} {v w : Word}
    (row : words line = before ++ v :: w :: after) :
    Blanks (line.toList.extract v.stop w.start) := by
  have apart := (laid_words line).apart
  rw [row, List.pairwise_append, List.pairwise_cons, List.pairwise_cons] at apart
  obtain ⟨-, ⟨-, behind, -⟩, ahead⟩ := apart
  apply blanks_extract
  intro i c beyond inside here
  apply isBlank_of_not_covered here
  intro u member covers
  obtain ⟨start, stop⟩ := covers
  rw [row] at member
  simp only [List.mem_append, List.mem_cons] at member
  -- A word that covered the place would stand between the two, and none does.
  rcases member with earlier | rfl | rfl | later
  · have gap := ahead u earlier v (by simp)
    have filled := v.start_le_stop
    omega
  · omega
  · omega
  · have gap := behind u later
    have filled := w.start_le_stop
    omega

theorem start_lt_stop (member : word ∈ words line) : word.start < word.stop := by
  have nonempty : 0 < word.text.toList.length := List.length_pos_iff.2 (word_spec member).2.1.1
  rw [String.length_toList] at nonempty
  unfold Word.stop
  omega

/-- Where a word covers an index, the line has one of its characters. -/
theorem bare_of_covers (member : word ∈ words line) {i : Nat} (covers : word.Covers i) :
    ∃ c, line.toList[i]? = some c ∧ isBlank c = false := by
  obtain ⟨-, ⟨-, bare⟩, read⟩ := word_spec member
  obtain ⟨start, stop⟩ := covers
  have inside : i - word.start < word.text.toList.length := by
    rw [String.length_toList]
    unfold Word.stop at stop
    omega
  refine ⟨word.text.toList[i - word.start], ?_, bare _ (List.getElem_mem inside)⟩
  rw [read i ⟨start, stop⟩, List.getElem?_eq_getElem inside]

theorem extract_word (member : word ∈ words line) :
    line.toList.extract word.start word.stop = word.text.toList := by
  have length : word.stop - word.start = word.text.toList.length := by
    rw [String.length_toList]
    unfold Word.stop
    omega
  apply List.ext_getElem?
  intro i
  rw [List.extract_eq_take_drop, List.getElem?_take, length]
  by_cases inside : i < word.text.toList.length
  · have covers : word.Covers (word.start + i) := by
      constructor
      · omega
      · omega
    rw [if_pos inside, List.getElem?_drop, (word_spec member).2.2 _ covers, Nat.add_sub_cancel_left]
  · rw [if_neg inside, List.getElem?_eq_none (by omega)]

theorem blanks_before (head : (words line).head? = some first) :
    Blanks (line.toList.take first.start) := by
  have blanks : Blanks (line.toList.extract 0 first.start) := by
    apply blanks_extract
    intro i c _ inside here
    apply isBlank_of_not_covered here
    intro word member covers
    have beyond := first_le head member
    obtain ⟨start, -⟩ := covers
    omega
  simpa using blanks

theorem blanks_after (final : (words line).getLast? = some last) :
    Blanks (line.toList.drop last.stop) := by
  intro c member
  obtain ⟨i, place⟩ := List.mem_iff_getElem?.1 member
  rw [List.getElem?_drop] at place
  apply isBlank_of_not_covered place
  intro word member covers
  have inside := le_last final member
  obtain ⟨-, stop⟩ := covers
  omega

theorem startsBare_drop (head : (words line).head? = some first) :
    StartsBare (line.toList.drop first.start) := by
  intro c start
  have member : first ∈ words line := List.mem_of_head? head
  have covers : first.Covers first.start := ⟨Nat.le_refl _, start_lt_stop member⟩
  obtain ⟨d, here, bare⟩ := bare_of_covers member covers
  rw [List.head?_drop, here] at start
  obtain rfl := Option.some.inj start
  exact bare

theorem endsBare_take (final : (words line).getLast? = some last) :
    EndsBare (line.toList.take last.stop) := by
  intro c stop
  have member : last ∈ words line := List.mem_of_getLast? final
  have filled := start_lt_stop member
  have covers : last.Covers (last.stop - 1) := by
    constructor
    · omega
    · omega
  obtain ⟨d, here, bare⟩ := bare_of_covers member covers
  rw [List.getLast?_take, if_neg (by omega), here] at stop
  obtain rfl : d = c := by simpa using stop
  exact bare

/-- **Trimming** leaves what stands from the first word to the last one. -/
theorem trim_eq_extract (head : (words line).head? = some first)
    (final : (words line).getLast? = some last) :
    trim line.toList = line.toList.extract first.start last.stop := by
  have order : first.start < last.stop := by
    have member : last ∈ words line := List.mem_of_getLast? final
    have ordered := first_le head member
    have filled := start_lt_stop member
    omega
  have parts : line.toList.take last.stop =
      line.toList.take first.start ++ line.toList.extract first.start last.stop := by
    rw [List.extract_eq_take_drop, ← List.take_add, Nat.add_sub_cancel' (by omega)]
  refine trim_eq_iff.2 ⟨line.toList.take first.start, line.toList.drop last.stop, ?_,
    blanks_before head, blanks_after final, ?_, ?_⟩
  · rw [← parts, List.take_append_drop]
  · intro c start
    rw [List.extract_eq_take_drop, List.head?_take, if_neg (by omega)] at start
    exact startsBare_drop head c start
  · intro c stop
    apply endsBare_take final c
    rw [parts, List.getLast?_append, stop]
    rfl

/-- The indent is the index of the first word, or the length of a line without words. -/
theorem indent_eq (line : String) :
    indent line = ((words line).head?.map Word.start).getD line.length := by
  have counted := leadingBlanks_add_length line.toList
  rw [String.length_toList] at counted
  -- The blanks at the start and what is left of the line add up to its length.
  cases head : (words line).head? with
  | none =>
    have none : words line = [] := List.head?_eq_none_iff.1 head
    have laid := laid_words line
    rw [none] at laid
    rw [trimStart_eq_nil_iff.2 laid.blanks_of_nil, List.length_nil, Nat.add_zero] at counted
    exact counted
  | some first =>
    have start : trimStart line.toList = line.toList.drop first.start := by
      conv =>
        lhs
        rw [← List.take_append_drop first.start line.toList]
      rw [trimStart_append (blanks_before head), trimStart_eq_self (startsBare_drop head)]
    have member : first ∈ words line := List.mem_of_head? head
    have inside := ((laid_words line).bounds member).2
    have filled := start_lt_stop member
    rw [start, List.length_drop, String.length_toList] at counted
    rw [String.length_toList] at inside
    show leadingBlanks line.toList = first.start
    omega

/-- A line has no words exactly if nothing is left of it by trimming. -/
theorem words_eq_nil_iff (line : String) : words line = [] ↔ trim line.toList = [] := by
  rw [trim_eq_nil_iff]
  constructor
  · intro none
    have laid := laid_words line
    rw [none] at laid
    exact laid.blanks_of_nil
  · intro blanks
    exact wordsFrom_of_laid (.blanks blanks)

/-- **Words and bare characters determine each other**. -/
theorem words_eq_iff_sameBare (line line' : String) :
    words line' = words line ↔ SameBare line.toList line'.toList := by
  constructor
  · intro same
    -- A word of both lines has its characters in both.
    have kept : ∀ {s t : String}, words t = words s → ∀ {i : Nat} {c : Char}, isBlank c = false →
        s.toList[i]? = some c → t.toList[i]? = some c := by
      intro s t same i c bare here
      obtain ⟨word, member, covers⟩ := ((laid_words s).isBlank_eq_false_iff here).1 bare
      rw [Nat.zero_add] at covers
      rw [(word_spec member).2.2 i covers] at here
      rw [← same] at member
      rw [(word_spec member).2.2 i covers, here]
    intro i c bare
    exact ⟨kept same bare, kept same.symm bare⟩
  · intro same
    exact wordsFrom_of_laid ((laid_words line).congr same)

end words

/-! ## §6. Splitting -/

/-- **What the words of a line have to do with it**.  A word is a piece of the line at its column,
without blanks and not empty.  The next one starts behind it, after blanks and at least one.  Every
character that is not a blank lies in exactly one word, and no blank lies in any, so that the texts
of the words are the fields of the line.  Trimming agrees: nothing is left if there are no words, and
else what stands from the first to the last of them, which the indent counts off.  Another line has
these very words exactly if it has the same bare characters. -/
structure Split (line : String) : Prop where
  column : ∀ word ∈ words line, word.column = word.start
  isPiece : ∀ word ∈ words line, IsPiece word.text.toList
  slice : ∀ word ∈ words line, line.toList.extract word.start word.stop = word.text.toList
  apart : (words line).Pairwise fun v w => v.stop < w.start
  gap : ∀ before v w after, words line = before ++ v :: w :: after →
    Blanks (line.toList.extract v.stop w.start)
  covered : ∀ (i : Nat) (c : Char), line.toList[i]? = some c → isBlank c = false →
    ∃! word, word ∈ words line ∧ word.Covers i
  uncovered : ∀ (i : Nat) (c : Char), line.toList[i]? = some c → isBlank c = true →
    ∀ word ∈ words line, ¬ word.Covers i
  fields : (words line).map (fun word => word.text.toList) = fields line.toList
  empty_iff : words line = [] ↔ trim line.toList = []
  indent : indent line = ((words line).head?.map Word.start).getD line.length
  trimmed : ∀ first last, (words line).head? = some first → (words line).getLast? = some last →
    trim line.toList = line.toList.extract first.start last.stop
  determined : ∀ line', words line' = words line ↔ SameBare line.toList line'.toList

/-- **The words of every line split it**: nothing but blanks is lost, and nothing is made up. -/
theorem split_words (line : String) : Split line where
  column word member := (word_spec member).1
  isPiece word member := (word_spec member).2.1
  slice word member := extract_word member
  apart := (laid_words line).apart
  gap before v w after row := blanks_between row
  covered i c here bare := by
    obtain ⟨word, member, covers⟩ := ((laid_words line).isBlank_eq_false_iff here).1 bare
    rw [Nat.zero_add] at covers
    refine ⟨word, ⟨member, covers⟩, ?_⟩
    intro other also
    exact eq_of_covers also.1 member also.2 covers
  uncovered i c here blank word member covers := by
    obtain ⟨d, there, bare⟩ := bare_of_covers member covers
    rw [here] at there
    obtain rfl := Option.some.inj there
    simp [blank] at bare
  fields := (laid_words line).texts_eq_fields
  empty_iff := words_eq_nil_iff line
  indent := indent_eq line
  trimmed first last head final := trim_eq_extract head final
  determined line' := words_eq_iff_sameBare line line'

end Line

end LineCalc
