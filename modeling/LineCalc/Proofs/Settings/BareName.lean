/-
BareName — a path that is one name.

A text without slashes is the only name of the path that it spells, and is
its own plain form.  Such a path leads to a file of the working directory,
or to nothing, unless it is longer than a name may be.

## Main definitions

  * `Path.IsBare` — a text that is one name.

## Main statements

  * `Path.splitOn_slash` — a text without slashes is not parted.
  * `Path.IsBare.plain_eq` — a bare name is its own plain form.
  * `Settings.find_of_long_name` — a bare name of more than 255 bytes cannot
    be asked for.
-/

import Mathlib.Data.String.Basic
import LineCalc.Settings.Basic

namespace LineCalc

namespace Path

/-! ## §1. Texts without slashes -/

open String in
/-- From any place on, a text without slashes is passed over to its end. -/
theorem splitOnAux_slash (before : List Char) {after : List Char} (free : '/' ∉ after) :
    splitOnAux (.ofList (before ++ after)) "/" 0 ⟨utf8Len before⟩ 0 [] =
      [.ofList (before ++ after)] := by
  have slash : Pos.Raw.get "/" 0 = '/' := by decide
  -- On the text behind the place: each character moves to the text before it.
  induction after generalizing before with
  | nil =>
    unfold splitOnAux
    have ended : Pos.Raw.atEnd (.ofList (before ++ [])) ⟨utf8Len before⟩ = true := by
      simp [Pos.Raw.atEnd, utf8ByteSize_ofList]
    have whole := extract_zero_rawEndPos (.ofList before)
    rw [rawEndPos_ofList] at whole
    rw [if_pos ended, List.append_nil, whole]
    rfl
  | cons c after ih =>
    have other : c ≠ '/' := fun same => free (same ▸ List.mem_cons_self)
    have going : ¬ Pos.Raw.atEnd (.ofList (before ++ c :: after)) ⟨utf8Len before⟩ = true := by
      have room := c.utf8Size_pos
      simp [Pos.Raw.atEnd, utf8ByteSize_ofList]
      omega
    have here : Pos.Raw.get (.ofList (before ++ c :: after)) ⟨utf8Len before⟩ = c :=
      get_of_valid before (c :: after)
    unfold splitOnAux
    rw [if_neg going, here, slash, if_neg (by simpa using other)]
    have step : Pos.Raw.next (.ofList (before ++ c :: after))
        ((⟨utf8Len before⟩ : Pos.Raw).unoffsetBy 0) = ⟨utf8Len (before ++ [c])⟩ := by
      have next := next_of_valid before c after
      simpa [Pos.Raw.unoffsetBy] using next
    rw [step]
    simpa using ih (before ++ [c]) (fun inside => free (List.mem_cons_of_mem c inside))

/-- **A text without slashes is not parted**. -/
theorem splitOn_slash {text : String} (free : '/' ∉ text.toList) : text.splitOn "/" = [text] := by
  have parted := splitOnAux_slash [] free
  rw [List.nil_append, String.ofList_toList] at parted
  unfold String.splitOn
  rw [if_neg (by decide)]
  exact parted

/-! ## §2. Bare names -/

/-- **Bare name**: a text without slashes that is neither empty nor a single point. -/
structure IsBare (text : String) : Prop where
  free : '/' ∉ text.toList
  filled : text ≠ ""
  other : text ≠ "."

theorem isBare_of_toList {text : String} (free : '/' ∉ text.toList) (filled : text.toList ≠ [])
    (other : text.toList ≠ ['.']) : IsBare text where
  free := free
  filled same := filled (by rw [same]; rfl)
  other same := other (by rw [same]; rfl)

namespace IsBare

variable {name : String}

theorem names_eq (bare : IsBare name) : names name = [name] := by
  have kept : (name ≠ "" ∧ name ≠ ".") := ⟨bare.filled, bare.other⟩
  simp [names, splitOn_slash bare.free, kept]

theorem root_eq (bare : IsBare name) : root name = "" := by
  have free := bare.free
  unfold root
  split
  · next chars => simp [chars] at free
  · next chars => simp [chars] at free
  · next chars => simp [chars] at free
  · rfl

/-- **A bare name is its own plain form**. -/
theorem plain_eq (bare : IsBare name) : plain name = name := by
  unfold plain
  rw [bare.names_eq, bare.root_eq]
  simp [bare.filled]

end IsBare

end Path

/-! ## §3. Names that are too long -/

/-- In every working directory a bare name of more than 255 bytes is refused. -/
theorem Files.ofFolder_of_long_name {name : String} (bare : Path.IsBare name)
    (nul : Path.holdsNul name = false) (long : Path.longestName < name.utf8ByteSize)
    (members : List (String × Entry)) : ofFolder members name = .nameTooLong := by
  unfold ofFolder
  rw [if_neg (by simp [nul])]
  split
  · rfl
  · rw [bare.names_eq, bare.root_eq, if_pos rfl]
    unfold walk
    rw [if_pos long]

/-- **A settings file with a bare name of more than 255 bytes cannot be asked for**: it is neither
loaded nor reported to be missing. -/
theorem Settings.find_of_long_name {name : String} (bare : Path.IsBare name)
    (nul : Path.holdsNul name = false) (long : Path.longestName < name.utf8ByteSize)
    (members : List (String × Entry)) :
    find (.ofFolder members) (some name) = .error .nameTooLong := by
  have entry := Files.ofFolder_of_long_name bare nul long members
  simp only [find, findIn, pathOf, bare.plain_eq, entry]

end LineCalc
