/-
Screen — what becomes of special characters on the way to a screen.

Reports are stripped of the sequences by which terminals change the style
of text.  A session's screen knows style tags in brackets, which a
backslash before the bracket switches off; texts are shown literally, but
a backslash before a bracket that opens no tag is still taken as such a
switch.  A session's screen also leaves out five control characters.

A screen may do more to a text: it folds lines that are too wide, sets tabs,
puts pictures in the place of names between colons, and takes a backslash at
the end of a report for a switch.  How it does so is not laid down here.  A
**console** is any screen of a session that leaves verbatim texts alone.

## Main definitions

  * `Screen.withoutStyles` — a text without style sequences.
  * `Screen.withoutSwitches` — a text without the backslashes that switch
    off nothing.
  * `Screen.visible` — a text without suppressed control characters.
  * `Screen.Verbatim` — a text that every console shows as it is.
  * `Screen.Console` — what a session's screen makes of texts.

## Main statements

  * `Screen.withoutStyles_eq_self`, `Screen.visible_eq_self` — a text without
    the escape character, or without suppressed characters, is left as it is.
-/

import LineCalc.Text.Blank

namespace LineCalc

namespace Screen

/-! ## §1. Style sequences -/

/-- A parameter of a style sequence. -/
def isParameter (c : Char) : Bool := c.isDigit || c = ';' || c = '?'

/-- The text after a style sequence that stands here: an escape character, a bracket, parameters
and a letter. -/
def afterSequence? (cs : List Char) : Option (List Char) :=
  match cs with
  | '\x1b' :: '[' :: rest =>
    match rest.dropWhile isParameter with
    | c :: left => if c.isAlpha then some left else none
    | [] => none
  | _ => none

/-- A text without its style sequences; the bound counts characters. -/
def boundedWithoutStyles : Nat → List Char → List Char
  | 0, cs => cs
  | _, [] => []
  | bound + 1, c :: rest =>
    match afterSequence? (c :: rest) with
    | some left => boundedWithoutStyles bound left
    | none => c :: boundedWithoutStyles bound rest

/-- **A text without style sequences**. -/
def withoutStyles (s : String) : String :=
  String.ofList (boundedWithoutStyles s.toList.length s.toList)

theorem afterSequence?_of_ne {c : Char} {rest : List Char} (h : c ≠ '\x1b') :
    afterSequence? (c :: rest) = none := by
  unfold afterSequence?
  split
  · next heq => exact absurd (List.cons.inj heq).1 h
  · rfl

theorem boundedWithoutStyles_eq_self {cs : List Char} (h : '\x1b' ∉ cs) (bound : Nat) :
    boundedWithoutStyles bound cs = cs := by
  induction bound generalizing cs with
  | zero => rfl
  | succ n ih =>
    cases cs with
    | nil => rfl
    | cons c rest =>
      have first : c ≠ '\x1b' := fun e => h (e ▸ List.mem_cons_self)
      have others : '\x1b' ∉ rest := fun m => h (List.mem_cons_of_mem _ m)
      simp [boundedWithoutStyles, afterSequence?_of_ne first, ih others]

theorem withoutStyles_eq_self {s : String} (h : '\x1b' ∉ s.toList) : withoutStyles s = s := by
  rw [withoutStyles, boundedWithoutStyles_eq_self h, String.ofList_toList]

/-! ## §2. Tags -/

/-- A character that may start a tag. -/
def startsTag (c : Char) : Bool := ('a' ≤ c && c ≤ 'z') || c = '#' || c = '/' || c = '@'

/-- The text after an opening bracket makes it the start of a tag: the next bracket closes it. -/
def opensTag : List Char → Bool
  | [] => false
  | c :: rest => startsTag c && (rest.find? fun d => d = '[' || d = ']') == some ']'

/-- The characters of a text without the backslashes that switch off nothing. -/
def dropSwitches : List Char → List Char
  | [] => []
  | '\\' :: '[' :: rest =>
    if opensTag rest then '\\' :: '[' :: dropSwitches rest else '[' :: dropSwitches rest
  | c :: rest => c :: dropSwitches rest

/-- **A text without idle switches**: a backslash before a bracket that opens no tag is left
out. -/
def withoutSwitches (s : String) : String := String.ofList (dropSwitches s.toList)

/-- Backslashes before brackets stay where the brackets open tags. -/
theorem dropSwitches_of_opens {cs : List Char}
    (h : ∀ before rest, cs = before ++ '\\' :: '[' :: rest → opensTag rest = true) :
    dropSwitches cs = cs := by
  -- What holds of the places of a text holds of those of its tails.
  fun_induction dropSwitches cs with
  | case1 => rfl
  | case2 rest opens ih =>
    rw [ih]
    intro before rest' parts
    exact h ('\\' :: '[' :: before) rest' (by rw [parts]; rfl)
  | case3 rest closed ih => exact absurd (h [] rest rfl) closed
  | case4 c rest other ih =>
    rw [ih]
    intro before rest' parts
    exact h (c :: before) rest' (by rw [parts]; rfl)

/-! ## §3. Control characters -/

/-- A control character that a session's screen does not show: bell, backspace, vertical tab, form
feed and carriage return. -/
def isSuppressed (c : Char) : Bool := [7, 8, 11, 12, 13].contains c.toNat

/-- **A text without suppressed characters**. -/
def visible (s : String) : String := String.ofList (s.toList.filter fun c => !isSuppressed c)

theorem visible_eq_self {s : String} (h : ∀ c ∈ s.toList, isSuppressed c = false) :
    visible s = s := by
  rw [visible, List.filter_eq_self.2 fun c m => by simp [h c m], String.ofList_toList]

/-! ## §4. Consoles -/

/-- Behind a colon, a code ends: another colon follows, and no blank stands before it. -/
def closesCode : List Char → Bool
  | [] => false
  | c :: rest => c = ':' || (!Text.isBlank c && closesCode rest)

/-- A code stands in a text: two colons without a blank between them, as around the name of a
picture. -/
def holdsCode : List Char → Bool
  | [] => false
  | c :: rest => (c = ':' && closesCode rest) || holdsCode rest

/-- The number of columns that suffices for a text: one for an ASCII character, two for another. -/
def columns (cs : List Char) : Nat := cs.foldr (fun c n => (if c.toNat < 0x80 then 1 else 2) + n) 0

/-- **Verbatim text**: it fits into a line of the screen, and has no character that is not shown as
it is, no code, and no backslash that a screen takes for a switch of its own. -/
structure Verbatim (width : Nat) (text : String) : Prop where
  shown : ∀ c ∈ text.toList, isSuppressed c = false ∧ c ≠ '\t'
  uncoded : holdsCode text.toList = false
  narrow : columns text.toList ≤ width
  opens : ∀ before rest, text.toList = before ++ '\\' :: '[' :: rest → opensTag rest = true
  ends : text.toList.getLast? ≠ some '\\'

/-- What stands ahead of the message of a failure. -/
def heading : String := "Error: "

/-- **Console**: what a session's screen makes of texts.  Styles are not shown. -/
structure Console where
  /-- The number of columns of a line. -/
  width : Nat
  /-- What is shown of a prompt or of a value. -/
  plain : String → String
  /-- What is shown of a message behind the heading, the heading included. -/
  fault : String → String
  plain_of_verbatim : ∀ text, Verbatim width text → plain text = text
  fault_of_verbatim : ∀ message, Verbatim width (heading ++ message) →
    fault message = heading ++ message

/-- A console that does nothing but to leave out characters. -/
def Console.usual : Console where
  width := 80
  plain := visible
  fault message := heading ++ visible (withoutSwitches message)
  plain_of_verbatim text h := visible_eq_self fun c member => (h.shown c member).1
  fault_of_verbatim message h := by
    have chars : (heading ++ message).toList = heading.toList ++ message.toList :=
      String.toList_append
    have switched : withoutSwitches message = message := by
      unfold withoutSwitches
      rw [dropSwitches_of_opens, String.ofList_toList]
      intro before rest parts
      exact h.opens (heading.toList ++ before) rest (by rw [chars, parts, List.append_assoc])
    rw [switched, visible_eq_self]
    intro c member
    exact (h.shown c (by rw [chars]; exact List.mem_append_right _ member)).1

instance : Inhabited Console := ⟨.usual⟩

end Screen

end LineCalc
