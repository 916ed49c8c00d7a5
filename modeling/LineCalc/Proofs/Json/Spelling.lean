/-
Spelling — the strings of JSON texts.

Between its quotation marks a string spells its characters one after
another.  A character stands for itself, or is spelled behind a backslash:
by a letter of its own, by the four hexadecimal digits of its code point, or
by those of two surrogates.  A string may be spelled in many ways; the
calculator's own spelling is one of them.

## Main definitions

  * `Json.Piece`, `Json.Spells` — the spellings of a character, and of a row
    of characters.
  * `Json.piece?`, `Json.spelled?` — reading them.

## Main statements

  * `Json.piece?_eq_some_iff` — exactly the spellings of a character are
    read.
  * `Json.spelled?_of_spells`, `Json.exists_spells` — exactly the spellings
    of rows of characters are read, up to a quotation mark.
  * `Json.spells_escape` — the calculator spells what it escapes.
-/

import LineCalc.Outcome.Json
import LineCalc.Toml.Text

namespace LineCalc

namespace Json

/-! ## §1. Spellings -/

/-- A character that stands for itself: no control character below the space, no quotation mark
and no backslash. -/
def isPlain (c : Char) : Bool := 0x20 ≤ c.toNat && c ≠ '"' && c ≠ '\\'

/-- The letters that spell a character behind a backslash, with their characters. -/
def letters : List (Char × Char) :=
  [('"', '"'), ('\\', '\\'), ('/', '/'), ('b', '\x08'), ('f', '\x0c'), ('n', '\n'), ('r', '\r'),
    ('t', '\t')]

def quadValue? (a b c d : Char) : Option Nat := do
  let a ← Toml.hexValue? a
  let b ← Toml.hexValue? b
  let c ← Toml.hexValue? c
  let d ← Toml.hexValue? d
  pure (((a * 16 + b) * 16 + c) * 16 + d)

def isHigh (n : Nat) : Bool := 0xD800 ≤ n && n < 0xDC00

def isLow (n : Nat) : Bool := 0xDC00 ≤ n && n < 0xE000

def pairValue (high low : Nat) : Nat := 0x10000 + (high - 0xD800) * 0x400 + (low - 0xDC00)

/-- **Piece**: the text spells the character. -/
inductive Piece : List Char → Char → Prop where
  /-- The character itself. -/
  | plain {c : Char} : isPlain c = true → Piece [c] c
  /-- A letter behind a backslash. -/
  | letter {l c : Char} : letters.lookup l = some c → Piece ['\\', l] c
  /-- A code point that is no surrogate. -/
  | code {a b c d : Char} {n : Nat} : quadValue? a b c d = some n →
      (isHigh n || isLow n) = false → Piece ['\\', 'u', a, b, c, d] (Char.ofNat n)
  /-- Two surrogates. -/
  | pair {a b c d a' b' c' d' : Char} {high low : Nat} : quadValue? a b c d = some high →
      quadValue? a' b' c' d' = some low → isHigh high = true → isLow low = true →
      Piece ['\\', 'u', a, b, c, d, '\\', 'u', a', b', c', d'] (Char.ofNat (pairValue high low))

/-- **Spelling** of a row of characters. -/
inductive Spells : List Char → List Char → Prop where
  | nil : Spells [] []
  | cons {piece text cs : List Char} {c : Char} : Piece piece c → Spells text cs →
      Spells (piece ++ text) (c :: cs)

/-! ## §2. Reading a character -/

def quad? : List Char → Option (Nat × List Char)
  | a :: b :: c :: d :: rest => (quadValue? a b c d).map (·, rest)
  | _ => none

/-- The trailing surrogate of a pair, read behind the leading one, and the rest. -/
def low? : List Char → Option (Nat × List Char)
  | '\\' :: 'u' :: rest => (quad? rest).filter fun (n, _) => isLow n
  | _ => none

/-- A character by its code point, read behind the letter `u`, and the rest. -/
def code? (cs : List Char) : Option (Char × List Char) := do
  let (n, rest) ← quad? cs
  if isHigh n then
    let (low, left) ← low? rest
    pure (Char.ofNat (pairValue n low), left)
  else if isLow n then none
  else pure (Char.ofNat n, rest)

/-- A character read behind a backslash, and the rest. -/
def escaped? : List Char → Option (Char × List Char)
  | [] => none
  | l :: rest => if l = 'u' then code? rest else (letters.lookup l).map (·, rest)

/-- **Reading a character** of a string, and the rest. -/
def piece? : List Char → Option (Char × List Char)
  | [] => none
  | c :: rest =>
    if isPlain c then some (c, rest) else if c = '\\' then escaped? rest else none

theorem quad?_cons {a b c d : Char} {n : Nat} (value : quadValue? a b c d = some n)
    (rest : List Char) : quad? (a :: b :: c :: d :: rest) = some (n, rest) := by
  simp only [quad?, value, Option.map_some]

theorem exists_quad {cs rest : List Char} {n : Nat} (h : quad? cs = some (n, rest)) :
    ∃ a b c d, cs = a :: b :: c :: d :: rest ∧ quadValue? a b c d = some n := by
  unfold quad? at h
  split at h
  · next a b c d left =>
    obtain ⟨value, read, same⟩ := Option.map_eq_some_iff.1 h
    obtain ⟨rfl, rfl⟩ := Prod.mk.inj same
    exact ⟨a, b, c, d, rfl, read⟩
  · exact nomatch h

/-- A trailing surrogate is read behind its backslash and its letter. -/
theorem low?_eq_some_iff {cs rest : List Char} {n : Nat} :
    low? cs = some (n, rest) ↔
      ∃ left, cs = '\\' :: 'u' :: left ∧ quad? left = some (n, rest) ∧ isLow n = true := by
  constructor
  · intro h
    unfold low? at h
    split at h
    · next left =>
      obtain ⟨read, low⟩ := Option.filter_eq_some_iff.1 h
      exact ⟨left, rfl, read, low⟩
    · exact nomatch h
  · rintro ⟨left, rfl, read, low⟩
    exact Option.filter_eq_some_iff.2 ⟨read, low⟩

theorem code?_eq_some_iff {cs rest : List Char} {c : Char} :
    code? cs = some (c, rest) ↔
      (∃ n, quad? cs = some (n, rest) ∧ (isHigh n || isLow n) = false ∧ c = Char.ofNat n) ∨
        ∃ high low left, quad? cs = some (high, left) ∧ isHigh high = true ∧
          low? left = some (low, rest) ∧ c = Char.ofNat (pairValue high low) := by
  constructor
  · intro h
    unfold code? at h
    obtain ⟨⟨n, left⟩, quad, h⟩ := Option.bind_eq_some_iff.1 h
    dsimp only at h
    -- A code is a high surrogate with a low one behind it, or no surrogate at all.
    split at h
    · next high =>
      obtain ⟨⟨low, left'⟩, behind, same⟩ := Option.bind_eq_some_iff.1 h
      obtain ⟨rfl, rfl⟩ := Prod.mk.inj (Option.some.inj same)
      exact .inr ⟨n, low, left, quad, high, behind, rfl⟩
    · next high =>
      split at h
      · exact nomatch h
      · next low =>
        obtain ⟨rfl, rfl⟩ := Prod.mk.inj (Option.some.inj h)
        have other : (isHigh n || isLow n) = false :=
          Bool.or_eq_false_iff.2 ⟨Bool.not_eq_true _ ▸ high, Bool.not_eq_true _ ▸ low⟩
        exact .inl ⟨n, quad, other, rfl⟩
  · rintro (⟨n, quad, other, same⟩ | ⟨high, low, left, quad, isHigh, behind, same⟩)
    · obtain ⟨noHigh, noLow⟩ := Bool.or_eq_false_iff.1 other
      simp only [code?, quad, Option.bind_eq_bind, Option.bind_some, noHigh, noLow,
        Bool.false_eq_true, if_false, Option.pure_def, same]
    · simp only [code?, quad, Option.bind_eq_bind, Option.bind_some, isHigh, behind, if_true,
        Option.pure_def, same]

theorem exists_piece_of_escaped? {cs rest : List Char} {c : Char}
    (h : escaped? cs = some (c, rest)) :
    ∃ text, Piece ('\\' :: text) c ∧ cs = text ++ rest := by
  unfold escaped? at h
  split at h
  · exact nomatch h
  next l left =>
  -- Behind the letter `u` stands a code, and any other letter stands for itself alone.
  split at h
  · next u =>
    obtain rfl := u
    rcases code?_eq_some_iff.1 h with
      ⟨n, quad, other, same⟩ | ⟨high, low, middle, quad, isHigh, behind, same⟩
    · obtain ⟨a, b, c', d, rfl, value⟩ := exists_quad quad
      have spells := Piece.code value other
      rw [← same] at spells
      exact ⟨_, spells, rfl⟩
    · obtain ⟨a, b, c', d, rfl, value⟩ := exists_quad quad
      obtain ⟨_, rfl, quad', isLow⟩ := low?_eq_some_iff.1 behind
      obtain ⟨a', b', c'', d', rfl, value'⟩ := exists_quad quad'
      have spells := Piece.pair value value' isHigh isLow
      rw [← same] at spells
      exact ⟨_, spells, rfl⟩
  · obtain ⟨value, found, same⟩ := Option.map_eq_some_iff.1 h
    obtain ⟨rfl, rfl⟩ := Prod.mk.inj same
    exact ⟨[l], .letter found, rfl⟩

/-- **Exactly the spellings of a character are read**. -/
theorem piece?_eq_some_iff {cs rest : List Char} {c : Char} :
    piece? cs = some (c, rest) ↔ ∃ piece, Piece piece c ∧ cs = piece ++ rest := by
  constructor
  · intro h
    unfold piece? at h
    split at h
    · exact nomatch h
    next first behind =>
    split at h
    · next plain =>
      obtain ⟨rfl, rfl⟩ := Prod.mk.inj (Option.some.inj h)
      exact ⟨[first], .plain plain, rfl⟩
    split at h
    · next slash =>
      obtain ⟨text, spells, rfl⟩ := exists_piece_of_escaped? h
      exact ⟨'\\' :: text, spells, by rw [slash]; rfl⟩
    · exact nomatch h
  · rintro ⟨piece, spells, rfl⟩
    -- A leading surrogate is no code point of its own, so the pair is read as one.
    cases spells with
    | plain plain => simp [piece?, plain]
    | @letter l c found =>
      have other : l ≠ 'u' := by
        rintro rfl
        exact nomatch found
      simp [piece?, escaped?, other, found, isPlain]
    | @code a b c d n value other =>
      have read := code?_eq_some_iff.2 (.inl ⟨n, quad?_cons value rest, other, rfl⟩)
      simpa [piece?, escaped?, isPlain] using read
    | @pair a b c d a' b' c' d' high low value value' isHigh isLow =>
      have behind := low?_eq_some_iff.2 ⟨_, rfl, quad?_cons value' rest, isLow⟩
      have read := code?_eq_some_iff.2
        (.inr ⟨high, low, _, quad?_cons value _, isHigh, behind, rfl⟩)
      simpa [piece?, escaped?, isPlain] using read

theorem Piece.exists_eq_cons {piece : List Char} {c : Char} (h : Piece piece c) :
    ∃ first rest, piece = first :: rest ∧ first ≠ '"' := by
  cases h with
  | plain plain =>
    refine ⟨c, [], rfl, ?_⟩
    rintro rfl
    exact nomatch plain
  | letter => exact ⟨_, _, rfl, by decide⟩
  | code => exact ⟨_, _, rfl, by decide⟩
  | pair => exact ⟨_, _, rfl, by decide⟩

/-! ## §3. Reading a string -/

/-- **Reading a string** up to its closing mark, and the rest.  The bound counts characters. -/
def spelled? : Nat → List Char → Option (List Char × List Char)
  | 0, _ => none
  | _, [] => none
  | bound + 1, c :: rest =>
    if c = '"' then some ([], rest)
    else do
      let (first, left) ← piece? (c :: rest)
      let (more, left) ← spelled? bound left
      pure (first :: more, left)

theorem spelled?_of_spells {text cs : List Char} (h : Spells text cs) {bound : Nat}
    (enough : cs.length < bound) (rest : List Char) :
    spelled? bound (text ++ '"' :: rest) = some (cs, rest) := by
  induction h generalizing bound with
  | nil =>
    obtain ⟨bound, rfl⟩ := Nat.exists_eq_succ_of_ne_zero (Nat.ne_of_gt enough)
    rfl
  | @cons piece text cs c spells _ ih =>
    obtain ⟨bound, rfl⟩ := Nat.exists_eq_succ_of_ne_zero (Nat.ne_of_gt (Nat.zero_lt_of_lt enough))
    have more := ih (Nat.lt_of_succ_lt_succ enough)
    have read : piece? (piece ++ (text ++ '"' :: rest)) = some (c, text ++ '"' :: rest) :=
      piece?_eq_some_iff.2 ⟨piece, spells, rfl⟩
    obtain ⟨first, behind, rfl, other⟩ := spells.exists_eq_cons
    rw [List.cons_append] at read
    rw [List.append_assoc, List.cons_append, spelled?, if_neg other, read]
    simp [more]

theorem exists_spells {bound : Nat} {cs ds rest : List Char}
    (h : spelled? bound cs = some (ds, rest)) :
    ∃ text, Spells text ds ∧ cs = text ++ '"' :: rest := by
  induction bound generalizing cs ds with
  | zero => exact nomatch h
  | succ bound ih =>
    cases cs with
    | nil => exact nomatch h
    | cons c behind =>
      unfold spelled? at h
      split at h
      · next mark =>
        obtain ⟨rfl, rfl⟩ := Prod.mk.inj (Option.some.inj h)
        exact ⟨[], .nil, by rw [mark]; rfl⟩
      · obtain ⟨⟨first, left⟩, read, h⟩ := Option.bind_eq_some_iff.1 h
        obtain ⟨⟨more, left'⟩, later, same⟩ := Option.bind_eq_some_iff.1 h
        obtain ⟨rfl, rfl⟩ := Prod.mk.inj (Option.some.inj same)
        obtain ⟨piece, spells, parts⟩ := piece?_eq_some_iff.1 read
        obtain ⟨text, rows, rfl⟩ := ih later
        exact ⟨piece ++ text, .cons spells rows, by rw [parts, List.append_assoc]⟩

theorem Spells.length_le {text cs : List Char} (h : Spells text cs) :
    cs.length ≤ text.length := by
  induction h with
  | nil => exact Nat.le_refl 0
  | cons spells _ ih =>
    obtain ⟨first, behind, rfl, -⟩ := spells.exists_eq_cons
    simp only [List.length_cons, List.length_append]
    omega

/-- A spelling is read with the length of the text as the bound. -/
theorem spelled?_length_append {text cs : List Char} (h : Spells text cs) (rest : List Char) :
    spelled? (text ++ '"' :: rest).length (text ++ '"' :: rest) = some (cs, rest) := by
  apply spelled?_of_spells h
  have short := h.length_le
  rw [List.length_append, List.length_cons]
  omega

/-! ## §4. The calculator's spelling -/

theorem hexValue?_hexDigit (n : Nat) : Toml.hexValue? (hexDigit n) = some (n % 16) := by
  have digits : ∀ d : Fin 16, Toml.hexValue? (Nat.digitChar d) = some d.val := by decide
  exact digits ⟨n % 16, Nat.mod_lt n (by decide)⟩

/-- A character is escaped by a letter, by its code point, or not at all. -/
theorem escape_cases (c : Char) :
    (∃ l, escape c = ['\\', l] ∧ letters.lookup l = some c) ∨
      (c.toNat < 0x20 ∧
        escape c = ['\\', 'u', '0', '0', hexDigit (c.toNat / 16), hexDigit c.toNat]) ∨
      (isPlain c = true ∧ escape c = [c]) := by
  unfold escape
  -- The seven characters with letters come first.
  split
  · next same => exact .inl ⟨'"', rfl, by rw [same]; rfl⟩
  split
  · next same => exact .inl ⟨'\\', rfl, by rw [same]; rfl⟩
  split
  · next same => exact .inl ⟨'b', rfl, by rw [same]; rfl⟩
  split
  · next same => exact .inl ⟨'t', rfl, by rw [same]; rfl⟩
  split
  · next same => exact .inl ⟨'n', rfl, by rw [same]; rfl⟩
  split
  · next same => exact .inl ⟨'f', rfl, by rw [same]; rfl⟩
  split
  · next same => exact .inl ⟨'r', rfl, by rw [same]; rfl⟩
  next quote slash _ _ _ _ _ =>
  split
  · next control => exact .inr (.inl ⟨control, rfl⟩)
  · next visible =>
    refine .inr (.inr ⟨?_, rfl⟩)
    simp only [isPlain, ne_eq, Bool.and_eq_true, decide_eq_true_eq]
    exact ⟨⟨Nat.le_of_not_lt visible, quote⟩, slash⟩

theorem piece_escape (c : Char) : Piece (escape c) c := by
  rcases escape_cases c with ⟨l, escaped, found⟩ | ⟨control, escaped⟩ | ⟨plain, escaped⟩
  · rw [escaped]
    exact .letter found
  · have value : quadValue? '0' '0' (hexDigit (c.toNat / 16)) (hexDigit c.toNat) =
        some c.toNat := by
      have zero : Toml.hexValue? '0' = some 0 := by decide
      simp only [quadValue?, zero, hexValue?_hexDigit, bind, Option.bind, pure,
        Option.some.injEq]
      omega
    have other : (isHigh c.toNat || isLow c.toNat) = false := by
      simp only [isHigh, isLow, Bool.or_eq_false_iff, Bool.and_eq_false_iff,
        decide_eq_false_iff_not]
      omega
    have spells := Piece.code value other
    rwa [Char.ofNat_toNat, ← escaped] at spells
  · rw [escaped]
    exact .plain plain

/-- **The calculator spells what it escapes**. -/
theorem spells_escape (cs : List Char) : Spells (cs.flatMap escape) cs := by
  induction cs with
  | nil => exact .nil
  | cons c cs ih =>
    rw [List.flatMap_cons]
    exact .cons (piece_escape c) ih

/-- **Visible text**: it has no control character below the space. -/
def Visible (cs : List Char) : Prop := ∀ c ∈ cs, 0x20 ≤ c.toNat

instance (cs : List Char) : Decidable (Visible cs) := List.decidableBAll _ cs

theorem visible_append {cs cs' : List Char} (h : Visible cs) (h' : Visible cs') :
    Visible (cs ++ cs') :=
  List.forall_mem_append.2 ⟨h, h'⟩

theorem visible_escape (c : Char) : Visible (escape c) := by
  rcases escape_cases c with ⟨l, escaped, found⟩ | ⟨-, escaped⟩ | ⟨plain, escaped⟩
  · have all : Visible (letters.map Prod.fst) := by decide
    obtain ⟨before, after, parts, -⟩ := List.lookup_eq_some_iff.1 found
    have letter : l ∈ letters.map Prod.fst := by simp [parts]
    rw [escaped]
    exact List.forall_mem_cons.2 ⟨by decide, List.forall_mem_cons.2 ⟨all l letter, nofun⟩⟩
  · have digits : ∀ d : Fin 16, 0x20 ≤ (Nat.digitChar d).toNat := by decide
    have digit : ∀ n, 0x20 ≤ (hexDigit n).toNat := fun n =>
      digits ⟨n % 16, Nat.mod_lt n (by decide)⟩
    have lead : Visible ['\\', 'u', '0', '0'] := by decide
    rw [escaped]
    exact visible_append lead
      (List.forall_mem_cons.2 ⟨digit _, List.forall_mem_cons.2 ⟨digit _, nofun⟩⟩)
  · simp only [isPlain, Bool.and_eq_true, decide_eq_true_eq] at plain
    rw [escaped]
    exact List.forall_mem_cons.2 ⟨plain.1.1, nofun⟩

end Json

end LineCalc
