/-
Output — what a run writes.

## Main statements

  * `Output.append_empty`, `Output.empty_append`, `Output.append_assoc` —
    outputs are joined in order.
-/

namespace LineCalc

/-- **Output**: the texts written to the two streams. -/
@[ext]
structure Output where
  stdout : String
  stderr : String
  deriving DecidableEq, Inhabited

namespace Output

def empty : Output := ⟨"", ""⟩

/-- A text on the standard stream. -/
def out (text : String) : Output := ⟨text, ""⟩

/-- A text on the stream for errors. -/
def err (text : String) : Output := ⟨"", text⟩

def append (a b : Output) : Output := ⟨a.stdout ++ b.stdout, a.stderr ++ b.stderr⟩

instance : Append Output := ⟨append⟩

theorem append_def (a b : Output) : a ++ b = ⟨a.stdout ++ b.stdout, a.stderr ++ b.stderr⟩ := rfl

theorem append_empty (a : Output) : a ++ empty = a := by
  simp [append_def, empty]

theorem empty_append (a : Output) : empty ++ a = a := by
  simp [append_def, empty]

theorem append_assoc (a b c : Output) : a ++ b ++ c = a ++ (b ++ c) := by
  simp [append_def, String.append_assoc]

end Output

end LineCalc
