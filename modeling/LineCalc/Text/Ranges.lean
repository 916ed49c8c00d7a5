/-
Ranges — sets of characters given by ranges of code points.
-/

namespace LineCalc

namespace Text

/-- Membership in a set given by first and last code points. -/
def inRanges (ranges : List (Nat × Nat)) (c : Char) : Bool :=
  ranges.any fun (first, last) => first ≤ c.toNat && c.toNat ≤ last

end Text

end LineCalc
