/-
Shortest — the fewest digits that read back as the same double.

For one digit, two digits, and so on, the two neighbours of the exact value
on the grid of decimals with that many digits are read back.  The first
grid with a neighbour that reads back as the double gives the answer; if
both do, the nearer one is taken, and of two equally near ones the even.
Seventeen digits always suffice; the full expansion stands behind them.

## Main definitions

  * `Double.readsBack` — a decimal that is read as a given count of units.
  * `Double.shortest` — the shortest decimal of a count of units.
-/

import LineCalc.Double.Decimal

namespace LineCalc

namespace Double

/-- A decimal that is read as the finite double of `units` units. -/
def readsBack (units : Nat) (d : Decimal) : Bool :=
  match ofDecimal false d.coefficient d.exponent with
  | finite _ u _ => u == units
  | _ => false

/-- The neighbours of a decimal on the grid of `10 ^ dropped` of its last digits, the nearer one
first. -/
def neighbours (d : Decimal) (dropped : Nat) : List Decimal :=
  let grid := tenTo dropped
  let below : Decimal := ⟨d.coefficient / grid, d.exponent + dropped⟩
  let above : Decimal := ⟨d.coefficient / grid + 1, d.exponent + dropped⟩
  if d.coefficient % grid = 0 then [below]
  else if roundQuotient d.coefficient grid = below.coefficient then [below, above]
  else [above, below]

/-- The first decimal on a grid of `count` digits that reads back, trying the given counts in
turn. -/
def shortestAmong (units : Nat) (exact : Decimal) (length : Nat) : List Nat → Decimal
  | [] => exact
  | count :: more =>
    match (neighbours exact (length - count)).find? (readsBack units) with
    | some d => d
    | none => shortestAmong units exact length more

/-- **Shortest decimal** of a count of units. -/
def shortest (units : Nat) : Decimal :=
  -- Rounding up may carry into a new digit and leave zeros behind.
  let exact := expansion units
  (shortestAmong units exact exact.digits.length ((List.range 17).map (· + 1))).normalized

end Double

end LineCalc
