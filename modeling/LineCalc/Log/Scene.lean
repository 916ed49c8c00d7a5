/-
Scene — what log lines tell that is not up to the program.

A form may ask for the time of a record, for the place in the program where
it was made, for the process and the thread.  These come from outside, and
so does the report that stands in place of a line that cannot be made.

## Main definitions

  * `Log.Moment` — what there is to tell of one record.
  * `Log.Scene` — the moments of a run.
-/

import LineCalc.Log.Form

namespace LineCalc

namespace Log

/-- **Moment** of a record. -/
structure Moment where
  /-- The fields that a record does not bring along, such as the time. -/
  field? : String → Option Form.Field
  /-- What placeholders show of the record as a whole. -/
  whole : Form.Placeholder → Option (List Char)
  /-- What is written if the form cannot be filled. -/
  trouble : String
  deriving Inhabited

/-- **Scene** of a run: `scene n k` is the moment of the `k`-th record of its `n`-th step.  The first
step is to load the settings, and then each expression is a step. -/
abbrev Scene := Nat → Nat → Moment

/-- The scene from the next step on. -/
def Scene.next (scene : Scene) : Scene := fun n => scene (n + 1)

/-- A scene at which time stands still, and nothing but the time can be told. -/
def Scene.still (time : String) : Scene := fun _ _ =>
  { field? := fun name => if name = "asctime" then some (.text time) else none
    whole := fun _ => none
    trouble := "" }

end Log

end LineCalc
