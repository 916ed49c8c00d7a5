/-
Surroundings — what a run meets that is not up to the calculator.

A run stands in a working directory, its settings file is read within the
limits of whoever reads documents, its sessions are held at a console, and
its log lines tell the time.  None of this is laid down here, and what a
run does is said for all surroundings.  Some questions leave them aside;
for these there are the **usual** surroundings, in which nothing is limited,
time stands still, and the working directory goes unnamed.

## Main definitions

  * `Surroundings`, `Surroundings.usual`.
-/

import LineCalc.Log.Scene
import LineCalc.Screen
import LineCalc.Toml.Document

namespace LineCalc

/-- **Surroundings** of a run. -/
structure Surroundings where
  /-- The path of the working directory, with a slash at its end. -/
  folder : String
  /-- What is said of a text that is no document, behind the path of its file. -/
  mistake : String → String
  limits : Toml.Limits
  console : Screen.Console
  scene : Log.Scene
  deriving Inhabited

namespace Surroundings

def usual : Surroundings where
  folder := ""
  mistake := fun _ => ""
  limits := .none
  console := .usual
  scene := .still "1970-01-01 00:00:00,000"

/-- The same surroundings at another time. -/
def atScene (around : Surroundings) (scene : Log.Scene) : Surroundings := { around with scene }

end Surroundings

end LineCalc
