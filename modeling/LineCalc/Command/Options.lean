/-
Options — reading the arguments of the command line.

Options of the program itself come first, then the name of a command, then
the options and words of the command.  A long option is written in full,
and its value, if it takes one, after an equals sign or as the next
argument.  Short options may be run together; the last one may take the
rest of the argument, or the next one, as its value.  Two dashes end the
options, and a single dash is a word.

## Main definitions

  * `Command.Globals` — the options of the program.
  * `Command.readGlobals` — reading them, up to the name of the command.
  * `Command.EvalOptions`, `Command.readEval` — those of `eval`.
  * `Command.readBare` — those of the commands without any.
-/

namespace LineCalc

namespace Command

/-! ## §1. Forms of arguments -/

/-- **Argument**: what an argument is, before two dashes. -/
inductive Argument where
  /-- The two dashes. -/
  | endOfOptions
  /-- A long option, perhaps with a value. -/
  | long (name : String) (value : Option String)
  /-- Short options run together. -/
  | short (letters : List Char)
  | word (text : String)
  deriving DecidableEq, Inhabited

/-- The text before the first equals sign, and the text after it if there is one. -/
def splitValue (cs : List Char) : List Char × Option (List Char) :=
  match cs.dropWhile (· ≠ '=') with
  | [] => (cs, none)
  | _ :: value => (cs.takeWhile (· ≠ '='), some value)

def Argument.of (arg : String) : Argument :=
  match arg.toList with
  | ['-', '-'] => endOfOptions
  | '-' :: '-' :: rest =>
    let (name, value) := splitValue rest
    long (String.ofList name) (value.map String.ofList)
  | '-' :: c :: rest => short (c :: rest)
  | _ => word arg

/-! ## §2. Options of the program -/

/-- A request that is answered at once. -/
inductive Request where
  | version
  | help
  deriving DecidableEq, Inhabited

/-- **Globals**: the options of the program. -/
structure Globals where
  /-- The settings file that is asked for; the last one counts. -/
  config : Option String
  verbose : Bool
  /-- The first request for the version or for help. -/
  request : Option Request
  deriving DecidableEq, Inhabited

namespace Globals

def none : Globals := ⟨.none, false, .none⟩

/-- The options with one more request; only the first counts. -/
def ask (g : Globals) (request : Request) : Globals :=
  { g with request := g.request.orElse fun _ => some request }

end Globals

/-- Short options run together, with the arguments that follow.  There is no result for an unknown
letter or a missing value. -/
def readLetters (g : Globals) : List Char → List String → Option (Globals × List String)
  | [], args => some (g, args)
  | c :: rest, args =>
    if c = 'v' then readLetters { g with verbose := true } rest args
    else if c = 'c' then
      if rest.isEmpty then
        match args with
        | value :: args => some ({ g with config := some value }, args)
        | [] => none
      else some ({ g with config := some (String.ofList rest) }, args)
    else none

/-- A long option, with the arguments that follow. -/
def readLong (g : Globals) (name : String) (value : Option String) (args : List String) :
    Option (Globals × List String) :=
  if name = "config" then
    match value, args with
    | some value, args => some ({ g with config := some value }, args)
    | none, value :: args => some ({ g with config := some value }, args)
    | none, [] => none
  else if value.isSome then none
  else if name = "verbose" then some ({ g with verbose := true }, args)
  else if name = "version" then some (g.ask .version, args)
  else if name = "help" then some (g.ask .help, args)
  else none

/-- The options at the start of the arguments, of which there are at most as many as the bound,
and the arguments after them. -/
def boundedGlobals : Nat → Globals → List String → Option (Globals × List String)
  | 0, g, args => some (g, args)
  | _, g, [] => some (g, [])
  | bound + 1, g, arg :: args =>
    match Argument.of arg with
    | .endOfOptions => some (g, args)
    | .word _ => some (g, arg :: args)
    | .long name value => do
      let (g, args) ← readLong g name value args
      boundedGlobals bound g args
    | .short letters => do
      let (g, args) ← readLetters g letters args
      boundedGlobals bound g args

/-- **The options of the program** and the arguments after them, or nothing if an option is
unknown or lacks its value. -/
def readGlobals (args : List String) : Option (Globals × List String) :=
  boundedGlobals args.length .none args

/-! ## §3. Options of commands -/

/-- **The options of `eval`** and its words. -/
structure EvalOptions where
  json : Bool
  help : Bool
  words : List String
  deriving DecidableEq, Inhabited

/-- The options and words of `eval`; options may stand among the words. -/
def readEval : List String → Option EvalOptions
  | [] => some ⟨false, false, []⟩
  | arg :: args =>
    match Argument.of arg with
    | .endOfOptions => some ⟨false, false, args⟩
    | .word text => (readEval args).map fun o => { o with words := text :: o.words }
    | .long name none =>
      if name = "json" then (readEval args).map fun o => { o with json := true }
      else if name = "help" then (readEval args).map fun o => { o with help := true }
      else none
    | _ => none

/-- The arguments of a command without options of its own: whether help is asked for, and the
words. -/
def readBare : List String → Option (Bool × List String)
  | [] => some (false, [])
  | arg :: args =>
    match Argument.of arg with
    | .endOfOptions => some (false, args)
    | .word text => (readBare args).map fun (help, words) => (help, text :: words)
    | .long name none =>
      if name = "help" then (readBare args).map fun (_, words) => (true, words) else none
    | _ => none

end Command

end LineCalc
