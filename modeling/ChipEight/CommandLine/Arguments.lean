import ChipEight.CommandLine.Invocation

/-!
# CommandLine — Arguments

The arguments of the command line.  First comes the name of a command, `run` or `disasm`, then the
path of a program and the command's options, in any order.  An option starts with two hyphens; if
it takes a value, that is the next argument, or follows after `=`.  Every option is given at most
once, but `--verbose`, or `-v`, any number of times and also before the command's name.  After `--`
everything is a path.

* `Grammar.words?`: the arguments sorted into paths, flags and options.
* `Invocation.ofArguments?`: what they ask for, if they are a valid usage.
-/

namespace ChipEight.CommandLine

/-! ### Words -/

/-- One thing that the arguments of a command say. -/
inductive Word where
  | path (text : String)
  | flag (name : String)
  | option (name value : String)
  deriving DecidableEq, Repr

/-- The options of a command: those without a value, and those with one. -/
structure Grammar where
  flags : List String
  options : List String

namespace Grammar

/-- An argument that is not a path, since a hyphen stands before something. -/
def isHyphened (arg : String) : Bool :=
  match arg.toList with
  | '-' :: _ :: _ => true
  | _ => false

/-- The name of a long option, and the value that follows it after `=`. -/
def splitValue (cs : List Char) : String × Option String :=
  match cs.dropWhile (· ≠ '=') with
  | [] => (String.ofList cs, none)
  | _ :: value => (String.ofList (cs.takeWhile (· ≠ '=')), some (String.ofList value))

/-- The words that some arguments say, if each is known and has the value that it takes. -/
def words? (g : Grammar) : List String → Option (List Word)
  | [] => some []
  | arg :: rest =>
    match arg.toList with
    | ['-', '-'] => some (rest.map .path)
    | '-' :: '-' :: long =>
      match splitValue long with
      | (name, none) =>
        if name ∈ g.flags then (g.words? rest).map (.flag name :: ·)
        else if name ∈ g.options then
          match rest with
          | [] => none
          | value :: rest =>
            if isHyphened value then none else (g.words? rest).map (.option name value :: ·)
        else none
      | (name, some value) =>
        if name ∈ g.options then (g.words? rest).map (.option name value :: ·) else none
    | '-' :: c :: short =>
      if (c :: short).all (· == 'v') then
        (g.words? rest).map ((c :: short).map (fun _ => .flag "verbose") ++ ·)
      else none
    | _ => (g.words? rest).map (.path arg :: ·)

end Grammar

namespace Word

/-- The paths among some words. -/
def paths (ws : List Word) : List String :=
  ws.filterMap fun | .path p => some p | _ => none

/-- How often a flag is among some words. -/
def flagCount (name : String) (ws : List Word) : Nat := ws.count (.flag name)

/-- The values that an option has among some words. -/
def values (name : String) (ws : List Word) : List String :=
  ws.filterMap fun | .option n v => if n = name then some v else none | _ => none

/-- The only path among some words; it is not empty. -/
def onlyPath? (ws : List Word) : Option String :=
  match paths ws with
  | [p] => if p = "" then none else some p
  | _ => none

/-- Whether a flag is given, which it is at most once. -/
def switch? (name : String) (ws : List Word) : Option Bool :=
  match flagCount name ws with
  | 0 => some false
  | 1 => some true
  | _ => none

/-- What an option's value stands for, which is given at most once, or else a default. -/
def setting? {α : Type} (name : String) (default : α) (read : String → Option α)
    (ws : List Word) : Option α :=
  match values name ws with
  | [] => some default
  | [v] => read v
  | _ => none

end Word

/-! ### Invocations -/

namespace Invocation

/-- A count of 64 bits. -/
def count? (value : String) : Option Nat := (Numeral.count.read value.toList).toOption

/-- The options of `run`. -/
def runGrammar : Grammar := ⟨["verbose", "hex", "frames"], ["ticks", "rate", "seed", "keys"]⟩

/-- The options of `disasm`. -/
def disasmGrammar : Grammar := ⟨["verbose", "hex"], []⟩

/-- How the words after `run` want the program to be run. -/
def runOptions? (ws : List Word) : Option RunOptions := do
  let ticks ← Word.setting? "ticks" Session.defaultTicks count? ws
  let rate ← Word.setting? "rate" Session.clockRate count? ws
  let seed ← Word.setting? "seed" ByteStream.defaultSeed (fun v => (count? v).map .ofNat) ws
  let keys ← Word.setting? "keys" none (fun v => (KeyScript.parse v).toOption.map some) ws
  let frames ← Word.switch? "frames" ws
  return { ticks, rate, seed, keys, frames }

/-- What the words after a command's name ask for. -/
def ofWords? (task? : List Word → Option Task) (verbosity : Nat) (ws : List Word) :
    Option Invocation := do
  let path ← Word.onlyPath? ws
  let hex ← Word.switch? "hex" ws
  let task ← task? ws
  return { verbosity := verbosity + Word.flagCount "verbose" ws, path, hex, task }

/-- What a command line asks for, of which some `-v` have been read. -/
def parse? : Nat → List String → Option Invocation
  | _, [] => none
  | verbosity, arg :: rest =>
    if arg = "run" then
      (runGrammar.words? rest).bind (ofWords? (fun ws => (runOptions? ws).map .run) verbosity)
    else if arg = "disasm" then
      (disasmGrammar.words? rest).bind (ofWords? (fun _ => some .disasm) verbosity)
    else if arg = "--verbose" then parse? (verbosity + 1) rest
    else match arg.toList with
      | '-' :: c :: short =>
        if (c :: short).all (· == 'v') then parse? (verbosity + (c :: short).length) rest else none
      | _ => none

/-- What a command line asks for, if it is a valid usage. -/
def ofArguments? (args : List String) : Option Invocation := parse? 0 args

end Invocation

end ChipEight.CommandLine
