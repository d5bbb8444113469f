import ChipEight.Session

/-!
# CommandLine — Invocation

What a command line asks for: a program, whether it is run or listed, and how much is logged
meanwhile.

* `Invocation.level`: the level that is asked for.
-/

namespace ChipEight.CommandLine

/-- How a program is run. -/
structure RunOptions where
  ticks : Nat
  /-- Ticks per second, zero for as many as possible.  No result depends on it. -/
  rate : Nat
  seed : UInt64
  keys : Option KeyScript
  frames : Bool

/-- The script of the run, which is empty if none is given. -/
def RunOptions.script (o : RunOptions) : KeyScript := o.keys.getD .empty

/-- What is done with a program. -/
inductive Task where
  | run (options : RunOptions)
  | disasm

/-- What the command line asks for. -/
structure Invocation where
  /-- How often `-v` was given. -/
  verbosity : Nat
  /-- Where the program is. -/
  path : String
  /-- Whether the program is written as a listing of bytes in base sixteen. -/
  hex : Bool
  task : Task

namespace Invocation

/-- The most detailed level that is asked for. -/
def level (inv : Invocation) : Log.Level :=
  match inv.verbosity with
  | 0 => .warn
  | 1 => .info
  | 2 => .debug
  | _ => .trace

/-- The message that a program of some size has been read. -/
def readMessage (inv : Invocation) (size : Nat) : Log.Message :=
  ⟨"chip8_run::run", .info, "loaded " ++ size.repr ++ " bytes from " ++ inv.path⟩

end Invocation

end ChipEight.CommandLine
