import ChipEight.CommandLine.Invocation

/-!
# CommandLine — Platform

What the command line leaves to others: how arguments are read, which random bytes a seed stands
for, what becomes of the messages that are logged, and how an error is described.  All of this is a
parameter of a command.

* `Trouble.DescribedBy`: a text shows what was attempted, and then its causes.
* `Report`: what a process leaves behind.
* `Platform`: what is left to others; `Platform.Describes` is assumed of it, and nothing else.
-/

namespace ChipEight.CommandLine

/-! ### Troubles -/

/-- What went wrong: what was attempted, and the causes, each the cause of the one before. -/
structure Trouble where
  context : String
  causes : List String
  deriving DecidableEq, Repr

/-- What a process leaves behind: an exit code, the texts that it writes, and those that it
complains with, the ones of the logger first.  Each text is written with a line feed after it; one
that quotes a path may itself run over several lines. -/
structure Report where
  exit : Nat
  output : List String
  logged : List String
  complaint : List String
  deriving DecidableEq, Repr

/-- All texts that the process complains with. -/
def Report.errors (r : Report) : List String := r.logged ++ r.complaint

/-! ### Platforms -/

/-- What the command line is built on, as a process finds it: its clock and whatever else it is
surrounded by are part of it. -/
structure Platform where
  /-- What some arguments ask for.  If they are no valid usage, they are answered at once. -/
  invocation : List String → Except Report Invocation
  /-- The random bytes that a seed stands for. -/
  seeded : UInt64 → ByteStream
  /-- The most detailed level of which anything is logged, when a level is asked for.  The
  surroundings of the process may ask for another one. -/
  threshold : Log.Level → Option Log.Level
  /-- The texts that the logger writes for the messages that reach it, when a level is asked for.
  They may show the time. -/
  logged : Log.Level → List Log.Message → List String
  /-- The description of a trouble. -/
  described : Trouble → String

end ChipEight.CommandLine
