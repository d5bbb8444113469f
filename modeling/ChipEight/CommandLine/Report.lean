import ChipEight.CommandLine.Arguments
import ChipEight.CommandLine.Ending
import ChipEight.Random.ChaCha
import ChipEight.Text.Lines

/-!
# CommandLine — Report

The platform that the command line runs on, and what a command line leads to there, line by line.

* `Platform.standard`: the platform.
* `Report.ofArguments`: a whole command line in a directory.
* `Report.outputLines`, `Report.errorLines`: what has been written, and the complaint about it.
-/

namespace ChipEight.CommandLine

/-! ### The standard platform -/

namespace Trouble

/-- Causes with their numbers, each on a line of its own. -/
def numbered : Nat → List String → List String
  | _, [] => []
  | i, cause :: causes => ("\n    " ++ i.repr ++ ": " ++ cause) :: numbered (i + 1) causes

/-- The causes on lines of their own, numbered if there are several. -/
def causeLines : List String → List String
  | [cause] => ["\n    " ++ cause]
  | causes => numbered 0 causes

/-- What was attempted, and its causes below. -/
def text (t : Trouble) : String :=
  String.join (t.context :: "\n\nCaused by:" :: causeLines t.causes)

end Trouble

/-- The message as a line, without the time. -/
def messageLine (m : Log.Message) : String :=
  "[" ++ m.level.text ++ (if m.level.text.length < 5 then "  " else " ") ++ m.target ++ "] " ++
    m.text

/-- The command line is not a valid usage. -/
def Report.usage : Report :=
  ⟨2, [], [],
    ["usage: run [--hex] [--frames] [--ticks N] [--rate N] [--seed N] [--keys SCRIPT] FILE",
      "       disasm [--hex] FILE"]⟩

/-- The platform of the command line: nothing but the arguments asks for a level. -/
def Platform.standard : Platform where
  invocation args := match Invocation.ofArguments? args with
    | some inv => .ok inv
    | none => .error .usage
  seeded := .ofSeed
  threshold := some
  logged _ ms := ms.map messageLine
  described := Trouble.text

/-! ### Reports line by line -/

namespace Report

/-- What a command line leads to in a directory. -/
def ofArguments (files : Directory) (args : List String) : Report :=
  Platform.standard.answer files args

/-- The lines that have been written. -/
def outputLines (r : Report) : List String := Text.writtenLines r.output

/-- The lines of the complaint, without those of the logger. -/
def errorLines (r : Report) : List String := Text.writtenLines r.complaint

end Report

end ChipEight.CommandLine
