import ChipEight.CommandLine.Directory
import ChipEight.CommandLine.Platform
import ChipEight.Disassembly
import ChipEight.HexListing

/-!
# CommandLine — Ending

What carrying out a command comes to.  A command reads its program from a file, and then runs or
lists it; it writes, it tells the logger about the run, and it may end in trouble.

* `Invocation.image`: the program, read from its file.
* `Invocation.perform`: the task done with the program.
* `Platform.answer`: what a whole command line leads to in a directory.
-/

namespace ChipEight.CommandLine

/-- What carrying out a command comes to: the texts that it writes, the messages that reach the
logger, and the trouble that it ends in, if it does. -/
structure Ending where
  output : List String
  told : List Log.Message
  trouble : Option Trouble
  deriving DecidableEq, Repr

namespace Ending

/-- All went well. -/
def success (output : List String) (told : List Log.Message) : Ending := ⟨output, told, none⟩

/-- Something went wrong after some texts had been written and some messages told. -/
def failure (output : List String) (told : List Log.Message) (t : Trouble) : Ending :=
  ⟨output, told, some t⟩

end Ending

/-- The trouble of a session that has halted. -/
def Trouble.ofHalt (h : Halt) : Trouble := ⟨h.context, [h.fault.message]⟩

/-! ### Tasks -/

namespace Invocation

/-- The program of a file that is a listing of bytes. -/
def listedImage (path : String) (bytes : List UInt8) : Except Trouble (List UInt8) :=
  match String.fromUTF8? ⟨bytes.toArray⟩ with
  | none => .error ⟨"unable to read " ++ path, ["stream did not contain valid UTF-8"]⟩
  | some text =>
    match HexListing.parse text with
    | .ok program => .ok program
    | .error b => .error ⟨"malformed hex listing in " ++ path, b.messages⟩

/-- The program that is asked for, from what its path leads to. -/
def image (inv : Invocation) (contents : Except ReadFailure (List UInt8)) :
    Except Trouble (List UInt8) :=
  match contents with
  | .error e => .error ⟨"unable to read " ++ inv.path, [e.message]⟩
  | .ok bytes => if inv.hex then listedImage inv.path bytes else .ok bytes

/-- Runs a program. -/
def runImage (inv : Invocation) (p : Platform) (o : RunOptions) (program : List UInt8) : Ending :=
  let threshold := p.threshold inv.level
  let read := Log.Message.kept threshold [inv.readMessage program.length]
  match Machine.load program (p.seeded o.seed) with
  | .error e => .failure [] read ⟨"unable to load " ++ inv.path, [e.message]⟩
  | .ok m =>
    match Session.run m o.script o.ticks o.frames (.ofLoad threshold program) with
    | (s, none) => .success s.output.toList (read ++ s.log.messages)
    | (s, some h) => .failure s.output.toList (read ++ s.log.messages) (.ofHalt h)

/-- Does the task with what the path leads to. -/
def perform (inv : Invocation) (p : Platform) (contents : Except ReadFailure (List UInt8)) :
    Ending :=
  match inv.image contents with
  | .error t => .failure [] [] t
  | .ok program =>
    match inv.task with
    | .run o => inv.runImage p o program
    | .disasm => .success (listing program) []

end Invocation

/-! ### Whole command lines -/

namespace Platform

/-- What a command that comes to an ending leaves behind, when a level is asked for. -/
def report (p : Platform) (level : Log.Level) (e : Ending) : Report where
  exit := if e.trouble.isSome then 1 else 0
  output := e.output
  logged := p.logged level e.told
  complaint := e.trouble.toList.map fun t => "Error: " ++ p.described t

/-- What a command line leads to in a directory. -/
def answer (p : Platform) (files : Directory) (args : List String) : Report :=
  match p.invocation args with
  | .error r => r
  | .ok inv => p.report inv.level (inv.perform p (files inv.path))

end Platform

end ChipEight.CommandLine
