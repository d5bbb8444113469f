import ChipEight.Instruction.Assembly
import ChipEight.Keys.Script
import ChipEight.Machine.Tick

/-!
# Log

What is told about a machine while it is loaded and ticks.  An entry has a level, and a log keeps
the entries of the levels that it listens to.

* `Log.Entry`: what can be told, with its level and its text.
* `Log.Message`: an entry as a logger is handed it.
* `Machine.narrate`: what the next tick tells, which the state before it settles.
-/

namespace ChipEight

/-! ### Entries -/

namespace Log

/-- How important an entry is, the most important first. -/
inductive Level where
  | error
  | warn
  | info
  | debug
  | trace
  deriving DecidableEq, Repr

/-- How far a level is from the most important one. -/
def Level.rank : Level → Nat
  | .error => 0
  | .warn => 1
  | .info => 2
  | .debug => 3
  | .trace => 4

/-- The level as it is written. -/
def Level.text : Level → String
  | .error => "ERROR"
  | .warn => "WARN"
  | .info => "INFO"
  | .debug => "DEBUG"
  | .trace => "TRACE"

/-- Something that is told. -/
inductive Entry where
  /-- A program of some size was loaded. -/
  | loaded (size : Nat)
  /-- The registers before a fetch. -/
  | registers (r : Registers)
  /-- An instruction is about to be executed. -/
  | instruction (address : UInt16) (opcode : Opcode) (ins : Instruction)
  /-- A call of machine code has no effect. -/
  | ignored (a : Address)
  /-- A key is waited for from now on. -/
  | waiting (x : Register)
  /-- A key that was waited for is there. -/
  | resuming (x : Register) (key : Key)
  /-- An event of a script takes place before a tick. -/
  | event (tick : Nat) (e : KeyEvent)
  /-- A tick of a scripted run took a key that was waited for. -/
  | taken (tick : Nat) (x : Register) (key : Key)

/-- How important the entry is. -/
def Entry.level : Entry → Level
  | .registers _ => .trace
  | .loaded _ | .instruction _ _ _ | .ignored _ | .event _ _ | .taken _ _ _ => .debug
  | .waiting _ | .resuming _ _ => .info

/-- The name of a register. -/
def registerName (x : Register) : String := (Operand.register x).text

/-- The entry in words. -/
def Entry.text : Entry → String
  | .loaded size => "loaded " ++ size.repr ++ " byte program"
  | .registers r =>
    "v[" ++ ", ".intercalate (r.v.toList.map fun b => Hex.text 2 b.toNat) ++ "] i" ++
      Hex.text 4 r.index.toNat ++ " pc" ++ Hex.text 4 r.pc.toNat ++ " sp" ++ Hex.text 1 r.sp
  | .instruction address op ins =>
    Hex.literal 4 address.toNat ++ " " ++ op.text ++ ": " ++ ins.text
  | .ignored a => "ignoring machine code call to " ++ Hex.literal 3 a.val
  | .waiting x => "waiting for key press into " ++ registerName x
  | .resuming x key =>
    "key " ++ Hex.text 1 key.val ++ " pressed, resuming into " ++ registerName x
  | .event tick e =>
    "tick " ++ tick.repr ++ ": KeyEvent \x7b tick: " ++ e.tick.repr ++ ", key: " ++
      e.key.val.repr ++ ", pressed: " ++ (if e.pressed then "true" else "false") ++ " \x7d"
  | .taken tick x key =>
    "tick " ++ tick.repr ++ ": " ++ registerName x ++ " <- key " ++ Hex.text 1 key.val

/-- The entry as a line. -/
def Entry.line (e : Entry) : String := e.level.text ++ " " ++ e.text

/-! ### Messages -/

/-- What a logger is handed: who tells it, how important it is, and what it says. -/
structure Message where
  target : String
  level : Level
  text : String
  deriving DecidableEq, Repr

namespace Message

/-- Some messages, without those that are less important than a threshold; without one, none. -/
def kept (threshold : Option Level) (ms : List Message) : List Message :=
  ms.filter fun m => threshold.any fun t => m.level.rank ≤ t.rank

end Message

/-- Who tells the entry: the machine, or the scripted run that it is in. -/
def Entry.target : Entry → String
  | .event _ _ | .taken _ _ _ => "chip8_run::run"
  | .loaded _ | .registers _ | .instruction _ _ _ | .ignored _ | .waiting _ | .resuming _ _ =>
    "chip8_vm::chip8"

/-- The entry as a logger is handed it. -/
def Entry.message (e : Entry) : Message := ⟨e.target, e.level, e.text⟩

end Log

/-! ### Logs -/

/-- The entries that were told, of the levels up to a threshold; without one, none is kept. -/
structure Log where
  threshold : Option Log.Level
  entries : Array Log.Entry

namespace Log

/-- The log in which nothing was told yet. -/
def listening (threshold : Option Level) : Log := ⟨threshold, #[]⟩

/-- Whether the log keeps entries of a level. -/
def keeps (log : Log) (level : Level) : Bool := log.threshold.any fun t => level.rank ≤ t.rank

/-- The log with more entries told. -/
def record (log : Log) (es : List Entry) : Log :=
  { log with entries := log.entries ++ es.filter fun e => log.keeps e.level }

/-- The log of a machine that was just loaded with a program. -/
def ofLoad (threshold : Option Level) (program : List UInt8) : Log :=
  (listening threshold).record [.loaded program.length]

/-- The lines of the log. -/
def lines (log : Log) : List String := log.entries.toList.map Entry.line

/-- The log as a logger is handed it. -/
def messages (log : Log) : List Message := log.entries.toList.map Entry.message

end Log

/-! ### What a machine tells -/

/-- What executing an instruction tells beside the instruction itself. -/
def Machine.narrateEffect (m : Machine) : Instruction → List Log.Entry
  | .sys a => [.ignored a]
  | .awaitKey x => if m.keypad.firstPressed.isNone then [.waiting x] else []
  | _ => []

/-- What the next tick of a machine tells. -/
def Machine.narrate (m : Machine) : List Log.Entry :=
  match m.parked with
  | some x => m.keypad.firstPressed.toList.map (.resuming x ·)
  | none =>
    .registers m.registers ::
      match m.next with
      | .ok (op, ins) => .instruction m.registers.pc op ins :: m.narrateEffect ins
      | .error _ => []

end ChipEight
