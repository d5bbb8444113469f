import ChipEight.Machine.Execute

/-!
# Machine — Tick

One tick of the machine.  A machine that waits for a key looks at the keypad; any other machine
fetches the word at its program counter, decodes it, goes past it and executes it.  The timers
count down at the end of a tick, unless it failed.

* `Machine.next`: what is about to be executed.
* `Machine.tick`: the tick.
-/

namespace ChipEight

/-- What a tick did. -/
inductive Step where
  /-- An instruction was executed. -/
  | executed (ins : Instruction)
  /-- A key is waited for, and none is held. -/
  | awaitingKey
  /-- A key that was waited for went into a register. -/
  | resumed (x : Register) (key : Key)
  deriving DecidableEq, Repr

namespace Machine

/-- The word at the program counter. -/
def fetch (m : Machine) : Except Fault Opcode := m.memory.readWord m.registers.pc

/-- The word at the program counter and the instruction that it stands for. -/
def next (m : Machine) : Except Fault (Opcode × Instruction) :=
  match m.fetch with
  | .error e => .error e
  | .ok op =>
    match Instruction.decode op with
    | some ins => .ok (op, ins)
    | none => .error (.unknownOpcode op m.registers.pc)

/-- Looks at the keypad for the key that register `x` waits for. -/
def pollKey (m : Machine) (x : Register) : Outcome Step :=
  match m.keypad.firstPressed with
  | some key => ⟨{ m.put x (UInt8.ofNat key.val) with parked := none }, .ok (.resumed x key)⟩
  | none => ⟨m, .ok .awaitingKey⟩

/-- Executes the instruction at the program counter. -/
def runNext (m : Machine) : Outcome Step :=
  match m.next with
  | .error e => .failed m e
  | .ok (_, ins) =>
    match execute { m with registers := m.registers.advance } ins with
    | ⟨m, .ok ()⟩ => ⟨m, .ok (.executed ins)⟩
    | ⟨m, .error e⟩ => .failed m e

/-- One tick. -/
def tick (m : Machine) : Outcome Step :=
  let m := { m with drawn := false }
  let outcome := match m.parked with
    | some x => m.pollKey x
    | none => m.runNext
  match outcome with
  | ⟨m, .ok step⟩ => ⟨{ m with registers := m.registers.countDown }, .ok step⟩
  | ⟨m, .error e⟩ => .failed m e

end Machine

end ChipEight
