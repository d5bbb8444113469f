import ChipEight.Arithmetic
import ChipEight.Frame
import ChipEight.Keypad
import ChipEight.Memory
import ChipEight.Random.Stream
import ChipEight.Registers

/-!
# Machine

The whole state of the virtual machine.

* `Machine.load`: a machine about to run a program.
* `Machine.press`, `Machine.release`: what its keypad undergoes from outside.
-/

namespace ChipEight

/-- The state of the virtual machine. -/
structure Machine where
  registers : Registers
  memory : Memory
  frame : Frame
  keypad : Keypad
  /-- Where random bytes come from. -/
  random : ByteStream
  /-- The register that a key is waited for, if the machine waits for one. -/
  parked : Option Register
  /-- Whether the last tick cleared the frame or drew into it. -/
  drawn : Bool

namespace Machine

/-- The machine with a program in its memory and nothing run yet. -/
def load (program : List UInt8) (random : ByteStream) : Except Fault Machine :=
  match Memory.initial.load program with
  | .ok memory => .ok
    { registers := .startingAt Memory.programStart
      memory := memory
      frame := .blank
      keypad := .released
      random := random
      parked := none
      drawn := false }
  | .error e => .error e

/-- A program that fits is loaded. -/
theorem load_of_fits {program : List UInt8} (h : program.length ≤ Memory.programLimit)
    (random : ByteStream) :
    load program random = .ok
      { registers := .startingAt Memory.programStart
        memory := Memory.initial.overlay Memory.programStart.toNat program
        frame := .blank
        keypad := .released
        random := random
        parked := none
        drawn := false } := by
  have hm : Memory.initial.load program = .ok _ := if_pos h
  rw [load, hm]

/-- A program that does not fit is not loaded. -/
theorem load_of_large {program : List UInt8} (h : Memory.programLimit < program.length)
    (random : ByteStream) :
    load program random = .error (.programTooLarge program.length Memory.programLimit) := by
  have hm : Memory.initial.load program = .error _ := if_neg (Nat.not_le_of_lt h)
  rw [load, hm]

theorem length_le_of_load {program : List UInt8} {random : ByteStream} {m : Machine}
    (h : load program random = .ok m) : program.length ≤ Memory.programLimit := by
  refine Nat.le_of_not_lt fun hlarge => ?_
  rw [load_of_large hlarge] at h
  cases h

/-- A key goes down. -/
def press (m : Machine) (key : UInt8) : Machine := { m with keypad := m.keypad.press key }

/-- A key goes up. -/
def release (m : Machine) (key : UInt8) : Machine := { m with keypad := m.keypad.release key }

/-- The frame, if the last tick changed it. -/
def freshFrame (m : Machine) : Option Frame := if m.drawn then some m.frame else none

/-- The machine with a byte in a register. -/
def put (m : Machine) (x : Register) (b : UInt8) : Machine :=
  { m with registers := m.registers.put x b }

/-- The machine with a result in a register and its flag in the flag register.  The flag is put
last, so it stays when the two are one register. -/
def putFlagged (m : Machine) (x : Register) (f : Arithmetic.Flagged) : Machine :=
  (m.put x f.result).put Registers.flag f.flag.toUInt8

/-- The machine with its program counter at an address. -/
def goTo (m : Machine) (a : UInt16) : Machine :=
  { m with registers := { m.registers with pc := a } }

/-- The machine with its index at an address. -/
def pointTo (m : Machine) (a : UInt16) : Machine :=
  { m with registers := { m.registers with index := a } }

/-- The machine past one instruction more, under a condition. -/
def skipIf (m : Machine) (c : Bool) : Machine := { m with registers := m.registers.skipIf c }

end Machine

end ChipEight
