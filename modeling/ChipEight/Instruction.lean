import ChipEight.Opcode

/-!
# Instruction

What an opcode tells the machine to do.  An instruction carries exactly the fields that its
effect depends on, so two opcodes that differ in an unused field are one instruction.

* `Instruction.decode`: the instruction of an opcode, if it has one.
-/

namespace ChipEight

/-- One order to the machine, with its operands. -/
inductive Instruction where
  /-- Call machine code of the host, which does nothing here. -/
  | sys (a : Address)
  /-- Clear the frame. -/
  | cls
  /-- Return from a call. -/
  | ret
  /-- Go to an address. -/
  | jump (a : Address)
  /-- Call the code at an address. -/
  | call (a : Address)
  /-- Skip if a register holds a byte. -/
  | skipIfByte (x : Register) (b : UInt8)
  /-- Skip unless a register holds a byte. -/
  | skipUnlessByte (x : Register) (b : UInt8)
  /-- Skip if two registers are equal. -/
  | skipIfEqual (x y : Register)
  /-- Skip unless two registers are equal. -/
  | skipUnlessEqual (x y : Register)
  /-- Put a byte into a register. -/
  | loadByte (x : Register) (b : UInt8)
  /-- Add a byte to a register, without a carry. -/
  | addByte (x : Register) (b : UInt8)
  /-- Copy the second register into the first. -/
  | copy (x y : Register)
  /-- Bitwise or. -/
  | or (x y : Register)
  /-- Bitwise and. -/
  | and (x y : Register)
  /-- Bitwise exclusive or. -/
  | xor (x y : Register)
  /-- Add the second register to the first, with a carry. -/
  | add (x y : Register)
  /-- Take the second register from the first. -/
  | sub (x y : Register)
  /-- Take the first register from the second. -/
  | subn (x y : Register)
  /-- Shift right by one bit. -/
  | shr (x : Register)
  /-- Shift left by one bit. -/
  | shl (x : Register)
  /-- Point the index at an address. -/
  | loadIndex (a : Address)
  /-- Go to an address plus the first register. -/
  | jumpOffset (a : Address)
  /-- Put a random byte, masked, into a register. -/
  | random (x : Register) (mask : UInt8)
  /-- Draw the sprite of some height at the index. -/
  | draw (x y : Register) (height : Fin 16)
  /-- Skip if the key that a register names is pressed. -/
  | skipIfKey (x : Register)
  /-- Skip unless the key that a register names is pressed. -/
  | skipUnlessKey (x : Register)
  /-- Read the delay timer. -/
  | readDelay (x : Register)
  /-- Wait for a key. -/
  | awaitKey (x : Register)
  /-- Set the delay timer. -/
  | setDelay (x : Register)
  /-- Set the sound timer. -/
  | setSound (x : Register)
  /-- Add a register to the index. -/
  | addIndex (x : Register)
  /-- Point the index at the glyph of a digit. -/
  | glyph (x : Register)
  /-- Write the three decimal digits of a register at the index. -/
  | decimal (x : Register)
  /-- Write the registers up to `x` at the index. -/
  | store (x : Register)
  /-- Read the registers up to `x` at the index. -/
  | load (x : Register)
  deriving DecidableEq, Repr

namespace Instruction

/-- Band zero: two words of their own, and calls of machine code. -/
def ofAddress (a : Address) : Instruction :=
  match a with
  | 0x0E0 => .cls
  | 0x0EE => .ret
  | a => .sys a

/-- Band eight: the last nibble selects an operation on two registers. -/
def ofOperation? (x y : Register) (n : Fin 16) : Option Instruction :=
  match n with
  | 0x0 => some (.copy x y)
  | 0x1 => some (.or x y)
  | 0x2 => some (.and x y)
  | 0x3 => some (.xor x y)
  | 0x4 => some (.add x y)
  | 0x5 => some (.sub x y)
  | 0x6 => some (.shr x)
  | 0x7 => some (.subn x y)
  | 0xE => some (.shl x)
  | _ => none

/-- Band fourteen: the low byte selects a test of the keypad. -/
def ofKeyTest? (x : Register) (kk : UInt8) : Option Instruction :=
  match kk with
  | 0x9E => some (.skipIfKey x)
  | 0xA1 => some (.skipUnlessKey x)
  | _ => none

/-- Band fifteen: the low byte selects an operation on timers, keypad, index or memory. -/
def ofDevice? (x : Register) (kk : UInt8) : Option Instruction :=
  match kk with
  | 0x07 => some (.readDelay x)
  | 0x0A => some (.awaitKey x)
  | 0x15 => some (.setDelay x)
  | 0x18 => some (.setSound x)
  | 0x1E => some (.addIndex x)
  | 0x29 => some (.glyph x)
  | 0x33 => some (.decimal x)
  | 0x55 => some (.store x)
  | 0x65 => some (.load x)
  | _ => none

/-- The instruction of an opcode; some words of bands eight, fourteen and fifteen have none. -/
def decode (op : Opcode) : Option Instruction :=
  match op.band with
  | 0x0 => some (ofAddress op.addr)
  | 0x1 => some (.jump op.addr)
  | 0x2 => some (.call op.addr)
  | 0x3 => some (.skipIfByte op.x op.kk)
  | 0x4 => some (.skipUnlessByte op.x op.kk)
  | 0x5 => some (.skipIfEqual op.x op.y)
  | 0x6 => some (.loadByte op.x op.kk)
  | 0x7 => some (.addByte op.x op.kk)
  | 0x8 => ofOperation? op.x op.y op.n
  | 0x9 => some (.skipUnlessEqual op.x op.y)
  | 0xA => some (.loadIndex op.addr)
  | 0xB => some (.jumpOffset op.addr)
  | 0xC => some (.random op.x op.kk)
  | 0xD => some (.draw op.x op.y op.n)
  | 0xE => ofKeyTest? op.x op.kk
  | _ => ofDevice? op.x op.kk

end Instruction

end ChipEight
