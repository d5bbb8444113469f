import ChipEight.Opcode

/-!
# Fault

The ways in which loading a program or running an instruction can go wrong.
-/

namespace ChipEight

/-- Why the machine could not go on. -/
inductive Fault where
  /-- The word at an address stands for no instruction. -/
  | unknownOpcode (opcode : Opcode) (address : UInt16)
  /-- There is no memory at an address. -/
  | outOfMemory (address : Nat)
  /-- A call found no room for its return address. -/
  | stackFull (returnAddress : UInt16)
  /-- A return found no call to return from; the program counter is past it. -/
  | stackEmpty (pc : UInt16)
  /-- A program has more bytes than there is room for. -/
  | programTooLarge (size limit : Nat)
  deriving DecidableEq, Repr

/-- What is said of a word that stands for no instruction. -/
def Opcode.unknown (op : Opcode) : String := "unknown opcode 0x" ++ op.text

namespace Fault

/-- The fault in words. -/
def message : Fault → String
  | unknownOpcode op address => op.unknown ++ " at address " ++ Hex.literal 4 address.toNat
  | outOfMemory address => "memory access out of bounds at address " ++ Hex.literal 4 address
  | stackFull returnAddress =>
    "stack overflow: no room to save return address " ++ Hex.literal 4 returnAddress.toNat
  | stackEmpty pc =>
    "stack underflow: return with an empty call stack (pc " ++ Hex.literal 4 pc.toNat ++ ")"
  | programTooLarge size limit =>
    "program is too large (" ++ size.repr ++ " bytes), max size is " ++ limit.repr ++ " bytes"

end Fault

end ChipEight
