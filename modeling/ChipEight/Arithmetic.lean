/-!
# Arithmetic

Byte arithmetic with a flag, and the decimal digits of a byte.

* `addCarry`: the flag is the carry.
* `subBorrow`: the flag is raised when the first operand is strictly greater.
* `shiftRight`, `shiftLeft`: the flag is the bit that falls out.
-/

namespace ChipEight.Arithmetic

/-- A byte together with the flag that its computation raised or not. -/
structure Flagged where
  result : UInt8
  flag : Bool
  deriving DecidableEq, Repr

/-- The sum modulo 256, and whether it went beyond 255. -/
def addCarry (a b : UInt8) : Flagged := ⟨a + b, 0xFF < a.toNat + b.toNat⟩

/-- The difference modulo 256, and whether the first operand is strictly greater. -/
def subBorrow (a b : UInt8) : Flagged := ⟨a - b, b < a⟩

/-- Half of a byte, and whether the byte is odd. -/
def shiftRight (a : UInt8) : Flagged := ⟨a / 2, a % 2 = 1⟩

/-- Twice a byte modulo 256, and whether the highest bit was set. -/
def shiftLeft (a : UInt8) : Flagged := ⟨a * 2, 0x80 ≤ a⟩

/-- The hundreds, tens and ones of a byte. -/
def decimalDigits (a : UInt8) : List UInt8 := [a / 100, a / 10 % 10, a % 10]

end ChipEight.Arithmetic
