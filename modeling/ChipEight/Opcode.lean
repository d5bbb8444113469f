import ChipEight.Nibble
import ChipEight.Text.Hex

/-!
# Opcode

A program is a row of 16-bit words, the high byte first.  A word is cut into fields: its four
nibbles are the band, `x`, `y` and `n`; its low byte is `kk`; its low twelve bits are an address.

* `Opcode.toNat_word_ofBytes`: the word two bytes make.
-/

namespace ChipEight

/-- The number of one of the sixteen registers. -/
abbrev Register := Fin 16

/-- An address that an opcode can name. -/
abbrev Address := Fin 4096

/-- One word of a program. -/
structure Opcode where
  word : UInt16
  deriving DecidableEq, Repr

namespace Opcode

/-- The word of two bytes, the high one first. -/
def ofBytes (high low : UInt8) : Opcode := ⟨UInt16.ofNat (256 * high.toNat + low.toNat)⟩

/-- The first nibble, which selects a family of instructions. -/
def band (op : Opcode) : Fin 16 := ⟨op.word.toNat / 4096, by have := op.word.toNat_lt; omega⟩

/-- The second nibble. -/
def x (op : Opcode) : Register := ⟨op.word.toNat / 256 % 16, by omega⟩

/-- The third nibble. -/
def y (op : Opcode) : Register := ⟨op.word.toNat / 16 % 16, by omega⟩

/-- The last nibble. -/
def n (op : Opcode) : Fin 16 := ⟨op.word.toNat % 16, by omega⟩

/-- The low byte. -/
def kk (op : Opcode) : UInt8 := UInt8.ofNat op.word.toNat

/-- The low twelve bits. -/
def addr (op : Opcode) : Address := ⟨op.word.toNat % 4096, by omega⟩

/-- The nibbles from first to last. -/
def nibbles (op : Opcode) : List (Fin 16) := [op.band, op.x, op.y, op.n]

/-- The four digits of the word. -/
def text (op : Opcode) : String := Hex.text 4 op.word.toNat

theorem toNat_word_ofBytes (high low : UInt8) :
    (ofBytes high low).word.toNat = 256 * high.toNat + low.toNat := by
  have h := high.toNat_lt
  have l := low.toNat_lt
  simp only [ofBytes, UInt16.toNat_ofNat']
  omega

end Opcode

end ChipEight
