import ChipEight.Fault
import ChipEight.Font

/-!
# Memory

Four thousand and ninety-six bytes, of which the font and the program are there from the start.
`Memory.byteAt` is the view that the operations are described by.

* `read`, `write`: blocks of bytes.  A block that does not fit is not touched at all, and an empty
  one fits anywhere.
* `byteAt_overlay`: what a write leaves at each address.
* `load`: a program at its place.
-/

namespace ChipEight

/-- The bytes of the machine. -/
structure Memory where
  bytes : Vector UInt8 4096
  deriving DecidableEq

namespace Memory

/-- How many bytes there are. -/
def size : Nat := 4096

/-- The address that programs are loaded at. -/
def programStart : UInt16 := 0x200

/-- How long a program may be. -/
def programLimit : Nat := size - programStart.toNat

/-- The byte at a position, zero where there is no memory. -/
def byteAt (m : Memory) (i : Nat) : UInt8 := m.bytes[i]?.getD 0

/-- The memory before a program is loaded: the font, and zeros around it. -/
def initial : Memory where
  bytes := .ofFn fun i =>
    if Font.start ≤ i.val then Font.glyphs[i.val - Font.start]?.getD 0 else 0

/-- Whether the `count` bytes from an address on are in memory; if there are none, they are. -/
def Fits (a : UInt16) (count : Nat) : Prop := count = 0 ∨ a.toNat + count ≤ size

instance (a : UInt16) (count : Nat) : Decidable (Fits a count) :=
  inferInstanceAs (Decidable (_ ∨ _))

/-- The fault of a block from an address on: its first byte that is not in memory. -/
def outside (a : UInt16) : Fault := .outOfMemory (max a.toNat size)

/-- The byte at an address. -/
def readByte (m : Memory) (a : UInt16) : Except Fault UInt8 :=
  if a.toNat < size then .ok (m.byteAt a.toNat) else .error (.outOfMemory a.toNat)

/-- The `count` bytes from an address on. -/
def read (m : Memory) (a : UInt16) (count : Nat) : Except Fault (List UInt8) :=
  if Fits a count then .ok ((List.range count).map fun k => m.byteAt (a.toNat + k))
  else .error (outside a)

/-- The word at an address, the high byte first. -/
def readWord (m : Memory) (a : UInt16) : Except Fault Opcode :=
  if Fits a 2 then .ok (.ofBytes (m.byteAt a.toNat) (m.byteAt (a.toNat + 1))) else .error (outside a)

/-- The memory with a byte put at an address. -/
def writeByte (m : Memory) (a : UInt16) (b : UInt8) : Except Fault Memory :=
  if a.toNat < size then .ok ⟨m.bytes.setIfInBounds a.toNat b⟩
  else .error (.outOfMemory a.toNat)

/-- The memory with some bytes put from a position on. -/
def overlay (m : Memory) : Nat → List UInt8 → Memory
  | _, [] => m
  | i, b :: data => overlay ⟨m.bytes.setIfInBounds i b⟩ (i + 1) data

/-- The memory with some bytes put from an address on. -/
def write (m : Memory) (a : UInt16) (data : List UInt8) : Except Fault Memory :=
  if Fits a data.length then .ok (m.overlay a.toNat data) else .error (outside a)

/-- The memory with a program put at its place. -/
def load (m : Memory) (program : List UInt8) : Except Fault Memory :=
  if program.length ≤ programLimit then .ok (m.overlay programStart.toNat program)
  else .error (.programTooLarge program.length programLimit)

theorem length_read {m : Memory} {a : UInt16} {count : Nat} {bytes : List UInt8}
    (h : m.read a count = .ok bytes) : bytes.length = count := by
  unfold read at h
  split at h
  · obtain rfl := Except.ok.inj h
    simp
  · cases h

theorem byteAt_set (m : Memory) (i j : Nat) (b : UInt8) :
    byteAt ⟨m.bytes.setIfInBounds i b⟩ j = if i = j ∧ j < size then b else m.byteAt j := by
  simp only [byteAt, Vector.getElem?_setIfInBounds, size]
  by_cases h : i = j
  · subst h
    by_cases hi : i < 4096 <;> simp [hi]
  · simp [h]

/-- What lies at a position once `data` has been put from `i` on. -/
theorem byteAt_overlay (m : Memory) (i j : Nat) (data : List UInt8) :
    (m.overlay i data).byteAt j =
      if i ≤ j ∧ j < i + data.length ∧ j < size then data[j - i]?.getD 0 else m.byteAt j := by
  induction data generalizing m i with
  | nil => simp only [overlay, List.length_nil]; rw [if_neg]; omega
  | cons b data ih =>
    rw [overlay, ih, byteAt_set, List.length_cons]
    by_cases hij : i = j
    · subst hij
      by_cases hs : i < size
      · rw [if_neg (by omega), if_pos ⟨rfl, hs⟩, if_pos (by omega)]
        simp
      · rw [if_neg (by omega), if_neg (by omega), if_neg (by omega)]
    · rw [if_neg (show ¬ (i = j ∧ j < size) by omega)]
      by_cases h : i + 1 ≤ j ∧ j < i + 1 + data.length ∧ j < size
      · rw [if_pos h, if_pos (by omega)]
        obtain ⟨k, rfl⟩ : ∃ k, j = i + 1 + k := ⟨j - (i + 1), by omega⟩
        rw [show i + 1 + k - (i + 1) = k by omega, show i + 1 + k - i = k + 1 by omega]
        simp
      · rw [if_neg h, if_neg (by omega)]

end Memory

end ChipEight
