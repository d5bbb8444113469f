import ChipEight.Proofs.Guarded.Agreement
import Mathlib.Algebra.Group.Nat.Defs

/-!
# Proofs — Bytewise

Blocks of memory and the bytes that they consist of.  A byte is accessed at an address of its own, a
block between two bounds that are checked together.  The two agree, wherever a block starts and
however long it is: a block is read if all of its bytes are, and the fault is that of the first byte
that is not.  A block that is not written as a whole is not written at all, whereas bytes that are
written one after the other are written up to the first fault.

* `Memory.readEach`, `Memory.writeEach`: the bytes of a block, one after the other.
* `Memory.update`: what a change that may fail leaves.
* `Memory.blocks_bytewise`: a block is its bytes, all of them or none.
-/

namespace ChipEight

namespace Memory

variable {α : Type} {m : Memory} {a : UInt16} {i count : Nat}

/-! ### One byte -/

/-- What is done at the address of a position.  No address goes with a position that is too large
for one. -/
def atPosition (i : Nat) (f : UInt16 → Except Fault α) : Except Fault α :=
  if i < 0x10000 then f (UInt16.ofNat i) else .error (.outOfMemory i)

@[simp] theorem atPosition_toNat (a : UInt16) (f : UInt16 → Except Fault α) :
    atPosition a.toNat f = f a := by
  rw [atPosition, if_pos a.toNat_lt, UInt16.ofNat_toNat]

/-- What can be done at the addresses in memory can be done at the positions in memory. -/
theorem atPosition_eq {f : UInt16 → Except Fault α} {g : Nat → α} (i : Nat)
    (h : ∀ a, f a = if a.toNat < size then .ok (g a.toNat) else .error (.outOfMemory a.toNat)) :
    atPosition i f = if i < size then .ok (g i) else .error (.outOfMemory i) := by
  by_cases hi : i < 0x10000
  · rw [atPosition, if_pos hi, h, UInt16.toNat_ofNat_of_lt' hi]
  · have hs : ¬ i < size := by
      rw [size]
      omega
    rw [atPosition, if_neg hi, if_neg hs]

theorem atPosition_readByte (m : Memory) (i : Nat) :
    atPosition i m.readByte = if i < size then .ok (m.byteAt i) else .error (.outOfMemory i) :=
  atPosition_eq i fun _ => rfl

theorem atPosition_writeByte (m : Memory) (b : UInt8) (i : Nat) :
    atPosition i (m.writeByte · b) =
      if i < size then .ok ⟨m.bytes.setIfInBounds i b⟩ else .error (.outOfMemory i) :=
  atPosition_eq (g := fun j => Memory.mk (m.bytes.setIfInBounds j b)) i fun _ => rfl

/-! ### Bytes one after the other -/

/-- The bytes from a position on, read one after the other. -/
def readEach (m : Memory) (i : Nat) : Nat → Except Fault (List UInt8)
  | 0 => .ok []
  | count + 1 => do
    let b ← atPosition i m.readByte
    return b :: (← m.readEach (i + 1) count)

/-- What an attempt to write leaves: memory in any case, and a fault if there was one. -/
structure Attempt where
  memory : Memory
  result : Except Fault Unit

/-- What is left when bytes are written from a position on, one after the other, up to the first
fault. -/
def writeEach (m : Memory) (i : Nat) : List UInt8 → Attempt
  | [] => ⟨m, .ok ()⟩
  | b :: data =>
    match atPosition i (m.writeByte · b) with
    | .ok m' => m'.writeEach (i + 1) data
    | .error e => ⟨m, .error e⟩

/-- What a change that may fail leaves. -/
def update (m : Memory) : Except Fault Memory → Attempt
  | .ok m' => ⟨m', .ok ()⟩
  | .error e => ⟨m, .error e⟩

/-- The first byte that cannot be read is the first one that is not in memory. -/
theorem readEach_eq (m : Memory) (i count : Nat) :
    m.readEach i count =
      if count = 0 ∨ i + count ≤ size then
        .ok ((List.range count).map fun k => m.byteAt (i + k))
      else .error (.outOfMemory (max i size)) := by
  induction count generalizing i with
  | zero => rfl
  | succ count ih =>
      rw [readEach, atPosition_readByte]
      by_cases hi : i < size
      · rw [if_pos hi, ih]
        by_cases hc : count = 0 ∨ i + 1 + count ≤ size
        · have hrange : (List.range (count + 1)).map (fun k => m.byteAt (i + k)) =
              m.byteAt i :: (List.range count).map fun k => m.byteAt (i + 1 + k) := by
            rw [List.range_succ_eq_map, List.map_cons, List.map_map]
            simp only [Function.comp_def, Nat.add_zero, Nat.succ_eq_add_one, Nat.add_assoc,
              Nat.add_comm 1]
          rw [if_pos hc, if_pos (by omega), hrange]
          rfl
        · rw [if_neg hc, if_neg (by omega), Nat.max_eq_right (by omega),
            Nat.max_eq_right (Nat.le_of_lt hi)]
          rfl
      · rw [if_neg hi, if_neg (by omega), Nat.max_eq_left (Nat.not_lt.mp hi)]
        rfl

/-- What is put behind the top of memory changes nothing. -/
theorem overlay_of_le (m : Memory) (h : size ≤ i) (data : List UInt8) : m.overlay i data = m := by
  induction data generalizing i with
  | nil => rfl
  | cons b data ih =>
      have hset : m.bytes.setIfInBounds i b = m.bytes :=
        Vector.setIfInBounds_eq_of_size_le h
      rw [overlay, hset]
      exact ih (Nat.le_succ_of_le h)

/-- The bytes up to the top of memory are written, and the first one that is not is the first one
behind it. -/
theorem writeEach_eq (m : Memory) (i : Nat) (data : List UInt8) :
    m.writeEach i data = ⟨m.overlay i data,
      if data.length = 0 ∨ i + data.length ≤ size then .ok ()
      else .error (.outOfMemory (max i size))⟩ := by
  induction data generalizing m i with
  | nil => rfl
  | cons b data ih =>
      rw [writeEach, atPosition_writeByte, List.length_cons]
      by_cases hi : i < size
      · rw [if_pos hi]
        refine (ih _ _).trans (congrArg (Attempt.mk _) ?_)
        by_cases hc : data.length = 0 ∨ i + 1 + data.length ≤ size
        · rw [if_pos hc, if_pos (by omega)]
        · rw [if_neg hc, if_neg (by omega), Nat.max_eq_right (by omega),
            Nat.max_eq_right (Nat.le_of_lt hi)]
      · rw [if_neg hi, if_neg (by omega), Nat.max_eq_left (Nat.not_lt.mp hi),
          overlay_of_le m (Nat.not_lt.mp hi)]

/-! ### Blocks -/

theorem read_eq_readEach (m : Memory) (a : UInt16) (count : Nat) :
    m.read a count = m.readEach a.toNat count :=
  (readEach_eq m a.toNat count).symm

theorem exists_read_iff : (∃ bytes, m.read a count = .ok bytes) ↔ Fits a count := by
  by_cases h : Fits a count <;> simp [read, h]

/-- A word is two bytes, of which the first one that cannot be read is at fault. -/
theorem readWord_eq_bytes (m : Memory) (a : UInt16) :
    m.readWord a = do
      let high ← m.readByte a
      let low ← atPosition (a.toNat + 1) m.readByte
      return .ofBytes high low := by
  rw [← atPosition_toNat a m.readByte, atPosition_readByte, atPosition_readByte, readWord]
  by_cases hlow : a.toNat + 1 < size
  · have hf : Fits a 2 := .inr hlow
    rw [if_pos hf, if_pos (Nat.lt_of_succ_lt hlow), if_pos hlow]
    rfl
  · have hf : ¬ Fits a 2 := by
      rintro (h | h)
      · cases h
      · exact hlow h
    rw [if_neg hf, if_neg hlow]
    by_cases hhigh : a.toNat < size
    · have htop : a.toNat + 1 = size := Nat.le_antisymm hhigh (Nat.not_lt.mp hlow)
      rw [if_pos hhigh, htop, outside, Nat.max_eq_right (Nat.le_of_lt hhigh)]
      rfl
    · rw [if_neg hhigh, outside, Nat.max_eq_left (Nat.not_lt.mp hhigh)]
      rfl

/-- A block is written as its bytes are, or not at all. -/
theorem update_write (m : Memory) (a : UInt16) (data : List UInt8) :
    m.update (m.write a data) =
      match (m.writeEach a.toNat data).result with
      | .ok () => m.writeEach a.toNat data
      | .error e => ⟨m, .error e⟩ := by
  rw [writeEach_eq, write]
  by_cases h : Fits a data.length
  · have h' : data.length = 0 ∨ a.toNat + data.length ≤ size := h
    rw [if_pos h, if_pos h']
    rfl
  · have h' : ¬ (data.length = 0 ∨ a.toNat + data.length ≤ size) := h
    rw [if_neg h, if_neg h']
    rfl

/-- A program that fits is put at its place, and any other one is not put anywhere. -/
theorem update_load_of_fits {program : List UInt8} (h : program.length ≤ 3584) :
    m.update (m.load program) = ⟨m.overlay 0x200 program, .ok ()⟩ := by
  have hl : m.load program = .ok (m.overlay 0x200 program) := if_pos h
  rw [hl, update]

theorem update_load_of_not_fits {program : List UInt8} (h : 3584 < program.length) :
    m.update (m.load program) = ⟨m, .error (.programTooLarge program.length 3584)⟩ := by
  have hl : m.load program = .error (.programTooLarge program.length 3584) :=
    if_neg (Nat.not_le.mpr h)
  rw [hl, update]

end Memory

/-- What the machine writes at its index it writes as a change of its memory. -/
theorem Machine.writeBlock_eq_update (n : Machine) (data : List UInt8) :
    n.writeBlock data =
      ⟨{ n with memory := (n.memory.update (n.memory.write n.registers.index data)).memory },
        (n.memory.update (n.memory.write n.registers.index data)).result⟩ := by
  unfold writeBlock
  cases n.memory.write n.registers.index data <;> rfl

/-- **A block is its bytes, all of them or none.**  Reading a block of any length gives the bytes
from its address on, as they are read one after the other, or the fault of the first one that is not
read; it gives bytes if there are none to read or all of them are in memory.  A word is the two
bytes at its address, the high one first.  Writing a block leaves what writing its bytes one after
the other leaves, unless one of them is not written: then memory stays as it was, and the fault is
that of the first such byte.  Loading writes a program at its place if it fits, and nothing
otherwise.  It makes no difference to a block if its bounds are worked out beforehand, which for
any shorter than 2^63 bytes fit a word of 64 bits, and cut out of memory. -/
theorem Memory.blocks_bytewise (m : Memory) (a : UInt16) :
    (∀ count, m.read a count = m.readEach a.toNat count ∧
      ((∃ bytes, m.read a count = .ok bytes) ↔ count = 0 ∨ a.toNat + count ≤ 4096)) ∧
    (m.readWord a = do
      let high ← m.readByte a
      let low ← atPosition (a.toNat + 1) m.readByte
      return .ofBytes high low) ∧
    (∀ high low, (Opcode.ofBytes high low).word.toNat = 256 * high.toNat + low.toNat) ∧
    (∀ data, m.update (m.write a data) =
      match (m.writeEach a.toNat data).result with
      | .ok () => m.writeEach a.toNat data
      | .error e => ⟨m, .error e⟩) ∧
    (∀ program : List UInt8,
      (program.length ≤ 3584 → (m.update (m.load program)).result = .ok () ∧
        ∀ i, (m.update (m.load program)).memory.byteAt i =
          if 0x200 ≤ i ∧ i < 0x200 + program.length then program[i - 0x200]?.getD 0
          else m.byteAt i) ∧
      (3584 < program.length →
        m.update (m.load program) = ⟨m, .error (.programTooLarge program.length 3584)⟩)) ∧
    (∀ count < 2 ^ 63, a.toNat + count < 2 ^ 64 ∧
      Guarded.read m a count = .ok (m.read a count)) ∧
    (∀ data, Guarded.write m a data = .ok (m.write a data)) ∧
    Guarded.readWord m a = .ok (m.readWord a) ∧
    ∀ n : Machine, n.memory = m → n.registers.index = a → ∀ data,
      n.writeBlock data =
        ⟨{ n with memory := (m.update (m.write a data)).memory },
          (m.update (m.write a data)).result⟩ := by
  refine ⟨fun count => ⟨m.read_eq_readEach a count, exists_read_iff⟩, m.readWord_eq_bytes a,
    Opcode.toNat_word_ofBytes, m.update_write a, fun program => ⟨fun h => ?_, fun h => ?_⟩,
    fun count hcount => ⟨?_, Guarded.read_eq m a count⟩, Guarded.write_eq m a,
    Guarded.readWord_eq m a, ?_⟩
  · rw [update_load_of_fits h]
    refine ⟨rfl, fun i => (m.byteAt_overlay 0x200 i program).trans ?_⟩
    have hin : 0x200 ≤ i ∧ i < 0x200 + program.length ∧ i < size ↔
        0x200 ≤ i ∧ i < 0x200 + program.length := by
      rw [size]
      omega
    simp only [hin]
  · exact update_load_of_not_fits h
  · have ha := a.toNat_lt
    omega
  · rintro n rfl rfl data
    exact n.writeBlock_eq_update data

/-- The theorem at a block of three bytes, the last of which is behind the top of memory.  One after
the other the first two are written, as a block none of them. -/
theorem Memory.blocks_bytewise_straddling :
    Memory.initial.read 0xFFE 3 = .error (.outOfMemory 4096) ∧
      (Memory.initial.writeEach 0xFFE [1, 2, 3]).result = .error (.outOfMemory 4096) ∧
      (Memory.initial.writeEach 0xFFE [1, 2, 3]).memory.byteAt 0xFFF = 2 ∧
      Memory.initial.update (Memory.initial.write 0xFFE [1, 2, 3]) =
        ⟨Memory.initial, .error (.outOfMemory 4096)⟩ ∧
      (Memory.initial.update (Memory.initial.load [0x12])).memory.byteAt 0x200 = 0x12 := by
  obtain ⟨hread, -, -, hwrite, hload, -⟩ := blocks_bytewise initial 0xFFE
  have hnot : ¬ (3 = 0 ∨ (0xFFE : UInt16).toNat + 3 ≤ size) := by decide
  have heach : initial.writeEach 0xFFE [1, 2, 3] =
      ⟨initial.overlay 0xFFE [1, 2, 3], .error (.outOfMemory 4096)⟩ :=
    (writeEach_eq ..).trans (congrArg (Attempt.mk _) (if_neg hnot))
  refine ⟨?_, ?_, ?_, ?_, ?_⟩
  · rw [(hread 3).1, readEach_eq, if_neg hnot]
    rfl
  · rw [heach]
  · rw [heach, byteAt_overlay, if_pos (by decide)]
    rfl
  · have heach' : initial.writeEach (0xFFE : UInt16).toNat [1, 2, 3] = _ := heach
    rw [hwrite, heach']
  · obtain ⟨hfits, -⟩ := hload [0x12]
    rw [(hfits (by decide)).2, if_pos (by decide)]
    rfl

end ChipEight
