import ChipEight.Proofs.Ticks

/-!
# Proofs — Flags

What the operations on byte registers leave, whichever registers they work on.  Five of them tell in
the flag register of a carry, of a difference above zero, or of the bit that a shift drops; five
others tell nothing there.  Both operands are read before anything is put, and the flag is put last.
So the flag register may be an operand like any other, and where it also takes the result, the flag
is what stays in it.

* `Opcode.Flagging`: the words of the first five, with when the flag is raised and with the result.
* `Opcode.Flagless`: the words of the others, with the result.
* `Machine.arithmetic_tick`: a tick at such a word leaves what the two tables say.
-/

namespace ChipEight

open Arithmetic

/-! ### The tables -/

namespace Opcode

/-- The words that leave a flag, each with when the flag is raised and with the result.  The word
names two registers, which hold `a` and `b`. -/
inductive Flagging (op : Opcode) (a b : Int) : Prop → Int → Prop where
  | add (hb : op.band = 0x8) (hn : op.n = 0x4) : Flagging op a b (255 < a + b) ((a + b) % 256)
  | sub (hb : op.band = 0x8) (hn : op.n = 0x5) : Flagging op a b (b < a) ((a - b) % 256)
  | shr (hb : op.band = 0x8) (hn : op.n = 0x6) : Flagging op a b (a % 2 = 1) (a / 2)
  | subn (hb : op.band = 0x8) (hn : op.n = 0x7) : Flagging op a b (a < b) ((b - a) % 256)
  | shl (hb : op.band = 0x8) (hn : op.n = 0xE) : Flagging op a b (128 ≤ a) (2 * a % 256)

/-- The words that leave a result and no flag. -/
inductive Flagless (op : Opcode) (a b : Nat) : Nat → Prop where
  | addByte (hb : op.band = 0x7) : Flagless op a b ((a + op.kk.toNat) % 256)
  | copy (hb : op.band = 0x8) (hn : op.n = 0x0) : Flagless op a b b
  | or (hb : op.band = 0x8) (hn : op.n = 0x1) : Flagless op a b (a ||| b)
  | and (hb : op.band = 0x8) (hn : op.n = 0x2) : Flagless op a b (a &&& b)
  | xor (hb : op.band = 0x8) (hn : op.n = 0x3) : Flagless op a b (a ^^^ b)

end Opcode

/-! ### Flagged bytes in numbers -/

namespace Arithmetic

/-- What a flagged byte says in numbers. -/
structure Flagged.Tells (f : Flagged) (raised : Prop) (value : Int) : Prop where
  flag : f.flag = true ↔ raised
  result : (f.result.toNat : Int) = value

variable (a b : UInt8)

theorem tells_addCarry :
    (addCarry a b).Tells (255 < (a.toNat : Int) + b.toNat) (((a.toNat : Int) + b.toNat) % 256) := by
  refine ⟨?_, ?_⟩
  · rw [addCarry, decide_eq_true_iff]
    omega
  · rw [addCarry, UInt8.toNat_add]
    omega

theorem tells_subBorrow :
    (subBorrow a b).Tells ((b.toNat : Int) < a.toNat) (((a.toNat : Int) - b.toNat) % 256) := by
  have hb := b.toNat_lt
  refine ⟨?_, ?_⟩
  · rw [subBorrow, decide_eq_true_iff, UInt8.lt_iff_toNat_lt]
    omega
  · rw [subBorrow, UInt8.toNat_sub]
    omega

theorem tells_shiftRight :
    (shiftRight a).Tells ((a.toNat : Int) % 2 = 1) ((a.toNat : Int) / 2) := by
  refine ⟨?_, ?_⟩
  · rw [shiftRight, decide_eq_true_iff, ← UInt8.toNat_inj, UInt8.toNat_mod]
    show a.toNat % 2 = 1 ↔ _
    omega
  · rw [shiftRight, UInt8.toNat_div]
    rfl

theorem tells_shiftLeft :
    (shiftLeft a).Tells (128 ≤ (a.toNat : Int)) (2 * (a.toNat : Int) % 256) := by
  refine ⟨?_, ?_⟩
  · rw [shiftLeft, decide_eq_true_iff, UInt8.le_iff_toNat_le]
    show 128 ≤ a.toNat ↔ _
    omega
  · rw [shiftLeft, UInt8.toNat_mul]
    show ((a.toNat * 2 % 256 : Nat) : Int) = _
    omega

end Arithmetic

namespace Machine

variable {m : Machine} {x z : Register} {ins : Instruction}

/-! ### What a tick leaves in the registers -/

/-- A tick has put a result into register `x` and then a flag into the flag register.  If the two
are one register, the flag is in it. -/
structure LeavesFlag (m : Machine) (x : Register) (raised : Prop) (value : Int) : Prop where
  executed : ∃ ins, m.tick.result = .ok (.executed ins)
  flag_of_raised : raised → m.tick.machine.registers.get Registers.flag = 1
  flag_of_not_raised : ¬ raised → m.tick.machine.registers.get Registers.flag = 0
  result : x ≠ Registers.flag → ((m.tick.machine.registers.get x).toNat : Int) = value
  get : ∀ z, z ≠ x → z ≠ Registers.flag →
    m.tick.machine.registers.get z = m.registers.get z
  index : m.tick.machine.registers.index = m.registers.index

/-- A tick has put a result into register `x` and nothing anywhere else, be `x` the flag register or
another one. -/
structure LeavesResult (m : Machine) (x : Register) (value : Nat) : Prop where
  executed : ∃ ins, m.tick.result = .ok (.executed ins)
  result : (m.tick.machine.registers.get x).toNat = value
  get : ∀ z, z ≠ x → m.tick.machine.registers.get z = m.registers.get z
  index : m.tick.machine.registers.index = m.registers.index

/-- The flag is put last, so it is what the flag register holds. -/
theorem get_putFlagged (m : Machine) (x z : Register) (f : Flagged) :
    (m.putFlagged x f).registers.get z =
      if Registers.flag = z then f.flag.toUInt8 else if x = z then f.result
      else m.registers.get z := by
  simp only [putFlagged, put, Registers.get_put]

/-- An instruction that puts a flagged byte leaves what that byte says. -/
theorem leavesFlag_of_putFlagged {f : Flagged} {raised : Prop} {value : Int} (h : m.Begins ins)
    (he : m.begun.execute ins = .done (m.begun.putFlagged x f)) (hf : f.Tells raised value) :
    m.LeavesFlag x raised value := by
  have hget : ∀ z, m.tick.machine.registers.get z =
      if Registers.flag = z then f.flag.toUInt8 else if x = z then f.result
      else m.registers.get z := fun z => by
    rw [h.tick_eq he]
    exact m.begun.get_putFlagged x z f
  have hflag : m.tick.machine.registers.get Registers.flag = f.flag.toUInt8 :=
    (hget _).trans (if_pos rfl)
  refine ⟨⟨ins, by rw [h.tick_eq he]⟩, ?_, ?_, ?_, ?_, by rw [h.tick_eq he]; rfl⟩
  · intro hr
    rw [hflag, hf.flag.mpr hr]
    rfl
  · intro hr
    rw [hflag, Bool.eq_false_iff.mpr (mt hf.flag.mp hr)]
    rfl
  · intro hx
    rw [hget, if_neg hx.symm, if_pos rfl]
    exact hf.result
  · intro z hz hzf
    rw [hget, if_neg hzf.symm, if_neg hz.symm]

/-- An instruction that puts a byte leaves it, and nothing else. -/
theorem leavesResult_of_put {b : UInt8} {value : Nat} (h : m.Begins ins)
    (he : m.begun.execute ins = .done (m.begun.put x b)) (hb : b.toNat = value) :
    m.LeavesResult x value := by
  have hget : ∀ z, m.tick.machine.registers.get z = if x = z then b else m.registers.get z :=
    fun z => by
      rw [h.tick_eq he]
      exact m.begun.registers.get_put x z b
  refine ⟨⟨ins, by rw [h.tick_eq he]⟩, ?_, ?_, by rw [h.tick_eq he]; rfl⟩
  · rw [hget, if_pos rfl, hb]
  · intro z hz
    rw [hget, if_neg hz.symm]

/-- **Flags and results under every aliasing.**  A tick at a word of the two tables leaves the
result in the register that the word names first, taken from what the two registers held before; the
flag, where there is one, is in the flag register, whatever else would go there; and no other
register has changed.  The two registers may be one, and each may be the flag register. -/
theorem arithmetic_tick (m : Machine) (hp : m.parked = none) (hpc : m.registers.pc.toNat ≤ 4094) :
    (∀ raised value, m.word.Flagging (m.registers.get m.word.x).toNat
      (m.registers.get m.word.y).toNat raised value → m.LeavesFlag m.word.x raised value) ∧
    ∀ value, m.word.Flagless (m.registers.get m.word.x).toNat
      (m.registers.get m.word.y).toNat value → m.LeavesResult m.word.x value := by
  have begins : ∀ {ins}, m.word.StandsFor ins → m.Begins ins := begins_of_standsFor hp hpc
  constructor
  · intro raised value h
    cases h with
    | add hb hn =>
        have hi : m.Begins (.add m.word.x m.word.y) := begins ⟨hb, rfl, rfl, hn⟩
        exact leavesFlag_of_putFlagged hi rfl (tells_addCarry _ _)
    | sub hb hn =>
        have hi : m.Begins (.sub m.word.x m.word.y) := begins ⟨hb, rfl, rfl, hn⟩
        exact leavesFlag_of_putFlagged hi rfl (tells_subBorrow _ _)
    | shr hb hn =>
        have hi : m.Begins (.shr m.word.x) := begins ⟨hb, rfl, hn⟩
        exact leavesFlag_of_putFlagged hi rfl (tells_shiftRight _)
    | subn hb hn =>
        have hi : m.Begins (.subn m.word.x m.word.y) := begins ⟨hb, rfl, rfl, hn⟩
        exact leavesFlag_of_putFlagged hi rfl (tells_subBorrow _ _)
    | shl hb hn =>
        have hi : m.Begins (.shl m.word.x) := begins ⟨hb, rfl, hn⟩
        exact leavesFlag_of_putFlagged hi rfl (tells_shiftLeft _)
  · intro value h
    cases h with
    | addByte hb =>
        have hi : m.Begins (.addByte m.word.x m.word.kk) := begins ⟨hb, rfl, rfl⟩
        exact leavesResult_of_put hi rfl (UInt8.toNat_add _ _)
    | copy hb hn =>
        have hi : m.Begins (.copy m.word.x m.word.y) := begins ⟨hb, rfl, rfl, hn⟩
        exact leavesResult_of_put hi rfl rfl
    | or hb hn =>
        have hi : m.Begins (.or m.word.x m.word.y) := begins ⟨hb, rfl, rfl, hn⟩
        exact leavesResult_of_put hi rfl (UInt8.toNat_or _ _)
    | and hb hn =>
        have hi : m.Begins (.and m.word.x m.word.y) := begins ⟨hb, rfl, rfl, hn⟩
        exact leavesResult_of_put hi rfl (UInt8.toNat_and _ _)
    | xor hb hn =>
        have hi : m.Begins (.xor m.word.x m.word.y) := begins ⟨hb, rfl, rfl, hn⟩
        exact leavesResult_of_put hi rfl (UInt8.toNat_xor _ _)

/-- The theorem at a program that adds the flag register to itself while it holds 255.  The sum
would leave 254 there; what stays is the carry. -/
theorem arithmetic_tick_doubleFlag :
    ∃ m : Machine, m.Reachable ∧ m.parked = none ∧ m.registers.pc.toNat ≤ 4094 ∧
      m.word.word = 0x8FF4 ∧ m.registers.get 0xF = 255 ∧ m.tick.machine.registers.get 0xF = 1 ∧
      ∀ z, z ≠ 0xF → m.tick.machine.registers.get z = m.registers.get z := by
  have hfit : ([0x6F, 0xFF, 0x8F, 0xF4] : List UInt8).length ≤ 3584 := by decide
  obtain ⟨l, hl⟩ : ∃ l, load [0x6F, 0xFF, 0x8F, 0xF4] (.cycle #[]) = .ok l :=
    ⟨_, load_of_fits hfit _⟩
  obtain ⟨hp, hr, -, hw⟩ := fresh_of_load hfit hl
  -- the first tick puts 255 into the flag register, and the second one adds
  have hd : Instruction.decode (l.memory.wordAt 0x200) = some (.loadByte 0xF 0xFF) :=
    (congrArg Instruction.decode (hw 0 (by decide))).trans (by decide)
  have hs : l.Runs (.startingAt 0x200) l.memory := ⟨hp, hr, rfl⟩
  obtain ⟨-, hs⟩ := hs.tick (·.put 0xF 0xFF) (by decide) hd fun _ => rfl
  generalize hm : l.tick.machine = m at hs
  obtain ⟨hp, hr, hmem⟩ := hs
  have hword : m.word = ⟨0x8FF4⟩ := by
    rw [word, hr, hmem]
    exact hw 2 (by decide)
  have hpc : m.registers.pc.toNat ≤ 4094 := by rw [hr]; decide
  have hv : m.registers.get 0xF = 255 := by rw [hr]; decide
  have hx : m.word.x = 0xF := by rw [hword]; decide
  have hy : m.word.y = 0xF := by rw [hword]; decide
  have hleaves := (arithmetic_tick m hp hpc).1 _ _
    (.add (by rw [hword]; decide) (by rw [hword]; decide))
  rw [hx, hy, hv] at hleaves
  exact ⟨m, hm ▸ (Reachable.load hl).act .tick, hp, hpc, congrArg Opcode.word hword, hv,
    hleaves.flag_of_raised (by decide), fun z hz => hleaves.get z hz hz⟩

end Machine

end ChipEight
