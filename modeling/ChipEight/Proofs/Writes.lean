import ChipEight.Proofs.Effects
import ChipEight.Machine.History
import Mathlib.Algebra.Group.Nat.Defs

/-!
# Proofs — Writes

What is in memory after a history.  Two instructions write there, each of them one block at the
index.  A machine that was loaded and then ran for a while holds at each position the byte that
was last stored there; where none was, it holds what was loaded.

* `Machine.Stores`: a tick stores a byte at a position.  Positions are counted on from the index
  and do not wrap around.
* `Machine.Keeps`, `Machine.LastStores`: some actions store nothing at a position, or a byte that
  none of them stores over.
* `Machine.byteAt_after_iff`: the byte at a position is the one last stored there, or the old one.
* `Machine.byteAt_after_load`: the same from a program that fits, which leaves an image behind.
-/

namespace ChipEight

open Arithmetic

/-! ### Blocks -/

/-- The digit at place `k` has `2 - k` digits behind it. -/
theorem Arithmetic.getElem?_decimalDigits {v b : UInt8} {k : Nat} :
    (decimalDigits v)[k]? = some b ↔ k < 3 ∧ b.toNat = v.toNat / 10 ^ (2 - k) % 10 := by
  have hv := v.toNat_lt
  match k with
  | 0 | 1 | 2 =>
    simp [decimalDigits, ← UInt8.toNat_inj]
    omega
  | k + 3 => simp [decimalDigits, Nat.not_lt.mpr (Nat.le_add_left 3 k)]

/-- The byte at place `k` is the one in register `k`. -/
theorem Registers.getElem?_upTo {r : Registers} {x : Register} {b : UInt8} {k : Nat} :
    (r.upTo x)[k]? = some b ↔ ∃ y : Register, y ≤ x ∧ y.val = k ∧ r.get y = b := by
  simp only [upTo, List.getElem?_take, Vector.getElem?_toList, get]
  constructor
  · intro h
    split at h
    case isTrue hk =>
      have hk16 : k < 16 := by omega
      rw [Vector.getElem?_eq_getElem hk16] at h
      exact ⟨⟨k, hk16⟩, Nat.le_of_lt_succ hk, rfl, Option.some.inj h⟩
    case isFalse => cases h
  · rintro ⟨y, hy, rfl, rfl⟩
    rw [if_pos (Nat.lt_succ_of_le hy), Vector.getElem?_eq_getElem y.isLt]

/-! ### The image of a program -/

namespace Memory

theorem byteAt_initial (a : Nat) :
    initial.byteAt a = if 0x50 ≤ a ∧ a < 0xA0 then Font.glyphs[a - 0x50]?.getD 0 else 0 := by
  have hs : Font.start = 0x50 := rfl
  simp only [byteAt, initial, hs, Vector.getElem?_ofFn]
  by_cases h : 0x50 ≤ a ∧ a < 0xA0
  · rw [dif_pos (Nat.lt_trans h.2 (by decide)), if_pos h, Option.getD_some, if_pos h.1]
  · rw [if_neg h]
    by_cases hs : a < 4096
    · rw [dif_pos hs, Option.getD_some]
      by_cases hf : 0x50 ≤ a
      · rw [if_pos hf, Vector.getElem?_eq_none (by omega), Option.getD_none]
      · rw [if_neg hf]
    · rw [dif_neg hs, Option.getD_none]

/-- What a program leaves at each position when it is loaded: itself, the font, and zeros. -/
def image (program : List UInt8) (a : Nat) : UInt8 :=
  if 0x200 ≤ a ∧ a < 0x200 + program.length then program[a - 0x200]?.getD 0
  else if 0x50 ≤ a ∧ a < 0xA0 then Font.glyphs[a - 0x50]?.getD 0
  else 0

theorem byteAt_of_load {program : List UInt8} {m : Memory} (h : initial.load program = .ok m)
    (a : Nat) : m.byteAt a = image program a := by
  unfold load at h
  split at h
  case isTrue hfit =>
    obtain rfl := Except.ok.inj h
    have hs : programStart.toNat = 0x200 := rfl
    have hl : programLimit = 0xE00 := rfl
    have hin : 0x200 ≤ a ∧ a < 0x200 + program.length ∧ a < size ↔
        0x200 ≤ a ∧ a < 0x200 + program.length := by
      simp only [size]
      omega
    rw [hs, byteAt_overlay, byteAt_initial, image]
    simp only [hin]
  case isFalse => cases h

/-- A program is part of its image. -/
theorem image_add {program : List UInt8} {j : Nat} (h : j < program.length) :
    image program (0x200 + j) = program[j] := by
  rw [image, if_pos ⟨by omega, by omega⟩, Nat.add_sub_cancel_left, List.getElem?_eq_getElem h,
    Option.getD_some]

end Memory

namespace Machine

/-! ### What an instruction writes -/

/-- The bytes that an instruction writes at the index. -/
def written (m : Machine) : Instruction → List UInt8
  | .decimal x => decimalDigits (m.registers.get x)
  | .store x => m.registers.upTo x
  | _ => []

theorem writeBlock_eq_done_iff {m m' : Machine} {bytes : List UInt8} :
    m.writeBlock bytes = .done m' ↔
      Memory.Fits m.registers.index bytes.length ∧
        m' = { m with memory := m.memory.overlay m.registers.index.toNat bytes } := by
  by_cases h : Memory.Fits m.registers.index bytes.length <;>
    simp [writeBlock, Memory.write, h, eq_comm]

/-- **An instruction writes its block**, which lies in memory, and nothing else. -/
theorem memory_of_execute {m m' : Machine} {ins : Instruction} (h : m.execute ins = .done m') :
    Memory.Fits m.registers.index (m.written ins).length ∧
      m'.memory = m.memory.overlay m.registers.index.toNat (m.written ins) := by
  cases ins
  case decimal | store =>
    obtain ⟨hf, rfl⟩ := writeBlock_eq_done_iff.mp h
    exact ⟨hf, rfl⟩
  -- the others write nothing
  all_goals refine ⟨.inl rfl, ?_⟩
  case ret | call | draw | load =>
    simp only [execute, ret, call, drawSprite, readBlock] at h
    split at h
    · obtain rfl := Outcome.done_inj.mp h
      rfl
    · exact absurd h Outcome.failed_ne_done
  case awaitKey x =>
    obtain rfl := Outcome.done_inj.mp h
    unfold awaitKey
    split <;> rfl
  all_goals
    obtain rfl := Outcome.done_inj.mp h
    rfl

/-- A tick writes the block of the instruction that it executes, and nothing if it executes
none. -/
theorem memory_tick (m : Machine) :
    (∃ ins, m.tick.result = .ok (.executed ins) ∧
      Memory.Fits m.registers.index (m.written ins).length ∧
      m.tick.machine.memory = m.memory.overlay m.registers.index.toNat (m.written ins)) ∨
    ((∀ ins, m.tick.result ≠ .ok (.executed ins)) ∧ m.tick.machine.memory = m.memory) := by
  generalize ht : m.tick = o
  cases tick_eq_iff.mp ht with
  | waited | resumed | stuck => exact .inr ⟨nofun, rfl⟩
  | failed _ _ he => cases execute_eq_failed_iff.mp he <;> exact .inr ⟨nofun, rfl⟩
  | @executed ins m' _ _ he =>
      -- the program counter has gone on, which the block does not depend on
      have hw : m.begun.written ins = m.written ins := by cases ins <;> rfl
      obtain ⟨hf, hm⟩ := memory_of_execute he
      rw [hw] at hf hm
      exact .inl ⟨ins, rfl, hf, hm⟩

/-- A block of registers is written where there is room for it. -/
theorem result_tick_store {m : Machine} {x : Register} (hp : m.parked = none)
    (hpc : m.registers.pc.toNat ≤ 4094) (hw : Instruction.decode m.word = some (.store x))
    (hf : Memory.Fits m.registers.index (x.val + 1)) :
    m.tick.result = .ok (.executed (.store x)) := by
  have he : m.begun.execute (.store x) = .done _ :=
    writeBlock_eq_done_iff.mpr ⟨(Registers.length_upTo _ x).symm ▸ hf, rfl⟩
  rw [tick_eq_executed hp hpc hw he]

/-! ### What a tick stores -/

/-- A tick of a machine succeeds and stores a byte at a position. -/
inductive Stores (m : Machine) (a : Nat) : UInt8 → Prop where
  /-- Of the three decimal digits of a register, the one with `2 - k` digits behind it. -/
  | digit {x : Register} {b : UInt8} (k : Fin 3)
      (ht : m.tick.result = .ok (.executed (.decimal x)))
      (ha : a = m.registers.index.toNat + k.val)
      (hb : b.toNat = (m.registers.get x).toNat / 10 ^ (2 - k.val) % 10) : Stores m a b
  /-- Of the registers up to `x`, the register `y`. -/
  | register {x : Register} (y : Register) (hy : y ≤ x)
      (ht : m.tick.result = .ok (.executed (.store x)))
      (ha : a = m.registers.index.toNat + y.val) : Stores m a (m.registers.get y)

/-- No tick among some actions stores a byte at a position. -/
def Keeps (m : Machine) (as : List Action) (a : Nat) : Prop :=
  m.AtTicks as fun n => ∀ b, ¬ n.Stores a b

/-- A tick among some actions stores a byte at a position, and no later one stores one there. -/
def LastStores (m : Machine) (as : List Action) (a : Nat) (b : UInt8) : Prop :=
  ∃ bs cs, as = bs ++ .tick :: cs ∧ (m.after bs).Stores a b ∧
    (m.after bs).tick.machine.Keeps cs a

variable {m : Machine} {a : Nat} {b : UInt8}

theorem stores_iff :
    m.Stores a b ↔ ∃ ins k, m.tick.result = .ok (.executed ins) ∧ (m.written ins)[k]? = some b ∧
      a = m.registers.index.toNat + k := by
  constructor
  · intro h
    cases h with
    | @digit x _ k ht ha hb =>
        exact ⟨.decimal x, k.val, ht, getElem?_decimalDigits.mpr ⟨k.isLt, hb⟩, ha⟩
    | @register x y hy ht ha =>
        exact ⟨.store x, y.val, ht, Registers.getElem?_upTo.mpr ⟨y, hy, rfl, rfl⟩, ha⟩
  · rintro ⟨ins, k, ht, hb, ha⟩
    cases ins
    case decimal x =>
      obtain ⟨hk, hb⟩ := getElem?_decimalDigits.mp hb
      exact .digit ⟨k, hk⟩ ht ha hb
    case store x =>
      obtain ⟨y, hy, rfl, rfl⟩ := Registers.getElem?_upTo.mp hb
      exact .register y hy ht ha
    all_goals cases hb

/-- A tick stores nothing when the instruction that it executes writes nothing. -/
theorem not_stores_of_written {ins : Instruction} (ht : m.tick.result = .ok (.executed ins))
    (hw : m.written ins = []) : ¬ m.Stores a b := by
  intro h
  obtain ⟨ins', k, ht', hb, -⟩ := stores_iff.mp h
  obtain rfl : ins = ins' := by simpa [ht] using ht'
  rw [hw] at hb
  cases hb

/-- What is stored is stored in memory, and is there after the tick. -/
theorem Stores.byteAt_tick (h : m.Stores a b) :
    a < 4096 ∧ m.tick.machine.memory.byteAt a = b := by
  obtain ⟨ins, k, ht, hb, rfl⟩ := stores_iff.mp h
  obtain ⟨hk, -⟩ := List.getElem?_eq_some_iff.mp hb
  obtain ⟨ins', ht', hf, hm⟩ | ⟨hn, -⟩ := m.memory_tick
  · obtain rfl : ins = ins' := by simpa [ht] using ht'
    have hlt : m.registers.index.toNat + k < Memory.size := by
      rcases hf with hf | hf <;> omega
    rw [hm, Memory.byteAt_overlay, if_pos ⟨by omega, by omega, hlt⟩, Nat.add_sub_cancel_left, hb]
    exact ⟨hlt, rfl⟩
  · exact absurd ht (hn ins)

theorem byteAt_tick_of_not_stores (h : ∀ b, ¬ m.Stores a b) :
    m.tick.machine.memory.byteAt a = m.memory.byteAt a := by
  obtain ⟨ins, ht, -, hm⟩ | ⟨-, hm⟩ := m.memory_tick
  · rw [hm, Memory.byteAt_overlay, if_neg]
    rintro ⟨hi, hj, -⟩
    have hk : a - m.registers.index.toNat < (m.written ins).length := by omega
    exact h _ (stores_iff.mpr ⟨ins, _, ht, List.getElem?_eq_getElem hk, by omega⟩)
  · rw [hm]

/-- **Only a store changes a byte**: not another instruction, nor a fault, nor a key. -/
theorem stores_of_byteAt_act_ne {c : Action}
    (h : (m.act c).memory.byteAt a ≠ m.memory.byteAt a) : c = .tick ∧ ∃ b, m.Stores a b := by
  cases c with
  | tick =>
      refine ⟨rfl, Classical.byContradiction fun hn => ?_⟩
      exact h (byteAt_tick_of_not_stores (not_exists.mp hn))
  | press key | release key => exact absurd rfl h

/-! ### What a history stores -/

theorem Keeps.byteAt_after {as : List Action} (h : m.Keeps as a) :
    (m.after as).memory.byteAt a = m.memory.byteAt a := by
  induction as generalizing m with
  | nil => rfl
  | cons c as ih =>
      obtain ⟨hc, has⟩ := atTicks_cons.mp h
      have hact : (m.act c).memory.byteAt a = m.memory.byteAt a :=
        Classical.byContradiction fun hne => by
          obtain ⟨hct, b, hb⟩ := stores_of_byteAt_act_ne hne
          exact hc hct b hb
      rw [after_cons, ih has, hact]

theorem LastStores.byteAt_after {as : List Action} (h : m.LastStores as a b) :
    (m.after as).memory.byteAt a = b := by
  obtain ⟨bs, cs, rfl, hb, hcs⟩ := h
  rw [after_append, after_cons]
  exact hcs.byteAt_after.trans hb.byteAt_tick.2

theorem keeps_or_lastStores (m : Machine) (as : List Action) (a : Nat) :
    m.Keeps as a ∨ ∃ b, m.LastStores as a b := by
  rcases m.atTicks_not_or_last as (fun n => ∃ b, n.Stores a b) with
    hk | ⟨bs, cs, has, ⟨b, hb⟩, hcs⟩
  · exact .inl fun bs hbs => not_exists.mp (hk bs hbs)
  · exact .inr ⟨b, bs, cs, has, hb, fun ds hds => not_exists.mp (hcs ds hds)⟩

/-- **The last store counts.**  A byte is the one that was last stored at its position, or the one
that was there before if none was. -/
theorem byteAt_after_iff {as : List Action} :
    (m.after as).memory.byteAt a = b ↔
      m.LastStores as a b ∨ m.Keeps as a ∧ m.memory.byteAt a = b := by
  constructor
  · rintro rfl
    rcases m.keeps_or_lastStores as a with hk | ⟨b, hl⟩
    · exact .inr ⟨hk, hk.byteAt_after.symm⟩
    · exact .inl (hl.byteAt_after ▸ hl)
  · rintro (hl | ⟨hk, rfl⟩)
    · exact hl.byteAt_after
    · exact hk.byteAt_after

theorem byteAt_of_load {program : List UInt8} {random : ByteStream}
    (h : load program random = .ok m) (a : Nat) : m.memory.byteAt a = Memory.image program a := by
  have hfit := length_le_of_load h
  obtain rfl := Except.ok.inj (h.symm.trans (load_of_fits hfit _))
  exact Memory.byteAt_of_load (if_pos hfit) a

/-- **Memory is the image of the program, overlaid by the stores of the history.**  No store goes
past the top of memory, and nothing but a store changes a byte. -/
theorem byteAt_after_load (program : List UInt8) (random : ByteStream)
    (hfit : program.length ≤ 3584) :
    ∃ m, load program random = .ok m ∧
      (∀ as a b, (m.after as).memory.byteAt a = b ↔
        m.LastStores as a b ∨ m.Keeps as a ∧ Memory.image program a = b) ∧
      ∀ n : Machine, (∀ a b, n.Stores a b → a < 4096) ∧
        ∀ c a, (n.act c).memory.byteAt a ≠ n.memory.byteAt a → c = .tick ∧ ∃ b, n.Stores a b := by
  have hl := load_of_fits hfit random
  refine ⟨_, hl, fun as a b => ?_, fun n => ?_⟩
  · rw [byteAt_after_iff, byteAt_of_load hl]
  · exact ⟨fun a b h => h.byteAt_tick.1, fun c a h => stores_of_byteAt_act_ne h⟩

/-- The theorem at a program that stores over its own first byte, and not over its third. -/
theorem byteAt_after_load_selfModifying :
    ∃ m, load [0xA2, 0x00, 0xF0, 0x55] (.cycle #[]) = .ok m ∧
      (m.after [.tick, .tick]).memory.byteAt 0x200 = 0 ∧
      (m.after [.tick, .tick]).memory.byteAt 0x202 = 0xF0 := by
  have hfit : ([0xA2, 0x00, 0xF0, 0x55] : List UInt8).length ≤ 3584 := by decide
  obtain ⟨m, hl, hb, -⟩ := byteAt_after_load _ (.cycle #[]) hfit
  obtain ⟨hp, hr, hw, hw'⟩ : m.parked = none ∧ m.registers = .startingAt 0x200 ∧
      m.memory.wordAt 0x200 = ⟨0xA200⟩ ∧ m.memory.wordAt 0x202 = ⟨0xF055⟩ := by
    obtain rfl := Except.ok.inj (hl.symm.trans (load_of_fits hfit _))
    exact ⟨rfl, rfl, Memory.wordAt_overlay _ (k := 0) (by decide) (by decide),
      Memory.wordAt_overlay _ (k := 2) (by decide) (by decide)⟩
  -- the first tick points the index at the first byte
  have hd : Instruction.decode m.word = some (.loadIndex 0x200) := by
    rw [word, hr, show (Registers.startingAt 0x200).pc.toNat = 0x200 from rfl, hw]
    decide
  obtain ⟨ht, hp, hr, hm⟩ : m.tick.result = .ok (.executed (.loadIndex 0x200)) ∧
      m.tick.machine.parked = none ∧
      m.tick.machine.registers = { Registers.startingAt 0x202 with index := 0x200 } ∧
      m.tick.machine.memory = m.memory := by
    rw [tick_eq_executed hp (by rw [hr]; decide) hd rfl]
    exact ⟨rfl, hp, by simp only [pointTo, begun, hr]; rfl, rfl⟩
  -- and the second one stores there
  have hd' : Instruction.decode m.tick.machine.word = some (.store 0) := by
    rw [word, hr, hm, show (Registers.startingAt 0x202).pc.toNat = 0x202 from rfl, hw']
    decide
  have ht' : m.tick.machine.tick.result = .ok (.executed (.store 0)) :=
    result_tick_store hp (by rw [hr]; decide) hd' (by rw [hr]; decide)
  have hv : m.tick.machine.registers.get 0 = 0 := by rw [hr]; rfl
  refine ⟨m, hl, (hb _ _ _).mpr (.inl ⟨[.tick], [], rfl, ?_, atTicks_nil⟩),
    (hb _ _ _).mpr (.inr ⟨?_, by decide⟩)⟩
  · exact hv ▸ .register 0 (Fin.le_refl 0) ht' (by rw [after_cons, act, after_nil, hr]; rfl)
  · refine atTicks_cons.mpr ⟨fun _ b hs => ?_, atTicks_cons.mpr ⟨fun _ b hs => ?_, atTicks_nil⟩⟩
    · cases hs with
      | digit _ h => simp [ht] at h
      | register _ _ h => simp [ht] at h
    · rw [act] at hs
      cases hs with
      | digit _ h => simp [ht'] at h
      | register y hy h ha =>
          obtain rfl : (0 : Register) = _ := by simpa [ht'] using h
          obtain rfl : y = 0 := Fin.ext (Nat.le_zero.mp hy)
          rw [hr] at ha
          cases ha

end Machine

end ChipEight
