import ChipEight.Machine.History
import ChipEight.Proofs.Opcodes

/-!
# Proofs — Ticks

What one tick can be.  A tick polls the keypad, finds no instruction, runs one that fails, or runs
one that succeeds: `Machine.Ticks` has a constructor for each of them, with what is true of the
machine in that case and what the tick leaves.

* `Machine.next_eq_ok_iff`, `Machine.next_eq_error_iff`: what is found at the program counter.
* `Machine.tick_eq_iff`: a tick is what `Ticks` says, and nothing else is.
* `Machine.Begins`: the instruction that the next tick is about to execute.
-/

namespace ChipEight

/-- The word at a position, with zeros where there is no memory. -/
def Memory.wordAt (m : Memory) (i : Nat) : Opcode := .ofBytes (m.byteAt i) (m.byteAt (i + 1))

/-- A word of some bytes, where they have been put. -/
theorem Memory.wordAt_overlay (m : Memory) {i k : Nat} {data : List UInt8}
    (hk : k + 1 < data.length) (hi : i + data.length ≤ size) :
    (m.overlay i data).wordAt (i + k) = .ofBytes data[k] data[k + 1] := by
  have hat : ∀ j (hj : j < data.length), (m.overlay i data).byteAt (i + j) = data[j] :=
    fun j hj => by
      rw [byteAt_overlay, if_pos (by omega), Nat.add_sub_cancel_left,
        List.getElem?_eq_getElem hj, Option.getD_some]
  rw [wordAt, hat k (by omega), Nat.add_assoc, hat (k + 1) hk]

/-- What is put behind a word leaves it as it is. -/
theorem Memory.wordAt_overlay_of_lt (m : Memory) {i k : Nat} {data : List UInt8} (h : k + 1 < i) :
    (m.overlay i data).wordAt k = m.wordAt k := by
  rw [wordAt, byteAt_overlay, if_neg (by omega), byteAt_overlay, if_neg (by omega), wordAt]

/-- Both bytes of the word at `a` are in memory. -/
theorem Memory.fits_two {a : UInt16} : Memory.Fits a 2 ↔ a.toNat ≤ 4094 := by
  simp only [Fits, size]
  omega

namespace Outcome

@[simp] theorem done_inj {m m' : Machine} : done m = done m' ↔ m = m' := by simp [done]

@[simp] theorem failed_inj {α : Type} {m m' : Machine} {e e' : Fault} :
    (failed m e : Outcome α) = failed m' e' ↔ m = m' ∧ e = e' := by simp [failed]

@[simp] theorem done_ne_failed {m m' : Machine} {e : Fault} : done m ≠ failed m' e := by
  simp [done, failed]

@[simp] theorem failed_ne_done {m m' : Machine} {e : Fault} : failed m e ≠ done m' := by
  simp [done, failed]

end Outcome

namespace Machine

/-- The word at the program counter. -/
def word (m : Machine) : Opcode := m.memory.wordAt m.registers.pc.toNat

/-- The machine past the word at its program counter, which it is about to execute. -/
def begun (m : Machine) : Machine := { m with drawn := false, registers := m.registers.advance }

/-! ### What is at the program counter -/

theorem next_eq_ok_iff {m : Machine} {op : Opcode} {ins : Instruction} :
    m.next = .ok (op, ins) ↔
      m.registers.pc.toNat ≤ 4094 ∧ op = m.word ∧ Instruction.decode m.word = some ins := by
  by_cases h : Memory.Fits m.registers.pc 2
  · have hf : m.fetch = .ok m.word := if_pos h
    have hpc := Memory.fits_two.mp h
    simp only [next, hf]
    cases hd : Instruction.decode m.word with
    | none => simp
    | some i => simp [hpc, eq_comm]
  · have hf : m.fetch = .error (Memory.outside m.registers.pc) := if_neg h
    have hpc : ¬ m.registers.pc.toNat ≤ 4094 := fun hp => h (Memory.fits_two.mpr hp)
    simp only [next, hf, reduceCtorEq, false_iff]
    exact fun h' => hpc h'.1

theorem next_eq_error_iff {m : Machine} {e : Fault} :
    m.next = .error e ↔
      (4094 < m.registers.pc.toNat ∧ e = Memory.outside m.registers.pc) ∨
      (m.registers.pc.toNat ≤ 4094 ∧ m.word.Undefined ∧
        e = .unknownOpcode m.word m.registers.pc) := by
  by_cases h : Memory.Fits m.registers.pc 2
  · have hf : m.fetch = .ok m.word := if_pos h
    have hpc := Memory.fits_two.mp h
    simp only [next, hf, ← Instruction.decode_eq_none_iff]
    cases hd : Instruction.decode m.word with
    | none => simp [hpc, Nat.not_lt.mpr hpc, eq_comm]
    | some i => simp [Nat.not_lt.mpr hpc]
  · have hf : m.fetch = .error (Memory.outside m.registers.pc) := if_neg h
    have hpc : ¬ m.registers.pc.toNat ≤ 4094 := fun hp => h (Memory.fits_two.mpr hp)
    simp [next, hf, hpc, Nat.lt_of_not_le hpc, eq_comm]

/-! ### The cases of a tick -/

/-- What a tick of a machine is. -/
inductive Ticks (m : Machine) : Outcome Step → Prop where
  /-- A key is waited for, and none is held. -/
  | waited {x : Register} (hp : m.parked = some x) (hk : m.keypad.firstPressed = none) :
      Ticks m ⟨{ m with drawn := false, registers := m.registers.countDown }, .ok .awaitingKey⟩
  /-- A key is waited for, and goes into its register. -/
  | resumed {x : Register} {key : Key} (hp : m.parked = some x)
      (hk : m.keypad.firstPressed = some key) :
      Ticks m
        ⟨{ m with
            drawn := false
            parked := none
            registers := (m.registers.put x (UInt8.ofNat key.val)).countDown },
          .ok (.resumed x key)⟩
  /-- There is no instruction at the program counter. -/
  | stuck {e : Fault} (hp : m.parked = none) (hn : m.next = .error e) :
      Ticks m (.failed { m with drawn := false } e)
  /-- The instruction at the program counter fails. -/
  | failed {ins : Instruction} {m' : Machine} {e : Fault} (hp : m.parked = none)
      (hn : m.next = .ok (m.word, ins)) (he : m.begun.execute ins = .failed m' e) :
      Ticks m (.failed m' e)
  /-- The instruction at the program counter succeeds. -/
  | executed {ins : Instruction} {m' : Machine} (hp : m.parked = none)
      (hn : m.next = .ok (m.word, ins)) (he : m.begun.execute ins = .done m') :
      Ticks m ⟨{ m' with registers := m'.registers.countDown }, .ok (.executed ins)⟩

theorem ticks_tick (m : Machine) : m.Ticks m.tick := by
  obtain ⟨r, memory, frame, keypad, random, parked, drawn⟩ := m
  cases parked with
  | some x =>
      cases hk : keypad.firstPressed with
      | none =>
          rw [show tick _ = _ by simp only [tick, pollKey, hk]; rfl]
          exact .waited rfl hk
      | some key =>
          rw [show tick _ = _ by simp only [tick, pollKey, hk]; rfl]
          exact .resumed rfl hk
  | none =>
      cases hn : next ⟨r, memory, frame, keypad, random, none, drawn⟩ with
      | error e =>
          -- the draw flag plays no part in what is at the program counter
          have hd : next ⟨r, memory, frame, keypad, random, none, false⟩ = .error e := hn
          rw [show tick _ = _ by simp only [tick, runNext, hd]; rfl]
          exact .stuck rfl hn
      | ok found =>
          obtain ⟨op, ins⟩ := found
          obtain ⟨-, rfl, -⟩ := next_eq_ok_iff.mp hn
          have hd : next ⟨r, memory, frame, keypad, random, none, false⟩ = _ := hn
          cases he : begun ⟨r, memory, frame, keypad, random, none, drawn⟩ |>.execute ins with
          | mk m' result =>
              have he' : execute ⟨r.advance, memory, frame, keypad, random, none, false⟩ ins =
                ⟨m', result⟩ := he
              cases result with
              | error e =>
                  rw [show tick _ = _ by simp only [tick, runNext, hd, he']; rfl]
                  exact .failed rfl hn he
              | ok u =>
                  rw [show tick _ = _ by simp only [tick, runNext, hd, he']; rfl]
                  exact .executed rfl hn he

/-- The cases exclude each other. -/
theorem Ticks.unique {m : Machine} {o o' : Outcome Step} (h : m.Ticks o) (h' : m.Ticks o') :
    o = o' := by
  cases h <;> cases h' <;> simp_all

/-- A tick is what one of the cases says it is. -/
theorem tick_eq_iff {m : Machine} {o : Outcome Step} : m.tick = o ↔ m.Ticks o :=
  ⟨fun h => h ▸ m.ticks_tick, fun h => m.ticks_tick.unique h⟩

/-- A tick that executed an instruction found it at the program counter. -/
theorem executed_of_result {m : Machine} {ins : Instruction}
    (h : m.tick.result = .ok (.executed ins)) :
    m.parked = none ∧ m.next = .ok (m.word, ins) ∧ ∃ m', m.begun.execute ins = .done m' ∧
      m.tick.machine = { m' with registers := m'.registers.countDown } := by
  generalize ht : m.tick = o at h
  cases tick_eq_iff.mp ht with
  | waited | resumed | stuck | failed => cases h
  | executed hp hn he =>
      obtain rfl := Step.executed.inj (Except.ok.inj h)
      exact ⟨hp, hn, _, he, rfl⟩

/-- A tick executes the instruction that the word at the program counter stands for. -/
theorem tick_eq_executed {m m' : Machine} {ins : Instruction} (hp : m.parked = none)
    (hpc : m.registers.pc.toNat ≤ 4094) (hw : Instruction.decode m.word = some ins)
    (he : m.begun.execute ins = .done m') :
    m.tick = ⟨{ m' with registers := m'.registers.countDown }, .ok (.executed ins)⟩ :=
  tick_eq_iff.mpr (.executed hp (next_eq_ok_iff.mpr ⟨hpc, rfl, hw⟩) he)

/-- The next tick begins an instruction: no key is waited for, and the word at the program counter
stands for it. -/
def Begins (m : Machine) (ins : Instruction) : Prop :=
  m.parked = none ∧ m.next = .ok (m.word, ins)

theorem begins_of_standsFor {m : Machine} {ins : Instruction} (hp : m.parked = none)
    (hpc : m.registers.pc.toNat ≤ 4094) (hw : m.word.StandsFor ins) : m.Begins ins :=
  ⟨hp, next_eq_ok_iff.mpr ⟨hpc, rfl, Instruction.decode_of_standsFor hw⟩⟩

/-- An instruction that was begun is executed, unless it fails. -/
theorem Begins.tick_eq {m m' : Machine} {ins : Instruction} (h : m.Begins ins)
    (he : m.begun.execute ins = .done m') :
    m.tick = ⟨{ m' with registers := m'.registers.countDown }, .ok (.executed ins)⟩ :=
  tick_eq_iff.mpr (.executed h.1 h.2 he)

/-- A machine waits for no key and has some registers and some memory. -/
structure Runs (m : Machine) (r : Registers) (memory : Memory) : Prop where
  parked : m.parked = none
  registers : m.registers = r
  memory : m.memory = memory

/-- An instruction that is in memory at the program counter is begun. -/
theorem Runs.begins {m : Machine} {r : Registers} {memory : Memory} {ins : Instruction}
    (h : m.Runs r memory) (hpc : r.pc.toNat ≤ 4094)
    (hw : Instruction.decode (memory.wordAt r.pc.toNat) = some ins) : m.Begins ins := by
  obtain ⟨hp, rfl, rfl⟩ := h
  exact ⟨hp, next_eq_ok_iff.mpr ⟨hpc, rfl, hw⟩⟩

/-- An instruction that works on the registers alone is executed and leaves its work there. -/
theorem Runs.tick {m : Machine} {r : Registers} {memory : Memory} {ins : Instruction}
    (h : m.Runs r memory) (f : Registers → Registers) (hpc : r.pc.toNat ≤ 4094)
    (hw : Instruction.decode (memory.wordAt r.pc.toNat) = some ins)
    (he : ∀ n : Machine, n.execute ins = .done { n with registers := f n.registers }) :
    m.tick.result = .ok (.executed ins) ∧
      m.tick.machine.Runs (f r.advance).countDown memory := by
  have ht := (h.begins hpc hw).tick_eq (he m.begun)
  obtain ⟨hp, rfl, rfl⟩ := h
  rw [ht]
  exact ⟨rfl, hp, rfl, rfl⟩

/-- A machine that was just loaded waits for nothing, and finds the words of its program where it
starts. -/
theorem fresh_of_load {program : List UInt8} {random : ByteStream} {m : Machine}
    (hfit : program.length ≤ 3584) (h : load program random = .ok m) :
    m.parked = none ∧ m.registers = .startingAt 0x200 ∧ m.keypad = .released ∧
      ∀ k (hk : k + 1 < program.length),
        m.memory.wordAt (0x200 + k) = .ofBytes program[k] program[k + 1] := by
  obtain rfl := Except.ok.inj (h.symm.trans (load_of_fits hfit _))
  refine ⟨rfl, rfl, rfl, fun k hk => Memory.wordAt_overlay _ hk ?_⟩
  show 0x200 + program.length ≤ 4096
  omega

end Machine

end ChipEight
