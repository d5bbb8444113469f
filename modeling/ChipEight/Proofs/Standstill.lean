import ChipEight.Proofs.Faults
import ChipEight.Proofs.KeyWait

/-!
# Proofs — Standstill

A machine that finds no instruction never moves again.  Its program counter stays where there is no
word, or a word that stands for nothing, and no tick gets far enough to change either.  A tick that
fails while it executes an instruction is another matter: it has gone past the instruction.

* `Machine.Stops`: a tick fails for want of an instruction.
* `Machine.stops_iff_pc_eq`: of the failing ticks these are the ones that leave the program counter
  where it was.
* `Machine.StandsStill`: nothing but the keypad changes under some actions, and each tick fails
  alike.
* `Machine.standsStill_of_stops`: so it is for ever after a tick that fails for want of an
  instruction.
-/

namespace ChipEight.Machine

/-- A tick fails for want of an instruction: the word at the program counter stands for none, or the
program counter points past the last word of memory. -/
inductive Stops (m : Machine) : Fault → Prop where
  | decode {op : Opcode} {a : UInt16} (h : m.tick.result = .error (.unknownOpcode op a)) :
      Stops m (.unknownOpcode op a)
  | fetch {a : Nat} (hpc : 4094 < m.registers.pc.toNat)
      (h : m.tick.result = .error (.outOfMemory a)) : Stops m (.outOfMemory a)

/-- Some actions change the keypad of a machine and nothing else, and every tick among them fails
with one fault. -/
structure StandsStill (m : Machine) (e : Fault) (as : List Action) : Prop where
  ticks : m.AtTicks as fun n => n.tick = .failed n e
  after : m.after as = { m with keypad := m.keypad.after as }
  freshFrame : (m.after as).freshFrame = none

variable {m m' : Machine} {e : Fault}

/-! ### One tick -/

/-- A tick that finds no instruction clears the draw flag, and that is all. -/
theorem tick_of_next_eq_error (hp : m.parked = none) (hn : m.next = .error e) :
    m.tick = .failed { m with drawn := false } e :=
  tick_eq_failed_iff.mpr ⟨hp, .inl ⟨hn, rfl⟩⟩

/-- **A tick fails for want of an instruction** exactly if the machine waits for no key and there is
none at its program counter. -/
theorem stops_iff : m.Stops e ↔ m.parked = none ∧ m.next = .error e := by
  constructor
  · intro h
    have hr : m.tick.result = .error e := by cases h <;> assumption
    have ht : m.tick = .failed m.tick.machine e := by rw [Outcome.failed, ← hr]
    obtain ⟨hp, ⟨hn, -⟩ | ⟨ins, hn, href⟩⟩ := tick_eq_failed_iff.mp ht
    · exact ⟨hp, hn⟩
    · -- an instruction that was found is decoded and lies in memory
      cases h with
      | decode => cases href
      | fetch hpc => exact absurd (next_eq_ok_iff.mp hn).1 (Nat.not_le.mpr hpc)
  · rintro ⟨hp, hn⟩
    have hr := congrArg Outcome.result (tick_of_next_eq_error hp hn)
    rcases next_eq_error_iff.mp hn with ⟨hpc, rfl⟩ | ⟨-, -, rfl⟩
    · exact .fetch hpc hr
    · exact .decode hr

/-- A tick that fails for want of an instruction stays where it is, and any other that fails goes
past one. -/
theorem stops_iff_pc_eq (ht : m.tick = .failed m' e) :
    m.Stops e ↔ m'.registers.pc = m.registers.pc := by
  rw [stops_iff]
  obtain ⟨hp, ⟨hn, rfl⟩ | ⟨ins, hn, href⟩⟩ := tick_eq_failed_iff.mp ht
  · exact ⟨fun _ => rfl, fun _ => ⟨hp, hn⟩⟩
  · have hpc : m'.registers.pc = m.begun.registers.pc := by cases href <;> rfl
    have hbegun := toNat_pc_begun (next_eq_ok_iff.mp hn).1
    refine iff_of_false (fun h => ?_) (fun h => ?_)
    · rw [hn] at h
      cases h.2
    · rw [← hpc, h] at hbegun
      omega

/-! ### Runs -/

/-- Once the draw flag is clear, an action changes at most the keypad. -/
theorem act_of_next_eq_error (hp : m.parked = none) (hn : m.next = .error e)
    (hd : m.drawn = false) (a : Action) : m.act a = { m with keypad := m.keypad.act a } := by
  cases a with
  | tick =>
      have ht : m.tick.machine = { m with drawn := false } :=
        congrArg Outcome.machine (tick_of_next_eq_error hp hn)
      rw [← hd] at ht
      exact ht
  | press key | release key => rfl

/-- Nothing but the keypad changes on a machine that finds no instruction. -/
theorem standsStill_of_next_eq_error (hp : m.parked = none) (hn : m.next = .error e)
    (hd : m.drawn = false) (as : List Action) : m.StandsStill e as := by
  induction as generalizing m with
  | nil => exact ⟨atTicks_nil, rfl, if_neg (by simp [hd])⟩
  | cons a as ih =>
      have ha := act_of_next_eq_error hp hn hd a
      -- what is at the program counter does not depend on the keypad
      have has : (m.act a).StandsStill e as := by
        rw [ha]
        exact ih hp hn hd
      refine ⟨atTicks_cons.mpr ⟨fun _ => ?_, has.ticks⟩, ?_, has.freshFrame⟩
      · rw [tick_of_next_eq_error hp hn, ← hd]
      · rw [after_cons, has.after, ha]
        rfl

/-- **A machine that finds no instruction never moves again.**  A tick that fails for want of an
instruction clears the draw flag and leaves all else.  Whatever ticks and keys follow it, each of
these ticks fails with the same fault, and nothing but the keypad ever changes: the timers stand
still, no random byte is drawn, and no frame is on offer. -/
theorem standsStill_of_stops (m : Machine) (e : Fault) (h : m.Stops e) :
    m.tick = .failed { m with drawn := false } e ∧
      ∀ as, m.tick.machine.StandsStill e as := by
  obtain ⟨hp, hn⟩ := stops_iff.mp h
  have ht := tick_of_next_eq_error hp hn
  refine ⟨ht, fun as => ?_⟩
  rw [ht]
  exact standsStill_of_next_eq_error (m := { m with drawn := false }) hp hn rfl as

/-- The theorem at a program that jumps to the last byte of memory, where no word begins: it fails
there before a key goes down and after. -/
theorem standsStill_of_stops_lastByte :
    ∃ m : Machine, m.Reachable ∧ m.registers.pc = 0x0FFF ∧ m.Stops (.outOfMemory 0x1000) ∧
      m.tick.machine.after [.tick, .press 5, .tick] = m.tick.machine.press 5 ∧
      (m.tick.machine.press 5).tick.result = .error (.outOfMemory 0x1000) := by
  have hfit : ([0x1F, 0xFF] : List UInt8).length ≤ 3584 := by decide
  have hl := load_of_fits hfit (.cycle #[])
  obtain ⟨hp, hr, -, hw⟩ := fresh_of_load hfit hl
  generalize Machine.mk .. = l at hl hp hr hw
  have hd : Instruction.decode l.word = some (.jump 0xFFF) := by
    rw [word, hr]
    exact (congrArg Instruction.decode (hw 0 (by decide))).trans (by decide)
  obtain ⟨m, hm, hp, hpc⟩ : ∃ m, l.act .tick = m ∧ m.parked = none ∧ m.registers.pc = 0x0FFF := by
    rw [act, tick_eq_executed hp (by rw [hr]; decide) hd rfl]
    exact ⟨_, rfl, hp, rfl⟩
  have hstops : m.Stops (.outOfMemory 0x1000) :=
    stops_iff.mpr ⟨hp, next_eq_error_iff.mpr (.inl (by rw [hpc]; decide))⟩
  obtain ⟨-, hstill⟩ := standsStill_of_stops m _ hstops
  have hafter := (hstill [.tick, .press 5, .tick]).after
  have hticks := (hstill [.tick, .press 5, .tick]).ticks [.tick, .press 5] (List.prefix_refl _)
  rw [(hstill [.tick, .press 5]).after] at hticks
  exact ⟨m, hm ▸ (Reachable.load hl).act .tick, hpc, hstops, hafter, congrArg Outcome.result hticks⟩

end ChipEight.Machine
