import ChipEight.Proofs.Soundness

/-!
# Proofs — Faults

Which ticks fail, with which faults, and what they leave.

* `Machine.Fails`: the failing ticks by the word at the program counter, each with its fault and
  the machine that it leaves.
* `Machine.Spared`: what no failing tick touches.
* `Machine.tick_fails_iff`: on a reachable machine the failing ticks are those of `Fails`, and they
  spare what `Spared` says.
-/

namespace ChipEight

/-- `00EE` is the one word for a return. -/
theorem Opcode.standsFor_ret_iff {op : Opcode} : op.StandsFor .ret ↔ op.word = 0x00EE := by
  have he : (0x00EE : UInt16).toNat = 0x0EE := rfl
  simp only [StandsFor, band, addr, Fin.ext_iff, ← UInt16.toNat_inj, he, Fin.val_zero]
  have ha : (0x0EE : Fin 4096).val = 0x0EE := rfl
  omega

/-- A block is not in memory if it has bytes and its end is past the end of memory. -/
theorem Memory.not_fits_iff {a : UInt16} {count : Nat} :
    ¬ Fits a count ↔ 0 < count ∧ 4096 < a.toNat + count := by
  simp only [Fits, size]
  omega

namespace Machine

/-! ### Failing ticks -/

/-- A tick of a machine that waits for no key fails with a fault and leaves a machine. -/
inductive Fails (m : Machine) : Fault → Machine → Prop where
  /-- There is no word at the program counter. -/
  | fetch (hpc : 4094 < m.registers.pc.toNat) :
      Fails m (.outOfMemory (max m.registers.pc.toNat 4096)) { m with drawn := false }
  /-- The word at the program counter stands for nothing. -/
  | decode (hpc : m.registers.pc.toNat ≤ 4094) (hw : m.word.Undefined) :
      Fails m (.unknownOpcode m.word m.registers.pc) { m with drawn := false }
  | call (hpc : m.registers.pc.toNat ≤ 4094) (hw : m.word.band = 0x2)
      (hs : m.registers.sp = 16) :
      Fails m (.stackFull (m.registers.pc + 2)) m.begun
  | ret (hpc : m.registers.pc.toNat ≤ 4094) (hw : m.word.word = 0x00EE)
      (hs : m.registers.sp = 0) :
      Fails m (.stackEmpty (m.registers.pc + 2)) m.begun
  /-- The flag register is clear already when the sprite is looked for. -/
  | draw (hpc : m.registers.pc.toNat ≤ 4094) (hw : m.word.band = 0xD) (hn : 0 < m.word.n.val)
      (hi : 4096 < m.registers.index.toNat + m.word.n.val) :
      Fails m (.outOfMemory (max m.registers.index.toNat 4096)) (m.begun.put Registers.flag 0)
  | decimal (hpc : m.registers.pc.toNat ≤ 4094) (hw : m.word.band = 0xF) (hk : m.word.kk = 0x33)
      (hi : 4096 < m.registers.index.toNat + 3) :
      Fails m (.outOfMemory (max m.registers.index.toNat 4096)) m.begun
  /-- Storing and loading the registers up to one of them. -/
  | block (hpc : m.registers.pc.toNat ≤ 4094) (hw : m.word.band = 0xF)
      (hk : m.word.kk = 0x55 ∨ m.word.kk = 0x65)
      (hi : 4096 < m.registers.index.toNat + m.word.x.val + 1) :
      Fails m (.outOfMemory (max m.registers.index.toNat 4096)) m.begun

/-- What a failing tick leaves as it was.  No frame is fresh after it. -/
structure Spared (m m' : Machine) : Prop where
  memory : m'.memory = m.memory
  frame : m'.frame = m.frame
  keypad : m'.keypad = m.keypad
  random : m'.random = m.random
  parked : m'.parked = m.parked
  index : m'.registers.index = m.registers.index
  sp : m'.registers.sp = m.registers.sp
  stack : m'.registers.stack = m.registers.stack
  delay : m'.registers.delay = m.registers.delay
  sound : m'.registers.sound = m.registers.sound
  freshFrame : m'.freshFrame = none

theorem Fails.spared {m m' : Machine} {e : Fault} (h : m.Fails e m') : m.Spared m' := by
  cases h <;> exact ⟨rfl, rfl, rfl, rfl, rfl, rfl, rfl, rfl, rfl, rfl, rfl⟩

/-! ### Words of the instructions that fail -/

/-- Instructions that fail fail as the word they come from says. -/
theorem Fails.of_refuses {m m' : Machine} {ins : Instruction} {e : Fault} (h : m.Sound)
    (hpc : m.registers.pc.toNat ≤ 4094) (hw : m.word.StandsFor ins)
    (hr : m.begun.Refuses ins e m') : m.Fails e m' := by
  cases hr with
  | ret hs => exact .ret hpc (Opcode.standsFor_ret_iff.mp hw) hs
  | call hs => exact .call hpc hw.1 (Nat.le_antisymm h.sp_le hs)
  | draw hf =>
      obtain ⟨hb, -, -, rfl⟩ := hw
      obtain ⟨hn, hi⟩ := Memory.not_fits_iff.mp hf
      exact .draw hpc hb hn hi
  | decimal hf => exact .decimal hpc hw.1 hw.2.2 (Memory.not_fits_iff.mp hf).2
  | store hf =>
      obtain ⟨hb, rfl, hk⟩ := hw
      exact .block hpc hb (.inl hk) (Memory.not_fits_iff.mp hf).2
  | load hf =>
      obtain ⟨hb, rfl, hk⟩ := hw
      exact .block hpc hb (.inr hk) (Memory.not_fits_iff.mp hf).2

/-- The word of a failing tick is missing, stands for nothing, or stands for an instruction that
fails. -/
theorem Fails.cases_next {m m' : Machine} {e : Fault} (h : m.Fails e m') :
    (m.next = .error e ∧ m' = { m with drawn := false }) ∨
    ∃ ins, m.next = .ok (m.word, ins) ∧ m.begun.Refuses ins e m' := by
  have found : ∀ {ins : Instruction}, m.registers.pc.toNat ≤ 4094 → m.word.StandsFor ins →
      m.next = .ok (m.word, ins) := fun hpc hw =>
    next_eq_ok_iff.mpr ⟨hpc, rfl, Instruction.decode_of_standsFor hw⟩
  cases h with
  | fetch hpc => exact .inl ⟨next_eq_error_iff.mpr (.inl ⟨hpc, rfl⟩), rfl⟩
  | decode hpc hw => exact .inl ⟨next_eq_error_iff.mpr (.inr ⟨hpc, hw, rfl⟩), rfl⟩
  | call hpc hw hs =>
      exact .inr ⟨.call m.word.addr, found hpc ⟨hw, rfl⟩, .call (Nat.le_of_eq hs.symm)⟩
  | ret hpc hw hs => exact .inr ⟨.ret, found hpc (Opcode.standsFor_ret_iff.mpr hw), .ret hs⟩
  | draw hpc hw hn hi =>
      exact .inr ⟨.draw m.word.x m.word.y m.word.n, found hpc ⟨hw, rfl, rfl, rfl⟩,
        .draw (Memory.not_fits_iff.mpr ⟨hn, hi⟩)⟩
  | decimal hpc hw hk hi =>
      exact .inr ⟨.decimal m.word.x, found hpc ⟨hw, rfl, hk⟩,
        .decimal (Memory.not_fits_iff.mpr ⟨Nat.zero_lt_succ _, hi⟩)⟩
  | block hpc hw hk hi =>
      have hf := Memory.not_fits_iff.mpr ⟨Nat.zero_lt_succ _, hi⟩
      rcases hk with hk | hk
      · exact .inr ⟨.store m.word.x, found hpc ⟨hw, rfl, hk⟩, .store hf⟩
      · exact .inr ⟨.load m.word.x, found hpc ⟨hw, rfl, hk⟩, .load hf⟩

/-! ### Ticks -/

/-- A tick that fails finds no instruction or one that fails. -/
theorem tick_eq_failed_iff {m m' : Machine} {e : Fault} :
    m.tick = .failed m' e ↔
      m.parked = none ∧
        ((m.next = .error e ∧ m' = { m with drawn := false }) ∨
          ∃ ins, m.next = .ok (m.word, ins) ∧ m.begun.Refuses ins e m') := by
  constructor
  · intro ht
    generalize ho : Outcome.failed m' e = o at ht
    cases tick_eq_iff.mp ht with
    | waited | resumed | executed => simp [Outcome.failed] at ho
    | stuck hp hn =>
        obtain ⟨rfl, rfl⟩ := Outcome.failed_inj.mp ho
        exact ⟨hp, .inl ⟨hn, rfl⟩⟩
    | failed hp hn he =>
        obtain ⟨rfl, rfl⟩ := Outcome.failed_inj.mp ho
        exact ⟨hp, .inr ⟨_, hn, execute_eq_failed_iff.mp he⟩⟩
  · rintro ⟨hp, ⟨hn, rfl⟩ | ⟨ins, hn, hr⟩⟩
    · exact tick_eq_iff.mpr (.stuck hp hn)
    · exact tick_eq_iff.mpr (.failed hp hn (execute_eq_failed_iff.mpr hr))

/-- On a sound machine that waits for no key the failing ticks are those of `Fails`. -/
theorem Sound.tick_eq_failed_iff {m m' : Machine} {e : Fault} (h : m.Sound)
    (hp : m.parked = none) : m.tick = .failed m' e ↔ m.Fails e m' := by
  rw [Machine.tick_eq_failed_iff]
  constructor
  · rintro ⟨-, ⟨hn, rfl⟩ | ⟨ins, hn, hr⟩⟩
    · rcases next_eq_error_iff.mp hn with ⟨hpc, rfl⟩ | ⟨hpc, hw, rfl⟩
      · exact .fetch hpc
      · exact .decode hpc hw
    · obtain ⟨hpc, -, hd⟩ := next_eq_ok_iff.mp hn
      exact .of_refuses h hpc (Instruction.standsFor_of_decode hd) hr
  · exact fun hf => ⟨hp, hf.cases_next⟩

/-- **The failing ticks of a reachable machine.**  One that waits for a key never fails to tick.
One that does not fails exactly as `Fails` says, and whatever fails spares everything but the
program counter and the registers, which are as `Fails` says. -/
theorem tick_fails_iff (m : Machine) (h : m.Reachable) :
    (m.parked ≠ none → ∃ step, m.tick.result = .ok step) ∧
    (m.parked = none → ∀ e m', m.tick = .failed m' e ↔ m.Fails e m') ∧
    ∀ e m', m.tick = .failed m' e → m.Spared m' := by
  refine ⟨fun hp => ?_, fun hp e m' => h.sound.tick_eq_failed_iff hp, fun e m' ht => ?_⟩
  · rcases ht : m.tick with ⟨m', e | step⟩
    · exact absurd (Machine.tick_eq_failed_iff.mp ht).1 hp
    · exact ⟨step, rfl⟩
  · have hp := (Machine.tick_eq_failed_iff.mp ht).1
    exact ((h.sound.tick_eq_failed_iff hp).mp ht).spared

/-- The theorem at a program that returns before it has called anything. -/
theorem tick_fails_iff_ret :
    ∃ m : Machine, m.Reachable ∧ m.parked = none ∧ m.word.word = 0x00EE ∧
      m.tick = .failed m.begun (.stackEmpty 0x202) ∧ m.Spared m.begun := by
  have hl : load [0x00, 0xEE] (.cycle #[]) = _ := load_of_fits (by decide) _
  obtain ⟨-, hf, hs⟩ := tick_fails_iff _ (.load hl)
  have hw : (Memory.wordAt (Memory.initial.overlay 0x200 [0x00, 0xEE]) 0x200).word = 0x00EE :=
    congrArg Opcode.word (Memory.wordAt_overlay _ (k := 0) (by decide) (by decide))
  have ht := (hf rfl _ _).mpr (.ret (by decide) hw rfl)
  exact ⟨_, .load hl, rfl, hw, ht, hs _ _ ht⟩

end Machine

end ChipEight
