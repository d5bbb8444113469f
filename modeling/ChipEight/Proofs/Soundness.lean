import ChipEight.Proofs.Effects

/-!
# Proofs — Soundness

Where the program counter, the stack and the parked register can be on a machine that some history
of a loaded program leads to.  The three depend on each other: a call saves the program counter, a
return goes back to it, and skips and jumps lead the program counter out of memory, where nothing
can be fetched and hence nothing saved.

* `Machine.Sound`: the bounds.
* `Machine.Sound.act`: every action keeps them.
* `Machine.Reachable.sound`: every reachable machine has them.
-/

namespace ChipEight.Machine

/-- The bounds that hold on every reachable machine. -/
structure Sound (m : Machine) : Prop where
  pc_le : m.registers.pc.toNat ≤ 0x10FE
  sp_le : m.registers.sp ≤ 16
  slot : ∀ i : Fin 16, i.val < m.registers.sp →
    2 ≤ (m.registers.stack[i.val]).toNat ∧ (m.registers.stack[i.val]).toNat ≤ 0x1000
  parked_le : ∀ x, m.parked = some x → x.val ≤ 15

/-! ### Control before and after an instruction -/

/-- An instruction that was fetched lies in memory, and so does the address after it. -/
theorem toNat_pc_begun {m : Machine} (h : m.registers.pc.toNat ≤ 4094) :
    m.begun.registers.pc.toNat = m.registers.pc.toNat + 2 := by
  simp only [begun, Registers.advance, UInt16.toNat_add]
  have h2 : (2 : UInt16).toNat = 2 := rfl
  omega

/-- A machine with the stack of a sound one and a program counter in range is sound. -/
theorem Sound.of_stack {m m' : Machine} (h : m.Sound) (hpc : m'.registers.pc.toNat ≤ 0x10FE)
    (hsp : m'.registers.sp = m.registers.sp) (hst : m'.registers.stack = m.registers.stack) :
    m'.Sound where
  pc_le := hpc
  sp_le := hsp ▸ h.sp_le
  slot i hi := by
    rw [hsp] at hi
    simpa only [hst] using h.slot i hi
  parked_le x _ := Nat.le_of_lt_succ x.isLt

/-- A machine that has begun an instruction is sound, and its program counter can be saved. -/
theorem Sound.begun {m : Machine} (h : m.Sound) (hpc : m.registers.pc.toNat ≤ 4094) :
    m.begun.Sound := by
  refine h.of_stack ?_ rfl rfl
  rw [toNat_pc_begun hpc]
  omega

/-- Instructions that succeed keep a machine sound, from where its program counter can be
saved. -/
theorem Sound.of_flow {m m' : Machine} {ins : Instruction} (h : m.Sound)
    (hlo : 2 ≤ m.registers.pc.toNat) (hhi : m.registers.pc.toNat ≤ 0x1000)
    (hf : m.Flow ins m'.registers) : m'.Sound := by
  have hle := h.sp_le
  cases hf with
  | returned hd hpc hsp hst =>
      have hi : m.registers.sp - 1 < 16 := by omega
      have htop : (m.registers.stack[m.registers.sp - 1]).toNat ≤ 0x1000 :=
        (h.slot ⟨m.registers.sp - 1, hi⟩ (Nat.sub_one_lt hd)).2
      rw [Vector.getElem?_eq_getElem hi, Option.getD_some] at hpc
      refine ⟨by rw [hpc]; omega, by omega, fun i hlt => ?_, fun x _ => Nat.le_of_lt_succ x.isLt⟩
      simpa only [hst] using h.slot i (by omega)
  | @called a _ hd hpc hsp hst =>
      have ha := a.isLt
      refine ⟨?_, ?_, fun i hlt => ?_, fun x _ => Nat.le_of_lt_succ x.isLt⟩
      · rw [hpc, UInt16.toNat_ofNat']
        omega
      · rw [hsp]
        exact hd
      · -- the new slot holds the program counter, and the ones below it are the old ones
        simp only [hst, Vector.getElem_set]
        by_cases he : m.registers.sp = i.val
        · rw [if_pos he]
          exact ⟨hlo, hhi⟩
        · rw [if_neg he]
          exact h.slot i (by omega)
  | onward _ _ ho =>
      refine h.of_stack ?_ ho.sp ho.stack
      have h2 : (2 : UInt16).toNat = 2 := rfl
      rcases ho.pc with hpc | hpc | hpc
      · rw [hpc]
        omega
      · rw [hpc, UInt16.toNat_add]
        omega
      · exact hpc

/-! ### Steps and runs -/

theorem Sound.tick {m : Machine} (h : m.Sound) : m.tick.machine.Sound := by
  generalize ht : m.tick = o
  cases tick_eq_iff.mp ht with
  | waited => exact h.of_stack h.pc_le rfl rfl
  | resumed => exact h.of_stack h.pc_le rfl rfl
  | stuck => exact h.of_stack h.pc_le rfl rfl
  | failed _ hn he =>
      have hb := h.begun (next_eq_ok_iff.mp hn).1
      cases execute_eq_failed_iff.mp he with
      | draw => exact hb.of_stack hb.pc_le rfl rfl
      | ret | call | decimal | store | load => exact hb
  | executed _ hn he =>
      have hpc := (next_eq_ok_iff.mp hn).1
      have hb := toNat_pc_begun hpc
      have hm' := (h.begun hpc).of_flow (by omega) (by omega) (flow_of_execute he)
      exact hm'.of_stack hm'.pc_le rfl rfl

theorem Sound.act {m : Machine} (h : m.Sound) (a : Action) : (m.act a).Sound := by
  cases a with
  | tick => exact h.tick
  | press key => exact h.of_stack h.pc_le rfl rfl
  | release key => exact h.of_stack h.pc_le rfl rfl

theorem sound_load {program : List UInt8} {random : ByteStream} {m : Machine}
    (h : load program random = .ok m) : m.Sound := by
  obtain rfl := Except.ok.inj (h.symm.trans (load_of_fits (length_le_of_load h) _))
  have hpc : Memory.programStart.toNat ≤ 0x10FE := by decide
  exact ⟨hpc, Nat.zero_le _, fun _ hi => absurd hi (Nat.not_lt_zero _), nofun⟩

/-- **Reachable machines are sound.** -/
theorem Reachable.sound {m : Machine} (h : m.Reachable) : m.Sound := by
  induction h with
  | load h => exact sound_load h
  | act _ a ih => exact ih.act a

end ChipEight.Machine
