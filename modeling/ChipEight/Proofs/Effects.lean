import ChipEight.Proofs.Ticks

/-!
# Proofs — Effects

What an instruction does to control, and when it does nothing because it cannot.

* `Machine.Refuses`: the six instructions that can fail, when they do, with which fault, and what
  they leave.  Nothing else fails (`Machine.execute_eq_failed_iff`).
* `Machine.Flow`: what an instruction that succeeds does to the program counter and the stack.  A
  return takes a slot off, a call puts one on, and every other instruction leaves the stack alone
  (`Machine.flow_of_execute`).
-/

namespace ChipEight

open Arithmetic

namespace Machine

/-! ### Instructions that fail -/

/-- An instruction fails on a machine with a fault and leaves a machine. -/
inductive Refuses (m : Machine) : Instruction → Fault → Machine → Prop where
  | ret (h : m.registers.sp = 0) : Refuses m .ret (.stackEmpty m.registers.pc) m
  | call {a : Address} (h : 16 ≤ m.registers.sp) :
      Refuses m (.call a) (.stackFull m.registers.pc) m
  /-- Drawing clears the flag before it looks for its sprite. -/
  | draw {x y : Register} {height : Fin 16} (h : ¬ Memory.Fits m.registers.index height.val) :
      Refuses m (.draw x y height) (Memory.outside m.registers.index) (m.put Registers.flag 0)
  | decimal {x : Register} (h : ¬ Memory.Fits m.registers.index 3) :
      Refuses m (.decimal x) (Memory.outside m.registers.index) m
  | store {x : Register} (h : ¬ Memory.Fits m.registers.index (x.val + 1)) :
      Refuses m (.store x) (Memory.outside m.registers.index) m
  | load {x : Register} (h : ¬ Memory.Fits m.registers.index (x.val + 1)) :
      Refuses m (.load x) (Memory.outside m.registers.index) m

theorem ret_eq_failed_iff {m m' : Machine} {e : Fault} :
    m.ret = .failed m' e ↔ m.registers.sp = 0 ∧ e = .stackEmpty m.registers.pc ∧ m' = m := by
  by_cases h : m.registers.sp = 0 <;> simp [ret, Registers.pop, h, eq_comm, and_comm]

theorem call_eq_failed_iff {m m' : Machine} {a : Address} {e : Fault} :
    m.call a = .failed m' e ↔
      16 ≤ m.registers.sp ∧ e = .stackFull m.registers.pc ∧ m' = m := by
  by_cases h : m.registers.sp < 16
  · have hp : m.registers.push m.registers.pc = .ok _ := dif_pos h
    simp [call, hp, Nat.not_le.mpr h]
  · have hp : m.registers.push m.registers.pc = .error _ := dif_neg h
    simp [call, hp, Nat.not_lt.mp h, eq_comm, and_comm]

theorem writeBlock_eq_failed_iff {m m' : Machine} {bytes : List UInt8} {e : Fault} :
    m.writeBlock bytes = .failed m' e ↔
      ¬ Memory.Fits m.registers.index bytes.length ∧
        e = Memory.outside m.registers.index ∧ m' = m := by
  by_cases h : Memory.Fits m.registers.index bytes.length <;>
    simp [writeBlock, Memory.write, h, eq_comm, and_comm]

theorem readBlock_eq_failed_iff {m m' : Machine} {x : Register} {e : Fault} :
    m.readBlock x = .failed m' e ↔
      ¬ Memory.Fits m.registers.index (x.val + 1) ∧
        e = Memory.outside m.registers.index ∧ m' = m := by
  by_cases h : Memory.Fits m.registers.index (x.val + 1) <;>
    simp [readBlock, Memory.read, h, eq_comm, and_comm]

theorem drawSprite_eq_failed_iff {m m' : Machine} {x y : Register} {height : Fin 16}
    {e : Fault} :
    m.drawSprite x y height = .failed m' e ↔
      ¬ Memory.Fits m.registers.index height.val ∧
        e = Memory.outside m.registers.index ∧ m' = m.put Registers.flag 0 := by
  -- the flag is cleared first, which moves neither the index nor the memory
  have hi : (m.put Registers.flag 0).registers.index = m.registers.index := rfl
  by_cases h : Memory.Fits m.registers.index height.val <;>
    simp [drawSprite, Memory.read, hi, h, eq_comm, and_comm]

/-- **The instructions that fail** are those that `Refuses` has, and they fail as it says. -/
theorem execute_eq_failed_iff {m m' : Machine} {ins : Instruction} {e : Fault} :
    m.execute ins = .failed m' e ↔ m.Refuses ins e m' := by
  constructor
  · intro h
    cases ins
    case ret =>
      obtain ⟨hs, rfl, rfl⟩ := ret_eq_failed_iff.mp h
      exact .ret hs
    case call a =>
      obtain ⟨hs, rfl, rfl⟩ := call_eq_failed_iff.mp h
      exact .call hs
    case draw x y height =>
      obtain ⟨hf, rfl, rfl⟩ := drawSprite_eq_failed_iff.mp h
      exact .draw hf
    case decimal x =>
      obtain ⟨hf, rfl, rfl⟩ := writeBlock_eq_failed_iff.mp h
      exact .decimal hf
    case store x =>
      obtain ⟨hf, rfl, rfl⟩ := writeBlock_eq_failed_iff.mp h
      exact .store (Registers.length_upTo _ x ▸ hf)
    case load x =>
      obtain ⟨hf, rfl, rfl⟩ := readBlock_eq_failed_iff.mp h
      exact .load hf
    all_goals exact absurd h Outcome.done_ne_failed
  · intro h
    cases h with
    | ret h => exact ret_eq_failed_iff.mpr ⟨h, rfl, rfl⟩
    | call h => exact call_eq_failed_iff.mpr ⟨h, rfl, rfl⟩
    | draw h => exact drawSprite_eq_failed_iff.mpr ⟨h, rfl, rfl⟩
    | decimal h => exact writeBlock_eq_failed_iff.mpr ⟨h, rfl, rfl⟩
    | store h => exact writeBlock_eq_failed_iff.mpr ⟨(Registers.length_upTo _ _).symm ▸ h, rfl, rfl⟩
    | load h => exact readBlock_eq_failed_iff.mpr ⟨h, rfl, rfl⟩

/-! ### Instructions that succeed -/

/-- Control goes on, skips or jumps, and leaves the stack alone. -/
structure Onward (m : Machine) (r : Registers) : Prop where
  pc : r.pc = m.registers.pc ∨ r.pc = m.registers.pc + 2 ∨ r.pc.toNat ≤ 0x10FE
  sp : r.sp = m.registers.sp
  stack : r.stack = m.registers.stack

/-- What an instruction that succeeds makes of the program counter and the stack. -/
inductive Flow (m : Machine) : Instruction → Registers → Prop where
  /-- A return goes where the topmost slot says. -/
  | returned {r : Registers} (hd : m.registers.sp ≠ 0)
      (hpc : r.pc = m.registers.stack[m.registers.sp - 1]?.getD 0)
      (hsp : r.sp + 1 = m.registers.sp) (hst : r.stack = m.registers.stack) : Flow m .ret r
  /-- A call leaves its return address in a new slot. -/
  | called {a : Address} {r : Registers} (hd : m.registers.sp < 16)
      (hpc : r.pc = UInt16.ofNat a.val) (hsp : r.sp = m.registers.sp + 1)
      (hst : r.stack = m.registers.stack.set m.registers.sp m.registers.pc hd) :
      Flow m (.call a) r
  | onward {ins : Instruction} {r : Registers} (hr : ins ≠ .ret) (hc : ∀ a, ins ≠ .call a)
      (ho : m.Onward r) : Flow m ins r

theorem flow_ret {m m' : Machine} (h : m.ret = .done m') : m.Flow .ret m'.registers := by
  by_cases hs : m.registers.sp = 0
  · simp [ret, Registers.pop, hs] at h
  · simp only [ret, Registers.pop, hs, if_false, Outcome.done_inj] at h
    subst h
    exact .returned hs rfl (Nat.succ_pred_eq_of_ne_zero hs) rfl

theorem flow_call {m m' : Machine} {a : Address} (h : m.call a = .done m') :
    m.Flow (.call a) m'.registers := by
  by_cases hs : m.registers.sp < 16
  · have hp : m.registers.push m.registers.pc = .ok _ := dif_pos hs
    simp only [call, hp, Outcome.done_inj] at h
    subst h
    exact .called hs rfl rfl rfl
  · have hp : m.registers.push m.registers.pc = .error _ := dif_neg hs
    simp only [call, hp, Outcome.failed_ne_done] at h

theorem onward_skipIf (m : Machine) (c : Bool) : m.Onward (m.skipIf c).registers := by
  cases c with
  | false => exact ⟨.inl rfl, rfl, rfl⟩
  | true => exact ⟨.inr (.inl rfl), rfl, rfl⟩

theorem onward_goTo {m : Machine} {k : Nat} (h : k ≤ 0x10FE) :
    m.Onward (m.goTo (UInt16.ofNat k)).registers := by
  refine ⟨.inr (.inr ?_), rfl, rfl⟩
  simp only [goTo, UInt16.toNat_ofNat']
  omega

theorem onward_awaitKey (m : Machine) (x : Register) : m.Onward (m.awaitKey x).registers := by
  unfold awaitKey
  split <;> exact ⟨.inl rfl, rfl, rfl⟩

theorem onward_writeBlock {m m' : Machine} {bytes : List UInt8}
    (h : m.writeBlock bytes = .done m') : m.Onward m'.registers := by
  unfold writeBlock at h
  split at h
  · obtain rfl := Outcome.done_inj.mp h
    exact ⟨.inl rfl, rfl, rfl⟩
  · exact absurd h Outcome.failed_ne_done

theorem onward_readBlock {m m' : Machine} {x : Register} (h : m.readBlock x = .done m') :
    m.Onward m'.registers := by
  unfold readBlock Registers.putFirst at h
  split at h
  · obtain rfl := Outcome.done_inj.mp h
    exact ⟨.inl rfl, rfl, rfl⟩
  · exact absurd h Outcome.failed_ne_done

theorem onward_drawSprite {m m' : Machine} {x y : Register} {height : Fin 16}
    (h : m.drawSprite x y height = .done m') : m.Onward m'.registers := by
  simp only [drawSprite] at h
  split at h
  · obtain rfl := Outcome.done_inj.mp h
    exact ⟨.inl rfl, rfl, rfl⟩
  · exact absurd h Outcome.failed_ne_done

/-- **Only calls and returns touch the stack**, and a jump goes no further than `0x10FE`. -/
theorem flow_of_execute {m m' : Machine} {ins : Instruction} (h : m.execute ins = .done m') :
    m.Flow ins m'.registers := by
  cases ins
  case ret => exact flow_ret h
  case call a => exact flow_call h
  case draw x y height => exact .onward nofun nofun (onward_drawSprite h)
  case decimal x => exact .onward nofun nofun (onward_writeBlock h)
  case store x => exact .onward nofun nofun (onward_writeBlock h)
  case load x => exact .onward nofun nofun (onward_readBlock h)
  -- the others cannot fail
  all_goals obtain rfl := Outcome.done_inj.mp h
  case jump a => exact .onward nofun nofun (onward_goTo (by omega))
  case jumpOffset a =>
    have hv := (m.registers.get 0).toNat_lt
    exact .onward nofun nofun (onward_goTo (by omega))
  case awaitKey x => exact .onward nofun nofun (m.onward_awaitKey x)
  case skipIfByte | skipUnlessByte | skipIfEqual | skipUnlessEqual | skipIfKey | skipUnlessKey =>
    exact .onward nofun nofun (m.onward_skipIf _)
  all_goals exact .onward nofun nofun ⟨.inl rfl, rfl, rfl⟩

end Machine

end ChipEight
