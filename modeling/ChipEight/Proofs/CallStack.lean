import ChipEight.Proofs.Effects

/-!
# Proofs — CallStack

Calls and returns are paired.  What a call puts on the stack stays there for as long as the stack is
higher than it was before the call, whatever is called, returned from, waited for or failed at in
the meantime, and the tick that takes it off is a return to that call.

* `Machine.Moves`: what an action does to the stack; only the tick of a call and the tick of a
  return move the stack pointer.
* `Machine.CalledFrom`: a machine has the stack that a call left.  Actions keep it while the stack
  is higher (`CalledFrom.act`, `CalledFrom.after`), and when the stack is no higher any more, a
  return has gone back to that call (`CalledFrom.returns`).
* `Machine.returns_to_call`: the two together, from the call on.
-/

namespace ChipEight

/-- How many return addresses a step puts on the stack. -/
def Step.climb : Step → Int
  | .executed (.call _) => 1
  | .executed .ret => -1
  | _ => 0

theorem Step.climb_executed {ins : Instruction} (hr : ins ≠ .ret) (hc : ∀ a, ins ≠ .call a) :
    (executed ins).climb = 0 := by
  cases ins
  case ret => exact absurd rfl hr
  case call a => exact absurd rfl (hc a)
  all_goals rfl

namespace Machine

/-- How many return addresses an action puts on the stack of a machine: a tick that fails puts none
there, and nor does a key. -/
def climb (m : Machine) : Action → Int
  | .tick =>
    match m.tick.result with
    | .ok step => step.climb
    | .error _ => 0
  | _ => 0

theorem climb_of_result {m : Machine} {step : Step} (h : m.tick.result = .ok step) :
    m.climb .tick = step.climb := by
  rw [climb, h]

/-! ### One action -/

/-- What an action does to the stack. -/
inductive Moves (m : Machine) : Action → Prop where
  | kept {b : Action} (hc : m.climb b = 0) (hsp : (m.act b).registers.sp = m.registers.sp)
      (hst : (m.act b).registers.stack = m.registers.stack) : Moves m b
  | called {a : Address} (hr : m.tick.result = .ok (.executed (.call a)))
      (hd : m.registers.sp < 16) (hsp : m.tick.machine.registers.sp = m.registers.sp + 1)
      (hst : m.tick.machine.registers.stack =
        m.registers.stack.set m.registers.sp (m.registers.pc + 2) hd) : Moves m .tick
  | returned (hr : m.tick.result = .ok (.executed .ret))
      (hsp : m.tick.machine.registers.sp + 1 = m.registers.sp)
      (hpc : m.tick.machine.registers.pc = m.registers.stack[m.registers.sp - 1]?.getD 0)
      (hst : m.tick.machine.registers.stack = m.registers.stack) : Moves m .tick

theorem moves_tick (m : Machine) : m.Moves .tick := by
  have kept : ∀ {o : Outcome Step}, m.tick = o →
      (match o.result with | .ok step => step.climb | .error _ => 0) = 0 →
      o.machine.registers.sp = m.registers.sp →
      o.machine.registers.stack = m.registers.stack → m.Moves .tick := by
    rintro o rfl hc hsp hst
    exact .kept hc hsp hst
  generalize ht : m.tick = o
  cases tick_eq_iff.mp ht with
  | waited => exact kept ht rfl rfl rfl
  | resumed => exact kept ht rfl rfl rfl
  | stuck => exact kept ht rfl rfl rfl
  | failed _ _ he => cases execute_eq_failed_iff.mp he <;> exact kept ht rfl rfl rfl
  | executed _ _ he =>
      cases flow_of_execute he with
      | returned _ hpc hsp hst =>
          exact .returned (by rw [ht]) (by rw [ht]; exact hsp) (by rw [ht]; exact hpc)
            (by rw [ht]; exact hst)
      | called hd _ hsp hst =>
          exact .called (by rw [ht]) hd (by rw [ht]; exact hsp) (by rw [ht]; exact hst)
      | onward hr hc ho => exact kept ht (Step.climb_executed hr hc) ho.sp ho.stack

theorem moves (m : Machine) (b : Action) : m.Moves b := by
  cases b with
  | tick => exact m.moves_tick
  | press key => exact .kept rfl rfl rfl
  | release key => exact .kept rfl rfl rfl

/-- A call is executed where there is room for its return address. -/
theorem result_tick_call {m : Machine} {a : Address} (hp : m.parked = none)
    (hpc : m.registers.pc.toNat ≤ 4094) (hw : Instruction.decode m.word = some (.call a))
    (hd : m.registers.sp < 16) : m.tick.result = .ok (.executed (.call a)) := by
  have hn : m.next = .ok (m.word, .call a) := next_eq_ok_iff.mpr ⟨hpc, rfl, hw⟩
  have hr : m.begun.registers.push m.begun.registers.pc = .ok _ := dif_pos hd
  obtain ⟨m', he⟩ : ∃ m', m.begun.execute (.call a) = .done m' := by
    rw [execute, call, hr]
    exact ⟨_, rfl⟩
  rw [tick_eq_iff.mpr (.executed hp hn he)]

/-- **The stack pointer moves by one at a call and at a return**, and not otherwise. -/
theorem sp_act (m : Machine) (b : Action) :
    ((m.act b).registers.sp : Int) = m.registers.sp + m.climb b := by
  cases m.moves b with
  | kept hc hsp => rw [hc, hsp, Int.add_zero]
  | called hr _ hsp =>
      rw [climb_of_result hr, act, hsp]
      rfl
  | returned hr hsp =>
      have hc : m.climb .tick = -1 := climb_of_result hr
      rw [hc, act]
      omega

/-! ### From a call to its return -/

/-- The stack of a machine has below its height what it had on `m`, and next the address after the
call that `m` was about to make. -/
structure CalledFrom (n m : Machine) : Prop where
  below : ∀ i, i < m.registers.sp → n.registers.stack[i]? = m.registers.stack[i]?
  saved : n.registers.stack[m.registers.sp]? = some (m.registers.pc + 2)

variable {m n : Machine}

/-- A call leaves such a stack, and leaves it higher. -/
theorem calledFrom_tick {a : Address} (h : m.tick.result = .ok (.executed (.call a))) :
    m.tick.machine.CalledFrom m ∧ m.registers.sp < m.tick.machine.registers.sp := by
  cases m.moves_tick with
  | kept hc =>
      rw [climb_of_result h] at hc
      cases hc
  | called _ hd hsp hst =>
      refine ⟨⟨fun i hi => ?_, ?_⟩, ?_⟩
      · rw [hst, Vector.getElem?_set_ne hd (Nat.ne_of_gt hi)]
      · rw [hst, Vector.getElem?_set_self]
      · rw [hsp]
        exact Nat.lt_succ_self _
  | returned hr =>
      rw [h] at hr
      cases hr

/-- Nothing is written into the slots of a call while the stack is higher. -/
theorem CalledFrom.act (h : n.CalledFrom m) (hlt : m.registers.sp < n.registers.sp) (b : Action) :
    (n.act b).CalledFrom m := by
  cases n.moves b with
  | kept _ _ hst => exact ⟨fun i hi => hst ▸ h.below i hi, hst ▸ h.saved⟩
  | called _ hd _ hst =>
      -- the slot that is written is above those of the call
      have hset : ∀ i, i ≤ m.registers.sp →
          n.tick.machine.registers.stack[i]? = n.registers.stack[i]? := fun i hi => by
        rw [hst, Vector.getElem?_set_ne hd (by omega)]
      refine ⟨fun i hi => ?_, ?_⟩
      · exact (hset i (Nat.le_of_lt hi)).trans (h.below i hi)
      · exact (hset _ (Nat.le_refl _)).trans h.saved
  | returned _ _ _ hst => exact ⟨fun i hi => hst ▸ h.below i hi, hst ▸ h.saved⟩

theorem CalledFrom.after (h : n.CalledFrom m) {as : List Action}
    (hlt : ∀ bs, bs <+: as → m.registers.sp < (n.after bs).registers.sp) :
    (n.after as).CalledFrom m := by
  induction as generalizing n with
  | nil => exact h
  | cons b as ih =>
      refine ih (h.act (hlt [] (List.nil_prefix)) b) fun bs hbs => ?_
      exact hlt (b :: bs) (List.cons_prefix_cons.mpr ⟨rfl, hbs⟩)

/-- The action that takes the address of a call off the stack is a return to it. -/
theorem CalledFrom.returns (h : n.CalledFrom m) (hlt : m.registers.sp < n.registers.sp)
    {b : Action} (hle : (n.act b).registers.sp ≤ m.registers.sp) :
    b = .tick ∧ n.tick.result = .ok (.executed .ret) ∧
      (n.act b).registers.sp = m.registers.sp ∧ (n.act b).registers.pc = m.registers.pc + 2 := by
  cases n.moves b with
  | kept _ hsp => exact absurd (hsp ▸ hle) (Nat.not_le.mpr hlt)
  | called _ _ hsp =>
      have : n.tick.machine.registers.sp ≤ m.registers.sp := hle
      omega
  | returned hr hsp hpc =>
      have hle' : n.tick.machine.registers.sp ≤ m.registers.sp := hle
      have hd : n.registers.sp - 1 = m.registers.sp := by omega
      refine ⟨rfl, hr, ?_, ?_⟩
      · exact show n.tick.machine.registers.sp = _ by omega
      · exact hpc.trans (by rw [hd, h.saved, Option.getD_some])

/-- **Every return goes to its own call.**  After a call, the slots that were in use before it and
the slot with its return address are untouched for as long as the stack is higher than before the
call.  The first action after which it is no higher is the tick of a return.  It goes to the
address after the call and leaves the stack as it was before the call.  And at all times the stack
pointer moves at calls and returns only. -/
theorem returns_to_call (m : Machine) {a : Address}
    (hcall : m.tick.result = .ok (.executed (.call a))) :
    (∀ as : List Action,
      (∀ bs, bs <+: as → m.registers.sp < (m.tick.machine.after bs).registers.sp) →
      (m.tick.machine.after as).CalledFrom m ∧
      ∀ b, (m.tick.machine.after (as ++ [b])).registers.sp ≤ m.registers.sp →
        b = .tick ∧ (m.tick.machine.after as).tick.result = .ok (.executed .ret) ∧
        (m.tick.machine.after (as ++ [b])).registers.sp = m.registers.sp ∧
        (m.tick.machine.after (as ++ [b])).registers.pc = m.registers.pc + 2 ∧
        (m.tick.machine.after (as ++ [b])).CalledFrom m) ∧
    ∀ (n : Machine) (b : Action),
      ((n.act b).registers.sp : Int) = n.registers.sp + n.climb b := by
  refine ⟨fun as hlt => ?_, sp_act⟩
  have hopen := (calledFrom_tick hcall).1.after hlt
  have habove := hlt as List.prefix_rfl
  refine ⟨hopen, fun b hle => ?_⟩
  rw [after_append] at hle ⊢
  obtain ⟨hb, hr, hsp, hpc⟩ := hopen.returns habove hle
  exact ⟨hb, hr, hsp, hpc, hopen.act habove b⟩

/-- The theorem at a program that starts with a call. -/
theorem returns_to_call_first :
    ∃ m : Machine, m.Reachable ∧ m.tick.result = .ok (.executed (.call 0x204)) ∧
      m.tick.machine.CalledFrom m ∧
      ∀ b, (m.tick.machine.act b).registers.sp ≤ m.registers.sp →
        b = .tick ∧ (m.tick.machine.act b).registers.pc = m.registers.pc + 2 := by
  obtain ⟨m, hl, hw, hp, hpc, hd⟩ : ∃ m : Machine,
      load [0x22, 0x04, 0x00, 0xE0, 0x00, 0xEE] (.cycle #[]) = .ok m ∧ m.word = ⟨0x2204⟩ ∧
      m.parked = none ∧ m.registers.pc = 0x200 ∧ m.registers.sp = 0 :=
    ⟨_, load_of_fits (by decide) _, Memory.wordAt_overlay _ (k := 0) (by decide) (by decide),
      rfl, rfl, rfl⟩
  have hc : m.tick.result = .ok (.executed (.call 0x204)) :=
    result_tick_call hp (by rw [hpc]; decide) (by rw [hw]; decide) (by rw [hd]; decide)
  obtain ⟨hopen, hback⟩ := (returns_to_call _ hc).1 [] fun bs hbs =>
    List.prefix_nil.mp hbs ▸ (calledFrom_tick hc).2
  refine ⟨_, .load hl, hc, hopen, fun b hle => ?_⟩
  obtain ⟨hb, -, -, hpc, -⟩ := hback b hle
  exact ⟨hb, hpc⟩

end Machine

end ChipEight
