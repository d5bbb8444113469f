import ChipEight.Log
import ChipEight.Machine.History
import ChipEight.Proofs.Effects
import ChipEight.Proofs.Lockstep

/-!
# Proofs — Unobserved

What no run of a machine shows: the slots of the stack that are stale, the sound timer, and whether
the tick before drew.  Which slots are stale changes as a run goes on.  A call writes the slot that
it brings to life, and a return reads a slot that is alive, so what a stale slot holds never comes
to light.

* `Machine.Alike`: two machines agree but for those parts.
* `Machine.Twin`: they agree on the draw flag too, as they do after a tick.
* `Machine.TicksAlike`: a tick of either machine tells, answers and shows the same.
* `Machine.ticksAlike_after`: alike machines tick alike, whatever happens to both of them.
-/

namespace ChipEight.Machine

/-! ### Agreement -/

/-- Two machines agree on everything but the stale slots of the stack, the sound timer and the draw
flag. -/
structure Alike (m n : Machine) : Prop where
  v : m.registers.v = n.registers.v
  index : m.registers.index = n.registers.index
  pc : m.registers.pc = n.registers.pc
  sp : m.registers.sp = n.registers.sp
  live : ∀ i, i < m.registers.sp → m.registers.stack[i]? = n.registers.stack[i]?
  delay : m.registers.delay = n.registers.delay
  memory : m.memory = n.memory
  frame : m.frame = n.frame
  keypad : m.keypad = n.keypad
  random : m.random = n.random
  parked : m.parked = n.parked

/-- Two machines agree on everything but the stale slots of the stack and the sound timer. -/
structure Twin (m n : Machine) : Prop extends Alike m n where
  drawn : m.drawn = n.drawn

variable {m n : Machine}

theorem Alike.undrawn (h : m.Alike n) : Twin { m with drawn := false } { n with drawn := false } :=
  ⟨⟨h.v, h.index, h.pc, h.sp, h.live, h.delay, h.memory, h.frame, h.keypad, h.random, h.parked⟩,
    rfl⟩

theorem Alike.begun (h : m.Alike n) : m.begun.Twin n.begun :=
  ⟨⟨h.v, h.index, congrArg (· + 2) h.pc, h.sp, h.live, h.delay, h.memory, h.frame, h.keypad,
    h.random, h.parked⟩, rfl⟩

theorem Alike.next (h : m.Alike n) : m.next = n.next := by
  simp only [Machine.next, fetch, h.memory, h.pc]

theorem Twin.eq_withAside (h : m.Twin n) : n = m.withAside n.aside := by
  obtain ⟨⟨v, index, pc, sp, stack, delay, sound⟩, memory, frame, keypad, random, parked,
    drawn⟩ := m
  obtain ⟨⟨rfl, rfl, rfl, rfl, -, rfl, rfl, rfl, rfl, rfl, rfl⟩, rfl⟩ := h
  rfl

/-! ### Instructions -/

theorem Twin.ret (h : m.Twin n) : m.ret.Matches Twin n.ret := by
  by_cases hd : m.registers.sp = 0
  · rw [ret_eq_failed_iff.mpr ⟨hd, rfl, rfl⟩, ret_eq_failed_iff.mpr ⟨h.sp ▸ hd, rfl, rfl⟩]
    exact ⟨h, congrArg (Except.error ∘ Fault.stackEmpty) h.pc⟩
  · -- the topmost slot is alive, so it holds the same address on both machines
    have htop : m.registers.stack[m.registers.sp - 1]? = n.registers.stack[n.registers.sp - 1]? :=
      h.sp ▸ h.live _ (Nat.sub_one_lt hd)
    have hd' : ¬ n.registers.sp = 0 := h.sp ▸ hd
    simp only [Machine.ret, Registers.pop, hd, hd', if_false]
    exact ⟨{ h with
      pc := congrArg (·.getD 0) htop
      sp := congrArg (· - 1) h.sp
      live := fun i hi => h.live i (Nat.lt_of_lt_pred hi) }, rfl⟩

theorem Twin.call (h : m.Twin n) (a : Address) : (m.call a).Matches Twin (n.call a) := by
  by_cases hd : m.registers.sp < 16
  · have hd' : n.registers.sp < 16 := h.sp ▸ hd
    -- the slot that comes to life holds the same address on both machines
    have hlive : ∀ i, i < m.registers.sp + 1 →
        (m.registers.stack.set m.registers.sp m.registers.pc)[i]? =
          (n.registers.stack.set n.registers.sp n.registers.pc)[i]? := fun i hi => by
      rw [Vector.getElem?_set, Vector.getElem?_set, ← h.sp, ← h.pc]
      split
      · rfl
      · exact h.live i (by omega)
    have hpush : m.registers.push m.registers.pc = .ok _ := dif_pos hd
    have hpush' : n.registers.push n.registers.pc = .ok _ := dif_pos hd'
    simp only [Machine.call, hpush, hpush']
    exact ⟨{ h with pc := rfl, sp := congrArg (· + 1) h.sp, live := hlive }, rfl⟩
  · have hd' : ¬ n.registers.sp < 16 := h.sp ▸ hd
    rw [call_eq_failed_iff.mpr ⟨Nat.le_of_not_lt hd, rfl, rfl⟩,
      call_eq_failed_iff.mpr ⟨Nat.le_of_not_lt hd', rfl, rfl⟩]
    exact ⟨h, congrArg (Except.error ∘ Fault.stackFull) h.pc⟩

theorem Twin.skipIf (h : m.Twin n) {c d : Bool} (hc : c = d) : (m.skipIf c).Twin (n.skipIf d) := by
  subst hc
  cases c with
  | false => exact h
  | true => exact { h with pc := congrArg (· + 2) h.pc }

theorem Twin.put (h : m.Twin n) (x : Register) (b : UInt8) : (m.put x b).Twin (n.put x b) :=
  { h with v := congrArg (·.set x b) h.v }

theorem Twin.awaitKey (h : m.Twin n) (x : Register) : (m.awaitKey x).Twin (n.awaitKey x) := by
  have hk : n.keypad.firstPressed = m.keypad.firstPressed := by rw [h.keypad]
  simp only [Machine.awaitKey, hk]
  split
  · exact h.put x _
  · exact { h with parked := rfl }

theorem Twin.drawRandom (h : m.Twin n) (x : Register) (mask : UInt8) :
    (m.drawRandom x mask).Twin (n.drawRandom x mask) := by
  have hr : n.random.next = m.random.next := by rw [h.random]
  have hdrawn : Twin { m with random := m.random.next.2 } { n with random := m.random.next.2 } :=
    { h with random := rfl }
  simp only [Machine.drawRandom, hr]
  exact hdrawn.put x _

/-- **Twins execute an instruction alike**, and are twins afterwards. -/
theorem Twin.execute (h : m.Twin n) (ins : Instruction) :
    (m.execute ins).Matches Twin (n.execute ins) := by
  have hget : m.registers.get = n.registers.get := by
    funext x
    rw [Registers.get, Registers.get, h.v]
  cases ins
  case ret => exact h.ret
  case call a => exact h.call a
  case setSound x => exact ⟨{ h with }, rfl⟩
  case skipIfKey x => exact ⟨h.skipIf (by rw [hget, h.keypad]), rfl⟩
  case skipUnlessKey x => exact ⟨h.skipIf (by rw [hget, h.keypad]), rfl⟩
  case awaitKey x => exact ⟨h.awaitKey x, rfl⟩
  case random x mask => exact ⟨h.drawRandom x mask, rfl⟩
  all_goals
    refine matches_of_plain trivial h.eq_withAside fun m' ha => ?_
    have hsp : m'.registers.sp = m.registers.sp := congrArg Aside.sp ha
    have hst : m'.registers.stack = m.registers.stack := congrArg Aside.stack ha
    refine ⟨⟨rfl, rfl, rfl, hsp.trans h.sp, fun i hi => hst ▸ h.live i (hsp ▸ hi), rfl, rfl, rfl,
      (congrArg Aside.keypad ha).trans h.keypad, (congrArg Aside.random ha).trans h.random, rfl⟩,
      rfl⟩

/-! ### Ticks and runs -/

/-- Alike machines tick alike, and are twins afterwards. -/
theorem Alike.tick (h : m.Alike n) : m.tick.Matches Twin n.tick :=
  Lockstep.tick
    { parked := h.parked
      next := h.next
      polled := fun _ _ => congrArg Keypad.firstPressed h.keypad
      begun := h.undrawn
      executed := fun _ _ ins _ => h.begun.execute ins
      given := fun x b h => { h.put x b with parked := rfl }
      elapsed := fun h => { h with
        delay := by simp only [Registers.countDown, h.delay] } }

theorem Alike.act (h : m.Alike n) (a : Action) : (m.act a).Alike (n.act a) := by
  cases a with
  | tick => exact h.tick.machine.toAlike
  | press key => exact { h with keypad := congrArg (·.press key) h.keypad }
  | release key => exact { h with keypad := congrArg (·.release key) h.keypad }

theorem Twin.act (h : m.Twin n) (a : Action) : (m.act a).Twin (n.act a) where
  toAlike := h.toAlike.act a
  drawn := by
    cases a with
    | tick => exact h.tick.machine.drawn
    | press key | release key => exact h.drawn

/-- The line on the registers has neither the stack nor the timers. -/
theorem line_registers (r : Registers) :
    (Log.Entry.registers r).line =
      "TRACE " ++ ("v[" ++ ", ".intercalate (r.v.toList.map fun b => Hex.text 2 b.toNat) ++ "] i" ++
        Hex.text 4 r.index.toNat ++ " pc" ++ Hex.text 4 r.pc.toNat ++ " sp" ++ Hex.text 1 r.sp) :=
  rfl

theorem Alike.lines_narrate (h : m.Alike n) :
    m.narrate.map Log.Entry.line = n.narrate.map Log.Entry.line := by
  have hregisters :
      (Log.Entry.registers m.registers).line = (Log.Entry.registers n.registers).line := by
    rw [line_registers, line_registers, h.v, h.index, h.pc, h.sp]
  have heffect : m.narrateEffect = n.narrateEffect := by
    funext ins
    cases ins <;> simp only [narrateEffect, h.keypad]
  simp only [narrate, ← h.parked, ← h.next, ← h.keypad, ← h.pc, ← heffect]
  split
  · rfl
  · rw [List.map_cons, List.map_cons, hregisters]

/-- A tick of either of two machines is told with the same lines, answers the same, shows the same
frame or none, and leaves twins. -/
structure TicksAlike (m n : Machine) : Prop where
  told : m.narrate.map Log.Entry.line = n.narrate.map Log.Entry.line
  result : m.tick.result = n.tick.result
  freshFrame : m.tick.machine.freshFrame = n.tick.machine.freshFrame
  twin : m.tick.machine.Twin n.tick.machine

theorem Twin.freshFrame (h : m.Twin n) : m.freshFrame = n.freshFrame := by
  rw [Machine.freshFrame, Machine.freshFrame, h.drawn, h.frame]

theorem Alike.ticksAlike (h : m.Alike n) : m.TicksAlike n where
  told := h.lines_narrate
  result := h.tick.result
  freshFrame := h.tick.machine.freshFrame
  twin := h.tick.machine

theorem Alike.after (h : m.Alike n) (as : List Action) : (m.after as).Alike (n.after as) :=
  after_of_act Alike.act h as

theorem Twin.after (h : m.Twin n) (as : List Action) : (m.after as).Twin (n.after as) :=
  after_of_act Twin.act h as

/-- The first tick brings the draw flags together. -/
theorem Alike.twin_after (h : m.Alike n) {as : List Action} (ht : .tick ∈ as) :
    (m.after as).Twin (n.after as) := by
  obtain ⟨bs, cs, rfl⟩ := List.append_of_mem ht
  rw [after_append, after_append]
  exact (h.after bs).tick.machine.after cs

/-- **Stale slots, the sound timer and the draw flag are never observed.**  Whatever happens to two
machines that are alike, they tick alike, they stay alike, and from the first tick on they agree on
the draw flag too. -/
theorem ticksAlike_after (h : m.Alike n) (as : List Action) :
    (m.after as).TicksAlike (n.after as) ∧ (m.after as).Alike (n.after as) ∧
      (.tick ∈ as → (m.after as).Twin (n.after as)) :=
  ⟨(h.after as).ticksAlike, h.after as, h.twin_after⟩

/-- The theorem at a program that calls and returns, on machines that have nothing in common on the
stack. -/
theorem ticksAlike_after_callRet :
    ∃ m n : Machine, load [0x22, 0x02, 0x00, 0xEE] (.cycle #[]) = .ok m ∧
      (∀ i : Fin 16, m.registers.stack[i.val] ≠ n.registers.stack[i.val]) ∧
      m.registers.sound ≠ n.registers.sound ∧ m.drawn ≠ n.drawn ∧
      (m.after [.tick, .tick]).Twin (n.after [.tick, .tick]) := by
  obtain ⟨m, hl, hsp, hst, hsound, hdrawn⟩ :
      ∃ m, load [0x22, 0x02, 0x00, 0xEE] (.cycle #[]) = .ok m ∧ m.registers.sp = 0 ∧
        m.registers.stack = .replicate 16 0 ∧ m.registers.sound = 0 ∧ m.drawn = false :=
    ⟨_, load_of_fits (by decide) _, rfl, rfl, rfl, rfl⟩
  have halike : m.Alike { m with
      registers := { m.registers with stack := .replicate 16 0xFFF, sound := 7 }, drawn := true } :=
    ⟨rfl, rfl, rfl, rfl, fun i hi => absurd (hsp ▸ hi) (Nat.not_lt_zero i), rfl, rfl, rfl, rfl, rfl,
      rfl⟩
  refine ⟨m, _, hl, fun i => ?_, ?_, ?_, (ticksAlike_after halike _).2.2 (by decide)⟩
  · simp [hst]
  · simp [hsound]
  · simp [hdrawn]

end ChipEight.Machine
