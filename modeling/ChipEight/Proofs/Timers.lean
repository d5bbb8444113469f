import ChipEight.Proofs.Footprint

/-!
# Proofs — Timers

What the timers stand at after a history.  A tick that succeeds counts both of them down, the tick
that loads one included; a tick that fails and a key that goes down or up leave them as they are.
So a timer stands at the value it was last loaded with less the ticks that have succeeded since, or
at zero when that many are too many.

* `Machine.Loads`: a tick loads a timer from a register.
* `Machine.successes`: how many ticks among some actions succeed.
* `Machine.LastLoads`: the value that a timer was last loaded with, and how many ticks have
  succeeded since.
* `Machine.timer_after_load`: a timer of a loaded machine stands at their difference.
-/

namespace ChipEight

/-- The instruction that loads a timer from a register. -/
def Timer.load : Timer → Register → Instruction
  | delay, x => .setDelay x
  | sound, x => .setSound x

/-- What has a timer as the operand in front loads it. -/
theorem Timer.exists_load_of_head? {t : Timer} {ins : Instruction}
    (h : ins.operands.head? = some t.operand) : ∃ x, ins = t.load x := by
  cases t <;> cases ins <;> simp_all [Instruction.operands, operand, load]

namespace Machine

/-- A tick of a machine succeeds and loads a timer from a register. -/
def Loads (m : Machine) (t : Timer) (x : Register) : Prop :=
  m.tick.result = .ok (.executed (t.load x))

/-- How many ticks among some actions succeed. -/
def successes (m : Machine) (as : List Action) : Nat :=
  (m.beforeTicks as).countP (·.tick.result.isOk)

/-- The value that a timer was last loaded with among some actions, and how many ticks have
succeeded since, the one that loaded it included. -/
inductive LastLoads (m : Machine) (t : Timer) : List Action → Nat → Nat → Prop where
  | loaded {bs cs : List Action} {x : Register} (h : (m.after bs).Loads t x)
      (hcs : (m.after bs).tick.machine.AtTicks cs fun n => ¬ ∃ y, n.Loads t y) :
      LastLoads m t (bs ++ .tick :: cs) ((m.after bs).registers.get x).toNat
        ((m.after bs).successes (.tick :: cs))
  /-- A timer that was never loaded counts from zero, and all ticks that have succeeded. -/
  | never {as : List Action} (h : m.AtTicks as fun n => ¬ ∃ x, n.Loads t x) :
      LastLoads m t as 0 (m.successes as)

variable {m : Machine} {t : Timer} {x : Register} {as : List Action}

/-! ### One tick -/

theorem toNat_timer_tick_of_loads (h : m.Loads t x) :
    (m.tick.machine.registers.timer t).toNat = (m.registers.get x).toNat - 1 := by
  obtain ⟨-, -, n, he, ht⟩ := executed_of_result h
  have hn : n.registers.timer t = m.registers.get x := by
    cases t <;> (obtain rfl := Outcome.done_inj.mp he; rfl)
  rw [ht, toNat_timer_countDown, hn]

/-- A tick that does not load a timer counts it down if it succeeds. -/
theorem toNat_timer_tick_of_not_loads (h : ¬ ∃ x, m.Loads t x) :
    (m.tick.machine.registers.timer t).toNat =
      (m.registers.timer t).toNat - if m.tick.result.isOk then 1 else 0 := by
  generalize ho : m.tick = o
  cases tick_eq_iff.mp ho with
  | waited => exact toNat_timer_countDown m.registers t
  | @resumed y key =>
      refine (toNat_timer_countDown (m.registers.put y _) t).trans ?_
      cases t <;> rfl
  | stuck => rfl
  | failed _ _ he => cases execute_eq_failed_iff.mp he <;> cases t <;> rfl
  | @executed ins =>
      have hr : m.tick.result = .ok (.executed ins) := congrArg Outcome.result ho
      rw [← ho]
      refine (toNat_timer_tick hr fun hm => ?_).trans (by rw [hr]; rfl)
      obtain ⟨y, rfl⟩ := Timer.exists_load_of_head? hm
      exact h ⟨y, hr⟩

/-! ### Runs -/

theorem successes_tick_cons (m : Machine) (as : List Action) :
    m.successes (.tick :: as) =
      (if m.tick.result.isOk then 1 else 0) + m.tick.machine.successes as :=
  List.countP_cons.trans (Nat.add_comm ..)

/-- A timer that is not loaded runs down as ticks succeed. -/
theorem toNat_timer_after (h : m.AtTicks as fun n => ¬ ∃ x, n.Loads t x) :
    ((m.after as).registers.timer t).toNat = (m.registers.timer t).toNat - m.successes as := by
  induction as generalizing m with
  | nil => rfl
  | cons a as ih =>
      obtain ⟨ha, has⟩ := atTicks_cons.mp h
      cases a with
      | tick =>
          rw [after_cons, ih has, act, toNat_timer_tick_of_not_loads (ha rfl), Nat.sub_sub,
            successes_tick_cons]
      | press key | release key => exact ih has

/-- A timer stands at the value it was last loaded with less the ticks that have succeeded. -/
theorem LastLoads.toNat_timer {v k : Nat} (h : m.LastLoads t as v k)
    (hzero : m.registers.timer t = 0) : ((m.after as).registers.timer t).toNat = v - k := by
  cases h with
  | @loaded bs cs x hb hcs =>
      have hok : (m.after bs).tick.result.isOk = true := by rw [hb]; rfl
      rw [after_append, after_cons, act, toNat_timer_after hcs, toNat_timer_tick_of_loads hb,
        Nat.sub_sub, successes_tick_cons, if_pos hok]
  | never h =>
      rw [toNat_timer_after h, hzero]
      rfl

theorem exists_lastLoads (m : Machine) (t : Timer) (as : List Action) :
    ∃ v k, m.LastLoads t as v k := by
  rcases m.atTicks_not_or_last as (fun n => ∃ x, n.Loads t x) with
    hn | ⟨bs, cs, rfl, ⟨x, hx⟩, hcs⟩
  · exact ⟨_, _, .never hn⟩
  · exact ⟨_, _, .loaded hx hcs⟩

/-- **A timer counts the ticks that succeed.**  Load a program that fits.  Whatever ticks and keys
follow, each timer stands at the value it was last loaded with less the ticks that have succeeded
since, and at zero when there are more of them.  What happens to the other timer plays no part. -/
theorem timer_after_load (program : List UInt8) (random : ByteStream)
    (hfit : program.length ≤ 3584) :
    ∃ m, load program random = .ok m ∧ ∀ (as : List Action) (t : Timer),
      (∃ v k, m.LastLoads t as v k) ∧
      ∀ v k, m.LastLoads t as v k → ((m.after as).registers.timer t).toNat = v - k := by
  obtain ⟨m, hl, hzero⟩ : ∃ m, load program random = .ok m ∧
      ∀ t, m.registers.timer t = 0 :=
    ⟨_, load_of_fits hfit random, fun t => by cases t <;> rfl⟩
  exact ⟨m, hl, fun as t => ⟨m.exists_lastLoads t as, fun v k h => h.toNat_timer (hzero t)⟩⟩

/-- The theorem at a program that loads the delay timer with five: the tick that loads it counts,
and the key after it does not. -/
theorem timer_after_load_five :
    ∃ m, load [0x60, 0x05, 0xF0, 0x15] (.cycle #[]) = .ok m ∧
      (m.after [.tick]).tick.result = .ok (.executed (.setDelay 0)) ∧
      (m.after [.tick, .tick, .press 3]).registers.delay = 4 := by
  have hfit : ([0x60, 0x05, 0xF0, 0x15] : List UInt8).length ≤ 3584 := by decide
  obtain ⟨m, hl, htimer⟩ := timer_after_load _ (.cycle #[]) hfit
  obtain ⟨hp, hr, -, hw⟩ := fresh_of_load hfit hl
  -- the first tick puts five into a register
  have hd : Instruction.decode m.word = some (.loadByte 0 5) := by
    rw [word, hr]
    exact (congrArg Instruction.decode (hw 0 (by decide))).trans (by decide)
  obtain ⟨n, hn, hp, hr, hm⟩ : ∃ n, m.after [.tick] = n ∧ n.parked = none ∧
      n.registers = (Registers.startingAt 0x202).put 0 5 ∧ n.memory = m.memory := by
    rw [after_cons, act, after_nil, tick_eq_executed hp (by rw [hr]; decide) hd rfl]
    exact ⟨_, rfl, hp, by simp only [put, begun, hr]; rfl, rfl⟩
  -- and the second one loads the timer with it
  have hd' : Instruction.decode n.word = some (.setDelay 0) := by
    rw [word, hr, hm]
    exact (congrArg Instruction.decode (hw 2 (by decide))).trans (by decide)
  have hloads : n.Loads .delay 0 := by
    rw [Loads, tick_eq_executed hp (by rw [hr]; decide) hd' rfl]
    rfl
  have hlast : m.LastLoads .delay ([.tick] ++ [.tick, .press 3]) (n.registers.get 0).toNat
      (n.successes [.tick, .press 3]) :=
    hn ▸ .loaded (hn.symm ▸ hloads) (atTicks_cons.mpr ⟨by simp, atTicks_nil⟩)
  have hv : (n.registers.get 0).toNat = 5 := by rw [hr]; rfl
  have hcount : n.successes [.tick, .press 3] = 1 := by
    rw [successes_tick_cons, hloads]
    rfl
  have hdelay := (htimer _ .delay).2 _ _ hlast
  rw [hv, hcount] at hdelay
  exact ⟨m, hl, hn ▸ hloads, UInt8.toNat_inj.mp hdelay⟩

end Machine

end ChipEight
