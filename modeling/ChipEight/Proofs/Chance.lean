import ChipEight.Proofs.Footprint

/-!
# Proofs — Chance

Which random bytes a history uses.  A tick that executes a random instruction takes the next byte of
its source, whatever it masks and wherever it puts the bits, and no other tick takes any.  So the
random instructions of a history use the bytes of the source one after the other, and a history
comes out the same again when its source does.

* `Machine.drawsByte`: a tick executes a random instruction.
* `Machine.draws`: how many ticks among some actions do.
* `Machine.random_after_load`: random instruction number `k` of a history uses byte number `k`.
-/

namespace ChipEight.Machine

/-- A tick of a machine succeeds and executes a random instruction. -/
def drawsByte (m : Machine) : Bool :=
  match m.tick.result with
  | .ok (.executed (.random _ _)) => true
  | _ => false

/-- How many ticks among some actions execute a random instruction. -/
def draws (m : Machine) (as : List Action) : Nat := (m.beforeTicks as).countP drawsByte

variable {m : Machine} {x : Register} {mask : UInt8}

theorem drawsByte_iff :
    m.drawsByte = true ↔ ∃ x mask, m.tick.result = .ok (.executed (.random x mask)) := by
  rw [drawsByte]
  split
  next x mask h => exact iff_of_true rfl ⟨x, mask, h⟩
  next h => exact iff_of_false nofun fun ⟨x, mask, h'⟩ => h x mask h'

/-! ### One tick -/

/-- A tick that executes a random instruction takes the next byte, and puts its masked bits into the
register that the instruction names. -/
theorem tick_random (h : m.tick.result = .ok (.executed (.random x mask))) :
    m.tick.machine.random = m.random.next.2 ∧
      m.tick.machine.registers.get x = m.random.next.1 &&& mask := by
  obtain ⟨-, -, n, he, ht⟩ := executed_of_result h
  obtain rfl := Outcome.done_inj.mp he
  rw [ht]
  exact ⟨rfl, (Registers.get_put ..).trans (if_pos rfl)⟩

/-- Any other tick leaves the source alone. -/
theorem random_tick_of_not_drawsByte (h : ¬ m.drawsByte = true) :
    m.tick.machine.random = m.random := by
  generalize ho : m.tick = o
  cases tick_eq_iff.mp ho with
  | waited | resumed | stuck => rfl
  | failed _ _ he => cases execute_eq_failed_iff.mp he <;> rfl
  | @executed ins =>
      have hr : m.tick.result = .ok (.executed ins) := congrArg Outcome.result ho
      rw [← ho]
      refine random_tick hr fun hm => ?_
      obtain ⟨x, mask, rfl⟩ := Instruction.mnemonic_eq_random_iff.mp hm
      exact h (drawsByte_iff.mpr ⟨x, mask, hr⟩)

theorem random_tick_eq (m : Machine) :
    m.tick.machine.random =
      { m.random with drawn := m.random.drawn + if m.drawsByte then 1 else 0 } := by
  split
  next h =>
    obtain ⟨x, mask, hr⟩ := drawsByte_iff.mp h
    exact (tick_random hr).1
  next h => exact random_tick_of_not_drawsByte h

/-! ### Runs -/

theorem draws_tick_cons (m : Machine) (as : List Action) :
    m.draws (.tick :: as) = (if m.drawsByte then 1 else 0) + m.tick.machine.draws as :=
  List.countP_cons.trans (Nat.add_comm ..)

/-- A source has gone on by one byte for each random instruction. -/
theorem random_after (m : Machine) (as : List Action) :
    (m.after as).random = { m.random with drawn := m.random.drawn + m.draws as } := by
  induction as generalizing m with
  | nil => rfl
  | cons a as ih =>
      cases a with
      | tick => rw [after_cons, ih, act, random_tick_eq, draws_tick_cons, ← Nat.add_assoc]
      | press key | release key => exact ih _

/-- **Random bytes are used in order, one for each random instruction.**  Load a program that fits.
Whatever ticks and keys follow, the source has gone on by as many bytes as random instructions were
executed; and a random instruction that comes after `k` others puts byte number `k`, masked, into
its register. -/
theorem random_after_load (program : List UInt8) (random : ByteStream)
    (hfit : program.length ≤ 3584) :
    ∃ m, load program random = .ok m ∧ ∀ as : List Action,
      (m.after as).random = { random with drawn := random.drawn + m.draws as } ∧
      ∀ x mask, (m.after as).tick.result = .ok (.executed (.random x mask)) →
        (m.after as).tick.machine.registers.get x =
          random.byte (random.drawn + m.draws as) &&& mask := by
  obtain ⟨m, hl, rfl⟩ : ∃ m, load program random = .ok m ∧ m.random = random :=
    ⟨_, load_of_fits hfit random, rfl⟩
  refine ⟨m, hl, fun as => ⟨m.random_after as, fun x mask h => ?_⟩⟩
  rw [(tick_random h).2, random_after]
  rfl

/-- The theorem at a program with two random instructions.  The first one masks its whole byte away,
and the second one, which is about the flag register, still uses the byte after it. -/
theorem random_after_load_flag :
    ∃ m, load [0xC0, 0x00, 0xCF, 0x3C] (.cycle #[0x12, 0x9A]) = .ok m ∧
      (m.after [.tick, .press 3]).tick.result = .ok (.executed (.random 15 0x3C)) ∧
      (m.after [.tick, .press 3]).tick.machine.registers.get 15 = 0x18 ∧
      (m.after [.tick, .press 3]).random.drawn = 1 := by
  have hfit : ([0xC0, 0x00, 0xCF, 0x3C] : List UInt8).length ≤ 3584 := by decide
  obtain ⟨m, hl, hrandom⟩ := random_after_load _ (.cycle #[0x12, 0x9A]) hfit
  obtain ⟨hp, hr, -, hw⟩ := fresh_of_load hfit hl
  -- the first tick uses a byte for nothing
  have hd : Instruction.decode m.word = some (.random 0 0) := by
    rw [word, hr]
    exact (congrArg Instruction.decode (hw 0 (by decide))).trans (by decide)
  have ht : m.tick = _ := tick_eq_executed hp (by rw [hr]; decide) hd rfl
  have hdraws : m.draws [.tick, .press 3] = 1 := by
    rw [draws_tick_cons, if_pos (drawsByte_iff.mpr ⟨0, 0, congrArg Outcome.result ht⟩)]
    rfl
  obtain ⟨hp, hpc, hm⟩ : (m.after [.tick, .press 3]).parked = none ∧
      (m.after [.tick, .press 3]).registers.pc.toNat = 0x202 ∧
      (m.after [.tick, .press 3]).memory = m.memory := by
    rw [after_cons, act, ht]
    exact ⟨hp, by simp only [drawRandom, begun, hr]; rfl, rfl⟩
  -- and the second one uses the byte after it
  have hd' : Instruction.decode (m.after [.tick, .press 3]).word = some (.random 15 0x3C) := by
    rw [word, hpc, hm]
    exact (congrArg Instruction.decode (hw 2 (by decide))).trans (by decide)
  have hresult : (m.after [.tick, .press 3]).tick.result = .ok (.executed (.random 15 0x3C)) := by
    rw [tick_eq_executed hp (by rw [hpc]; decide) hd' rfl]
  obtain ⟨hsource, hbyte⟩ := hrandom [.tick, .press 3]
  refine ⟨m, hl, hresult, ?_, ?_⟩
  · rw [hbyte 15 0x3C hresult, hdraws]
    decide
  · rw [hsource, hdraws]
    rfl

end ChipEight.Machine
