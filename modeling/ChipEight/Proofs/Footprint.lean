import ChipEight.Instruction.Assembly
import ChipEight.Proofs.CallStack
import ChipEight.Proofs.KeyWait
import ChipEight.Proofs.Screen
import ChipEight.Proofs.Soundness
import ChipEight.Proofs.Writes

/-!
# Proofs — Footprint

What a tick that executes an instruction can change.  The written form of an instruction tells: the
mnemonic says what is done, and the operand in front where the result goes.  Everything else in the
machine stays as it was, but for the program counter, which goes on, and the timers, which count
down.

* `Instruction.Sets`, `Instruction.Points`, `Machine.Overwrites`: the registers, the index and the
  bytes that the written form names as changed.
* `Machine.Untouched`: what executing an instruction leaves alone (`Machine.untouched_execute`).
* `Machine.Footprint`: what a tick that executes an instruction leaves, part by part.
* `Machine.footprint_tick`: every tick that executes an instruction keeps to its footprint.
-/

namespace ChipEight

open Arithmetic

/-! ### What an instruction names -/

/-- One of the two timers. -/
inductive Timer where
  | delay
  | sound
  deriving DecidableEq, Repr

/-- The timer as an operand. -/
def Timer.operand : Timer → Operand
  | delay => .delay
  | sound => .sound

/-- What a timer stands at. -/
def Registers.timer (r : Registers) : Timer → UInt8
  | .delay => r.delay
  | .sound => r.sound

namespace Instruction

/-- An instruction names a register as one that it may change. -/
inductive Sets (ins : Instruction) : Register → Prop where
  /-- The result goes into the operand in front. -/
  | result {x : Register}
      (hm : ins.mnemonic ∈ ["LD", "ADD", "OR", "AND", "XOR", "SUB", "SUBN", "SHR", "SHL", "RND"])
      (ho : ins.operands.head? = some (.register x)) : Sets ins x
  /-- The flag register tells of a borrow, of the bit that a shift drops, and of a collision. -/
  | flag (hm : ins.mnemonic ∈ ["SUB", "SUBN", "SHR", "SHL", "DRW"]) : Sets ins Registers.flag
  /-- It tells of the carry when two registers are added. -/
  | carry {x y : Register} (hm : ins.mnemonic = "ADD")
      (ho : ins.operands = [.register x, .register y]) : Sets ins Registers.flag
  /-- A block goes into the registers up to the operand in front. -/
  | block {x y : Register} (ho : ins.operands = [.register x, .block]) (hy : y ≤ x) : Sets ins y

/-- An instruction names the index, or the glyph to point it at, as what it changes. -/
def Points (ins : Instruction) : Prop :=
  ins.operands.head? = some .index ∨ ins.operands.head? = some .glyph

/-- An instruction goes somewhere else, wherever it stands. -/
def Jumps (ins : Instruction) : Prop := ins.mnemonic ∈ ["JP", "CALL", "RET"]

/-- An instruction may skip the one behind it. -/
def Skips (ins : Instruction) : Prop := ins.mnemonic ∈ ["SE", "SNE", "SKP", "SKNP"]

theorem Skips.not_jumps {ins : Instruction} (h : ins.Skips) : ¬ ins.Jumps := by
  cases ins <;> simp [Skips, Jumps, mnemonic] at h ⊢

theorem mnemonic_eq_call_iff {ins : Instruction} :
    ins.mnemonic = "CALL" ↔ ∃ a, ins = .call a := by
  cases ins <;> simp [mnemonic]

theorem mnemonic_eq_random_iff {ins : Instruction} :
    ins.mnemonic = "RND" ↔ ∃ x mask, ins = .random x mask := by
  cases ins <;> simp [mnemonic]

end Instruction

namespace Machine

variable {m m' : Machine} {ins : Instruction} {x y : Register}

/-- An instruction names a position in memory as one that it may change. -/
inductive Overwrites (m : Machine) (ins : Instruction) (a : Nat) : Prop where
  /-- The three decimal digits of a register. -/
  | decimal (ho : ins.operands.head? = some .decimal) (hle : m.registers.index.toNat ≤ a)
      (hlt : a < m.registers.index.toNat + 3) : Overwrites m ins a
  /-- The registers up to `x`, that one included. -/
  | block {x : Register} (ho : ins.operands = [.block, .register x])
      (hle : m.registers.index.toNat ≤ a) (hle' : a ≤ m.registers.index.toNat + x.val) :
      Overwrites m ins a

/-- The address that an instruction goes to, wherever it stands. -/
def destination (m : Machine) : Instruction → Option Nat
  | .jump a | .call a => some a.val
  | .jumpOffset a => some (a.val + (m.registers.get 0).toNat)
  | .ret => some (m.registers.stack[m.registers.sp - 1]?.getD 0).toNat
  | _ => none

/-! ### What an instruction leaves alone -/

/-- What executing an instruction leaves alone, apart from memory, frame and stack. -/
structure Untouched (m : Machine) (ins : Instruction) (m' : Machine) : Prop where
  get : ∀ y, ¬ ins.Sets y → m'.registers.get y = m.registers.get y
  index : ¬ ins.Points → m'.registers.index = m.registers.index
  timer : ∀ t : Timer, ins.operands.head? ≠ some t.operand →
    m'.registers.timer t = m.registers.timer t
  pc : ¬ ins.Jumps →
    m'.registers.pc = m.registers.pc ∨ ins.Skips ∧ m'.registers.pc = m.registers.pc + 2
  keypad : m'.keypad = m.keypad
  random : ins.mnemonic ≠ "RND" → m'.random = m.random
  parked : m'.parked = m.parked ∨ ∃ x, ins.operands = [.register x, .key] ∧ m'.parked = some x

/-- Only registers that the instruction names have changed, whatever is in memory and in the
frame. -/
theorem untouched_of_get {v : Vector UInt8 16} {memory : Memory} {frame : Frame} {drawn : Bool}
    (h : ∀ y, ¬ ins.Sets y → v.get y = m.registers.get y) :
    m.Untouched ins
      { m with
        registers := { m.registers with v := v }
        memory := memory
        frame := frame
        drawn := drawn } :=
  ⟨h, fun _ => rfl, fun t _ => by cases t <;> rfl, fun _ => .inl rfl, rfl, fun _ => rfl, .inl rfl⟩

theorem get_put_of_not_sets {r : Registers} {b : UInt8} (hx : ins.Sets x) (hy : ¬ ins.Sets y) :
    (r.put x b).get y = r.get y := by
  have hne : x ≠ y := fun h => hy (h ▸ hx)
  rw [Registers.get_put, if_neg hne]

theorem untouched_put {b : UInt8} (hx : ins.Sets x) : m.Untouched ins (m.put x b) :=
  untouched_of_get fun _ hy => get_put_of_not_sets hx hy

theorem untouched_putFlagged {f : Flagged} (hx : ins.Sets x) (hf : ins.Sets Registers.flag) :
    m.Untouched ins (m.putFlagged x f) :=
  untouched_of_get fun _ hy =>
    (get_put_of_not_sets hf hy).trans (get_put_of_not_sets hx hy)

theorem untouched_drawSprite {height : Fin 16} (hf : ins.Sets Registers.flag)
    (h : m.drawSprite x y height = .done m') : m.Untouched ins m' := by
  simp only [drawSprite] at h
  split at h
  · obtain rfl := Outcome.done_inj.mp h
    exact untouched_of_get fun _ hy =>
      (get_put_of_not_sets hf hy).trans (get_put_of_not_sets hf hy)
  · exact absurd h Outcome.failed_ne_done

theorem untouched_readBlock (hx : ∀ y ≤ x, ins.Sets y) (h : m.readBlock x = .done m') :
    m.Untouched ins m' := by
  unfold readBlock at h
  split at h
  case h_1 bytes hread =>
    obtain rfl := Outcome.done_inj.mp h
    refine untouched_of_get fun y hy => ?_
    have hlt : x < y := Fin.not_le.mp fun hle => hy (hx y hle)
    have hnone : bytes[y.val]? = none := by
      rw [List.getElem?_eq_none_iff, Memory.length_read hread]
      exact hlt
    exact (Vector.getElem_ofFn y.isLt).trans (by rw [hnone, Option.getD_none])
  case h_2 => exact absurd h Outcome.failed_ne_done

theorem untouched_writeBlock {bytes : List UInt8} (h : m.writeBlock bytes = .done m') :
    m.Untouched ins m' := by
  obtain ⟨-, rfl⟩ := writeBlock_eq_done_iff.mp h
  exact untouched_of_get fun _ _ => rfl

theorem untouched_pointTo {a : UInt16} (h : ins.Points) : m.Untouched ins (m.pointTo a) :=
  ⟨fun _ _ => rfl, fun hn => absurd h hn, fun t _ => by cases t <;> rfl, fun _ => .inl rfl, rfl,
    fun _ => rfl, .inl rfl⟩

theorem untouched_of_jumps {pc : UInt16} {sp : Nat} {stack : Vector UInt16 16} (h : ins.Jumps) :
    m.Untouched ins
      { m with registers := { m.registers with pc := pc, sp := sp, stack := stack } } :=
  ⟨fun _ _ => rfl, fun _ => rfl, fun t _ => by cases t <;> rfl, fun hn => absurd h hn, rfl,
    fun _ => rfl, .inl rfl⟩

theorem untouched_ret (hj : ins.Jumps) (h : m.ret = .done m') : m.Untouched ins m' := by
  by_cases hs : m.registers.sp = 0
  · simp [ret, Registers.pop, hs] at h
  · simp only [ret, Registers.pop, hs, if_false, Outcome.done_inj] at h
    subst h
    exact untouched_of_jumps hj

theorem untouched_call {a : Address} (hj : ins.Jumps) (h : m.call a = .done m') :
    m.Untouched ins m' := by
  by_cases hs : m.registers.sp < 16
  · have hp : m.registers.push m.registers.pc = .ok _ := dif_pos hs
    simp only [call, hp, Outcome.done_inj] at h
    subst h
    exact untouched_of_jumps hj
  · have hp : m.registers.push m.registers.pc = .error _ := dif_neg hs
    simp only [call, hp, Outcome.failed_ne_done] at h

theorem untouched_skipIf {c : Bool} (h : ins.Skips) : m.Untouched ins (m.skipIf c) := by
  cases c with
  | false => exact untouched_of_get fun _ _ => rfl
  | true =>
      exact ⟨fun _ _ => rfl, fun _ => rfl, fun t _ => by cases t <;> rfl, fun _ => .inr ⟨h, rfl⟩,
        rfl, fun _ => rfl, .inl rfl⟩

theorem untouched_drawRandom {mask : UInt8} :
    m.Untouched (.random x mask) (m.drawRandom x mask) :=
  have hx : (Instruction.random x mask).Sets x := .result (by simp [Instruction.mnemonic]) rfl
  ⟨fun _ hy => get_put_of_not_sets hx hy, fun _ => rfl, fun t _ => by cases t <;> rfl,
    fun _ => .inl rfl, rfl, fun hn => absurd rfl hn, .inl rfl⟩

theorem untouched_awaitKey : m.Untouched (.awaitKey x) (m.awaitKey x) := by
  unfold awaitKey
  split
  · exact untouched_put (.result (by simp [Instruction.mnemonic]) rfl)
  · exact ⟨fun _ _ => rfl, fun _ => rfl, fun t _ => by cases t <;> rfl, fun _ => .inl rfl, rfl,
      fun _ => rfl, .inr ⟨x, rfl, rfl⟩⟩

/-- **An instruction leaves alone what it does not name.** -/
theorem untouched_execute (h : m.execute ins = .done m') : m.Untouched ins m' := by
  cases ins
  case ret => exact untouched_ret (by simp [Instruction.Jumps, Instruction.mnemonic]) h
  case call => exact untouched_call (by simp [Instruction.Jumps, Instruction.mnemonic]) h
  case draw => exact untouched_drawSprite (.flag (by simp [Instruction.mnemonic])) h
  case decimal | store => exact untouched_writeBlock h
  case load => exact untouched_readBlock (fun _ hy => .block rfl hy) h
  -- the others cannot fail
  all_goals obtain rfl := Outcome.done_inj.mp h
  case sys | cls => exact untouched_of_get fun _ _ => rfl
  case jump | jumpOffset =>
    exact untouched_of_jumps (by simp [Instruction.Jumps, Instruction.mnemonic])
  case skipIfByte | skipUnlessByte | skipIfEqual | skipUnlessEqual | skipIfKey | skipUnlessKey =>
    exact untouched_skipIf (by simp [Instruction.Skips, Instruction.mnemonic])
  case loadByte | addByte | copy | or | and | xor | readDelay =>
    exact untouched_put (.result (by simp [Instruction.mnemonic]) rfl)
  case add =>
    exact untouched_putFlagged (.result (by simp [Instruction.mnemonic]) rfl) (.carry rfl rfl)
  case sub | subn | shr | shl =>
    exact untouched_putFlagged (.result (by simp [Instruction.mnemonic]) rfl)
      (.flag (by simp [Instruction.mnemonic]))
  case loadIndex | addIndex => exact untouched_pointTo (.inl rfl)
  case glyph => exact untouched_pointTo (.inr rfl)
  case random => exact untouched_drawRandom
  case awaitKey => exact untouched_awaitKey
  case setDelay | setSound =>
    refine ⟨fun _ _ => rfl, fun _ => rfl, fun t ht => ?_, fun _ => .inl rfl, rfl, fun _ => rfl,
      .inl rfl⟩
    cases t <;> first | rfl | exact absurd rfl ht

/-! ### The footprint of a tick -/

/-- What a tick that executes an instruction leaves of a machine. -/
structure Footprint (m : Machine) (ins : Instruction) (m' : Machine) : Prop where
  get : ∀ y, ¬ ins.Sets y → m'.registers.get y = m.registers.get y
  index : ¬ ins.Points → m'.registers.index = m.registers.index
  byteAt : ∀ a, ¬ m.Overwrites ins a → m'.memory.byteAt a = m.memory.byteAt a
  frame : ins.mnemonic ∉ ["CLS", "DRW"] → m'.frame = m.frame
  sp : ins.mnemonic ∉ ["CALL", "RET"] → m'.registers.sp = m.registers.sp
  /-- A call writes the first free slot of the stack, and nothing else writes there. -/
  slot : ∀ i, (ins.mnemonic = "CALL" → i ≠ m.registers.sp) →
    m'.registers.stack[i]? = m.registers.stack[i]?
  saved : ins.mnemonic = "CALL" →
    m'.registers.stack[m.registers.sp]? = some (m.registers.pc + 2)
  random : ins.mnemonic ≠ "RND" → m'.random = m.random
  parked : ∀ x, m'.parked = some x → ins.operands = [.register x, .key]
  keypad : m'.keypad = m.keypad
  timer : ∀ t : Timer, ins.operands.head? ≠ some t.operand →
    (m'.registers.timer t).toNat = (m.registers.timer t).toNat - 1
  goesOn : ¬ ins.Jumps → ¬ ins.Skips → m'.registers.pc.toNat = m.registers.pc.toNat + 2
  skips : ins.Skips → m'.registers.pc.toNat = m.registers.pc.toNat + 2 ∨
    m'.registers.pc.toNat = m.registers.pc.toNat + 4
  jumps : ins.Jumps → m.destination ins = some m'.registers.pc.toNat

theorem toNat_timer_countDown (r : Registers) (t : Timer) :
    (r.countDown.timer t).toNat = (r.timer t).toNat - 1 := by
  rw [Registers.countDown_eq_elapse]
  cases t <;> exact UInt8.toNat_ofNat_of_lt' (Nat.lt_of_le_of_lt (Nat.sub_le ..) (UInt8.toNat_lt _))

/-- An instruction that succeeds and jumps is where it goes to. -/
theorem destination_of_execute (hj : ins.Jumps) (h : m.execute ins = .done m') :
    m.destination ins = some m'.registers.pc.toNat := by
  cases ins
  case jump a =>
    obtain rfl := Outcome.done_inj.mp h
    exact congrArg some (UInt16.toNat_ofNat_of_lt' (Nat.lt_trans a.isLt (by decide))).symm
  case jumpOffset a =>
    obtain rfl := Outcome.done_inj.mp h
    have hv := (m.registers.get 0).toNat_lt
    have ha := a.isLt
    have hlt : a.val + (m.registers.get 0).toNat < UInt16.size := by
      show _ < 65536
      omega
    exact congrArg some (UInt16.toNat_ofNat_of_lt' hlt).symm
  case call a =>
    cases flow_call h with
    | called _ hpc =>
        rw [hpc, UInt16.toNat_ofNat_of_lt' (Nat.lt_trans a.isLt (by decide))]
        rfl
    | onward _ hc => exact absurd rfl (hc a)
  case ret =>
    cases flow_ret h with
    | returned _ hpc =>
        rw [hpc]
        rfl
    | onward hr => exact absurd rfl hr
  all_goals simp [Instruction.Jumps, Instruction.mnemonic] at hj

/-- On the stack a call writes the first free slot, and nothing else writes anything. -/
theorem stack_tick (h : m.tick.result = .ok (.executed ins)) :
    (ins.mnemonic ∉ ["CALL", "RET"] → m.tick.machine.registers.sp = m.registers.sp) ∧
    (∀ i, (ins.mnemonic = "CALL" → i ≠ m.registers.sp) →
      m.tick.machine.registers.stack[i]? = m.registers.stack[i]?) ∧
    (ins.mnemonic = "CALL" →
      m.tick.machine.registers.stack[m.registers.sp]? = some (m.registers.pc + 2)) := by
  cases m.moves_tick with
  | kept hc hsp hst =>
      refine ⟨fun _ => hsp, fun i _ => ?_, fun hm => ?_⟩
      · exact congrArg (fun st : Vector UInt16 16 => st[i]?) hst
      · -- the stack pointer would have moved at a call
        obtain ⟨a, rfl⟩ := Instruction.mnemonic_eq_call_iff.mp hm
        rw [climb_of_result h] at hc
        cases hc
  | @called a hr hd _ hst =>
      obtain rfl : ins = .call a := by simpa [h] using hr
      refine ⟨fun hm => absurd hm (by simp [Instruction.mnemonic]), fun i hi => ?_, fun _ => ?_⟩
      · rw [hst, Vector.getElem?_set_ne hd (hi rfl).symm]
      · rw [hst, Vector.getElem?_set_self]
  | returned hr _ _ hst =>
      obtain rfl : ins = .ret := by simpa [h] using hr
      refine ⟨fun hm => absurd hm (by simp [Instruction.mnemonic]), fun i _ => ?_, fun hm => ?_⟩
      · rw [hst]
      · exact absurd hm (by simp [Instruction.mnemonic])

/-- What is stored lies where the instruction names the bytes. -/
theorem overwrites_of_stores {a : Nat} {b : UInt8} (h : m.tick.result = .ok (.executed ins))
    (hs : m.Stores a b) : m.Overwrites ins a := by
  cases hs with
  | @digit x _ k hr ha =>
      obtain rfl : ins = .decimal x := by simpa [h] using hr
      exact .decimal rfl (by omega) (by omega)
  | @register x y hy hr ha =>
      obtain rfl : ins = .store x := by simpa [h] using hr
      have hle : y.val ≤ x.val := hy
      exact .block rfl (by omega) (by omega)

theorem frame_tick (h : m.tick.result = .ok (.executed ins)) (hm : ins.mnemonic ∉ ["CLS", "DRW"]) :
    m.tick.machine.frame = m.frame := by
  rcases m.tick_draws_or_keeps with ⟨-, ins', hr, hdraws⟩ | ⟨-, hf, -⟩
  · obtain rfl : ins = ins' := by simpa [h] using hr
    exact absurd (by cases hdraws <;> simp [Instruction.mnemonic]) hm
  · exact hf

theorem random_tick (h : m.tick.result = .ok (.executed ins)) (hm : ins.mnemonic ≠ "RND") :
    m.tick.machine.random = m.random := by
  obtain ⟨-, -, n, he, ht⟩ := executed_of_result h
  rw [ht]
  exact (untouched_execute he).random hm

/-- A machine that did not wait for a key waits for one only after an instruction that says so. -/
theorem parked_tick (h : m.tick.result = .ok (.executed ins)) :
    m.tick.machine.parked = none ∨
      ∃ x, ins.operands = [.register x, .key] ∧ m.tick.machine.parked = some x := by
  obtain ⟨hp, -, n, he, ht⟩ := executed_of_result h
  rw [ht]
  rcases (untouched_execute he).parked with hnone | hx
  · exact .inl (hnone.trans hp)
  · exact .inr hx

theorem toNat_timer_tick {t : Timer} (h : m.tick.result = .ok (.executed ins))
    (hm : ins.operands.head? ≠ some t.operand) :
    (m.tick.machine.registers.timer t).toNat = (m.registers.timer t).toNat - 1 := by
  obtain ⟨-, -, n, he, ht⟩ := executed_of_result h
  have hkept : n.registers.timer t = m.registers.timer t := by
    rw [(untouched_execute he).timer t hm]
    cases t <;> rfl
  rw [ht, toNat_timer_countDown, hkept]

/-- **A tick changes what its instruction names, and nothing else.** -/
theorem footprint_tick (h : m.tick.result = .ok (.executed ins)) :
    m.Footprint ins m.tick.machine := by
  obtain ⟨hp, hn, n, he, ht⟩ := executed_of_result h
  obtain ⟨hsp, hslot, hsaved⟩ := stack_tick h
  have hu := untouched_execute he
  have hlt := (next_eq_ok_iff.mp hn).1
  have hpc := toNat_pc_begun hlt
  have hpc' : m.tick.machine.registers.pc = n.registers.pc := by rw [ht]; rfl
  refine
    { get := by rw [ht]; exact hu.get
      index := by rw [ht]; exact hu.index
      byteAt := fun a ha => byteAt_tick_of_not_stores fun b hs => ha (overwrites_of_stores h hs)
      frame := frame_tick h
      sp := hsp
      slot := hslot
      saved := hsaved
      random := random_tick h
      parked := fun x hx => ?_
      keypad := by rw [ht]; exact hu.keypad
      timer := fun t hm => toNat_timer_tick h hm
      goesOn := fun hj hs => ?_
      skips := fun hs => ?_
      jumps := fun hj => ?_ }
  · rcases parked_tick h with hnone | ⟨y, ho, hy⟩
    · exact absurd (hx.symm.trans hnone) (Option.some_ne_none x)
    · obtain rfl : x = y := Option.some.inj (hx.symm.trans hy)
      exact ho
  · rcases hu.pc hj with hk | ⟨hs', -⟩
    · rw [hpc', hk, hpc]
    · exact absurd hs' hs
  · rcases hu.pc hs.not_jumps with hk | ⟨-, hk⟩
    · rw [hpc', hk, hpc]
      exact .inl rfl
    · have h2 : (2 : UInt16).toNat = 2 := rfl
      rw [hpc', hk, UInt16.toNat_add, hpc]
      omega
  · have hd : m.destination ins = m.begun.destination ins := by cases ins <;> rfl
    rw [hd, hpc', destination_of_execute hj he]

/-- The theorem at a program that adds the flag register to itself, which changes that register and
no other. -/
theorem footprint_tick_addFlag :
    ∃ m : Machine, m.Reachable ∧ m.tick.result = .ok (.executed (.add 0xF 0xF)) ∧
      m.Footprint (.add 0xF 0xF) m.tick.machine ∧
      (∀ y, y ≠ 0xF → m.tick.machine.registers.get y = m.registers.get y) ∧
      m.tick.machine.registers.pc.toNat = 0x202 := by
  have hfit : ([0x8F, 0xF4] : List UInt8).length ≤ 3584 := by decide
  obtain ⟨m, hl⟩ : ∃ m, load [0x8F, 0xF4] (.cycle #[]) = .ok m := ⟨_, load_of_fits hfit _⟩
  obtain ⟨hp, hregisters, -, hw⟩ := fresh_of_load hfit hl
  have hd : Instruction.decode m.word = some (.add 0xF 0xF) := by
    rw [word, hregisters]
    exact (congrArg Instruction.decode (hw 0 (by decide))).trans (by decide)
  have hr : m.tick.result = .ok (.executed (.add 0xF 0xF)) := by
    rw [tick_eq_executed hp (by rw [hregisters]; decide) hd rfl]
  have hfoot := footprint_tick hr
  refine ⟨m, .load hl, hr, hfoot, fun y hy => hfoot.get y fun hs => ?_, ?_⟩
  · cases hs with
    | result _ ho => exact hy (Operand.register.inj (Option.some.inj ho)).symm
    | flag | carry => exact hy rfl
    | block ho => simp [Instruction.operands] at ho
  · rw [hfoot.goesOn (by simp [Instruction.Jumps, Instruction.mnemonic])
      (by simp [Instruction.Skips, Instruction.mnemonic]), hregisters]
    rfl

end Machine

end ChipEight
