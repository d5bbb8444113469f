import ChipEight.Proofs.Keys.Held
import ChipEight.Proofs.Lockstep

/-!
# Proofs — Inputs

How a machine depends on the world outside.  A tick asks at most one thing of it: whether one key
is held, which key is the lowest that is held, or the next random byte, of which it sees only the
bits of a mask.  Two machines with one program, under schedules of their own and with random
sources of their own, stay the same inside for as long as they are given the same answers.

* `Machine.answer`: what a tick is told when it asks, if it asks.
* `Machine.SameInside`: two machines agree but for their keypads and their random sources.
* `Machine.SameInside.tick`: with one answer, machines that are the same inside tick alike.
* `Machine.sameInside_of_answers`: the same from the program on, under any two schedules.
-/

namespace ChipEight

/-- What a tick is told by the world outside. -/
inductive Answer where
  /-- Whether the key that was asked for is held. -/
  | held (down : Bool)
  /-- The lowest key that is held, if there is one. -/
  | lowest (key : Option Key)
  /-- The bits of the next random byte that were asked for. -/
  | random (bits : UInt8)
  deriving DecidableEq, Repr

/-- Key events planned ahead, right before each tick. -/
structure Schedule where
  before : Nat → List Action
  keysOnly : ∀ t, .tick ∉ before t

namespace Machine

/-! ### What is asked -/

/-- What an instruction is told when it asks. -/
def answerTo (m : Machine) : Instruction → Option Answer
  | .skipIfKey x | .skipUnlessKey x => some (.held (m.keypad.isPressed (m.registers.get x)))
  | .awaitKey _ => some (.lowest m.keypad.firstPressed)
  | .random _ mask => some (.random (m.random.next.1 &&& mask))
  | _ => none

/-- What the next tick is told when it asks: one that waits for a key, or that executes an
instruction that asks. -/
def answer (m : Machine) : Option Answer :=
  match m.parked with
  | some _ => some (.lowest m.keypad.firstPressed)
  | none =>
    match m.next with
    | .ok (_, ins) => m.answerTo ins
    | .error _ => none

/-- Two machines agree on everything but their keypads and their random sources. -/
structure SameInside (m n : Machine) : Prop where
  registers : m.registers = n.registers
  memory : m.memory = n.memory
  frame : m.frame = n.frame
  parked : m.parked = n.parked
  drawn : m.drawn = n.drawn

/-- Two machines are not told different things. -/
def SameAnswer (m n : Machine) : Prop := ∀ a ∈ m.answer, ∀ b ∈ n.answer, a = b

variable {m n : Machine} {ins : Instruction}

namespace SameInside

theorem eq_withAside (h : m.SameInside n) : n = m.withAside n.aside := by
  obtain ⟨registers, memory, frame, keypad, random, parked, drawn⟩ := m
  obtain ⟨rfl, rfl, rfl, rfl, rfl⟩ := h
  rfl

theorem skipIf (h : m.SameInside n) {c d : Bool} (hc : c = d) :
    (m.skipIf c).SameInside (n.skipIf d) :=
  { h with registers := hc ▸ congrArg (·.skipIf c) h.registers }

theorem put (h : m.SameInside n) (x : Register) (b : UInt8) :
    (m.put x b).SameInside (n.put x b) :=
  { h with registers := congrArg (·.put x b) h.registers }

theorem ret (h : m.SameInside n) : m.ret.Matches SameInside n.ret := by
  simp only [Machine.ret, ← h.registers]
  split
  · exact ⟨{ h with registers := rfl }, rfl⟩
  · exact ⟨h, rfl⟩

theorem call (h : m.SameInside n) (a : Address) : (m.call a).Matches SameInside (n.call a) := by
  simp only [Machine.call, ← h.registers]
  split
  · exact ⟨{ h with registers := rfl }, rfl⟩
  · exact ⟨h, rfl⟩

theorem awaitKey (h : m.SameInside n) (hk : m.keypad.firstPressed = n.keypad.firstPressed)
    (x : Register) : (m.awaitKey x).SameInside (n.awaitKey x) := by
  simp only [Machine.awaitKey, ← hk]
  split
  · exact h.put x _
  · exact { h with parked := rfl }

theorem drawRandom (h : m.SameInside n) {mask : UInt8}
    (hb : m.random.next.1 &&& mask = n.random.next.1 &&& mask) (x : Register) :
    (m.drawRandom x mask).SameInside (n.drawRandom x mask) :=
  have hput : m.registers.put x (m.random.next.1 &&& mask) =
      n.registers.put x (n.random.next.1 &&& mask) := by rw [hb, h.registers]
  { h with registers := hput }

/-- What is aside in the registers is the same on machines that are the same inside. -/
theorem withAside {m' : Machine} (h : m.SameInside n) (ha : m'.aside = m.aside) :
    m'.SameInside (m'.withAside n.aside) := by
  have hsp : m'.registers.sp = n.registers.sp := h.registers ▸ congrArg Aside.sp ha
  have hst : m'.registers.stack = n.registers.stack := h.registers ▸ congrArg Aside.stack ha
  have hsound : m'.registers.sound = n.registers.sound := h.registers ▸ congrArg Aside.sound ha
  refine ⟨?_, rfl, rfl, rfl, rfl⟩
  rw [Machine.withAside, aside, ← hsp, ← hst, ← hsound]

/-- **Told the same, an instruction does the same inside.** -/
theorem execute (h : m.SameInside n)
    (ha : ∀ a ∈ m.answerTo ins, ∀ b ∈ n.answerTo ins, a = b) :
    (m.execute ins).Matches SameInside (n.execute ins) := by
  cases ins
  case ret => exact h.ret
  case call a => exact h.call a
  case setSound x =>
    exact ⟨{ h with registers := congrArg (fun r => { r with sound := r.get x }) h.registers }, rfl⟩
  case skipIfKey x => exact ⟨h.skipIf (Answer.held.inj (ha _ rfl _ rfl)), rfl⟩
  case skipUnlessKey x =>
    exact ⟨h.skipIf (congrArg (!·) (Answer.held.inj (ha _ rfl _ rfl))), rfl⟩
  case awaitKey x => exact ⟨h.awaitKey (Answer.lowest.inj (ha _ rfl _ rfl)) x, rfl⟩
  case random x mask => exact ⟨h.drawRandom (Answer.random.inj (ha _ rfl _ rfl)) x, rfl⟩
  all_goals exact matches_of_plain trivial h.eq_withAside fun _ hm' => h.withAside hm'

end SameInside

/-! ### Ticks and runs -/

theorem answer_of_parked {x : Register} (hp : m.parked = some x) :
    m.answer = some (.lowest m.keypad.firstPressed) := by
  simp only [answer, hp]

theorem answer_of_next {op : Opcode} (hp : m.parked = none) (hn : m.next = .ok (op, ins)) :
    m.answer = m.answerTo ins := by
  simp only [answer, hp, hn]

theorem answerTo_begun (m : Machine) (ins : Instruction) :
    m.begun.answerTo ins = m.answerTo ins := by
  cases ins <;> rfl

/-- **Told the same, machines that are the same inside tick alike.** -/
theorem SameInside.tick (h : m.SameInside n) (ha : m.SameAnswer n) :
    m.tick.Matches SameInside n.tick := by
  have hnext : m.next = n.next := by simp only [next, fetch, h.memory, h.registers]
  exact Lockstep.tick
    { parked := h.parked
      next := hnext
      polled := fun x hp => Answer.lowest.inj <|
        ha _ (answer_of_parked hp) _ (answer_of_parked (h.parked ▸ hp))
      begun := { h with drawn := rfl }
      executed := fun hp op ins hn => by
        have hbegun : m.begun.SameInside n.begun :=
          { h with registers := congrArg Registers.advance h.registers, drawn := rfl }
        refine hbegun.execute ?_
        rw [answerTo_begun, answerTo_begun, ← answer_of_next hp hn,
          ← answer_of_next (h.parked ▸ hp) (hnext ▸ hn)]
        exact ha
      given := fun x b h => { h.put x b with parked := rfl }
      elapsed := fun h => { h with registers := congrArg Registers.countDown h.registers } }

/-- Keys that go down and up change nothing inside. -/
theorem SameInside.after {as bs : List Action} (h : m.SameInside n) (has : .tick ∉ as)
    (hbs : .tick ∉ bs) : (m.after as).SameInside (n.after bs) := by
  rw [after_of_keysOnly m has, after_of_keysOnly n hbs]
  exact { h with }

/-- The machine that tick `t` finds under a schedule. -/
def meets (m : Machine) (s : Schedule) : Nat → Machine
  | 0 => m.after (s.before 0)
  | t + 1 => (m.meets s t).tick.machine.after (s.before (t + 1))

variable {s s' : Schedule}

theorem SameInside.meets (h : m.SameInside n) {t : Nat}
    (ha : ∀ u < t, (m.meets s u).SameAnswer (n.meets s' u)) :
    (m.meets s t).SameInside (n.meets s' t) := by
  induction t with
  | zero => exact h.after (s.keysOnly 0) (s'.keysOnly 0)
  | succ t ih =>
      have ht := (ih fun u hu => ha u (Nat.lt_succ_of_lt hu)).tick (ha t (Nat.lt_succ_self t))
      exact ht.machine.after (s.keysOnly _) (s'.keysOnly _)

/-- **Inputs reach a machine only where they are read.**  Load a program that fits with any two
random sources and let it tick under any two schedules.  For as long as no tick is told different
things, every tick has one result in both runs and leaves machines that are the same inside. -/
theorem sameInside_of_answers (program : List UInt8) (random random' : ByteStream)
    (hfit : program.length ≤ 3584) :
    ∃ m n, load program random = .ok m ∧ load program random' = .ok n ∧
      ∀ (s s' : Schedule) (t : Nat), (∀ u < t, (m.meets s u).SameAnswer (n.meets s' u)) →
        (∀ u < t, (m.meets s u).tick.Matches SameInside (n.meets s' u).tick) ∧
        (m.meets s t).SameInside (n.meets s' t) := by
  obtain ⟨m, n, hm, hn, h⟩ : ∃ m n, load program random = .ok m ∧ load program random' = .ok n ∧
      m.SameInside n :=
    ⟨_, _, load_of_fits hfit random, load_of_fits hfit random', rfl, rfl, rfl, rfl, rfl⟩
  refine ⟨m, n, hm, hn, fun s s' t ha => ⟨fun u hu => ?_, h.meets ha⟩⟩
  exact (h.meets fun v hv => ha v (Nat.lt_trans hv hu)).tick (ha u hu)

/-- The theorem at a program that asks for the lowest bit of a random byte, with other random bytes
and with another key held. -/
theorem sameInside_of_answers_lowestBit :
    ∃ (m n : Machine) (s s' : Schedule),
      load [0xC0, 0x01] (.cycle #[0x03]) = .ok m ∧ load [0xC0, 0x01] (.cycle #[0x81]) = .ok n ∧
      (m.meets s 0).keypad.isPressed 5 ≠ (n.meets s' 0).keypad.isPressed 5 ∧
      (m.meets s 0).answer = some (.random 1) ∧
      (m.meets s 0).tick.result = (n.meets s' 0).tick.result ∧
      (m.meets s 1).SameInside (n.meets s' 1) := by
  have hfit : ([0xC0, 0x01] : List UInt8).length ≤ 3584 := by decide
  obtain ⟨m, n, hm, hn, h⟩ := sameInside_of_answers _ (.cycle #[0x03]) (.cycle #[0x81]) hfit
  -- whatever keys are held, the first tick draws a random byte
  have hanswer : ∀ {k : Machine} {b : UInt8} (s : Schedule),
      load [0xC0, 0x01] (.cycle #[b]) = .ok k →
        (k.meets s 0).answer = some (.random (b &&& 1)) := by
    intro k b s hl
    obtain ⟨hp, hpc, hw, hr⟩ : k.parked = none ∧ k.registers.pc = 0x200 ∧
        k.memory.wordAt 0x200 = ⟨0xC001⟩ ∧ k.random.next.1 = b := by
      obtain rfl := Except.ok.inj (hl.symm.trans (load_of_fits hfit _))
      exact ⟨rfl, rfl, Memory.wordAt_overlay _ (k := 0) (by decide) (by decide), rfl⟩
    rw [meets, after_of_keysOnly _ (s.keysOnly 0)]
    have hn : next { k with keypad := k.keypad.after (s.before 0) } = .ok (_, .random 0 1) :=
      next_eq_ok_iff.mpr ⟨by rw [hpc]; decide, rfl, by rw [word, hpc]; exact hw ▸ by decide⟩
    have hparked : parked { k with keypad := k.keypad.after (s.before 0) } = none := hp
    rw [answer_of_next hparked hn, answerTo, hr]
  let s : Schedule := ⟨fun _ => [.press 5], by simp⟩
  let s' : Schedule := ⟨fun _ => [], by simp⟩
  have hsame : ∀ u < 1, (m.meets s u).SameAnswer (n.meets s' u) := fun u hu a ha b hb => by
    obtain rfl := Nat.lt_one_iff.mp hu
    rw [hanswer s hm] at ha
    rw [hanswer s' hn] at hb
    exact (Option.some.inj ha).symm.trans (Option.some.inj hb)
  obtain ⟨htick, hinside⟩ := h s s' 1 hsame
  refine ⟨m, n, s, s', hm, hn, ?_, hanswer s hm, (htick 0 Nat.one_pos).result, hinside⟩
  obtain rfl := Except.ok.inj (hm.symm.trans (load_of_fits hfit _))
  obtain rfl := Except.ok.inj (hn.symm.trans (load_of_fits hfit _))
  decide

end Machine

end ChipEight
