import ChipEight.Machine.History
import ChipEight.Proofs.Ticks

/-!
# Proofs — Lockstep

Two machines that tick side by side.  Most instructions have nothing to do with the call stack, the
sound timer, the keypad and the random source, so two machines that differ there only execute them
alike, and still differ there only.

* `Machine.Aside`: those parts of a machine.  A plain instruction neither reads nor changes them
  (`Machine.execute_withAside`, `Machine.aside_execute`).
* `Outcome.Matches`: two attempts leave related machines, and succeed or fail alike.
* `Machine.Lockstep`: what a relation has to provide at two machines so that their ticks match
  (`Machine.Lockstep.tick`).
* `Machine.after_of_act`: a relation that every action keeps lasts.
-/

namespace ChipEight

/-- Two attempts leave related machines, with one result or one fault. -/
structure Outcome.Matches {α : Type} (R : Machine → Machine → Prop) (o o' : Outcome α) :
    Prop where
  machine : R o.machine o'.machine
  result : o.result = o'.result

theorem Outcome.Matches.exists_eq {α : Type} {R : Machine → Machine → Prop} {o o' : Outcome α}
    (h : o.Matches R o') : ∃ n, o' = ⟨n, o.result⟩ ∧ R o.machine n :=
  ⟨o'.machine, by rw [h.result], h.machine⟩

/-- The instruction has nothing to do with calls, sound, keys and chance. -/
def Instruction.Plain : Instruction → Prop
  | .ret | .call _ | .setSound _ | .skipIfKey _ | .skipUnlessKey _ | .awaitKey _
  | .random _ _ => False
  | _ => True

namespace Machine

/-! ### What plain instructions leave aside -/

/-- The parts of a machine that plain instructions have nothing to do with. -/
structure Aside where
  sp : Nat
  stack : Vector UInt16 16
  sound : UInt8
  keypad : Keypad
  random : ByteStream

/-- Those parts of a machine. -/
def aside (m : Machine) : Aside :=
  ⟨m.registers.sp, m.registers.stack, m.registers.sound, m.keypad, m.random⟩

/-- The machine with others of those parts. -/
def withAside (m : Machine) (a : Aside) : Machine :=
  { m with
    registers := { m.registers with sp := a.sp, stack := a.stack, sound := a.sound }
    keypad := a.keypad
    random := a.random }

variable {m n : Machine} {a : Aside} {ins : Instruction}

theorem skipIf_withAside (m : Machine) (a : Aside) (c : Bool) :
    (m.withAside a).skipIf c = (m.skipIf c).withAside a := by
  cases c <;> rfl

theorem drawSprite_withAside (m : Machine) (a : Aside) (x y : Register) (height : Fin 16) :
    (m.withAside a).drawSprite x y height =
      ⟨(m.drawSprite x y height).machine.withAside a, (m.drawSprite x y height).result⟩ := by
  -- the sprite lies at one place in one memory, whatever is aside
  have hread : ((m.withAside a).put Registers.flag 0).memory.read
      ((m.withAside a).put Registers.flag 0).registers.index height.val =
      (m.put Registers.flag 0).memory.read (m.put Registers.flag 0).registers.index height.val :=
    rfl
  simp only [drawSprite, hread]
  split <;> rfl

theorem writeBlock_withAside (m : Machine) (a : Aside) (bytes : List UInt8) :
    (m.withAside a).writeBlock bytes =
      ⟨(m.writeBlock bytes).machine.withAside a, (m.writeBlock bytes).result⟩ := by
  have hwrite : (m.withAside a).memory.write (m.withAside a).registers.index bytes =
      m.memory.write m.registers.index bytes := rfl
  simp only [writeBlock, hwrite]
  split <;> rfl

theorem readBlock_withAside (m : Machine) (a : Aside) (x : Register) :
    (m.withAside a).readBlock x =
      ⟨(m.readBlock x).machine.withAside a, (m.readBlock x).result⟩ := by
  have hread : (m.withAside a).memory.read (m.withAside a).registers.index (x.val + 1) =
      m.memory.read m.registers.index (x.val + 1) := rfl
  simp only [readBlock, hread]
  split <;> rfl

/-- **A plain instruction does the same whatever is aside**, and leaves that as it is. -/
theorem execute_withAside (h : ins.Plain) :
    (m.withAside a).execute ins =
      ⟨(m.execute ins).machine.withAside a, (m.execute ins).result⟩ := by
  cases ins
  case ret | call | setSound | skipIfKey | skipUnlessKey | awaitKey | random => exact h.elim
  case draw x y height => exact m.drawSprite_withAside a x y height
  case decimal | store => exact m.writeBlock_withAside a _
  case load x => exact m.readBlock_withAside a x
  case skipIfByte | skipUnlessByte | skipIfEqual | skipUnlessEqual =>
    exact congrArg Outcome.done (m.skipIf_withAside a _)
  all_goals rfl

/-- A plain instruction leaves what is aside alone. -/
theorem aside_execute (h : ins.Plain) : (m.execute ins).machine.aside = m.aside := by
  have hself : m.withAside m.aside = m := rfl
  have hx := execute_withAside (m := m) (a := m.aside) h
  rw [hself] at hx
  rw [hx]
  rfl

/-- Machines that differ in what is aside only execute a plain instruction alike. -/
theorem matches_of_plain {R : Machine → Machine → Prop} (h : ins.Plain)
    (hn : n = m.withAside n.aside) (hR : ∀ m' : Machine, m'.aside = m.aside →
      R m' (m'.withAside n.aside)) :
    (m.execute ins).Matches R (n.execute ins) := by
  rw [hn, execute_withAside h]
  exact ⟨hR _ (aside_execute h), rfl⟩

/-! ### Ticks side by side -/

/-- What a relation provides at two machines that are about to tick. -/
structure Lockstep (R : Machine → Machine → Prop) (m n : Machine) : Prop where
  parked : m.parked = n.parked
  next : m.next = n.next
  /-- Machines that wait for a key find the same one. -/
  polled : ∀ x, m.parked = some x → m.keypad.firstPressed = n.keypad.firstPressed
  begun : R { m with drawn := false } { n with drawn := false }
  executed : m.parked = none → ∀ op ins, m.next = .ok (op, ins) →
    (m.begun.execute ins).Matches R (n.begun.execute ins)
  /-- The relation lasts when a key is given to both machines. -/
  given : ∀ {m n : Machine} x b, R m n →
    R { m with registers := m.registers.put x b, parked := none }
      { n with registers := n.registers.put x b, parked := none }
  /-- The relation lasts when time goes by. -/
  elapsed : ∀ {m n : Machine}, R m n →
    R { m with registers := m.registers.countDown } { n with registers := n.registers.countDown }

/-- **Machines in lockstep tick alike.** -/
theorem Lockstep.tick {R : Machine → Machine → Prop} (h : Lockstep R m n) :
    m.tick.Matches R n.tick := by
  have found : ∀ {ins}, m.next = .ok (m.word, ins) → n.next = .ok (n.word, ins) := fun hn => by
    obtain ⟨-, hw, -⟩ := next_eq_ok_iff.mp (h.next ▸ hn)
    rw [← hw, ← h.next, hn]
  generalize ht : m.tick = o
  cases tick_eq_iff.mp ht with
  | waited hp hk =>
      rw [tick_eq_iff.mpr (.waited (h.parked ▸ hp) (h.polled _ hp ▸ hk))]
      exact ⟨h.elapsed h.begun, rfl⟩
  | resumed hp hk =>
      rw [tick_eq_iff.mpr (.resumed (h.parked ▸ hp) (h.polled _ hp ▸ hk))]
      exact ⟨h.elapsed (h.given _ _ h.begun), rfl⟩
  | stuck hp hn =>
      rw [tick_eq_iff.mpr (.stuck (h.parked ▸ hp) (h.next ▸ hn))]
      exact ⟨h.begun, rfl⟩
  | failed hp hn he =>
      obtain ⟨n', he', hR⟩ := (he ▸ h.executed hp _ _ hn).exists_eq
      rw [tick_eq_iff.mpr (.failed (h.parked ▸ hp) (found hn) he')]
      exact ⟨hR, rfl⟩
  | executed hp hn he =>
      obtain ⟨n', he', hR⟩ := (he ▸ h.executed hp _ _ hn).exists_eq
      rw [tick_eq_iff.mpr (.executed (h.parked ▸ hp) (found hn) he')]
      exact ⟨h.elapsed hR, rfl⟩

/-- Machines to which the same happens stay related, if every action keeps the relation. -/
theorem after_of_act {R : Machine → Machine → Prop}
    (hact : ∀ {m n : Machine}, R m n → ∀ a, R (m.act a) (n.act a)) (h : R m n)
    (as : List Action) : R (m.after as) (n.after as) := by
  induction as generalizing m n with
  | nil => exact h
  | cons a as ih => exact ih (hact h a)

end Machine

end ChipEight
