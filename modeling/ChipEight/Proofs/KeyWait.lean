import ChipEight.Machine.History
import ChipEight.Proofs.Ticks

/-!
# Proofs — KeyWait

How a machine waits for a key.  The wait begins at a tick that executes it with no key held, and
ends at the first tick that finds one.  In between nothing moves but the keypad and the timers, so
the machine is afterwards the one that would have executed the wait with that keypad in the first
place, its timers apart.

* `Keypad.Idle`, `Keypad.Lowest`: no key is held, or a key and none below it.  They are what
  `firstPressed` finds.
* `Registers.elapse`: what some ticks make of the timers.
* `Machine.waiting`, `Machine.resumed`: what becomes of a machine that waits, and of one that has
  been given its key.
* `Machine.Waits`: how a wait goes on and how it ends.
-/

namespace ChipEight

/-! ### The lowest key that is held -/

namespace Keypad

/-- No key is held. -/
def Idle (p : Keypad) : Prop := ∀ key, p.isPressed key = false

/-- A key is held, and it is the lowest of those that are. -/
structure Lowest (p : Keypad) (k : Key) : Prop where
  held : p.isPressed (UInt8.ofNat k.val) = true
  le : ∀ key, p.isPressed key = true → k.val ≤ key.toNat

variable {p : Keypad}

theorem toNat_ofNat_key (k : Key) : (UInt8.ofNat k.val).toNat = k.val :=
  UInt8.toNat_ofNat_of_lt' (Nat.lt_trans k.isLt (by decide))

theorem isPressed_ofNat (p : Keypad) {i : Nat} (hi : i < 16) :
    p.isPressed (UInt8.ofNat i) = p.held[i] := by
  rw [isPressed, toNat_ofNat_key ⟨i, hi⟩, Vector.getElem?_eq_getElem hi, Option.getD_some]

/-- A byte that reads as pressed names one of the sixteen keys. -/
theorem exists_key_of_isPressed {key : UInt8} (h : p.isPressed key = true) :
    ∃ _ : key.toNat < 16, p.held[key.toNat] = true := by
  by_cases hk : key.toNat < 16
  · refine ⟨hk, ?_⟩
    simpa [isPressed, hk] using h
  · simp [isPressed, Vector.getElem?_eq_none (Nat.le_of_not_lt hk)] at h

theorem firstPressed_eq_none_iff : p.firstPressed = none ↔ p.Idle := by
  simp only [firstPressed, List.find?_eq_none, List.mem_finRange, forall_const]
  constructor
  · intro h key
    cases hp : p.isPressed key with
    | false => rfl
    | true =>
        obtain ⟨hlt, hk⟩ := exists_key_of_isPressed hp
        exact absurd hk (h ⟨_, hlt⟩)
  · intro h k hk
    exact absurd (p.isPressed_ofNat k.isLt ▸ h _) (by simp [hk])

theorem firstPressed_eq_some_iff {k : Key} : p.firstPressed = some k ↔ p.Lowest k := by
  simp only [firstPressed, List.find?_eq_some_iff_getElem, List.length_finRange,
    List.getElem_finRange]
  constructor
  · rintro ⟨hk, i, hi, rfl, hlow⟩
    refine ⟨p.isPressed_ofNat hi ▸ hk, fun key hp => ?_⟩
    obtain ⟨_, hheld⟩ := exists_key_of_isPressed hp
    refine Nat.le_of_not_lt fun hlt => ?_
    have hk' := hlow key.toNat hlt
    simp [hheld] at hk'
  · intro h
    refine ⟨p.isPressed_ofNat k.isLt ▸ h.held, k.val, k.isLt, rfl, fun j hj => ?_⟩
    have hle := h.le (UInt8.ofNat j)
    have hj16 : j < 16 := Nat.lt_trans hj k.isLt
    rw [p.isPressed_ofNat hj16, toNat_ofNat_key ⟨j, hj16⟩] at hle
    cases hp : p.held[j] with
    | false => simpa using hp
    | true => exact absurd (hle hp) (Nat.not_le.mpr hj)

theorem Lowest.not_idle {k : Key} (h : p.Lowest k) : ¬ p.Idle := fun hi => by
  simpa [hi _] using h.held

theorem Lowest.unique {j k : Key} (hj : p.Lowest j) (hk : p.Lowest k) : j = k :=
  Option.some.inj <|
    (firstPressed_eq_some_iff.mpr hj).symm.trans (firstPressed_eq_some_iff.mpr hk)

theorem exists_lowest (h : ¬ p.Idle) : ∃ k, p.Lowest k := by
  cases hk : p.firstPressed with
  | none => exact absurd (firstPressed_eq_none_iff.mp hk) h
  | some k => exact ⟨k, firstPressed_eq_some_iff.mp hk⟩

/-- The keypad after an action. -/
def act (p : Keypad) : Action → Keypad
  | .tick => p
  | .press key => p.press key
  | .release key => p.release key

/-- The keypad after some actions, one after the other. -/
def after (p : Keypad) (as : List Action) : Keypad := as.foldl act p

/-- With no key held a keypad is as it was at first. -/
theorem Idle.eq_released (h : p.Idle) : p = released := by
  obtain ⟨held⟩ := p
  rw [released, mk.injEq]
  ext i hi
  rw [← isPressed_ofNat ⟨held⟩ hi, h, Vector.getElem_replicate]

end Keypad

/-! ### Timers -/

namespace Registers

/-- The registers some ticks later.  Each timer has gone down by one at every tick, and has stopped
at zero. -/
def elapse (r : Registers) (ticks : Nat) : Registers :=
  { r with
    delay := UInt8.ofNat (r.delay.toNat - ticks)
    sound := UInt8.ofNat (r.sound.toNat - ticks) }

theorem countDown_eq_elapse (r : Registers) : r.countDown = r.elapse 1 := by
  have hone : ∀ t : UInt8, (if t = 0 then 0 else t - 1) = UInt8.ofNat (t.toNat - 1) := by
    intro t
    split
    · next h => subst h; rfl
    · next h =>
        have ht := t.toNat_lt
        have hpos : 1 ≤ t.toNat := Nat.pos_of_ne_zero fun h' => h (UInt8.toNat_inj.mp h')
        rw [← UInt8.toNat_inj, UInt8.toNat_sub_of_le t 1 (UInt8.le_iff_toNat_le.mpr hpos),
          UInt8.toNat_ofNat_of_lt' (by show t.toNat - 1 < 256; omega)]
        rfl
  rw [countDown, elapse, hone, hone]

theorem elapse_elapse (r : Registers) (i j : Nat) : (r.elapse i).elapse j = r.elapse (i + j) := by
  have hsub : ∀ t : UInt8, (UInt8.ofNat (t.toNat - i)).toNat - j = t.toNat - (i + j) := by
    intro t
    have ht := t.toNat_lt
    rw [UInt8.toNat_ofNat_of_lt' (by show t.toNat - i < 256; omega)]
    omega
  simp only [elapse, hsub]

end Registers

namespace Machine

/-- The machine some ticks later, as far as the timers go. -/
def elapse (m : Machine) (ticks : Nat) : Machine :=
  { m with registers := m.registers.elapse ticks }

/-! ### The two ends of a wait -/

/-- What has become of a machine some ticks after it began to wait for a key into `x`. -/
def waiting (m : Machine) (x : Register) (ticks : Nat) (keypad : Keypad) : Machine :=
  elapse
    { m with
      registers := m.registers.advance
      keypad := keypad
      parked := some x
      drawn := false }
    ticks

/-- What has become of a machine when it has been given a key into `x` some ticks after it asked. -/
def resumed (m : Machine) (x : Register) (k : Key) (ticks : Nat) (keypad : Keypad) : Machine :=
  elapse
    { m with
      registers := m.registers.advance.put x (UInt8.ofNat k.val)
      keypad := keypad
      parked := none
      drawn := false }
    ticks

variable {m : Machine} {x : Register} {k : Key} {keypad : Keypad} {ticks : Nat}

theorem countDown_eq_elapse (m : Machine) :
    { m with registers := m.registers.countDown } = m.elapse 1 := by
  rw [Registers.countDown_eq_elapse, elapse]

theorem elapse_elapse (m : Machine) (i j : Nat) : (m.elapse i).elapse j = m.elapse (i + j) := by
  simp only [elapse, Registers.elapse_elapse]

@[simp] theorem keypad_waiting : (m.waiting x ticks keypad).keypad = keypad := rfl

/-- With no key held, a tick that executes a wait begins to wait. -/
theorem tick_of_idle {op : Opcode} (hp : m.parked = none) (hn : m.next = .ok (op, .awaitKey x))
    (hk : m.keypad.Idle) :
    m.tick = ⟨m.waiting x 1 m.keypad, .ok (.executed (.awaitKey x))⟩ := by
  obtain ⟨hpc, -, hd⟩ := next_eq_ok_iff.mp hn
  rw [tick_eq_executed hp hpc hd rfl, countDown_eq_elapse, awaitKey, begun,
    Keypad.firstPressed_eq_none_iff.mpr hk, waiting]

/-- A tick that executes a wait takes the lowest key that is held. -/
theorem tick_of_lowest {op : Opcode} (hp : m.parked = none) (hn : m.next = .ok (op, .awaitKey x))
    (hk : m.keypad.Lowest k) :
    m.tick = ⟨m.resumed x k 1 m.keypad, .ok (.executed (.awaitKey x))⟩ := by
  obtain ⟨hpc, -, hd⟩ := next_eq_ok_iff.mp hn
  rw [tick_eq_executed hp hpc hd rfl, countDown_eq_elapse, awaitKey, begun,
    Keypad.firstPressed_eq_some_iff.mpr hk, resumed, hp]
  rfl

/-- While no key is held, a tick leaves all but the timers and the draw flag alone. -/
theorem tick_of_parked (hp : m.parked = some x) (hk : m.keypad.Idle) :
    m.tick = ⟨elapse { m with drawn := false } 1, .ok .awaitingKey⟩ := by
  rw [tick_eq_iff.mpr (.waited hp (Keypad.firstPressed_eq_none_iff.mpr hk)), elapse,
    Registers.countDown_eq_elapse]

theorem tick_waiting_of_idle (hk : keypad.Idle) :
    (m.waiting x ticks keypad).tick = ⟨m.waiting x (ticks + 1) keypad, .ok .awaitingKey⟩ := by
  rw [tick_of_parked rfl hk, waiting, waiting, ← elapse_elapse]
  rfl

theorem tick_waiting_of_lowest (hk : keypad.Lowest k) :
    (m.waiting x ticks keypad).tick = ⟨m.resumed x k (ticks + 1) keypad, .ok (.resumed x k)⟩ := by
  rw [tick_eq_iff.mpr (.resumed rfl (Keypad.firstPressed_eq_some_iff.mpr hk)),
    Registers.countDown_eq_elapse, resumed, ← elapse_elapse]
  rfl

theorem act_waiting {a : Action} (ha : a = .tick → keypad.Idle) :
    (m.waiting x ticks keypad).act a =
      m.waiting x (ticks + [a].count .tick) (keypad.act a) := by
  cases a with
  | tick => exact congrArg Outcome.machine (tick_waiting_of_idle (ha rfl))
  | press key | release key => rfl

/-- A machine that waits goes on waiting for as long as no tick finds a key. -/
theorem after_waiting {as : List Action}
    (h : (m.waiting x ticks keypad).AtTicks as (·.keypad.Idle)) :
    (m.waiting x ticks keypad).after as =
      m.waiting x (ticks + as.count .tick) (keypad.after as) := by
  induction as generalizing ticks keypad with
  | nil => rfl
  | cons a as ih =>
      obtain ⟨ha, has⟩ := atTicks_cons.mp h
      have hact : (m.waiting x ticks keypad).act a = _ := act_waiting ha
      rw [hact] at has
      rw [after_cons, hact, ih has, Nat.add_assoc, ← List.count_append, List.singleton_append]
      rfl

/-! ### The protocol -/

/-- How a machine fares that has begun to wait for a key into `x`, when some actions followed and no
tick among them found a key. -/
structure Waits (m : Machine) (x : Register) (as : List Action) (n : Machine) : Prop where
  /-- It is where it was, but for the keypad and for the timers, which have gone on. -/
  waiting : n = m.waiting x (as.count .tick + 1) (m.keypad.after as)
  /-- With no key held the next tick succeeds, and only the timers and the draw flag change; what
  lies in memory and where the program counter points plays no part. -/
  idle : n.keypad.Idle → ∀ memory pc,
    let n' := { n with memory := memory, registers := { n.registers with pc := pc } }
    n'.tick = ⟨elapse { n' with drawn := false } 1, .ok .awaitingKey⟩
  /-- Keys that go down and up again before the next tick leave no trace. -/
  unseen : n.keypad.Idle → ∀ bs, .tick ∉ bs → (n.after bs).keypad.Idle → n.after bs = n
  /-- With keys held the next tick gives the lowest to the machine, which then waits no more. -/
  resumes : ¬ n.keypad.Idle → ∃ k, n.keypad.Lowest k ∧
    n.tick = ⟨m.resumed x k (as.count .tick + 2) n.keypad, .ok (.resumed x k)⟩
  /-- The machine is then where it would be had those keys been held when it asked, but for the
  timers. -/
  asIfHeld : ¬ n.keypad.Idle → ∃ e : Machine,
    { m with keypad := n.keypad }.tick = ⟨e, .ok (.executed (.awaitKey x))⟩ ∧
    n.tick.machine = e.elapse (as.count .tick + 1)

theorem waits_waiting {op : Opcode} {as : List Action} (hp : m.parked = none)
    (hn : m.next = .ok (op, .awaitKey x)) :
    m.Waits x as (m.waiting x (as.count .tick + 1) (m.keypad.after as)) where
  waiting := rfl
  idle hk _ _ := tick_of_parked rfl hk
  unseen hk bs hbs hk' := by
    -- no time passes among actions without a tick, and there is only one idle keypad
    rw [after_waiting fun cs hcs => absurd (hcs.subset (by simp)) hbs] at hk' ⊢
    rw [keypad_waiting] at hk hk'
    rw [List.count_eq_zero_of_not_mem hbs, Nat.add_zero, hk'.eq_released, hk.eq_released]
  resumes h :=
    have ⟨k, hk⟩ := Keypad.exists_lowest h
    ⟨k, hk, tick_waiting_of_lowest hk⟩
  asIfHeld h := by
    obtain ⟨k, hk⟩ := Keypad.exists_lowest h
    rw [keypad_waiting] at hk ⊢
    refine ⟨_, tick_of_lowest hp hn hk, ?_⟩
    rw [tick_waiting_of_lowest hk, resumed, resumed, elapse_elapse, Nat.add_comm 1]

/-- A tick that executes a wait takes the lowest key that is held.  With no key held it begins to
wait, and goes on to do so until a tick finds a key. -/
theorem awaits_key {op : Opcode} (hp : m.parked = none) (hn : m.next = .ok (op, .awaitKey x)) :
    (¬ m.keypad.Idle → ∃ k, m.keypad.Lowest k ∧
      m.tick = ⟨m.resumed x k 1 m.keypad, .ok (.executed (.awaitKey x))⟩) ∧
    (m.keypad.Idle →
      m.tick = ⟨m.waiting x 1 m.keypad, .ok (.executed (.awaitKey x))⟩ ∧
      ∀ as, m.tick.machine.AtTicks as (·.keypad.Idle) →
        m.Waits x as (m.tick.machine.after as)) := by
  refine ⟨fun h => ?_, fun hk => ⟨tick_of_idle hp hn hk, fun as has => ?_⟩⟩
  · obtain ⟨k, hk⟩ := Keypad.exists_lowest h
    exact ⟨k, hk, tick_of_lowest hp hn hk⟩
  · rw [tick_of_idle hp hn hk] at has ⊢
    rw [after_waiting has, Nat.add_comm]
    exact waits_waiting hp hn

/-- The theorem at a program that waits at once: a key that goes down and up before the next tick
leaves no trace, and one that goes down after it is taken. -/
theorem awaits_key_first :
    ∃ m, load [0xF3, 0x0A] (.cycle #[]) = .ok m ∧
      m.tick.result = .ok (.executed (.awaitKey 3)) ∧
      (m.tick.machine.after [.press 5, .release 5, .tick, .press 9]).tick.result =
        .ok (.resumed 3 9) := by
  have hfit : ([0xF3, 0x0A] : List UInt8).length ≤ 3584 := by decide
  obtain ⟨m, hl, hp, hpc, hk, hw⟩ : ∃ m, load [0xF3, 0x0A] (.cycle #[]) = .ok m ∧
      m.parked = none ∧ m.registers.pc = 0x200 ∧ m.keypad = .released ∧
      m.memory.wordAt 0x200 = ⟨0xF30A⟩ :=
    ⟨_, load_of_fits hfit _, rfl, rfl, rfl,
      Memory.wordAt_overlay _ (k := 0) (by decide) (by decide)⟩
  have hn : m.next = .ok (m.word, .awaitKey 3) := by
    refine next_eq_ok_iff.mpr ⟨by rw [hpc]; decide, rfl, ?_⟩
    rw [word, hpc, show (0x200 : UInt16).toNat = 0x200 from rfl, hw]
    decide
  have hidle : ((m.keypad.press 5).release 5).Idle := by
    rw [hk]
    exact Keypad.firstPressed_eq_none_iff.mp (by decide)
  obtain ⟨ht, hwaits⟩ := (awaits_key hp hn).2 (hk ▸ Keypad.firstPressed_eq_none_iff.mp (by decide))
  have hw := hwaits [.press 5, .release 5, .tick, .press 9] <| by
    rw [ht]
    exact atTicks_cons.mpr ⟨nofun, atTicks_cons.mpr ⟨nofun, atTicks_cons.mpr ⟨fun _ => hidle,
      atTicks_cons.mpr ⟨nofun, atTicks_nil⟩⟩⟩⟩
  have hlow : (m.tick.machine.after [.press 5, .release 5, .tick, .press 9]).keypad.Lowest 9 := by
    rw [hw.waiting, keypad_waiting, hk]
    exact Keypad.firstPressed_eq_some_iff.mp (by decide)
  obtain ⟨k, hk', hresumes⟩ := hw.resumes hlow.not_idle
  obtain rfl := hk'.unique hlow
  exact ⟨m, hl, congrArg Outcome.result ht, congrArg Outcome.result hresumes⟩

end Machine

end ChipEight
