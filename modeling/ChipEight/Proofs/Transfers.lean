import ChipEight.Proofs.Footprint

/-!
# Proofs — Transfers

Registers that are stored in memory and loaded again.  A store writes the registers up to one of
them at the index, a load reads such a block back, and neither moves the index.  So what was stored
is loaded, whatever runs in between, if only the index points there again and no other store covers
the bytes.

* `Machine.byteAt_tick_store`, `Machine.get_tick_load`: what a store leaves in memory, and what a
  load leaves in the registers.
* `Machine.load_restores`: a load after a store, with any run between the two.
-/

namespace ChipEight

theorem Registers.get_putFirst (r : Registers) (bytes : List UInt8) (x : Register) :
    (r.putFirst bytes).get x = bytes[x.val]?.getD (r.get x) :=
  Vector.getElem_ofFn x.isLt

namespace Instruction

variable {x y : Register}

/-- A store names no register as one that it changes. -/
theorem not_sets_store : ¬ (store x).Sets y := by
  intro h
  cases h with
  | result _ ho | block ho => simp [operands] at ho
  | flag hm | carry hm => simp [mnemonic] at hm

/-- A load names the registers up to one of them. -/
theorem le_of_sets_load (h : (load x).Sets y) : y ≤ x := by
  cases h with
  | result _ ho =>
      obtain rfl : x = y := by simpa [operands] using ho
      exact Fin.le_refl x
  | flag hm | carry hm => simp [mnemonic] at hm
  | block ho hy =>
      obtain rfl : x = _ := by simpa [operands] using ho
      exact hy

end Instruction

namespace Machine

variable {m m' : Machine} {x y z : Register}

/-! ### Stores -/

/-- What a store writes lies in memory, and is in memory after it. -/
theorem byteAt_tick_store (h : m.tick.result = .ok (.executed (.store x))) (hz : z ≤ x) :
    m.registers.index.toNat + z.val < 4096 ∧
      m.tick.machine.memory.byteAt (m.registers.index.toNat + z.val) = m.registers.get z :=
  (Stores.register z hz h rfl).byteAt_tick

/-- A store changes no register and leaves the index where it was. -/
theorem registers_tick_store (h : m.tick.result = .ok (.executed (.store x))) :
    (∀ z, m.tick.machine.registers.get z = m.registers.get z) ∧
      m.tick.machine.registers.index = m.registers.index := by
  have hfoot := footprint_tick h
  refine ⟨fun z => hfoot.get z Instruction.not_sets_store, hfoot.index ?_⟩
  simp [Instruction.Points, Instruction.operands]

/-- A store that was begun where there is room for it leaves the registers in memory. -/
theorem Runs.tick_store {r : Registers} {memory : Memory} (h : m.Runs r memory)
    (hpc : r.pc.toNat ≤ 4094)
    (hw : Instruction.decode (memory.wordAt r.pc.toNat) = some (.store x))
    (hf : Memory.Fits r.index (x.val + 1)) :
    m.tick.result = .ok (.executed (.store x)) ∧
      m.tick.machine.Runs r.advance.countDown (memory.overlay r.index.toNat (r.upTo x)) := by
  have hb := h.begins hpc hw
  obtain ⟨hp, rfl, rfl⟩ := h
  have he : m.begun.execute (.store x) = .done _ :=
    writeBlock_eq_done_iff.mpr ⟨(Registers.length_upTo _ x).symm ▸ hf, rfl⟩
  rw [hb.tick_eq he]
  exact ⟨rfl, hp, rfl, rfl⟩

/-! ### Loads -/

theorem readBlock_eq_done_iff : m.readBlock x = .done m' ↔
    Memory.Fits m.registers.index (x.val + 1) ∧
      m' = { m with registers := m.registers.putFirst ((List.range (x.val + 1)).map fun k =>
        m.memory.byteAt (m.registers.index.toNat + k)) } := by
  by_cases h : Memory.Fits m.registers.index (x.val + 1) <;>
    simp [readBlock, Memory.read, h, eq_comm]

/-- A load that was begun succeeds where its block is in memory. -/
theorem tick_eq_load (h : m.Begins (.load x))
    (hf : Memory.Fits m.registers.index (x.val + 1)) :
    m.tick = ⟨m.tick.machine, .ok (.executed (.load x))⟩ := by
  have he : m.begun.execute (.load x) = .done _ := readBlock_eq_done_iff.mpr ⟨hf, rfl⟩
  rw [h.tick_eq he]

/-- A load puts into each register the byte that lies as far behind the index. -/
theorem get_tick_load (h : m.tick.result = .ok (.executed (.load x))) (hz : z ≤ x) :
    m.tick.machine.registers.get z = m.memory.byteAt (m.registers.index.toNat + z.val) := by
  obtain ⟨-, -, n, he, ht⟩ := executed_of_result h
  obtain ⟨-, rfl⟩ := readBlock_eq_done_iff.mp he
  have hlt : z.val < x.val + 1 := Nat.lt_succ_of_le hz
  rw [ht]
  refine (Registers.get_putFirst ..).trans ?_
  rw [List.getElem?_map, List.getElem?_range hlt]
  rfl

/-- A load leaves the registers behind its block and the index as they were. -/
theorem registers_tick_load (h : m.tick.result = .ok (.executed (.load x))) :
    (∀ z, x < z → m.tick.machine.registers.get z = m.registers.get z) ∧
      m.tick.machine.registers.index = m.registers.index := by
  have hfoot := footprint_tick h
  refine ⟨fun z hz => hfoot.get z fun hs => ?_, hfoot.index ?_⟩
  · exact Fin.not_le.mpr hz (Instruction.le_of_sets_load hs)
  · simp [Instruction.Points, Instruction.operands]

/-! ### There and back -/

/-- **What was stored is loaded.**  Store the registers up to `x`, let anything happen that stores
nothing over those up to `y`, and begin a load of the registers up to `y` with the index where it
was.  The load succeeds, these registers hold what they held when they were stored, and the load
leaves the others and the index alone, as the store left all of them. -/
theorem load_restores (m stored : Machine) (x y : Register) (as : List Action) (hyx : y ≤ x)
    (hstore : m.tick = ⟨stored, .ok (.executed (.store x))⟩)
    (hkeeps : ∀ a, m.registers.index.toNat ≤ a → a ≤ m.registers.index.toNat + y.val →
      stored.Keeps as a)
    (hload : (stored.after as).Begins (.load y))
    (hindex : (stored.after as).registers.index = m.registers.index) :
    (∃ loaded, (stored.after as).tick = ⟨loaded, .ok (.executed (.load y))⟩ ∧
      (∀ z ≤ y, loaded.registers.get z = m.registers.get z) ∧
      (∀ z, y < z → loaded.registers.get z = (stored.after as).registers.get z) ∧
      loaded.registers.index = (stored.after as).registers.index) ∧
    (∀ z, stored.registers.get z = m.registers.get z) ∧
    stored.registers.index = m.registers.index := by
  have hresult : m.tick.result = .ok (.executed (.store x)) := congrArg Outcome.result hstore
  have hmachine : m.tick.machine = stored := congrArg Outcome.machine hstore
  have hfits : Memory.Fits (stored.after as).registers.index (y.val + 1) := by
    have hlt := (byteAt_tick_store hresult hyx).1
    rw [hindex]
    exact .inr hlt
  have ht := tick_eq_load hload hfits
  have hloaded : (stored.after as).tick.result = _ := congrArg Outcome.result ht
  refine ⟨⟨_, ht, fun z hz => ?_, registers_tick_load hloaded⟩,
    hmachine ▸ registers_tick_store hresult⟩
  have hkept : stored.Keeps as (m.registers.index.toNat + z.val) :=
    hkeeps _ (Nat.le_add_right _ _) (Nat.add_le_add_left hz _)
  calc (stored.after as).tick.machine.registers.get z
      = (stored.after as).memory.byteAt ((stored.after as).registers.index.toNat + z.val) :=
        get_tick_load hloaded hz
    _ = stored.memory.byteAt (m.registers.index.toNat + z.val) := by
        rw [hindex, hkept.byteAt_after]
    _ = m.registers.get z := by
        rw [← hmachine]
        exact (byteAt_tick_store hresult (Fin.le_trans hz hyx)).2

/-- The theorem at a program that stores 42, puts 7 into the register, and loads the 42 again, with
a key going down in between. -/
theorem load_restores_overwritten :
    ∃ m stored loaded : Machine, m.Reachable ∧
      m.tick = ⟨stored, .ok (.executed (.store 0))⟩ ∧
      (stored.after [.tick, .press 3]).registers.get 0 = 7 ∧
      (stored.after [.tick, .press 3]).tick = ⟨loaded, .ok (.executed (.load 0))⟩ ∧
      loaded.registers.get 0 = 42 := by
  have hfit : ([0x60, 42, 0xA3, 0x00, 0xF0, 0x55, 0x60, 7, 0xF0, 0x65] : List UInt8).length ≤
      3584 := by decide
  obtain ⟨l, hl⟩ : ∃ l, load [0x60, 42, 0xA3, 0x00, 0xF0, 0x55, 0x60, 7, 0xF0, 0x65]
      (.cycle #[]) = .ok l := ⟨_, load_of_fits hfit _⟩
  obtain ⟨hp, hr, -, hw⟩ := fresh_of_load hfit hl
  have hs : l.Runs (.startingAt 0x200) l.memory := ⟨hp, hr, rfl⟩
  -- the first two ticks put 42 into the register and point the index behind the program
  have hd : Instruction.decode (l.memory.wordAt 0x200) = some (.loadByte 0 42) :=
    (congrArg Instruction.decode (hw 0 (by decide))).trans (by decide)
  have hd' : Instruction.decode (l.memory.wordAt 0x202) = some (.loadIndex 0x300) :=
    (congrArg Instruction.decode (hw 2 (by decide))).trans (by decide)
  obtain ⟨-, hs⟩ := hs.tick (·.put 0 42) (by decide) hd fun _ => rfl
  obtain ⟨-, hs⟩ := hs.tick (fun r => { r with index := 0x300 }) (by decide) hd' fun _ => rfl
  have hreachable : l.tick.machine.tick.machine.Reachable :=
    ((Reachable.load hl).act .tick).act .tick
  generalize l.tick.machine.tick.machine = m at hs hreachable
  -- the third one stores, and the fourth one puts 7 into the register
  have hd : Instruction.decode (l.memory.wordAt 0x204) = some (.store 0) :=
    (congrArg Instruction.decode (hw 4 (by decide))).trans (by decide)
  obtain ⟨hstore, hs'⟩ := hs.tick_store (by decide) hd (by decide)
  have hkept : ∀ {k}, k + 1 < 0x300 →
      Memory.wordAt (l.memory.overlay 0x300 [42]) k = l.memory.wordAt k :=
    fun h => l.memory.wordAt_overlay_of_lt h
  have hd : Instruction.decode ((l.memory.overlay 0x300 [42]).wordAt 0x206) =
      some (.loadByte 0 7) := by
    rw [hkept (by decide)]
    exact (congrArg Instruction.decode (hw 6 (by decide))).trans (by decide)
  obtain ⟨hput, hs''⟩ := hs'.tick (·.put 0 7) (by decide) hd fun _ => rfl
  -- and the fifth one loads
  have hd : Instruction.decode ((l.memory.overlay 0x300 [42]).wordAt 0x208) = some (.load 0) := by
    rw [hkept (by decide)]
    exact (congrArg Instruction.decode (hw 8 (by decide))).trans (by decide)
  have hs'' : (m.tick.machine.after [.tick, .press 3]).Runs _ _ :=
    ⟨hs''.parked, hs''.registers, hs''.memory⟩
  have hload : (m.tick.machine.after [.tick, .press 3]).Begins (.load 0) :=
    hs''.begins (by decide) hd
  have hkeeps : ∀ a, m.tick.machine.Keeps [.tick, .press 3] a := fun a =>
    atTicks_cons.mpr ⟨fun _ _ => not_stores_of_written hput rfl,
      atTicks_cons.mpr ⟨nofun, atTicks_nil⟩⟩
  have hindex : (m.tick.machine.after [.tick, .press 3]).registers.index = m.registers.index := by
    rw [hs''.registers, hs.registers]
    decide
  obtain ⟨⟨loaded, hloaded, hget, -⟩, -⟩ := load_restores m m.tick.machine 0 0 [.tick, .press 3]
    (Fin.le_refl 0) (by rw [← hstore]) (fun a _ _ => hkeeps a) hload hindex
  refine ⟨m, m.tick.machine, loaded, hreachable, by rw [← hstore], ?_, hloaded, ?_⟩
  · rw [hs''.registers]
    decide
  · rw [hget 0 (Fin.le_refl 0), hs.registers]
    decide

end Machine

end ChipEight
