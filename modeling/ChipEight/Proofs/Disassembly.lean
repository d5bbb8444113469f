import ChipEight.Disassembly
import ChipEight.Proofs.Assembly
import ChipEight.Proofs.Guarded.Agreement
import ChipEight.Proofs.Writes

/-!
# Proofs — Disassembly

What the disassembly of a program tells of a machine that runs it.

* `Guarded.execute_eq_of_text_eq`: the text of a word tells everything that executing it does.  A
  field that the text leaves out is a field that nothing reads.
* `Machine.Heeds`: what a tick does with the word of an item.
* `Machine.heeds_disassemble`: at a word of the program that nothing has been stored over, a tick
  heeds the item that the disassembly has for it.
-/

namespace ChipEight

/-- **Words with one text do the same.**  Executing them by their nibbles, with every check made on
the way, has one outcome on every machine: the same machine, with the same fault or none. -/
theorem Guarded.execute_eq_of_text_eq {a b : Opcode} {i j : Instruction}
    (ha : Instruction.decode a = some i) (hb : Instruction.decode b = some j)
    (ht : i.text = j.text) (m : Machine) :
    execute m a = execute m b ∧ m.execute i = m.execute j := by
  obtain rfl := Instruction.text_injective ht
  rw [execute_eq_perform ha, execute_eq_perform hb]
  exact ⟨rfl, rfl⟩

/-- The theorem at two words whose last nibble is all that they differ in. -/
theorem Guarded.execute_eq_of_text_eq_skipIfEqual :
    Instruction.decode ⟨0x5120⟩ = some (.skipIfEqual 1 2) ∧
    Instruction.decode ⟨0x512F⟩ = some (.skipIfEqual 1 2) ∧
    ∀ m : Machine, execute m ⟨0x5120⟩ = execute m ⟨0x512F⟩ :=
  have ha : Instruction.decode ⟨0x5120⟩ = some (.skipIfEqual 1 2) := by decide
  have hb : Instruction.decode ⟨0x512F⟩ = some (.skipIfEqual 1 2) := by decide
  ⟨ha, hb, fun m => (execute_eq_of_text_eq ha hb rfl m).1⟩

/-! ### The words of a program -/

theorem getElem?_disassemble {program : List UInt8} {origin : UInt16} {k : Nat}
    (h : 2 * k + 1 < program.length) :
    (disassemble program origin)[k]? =
      some ⟨origin + UInt16.ofNat (2 * k), .ofBytes program[2 * k] program[2 * k + 1]⟩ := by
  fun_induction disassemble program origin generalizing k with
  | case1 high low rest origin ih =>
      cases k with
      | zero => simp
      | succ k =>
          have hk : 2 * k + 1 < rest.length := by
            simp only [List.length_cons] at h
            omega
          have ha : origin + 2 + UInt16.ofNat (2 * k) = origin + UInt16.ofNat (2 * (k + 1)) := by
            rw [UInt16.add_assoc, Nat.mul_succ, Nat.add_comm, UInt16.ofNat_add]
            rfl
          rw [List.getElem?_cons_succ, ih hk, ha]
          simp [Nat.mul_succ]
  | case2 program origin hshort =>
      -- a program without a first word has at most one byte, and `h` asks for two
      rcases program with _ | ⟨a, _ | ⟨b, rest⟩⟩
      · simp at h
      · simp at h
      · exact absurd rfl (hshort a b rest)

/-! ### Ticks at the words of a program -/

/-- The stack or memory is at fault, and not the word that was executed. -/
def Fault.OfResources : Fault → Prop
  | .stackFull _ | .stackEmpty _ | .outOfMemory _ => True
  | .unknownOpcode _ _ | .programTooLarge _ _ => False

namespace Machine

theorem Refuses.ofResources {m m' : Machine} {ins : Instruction} {e : Fault}
    (h : m.Refuses ins e m') : e.OfResources := by
  cases h <;> trivial

/-- A tick fetches the word of an item at its address.  It executes the instruction of the item, or
fails to for want of resources.  If the item has no instruction, then the tick fails with that word
at that address, and nothing runs. -/
structure Heeds (m : Machine) (item : CodeItem) : Prop where
  address : item.address = m.registers.pc
  fetch : m.fetch = .ok item.opcode
  executes : ∀ ins, item.instruction? = some ins →
    m.tick.result = .ok (.executed ins) ∨ ∃ e, m.tick.result = .error e ∧ e.OfResources
  fails : item.instruction? = none →
    m.tick = .failed { m with drawn := false } (.unknownOpcode item.opcode item.address)

theorem heeds_word {m : Machine} (hp : m.parked = none) (hpc : m.registers.pc.toNat ≤ 4094) :
    m.Heeds ⟨m.registers.pc, m.word⟩ where
  address := rfl
  fetch := if_pos (Memory.fits_two.mpr hpc)
  executes ins hi := by
    have hn : m.next = .ok (m.word, ins) := next_eq_ok_iff.mpr ⟨hpc, rfl, hi⟩
    rcases he : m.begun.execute ins with ⟨m', e | u⟩
    · rw [tick_eq_iff.mpr (.failed hp hn he)]
      exact .inr ⟨e, rfl, (execute_eq_failed_iff.mp he).ofResources⟩
    · rw [tick_eq_iff.mpr (.executed hp hn he)]
      exact .inl rfl
  fails hi :=
    have hn : m.next = .error (.unknownOpcode m.word m.registers.pc) :=
      next_eq_error_iff.mpr (.inr ⟨hpc, Instruction.decode_eq_none_iff.mp hi, rfl⟩)
    tick_eq_iff.mpr (.stuck hp hn)

/-- The word `k` of a program that was loaded, of which no byte has been stored over. -/
theorem wordAt_of_keeps {program : List UInt8} {random : ByteStream} {m : Machine} {k : Nat}
    {as : List Action} (hl : load program random = .ok m) (hk : 2 * k + 1 < program.length)
    (hhigh : m.Keeps as (0x200 + 2 * k)) (hlow : m.Keeps as (0x200 + (2 * k + 1))) :
    (m.after as).memory.wordAt (0x200 + 2 * k) =
      .ofBytes program[2 * k] program[2 * k + 1] := by
  rw [Memory.wordAt, Nat.add_assoc, hhigh.byteAt_after, hlow.byteAt_after, byteAt_of_load hl,
    byteAt_of_load hl, Memory.image_add, Memory.image_add]

/-- **The disassembly and the machine agree.**  At the word `k` of a program that fits, of which no
byte has been stored over since it was loaded, a tick heeds the item `k` of the disassembly. -/
theorem heeds_disassemble (program : List UInt8) (random : ByteStream)
    (hfit : program.length ≤ 3584) :
    ∃ m, load program random = .ok m ∧ ∀ as k, 2 * k + 1 < program.length →
      (m.after as).parked = none → (m.after as).registers.pc.toNat = 0x200 + 2 * k →
      m.Keeps as (0x200 + 2 * k) → m.Keeps as (0x200 + (2 * k + 1)) →
      ∃ item, (disassemble program 0x200)[k]? = some item ∧ (m.after as).Heeds item := by
  have hl := load_of_fits hfit random
  refine ⟨_, hl, fun as k hk hp hpc hhigh hlow => ?_⟩
  have hword := wordAt_of_keeps hl hk hhigh hlow
  generalize after _ as = n at hp hpc hword ⊢
  have haddress : n.registers.pc = 0x200 + UInt16.ofNat (2 * k) := by
    rw [← UInt16.toNat_inj, hpc, UInt16.toNat_add, UInt16.toNat_ofNat']
    have h512 : (0x200 : UInt16).toNat = 0x200 := rfl
    omega
  refine ⟨⟨n.registers.pc, n.word⟩, ?_, heeds_word hp (by omega)⟩
  rw [getElem?_disassemble hk, ← haddress, word, hpc, hword]

/-- The theorem at a program of one word that stands for nothing, after a key went down. -/
theorem heeds_disassemble_unknown :
    ∃ m, load [0x80, 0x08] (.cycle #[]) = .ok m ∧
      (m.after [.press 3]).tick =
        .failed { m.after [.press 3] with drawn := false } (.unknownOpcode ⟨0x8008⟩ 0x200) := by
  have hfit : ([0x80, 0x08] : List UInt8).length ≤ 3584 := by decide
  obtain ⟨m, hl, hagree⟩ := heeds_disassemble _ (.cycle #[]) hfit
  obtain ⟨hp, hpc⟩ : m.parked = none ∧ m.registers.pc.toNat = 0x200 := by
    obtain rfl := Except.ok.inj (hl.symm.trans (load_of_fits hfit _))
    exact ⟨rfl, rfl⟩
  have hkeeps : ∀ a, m.Keeps [.press 3] a := fun a => atTicks_cons.mpr ⟨nofun, atTicks_nil⟩
  obtain ⟨item, hitem, hheeds⟩ := hagree [.press 3] 0 (by decide) hp hpc (hkeeps _) (hkeeps _)
  obtain rfl : ⟨0x200, ⟨0x8008⟩⟩ = item := Option.some.inj hitem
  exact ⟨m, hl, hheeds.fails (by decide)⟩

end Machine

end ChipEight
