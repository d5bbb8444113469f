import ChipEight.Instruction

/-!
# Proofs — Opcodes

The instruction set as a table, beside the decoder that reads it.

* `Opcode.StandsFor`: the words of each instruction, field by field.  `decode` finds an
  instruction exactly when the word stands for it (`Instruction.decode_eq_some_iff`).
* `Opcode.Undefined`: the words of bands eight, fourteen and fifteen that no row of the table
  has.  They are the ones that `decode` refuses (`Instruction.decode_eq_none_iff`).
-/

namespace ChipEight

namespace Opcode

/-- The words that stand for an instruction. -/
def StandsFor (op : Opcode) : Instruction → Prop
  | .sys a => op.band = 0x0 ∧ op.addr = a ∧ a ≠ 0x0E0 ∧ a ≠ 0x0EE
  | .cls => op.band = 0x0 ∧ op.addr = 0x0E0
  | .ret => op.band = 0x0 ∧ op.addr = 0x0EE
  | .jump a => op.band = 0x1 ∧ op.addr = a
  | .call a => op.band = 0x2 ∧ op.addr = a
  | .skipIfByte x b => op.band = 0x3 ∧ op.x = x ∧ op.kk = b
  | .skipUnlessByte x b => op.band = 0x4 ∧ op.x = x ∧ op.kk = b
  | .skipIfEqual x y => op.band = 0x5 ∧ op.x = x ∧ op.y = y
  | .loadByte x b => op.band = 0x6 ∧ op.x = x ∧ op.kk = b
  | .addByte x b => op.band = 0x7 ∧ op.x = x ∧ op.kk = b
  | .copy x y => op.band = 0x8 ∧ op.x = x ∧ op.y = y ∧ op.n = 0x0
  | .or x y => op.band = 0x8 ∧ op.x = x ∧ op.y = y ∧ op.n = 0x1
  | .and x y => op.band = 0x8 ∧ op.x = x ∧ op.y = y ∧ op.n = 0x2
  | .xor x y => op.band = 0x8 ∧ op.x = x ∧ op.y = y ∧ op.n = 0x3
  | .add x y => op.band = 0x8 ∧ op.x = x ∧ op.y = y ∧ op.n = 0x4
  | .sub x y => op.band = 0x8 ∧ op.x = x ∧ op.y = y ∧ op.n = 0x5
  | .shr x => op.band = 0x8 ∧ op.x = x ∧ op.n = 0x6
  | .subn x y => op.band = 0x8 ∧ op.x = x ∧ op.y = y ∧ op.n = 0x7
  | .shl x => op.band = 0x8 ∧ op.x = x ∧ op.n = 0xE
  | .skipUnlessEqual x y => op.band = 0x9 ∧ op.x = x ∧ op.y = y
  | .loadIndex a => op.band = 0xA ∧ op.addr = a
  | .jumpOffset a => op.band = 0xB ∧ op.addr = a
  | .random x mask => op.band = 0xC ∧ op.x = x ∧ op.kk = mask
  | .draw x y height => op.band = 0xD ∧ op.x = x ∧ op.y = y ∧ op.n = height
  | .skipIfKey x => op.band = 0xE ∧ op.x = x ∧ op.kk = 0x9E
  | .skipUnlessKey x => op.band = 0xE ∧ op.x = x ∧ op.kk = 0xA1
  | .readDelay x => op.band = 0xF ∧ op.x = x ∧ op.kk = 0x07
  | .awaitKey x => op.band = 0xF ∧ op.x = x ∧ op.kk = 0x0A
  | .setDelay x => op.band = 0xF ∧ op.x = x ∧ op.kk = 0x15
  | .setSound x => op.band = 0xF ∧ op.x = x ∧ op.kk = 0x18
  | .addIndex x => op.band = 0xF ∧ op.x = x ∧ op.kk = 0x1E
  | .glyph x => op.band = 0xF ∧ op.x = x ∧ op.kk = 0x29
  | .decimal x => op.band = 0xF ∧ op.x = x ∧ op.kk = 0x33
  | .store x => op.band = 0xF ∧ op.x = x ∧ op.kk = 0x55
  | .load x => op.band = 0xF ∧ op.x = x ∧ op.kk = 0x65

/-- The words that stand for no instruction. -/
def Undefined (op : Opcode) : Prop :=
  op.band = 0x8 ∧ (0x8 ≤ op.n ∧ op.n ≤ 0xD ∨ op.n = 0xF) ∨
  op.band = 0xE ∧ op.kk ∉ [0x9E, 0xA1] ∨
  op.band = 0xF ∧ op.kk ∉ [0x07, 0x0A, 0x15, 0x18, 0x1E, 0x29, 0x33, 0x55, 0x65]

/-! ### Nibbles of the low byte and of the low twelve bits -/

theorem y_of_kk {op : Opcode} {b : UInt8} (h : op.kk = b) :
    op.y = ⟨b.toNat / 16, Nat.div_lt_of_lt_mul b.toNat_lt⟩ := by
  subst h
  simp only [y, kk, UInt8.toNat_ofNat', Fin.ext_iff]
  omega

theorem n_of_kk {op : Opcode} {b : UInt8} (h : op.kk = b) :
    op.n = ⟨b.toNat % 16, Nat.mod_lt _ (by decide)⟩ := by
  subst h
  simp only [n, kk, UInt8.toNat_ofNat', Fin.ext_iff]
  omega

theorem addr_eq_iff {op : Opcode} {a : Address} :
    op.addr = a ↔ op.x.val = a.val / 256 ∧ op.y.val = a.val / 16 % 16 ∧ op.n.val = a.val % 16 := by
  simp only [addr, x, y, n, Fin.ext_iff]
  omega

end Opcode

namespace Instruction

/-! ### The table and the decoder -/

theorem standsFor_of_decode {op : Opcode} {ins : Instruction} (h : decode op = some ins) :
    op.StandsFor ins := by
  unfold decode at h
  split at h
  case h_1 hb =>
    obtain rfl := Option.some.inj h
    unfold ofAddress
    split
    case h_1 ha => exact ⟨hb, ha⟩
    case h_2 ha => exact ⟨hb, ha⟩
    case h_3 h₁ h₂ => exact ⟨hb, rfl, fun h => h₁ h, fun h => h₂ h⟩
  case h_9 hb =>
    unfold ofOperation? at h
    split at h <;> cases h
    all_goals first | exact ⟨hb, rfl, rfl, ‹_›⟩ | exact ⟨hb, rfl, ‹_›⟩
  case h_15 hb =>
    unfold ofKeyTest? at h
    split at h <;> cases h
    all_goals exact ⟨hb, rfl, ‹_›⟩
  case h_16 =>
    -- fifteen is the only band that no row before it takes
    have hb : op.band = 0xF := by grind
    unfold ofDevice? at h
    split at h <;> cases h
    all_goals exact ⟨hb, rfl, ‹_›⟩
  all_goals
    obtain rfl := Option.some.inj h
    first | exact ⟨‹_›, rfl⟩ | exact ⟨‹_›, rfl, rfl⟩ | exact ⟨‹_›, rfl, rfl, rfl⟩

theorem decode_of_standsFor {op : Opcode} {ins : Instruction} (h : op.StandsFor ins) :
    decode op = some ins := by
  cases ins
  case sys a =>
    obtain ⟨hb, rfl, h₁, h₂⟩ := h
    simp only [decode, hb, ofAddress]
  all_goals
    simp only [Opcode.StandsFor] at h
    simp only [decode, ofAddress, ofOperation?, ofKeyTest?, ofDevice?, h]

/-- **The decoder reads the table.** -/
theorem decode_eq_some_iff {op : Opcode} {ins : Instruction} :
    decode op = some ins ↔ op.StandsFor ins :=
  ⟨standsFor_of_decode, decode_of_standsFor⟩

/-! ### What is left over -/

theorem ofOperation?_eq_none_iff {x y : Register} {n : Fin 16} :
    ofOperation? x y n = none ↔ 0x8 ≤ n ∧ n ≤ 0xD ∨ n = 0xF := by
  unfold ofOperation?
  split <;> grind

theorem ofKeyTest?_eq_none_iff {x : Register} {b : UInt8} :
    ofKeyTest? x b = none ↔ b ∉ [0x9E, 0xA1] := by
  unfold ofKeyTest?
  split <;> simp_all

theorem ofDevice?_eq_none_iff {x : Register} {b : UInt8} :
    ofDevice? x b = none ↔ b ∉ [0x07, 0x0A, 0x15, 0x18, 0x1E, 0x29, 0x33, 0x55, 0x65] := by
  unfold ofDevice?
  split <;> simp_all

/-- **The words that the decoder refuses** are the undefined ones. -/
theorem decode_eq_none_iff {op : Opcode} : decode op = none ↔ op.Undefined := by
  unfold decode Opcode.Undefined
  split
  case h_9 hb => simp [hb, ofOperation?_eq_none_iff]
  case h_15 hb => simp [hb, ofKeyTest?_eq_none_iff]
  case h_16 =>
    have hb : op.band = 0xF := by grind
    simp [hb, ofDevice?_eq_none_iff]
  all_goals simp [*]

end Instruction

end ChipEight
