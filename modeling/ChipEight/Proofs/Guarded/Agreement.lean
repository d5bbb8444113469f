import ChipEight.Proofs.Guarded.Machine
import ChipEight.Proofs.Soundness

/-!
# Proofs — Guarded — Agreement

No check of the guarded machine fails on a machine that some history of a loaded program leads to,
and what the guarded machine then does is what the machine does.
-/

namespace ChipEight.Guarded

/-! ### Checked operations -/

@[simp] theorem ok_bind {ε α β : Type} (a : α) (f : α → Except ε β) :
    (Except.ok a >>= f) = f a := rfl

@[simp] theorem pure_eq_ok {ε α : Type} (a : α) : (pure a : Except ε α) = .ok a := rfl

theorem entry_eq {α : Type} {n : Nat} {xs : Vector α n} {i : Nat} (h : i < n) :
    entry xs i = .ok xs[i] := dif_pos h

theorem replace_eq {α : Type} {n : Nat} {xs : Vector α n} {i : Nat} (h : i < n) (a : α) :
    replace xs i a = .ok (xs.set i a) := dif_pos h

theorem sum_eq {a b : UInt16} (h : a.toNat + b.toNat < 0x10000) : sum a b = .ok (a + b) := if_pos h

theorem product_eq {a b : UInt16} (h : a.toNat * b.toNat < 0x10000) :
    product a b = .ok (a * b) := if_pos h

theorem successor_eq {n : Nat} (h : n + 1 < 0x100) : successor n = .ok (n + 1) := if_pos h

/-! ### Memory -/

/-- A block has bounds exactly when it fits. -/
theorem span_eq (a : UInt16) (count : Nat) :
    span a count =
      if count = 0 then .ok (0, 0)
      else if Memory.Fits a count then .ok (a.toNat, a.toNat + count)
      else .error (Memory.outside a) := by
  unfold span Memory.Fits Memory.outside
  by_cases h : count = 0
  · simp [h]
  · by_cases hs : Memory.size < a.toNat + count
    · simp [h, hs, Nat.not_le.mpr hs]
    · simp [h, hs, Nat.not_lt.mp hs]

theorem slice_eq {m : Memory} {start count : Nat} (h : start + count ≤ Memory.size) :
    slice m start (start + count) =
      .ok ((List.range count).map fun k => m.byteAt (start + k)) := by
  unfold slice
  rw [if_pos ⟨Nat.le_add_right _ _, h⟩]
  congr 1
  simp only [Memory.size] at h
  refine List.ext_getElem (by simp; omega) fun k hk hk' => ?_
  have hlt : start + k < 4096 := by simp at hk'; omega
  simp [Memory.byteAt, Vector.getElem?_eq_getElem hlt]

theorem read_eq (m : Memory) (a : UInt16) (count : Nat) :
    read m a count = .ok (m.read a count) := by
  unfold read Memory.read
  rw [span_eq]
  by_cases h0 : count = 0
  · subst h0
    have hs : slice m 0 0 = .ok [] := @slice_eq m 0 0 (Nat.zero_le _)
    simp [hs, Memory.Fits]
  · by_cases hf : Memory.Fits a count
    · have hs := slice_eq (m := m) (hf.resolve_left h0)
      simp only [h0, hf, if_true, if_false, hs, ok_bind, pure_eq_ok]
    · simp only [h0, hf, if_false, pure_eq_ok]

theorem write_eq (m : Memory) (a : UInt16) (data : List UInt8) :
    write m a data = .ok (m.write a data) := by
  unfold write Memory.write
  rw [span_eq]
  by_cases h0 : data.length = 0
  · obtain rfl := List.length_eq_zero_iff.mp h0
    simp [overwrite, Memory.Fits, Memory.overlay]
  · by_cases hf : Memory.Fits a data.length
    · have hle := hf.resolve_left h0
      have ho : overwrite m a.toNat (a.toNat + data.length) data =
          .ok (m.overlay a.toNat data) := by
        simp [overwrite, hle]
      simp only [h0, hf, if_true, if_false, ho, ok_bind, pure_eq_ok]
    · simp only [h0, hf, if_false, pure_eq_ok]

theorem readWord_eq (m : Memory) (a : UInt16) : readWord m a = .ok (m.readWord a) := by
  unfold readWord Memory.readWord
  rw [read_eq]
  unfold Memory.read
  by_cases hf : Memory.Fits a 2
  · simp [hf, item, List.range_succ]
  · simp [hf]

/-! ### Picture -/

theorem locate_eq (p : Pixel) : Pixel.locate p.row.val p.col.val = .ok p :=
  dif_pos ⟨p.row.isLt, p.col.isLt⟩

theorem lit_eq (f : Frame) (p : Pixel) : lit f p.row.val p.col.val = .ok (f.lit p) := by
  simp only [lit, locate_eq]

theorem light_eq (f : Frame) (p : Pixel) (on : Bool) :
    light f p.row.val p.col.val on = .ok (f.put p on) := by
  simp only [light, locate_eq]

/-- Rows and columns are taken modulo the size of the picture, so every pixel is in it. -/
theorem drawBit_eq (x : Nat) (row : Fin 32) (byte : UInt8) (s : Frame × Bool) (bit : Nat) :
    drawBit x row.val byte s bit = .ok
      (if byte.toNat.testBit (7 - bit) then
        Frame.strike s ⟨row, ⟨(x + bit) % 64, Nat.mod_lt _ (by decide)⟩⟩
      else s) := by
  have hl := lit_eq s.1 ⟨row, ⟨(x + bit) % 64, Nat.mod_lt _ (by decide)⟩⟩
  have hp := light_eq s.1 ⟨row, ⟨(x + bit) % 64, Nat.mod_lt _ (by decide)⟩⟩
  unfold drawBit
  split
  · simp only [Frame.width, hl, hp, ok_bind, pure_eq_ok, Frame.strike, Frame.toggle]
  · rfl

/-- A loop whose every pass succeeds is the loop without checks. -/
theorem foldlM_eq {ε α β : Type} {f : β → α → Except ε β} {g : β → α → β}
    (h : ∀ b a, f b a = .ok (g b a)) (xs : List α) (b : β) :
    xs.foldlM f b = .ok (xs.foldl g b) := by
  obtain rfl : f = fun b a => pure (g b a) := funext fun b => funext fun a => h b a
  exact List.foldlM_pure

theorem drawByte_eq (x y : UInt8) (s : Frame × Bool) (item : UInt8 × Nat) :
    drawByte x y s item = .ok
      (((Frame.coveredColumns x item.1).map fun col =>
        (⟨⟨(y.toNat + item.2) % 32, Nat.mod_lt _ (by decide)⟩, col⟩ : Pixel)).foldl
          Frame.strike s) := by
  have hb := drawBit_eq x.toNat ⟨(y.toNat + item.2) % 32, Nat.mod_lt _ (by decide)⟩ item.1
  refine (foldlM_eq hb _ s).trans ?_
  rw [Frame.coveredColumns, List.map_map, List.foldl_map, List.foldl_filter]
  rfl

theorem draw_eq (f : Frame) (x y : UInt8) (sprite : List UInt8) :
    draw f x y sprite = .ok (f.draw x y sprite) := by
  refine (foldlM_eq (drawByte_eq x y) _ (f, false)).trans ?_
  rw [Frame.draw, Frame.covered, List.foldl_flatMap]

/-! ### Registers -/

theorem get_eq (m : Machine) (x : Register) : get m x = .ok (m.registers.get x) :=
  entry_eq x.isLt

theorem put_eq (m : Machine) (x : Register) (b : UInt8) : put m x b = .ok (m.put x b) := by
  unfold put
  rw [replace_eq x.isLt]
  rfl

theorem putFlagged_eq (m : Machine) (x : Register) (f : Arithmetic.Flagged) :
    putFlagged m x f = .ok (m.putFlagged x f) := by
  simp only [putFlagged, put_eq, ok_bind, Machine.putFlagged]

theorem upTo_eq (m : Machine) (x : Register) : upTo m x = .ok (m.registers.upTo x) := if_pos x.isLt

theorem putUpTo_eq {m : Machine} {x : Register} {bytes : List UInt8}
    (h : bytes.length = x.val + 1) :
    putUpTo m x bytes = .ok { m with registers := m.registers.putFirst bytes } :=
  (if_pos x.isLt).trans (if_pos h)

theorem addCarry_eq (a b : UInt8) : addCarry a b = .ok (Arithmetic.addCarry a b) := by
  have ha := a.toNat_lt
  have hb := b.toNat_lt
  have hs : a.toUInt16.toNat + b.toUInt16.toNat < 0x10000 := by
    simp only [UInt8.toNat_toUInt16]
    omega
  have hn : (a.toUInt16 + b.toUInt16).toNat = a.toNat + b.toNat := by
    simp only [UInt16.toNat_add, UInt8.toNat_toUInt16]
    omega
  have hr : (a.toUInt16 + b.toUInt16).toUInt8 = a + b := by
    rw [← UInt8.toNat_inj, UInt16.toNat_toUInt8, hn, UInt8.toNat_add]
  have hf : (0xFF < a.toUInt16 + b.toUInt16) ↔ 0xFF < a.toNat + b.toNat := by
    rw [UInt16.lt_iff_toNat_lt, hn]
    rfl
  simp only [addCarry, sum_eq hs, ok_bind, pure_eq_ok, hr, hf, Arithmetic.addCarry]

/-! ### Instructions -/

theorem skipIf_eq {m : Machine} (h : m.registers.pc.toNat + 2 < 0x10000) (c : Bool) :
    skipIf m c = .ok (m.skipIf c) := by
  cases c with
  | false => rfl
  | true =>
      have hs : sum m.registers.pc 2 = .ok (m.registers.pc + 2) := sum_eq h
      simp only [skipIf, if_true, hs, ok_bind, pure_eq_ok]
      rfl

theorem ret_eq {m : Machine} (h : m.registers.sp ≤ 16) : ret m = .ok m.ret := by
  unfold ret Machine.ret Registers.pop
  by_cases hs : m.registers.sp = 0
  · simp only [hs, if_true, pure_eq_ok]
  · have hi : m.registers.sp - 1 < 16 := by omega
    simp only [hs, if_false, entry_eq hi, ok_bind, pure_eq_ok, Vector.getElem?_eq_getElem hi,
      Option.getD_some]

theorem call_eq (m : Machine) (a : Address) : call m a = .ok (m.call a) := by
  by_cases hs : m.registers.sp < 16
  · have hp : m.registers.push m.registers.pc = .ok _ := dif_pos hs
    have hn : successor m.registers.sp = .ok (m.registers.sp + 1) := successor_eq (by omega)
    simp only [call, Machine.call, hp, hs, dite_true, hn, ok_bind, pure_eq_ok]
  · have hp : m.registers.push m.registers.pc = .error _ := dif_neg hs
    simp only [call, Machine.call, hp, hs, dite_false, pure_eq_ok]

theorem drawSprite_eq (m : Machine) (x y : Register) (height : Fin 16) :
    drawSprite m x y height = .ok (m.drawSprite x y height) := by
  simp only [drawSprite, Machine.drawSprite, put_eq, get_eq, read_eq, ok_bind, pure_eq_ok]
  cases (m.put Registers.flag 0).memory.read _ _ with
  | ok sprite => simp only [draw_eq, done, ok_bind, pure_eq_ok]
  | error e => rfl

theorem awaitKey_eq (m : Machine) (x : Register) : awaitKey m x = .ok (m.awaitKey x) := by
  unfold awaitKey Machine.awaitKey
  cases m.keypad.firstPressed with
  | some key => exact put_eq m x _
  | none => rfl

theorem writeBlock_eq (m : Machine) (bytes : List UInt8) :
    writeBlock m bytes = .ok (m.writeBlock bytes) := by
  simp only [writeBlock, Machine.writeBlock, write_eq, ok_bind]
  cases m.memory.write m.registers.index bytes <;> rfl

theorem readBlock_eq (m : Machine) (x : Register) : readBlock m x = .ok (m.readBlock x) := by
  simp only [readBlock, Machine.readBlock, read_eq, ok_bind]
  cases hr : m.memory.read m.registers.index (x.val + 1) with
  | ok bytes =>
      simp only [putUpTo_eq (Memory.length_read hr), done, ok_bind, pure_eq_ok]
  | error e => rfl

/-- A jump is from at most twelve bits by at most eight, which sixteen have room for. -/
theorem jumpOffset_eq (b : UInt8) (a : Address) :
    sum b.toUInt16 (UInt16.ofNat a.val) = .ok (UInt16.ofNat (a.val + b.toNat)) := by
  have hb := b.toNat_lt
  have ha : (UInt16.ofNat a.val).toNat = a.val := by
    rw [UInt16.toNat_ofNat']
    omega
  have hs : b.toUInt16.toNat + (UInt16.ofNat a.val).toNat < 0x10000 := by
    rw [UInt8.toNat_toUInt16, ha]
    omega
  rw [sum_eq hs, Except.ok.injEq, ← UInt16.toNat_inj, UInt16.toNat_add, UInt8.toNat_toUInt16, ha,
    UInt16.toNat_ofNat']
  omega

/-- Even the highest byte has its glyph well below the top. -/
theorem toNat_glyphOffset (b : UInt8) :
    (UInt16.ofNat Font.glyphSize).toNat * b.toUInt16.toNat = 5 * b.toNat ∧
      (UInt16.ofNat Font.glyphSize * b.toUInt16).toNat = 5 * b.toNat := by
  have hb := b.toNat_lt
  have hg : (UInt16.ofNat Font.glyphSize).toNat = 5 := rfl
  rw [UInt16.toNat_mul, hg, UInt8.toNat_toUInt16]
  exact ⟨rfl, Nat.mod_eq_of_lt (by omega)⟩

theorem product_glyph (b : UInt8) :
    product (UInt16.ofNat Font.glyphSize) b.toUInt16 =
      .ok (UInt16.ofNat Font.glyphSize * b.toUInt16) := by
  have hb := b.toNat_lt
  refine product_eq ?_
  rw [(toNat_glyphOffset b).1]
  omega

theorem sum_glyph (b : UInt8) :
    sum (UInt16.ofNat Font.start) (UInt16.ofNat Font.glyphSize * b.toUInt16) =
      .ok (Font.glyphAddress b) := by
  have hb := b.toNat_lt
  have hs : (UInt16.ofNat Font.start).toNat = 80 := rfl
  have hg := (toNat_glyphOffset b).2
  rw [sum_eq (by omega), Except.ok.injEq, ← UInt16.toNat_inj, UInt16.toNat_add,
    Font.toNat_glyphAddress, hs, hg, Font.start, Font.glyphSize]
  omega

/-- **No check of an instruction fails** where the program counter has room to skip and the stack
pointer is in range. -/
theorem perform_eq {m : Machine} (hpc : m.registers.pc.toNat + 2 < 0x10000)
    (hsp : m.registers.sp ≤ 16) (ins : Instruction) : perform m ins = .ok (m.execute ins) := by
  cases ins
  case ret => exact ret_eq hsp
  case call a => exact call_eq m a
  case draw x y height => exact drawSprite_eq m x y height
  case load x => exact readBlock_eq m x
  case jumpOffset a =>
    simp only [perform, Machine.execute, get_eq, jumpOffset_eq, ok_bind, pure_eq_ok]
  case glyph x =>
    simp only [perform, Machine.execute, get_eq, product_glyph, sum_glyph, ok_bind, pure_eq_ok]
  all_goals
    simp only [perform, Machine.execute, Machine.drawRandom, get_eq, put_eq, putFlagged_eq, upTo_eq,
      skipIf_eq hpc, addCarry_eq, writeBlock_eq, awaitKey_eq, done, ok_bind, pure_eq_ok]

/-! ### Words -/

/-- **A word is executed as the instruction that it decodes to.**  The dispatch over its nibbles
finds a row for every word that the decoder accepts, and takes the operands that the decoder
takes. -/
theorem execute_eq_perform {op : Opcode} {ins : Instruction}
    (h : Instruction.decode op = some ins) (m : Machine) : execute m op = perform m ins := by
  have ht := Instruction.standsFor_of_decode h
  cases ins
  case sys a =>
    obtain ⟨hb, rfl, h₁, h₂⟩ := ht
    -- neither of the two rows above this one fits
    have hc : op.x = 0x0 → op.y = 0xE → op.n = 0x0 → False := fun hx hy hn =>
      h₁ (Opcode.addr_eq_iff.mpr (by rw [hx, hy, hn]; decide))
    have hr : op.x = 0x0 → op.y = 0xE → op.n = 0xE → False := fun hx hy hn =>
      h₂ (Opcode.addr_eq_iff.mpr (by rw [hx, hy, hn]; decide))
    simp only [execute, hb]
  case cls =>
    obtain ⟨hb, ha⟩ := ht
    obtain ⟨hx, hy, hn⟩ := Opcode.addr_eq_iff.mp ha
    simp only [execute, hb, show op.x = 0x0 from Fin.ext hx, show op.y = 0xE from Fin.ext hy,
      show op.n = 0x0 from Fin.ext hn]
  case ret =>
    obtain ⟨hb, ha⟩ := ht
    obtain ⟨hx, hy, hn⟩ := Opcode.addr_eq_iff.mp ha
    simp only [execute, hb, show op.x = 0x0 from Fin.ext hx, show op.y = 0xE from Fin.ext hy,
      show op.n = 0xE from Fin.ext hn]
  case jump | call | loadIndex | jumpOffset =>
    obtain ⟨hb, rfl⟩ := ht
    simp only [execute, hb]
  case copy | or | and | xor | add | sub | subn =>
    obtain ⟨hb, rfl, rfl, hn⟩ := ht
    simp only [execute, hb, hn]
  case shr | shl =>
    obtain ⟨hb, rfl, hn⟩ := ht
    simp only [execute, hb, hn]
  case draw =>
    obtain ⟨hb, rfl, rfl, rfl⟩ := ht
    simp only [execute, hb]
  case skipIfKey | skipUnlessKey | readDelay | awaitKey | setDelay | setSound | addIndex | glyph
      | decimal | store | load =>
    obtain ⟨hb, rfl, hk⟩ := ht
    rw [execute, hb, Opcode.y_of_kk hk, Opcode.n_of_kk hk]
    rfl
  all_goals
    obtain ⟨hb, rfl, rfl⟩ := ht
    simp only [execute, hb]

/-! ### Ticks and runs -/

theorem pollKey_eq (m : Machine) (x : Register) : pollKey m x = .ok (m.pollKey x) := by
  unfold pollKey Machine.pollKey
  cases m.keypad.firstPressed with
  | some key => simp only [put_eq, ok_bind, pure_eq_ok]
  | none => rfl

/-- Past the word at the program counter there is room for one more. -/
theorem perform_advance_eq {m : Machine} (h : m.Sound) (hpc : m.registers.pc.toNat ≤ 4094)
    (ins : Instruction) :
    perform { m with registers := m.registers.advance } ins =
      .ok (Machine.execute { m with registers := m.registers.advance } ins) := by
  have hb : m.registers.advance.pc.toNat = m.registers.pc.toNat + 2 := Machine.toNat_pc_begun hpc
  have hroom : m.registers.advance.pc.toNat + 2 < 0x10000 := by omega
  exact perform_eq (m := { m with registers := m.registers.advance }) hroom h.sp_le ins

theorem runNext_eq {m : Machine} (h : m.Sound) : runNext m = .ok m.runNext := by
  have hf : readWord m.memory m.registers.pc = .ok m.fetch := readWord_eq _ _
  simp only [runNext, Machine.runNext, Machine.next, hf, ok_bind, pure_eq_ok]
  cases he : m.fetch with
  | error e => rfl
  | ok op =>
      cases hd : Instruction.decode op with
      | none => simp only [hd]
      | some ins =>
          have hn : m.next = .ok (op, ins) := by simp only [Machine.next, he, hd]
          have hpc := (Machine.next_eq_ok_iff.mp hn).1
          have hs : sum m.registers.pc 2 = .ok (m.registers.pc + 2) :=
            sum_eq (Nat.lt_of_le_of_lt (Nat.add_le_add_right hpc 2) (by decide))
          have hgo : m.goTo (m.registers.pc + 2) =
            { m with registers := m.registers.advance } := rfl
          simp only [hd, hs, hgo, execute_eq_perform hd, perform_advance_eq h hpc, ok_bind]
          rcases Machine.execute { m with registers := m.registers.advance } ins with ⟨m', _ | _⟩
            <;> rfl

/-- **On a sound machine no check of a tick fails.** -/
theorem tick_eq {m : Machine} (h : m.Sound) : tick m = .ok m.tick := by
  have hq : ({ m with drawn := false } : Machine).Sound := h.of_stack h.pc_le rfl rfl
  obtain ⟨r, memory, frame, keypad, random, parked, drawn⟩ := m
  simp only [tick, Machine.tick]
  cases parked with
  | some x =>
      simp only [pollKey_eq, ok_bind]
      rcases Machine.pollKey ⟨r, memory, frame, keypad, random, some x, false⟩ x with ⟨m', _ | _⟩
        <;> rfl
  | none =>
      simp only [runNext_eq hq, ok_bind]
      rcases Machine.runNext ⟨r, memory, frame, keypad, random, none, false⟩ with ⟨m', _ | _⟩
        <;> rfl

theorem act_eq {m : Machine} (h : m.Sound) (a : Action) : act m a = .ok (m.act a) := by
  cases a with
  | tick => simp only [act, Machine.act, tick_eq h, ok_bind, pure_eq_ok]
  | press key => rfl
  | release key => rfl

/-- **On a sound machine no check of a run fails.** -/
theorem run_eq {m : Machine} (h : m.Sound) (actions : List Action) :
    run m actions = .ok (m.after actions) := by
  induction actions generalizing m with
  | nil => rfl
  | cons a as ih => simp only [run, act_eq h, ok_bind, ih (h.act a), Machine.after_cons]

/-- No check fails while a program is loaded, whether it fits or not. -/
theorem load_eq (program : List UInt8) (random : ByteStream) :
    load program random = .ok (Machine.load program random) := by
  unfold load Machine.load Memory.load
  by_cases hl : program.length ≤ Memory.programLimit
  · have hf : Memory.Fits Memory.programStart program.length :=
      .inr ((Nat.le_sub_iff_add_le' (by decide)).mp hl)
    have hw : Memory.initial.write Memory.programStart program = .ok _ := if_pos hf
    simp only [Nat.not_lt.mpr hl, hl, if_true, if_false, write_eq, hw, ok_bind, pure_eq_ok]
  · simp only [Nat.lt_of_not_le hl, hl, if_true, if_false, pure_eq_ok]

/-! ### Programs that fit -/

/-- **A program that fits is never breached.**  Whatever is done to the machine, however many of its
ticks fail and whatever the random bytes are, every check on the way holds, what comes of it is
what the machine makes of it, and the bounds that this rests on hold all along. -/
theorem run_of_fits (program : List UInt8) (random : ByteStream) (hfit : program.length ≤ 3584) :
    ∃ m, load program random = .ok (.ok m) ∧ Machine.load program random = .ok m ∧
      ∀ actions, run m actions = .ok (m.after actions) ∧
        tick (m.after actions) = .ok (m.after actions).tick ∧ (m.after actions).Sound := by
  have hl := Machine.load_of_fits hfit random
  refine ⟨_, (load_eq program random).trans (congrArg _ hl), hl, fun actions => ?_⟩
  have hs := Machine.sound_load hl
  have ha := ((Machine.Reachable.load hl).after actions).sound
  exact ⟨run_eq hs actions, tick_eq ha, ha⟩

/-- The theorem at a program that calls itself until the stack is full. -/
theorem run_of_fits_selfCall :
    ([0x22, 0x00] : List UInt8).length ≤ 3584 ∧
    ∃ m, load [0x22, 0x00] (.cycle #[]) = .ok (.ok m) ∧
      Machine.load [0x22, 0x00] (.cycle #[]) = .ok m ∧
      ∀ actions, run m actions = .ok (m.after actions) ∧
        tick (m.after actions) = .ok (m.after actions).tick ∧ (m.after actions).Sound :=
  ⟨by decide, run_of_fits [0x22, 0x00] (.cycle #[]) (by decide)⟩

end ChipEight.Guarded
