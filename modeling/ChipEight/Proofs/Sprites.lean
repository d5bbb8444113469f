import ChipEight.Proofs.Drawing
import ChipEight.Proofs.Footprint

/-!
# Proofs — Sprites

What a tick draws.  The sprite is taken from the memory that the index points at, and the place from
two registers.  The flag register is cleared before it may be read as a coordinate, so a place that
is taken from it does not depend on the collision that an earlier drawing left there.

* `Machine.Covers`: the pixels that the set bits of the sprite at the index fall on.
* `Machine.drawn_tick`: the frame and the flag that a drawing leaves.
* `Machine.draw_twice`: a drawing that is made twice in a row takes itself back.
-/

namespace ChipEight

/-- Of two bytes that are put into one register the second stays. -/
theorem Registers.put_put (r : Registers) (x : Register) (a b : UInt8) :
    (r.put x a).put x b = r.put x b := by
  simp only [put, Vector.set_set]

namespace Machine

variable {m m' first second : Machine} {x y : Register} {height : Fin 16} {p : Pixel}

/-! ### What is drawn, and where -/

/-- What a register is read as when it is a coordinate: the flag register is clear by then. -/
def coordinate (m : Machine) (x : Register) : UInt8 :=
  if x = Registers.flag then 0 else m.registers.get x

/-- The sprite of some height at the index. -/
def sprite (m : Machine) (height : Fin 16) : List UInt8 :=
  (List.range height.val).map fun k => m.memory.byteAt (m.registers.index.toNat + k)

/-- A set bit of the sprite at the index falls on a pixel. -/
def Covers (m : Machine) (x y : Register) (height : Fin 16) (p : Pixel) : Prop :=
  ∃ k < height.val, ∃ b < 8,
    (m.memory.byteAt (m.registers.index.toNat + k)).toNat.testBit (7 - b) = true ∧
      p.row.val = ((m.coordinate y).toNat + k) % 32 ∧
      p.col.val = ((m.coordinate x).toNat + b) % 64

/-- What the drawing of the sprite at the index makes of the frame, and whether it collides. -/
def drawing (m : Machine) (x y : Register) (height : Fin 16) : Frame × Bool :=
  m.frame.draw (m.coordinate x) (m.coordinate y) (m.sprite height)

/-- The machine with the drawing in its frame. -/
def withDrawing (m : Machine) (x y : Register) (height : Fin 16) : Machine :=
  { m with frame := (m.drawing x y height).1 }

theorem length_sprite : (m.sprite height).length = height.val := by
  rw [sprite, List.length_map, List.length_range]

theorem length_sprite_le : (m.sprite height).length ≤ 32 := by
  rw [length_sprite]
  omega

theorem covers_iff_mem_covered : m.Covers x y height p ↔
    p ∈ Frame.covered (m.coordinate x) (m.coordinate y) (m.sprite height) := by
  rw [Frame.mem_covered_iff, length_sprite, Covers]
  refine exists_congr fun k => and_congr_right fun hk => ?_
  have hrow : (m.sprite height).getD k 0 = m.memory.byteAt (m.registers.index.toNat + k) := by
    simp [sprite, hk]
  simp only [Frame.isSet, hrow]

/-- A byte that is not zero has a set bit. -/
theorem exists_testBit_of_ne_zero {a : UInt8} (h : a ≠ 0) :
    ∃ b < 8, a.toNat.testBit (7 - b) = true := by
  have hne : a.toNat ≠ 0 := fun h0 => h (UInt8.toNat_inj.mp h0)
  obtain ⟨i, hi⟩ := Nat.exists_testBit_of_ne_zero hne
  have hlt : i < 8 := by
    by_contra hge
    have hpow : a.toNat < 2 ^ i :=
      Nat.lt_of_lt_of_le a.toNat_lt (Nat.pow_le_pow_right Nat.two_pos (Nat.not_lt.mp hge))
    rw [Nat.testBit_lt_two_pow hpow] at hi
    cases hi
  exact ⟨7 - i, by omega, by rwa [show 7 - (7 - i) = i by omega]⟩

/-- Some pixel is covered unless all bytes of the sprite are zero. -/
theorem exists_covers_iff : (∃ p, m.Covers x y height p) ↔
    ∃ k < height.val, m.memory.byteAt (m.registers.index.toNat + k) ≠ 0 := by
  constructor
  · rintro ⟨p, k, hk, b, -, hset, -⟩
    refine ⟨k, hk, fun h0 => ?_⟩
    simp [h0] at hset
  · rintro ⟨k, hk, hne⟩
    obtain ⟨b, hb, hset⟩ := exists_testBit_of_ne_zero hne
    exact ⟨⟨⟨_, Nat.mod_lt _ (by decide)⟩, ⟨_, Nat.mod_lt _ (by decide)⟩⟩, k, hk, b, hb, hset,
      rfl, rfl⟩

/-! ### One tick -/

theorem get_put_flag (m : Machine) (x : Register) :
    (m.put Registers.flag 0).registers.get x = m.coordinate x := by
  rw [put, Registers.get_put, coordinate]
  simp only [eq_comm]

theorem drawSprite_eq_done_iff : m.drawSprite x y height = .done m' ↔
    Memory.Fits m.registers.index height.val ∧
      m' = ({ m with frame := (m.drawing x y height).1, drawn := true }).put Registers.flag
        (m.drawing x y height).2.toUInt8 := by
  have hi : (m.put Registers.flag 0).registers.index = m.registers.index := rfl
  by_cases h : Memory.Fits m.registers.index height.val
  · have hread : (m.put Registers.flag 0).memory.read m.registers.index height.val =
        .ok (m.sprite height) := if_pos h
    have hput : ∀ f b, ({ m.put Registers.flag 0 with frame := f, drawn := true }).put
        Registers.flag b = ({ m with frame := f, drawn := true }).put Registers.flag b := fun f b =>
      congrArg (fun r => { m with registers := r, frame := f, drawn := true })
        (m.registers.put_put Registers.flag 0 b)
    simp only [drawSprite, hi, hread, get_put_flag, Outcome.done_inj, hput, h, true_and]
    exact eq_comm
  · have hread : (m.put Registers.flag 0).memory.read m.registers.index height.val =
        .error (Memory.outside m.registers.index) := if_neg h
    simp [drawSprite, hi, hread, h]

/-- A sprite is drawn where it lies in memory. -/
theorem result_tick_draw (hp : m.parked = none) (hpc : m.registers.pc.toNat ≤ 4094)
    (hw : Instruction.decode m.word = some (.draw x y height))
    (hf : Memory.Fits m.registers.index height.val) :
    m.tick.result = .ok (.executed (.draw x y height)) := by
  have he : m.begun.execute (.draw x y height) = .done _ := drawSprite_eq_done_iff.mpr ⟨hf, rfl⟩
  rw [tick_eq_executed hp hpc hw he]

/-- **A tick that draws** leaves the frame of the drawing, and in the flag register whether it
collided. -/
theorem drawn_tick (h : m.tick.result = .ok (.executed (.draw x y height))) :
    m.tick.machine.frame = (m.drawing x y height).1 ∧
      m.tick.machine.registers.get Registers.flag = (m.drawing x y height).2.toUInt8 := by
  obtain ⟨-, -, n, he, ht⟩ := executed_of_result h
  obtain ⟨-, rfl⟩ := drawSprite_eq_done_iff.mp he
  rw [ht]
  exact ⟨rfl, (Registers.get_put ..).trans (if_pos rfl)⟩

/-- What is drawn is the same after a tick that draws, and so is the place. -/
theorem sprite_tick (h : m.tick.result = .ok (.executed (.draw x y height))) :
    m.tick.machine.sprite height = m.sprite height ∧
      ∀ z, m.tick.machine.coordinate z = m.coordinate z := by
  have hfoot := footprint_tick h
  have hindex : m.tick.machine.registers.index = m.registers.index :=
    hfoot.index (by simp [Instruction.Points, Instruction.operands])
  have hbyte : ∀ a, m.tick.machine.memory.byteAt a = m.memory.byteAt a := fun a =>
    hfoot.byteAt a (by rintro (⟨ho⟩ | ⟨ho⟩) <;> simp [Instruction.operands] at ho)
  refine ⟨?_, fun z => ?_⟩
  · simp only [sprite, hindex, hbyte]
  · unfold coordinate
    split
    · rfl
    · next hz =>
        refine hfoot.get z fun hs => ?_
        cases hs with
        | result hm => simp [Instruction.mnemonic] at hm
        | flag | carry => exact hz rfl
        | block ho => simp [Instruction.operands] at ho

/-! ### Two ticks -/

theorem toUInt8_eq_one_iff {b : Bool} : b.toUInt8 = 1 ↔ b = true := by
  cases b <;> decide

theorem toUInt8_eq_zero_iff {b : Bool} : b.toUInt8 = 0 ↔ b = false := by
  cases b <;> decide

/-- A drawing changes the covered pixels over, each of them once. -/
theorem lit_drawing_of_covers (h : m.Covers x y height p) :
    (m.drawing x y height).1.lit p = !m.frame.lit p := by
  rw [drawing, Frame.lit_draw_of_le length_sprite_le,
    decide_eq_true (covers_iff_mem_covered.mp h), Bool.xor_true]

theorem lit_drawing_of_not_covers (h : ¬ m.Covers x y height p) :
    (m.drawing x y height).1.lit p = m.frame.lit p := by
  rw [drawing, Frame.lit_draw_of_le length_sprite_le,
    decide_eq_false (mt covers_iff_mem_covered.mpr h), Bool.xor_false]

theorem collides_drawing_iff : (m.drawing x y height).2 = true ↔
    ∃ p, m.Covers x y height p ∧ m.frame.lit p = true := by
  simp only [drawing, Frame.collides_draw_iff_of_le length_sprite_le, covers_iff_mem_covered]

/-- What is drawn over a drawing of itself covers the same pixels. -/
theorem covers_withDrawing : (m.withDrawing x y height).Covers x y height p ↔
    m.Covers x y height p := Iff.rfl

/-- A drawing over itself takes itself back. -/
theorem frame_drawing_withDrawing (m : Machine) (x y : Register) (height : Fin 16) :
    ((m.withDrawing x y height).drawing x y height).1 = m.frame := by
  refine Frame.ext fun p => ?_
  by_cases hp : m.Covers x y height p
  · rw [lit_drawing_of_covers (covers_withDrawing.mpr hp), withDrawing, lit_drawing_of_covers hp,
      Bool.not_not]
  · rw [lit_drawing_of_not_covers (mt covers_withDrawing.mp hp), withDrawing,
      lit_drawing_of_not_covers hp]

/-- And it meets the pixels that the first one has lit. -/
theorem collides_withDrawing_iff : ((m.withDrawing x y height).drawing x y height).2 = true ↔
    ∃ p, m.Covers x y height p ∧ m.frame.lit p = false := by
  rw [collides_drawing_iff]
  refine exists_congr fun p =>
    (and_congr_left' covers_withDrawing).trans (and_congr_right fun hp => ?_)
  rw [withDrawing, lit_drawing_of_covers hp, Bool.not_eq_true']

/-- A covered pixel is met by one of the two, so neither collides only if nothing is covered. -/
theorem neither_collides_iff : ((m.drawing x y height).2 = false ∧
      ((m.withDrawing x y height).drawing x y height).2 = false) ↔
    ∀ k < height.val, m.memory.byteAt (m.registers.index.toNat + k) = 0 := by
  have hnone : ((¬ ∃ p, m.Covers x y height p ∧ m.frame.lit p = true) ∧
      ¬ ∃ p, m.Covers x y height p ∧ m.frame.lit p = false) ↔ ¬ ∃ p, m.Covers x y height p := by
    constructor
    · rintro ⟨hlit, hunlit⟩ ⟨p, hp⟩
      cases hl : m.frame.lit p with
      | true => exact hlit ⟨p, hp, hl⟩
      | false => exact hunlit ⟨p, hp, hl⟩
    · intro h
      exact ⟨fun ⟨p, hp, _⟩ => h ⟨p, hp⟩, fun ⟨p, hp, _⟩ => h ⟨p, hp⟩⟩
  rw [← Bool.not_eq_true, ← Bool.not_eq_true, collides_drawing_iff, collides_withDrawing_iff,
    hnone, exists_covers_iff]
  simp only [not_exists, not_and, not_not]

/-- Keys that go down or up between two ticks do not show in what the second one draws: it draws the
same sprite at the same place. -/
theorem drawing_after_keys {keys : List Action} (hkeys : .tick ∉ keys)
    (h : m.tick.result = .ok (.executed (.draw x y height))) :
    (m.tick.machine.after keys).drawing x y height =
      (m.withDrawing x y height).drawing x y height := by
  obtain ⟨hsprite, hcoordinate⟩ := sprite_tick h
  rw [after_of_keysOnly _ hkeys]
  show m.tick.machine.frame.draw (m.tick.machine.coordinate x) (m.tick.machine.coordinate y)
    (m.tick.machine.sprite height) = _
  rw [(drawn_tick h).1, hcoordinate, hcoordinate, hsprite]
  rfl

/-- **A drawing that is made twice in a row takes itself back**, whatever keys go down or up between
the two ticks, and also when the flag register is one of its coordinates.  The first tick raises the
flag if a covered pixel was lit before, and the second one if a covered pixel was unlit before.
Neither does if all bytes of the sprite are zero, and only then. -/
theorem draw_twice (m : Machine) (x y : Register) (height : Fin 16) (keys : List Action)
    (hkeys : .tick ∉ keys)
    (hfirst : m.tick = ⟨first, .ok (.executed (.draw x y height))⟩)
    (hsecond : (first.after keys).tick = ⟨second, .ok (.executed (.draw x y height))⟩) :
    second.frame = m.frame ∧
    (first.registers.get Registers.flag = 1 ↔
      ∃ p, m.Covers x y height p ∧ m.frame.lit p = true) ∧
    (second.registers.get Registers.flag = 1 ↔
      ∃ p, m.Covers x y height p ∧ m.frame.lit p = false) ∧
    (first.registers.get Registers.flag = 0 ∧ second.registers.get Registers.flag = 0 ↔
      ∀ k < height.val, m.memory.byteAt (m.registers.index.toNat + k) = 0) ∧
    ∀ n ∈ [first, second],
      n.registers.get Registers.flag = 0 ∨ n.registers.get Registers.flag = 1 := by
  obtain ⟨hframe, hflag⟩ := drawn_tick (congrArg Outcome.result hfirst)
  obtain ⟨hframe', hflag'⟩ := drawn_tick (congrArg Outcome.result hsecond)
  have hdrawing := drawing_after_keys hkeys (congrArg Outcome.result hfirst)
  rw [hfirst] at hframe hflag hdrawing
  rw [hsecond, hdrawing] at hframe' hflag'
  refine ⟨?_, ?_, ?_, ?_, ?_⟩
  · rw [hframe', frame_drawing_withDrawing]
  · rw [hflag, toUInt8_eq_one_iff, collides_drawing_iff]
  · rw [hflag', toUInt8_eq_one_iff, collides_withDrawing_iff]
  · rw [hflag, hflag', toUInt8_eq_zero_iff, toUInt8_eq_zero_iff, neither_collides_iff]
  · have hbit : ∀ b : Bool, b.toUInt8 = 0 ∨ b.toUInt8 = 1 := by decide
    rintro n hn
    obtain rfl | rfl : n = first ∨ n = second := by simpa using hn
    · exact hflag ▸ hbit _
    · exact hflag' ▸ hbit _

/-- The theorem at a program that draws its own first byte twice, with the flag register for a
column and a key that goes down in between.  The second drawing raises the flag, which is the column
of neither. -/
theorem draw_twice_flagColumn :
    ∃ m first second : Machine, m.Reachable ∧
      m.tick = ⟨first, .ok (.executed (.draw 0xF 0 1))⟩ ∧
      (first.after [.press 5]).tick = ⟨second, .ok (.executed (.draw 0xF 0 1))⟩ ∧
      second.frame = m.frame ∧ first.registers.get Registers.flag = 0 ∧
      second.registers.get Registers.flag = 1 := by
  have hfit : ([0xA2, 0x00, 0xDF, 0x01, 0xDF, 0x01] : List UInt8).length ≤ 3584 := by decide
  obtain ⟨l, hl, hblank, hbyte⟩ : ∃ l, load [0xA2, 0x00, 0xDF, 0x01, 0xDF, 0x01] (.cycle #[]) =
      .ok l ∧ l.frame = .blank ∧ l.memory.byteAt 0x200 = 0xA2 :=
    ⟨_, load_of_fits hfit _, rfl, (Memory.byteAt_overlay ..).trans (if_pos (by decide))⟩
  obtain ⟨hp, hr, -, hw⟩ := fresh_of_load hfit hl
  -- the first tick points the index at the first byte
  have hd : Instruction.decode l.word = some (.loadIndex 0x200) := by
    rw [word, hr]
    exact (congrArg Instruction.decode (hw 0 (by decide))).trans (by decide)
  obtain ⟨m, hm, hp, hr, hmem, hf⟩ : ∃ m, l.act .tick = m ∧ m.parked = none ∧
      m.registers = { Registers.startingAt 0x202 with index := 0x200 } ∧
      m.memory = l.memory ∧ m.frame = .blank := by
    rw [act, tick_eq_executed hp (by rw [hr]; decide) hd rfl]
    exact ⟨_, rfl, hp, by simp only [pointTo, begun, hr]; rfl, rfl, hblank⟩
  have hreachable : m.Reachable := hm ▸ (Reachable.load hl).act .tick
  -- the second one draws it
  have hd' : Instruction.decode m.word = some (.draw 0xF 0 1) := by
    rw [word, hr, hmem]
    exact (congrArg Instruction.decode (hw 2 (by decide))).trans (by decide)
  have ht := result_tick_draw hp (by rw [hr]; decide) hd' (by rw [hr]; decide)
  obtain ⟨first, hfirst, hp', hpc, hi, hmem'⟩ : ∃ first, m.tick.machine = first ∧
      first.parked = none ∧ first.registers.pc = 0x204 ∧ first.registers.index = 0x200 ∧
      first.memory = m.memory := by
    obtain ⟨-, -, n, he, hn⟩ := executed_of_result ht
    obtain ⟨-, rfl⟩ := drawSprite_eq_done_iff.mp he
    refine ⟨_, hn, hp, ?_, ?_, rfl⟩
    · show m.registers.pc + 2 = 0x204
      rw [hr]
      rfl
    · show m.registers.index = 0x200
      rw [hr]
  -- and the third one draws it again
  have hd'' : Instruction.decode (first.after [.press 5]).word = some (.draw 0xF 0 1) := by
    show Instruction.decode (first.memory.wordAt first.registers.pc.toNat) = _
    rw [hpc, hmem', hmem]
    exact (congrArg Instruction.decode (hw 4 (by decide))).trans (by decide)
  have ht' := result_tick_draw (m := first.after [.press 5]) hp'
    (show first.registers.pc.toNat ≤ 4094 by rw [hpc]; decide) hd''
    (show Memory.Fits first.registers.index 1 by rw [hi]; decide)
  have hfirst' : m.tick = ⟨first, .ok (.executed (.draw 0xF 0 1))⟩ := by rw [← hfirst, ← ht]
  have hsecond : (first.after [.press 5]).tick =
      ⟨(first.after [.press 5]).tick.machine, .ok (.executed (.draw 0xF 0 1))⟩ := by rw [← ht']
  have hcovers : m.Covers 0xF 0 1 ⟨0, 0⟩ := by
    refine ⟨0, by decide, 0, by decide, ?_, ?_, ?_⟩
    · rw [hr, hmem]
      exact (congrArg (fun b : UInt8 => b.toNat.testBit 7) hbyte).trans (by decide)
    · rw [coordinate, hr]
      decide
    · rw [coordinate, hr]
      decide
  obtain ⟨hback, hraised, hraised', -, hbit⟩ :=
    draw_twice m 0xF 0 1 [.press 5] (by decide) hfirst' hsecond
  refine ⟨m, first, _, hreachable, hfirst', hsecond, hback, ?_, ?_⟩
  · refine (hbit first (by simp)).resolve_right fun h => ?_
    obtain ⟨p, -, hlit⟩ := hraised.mp h
    simp [hf] at hlit
  · exact hraised'.mpr ⟨⟨0, 0⟩, hcovers, by rw [hf, Frame.lit_blank]⟩

end Machine

end ChipEight
