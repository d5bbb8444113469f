import ChipEight.Proofs.Sprites

/-!
# Proofs — Glyphs

The font, as a program meets it.  It is in memory when a program has been loaded, and stays there
until the program stores over it.  An instruction points the index at the glyph of a byte, where
there is room for a sprite of any height, even if the byte is no digit.  Of a digit the five rows of
its glyph are drawn.

* `Font.Marks`: the pixels that the set bits of a glyph fall on.
* `Memory.HoldsFont`: the font is in memory.
* `Machine.glyph_drawn`: a digit that the index was pointed at is drawn as the font says.
-/

namespace ChipEight

namespace Font

/-- The rows of all glyphs are bytes of the font. -/
theorem offset_lt (d : Fin 16) (k : Fin 5) : glyphSize * d.val + k.val < 80 := by
  simp only [glyphSize]
  omega

/-- A row of the glyph of a digit. -/
def row (d : Fin 16) (k : Fin 5) : UInt8 := glyphs.get ⟨_, offset_lt d k⟩

/-- A set bit of the glyph of a digit falls on a pixel when the glyph is drawn at `x` and `y`. -/
def Marks (d : Fin 16) (x y : UInt8) (p : Pixel) : Prop :=
  ∃ k : Fin 5, ∃ b < 8, (row d k).toNat.testBit (7 - b) = true ∧
    p.row.val = (y.toNat + k.val) % 32 ∧ p.col.val = (x.toNat + b) % 64

instance (d : Fin 16) (x y : UInt8) (p : Pixel) : Decidable (Marks d x y p) :=
  inferInstanceAs (Decidable (∃ k : Fin 5, ∃ b < 8, (row d k).toNat.testBit (7 - b) = true ∧
    p.row.val = (y.toNat + k.val) % 32 ∧ p.col.val = (x.toNat + b) % 64))

/-- From the glyph of a byte on there is room for a sprite of any height. -/
theorem fits_glyphAddress (b : UInt8) (height : Fin 16) :
    Memory.Fits (glyphAddress b) height.val := by
  have hb := b.toNat_lt
  rw [Memory.Fits, toNat_glyphAddress, start, glyphSize, Memory.size]
  omega

end Font

/-! ### The font in memory -/

/-- The glyphs of all digits lie in memory, one after the other. -/
def Memory.HoldsFont (m : Memory) : Prop :=
  ∀ d k, m.byteAt (Font.start + Font.glyphSize * d.val + k.val) = Font.row d k

namespace Machine

variable {m : Machine} {x y : Register} {height : Fin 16} {p : Pixel} {as : List Action}

theorem holdsFont_of_load {program : List UInt8} {random : ByteStream}
    (h : load program random = .ok m) : m.memory.HoldsFont := by
  intro d k
  have hlt := Font.offset_lt d k
  have hs : Font.start = 0x50 := rfl
  rw [byteAt_of_load h, Memory.image, if_neg (by omega), if_pos (by omega), Nat.add_assoc, hs,
    Nat.add_sub_cancel_left, Vector.getElem?_eq_getElem hlt]
  rfl

/-- The font stays in memory as long as nothing is stored over it. -/
theorem holdsFont_after (h : m.memory.HoldsFont)
    (hkeeps : ∀ a, 0x50 ≤ a → a < 0xA0 → m.Keeps as a) : (m.after as).memory.HoldsFont := by
  intro d k
  have hlt := Font.offset_lt d k
  have hs : Font.start = 0x50 := rfl
  rw [(hkeeps _ (by omega) (by omega)).byteAt_after]
  exact h d k

/-! ### Pointing at a glyph and drawing it -/

/-- What the instruction leaves that points the index at a glyph. -/
theorem tick_eq_glyph (h : m.Begins (.glyph x)) : ∃ pointed,
    m.tick = ⟨pointed, .ok (.executed (.glyph x))⟩ ∧
      pointed.registers.index = Font.glyphAddress (m.registers.get x) ∧
      pointed.memory = m.memory :=
  ⟨_, h.tick_eq rfl, rfl, rfl⟩

/-- A drawing that was begun succeeds where its sprite is in memory, and changes the covered pixels
over. -/
theorem tick_eq_draw (h : m.Begins (.draw x y height))
    (hf : Memory.Fits m.registers.index height.val) : ∃ m',
    m.tick = ⟨m', .ok (.executed (.draw x y height))⟩ ∧
      ∀ p, m'.frame.lit p ≠ m.frame.lit p ↔ m.Covers x y height p := by
  have he : m.begun.execute (.draw x y height) = .done _ := drawSprite_eq_done_iff.mpr ⟨hf, rfl⟩
  have ht := h.tick_eq he
  refine ⟨_, ht, fun p => ?_⟩
  have hframe := (drawn_tick (congrArg Outcome.result ht)).1
  rw [ht] at hframe
  rw [hframe]
  by_cases hp : m.Covers x y height p
  · simp [lit_drawing_of_covers hp, hp]
  · simp [lit_drawing_of_not_covers hp, hp]

/-- A sprite of five bytes at the glyph of a digit covers the pixels of the glyph. -/
theorem covers_iff_marks {d : Fin 16} (hfont : m.memory.HoldsFont)
    (hi : m.registers.index.toNat = Font.start + Font.glyphSize * d.val) :
    m.Covers x y 5 p ↔ Font.Marks d (m.coordinate x) (m.coordinate y) p := by
  unfold Covers Font.Marks
  rw [Fin.exists_iff, hi]
  constructor
  · rintro ⟨k, hk, hset⟩
    exact ⟨k, hk, by rwa [← hfont d ⟨k, hk⟩]⟩
  · rintro ⟨k, hk, hset⟩
    exact ⟨k, hk, by rwa [← hfont d ⟨k, hk⟩] at hset⟩

/-- **Digits are drawn as the font says.**  Load a program that fits, let anything happen to it, and
let it point the index at the glyph of a byte: the index is at five times the byte behind the start
of the font.  If it then begins a drawing, whatever keys go down or up before, that succeeds, even
if the byte is no digit.  Of a digit, a drawing of five rows changes exactly the pixels over that
its glyph marks, provided that nothing was stored over the font. -/
theorem glyph_drawn (program : List UInt8) (random : ByteStream) (hfit : program.length ≤ 3584) :
    ∃ m, load program random = .ok m ∧
      ∀ as keys x, .tick ∉ keys → (m.after as).Begins (.glyph x) →
        ∃ pointed, (m.after as).tick = ⟨pointed, .ok (.executed (.glyph x))⟩ ∧
          pointed.registers.index.toNat = 0x50 + 5 * ((m.after as).registers.get x).toNat ∧
          ∀ y z height, (pointed.after keys).Begins (.draw y z height) →
            ∃ drawn, (pointed.after keys).tick = ⟨drawn, .ok (.executed (.draw y z height))⟩ ∧
              ∀ d : Fin 16, ((m.after as).registers.get x).toNat = d.val → height = 5 →
                (∀ a, 0x50 ≤ a → a < 0xA0 → m.Keeps as a) →
                ∀ p, drawn.frame.lit p ≠ (pointed.after keys).frame.lit p ↔
                  Font.Marks d ((pointed.after keys).coordinate y)
                    ((pointed.after keys).coordinate z) p := by
  have hl := load_of_fits hfit random
  refine ⟨_, hl, fun as keys x hkeys hglyph => ?_⟩
  generalize hn : after _ as = n at hglyph
  obtain ⟨pointed, ht, hindex, hmemory⟩ := tick_eq_glyph hglyph
  have haddress : pointed.registers.index.toNat = 0x50 + 5 * (n.registers.get x).toNat := by
    rw [hindex, Font.toNat_glyphAddress]
    rfl
  refine ⟨pointed, ht, haddress, fun y z height hdraw => ?_⟩
  -- keys leave the index and memory alone
  have hindex' : (pointed.after keys).registers.index = pointed.registers.index := by
    rw [after_of_keysOnly _ hkeys]
  have hmemory' : (pointed.after keys).memory = n.memory := by
    rw [after_of_keysOnly _ hkeys, ← hmemory]
  have hf : Memory.Fits (pointed.after keys).registers.index height.val := by
    rw [hindex', hindex]
    exact Font.fits_glyphAddress _ height
  obtain ⟨drawn, hdrawn, hlit⟩ := tick_eq_draw hdraw hf
  refine ⟨drawn, hdrawn, fun d hd hheight hkeeps p => ?_⟩
  obtain rfl := hheight
  have hfont : (pointed.after keys).memory.HoldsFont := by
    rw [hmemory', ← hn]
    exact holdsFont_after (holdsFont_of_load hl) hkeeps
  have hat : (pointed.after keys).registers.index.toNat =
      Font.start + Font.glyphSize * d.val := by
    rw [hindex', haddress, hd]
    rfl
  exact (hlit p).trans (covers_iff_marks hfont hat)

/-- The theorem at a program that draws a five, with a key going down before it is drawn.  Of the
second row the glyph marks the leftmost pixel. -/
theorem glyph_drawn_five :
    ∃ m pointed drawn : Machine, load [0x60, 5, 0xF0, 0x29, 0xD1, 0x15] (.cycle #[]) = .ok m ∧
      (m.after [.tick]).tick = ⟨pointed, .ok (.executed (.glyph 0))⟩ ∧
      (pointed.after [.press 9]).tick = ⟨drawn, .ok (.executed (.draw 1 1 5))⟩ ∧
      drawn.frame.lit ⟨1, 0⟩ ≠ (pointed.after [.press 9]).frame.lit ⟨1, 0⟩ ∧
      drawn.frame.lit ⟨1, 1⟩ = (pointed.after [.press 9]).frame.lit ⟨1, 1⟩ := by
  have hfit : ([0x60, 5, 0xF0, 0x29, 0xD1, 0x15] : List UInt8).length ≤ 3584 := by decide
  obtain ⟨m, hl, hdigits⟩ := glyph_drawn [0x60, 5, 0xF0, 0x29, 0xD1, 0x15] (.cycle #[]) hfit
  obtain ⟨hp, hr, -, hw⟩ := fresh_of_load hfit hl
  have hs : m.Runs (.startingAt 0x200) m.memory := ⟨hp, hr, rfl⟩
  -- the first tick puts the five into a register
  have hd : Instruction.decode (m.memory.wordAt 0x200) = some (.loadByte 0 5) :=
    (congrArg Instruction.decode (hw 0 (by decide))).trans (by decide)
  obtain ⟨hput, hs⟩ := hs.tick (·.put 0 5) (by decide) hd fun _ => rfl
  have hfive : (m.after [.tick]).registers.get 0 = 5 := by
    show m.tick.machine.registers.get 0 = 5
    rw [hs.registers]
    decide
  -- the second one points the index at its glyph
  have hd : Instruction.decode (m.memory.wordAt 0x202) = some (.glyph 0) :=
    (congrArg Instruction.decode (hw 2 (by decide))).trans (by decide)
  obtain ⟨pointed, hpointed, -, hdraw⟩ := hdigits [.tick] [.press 9] 0 (by decide)
    (hs.begins (by decide) hd)
  obtain ⟨-, hs'⟩ := hs.tick (fun r => { r with index := Font.glyphAddress (r.get 0) })
    (by decide) hd fun _ => rfl
  have hmachine : m.tick.machine.tick.machine = pointed := congrArg Outcome.machine hpointed
  rw [hmachine] at hs'
  -- and the third one draws it
  have hd : Instruction.decode (m.memory.wordAt 0x204) = some (.draw 1 1 5) :=
    (congrArg Instruction.decode (hw 4 (by decide))).trans (by decide)
  have hs' : (pointed.after [.press 9]).Runs _ _ := ⟨hs'.parked, hs'.registers, hs'.memory⟩
  obtain ⟨drawn, hdrawn, hlit⟩ := hdraw 1 1 5 (hs'.begins (by decide) hd)
  have hkeeps : ∀ a, m.Keeps [.tick] a := fun a =>
    atTicks_cons.mpr ⟨fun _ _ => not_stores_of_written hput rfl, atTicks_nil⟩
  have hzero : (pointed.after [.press 9]).coordinate 1 = 0 := by
    rw [coordinate, hs'.registers]
    decide
  have hmarks := hlit 5 (by rw [hfive]; decide) rfl fun a _ _ => hkeeps a
  rw [hzero] at hmarks
  refine ⟨m, pointed, drawn, hl, hpointed, hdrawn, (hmarks _).mpr (by decide), ?_⟩
  exact not_not.mp ((hmarks ⟨1, 1⟩).not.mpr (by decide))

end Machine

end ChipEight
