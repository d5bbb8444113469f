/-!
# Font

The glyphs of the sixteen digits, which every machine holds in its memory.  A glyph is five bytes,
one per row, and uses the four high bits of each.
-/

namespace ChipEight.Font

/-- The address of the first glyph. -/
def start : Nat := 0x050

/-- How many bytes a glyph takes. -/
def glyphSize : Nat := 5

/-- The glyphs of the digits from `0` to `F`. -/
def glyphs : Vector UInt8 80 := #v[
  0xF0, 0x90, 0x90, 0x90, 0xF0,
  0x20, 0x60, 0x20, 0x20, 0x70,
  0xF0, 0x10, 0xF0, 0x80, 0xF0,
  0xF0, 0x10, 0xF0, 0x10, 0xF0,
  0x90, 0x90, 0xF0, 0x10, 0x10,
  0xF0, 0x80, 0xF0, 0x10, 0xF0,
  0xF0, 0x80, 0xF0, 0x90, 0xF0,
  0xF0, 0x10, 0x20, 0x40, 0x40,
  0xF0, 0x90, 0xF0, 0x90, 0xF0,
  0xF0, 0x90, 0xF0, 0x10, 0xF0,
  0xF0, 0x90, 0xF0, 0x90, 0x90,
  0xE0, 0x90, 0xE0, 0x90, 0xE0,
  0xF0, 0x80, 0x80, 0x80, 0xF0,
  0xE0, 0x90, 0x90, 0x90, 0xE0,
  0xF0, 0x80, 0xF0, 0x80, 0xF0,
  0xF0, 0x80, 0xF0, 0x80, 0x80]

/-- Where the glyph of a byte is taken from: beyond the last digit, from what lies after it. -/
def glyphAddress (b : UInt8) : UInt16 := UInt16.ofNat (start + glyphSize * b.toNat)

theorem toNat_glyphAddress (b : UInt8) : (glyphAddress b).toNat = start + glyphSize * b.toNat := by
  have h := b.toNat_lt
  simp only [glyphAddress, start, glyphSize, UInt16.toNat_ofNat']
  omega

end ChipEight.Font
