import ChipEight.Text.CodeRange

/-!
# Text — Blank

White space, in the sense of the Unicode property `White_Space`, and the trimming of it.
-/

namespace ChipEight.Text

/-- The code points of the Unicode property `White_Space`. -/
def blanks : List CodeRange :=
  [⟨0x0009, 0x000D⟩, ⟨0x0020, 0x0020⟩, ⟨0x0085, 0x0085⟩, ⟨0x00A0, 0x00A0⟩, ⟨0x1680, 0x1680⟩,
   ⟨0x2000, 0x200A⟩, ⟨0x2028, 0x2029⟩, ⟨0x202F, 0x202F⟩, ⟨0x205F, 0x205F⟩, ⟨0x3000, 0x3000⟩]

/-- There are twenty-five of them. -/
example : CodeRange.count blanks = 25 := by decide

/-- Whether a character is white space. -/
def isBlank (c : Char) : Bool := CodeRange.anyHas blanks c

/-- The text without the white space at its end. -/
def trimEnd (cs : List Char) : List Char := (cs.reverse.dropWhile isBlank).reverse

/-- The text without the white space at either end. -/
def trim (cs : List Char) : List Char := trimEnd (cs.dropWhile isBlank)

end ChipEight.Text
