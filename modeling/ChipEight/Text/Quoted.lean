import ChipEight.Text.Blank
import ChipEight.Text.Combining
import ChipEight.Text.Unassigned

/-!
# Text — Quoted

Text between double quotes, on one line and with nothing hidden in it.  The quote and the
backslash are written after a backslash; tab, line feed, carriage return and the null character
have a letter of their own; every other hidden character is written as its code point in
lower-case base sixteen, between braces after `\u`.

* `isHidden`: what cannot be seen, or not by itself.
* `quoted`: the text between its quotes.
-/

namespace ChipEight.Text

/-- The code points of the Unicode general categories `Cc`, `Cf` and `Co`: control, format and
private use. -/
def controls : List CodeRange :=
  [⟨0x0000, 0x001F⟩, ⟨0x007F, 0x009F⟩, ⟨0x00AD, 0x00AD⟩, ⟨0x0600, 0x0605⟩, ⟨0x061C, 0x061C⟩,
   ⟨0x06DD, 0x06DD⟩, ⟨0x070F, 0x070F⟩, ⟨0x0890, 0x0891⟩, ⟨0x08E2, 0x08E2⟩, ⟨0x180E, 0x180E⟩,
   ⟨0x200B, 0x200F⟩, ⟨0x202A, 0x202E⟩, ⟨0x2060, 0x2064⟩, ⟨0x2066, 0x206F⟩, ⟨0xE000, 0xF8FF⟩,
   ⟨0xFEFF, 0xFEFF⟩, ⟨0xFFF9, 0xFFFB⟩, ⟨0x110BD, 0x110BD⟩, ⟨0x110CD, 0x110CD⟩,
   ⟨0x13430, 0x1343F⟩, ⟨0x1BCA0, 0x1BCA3⟩, ⟨0x1D173, 0x1D17A⟩, ⟨0xE0001, 0xE0001⟩,
   ⟨0xE0020, 0xE007F⟩, ⟨0xF0000, 0xFFFFD⟩, ⟨0x100000, 0x10FFFD⟩]

/-- They are listed in order, with a gap between any two runs. -/
example : CodeRange.separated controls = true := by decide

/-- There are 137703 of them. -/
example : CodeRange.count controls = 137703 := by decide

/-- The letters that fill a place in a Hangul syllable and leave it empty: of the letters, those
with the Unicode property `Default_Ignorable_Code_Point`. -/
def fillers : List CodeRange := [⟨0x115F, 0x1160⟩, ⟨0x3164, 0x3164⟩, ⟨0xFFA0, 0xFFA0⟩]

/-- Whether a character cannot be seen, or not by itself.  The space and the graphic characters of
ASCII can. -/
def isHidden (c : Char) : Bool :=
  !(' ' ≤ c && c ≤ '~') &&
    (CodeRange.anyHas controls c || isBlank c || CodeRange.anyHas fillers c ||
      CodeRange.anyHas combining c || CodeRange.anyHas unassigned c)

/-- What stands for a character between quotes. -/
def escaped (c : Char) : List Char :=
  if c = '"' then ['\\', '"']
  else if c = '\\' then ['\\', '\\']
  else if c = '\t' then ['\\', 't']
  else if c = '\n' then ['\\', 'n']
  else if c = '\r' then ['\\', 'r']
  else if c = '\x00' then ['\\', '0']
  else if isHidden c then ['\\', 'u', '\x7b'] ++ Nat.toDigits 16 c.toNat ++ ['\x7d']
  else [c]

/-- The text between double quotes. -/
def quoted (cs : List Char) : String := String.ofList ('"' :: cs.flatMap escaped ++ ['"'])

example : quoted ['a', '"', '\n', '\u200B'] = "\"a\\\"\\n\\u\x7b200b\x7d\"" := by decide

/-- An accented letter stays, and a letter with its accent after it does not hide the accent. -/
example : quoted ['é', 'e', '\u0301'] = "\"ée\\u\x7b301\x7d\"" := by decide +kernel

end ChipEight.Text
