import ChipEight.Keypad

/-!
# Keys — Layout

Where the keypad lies on a keyboard: its four columns are the four leftmost of the letters and
digits.

    1 2 3 C      1 2 3 4
    4 5 6 D      Q W E R
    7 8 9 E      A S D F
    A 0 B F      Z X C V
-/

namespace ChipEight.Key

/-- The key that a character of the keyboard stands for; letters may be of either case. -/
def ofChar? (c : Char) : Option Key :=
  match c.toLower with
  | 'x' => some 0x0
  | '1' => some 0x1
  | '2' => some 0x2
  | '3' => some 0x3
  | 'q' => some 0x4
  | 'w' => some 0x5
  | 'e' => some 0x6
  | 'a' => some 0x7
  | 's' => some 0x8
  | 'd' => some 0x9
  | 'z' => some 0xA
  | 'c' => some 0xB
  | '4' => some 0xC
  | 'r' => some 0xD
  | 'f' => some 0xE
  | 'v' => some 0xF
  | _ => none

end ChipEight.Key
