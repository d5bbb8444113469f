import ChipEight.Text.Blank
import ChipEight.Text.Numeral
import ChipEight.Text.Quoted

/-!
# HexListing

A program written out as bytes in base sixteen, such as `0x60 0x0A, F0 29`.  White space and commas
stand between the bytes; the `0x` in front of a byte is optional.

* `HexListing.parse`: the bytes of a listing, or the first token that is not a byte.
-/

namespace ChipEight.HexListing

/-- A token that is not a byte, and why. -/
structure BadByte where
  token : List Char
  cause : Numeral.Defect
  deriving DecidableEq, Repr

/-- What is wrong, and why, in words. -/
def BadByte.messages (b : BadByte) : List String :=
  ["invalid byte " ++ Text.quoted b.token, b.cause.message]

/-- Whether a character stands between bytes. -/
def isSeparator (c : Char) : Bool := Text.isBlank c || c == ','

/-- The longest runs of characters that do not separate. -/
def tokens (cs : List Char) : List (List Char) := (cs.splitOnP isSeparator).filter (· ≠ [])

/-- A token without the `0x` in front of it. -/
def digits : List Char → List Char
  | '0' :: 'x' :: ds | '0' :: 'X' :: ds => ds
  | ds => ds

/-- The byte that a token stands for. -/
def readByte (token : List Char) : Except BadByte UInt8 :=
  match Numeral.byte.read (digits token) with
  | .ok v => .ok (UInt8.ofNat v)
  | .error cause => .error ⟨token, cause⟩

/-- The bytes of a listing. -/
def parse (text : String) : Except BadByte (List UInt8) := (tokens text.toList).mapM readByte

example : (parse "0x60 0x0A,F0").toOption = some [0x60, 0x0A, 0xF0] := by decide +kernel

end ChipEight.HexListing
