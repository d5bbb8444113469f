/-!
# Text — Hex

Upper-case base sixteen numerals, the form in which words, bytes and addresses are shown.

* `Hex.digits width n`: the digits of `n`, filled with zeros on the left up to `width`.
* `Hex.length_digits`: `digits` fills to `width` and cuts nothing off.
-/

namespace ChipEight.Hex

/-- The upper-case digit of value `d`, for `d` below sixteen. -/
def digit (d : Nat) : Char :=
  if d < 10 then Char.ofNat ('0'.toNat + d) else Char.ofNat ('A'.toNat + (d - 10))

/-- How many digits `n` takes without leading zeros; zero takes one. -/
def digitCount (n : Nat) : Nat := n.log2 / 4 + 1

/-- The lowest `k` digits of `n`, the most significant first. -/
def lowDigits : Nat → Nat → List Char
  | 0, _ => []
  | k + 1, n => lowDigits k (n / 16) ++ [digit (n % 16)]

/-- The digits of `n`, at least `width` of them. -/
def digits (width n : Nat) : List Char := lowDigits (max width (digitCount n)) n

/-- The numeral of `n` with at least `width` digits. -/
def text (width n : Nat) : String := String.ofList (digits width n)

/-- The numeral of `n` with at least `width` digits after `0x`. -/
def literal (width n : Nat) : String := "0x" ++ text width n

@[simp] theorem length_lowDigits (k n : Nat) : (lowDigits k n).length = k := by
  induction k generalizing n with
  | zero => rfl
  | succ k ih => simp [lowDigits, ih]

theorem length_digits (width n : Nat) : (digits width n).length = max width (digitCount n) := by
  simp [digits]

end ChipEight.Hex
