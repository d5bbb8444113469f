/-!
# Text — Numeral

Unsigned numerals in a base, of a bounded value.  One `+` may stand in front.  A numeral is read
from left to right and refused at the first character that is no digit of the base, or at the
first digit that takes its value above the greatest admitted one.

* `Numeral.read`: the value of a text, or its defect.
* `Numeral.le_of_read`: a value that is read never exceeds the limit.
-/

namespace ChipEight

/-- A kind of numeral: its base, and the greatest value it may have. -/
structure Numeral where
  base : Nat
  limit : Nat

namespace Numeral

/-- A byte in base sixteen. -/
def byte : Numeral := ⟨16, 0xFF⟩

/-- The number of a key in base sixteen. -/
def key : Numeral := ⟨16, 0xF⟩

/-- A count of 64 bits in base ten. -/
def count : Numeral := ⟨10, 0xFFFFFFFFFFFFFFFF⟩

/-- Why a text is not a numeral of some kind. -/
inductive Defect where
  | empty
  | invalidDigit
  | tooLarge
  deriving DecidableEq, Repr

/-- What is wrong with the text, in words. -/
def Defect.message : Defect → String
  | .empty => "cannot parse integer from empty string"
  | .invalidDigit => "invalid digit found in string"
  | .tooLarge => "number too large to fit in target type"

/-- The value of an ASCII digit, letters of either case standing for ten to fifteen. -/
def digitValue? (c : Char) : Option Nat :=
  if '0' ≤ c ∧ c ≤ '9' then some (c.toNat - '0'.toNat)
  else if 'a' ≤ c ∧ c ≤ 'f' then some (c.toNat - 'a'.toNat + 10)
  else if 'A' ≤ c ∧ c ≤ 'F' then some (c.toNat - 'A'.toNat + 10)
  else none

/-- The value of a digit of the base. -/
def digit? (f : Numeral) (c : Char) : Option Nat := (digitValue? c).filter (· < f.base)

/-- The value `v` with one more digit written after it. -/
def extend (f : Numeral) (v : Nat) (c : Char) : Except Defect Nat :=
  match f.digit? c with
  | none => .error .invalidDigit
  | some d => if f.base * v + d ≤ f.limit then .ok (f.base * v + d) else .error .tooLarge

/-- The value of a row of digits that follows digits of value `v`. -/
def readFrom (f : Numeral) : Nat → List Char → Except Defect Nat
  | v, [] => .ok v
  | v, c :: cs => match f.extend v c with
    | .ok w => f.readFrom w cs
    | .error e => .error e

/-- The value of a text; a sign alone is not a numeral. -/
def read (f : Numeral) : List Char → Except Defect Nat
  | [] => .error .empty
  | ['+'] => .error .invalidDigit
  | '+' :: cs => f.readFrom 0 cs
  | cs => f.readFrom 0 cs

theorem le_of_extend {f : Numeral} {v w : Nat} {c : Char} (h : f.extend v c = .ok w) :
    w ≤ f.limit := by
  unfold extend at h
  split at h
  · cases h
  · split at h
    · next hle => cases h; exact hle
    · cases h

theorem le_of_readFrom {f : Numeral} {v w : Nat} {cs : List Char} (hv : v ≤ f.limit)
    (h : f.readFrom v cs = .ok w) : w ≤ f.limit := by
  induction cs generalizing v with
  | nil => cases h; exact hv
  | cons c cs ih =>
    unfold readFrom at h
    split at h
    · next he => exact ih (le_of_extend he) h
    · cases h

theorem le_of_read {f : Numeral} {w : Nat} {cs : List Char} (h : f.read cs = .ok w) :
    w ≤ f.limit := by
  unfold read at h
  split at h
  · cases h
  · cases h
  · exact le_of_readFrom (Nat.zero_le _) h
  · exact le_of_readFrom (Nat.zero_le _) h

end Numeral

end ChipEight
