/-!
# Text — CodeRange

Runs of consecutive code points.  A property of characters is given as a list of such runs.
-/

namespace ChipEight

/-- The code points from `first` to `last`, both ends included. -/
structure CodeRange where
  first : Nat
  last : Nat

/-- Whether the range holds a character. -/
def CodeRange.has (r : CodeRange) (c : Char) : Bool := r.first ≤ c.toNat && c.toNat ≤ r.last

/-- Whether one of some ranges holds a character. -/
def CodeRange.anyHas (rs : List CodeRange) (c : Char) : Bool := rs.any (·.has c)

/-- The number of code points in some ranges of which no two meet. -/
def CodeRange.count (rs : List CodeRange) : Nat :=
  rs.foldl (fun n r => n + (r.last + 1 - r.first)) 0

/-- Whether some ranges are listed in order, with a gap between any two. -/
def CodeRange.separated : List CodeRange → Bool
  | [] => true
  | [r] => r.first ≤ r.last
  | r :: s :: rs => r.first ≤ r.last && r.last + 1 < s.first && separated (s :: rs)

end ChipEight
