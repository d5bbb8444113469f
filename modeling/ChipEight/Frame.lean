/-!
# Frame

The picture of thirty-two rows of sixty-four pixels, each lit or not, and the drawing of sprites
into it.  A sprite is a row of bytes, one per row of the picture, the high bit leftmost; it wraps
around at every edge.

* `Frame.covered`: the pixels that a sprite's set bits fall on, one by one.
* `Frame.draw`: every covered pixel is toggled, in order; a collision is a lit pixel that is met.
* `Frame.lines`: the picture as text.
-/

namespace ChipEight

/-- A place in the picture. -/
structure Pixel where
  row : Fin 32
  col : Fin 64
  deriving DecidableEq, Repr

namespace Pixel

/-- A row and a column that name no place in the picture. -/
structure Outside where
  row : Nat
  col : Nat
  deriving DecidableEq, Repr

/-- The fault in words. -/
def Outside.message (o : Outside) : String :=
  "pixel (" ++ o.row.repr ++ ", " ++ o.col.repr ++ ") is outside the frame buffer"

/-- The place in a row and a column. -/
def locate (row col : Nat) : Except Outside Pixel :=
  if h : row < 32 ∧ col < 64 then .ok ⟨⟨row, h.1⟩, ⟨col, h.2⟩⟩ else .error ⟨row, col⟩

end Pixel

/-- A picture, row by row. -/
structure Frame where
  rows : Vector (Vector Bool 64) 32
  deriving DecidableEq

namespace Frame

/-- How many pixels a row has. -/
def width : Nat := 64

/-- How many rows there are. -/
def height : Nat := 32

/-- The picture with no pixel lit. -/
def blank : Frame := ⟨.replicate 32 (.replicate 64 false)⟩

/-- Whether a pixel is lit. -/
def lit (f : Frame) (p : Pixel) : Bool := f.rows[p.row.val][p.col.val]

/-- The picture with a pixel lit or not. -/
def put (f : Frame) (p : Pixel) (on : Bool) : Frame :=
  ⟨f.rows.set p.row (f.rows[p.row.val].set p.col on)⟩

/-- The picture with a pixel changed over. -/
def toggle (f : Frame) (p : Pixel) : Frame := f.put p (!f.lit p)

/-- The columns that the set bits of a byte fall on, from column `x` on. -/
def coveredColumns (x : UInt8) (byte : UInt8) : List (Fin 64) :=
  ((List.range 8).filter fun b => byte.toNat.testBit (7 - b)).map fun b =>
    ⟨(x.toNat + b) % 64, Nat.mod_lt _ (by decide)⟩

/-- The pixels that the set bits of a sprite fall on, from column `x` and row `y` on. -/
def covered (x y : UInt8) (sprite : List UInt8) : List Pixel :=
  sprite.zipIdx.flatMap fun (byte, k) =>
    (coveredColumns x byte).map fun col => ⟨⟨(y.toNat + k) % 32, Nat.mod_lt _ (by decide)⟩, col⟩

/-- A picture with one more pixel toggled, and whether a lit pixel was met so far. -/
def strike (s : Frame × Bool) (p : Pixel) : Frame × Bool := (s.1.toggle p, s.2 || s.1.lit p)

/-- The picture with a sprite drawn from column `x` and row `y` on, and whether it collided. -/
def draw (f : Frame) (x y : UInt8) (sprite : List UInt8) : Frame × Bool :=
  (covered x y sprite).foldl strike (f, false)

/-- A row as text. -/
def line (row : Vector Bool 64) : String :=
  String.ofList (row.toList.map fun on => if on then '#' else '.')

/-- The rows as text, a lit pixel as `#` and an unlit one as `.`. -/
def lines (f : Frame) : List String := f.rows.toList.map line

/-- The whole picture as text, every row with its line feed. -/
def text (f : Frame) : String := String.join (f.lines.map (· ++ "\n"))

@[simp] theorem lit_put (f : Frame) (p q : Pixel) (on : Bool) :
    (f.put p on).lit q = if p = q then on else f.lit q := by
  obtain ⟨r, c⟩ := p
  obtain ⟨r', c'⟩ := q
  simp only [lit, put, Vector.getElem_set, Pixel.mk.injEq, Fin.ext_iff]
  by_cases hr : r.val = r'.val
  · obtain rfl := Fin.ext hr
    simp [Vector.getElem_set]
  · simp [hr]

@[simp] theorem lit_blank (p : Pixel) : blank.lit p = false := by
  simp [lit, blank]

/-- Pictures are equal when they agree on every pixel. -/
@[ext] theorem ext {f g : Frame} (h : ∀ p, f.lit p = g.lit p) : f = g := by
  obtain ⟨f⟩ := f
  obtain ⟨g⟩ := g
  congr 1
  ext r hr c hc
  exact h ⟨⟨r, hr⟩, ⟨c, hc⟩⟩

end Frame

end ChipEight
