import ChipEight.Proofs.Guarded.Agreement
import Mathlib.Algebra.Ring.Parity
import Mathlib.Data.List.Nodup
import Mathlib.Data.List.ProdSigma

/-!
# Proofs — Drawing

What drawings make of a picture, whatever they overlap and however often they wrap around.  A set
bit of a sprite changes one pixel over.  So a pixel ends as it began or changed over, depending on
how many set bits fall on it, and a drawing collides if a bit meets a lit pixel, be it lit from the
beginning or by an earlier bit of the same sprite.  Neither depends on the order of the bits, and
hence a row of drawings may be put in any order.

* `Frame.strikes`: how many set bits of a sprite fall on a pixel.
* `Frame.draw_strikes`: a drawing in terms of them.
* `Frame.drawAll`: drawings one after the other, with the collision of each.
* `Frame.drawAll_perm`: the order of drawings does not count, and two equal ones cancel out.
-/

namespace ChipEight.Frame

variable {f : Frame} {p : Pixel} {ps qs : List Pixel} {s : Frame × Bool} {x y : UInt8}
  {sprite : List UInt8}

/-! ### Pixel by pixel -/

theorem lit_toggle (f : Frame) (p q : Pixel) :
    (f.toggle p).lit q = (f.lit q ^^ decide (p = q)) := by
  rw [toggle, lit_put]
  by_cases h : p = q
  · subst h
    simp
  · simp [h]

/-- A pixel is changed over as often as it is struck. -/
theorem lit_foldl_strike (s : Frame × Bool) (ps : List Pixel) (q : Pixel) :
    (ps.foldl strike s).1.lit q = (s.1.lit q ^^ decide (Odd (ps.count q))) := by
  induction ps generalizing s with
  | nil => simp
  | cons p ps ih =>
      rw [List.foldl_cons, ih, strike, lit_toggle, Bool.xor_assoc]
      by_cases h : p = q
      · subst h
        rw [List.count_cons_self]
        by_cases ho : Odd (ps.count p) <;> simp [ho, Nat.odd_add_one]
      · rw [List.count_cons_of_ne h]
        simp [h]

/-- A lit pixel is met if one of those that are struck was lit before, or is struck twice. -/
theorem met_foldl_strike (s : Frame × Bool) (ps : List Pixel) :
    (ps.foldl strike s).2 = true ↔
      s.2 = true ∨ ∃ q, (1 ≤ ps.count q ∧ s.1.lit q = true) ∨ 2 ≤ ps.count q := by
  induction ps generalizing s with
  | nil => simp
  | cons p ps ih =>
      have hne : ∀ {q}, q ≠ p → (p :: ps).count q = ps.count q ∧
          (s.1.toggle p).lit q = s.1.lit q := fun {q} h =>
        ⟨List.count_cons_of_ne h.symm, by simp [lit_toggle, h.symm]⟩
      have hself : (p :: ps).count p = ps.count p + 1 := List.count_cons_self
      have htoggle : (s.1.toggle p).lit p = !s.1.lit p := by simp [lit_toggle]
      rw [List.foldl_cons, ih, strike, Bool.or_eq_true, or_assoc]
      refine or_congr_right ?_
      constructor
      · rintro (hlit | ⟨q, hq⟩)
        · exact ⟨p, .inl ⟨by omega, hlit⟩⟩
        · by_cases h : q = p
          · -- what has been changed over is met again
            subst h
            exact ⟨q, .inr (by omega)⟩
          · rw [(hne h).2] at hq
            exact ⟨q, (hne h).1.symm ▸ hq⟩
      · rintro ⟨q, hq⟩
        by_cases h : q = p
        · subst h
          by_cases hlit : s.1.lit q = true
          · exact .inl hlit
          · have htwice : 1 ≤ ps.count q := by
              rcases hq with ⟨-, hq⟩ | hq
              · exact absurd hq hlit
              · omega
            exact .inr ⟨q, .inl ⟨htwice, by simp [htoggle, hlit]⟩⟩
        · rw [(hne h).1, ← (hne h).2] at hq
          exact .inr ⟨q, hq⟩

/-! ### The bits of a sprite -/

/-- Whether bit `b` from the left is set in row `k` of a sprite. -/
def isSet (sprite : List UInt8) (k b : Nat) : Bool := (sprite.getD k 0).toNat.testBit (7 - b)

/-- How many set bits of a sprite that is drawn from column `x` and row `y` on fall on a pixel. -/
def strikes (x y : UInt8) (sprite : List UInt8) (p : Pixel) : Nat :=
  (List.range sprite.length ×ˢ List.range 8).countP fun kb =>
    isSet sprite kb.1 kb.2 ∧
      (y.toNat + kb.1) % 32 = p.row.val ∧ (x.toNat + kb.2) % 64 = p.col.val

/-- The pixel that a bit falls on. -/
def target (x y : UInt8) (kb : Nat × Nat) : Pixel :=
  ⟨⟨(y.toNat + kb.1) % 32, Nat.mod_lt _ (by decide)⟩,
    ⟨(x.toNat + kb.2) % 64, Nat.mod_lt _ (by decide)⟩⟩

theorem zipIdx_eq_map_range (sprite : List UInt8) :
    sprite.zipIdx = (List.range sprite.length).map fun k => (sprite.getD k 0, k) := by
  refine List.ext_getElem (by simp) fun k hk hk' => ?_
  have hlt : k < sprite.length := by simpa using hk
  simp [List.getElem?_eq_getElem hlt]

/-- The pixels that are struck are those that the set bits fall on, row by row. -/
theorem covered_eq_map_target (x y : UInt8) (sprite : List UInt8) :
    covered x y sprite =
      ((List.range sprite.length ×ˢ List.range 8).filter fun kb =>
        isSet sprite kb.1 kb.2).map (target x y) := by
  have hpairs : List.range sprite.length ×ˢ List.range 8 =
      (List.range sprite.length).flatMap fun k => (List.range 8).map (Prod.mk k) := rfl
  rw [covered, zipIdx_eq_map_range, List.flatMap_map, hpairs, List.filter_flatMap,
    List.map_flatMap]
  refine List.flatMap_congr fun k _ => ?_
  rw [List.filter_map, List.map_map]
  exact List.map_map

/-- **A pixel is struck once for every set bit that falls on it.** -/
theorem count_covered (x y : UInt8) (sprite : List UInt8) (p : Pixel) :
    (covered x y sprite).count p = strikes x y sprite p := by
  rw [covered_eq_map_target, List.count_eq_countP, List.countP_map, List.countP_filter, strikes]
  refine List.countP_congr fun kb _ => ?_
  obtain ⟨row, col⟩ := p
  simp [target, Fin.ext_iff, and_comm]

/-! ### One drawing -/

theorem lit_draw (f : Frame) (x y : UInt8) (sprite : List UInt8) (p : Pixel) :
    (f.draw x y sprite).1.lit p = (f.lit p ^^ decide (Odd (strikes x y sprite p))) := by
  rw [draw, lit_foldl_strike, count_covered]

theorem collides_draw_iff : (f.draw x y sprite).2 = true ↔
    ∃ p, (1 ≤ strikes x y sprite p ∧ f.lit p = true) ∨ 2 ≤ strikes x y sprite p := by
  simp only [draw, met_foldl_strike, count_covered, Bool.false_eq_true, false_or]

/-- **A drawing changes a pixel over for every set bit that falls on it**, and collides if a bit
falls on a pixel that was lit, or two bits fall on one pixel.  This holds for a sprite of any
height, and no place outside the picture is looked at or changed. -/
theorem draw_strikes (f : Frame) (x y : UInt8) (sprite : List UInt8) :
    (∀ p, (f.draw x y sprite).1.lit p = (f.lit p ^^ decide (Odd (strikes x y sprite p)))) ∧
    ((f.draw x y sprite).2 = true ↔
      ∃ p, (1 ≤ strikes x y sprite p ∧ f.lit p = true) ∨ 2 ≤ strikes x y sprite p) ∧
    Guarded.draw f x y sprite = .ok (f.draw x y sprite) :=
  ⟨f.lit_draw x y sprite, collides_draw_iff, Guarded.draw_eq f x y sprite⟩

/-- Thirty-three rows, of which the last falls on the first and takes it back. -/
example : (blank.draw 0 0 (.replicate 33 0x80)).1.lit ⟨0, 0⟩ = false ∧
    (blank.draw 0 0 (.replicate 33 0x80)).1.lit ⟨1, 0⟩ = true ∧
    (blank.draw 0 0 (.replicate 33 0x80)).2 = true := by decide +kernel

/-! ### Sprites that fit the picture -/

theorem mem_covered_iff : p ∈ covered x y sprite ↔
    ∃ k < sprite.length, ∃ b < 8, isSet sprite k b = true ∧
      p.row.val = (y.toNat + k) % 32 ∧ p.col.val = (x.toNat + b) % 64 := by
  rw [covered_eq_map_target, List.mem_map]
  constructor
  · rintro ⟨⟨k, b⟩, hkb, rfl⟩
    obtain ⟨hmem, hset⟩ := List.mem_filter.mp hkb
    obtain ⟨hk, hb⟩ := List.mem_product.mp hmem
    exact ⟨k, List.mem_range.mp hk, b, List.mem_range.mp hb, hset, rfl, rfl⟩
  · rintro ⟨k, hk, b, hb, hset, hrow, hcol⟩
    have hmem : (k, b) ∈ List.range sprite.length ×ˢ List.range 8 :=
      List.mem_product.mpr ⟨List.mem_range.mpr hk, List.mem_range.mpr hb⟩
    obtain ⟨row, col⟩ := p
    refine ⟨(k, b), List.mem_filter.mpr ⟨hmem, hset⟩, ?_⟩
    rw [target, Pixel.mk.injEq]
    exact ⟨Fin.ext hrow.symm, Fin.ext hcol.symm⟩

/-- The bits of a sprite that is no taller than the picture fall on different pixels. -/
theorem nodup_covered (h : sprite.length ≤ 32) : (covered x y sprite).Nodup := by
  rw [covered_eq_map_target]
  refine List.Nodup.map_on ?_ ((List.nodup_range.product List.nodup_range).filter _)
  rintro ⟨k, b⟩ hkb ⟨k', b'⟩ hkb' he
  have hk := List.mem_product.mp (List.mem_of_mem_filter hkb)
  have hk' := List.mem_product.mp (List.mem_of_mem_filter hkb')
  simp only [List.mem_range, target, Pixel.mk.injEq, Fin.ext_iff] at hk hk' he
  rw [Prod.mk.injEq]
  omega

theorem strikes_of_le (h : sprite.length ≤ 32) (p : Pixel) :
    strikes x y sprite p = if p ∈ covered x y sprite then 1 else 0 := by
  rw [← count_covered, (nodup_covered h).count]

theorem lit_draw_of_le (h : sprite.length ≤ 32) (f : Frame) (p : Pixel) :
    (f.draw x y sprite).1.lit p = (f.lit p ^^ decide (p ∈ covered x y sprite)) := by
  rw [lit_draw, strikes_of_le h]
  by_cases hp : p ∈ covered x y sprite <;> simp [hp]

/-- Such a sprite collides with what is in the picture, and not with itself. -/
theorem collides_draw_iff_of_le (h : sprite.length ≤ 32) : (f.draw x y sprite).2 = true ↔
    ∃ p ∈ covered x y sprite, f.lit p = true := by
  rw [collides_draw_iff]
  refine exists_congr fun p => ?_
  rw [strikes_of_le h]
  by_cases hp : p ∈ covered x y sprite <;> simp [hp]

/-! ### Drawings in a row -/

/-- A sprite, and the column and the row that it is drawn from. -/
structure Drawing where
  x : UInt8
  y : UInt8
  sprite : List UInt8

/-- The pixels that a drawing strikes. -/
def Drawing.pixels (d : Drawing) : List Pixel := covered d.x d.y d.sprite

/-- The picture after some drawings, one after the other, and for each whether it collided. -/
def drawAll (f : Frame) : List Drawing → Frame × List Bool
  | [] => (f, [])
  | d :: ds =>
    let (g, hit) := f.draw d.x d.y d.sprite
    let (h, hits) := g.drawAll ds
    (h, hit :: hits)

/-- What was met before adds to what is met, and nothing else depends on it. -/
theorem foldl_strike_eq (s : Frame × Bool) (ps : List Pixel) :
    ps.foldl strike s =
      ((ps.foldl strike (s.1, false)).1, s.2 || (ps.foldl strike (s.1, false)).2) := by
  induction ps generalizing s with
  | nil => simp
  | cons p ps ih =>
      rw [List.foldl_cons, List.foldl_cons, ih, ih (strike (s.1, false) p)]
      simp only [strike, Bool.or_assoc, Bool.false_or]

/-- Drawings one after the other strike their pixels one after the other. -/
theorem drawAll_eq_foldl_strike (f : Frame) (ds : List Drawing) :
    ((f.drawAll ds).1, (f.drawAll ds).2.any id) =
      (ds.flatMap Drawing.pixels).foldl strike (f, false) := by
  induction ds generalizing f with
  | nil => rfl
  | cons d ds ih =>
      rw [List.flatMap_cons, List.foldl_append, foldl_strike_eq, ← ih]
      rfl

theorem lit_drawAll (f : Frame) (ds : List Drawing) (p : Pixel) :
    (f.drawAll ds).1.lit p =
      (f.lit p ^^ decide (Odd ((ds.flatMap Drawing.pixels).count p))) := by
  have h := congrArg Prod.fst (f.drawAll_eq_foldl_strike ds)
  rw [← lit_foldl_strike (f, false), ← h]

theorem collides_drawAll_iff {ds : List Drawing} : (f.drawAll ds).2.any id = true ↔
    ∃ p, (1 ≤ (ds.flatMap Drawing.pixels).count p ∧ f.lit p = true) ∨
      2 ≤ (ds.flatMap Drawing.pixels).count p := by
  have h : (f.drawAll ds).2.any id = _ := congrArg Prod.snd (f.drawAll_eq_foldl_strike ds)
  rw [h, met_foldl_strike]
  simp only [Bool.false_eq_true, false_or]

/-- A drawing adds its pixels, wherever it stands. -/
theorem count_pixels_insert (d : Drawing) (as bs : List Drawing) (p : Pixel) :
    ((as ++ d :: bs).flatMap Drawing.pixels).count p =
      d.pixels.count p + ((as ++ bs).flatMap Drawing.pixels).count p := by
  rw [List.flatMap_append, List.flatMap_cons, List.flatMap_append, List.count_append,
    List.count_append, List.count_append]
  omega

/-- **The order of drawings does not count.**  Drawings in another order lead to the same picture,
and some of them collide in one order exactly if some do in the other.  A drawing that is put in
twice, wherever it is, leaves the picture as it was. -/
theorem drawAll_perm (f : Frame) :
    (∀ ds es : List Drawing, ds.Perm es →
      (f.drawAll ds).1 = (f.drawAll es).1 ∧
        (f.drawAll ds).2.any id = (f.drawAll es).2.any id) ∧
    ∀ (d : Drawing) (as bs cs : List Drawing),
      (f.drawAll (as ++ d :: (bs ++ d :: cs))).1 = (f.drawAll (as ++ (bs ++ cs))).1 := by
  constructor
  · intro ds es h
    have hcount : ∀ p, (ds.flatMap Drawing.pixels).count p = (es.flatMap Drawing.pixels).count p :=
      (h.flatMap_right Drawing.pixels).count_eq
    refine ⟨ext fun p => ?_, ?_⟩
    · rw [lit_drawAll, lit_drawAll, hcount]
    · rw [Bool.eq_iff_iff, collides_drawAll_iff, collides_drawAll_iff]
      simp only [hcount]
  · intro d as bs cs
    refine ext fun p => ?_
    -- the two drawings strike every pixel an even number of times
    have htwice : ((as ++ d :: (bs ++ d :: cs)).flatMap Drawing.pixels).count p =
        2 * d.pixels.count p + ((as ++ (bs ++ cs)).flatMap Drawing.pixels).count p := by
      rw [count_pixels_insert, ← List.append_assoc, count_pixels_insert, List.append_assoc]
      omega
    have hodd : ∀ a b : Nat, Odd (2 * a + b) ↔ Odd b := fun a b => by
      rw [Nat.odd_add', iff_true_right (even_two_mul a)]
    rw [lit_drawAll, lit_drawAll, htwice]
    simp only [hodd]

/-- The theorem at three drawings, of which one collides in one order and two in another. -/
theorem drawAll_perm_threeDrawings :
    ∃ a b c : Drawing, [a, b, c].Perm [c, a, b] ∧
      (blank.drawAll [a, b, c]).2 = [false, false, true] ∧
      (blank.drawAll [c, a, b]).2 = [false, true, true] ∧
      (blank.drawAll [a, b, c]).1 = (blank.drawAll [c, a, b]).1 := by
  have hperm : ∀ a b c : Drawing, [a, b, c].Perm [c, a, b] := fun a b c =>
    (List.perm_append_comm : ([a, b] ++ [c]).Perm ([c] ++ [a, b]))
  exact ⟨⟨0, 0, [0x80]⟩, ⟨1, 0, [0x80]⟩, ⟨0, 0, [0xC0]⟩, hperm .., by decide +kernel,
    by decide +kernel, ((drawAll_perm blank).1 _ _ (hperm ..)).1⟩

end ChipEight.Frame
