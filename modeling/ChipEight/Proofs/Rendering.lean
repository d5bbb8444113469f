import ChipEight.Frame
import ChipEight.Text.Lines

/-!
# Proofs — Rendering

A picture as text, and the picture that is read back from it.  Row by row, a text shows every pixel
in its place and nothing else, so a picture is all that its text tells.

* `Reads`: something is read off the front of a text exactly if it is written there.  This goes over
  from one thing to several in a row (`Reads.vector`), to a line of them (`Reads.line`) and to a
  text of nothing else (`Reads.whole`).
* `Frame.ofText?`: the picture that a text shows.
* `Frame.ofText?_eq_some_iff`: a text shows a picture if it is the text of that picture.
* `Frame.text_shows_pixels`: the text of a picture, character by character, and what it tells.
-/

namespace ChipEight

/-! ### Reading what is written -/

/-- A way to read something off the front of a text, together with what comes after it. -/
abbrev Reader (α : Type) := List Char → Option (α × List Char)

variable {α : Type} {read : Reader α} {write : α → List Char} {cs rest : List Char} {n : Nat}

/-- Something is read off the front of a text exactly if it is written there. -/
def Reads (read : Reader α) (write : α → List Char) : Prop :=
  ∀ cs a rest, read cs = some (a, rest) ↔ cs = write a ++ rest

/-- Reads several things, one after the other. -/
def readVector (read : Reader α) : (n : Nat) → Reader (Vector α n)
  | 0, cs => some (#v[], cs)
  | n + 1, cs => do
    let (v, cs) ← readVector read n cs
    let (a, cs) ← read cs
    return (v.push a, cs)

/-- Writes several things, one after the other. -/
def writeVector (write : α → List Char) (v : Vector α n) : List Char := v.toList.flatMap write

/-- Reads something and the line feed after it. -/
def readLine (read : Reader α) : Reader α := fun cs =>
  match read cs with
  | some (a, '\n' :: rest) => some (a, rest)
  | _ => none

/-- Writes something and a line feed after it. -/
def writeLine (write : α → List Char) (a : α) : List Char := write a ++ ['\n']

/-- Reads something that nothing comes after. -/
def readWhole (read : Reader α) (cs : List Char) : Option α :=
  match read cs with
  | some (a, []) => some a
  | _ => none

theorem writeVector_push (v : Vector α n) (a : α) :
    writeVector write (v.push a) = writeVector write v ++ write a := by
  rw [writeVector, Vector.toList_push, List.flatMap_append, List.flatMap_singleton, writeVector]

/-- The last of several things is read off what the others have left. -/
theorem readVector_push_iff {v : Vector α n} {a : α} :
    readVector read (n + 1) cs = some (v.push a, rest) ↔
      ∃ left, readVector read n cs = some (v, left) ∧ read left = some (a, rest) := by
  simp only [readVector, Option.bind_eq_bind, Option.bind_eq_some_iff, Prod.exists, Option.pure_def,
    Option.some.injEq, Prod.mk.injEq, Vector.push_eq_push]
  constructor
  · rintro ⟨v, left, hv, a, rest, ha, ⟨rfl, rfl⟩, rfl⟩
    exact ⟨left, hv, ha⟩
  · rintro ⟨left, hv, ha⟩
    exact ⟨v, left, hv, a, rest, ha, ⟨rfl, rfl⟩, rfl⟩

namespace Reads

/-- **Several things are read as they are written if one is.** -/
theorem vector (h : Reads read write) (n : Nat) :
    Reads (readVector read n) (writeVector write) := by
  induction n with
  | zero =>
      intro cs v rest
      obtain rfl := v.eq_empty
      simp [readVector, writeVector]
  | succ n ih =>
      intro cs v rest
      obtain ⟨v, a, rfl⟩ := v.exists_push
      rw [readVector_push_iff, writeVector_push, List.append_assoc]
      constructor
      · rintro ⟨left, hv, ha⟩
        rw [(ih ..).mp hv, (h ..).mp ha]
      · rintro rfl
        exact ⟨write a ++ rest, (ih ..).mpr rfl, (h ..).mpr rfl⟩

theorem line (h : Reads read write) : Reads (readLine read) (writeLine write) := by
  intro cs a rest
  rw [writeLine, List.append_assoc, List.singleton_append, ← h, readLine]
  split
  next a' rest' hread => simp [hread]
  next hnot => exact iff_of_false nofun fun hread => hnot a rest hread

theorem whole (h : Reads read write) {a : α} : readWhole read cs = some a ↔ cs = write a := by
  rw [← List.append_nil (write a), ← h, readWhole]
  split
  next a' hread => simp [hread]
  next hnot => exact iff_of_false nofun fun hread => hnot a hread

end Reads

namespace Frame

/-! ### Characters and pixels -/

/-- The character that shows a pixel. -/
def mark (on : Bool) : Char := if on then '#' else '.'

/-- The characters that show the pixels of a picture, row by row. -/
def marks (f : Frame) : Vector (Vector Char 64) 32 := f.rows.map fun row => row.map mark

/-- Reads a pixel. -/
def readPixel : Reader Bool
  | '#' :: cs => some (true, cs)
  | '.' :: cs => some (false, cs)
  | _ => none

/-- Reads the rows of a picture, each with its line feed. -/
def readRows : Reader (Vector (Vector Bool 64) 32) :=
  readVector (readLine (readVector readPixel 64)) 32

/-- Writes the rows of a picture, each with its line feed. -/
def writeRows : Vector (Vector Bool 64) 32 → List Char :=
  writeVector (writeLine (writeVector fun on => [mark on]))

/-- The picture that a text shows, with nothing after its last row. -/
def ofText? (text : String) : Option Frame := (readWhole readRows text.toList).map Frame.mk

variable {f : Frame} {text : String}

theorem reads_pixel : Reads readPixel fun on => [mark on] := by
  intro cs on rest
  unfold readPixel
  split
  · cases on <;> simp [mark]
  · cases on <;> simp [mark]
  next hsharp hdot =>
    refine iff_of_false nofun ?_
    rintro rfl
    cases on with
    | true => exact hsharp rest rfl
    | false => exact hdot rest rfl

theorem toList_line (row : Vector Bool 64) : (line row).toList = (row.map mark).toList := by
  rw [line, String.toList_ofList, Vector.toList_map]
  rfl

theorem map_toList_lines (f : Frame) :
    f.lines.map String.toList = f.marks.toList.map Vector.toList := by
  rw [lines, marks, List.map_map, Vector.toList_map, List.map_map]
  exact List.map_congr_left fun row _ => toList_line row

theorem toList_text (f : Frame) :
    f.text.toList = f.marks.toList.flatMap fun row => row.toList ++ ['\n'] := by
  have hlines := congrArg (List.flatMap (· ++ ['\n'])) f.map_toList_lines
  rw [List.flatMap_map, List.flatMap_map] at hlines
  rw [← hlines, text, String.toList_join, List.flatMap_map]
  exact congrArg (List.flatMap · f.lines) (funext fun l => String.toList_append)

/-- Nothing in a row ends a line. -/
theorem ne_of_mem_line {row : Vector Bool 64} {c : Char} (h : c ∈ (line row).toList) :
    c ≠ '\n' ∧ c ≠ '\r' := by
  rw [toList_line, Vector.toList_map] at h
  obtain ⟨on, -, rfl⟩ := List.mem_map.mp h
  cases on <;> decide

/-- The lines of the text are the rows, none of them cut in two and no two run together. -/
theorem lines_text (f : Frame) : Text.lines f.text.toList = f.marks.toList.map Vector.toList := by
  have hrows : ∀ l ∈ f.lines.map String.toList, '\n' ∉ l ∧ l.getLast? ≠ some '\r' := by
    intro l hl
    rw [lines, List.map_map] at hl
    obtain ⟨row, -, rfl⟩ := List.mem_map.mp hl
    exact ⟨fun h => (ne_of_mem_line h).1 rfl,
      fun h => (ne_of_mem_line (List.mem_of_getLast? h)).2 rfl⟩
  rw [map_toList_lines] at hrows
  rw [toList_text, ← List.flatMap_map Vector.toList (· ++ ['\n']), Text.lines_flatMap_newline hrows]

/-! ### Reading a picture back -/

theorem reads_rows : Reads readRows writeRows := (reads_pixel.vector 64).line.vector 32

theorem writeRows_rows (f : Frame) : writeRows f.rows = f.text.toList := by
  rw [toList_text, marks, Vector.toList_map, List.flatMap_map, writeRows, writeVector]
  refine congrArg (List.flatMap · f.rows.toList) (funext fun row => ?_)
  rw [writeLine, writeVector, ← List.map_eq_flatMap, Vector.toList_map]

/-- **A text shows a picture if it is the text of that picture**, and no other text does. -/
theorem ofText?_eq_some_iff : ofText? text = some f ↔ text = f.text := by
  rw [ofText?, Option.map_eq_some_iff, ← String.toList_inj, ← writeRows_rows]
  constructor
  · rintro ⟨rows, hrows, rfl⟩
    exact reads_rows.whole.mp hrows
  · intro h
    exact ⟨f.rows, reads_rows.whole.mpr h, rfl⟩

theorem text_inj {g : Frame} : f.text = g.text ↔ f = g := by
  refine ⟨fun h => ?_, congrArg text⟩
  have hf := ofText?_eq_some_iff.mpr h
  exact Option.some.inj ((ofText?_eq_some_iff.mpr rfl).symm.trans hf)

theorem get_marks (f : Frame) (p : Pixel) :
    (f.marks.get p.row).get p.col = if f.lit p then '#' else '.' := by
  show f.marks[p.row.val][p.col.val] = mark (f.lit p)
  rw [lit, marks, Vector.getElem_map, Vector.getElem_map]

/-- **The text of a picture shows its pixels, and tells the picture.**  It has thirty-two rows of
sixty-four characters and a line feed after each; these rows are the lines that the text falls into,
and those that are written one by one.  A character is `#` if the pixel in its row and column is
lit, and `.` if it is not.  Pictures are equal when their texts are, and a picture is read back, row
by row, from its text and from no other. -/
theorem text_shows_pixels (f : Frame) :
    (∃ rows : Vector (Vector Char 64) 32,
      f.text.toList = rows.toList.flatMap (fun row => row.toList ++ ['\n']) ∧
      Text.lines f.text.toList = rows.toList.map Vector.toList ∧
      f.lines.map String.toList = rows.toList.map Vector.toList ∧
      ∀ p : Pixel, (rows.get p.row).get p.col = if f.lit p then '#' else '.') ∧
    (∀ g : Frame, f.text = g.text ↔ f = g) ∧
    ∀ text, ofText? text = some f ↔ text = f.text :=
  ⟨⟨f.marks, f.toList_text, f.lines_text, f.map_toList_lines, f.get_marks⟩,
    fun _ => text_inj, fun _ => ofText?_eq_some_iff⟩

end Frame

end ChipEight
