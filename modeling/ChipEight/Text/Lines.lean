/-!
# Text — Lines

The lines of a text.  A line ends at a line feed, and a carriage return right before the line feed
belongs to the ending; the last line need not end.

* `lines_append_newline`: what stands before a line feed is one line, if it has no line feed and
  does not end in a carriage return.
* `lines_flatMap_newline`: lines that are written one after the other are found again.
-/

namespace ChipEight.Text

/-- The lines of a text, without their endings. -/
def lines : List Char → List (List Char)
  | [] => []
  | '\n' :: cs => [] :: lines cs
  | '\r' :: '\n' :: cs => [] :: lines cs
  | c :: cs => match lines cs with
    | [] => [[c]]
    | l :: ls => (c :: l) :: ls

/-- The lines that are found in some texts, when each is written with a line feed after it. -/
def writtenLines (texts : List String) : List String :=
  texts.flatMap fun text => (lines (text.toList ++ ['\n'])).map String.ofList

example : writtenLines ["a\r\r\nb", "", "c\r"] = ["a\r", "b", "", "c"] := by decide

/-- What stands before a line feed is one line, if it has no line feed and does not end in a
carriage return. -/
theorem lines_append_newline {cs : List Char} (h : '\n' ∉ cs) (e : cs.getLast? ≠ some '\r')
    (rest : List Char) : lines (cs ++ '\n' :: rest) = cs :: lines rest := by
  induction cs with
  | nil => rfl
  | cons c cs ih =>
    have hc : c ≠ '\n' := fun hc => h (hc ▸ List.mem_cons_self)
    have hcs : '\n' ∉ cs := fun m => h (List.mem_cons_of_mem c m)
    cases cs with
    | nil =>
      have hr : c ≠ '\r' := by simpa using e
      simp [lines, hr]
    | cons d ds =>
      have hd : d ≠ '\n' := fun hd => hcs (hd ▸ List.mem_cons_self)
      have hds := ih hcs (by simpa using e)
      rw [List.cons_append] at hds ⊢
      rw [lines]
      · simp [hds]
      · simpa using hc
      · simpa using fun _ => hd

/-- Lines are found again in the text that has a line feed after each of them. -/
theorem lines_flatMap_newline {ls : List (List Char)}
    (h : ∀ l ∈ ls, '\n' ∉ l ∧ l.getLast? ≠ some '\r') :
    lines (ls.flatMap (· ++ ['\n'])) = ls := by
  induction ls with
  | nil => rfl
  | cons l ls ih =>
    obtain ⟨hl, hr⟩ := h l List.mem_cons_self
    rw [List.flatMap_cons, List.append_assoc, List.singleton_append, lines_append_newline hl hr,
      ih fun l' hl' => h l' (List.mem_cons_of_mem l hl')]

end ChipEight.Text
