import ChipEight.Instruction.Assembly
import ChipEight.Proofs.Text.Hex

/-!
# Proofs — Assembly

What a line of assembly says can be read back from it.  The line is cut at its blanks into the
mnemonic and the operands, these are told apart by how they start, and the mnemonic with the
operands names the instruction.

* `Operand.text_injective`: an operand by its text.
* `Instruction.assemble?_parts`: an instruction by its mnemonic and its operands.
* `Instruction.text_injective`: an instruction by its line.
-/

namespace ChipEight

/-! ### Operands -/

namespace Operand

/-- The character that an operand starts with. -/
def initial : Operand → Char
  | .register _ => 'V'
  | .index => 'I'
  | .delay => 'D'
  | .sound => 'S'
  | .key => 'K'
  | .glyph => 'F'
  | .decimal => 'B'
  | .block => '['
  | .byte _ | .address _ => '0'

theorem head?_text (o : Operand) : o.text.toList.head? = some o.initial := by
  cases o <;> simp [text, Hex.literal, initial]

theorem length_text_byte (b : UInt8) : (byte b).text.toList.length = 4 := by
  simp [text, Hex.literal, Hex.length_text_of_lt (w := 2) (by decide) b.toNat_lt]

theorem length_text_address (a : Address) : (address a).text.toList.length = 6 := by
  have ha : a.val < 16 ^ 4 := Nat.lt_trans a.isLt (by decide)
  simp [text, Hex.literal, Hex.length_text_of_lt (w := 4) (by decide) ha]

/-- **Operands are told apart by their texts.** -/
theorem text_injective : Function.Injective text := by
  intro o o' h
  have hi : o.initial = o'.initial := by
    rw [← Option.some.injEq, ← head?_text, ← head?_text, h]
  have hl := congrArg (fun s => s.toList.length) h
  -- two operands that start alike are of one kind, except for the two kinds of literals
  cases o <;> cases o' <;> first | rfl | (simp only [initial, Char.reduceEq] at hi; done) | skip
  case register.register x x' =>
    have hx := Hex.text_inj.mp (String.append_right_inj _ |>.mp h)
    rw [Fin.ext hx]
  case byte.byte b b' =>
    rw [UInt8.toNat_inj.mp (Hex.literal_inj.mp h)]
  case address.address a a' =>
    rw [Fin.ext (Hex.literal_inj.mp h)]
  case byte.address b a =>
    rw [length_text_byte, length_text_address] at hl
    cases hl
  case address.byte a b =>
    rw [length_text_byte, length_text_address] at hl
    cases hl

/-- There is no blank in an operand. -/
theorem not_mem_text (o : Operand) : ' ' ∉ o.text.toList := by
  have hd : ∀ d : Fin 16, ' ' ≠ Hex.digit d.val := by decide
  have hx : ∀ w n, ' ' ∉ (Hex.text w n).toList := fun w n hm => by
    rw [Hex.text, String.toList_ofList] at hm
    obtain ⟨d, hc⟩ := Hex.exists_digit_of_mem_lowDigits hm
    exact hd d hc
  cases o <;> simp [text, Hex.literal, hx]

end Operand

namespace Instruction

/-! ### Parts of a line -/

/-- The instruction of a mnemonic and some operands, if they are those of one. -/
def assemble? : String → List Operand → Option Instruction
  | "SYS", [.address a] => some (.sys a)
  | "CLS", [] => some .cls
  | "RET", [] => some .ret
  | "JP", [.address a] => some (.jump a)
  | "JP", [.register _, .address a] => some (.jumpOffset a)
  | "CALL", [.address a] => some (.call a)
  | "SE", [.register x, .byte b] => some (.skipIfByte x b)
  | "SE", [.register x, .register y] => some (.skipIfEqual x y)
  | "SNE", [.register x, .byte b] => some (.skipUnlessByte x b)
  | "SNE", [.register x, .register y] => some (.skipUnlessEqual x y)
  | "LD", [.register x, .byte b] => some (.loadByte x b)
  | "LD", [.register x, .register y] => some (.copy x y)
  | "LD", [.index, .address a] => some (.loadIndex a)
  | "LD", [.register x, .delay] => some (.readDelay x)
  | "LD", [.register x, .key] => some (.awaitKey x)
  | "LD", [.delay, .register x] => some (.setDelay x)
  | "LD", [.sound, .register x] => some (.setSound x)
  | "LD", [.glyph, .register x] => some (.glyph x)
  | "LD", [.decimal, .register x] => some (.decimal x)
  | "LD", [.block, .register x] => some (.store x)
  | "LD", [.register x, .block] => some (.load x)
  | "ADD", [.register x, .byte b] => some (.addByte x b)
  | "ADD", [.register x, .register y] => some (.add x y)
  | "ADD", [.index, .register x] => some (.addIndex x)
  | "OR", [.register x, .register y] => some (.or x y)
  | "AND", [.register x, .register y] => some (.and x y)
  | "XOR", [.register x, .register y] => some (.xor x y)
  | "SUB", [.register x, .register y] => some (.sub x y)
  | "SUBN", [.register x, .register y] => some (.subn x y)
  | "SHR", [.register x] => some (.shr x)
  | "SHL", [.register x] => some (.shl x)
  | "RND", [.register x, .byte b] => some (.random x b)
  | "DRW", [.register x, .register y, .byte b] => some (.draw x y (Fin.ofNat 16 b.toNat))
  | "SKP", [.register x] => some (.skipIfKey x)
  | "SKNP", [.register x] => some (.skipUnlessKey x)
  | _, _ => none

/-- **A mnemonic and its operands name the instruction.** -/
theorem assemble?_parts (ins : Instruction) : assemble? ins.mnemonic ins.operands = some ins := by
  cases ins
  case draw x y height =>
    have hh : (UInt8.ofNat height.val).toNat = height.val := by
      rw [UInt8.toNat_ofNat']
      omega
    exact congrArg some (congrArg (draw x y) (Fin.ext (by rw [Fin.val_ofNat, hh]; omega)))
  all_goals rfl

/-! ### Lines -/

/-- Some words, with a comma after each but the last. -/
def punctuated : List (List Char) → List (List Char)
  | [] => []
  | [w] => [w]
  | w :: w' :: ws => (w ++ [',']) :: punctuated (w' :: ws)

/-- Commas between words are commas after all of them but one. -/
theorem intercalate_punctuated (ws : List (List Char)) :
    [' '].intercalate (punctuated ws) = [',', ' '].intercalate ws := by
  fun_induction punctuated ws with
  | case1 => rfl
  | case2 w => simp
  | case3 w w' ws ih =>
      rw [List.intercalate_cons_cons, ← ih]
      cases h : punctuated (w' :: ws) with
      | nil => cases ws <;> cases h
      | cons u us => simp

theorem length_punctuated (ws : List (List Char)) : (punctuated ws).length = ws.length := by
  fun_induction punctuated ws with
  | case1 => rfl
  | case2 => rfl
  | case3 w w' ws ih => simp [ih]

theorem punctuated_injective : Function.Injective punctuated := by
  intro us ws h
  induction us generalizing ws with
  | nil =>
      have hl := congrArg List.length h
      rw [length_punctuated, length_punctuated] at hl
      exact (List.length_eq_zero_iff.mp hl.symm).symm
  | cons u us ih =>
      have hl := congrArg List.length h
      rw [length_punctuated, length_punctuated] at hl
      -- both rows end here or both go on
      match us, ws, hl with
      | [], [w], _ => exact h
      | u' :: us, w :: w' :: ws, _ =>
          obtain ⟨hw, hrest⟩ := List.cons.inj h
          rw [List.append_cancel_right hw, ih hrest]

/-- A character that is no comma and in none of some words is in none of the punctuated ones. -/
theorem not_mem_of_mem_punctuated {c : Char} {ws : List (List Char)} (hc : c ≠ ',')
    (h : ∀ w ∈ ws, c ∉ w) : ∀ w ∈ punctuated ws, c ∉ w := by
  fun_induction punctuated ws with
  | case1 => nofun
  | case2 => exact h
  | case3 w w' ws ih =>
      rintro u hu hm
      rcases List.mem_cons.mp hu with rfl | hu
      · rcases List.mem_append.mp hm with hm | hm
        · exact h w List.mem_cons_self hm
        · exact hc (List.mem_singleton.mp hm)
      · exact ih (fun v hv => h v (List.mem_cons_of_mem _ hv)) u hu hm

/-- The words of a line. -/
def words (ins : Instruction) : List (List Char) :=
  ins.mnemonic.toList :: punctuated (ins.operands.map fun o => o.text.toList)

/-- A line is made of its words, with blanks between them. -/
theorem toList_text (ins : Instruction) : ins.text.toList = [' '].intercalate ins.words := by
  unfold text words
  cases ins.operands with
  | nil => simp [punctuated]
  | cons o os =>
      have hp : punctuated ((o :: os).map fun o => o.text.toList) ≠ [] := fun h => by
        have hl := length_punctuated ((o :: os).map fun o => o.text.toList)
        rw [h] at hl
        cases hl
      rw [List.intercalate_cons_of_ne_nil hp, intercalate_punctuated]
      simp only [String.toList_append, String.toList_intercalate, List.map_map]
      rfl

/-- There is no blank in a mnemonic. -/
theorem not_mem_mnemonic (ins : Instruction) : ' ' ∉ ins.mnemonic.toList := by
  cases ins <;> simp [mnemonic]

theorem not_mem_of_mem_words {ins : Instruction} : ∀ w ∈ ins.words, ' ' ∉ w := by
  intro w hw
  rcases List.mem_cons.mp hw with rfl | hw
  · exact ins.not_mem_mnemonic
  · refine not_mem_of_mem_punctuated (by decide) (fun v hv => ?_) w hw
    obtain ⟨o, -, rfl⟩ := List.mem_map.mp hv
    exact o.not_mem_text

/-- A line that is cut at its blanks falls into its words. -/
theorem splitOn_text (ins : Instruction) : ins.text.toList.splitOn ' ' = ins.words := by
  rw [toList_text, List.splitOn_intercalate ' ' not_mem_of_mem_words (List.cons_ne_nil _ _)]

/-- **A line names one instruction.** -/
theorem text_injective : Function.Injective text := by
  intro i j h
  have hw : i.words = j.words := by
    rw [← splitOn_text, ← splitOn_text, h]
  obtain ⟨hm, ho⟩ := List.cons.inj hw
  have hos := (List.map_inj_right fun _ _ ht => Operand.text_injective (String.toList_inj.mp ht)).mp
    (punctuated_injective ho)
  have hparts := assemble?_parts i
  rw [String.toList_inj.mp hm, hos, assemble?_parts] at hparts
  exact (Option.some.inj hparts).symm

end Instruction

end ChipEight
