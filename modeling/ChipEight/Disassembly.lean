import ChipEight.Instruction.Assembly
import ChipEight.Memory

/-!
# Disassembly

A program read as a row of words, each with the address it has in memory and the instruction it
stands for, if any.  A last byte without a partner is left out.

* `disassemble`: the words of a program, addressed from an origin on.
* `listing`: the lines that show them.
* `length_disassemble`: there is one item per whole word.
-/

namespace ChipEight

/-- A word at an address. -/
structure CodeItem where
  address : UInt16
  opcode : Opcode
  deriving DecidableEq, Repr

namespace CodeItem

/-- The instruction that the word stands for. -/
def instruction? (item : CodeItem) : Option Instruction := Instruction.decode item.opcode

/-- Address, word and instruction in three columns; a word without an instruction shows `???`. -/
def line (item : CodeItem) : String :=
  Hex.literal 4 item.address.toNat ++ "  " ++ item.opcode.text ++ "  " ++
    match item.instruction? with
    | some ins => ins.text
    | none => "???"

end CodeItem

/-- The words of a program whose first byte lies at `origin`.  Addresses wrap around at 65536. -/
def disassemble : List UInt8 → UInt16 → List CodeItem
  | high :: low :: rest, origin => ⟨origin, .ofBytes high low⟩ :: disassemble rest (origin + 2)
  | _, _ => []

/-- One line per word of a program, as it is loaded. -/
def listing (program : List UInt8) : List String :=
  (disassemble program Memory.programStart).map CodeItem.line

/-- A word without an instruction, and a byte without a partner. -/
example : (disassemble [0x8A, 0xB8, 0x12] 0x204).map CodeItem.line = ["0x0204  8AB8  ???"] := by
  decide

theorem length_disassemble (program : List UInt8) (origin : UInt16) :
    (disassemble program origin).length = program.length / 2 := by
  fun_induction disassemble program origin with
  | case1 high low rest origin ih => simp only [List.length_cons, ih]; omega
  | case2 program origin h =>
    match program, h with
    | [], _ => rfl
    | [_], _ => simp
    | a :: b :: rest, h => exact (h a b rest rfl).elim

end ChipEight
