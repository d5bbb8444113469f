import ChipEight.Instruction

/-!
# Instruction — Assembly

The written form of an instruction: a mnemonic, then its operands with commas between them, as in
`DRW V1, V2, 0x05`.  Registers and the machine's other named places come before literals.

* `Instruction.mnemonic`, `Instruction.operands`: the parts of the form.
* `Instruction.text`: the whole line.
-/

namespace ChipEight

/-- What an instruction is applied to. -/
inductive Operand where
  /-- A numbered register. -/
  | register (x : Register)
  /-- The index. -/
  | index
  /-- The delay timer. -/
  | delay
  /-- The sound timer. -/
  | sound
  /-- A key that is waited for. -/
  | key
  /-- The glyph of a digit. -/
  | glyph
  /-- Three decimal digits. -/
  | decimal
  /-- The memory that the index points at. -/
  | block
  /-- A byte written out. -/
  | byte (b : UInt8)
  /-- An address written out. -/
  | address (a : Address)
  deriving DecidableEq, Repr

/-- Whether the operand is a number written out, rather than a place. -/
def Operand.isLiteral : Operand → Bool
  | .byte _ | .address _ => true
  | _ => false

/-- The written operand: bytes have two digits and addresses four. -/
def Operand.text : Operand → String
  | .register x => "V" ++ Hex.text 1 x.val
  | .index => "I"
  | .delay => "DT"
  | .sound => "ST"
  | .key => "K"
  | .glyph => "F"
  | .decimal => "B"
  | .block => "[I]"
  | .byte b => Hex.literal 2 b.toNat
  | .address a => Hex.literal 4 a.val

namespace Instruction

/-- The name of the operation; several instructions may share one. -/
def mnemonic : Instruction → String
  | .sys _ => "SYS"
  | .cls => "CLS"
  | .ret => "RET"
  | .jump _ | .jumpOffset _ => "JP"
  | .call _ => "CALL"
  | .skipIfByte _ _ | .skipIfEqual _ _ => "SE"
  | .skipUnlessByte _ _ | .skipUnlessEqual _ _ => "SNE"
  | .loadByte _ _ | .copy _ _ | .loadIndex _ | .readDelay _ | .awaitKey _ | .setDelay _
  | .setSound _ | .glyph _ | .decimal _ | .store _ | .load _ => "LD"
  | .addByte _ _ | .add _ _ | .addIndex _ => "ADD"
  | .or _ _ => "OR"
  | .and _ _ => "AND"
  | .xor _ _ => "XOR"
  | .sub _ _ => "SUB"
  | .subn _ _ => "SUBN"
  | .shr _ => "SHR"
  | .shl _ => "SHL"
  | .random _ _ => "RND"
  | .draw _ _ _ => "DRW"
  | .skipIfKey _ => "SKP"
  | .skipUnlessKey _ => "SKNP"

/-- The operands in the order in which they are written; what is changed comes first. -/
def operands : Instruction → List Operand
  | .cls | .ret => []
  | .sys a | .jump a | .call a => [.address a]
  | .skipIfByte x b | .skipUnlessByte x b | .loadByte x b | .addByte x b | .random x b =>
    [.register x, .byte b]
  | .skipIfEqual x y | .skipUnlessEqual x y | .copy x y | .or x y | .and x y | .xor x y
  | .add x y | .sub x y | .subn x y => [.register x, .register y]
  | .shr x | .shl x | .skipIfKey x | .skipUnlessKey x => [.register x]
  | .loadIndex a => [.index, .address a]
  | .jumpOffset a => [.register 0, .address a]
  | .draw x y height => [.register x, .register y, .byte (UInt8.ofNat height.val)]
  | .readDelay x => [.register x, .delay]
  | .awaitKey x => [.register x, .key]
  | .setDelay x => [.delay, .register x]
  | .setSound x => [.sound, .register x]
  | .addIndex x => [.index, .register x]
  | .glyph x => [.glyph, .register x]
  | .decimal x => [.decimal, .register x]
  | .store x => [.block, .register x]
  | .load x => [.register x, .block]

/-- The instruction as a line of assembly. -/
def text (ins : Instruction) : String :=
  match ins.operands with
  | [] => ins.mnemonic
  | o :: os => ins.mnemonic ++ " " ++ ", ".intercalate ((o :: os).map Operand.text)

example : (draw 1 2 5).text = "DRW V1, V2, 0x05" := by decide

end Instruction

end ChipEight
