import ChipEight.Instruction
import ChipEight.Machine

/-!
# Machine — Execute

The effect of each instruction.  The program counter is already past the instruction when it runs.
An instruction that fails leaves the machine as it found it, with one exception: drawing clears the
flag register before it reads its coordinates and its sprite.
-/

namespace ChipEight
open Arithmetic

/-! ### Attempts -/

/-- What an attempt leaves: a machine in any case, and a result or a fault. -/
structure Outcome (α : Type) where
  machine : Machine
  result : Except Fault α

namespace Outcome

/-- The attempt that succeeded with nothing more to say. -/
def done (m : Machine) : Outcome Unit := ⟨m, .ok ()⟩

/-- The attempt that failed and left a machine behind. -/
def failed {α : Type} (m : Machine) (e : Fault) : Outcome α := ⟨m, .error e⟩

end Outcome

namespace Machine

/-! ### Effects that can fail, or that depend on more than registers -/

/-- Takes the latest return address off the stack and goes there. -/
def ret (m : Machine) : Outcome Unit :=
  match m.registers.pop with
  | .ok (a, r) => .done (goTo { m with registers := r } a)
  | .error e => .failed m e

/-- Puts the program counter on the stack and goes to an address. -/
def call (m : Machine) (a : Address) : Outcome Unit :=
  match m.registers.push m.registers.pc with
  | .ok r => .done (goTo { m with registers := r } (UInt16.ofNat a.val))
  | .error e => .failed m e

/-- Puts the next random byte, masked, into a register. -/
def drawRandom (m : Machine) (x : Register) (mask : UInt8) : Machine :=
  let (b, random) := m.random.next
  put { m with random := random } x (b &&& mask)

/-- Draws the sprite at the index, and puts into the flag register whether it collided. -/
def drawSprite (m : Machine) (x y : Register) (height : Fin 16) : Outcome Unit :=
  let m := m.put Registers.flag 0
  match m.memory.read m.registers.index height.val with
  | .ok sprite =>
    let (frame, hit) := m.frame.draw (m.registers.get x) (m.registers.get y) sprite
    .done (put { m with frame := frame, drawn := true } Registers.flag hit.toUInt8)
  | .error e => .failed m e

/-- Takes the lowest key that is held, or starts to wait for one. -/
def awaitKey (m : Machine) (x : Register) : Machine :=
  match m.keypad.firstPressed with
  | some key => m.put x (UInt8.ofNat key.val)
  | none => { m with parked := some x }

/-- Writes bytes at the index. -/
def writeBlock (m : Machine) (bytes : List UInt8) : Outcome Unit :=
  match m.memory.write m.registers.index bytes with
  | .ok memory => .done { m with memory := memory }
  | .error e => .failed m e

/-- Reads bytes at the index into the registers up to `x`. -/
def readBlock (m : Machine) (x : Register) : Outcome Unit :=
  match m.memory.read m.registers.index (x.val + 1) with
  | .ok bytes => .done { m with registers := m.registers.putFirst bytes }
  | .error e => .failed m e

/-! ### All instructions -/

/-- The effect of an instruction. -/
def execute (m : Machine) (ins : Instruction) : Outcome Unit :=
  let v := m.registers.get
  match ins with
  | .sys _ => .done m
  | .cls => .done { m with frame := .blank, drawn := true }
  | .ret => m.ret
  | .jump a => .done (m.goTo (UInt16.ofNat a.val))
  | .call a => m.call a
  | .skipIfByte x b => .done (m.skipIf (v x == b))
  | .skipUnlessByte x b => .done (m.skipIf (v x != b))
  | .skipIfEqual x y => .done (m.skipIf (v x == v y))
  | .skipUnlessEqual x y => .done (m.skipIf (v x != v y))
  | .loadByte x b => .done (m.put x b)
  | .addByte x b => .done (m.put x (v x + b))
  | .copy x y => .done (m.put x (v y))
  | .or x y => .done (m.put x (v x ||| v y))
  | .and x y => .done (m.put x (v x &&& v y))
  | .xor x y => .done (m.put x (v x ^^^ v y))
  | .add x y => .done (m.putFlagged x (addCarry (v x) (v y)))
  | .sub x y => .done (m.putFlagged x (subBorrow (v x) (v y)))
  | .subn x y => .done (m.putFlagged x (subBorrow (v y) (v x)))
  | .shr x => .done (m.putFlagged x (shiftRight (v x)))
  | .shl x => .done (m.putFlagged x (shiftLeft (v x)))
  | .loadIndex a => .done (m.pointTo (UInt16.ofNat a.val))
  | .jumpOffset a => .done (m.goTo (UInt16.ofNat (a.val + (v 0).toNat)))
  | .random x mask => .done (m.drawRandom x mask)
  | .draw x y height => m.drawSprite x y height
  | .skipIfKey x => .done (m.skipIf (m.keypad.isPressed (v x)))
  | .skipUnlessKey x => .done (m.skipIf (!m.keypad.isPressed (v x)))
  | .readDelay x => .done (m.put x m.registers.delay)
  | .awaitKey x => .done (m.awaitKey x)
  | .setDelay x => .done { m with registers := { m.registers with delay := v x } }
  | .setSound x => .done { m with registers := { m.registers with sound := v x } }
  | .addIndex x => .done (m.pointTo (m.registers.index + (v x).toUInt16))
  | .glyph x => .done (m.pointTo (Font.glyphAddress (v x)))
  | .decimal x => m.writeBlock (decimalDigits (v x))
  | .store x => m.writeBlock (m.registers.upTo x)
  | .load x => m.readBlock x

end Machine

end ChipEight
