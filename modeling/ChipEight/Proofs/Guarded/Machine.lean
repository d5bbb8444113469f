import ChipEight.Machine.History

/-!
# Proofs — Guarded — Machine

The machine once more, with every check made on the way.  An array is read and written at an index
that has to lie in it, a block is cut out between two bounds that have to lie in order, a sum has to
fit its type, a pixel has to be in the picture, and a word is executed by its four nibbles, which
have to select something.  A check that fails is a `Breach`, which is not a fault of the machine:
nothing goes on after it.

* `Guarded.perform`: the effect of an instruction, with its checks.
* `Guarded.execute`: the dispatch over the nibbles of a word.
* `Guarded.tick`, `Guarded.run`: a tick, and the actions of a history one after the other.
-/

namespace ChipEight

/-- A check that did not hold. -/
inductive Breach where
  /-- An index is not below the size of an array. -/
  | index (i size : Nat)
  /-- The bounds of a block are not in order, or not in an array. -/
  | range (start stop size : Nat)
  /-- A block is copied over one of another length. -/
  | length (source target : Nat)
  /-- A number does not fit its type. -/
  | overflow (value limit : Nat)
  /-- A row and a column name no place in the picture. -/
  | pixel (o : Pixel.Outside)
  /-- A word that selects nothing is executed. -/
  | unreachable (op : Opcode)
  deriving DecidableEq, Repr

namespace Guarded

/-! ### Checked operations -/

/-- The entry of an array at an index. -/
def entry {α : Type} {n : Nat} (xs : Vector α n) (i : Nat) : Except Breach α :=
  if h : i < n then .ok xs[i] else .error (.index i n)

/-- The item of a list at an index. -/
def item {α : Type} (xs : List α) (i : Nat) : Except Breach α :=
  match xs[i]? with
  | some a => .ok a
  | none => .error (.index i xs.length)

/-- The array with the entry at an index replaced. -/
def replace {α : Type} {n : Nat} (xs : Vector α n) (i : Nat) (a : α) :
    Except Breach (Vector α n) :=
  if h : i < n then .ok (xs.set i a) else .error (.index i n)

/-- A sum of two words. -/
def sum (a b : UInt16) : Except Breach UInt16 :=
  if a.toNat + b.toNat < 0x10000 then .ok (a + b)
  else .error (.overflow (a.toNat + b.toNat) 0x10000)

/-- A product of two words. -/
def product (a b : UInt16) : Except Breach UInt16 :=
  if a.toNat * b.toNat < 0x10000 then .ok (a * b)
  else .error (.overflow (a.toNat * b.toNat) 0x10000)

/-- The number after one that is kept in a byte. -/
def successor (n : Nat) : Except Breach Nat :=
  if n + 1 < 0x100 then .ok (n + 1) else .error (.overflow (n + 1) 0x100)

/-! ### Memory -/

/-- The bounds of a block in memory.  An empty block has the bounds of the empty block at zero. -/
def span (a : UInt16) (count : Nat) : Except Fault (Nat × Nat) :=
  if count = 0 then .ok (0, 0)
  else if Memory.size < a.toNat + count then .error (.outOfMemory (max a.toNat Memory.size))
  else .ok (a.toNat, a.toNat + count)

/-- The bytes between two bounds. -/
def slice (m : Memory) (start stop : Nat) : Except Breach (List UInt8) :=
  if start ≤ stop ∧ stop ≤ Memory.size then
    .ok ((m.bytes.toList.drop start).take (stop - start))
  else .error (.range start stop Memory.size)

/-- The memory with the bytes between two bounds copied over. -/
def overwrite (m : Memory) (start stop : Nat) (data : List UInt8) : Except Breach Memory :=
  if start ≤ stop ∧ stop ≤ Memory.size then
    if data.length = stop - start then .ok (m.overlay start data)
    else .error (.length data.length (stop - start))
  else .error (.range start stop Memory.size)

/-- The `count` bytes from an address on. -/
def read (m : Memory) (a : UInt16) (count : Nat) : Except Breach (Except Fault (List UInt8)) :=
  match span a count with
  | .ok (start, stop) => do return .ok (← slice m start stop)
  | .error e => return .error e

/-- The memory with some bytes put from an address on. -/
def write (m : Memory) (a : UInt16) (data : List UInt8) :
    Except Breach (Except Fault Memory) :=
  match span a data.length with
  | .ok (start, stop) => do return .ok (← overwrite m start stop data)
  | .error e => return .error e

/-- The word at an address, from the two bytes that are read there. -/
def readWord (m : Memory) (a : UInt16) : Except Breach (Except Fault Opcode) := do
  match ← read m a 2 with
  | .ok bytes => return .ok (.ofBytes (← item bytes 0) (← item bytes 1))
  | .error e => return .error e

/-! ### Picture -/

/-- Whether the pixel in a row and a column is lit. -/
def lit (f : Frame) (row col : Nat) : Except Breach Bool :=
  match Pixel.locate row col with
  | .ok p => .ok (f.lit p)
  | .error o => .error (.pixel o)

/-- The picture with the pixel in a row and a column lit or not. -/
def light (f : Frame) (row col : Nat) (on : Bool) : Except Breach Frame :=
  match Pixel.locate row col with
  | .ok p => .ok (f.put p on)
  | .error o => .error (.pixel o)

/-- A picture with the pixel of one more bit toggled, and whether a lit pixel was met so far. -/
def drawBit (x row : Nat) (byte : UInt8) (s : Frame × Bool) (bit : Nat) :
    Except Breach (Frame × Bool) :=
  if byte.toNat.testBit (7 - bit) then do
    let col := (x + bit) % Frame.width
    let was ← lit s.1 row col
    let f ← light s.1 row col (!was)
    return (f, s.2 || was)
  else return s

/-- A picture with one more byte of a sprite drawn, bit by bit. -/
def drawByte (x y : UInt8) (s : Frame × Bool) (item : UInt8 × Nat) :
    Except Breach (Frame × Bool) :=
  (List.range 8).foldlM (drawBit x.toNat ((y.toNat + item.2) % Frame.height) item.1) s

/-- The picture with a sprite drawn, byte by byte, and whether it collided. -/
def draw (f : Frame) (x y : UInt8) (sprite : List UInt8) : Except Breach (Frame × Bool) :=
  sprite.zipIdx.foldlM (drawByte x y) (f, false)

/-! ### Registers -/

/-- The byte in a register. -/
def get (m : Machine) (x : Register) : Except Breach UInt8 := entry m.registers.v x.val

/-- The machine with a byte in a register. -/
def put (m : Machine) (x : Register) (b : UInt8) : Except Breach Machine := do
  return { m with registers := { m.registers with v := ← replace m.registers.v x.val b } }

/-- The machine with a result in a register and then its flag in the flag register. -/
def putFlagged (m : Machine) (x : Register) (f : Arithmetic.Flagged) : Except Breach Machine := do
  put (← put m x f.result) Registers.flag f.flag.toUInt8

/-- The bytes in the registers up to `x`. -/
def upTo (m : Machine) (x : Register) : Except Breach (List UInt8) :=
  if x.val + 1 ≤ 16 then .ok (m.registers.v.toList.take (x.val + 1))
  else .error (.range 0 (x.val + 1) 16)

/-- The machine with bytes copied over the registers up to `x`. -/
def putUpTo (m : Machine) (x : Register) (bytes : List UInt8) : Except Breach Machine :=
  if x.val + 1 ≤ 16 then
    if bytes.length = x.val + 1 then .ok { m with registers := m.registers.putFirst bytes }
    else .error (.length bytes.length (x.val + 1))
  else .error (.range 0 (x.val + 1) 16)

/-- The machine past one instruction more, under a condition. -/
def skipIf (m : Machine) (c : Bool) : Except Breach Machine :=
  if c then do return m.goTo (← sum m.registers.pc 2) else return m

/-- The sum of two bytes as a word, cut down to its low byte, and whether anything was cut. -/
def addCarry (a b : UInt8) : Except Breach Arithmetic.Flagged := do
  let s ← sum a.toUInt16 b.toUInt16
  return ⟨s.toUInt8, 0xFF < s⟩

/-! ### Instructions -/

/-- An attempt that succeeds, once its checks have. -/
def done (m : Except Breach Machine) : Except Breach (Outcome Unit) := do return .done (← m)

/-- Takes the latest return address off the stack and goes there. -/
def ret (m : Machine) : Except Breach (Outcome Unit) :=
  if m.registers.sp = 0 then return .failed m (.stackEmpty m.registers.pc)
  else do
    let sp := m.registers.sp - 1
    let a ← entry m.registers.stack sp
    return .done (Machine.goTo { m with registers := { m.registers with sp := sp } } a)

/-- Puts the program counter on the stack, if there is a slot for it, and goes to an address. -/
def call (m : Machine) (a : Address) : Except Breach (Outcome Unit) :=
  if h : m.registers.sp < 16 then do
    let stack := m.registers.stack.set m.registers.sp m.registers.pc h
    let sp ← successor m.registers.sp
    return .done (Machine.goTo { m with registers := { m.registers with stack := stack, sp := sp } }
      (UInt16.ofNat a.val))
  else return .failed m (.stackFull m.registers.pc)

/-- Draws the sprite at the index, and puts into the flag register whether it collided. -/
def drawSprite (m : Machine) (x y : Register) (height : Fin 16) :
    Except Breach (Outcome Unit) := do
  let m ← put m Registers.flag 0
  let col ← get m x
  let row ← get m y
  match ← read m.memory m.registers.index height.val with
  | .ok sprite =>
    let (frame, hit) ← draw m.frame col row sprite
    done (put { m with frame := frame, drawn := true } Registers.flag hit.toUInt8)
  | .error e => return .failed m e

/-- Takes the lowest key that is held, or starts to wait for one. -/
def awaitKey (m : Machine) (x : Register) : Except Breach Machine :=
  match m.keypad.firstPressed with
  | some key => put m x (UInt8.ofNat key.val)
  | none => return { m with parked := some x }

/-- Writes bytes at the index. -/
def writeBlock (m : Machine) (bytes : List UInt8) : Except Breach (Outcome Unit) := do
  match ← write m.memory m.registers.index bytes with
  | .ok memory => return .done { m with memory := memory }
  | .error e => return .failed m e

/-- Reads bytes at the index into the registers up to `x`. -/
def readBlock (m : Machine) (x : Register) : Except Breach (Outcome Unit) := do
  match ← read m.memory m.registers.index (x.val + 1) with
  | .ok bytes => done (putUpTo m x bytes)
  | .error e => return .failed m e

/-- The effect of an instruction. -/
def perform (m : Machine) : Instruction → Except Breach (Outcome Unit)
  | .sys _ => return .done m
  | .cls => return .done { m with frame := .blank, drawn := true }
  | .ret => ret m
  | .jump a => return .done (m.goTo (UInt16.ofNat a.val))
  | .call a => call m a
  | .skipIfByte x b => do done (skipIf m ((← get m x) == b))
  | .skipUnlessByte x b => do done (skipIf m ((← get m x) != b))
  | .skipIfEqual x y => do done (skipIf m ((← get m x) == (← get m y)))
  | .skipUnlessEqual x y => do done (skipIf m ((← get m x) != (← get m y)))
  | .loadByte x b => done (put m x b)
  | .addByte x b => do done (put m x ((← get m x) + b))
  | .copy x y => do done (put m x (← get m y))
  | .or x y => do done (put m x ((← get m x) ||| (← get m y)))
  | .and x y => do done (put m x ((← get m x) &&& (← get m y)))
  | .xor x y => do done (put m x ((← get m x) ^^^ (← get m y)))
  | .add x y => do done (putFlagged m x (← addCarry (← get m x) (← get m y)))
  | .sub x y => do done (putFlagged m x (Arithmetic.subBorrow (← get m x) (← get m y)))
  | .subn x y => do done (putFlagged m x (Arithmetic.subBorrow (← get m y) (← get m x)))
  | .shr x => do done (putFlagged m x (Arithmetic.shiftRight (← get m x)))
  | .shl x => do done (putFlagged m x (Arithmetic.shiftLeft (← get m x)))
  | .loadIndex a => return .done (m.pointTo (UInt16.ofNat a.val))
  | .jumpOffset a => do
    return .done (m.goTo (← sum (← get m 0).toUInt16 (UInt16.ofNat a.val)))
  | .random x mask =>
    let (b, random) := m.random.next
    done (put { m with random := random } x (b &&& mask))
  | .draw x y height => drawSprite m x y height
  | .skipIfKey x => do done (skipIf m (m.keypad.isPressed (← get m x)))
  | .skipUnlessKey x => do done (skipIf m (!m.keypad.isPressed (← get m x)))
  | .readDelay x => done (put m x m.registers.delay)
  | .awaitKey x => done (awaitKey m x)
  | .setDelay x => do
    return .done { m with registers := { m.registers with delay := ← get m x } }
  | .setSound x => do
    return .done { m with registers := { m.registers with sound := ← get m x } }
  | .addIndex x => do return .done (m.pointTo (m.registers.index + (← get m x).toUInt16))
  | .glyph x => do
    let offset ← product (UInt16.ofNat Font.glyphSize) (← get m x).toUInt16
    return .done (m.pointTo (← sum (UInt16.ofNat Font.start) offset))
  | .decimal x => do writeBlock m (Arithmetic.decimalDigits (← get m x))
  | .store x => do writeBlock m (← upTo m x)
  | .load x => readBlock m x

/-! ### Words -/

/-- The effect of a word, selected by its nibbles.  The first row that fits counts. -/
def execute (m : Machine) (op : Opcode) : Except Breach (Outcome Unit) :=
  match op.band, op.x, op.y, op.n with
  | 0x0, 0x0, 0xE, 0x0 => perform m .cls
  | 0x0, 0x0, 0xE, 0xE => perform m .ret
  | 0x0, _, _, _ => perform m (.sys op.addr)
  | 0x1, _, _, _ => perform m (.jump op.addr)
  | 0x2, _, _, _ => perform m (.call op.addr)
  | 0x3, _, _, _ => perform m (.skipIfByte op.x op.kk)
  | 0x4, _, _, _ => perform m (.skipUnlessByte op.x op.kk)
  | 0x5, _, _, _ => perform m (.skipIfEqual op.x op.y)
  | 0x6, _, _, _ => perform m (.loadByte op.x op.kk)
  | 0x7, _, _, _ => perform m (.addByte op.x op.kk)
  | 0x8, _, _, 0x0 => perform m (.copy op.x op.y)
  | 0x8, _, _, 0x1 => perform m (.or op.x op.y)
  | 0x8, _, _, 0x2 => perform m (.and op.x op.y)
  | 0x8, _, _, 0x3 => perform m (.xor op.x op.y)
  | 0x8, _, _, 0x4 => perform m (.add op.x op.y)
  | 0x8, _, _, 0x5 => perform m (.sub op.x op.y)
  | 0x8, _, _, 0x6 => perform m (.shr op.x)
  | 0x8, _, _, 0x7 => perform m (.subn op.x op.y)
  | 0x8, _, _, 0xE => perform m (.shl op.x)
  | 0x9, _, _, _ => perform m (.skipUnlessEqual op.x op.y)
  | 0xA, _, _, _ => perform m (.loadIndex op.addr)
  | 0xB, _, _, _ => perform m (.jumpOffset op.addr)
  | 0xC, _, _, _ => perform m (.random op.x op.kk)
  | 0xD, _, _, _ => perform m (.draw op.x op.y op.n)
  | 0xE, _, 0x9, 0xE => perform m (.skipIfKey op.x)
  | 0xE, _, 0xA, 0x1 => perform m (.skipUnlessKey op.x)
  | 0xF, _, 0x0, 0x7 => perform m (.readDelay op.x)
  | 0xF, _, 0x0, 0xA => perform m (.awaitKey op.x)
  | 0xF, _, 0x1, 0x5 => perform m (.setDelay op.x)
  | 0xF, _, 0x1, 0x8 => perform m (.setSound op.x)
  | 0xF, _, 0x1, 0xE => perform m (.addIndex op.x)
  | 0xF, _, 0x2, 0x9 => perform m (.glyph op.x)
  | 0xF, _, 0x3, 0x3 => perform m (.decimal op.x)
  | 0xF, _, 0x5, 0x5 => perform m (.store op.x)
  | 0xF, _, 0x6, 0x5 => perform m (.load op.x)
  | _, _, _, _ => throw (.unreachable op)

/-! ### Ticks and runs -/

/-- Looks at the keypad for the key that register `x` waits for. -/
def pollKey (m : Machine) (x : Register) : Except Breach (Outcome Step) :=
  match m.keypad.firstPressed with
  | some key => do
    let m ← put m x (UInt8.ofNat key.val)
    return ⟨{ m with parked := none }, .ok (.resumed x key)⟩
  | none => return ⟨m, .ok .awaitingKey⟩

/-- Fetches the word at the program counter, decodes it, goes past it and executes it. -/
def runNext (m : Machine) : Except Breach (Outcome Step) := do
  match ← readWord m.memory m.registers.pc with
  | .error e => return .failed m e
  | .ok op =>
    match Instruction.decode op with
    | none => return .failed m (.unknownOpcode op m.registers.pc)
    | some ins =>
      match ← execute (m.goTo (← sum m.registers.pc 2)) op with
      | ⟨m, .ok ()⟩ => return ⟨m, .ok (.executed ins)⟩
      | ⟨m, .error e⟩ => return .failed m e

/-- One tick. -/
def tick (m : Machine) : Except Breach (Outcome Step) := do
  let m := { m with drawn := false }
  let outcome ← match m.parked with
    | some x => pollKey m x
    | none => runNext m
  match outcome with
  | ⟨m, .ok step⟩ => return ⟨{ m with registers := m.registers.countDown }, .ok step⟩
  | ⟨m, .error e⟩ => return .failed m e

/-- The machine after an action. -/
def act (m : Machine) : Action → Except Breach Machine
  | .tick => do return (← tick m).machine
  | .press key => return m.press key
  | .release key => return m.release key

/-- The machine after some actions, one after the other. -/
def run (m : Machine) : List Action → Except Breach Machine
  | [] => return m
  | a :: as => do run (← act m a) as

/-- The machine with a program in its memory and nothing run yet. -/
def load (program : List UInt8) (random : ByteStream) : Except Breach (Except Fault Machine) :=
  if Memory.programLimit < program.length then
    return .error (.programTooLarge program.length Memory.programLimit)
  else do
    match ← write Memory.initial Memory.programStart program with
    | .error e => return .error e
    | .ok memory =>
      return .ok
        { registers := .startingAt Memory.programStart
          memory := memory
          frame := .blank
          keypad := .released
          random := random
          parked := none
          drawn := false }

end Guarded

end ChipEight
