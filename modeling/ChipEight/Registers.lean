import ChipEight.Fault

/-!
# Registers

The sixteen byte registers, the index, the program counter, the call stack and the two timers.

* `push`, `pop`: the call stack holds sixteen return addresses.  A popped slot keeps its address,
  which is stale from then on.
* `countDown`: both timers go down by one and stop at zero.
-/

namespace ChipEight

/-- The register file. -/
structure Registers where
  /-- The byte registers `V0` to `VF`. -/
  v : Vector UInt8 16
  /-- The index `I`. -/
  index : UInt16
  /-- The program counter. -/
  pc : UInt16
  /-- How many return addresses are on the stack. -/
  sp : Nat
  /-- The slots of the stack, stale ones included. -/
  stack : Vector UInt16 16
  /-- The delay timer. -/
  delay : UInt8
  /-- The sound timer. -/
  sound : UInt8
  deriving DecidableEq

namespace Registers

/-- How many return addresses the stack has room for. -/
def stackSize : Nat := 16

/-- The register that takes the flags. -/
def flag : Register := 0xF

/-- All zero, with the program counter at an address. -/
def startingAt (pc : UInt16) : Registers where
  v := .replicate 16 0
  index := 0
  pc := pc
  sp := 0
  stack := .replicate 16 0
  delay := 0
  sound := 0

/-- The byte in a register. -/
def get (r : Registers) (x : Register) : UInt8 := r.v[x.val]

/-- A byte put into a register. -/
def put (r : Registers) (x : Register) (b : UInt8) : Registers := { r with v := r.v.set x b }

/-- The bytes in the registers up to `x`, that one included. -/
def upTo (r : Registers) (x : Register) : List UInt8 := r.v.toList.take (x.val + 1)

/-- Bytes put into the first registers, in order. -/
def putFirst (r : Registers) (bytes : List UInt8) : Registers :=
  { r with v := .ofFn fun x => bytes[x.val]?.getD (r.get x) }

/-- Goes two bytes on. -/
def advance (r : Registers) : Registers := { r with pc := r.pc + 2 }

/-- Goes on past one instruction more, under a condition. -/
def skipIf (r : Registers) (c : Bool) : Registers := if c then r.advance else r

/-- A return address put on the stack. -/
def push (r : Registers) (a : UInt16) : Except Fault Registers :=
  if h : r.sp < stackSize then .ok { r with stack := r.stack.set r.sp a h, sp := r.sp + 1 }
  else .error (.stackFull a)

/-- The latest return address, and the registers without it. -/
def pop (r : Registers) : Except Fault (UInt16 × Registers) :=
  if r.sp = 0 then .error (.stackEmpty r.pc)
  else .ok (r.stack[r.sp - 1]?.getD 0, { r with sp := r.sp - 1 })

/-- Both timers one step lower. -/
def countDown (r : Registers) : Registers :=
  { r with
    delay := if r.delay = 0 then 0 else r.delay - 1
    sound := if r.sound = 0 then 0 else r.sound - 1 }

@[simp] theorem get_put (r : Registers) (x y : Register) (b : UInt8) :
    (r.put x b).get y = if x = y then b else r.get y := by
  simp only [get, put, Vector.getElem_set, Fin.ext_iff]

@[simp] theorem length_upTo (r : Registers) (x : Register) : (r.upTo x).length = x.val + 1 := by
  simp only [upTo, List.length_take, Vector.length_toList]
  omega

end Registers

end ChipEight
