import ChipEight.Log

/-!
# Session

A program run for a number of ticks under a key script.  Right before each tick the events that are
due take place.  A session ends with a picture of the last frame, unless a tick fails: then it
halts there, and writes nothing more.

* `Session.tick`: one tick with the events before it and the output after it.
* `Session.run`: a whole session.
-/

namespace ChipEight

/-- The machine after an event of a script. -/
def KeyEvent.apply (m : Machine) (e : KeyEvent) : Machine :=
  { m with keypad := m.keypad.set (UInt8.ofNat e.key.val) e.pressed }

/-- How far a session has come. -/
structure Session where
  machine : Machine
  /-- The events that have not taken place yet. -/
  pending : List KeyEvent
  /-- The lines written so far. -/
  output : Array String
  log : Log

/-- A tick that failed, and the program counter that it left. -/
structure Halt where
  tick : Nat
  pc : UInt16
  fault : Fault
  deriving DecidableEq, Repr

/-- Where the session halted, in words. -/
def Halt.context (h : Halt) : String :=
  "CPU halted on tick " ++ h.tick.repr ++ " (pc " ++ Hex.literal 4 h.pc.toNat ++ ")"

namespace Session

/-- The number of ticks of a session that asks for no other. -/
def defaultTicks : Nat := 1000

/-- The ticks per second of a machine that is shown in real time. -/
def clockRate : Nat := 500

/-- The session with a machine and a script before the first tick. -/
def start (m : Machine) (script : KeyScript) (log : Log) : Session :=
  ⟨m, script.events, #[], log⟩

/-- The session with the events of ticks up to `t` applied. -/
def applyDue (s : Session) (t : Nat) : Session :=
  let due := s.pending.takeWhile (·.tick ≤ t)
  { s with
    machine := due.foldl KeyEvent.apply s.machine
    pending := s.pending.dropWhile (·.tick ≤ t)
    log := s.log.record (due.map (.event t ·)) }

/-- The session with a title and a frame written out. -/
def write (s : Session) (title : String) (f : Frame) : Session :=
  { s with output := (s.output.push title) ++ f.lines }

/-- What a step of a tick tells in a scripted run. -/
def taken (t : Nat) : Step → List Log.Entry
  | .resumed x key => [.taken t x key]
  | _ => []

/-- Tick `t` of a session.  With `frames`, a tick that changed the frame writes it out. -/
def tick (frames : Bool) (t : Nat) (s : Session) : Session × Option Halt :=
  let s := s.applyDue t
  let s := { s with log := s.log.record s.machine.narrate }
  match s.machine.tick with
  | ⟨m, .error e⟩ => ({ s with machine := m }, some ⟨t, m.registers.pc, e⟩)
  | ⟨m, .ok step⟩ =>
    let s := { s with machine := m, log := s.log.record (taken t step) }
    match frames, m.freshFrame with
    | true, some f => (s.write ("tick " ++ t.repr) f, none)
    | _, _ => (s, none)

/-- The `n` ticks from tick `t` on, and the last frame after them. -/
def runFrom (frames : Bool) : Nat → Nat → Session → Session × Option Halt
  | _, 0, s => (s.write "final frame" s.machine.frame, none)
  | t, n + 1, s =>
    match s.tick frames t with
    | (s, none) => runFrom frames (t + 1) n s
    | (s, some h) => (s, some h)

/-- A session of some ticks. -/
def run (m : Machine) (script : KeyScript) (ticks : Nat) (frames : Bool) (log : Log) :
    Session × Option Halt :=
  runFrom frames 0 ticks (start m script log)

end Session

end ChipEight
