import ChipEight.Keys.Layout
import ChipEight.Text.Blank
import ChipEight.Text.Numeral
import ChipEight.Text.Quoted

/-!
# Keys — Script

Key events planned ahead.  A script is written as events with commas between them; an event is
`tick:key` for a key that goes down and `tick:-key` for one that goes up.  A key is a character of
the keyboard, or its number in base sixteen after `0x`.  White space around an event, around a tick
and around a key with its sign does not count, nor does an event of white space alone.

* `KeyEvent.parse?`: one event.
* `KeyScript.parse`: a script, its events in the order of their ticks.  Events of one tick keep the
  order in which they are written.
-/

namespace ChipEight

/-- A key that goes down or up right before a tick. -/
structure KeyEvent where
  tick : Nat
  key : Key
  pressed : Bool
  deriving DecidableEq, Repr

/-- The key with a name: a character of the keyboard, or `0x` and a number in base sixteen. -/
def Key.named? : List Char → Option Key
  | '0' :: 'x' :: digits | '0' :: 'X' :: digits =>
    match Numeral.byte.read digits with
    | .ok k => if h : k < 16 then some ⟨k, h⟩ else none
    | .error _ => none
  | [c] => Key.ofChar? c
  | [] | _ :: _ :: _ => none

namespace KeyEvent

/-- Whether a key is written as going down, and its name. -/
def direction : List Char → Bool × List Char
  | '-' :: name => (false, name)
  | name => (true, name)

/-- The event that is written in a text. -/
def parse? (cs : List Char) : Option KeyEvent :=
  match cs.dropWhile (· ≠ ':') with
  | [] => none
  | _ :: right =>
    match Numeral.count.read (Text.trim (cs.takeWhile (· ≠ ':'))) with
    | .error _ => none
    | .ok tick =>
      let (pressed, name) := direction (Text.trim right)
      (Key.named? name).map fun key => ⟨tick, key, pressed⟩

example : parse? ['4', '0', ':', '-', 'w'] = some ⟨40, 5, false⟩ := by decide

end KeyEvent

/-- Key events in the order of their ticks. -/
structure KeyScript where
  events : List KeyEvent
  ordered : events.Pairwise fun a b => a.tick ≤ b.tick

namespace KeyScript

/-- The text of an event that cannot be read. -/
structure Defect where
  event : List Char
  deriving DecidableEq, Repr

/-- The defect in words. -/
def Defect.message (d : Defect) : String :=
  "invalid key event " ++ Text.quoted d.event ++ ", expected tick:key or tick:-key"

/-- The script without events. -/
def empty : KeyScript := ⟨[], .nil⟩

/-- The script of some events, those of one tick in their given order. -/
def ofEvents (events : List KeyEvent) : KeyScript where
  events := events.mergeSort fun a b => decide (a.tick ≤ b.tick)
  ordered := by
    have h := @List.pairwise_mergeSort _ (fun a b : KeyEvent => decide (a.tick ≤ b.tick))
      (fun a b c hab hbc => by simp only [decide_eq_true_eq] at *; omega)
      (fun a b => by simp only [Bool.or_eq_true, decide_eq_true_eq]; omega) events
    exact h.imp fun hab => by simpa using hab

/-- The events of a text as they are written, without the white space around them. -/
def pieces (text : String) : List (List Char) :=
  ((text.toList.splitOn ',').map Text.trim).filter (· ≠ [])

/-- The event that is written in a text, or the defect of that text. -/
def readEvent (cs : List Char) : Except Defect KeyEvent :=
  match KeyEvent.parse? cs with
  | some e => .ok e
  | none => .error ⟨cs⟩

/-- The script that is written in a text, or the first event that cannot be read. -/
def parse (text : String) : Except Defect KeyScript :=
  ((pieces text).mapM readEvent).map ofEvents

end KeyScript

end ChipEight
