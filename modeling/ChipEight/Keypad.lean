import ChipEight.Nibble

/-!
# Keypad

Sixteen keys, each held down or not.  A byte above fifteen names no key: pressing or releasing it
does nothing, and it never reads as pressed.

* `isPressed_set`: what reads as pressed once a key went down or up.
-/

namespace ChipEight

/-- The number of a key. -/
abbrev Key := Fin 16

/-- Which keys are held down. -/
structure Keypad where
  held : Vector Bool 16
  deriving DecidableEq

namespace Keypad

/-- How many keys there are. -/
def keyCount : Nat := 16

/-- No key is held. -/
def released : Keypad := ⟨.replicate 16 false⟩

/-- The keypad after a key went down or up. -/
def set (p : Keypad) (key : UInt8) (down : Bool) : Keypad :=
  ⟨p.held.setIfInBounds key.toNat down⟩

/-- The keypad after a key went down. -/
def press (p : Keypad) (key : UInt8) : Keypad := p.set key true

/-- The keypad after a key went up. -/
def release (p : Keypad) (key : UInt8) : Keypad := p.set key false

/-- Whether a byte names a key that is held. -/
def isPressed (p : Keypad) (key : UInt8) : Bool := p.held[key.toNat]?.getD false

/-- The lowest key that is held. -/
def firstPressed (p : Keypad) : Option Key := (List.finRange 16).find? fun key => p.held[key.val]

theorem isPressed_set (p : Keypad) (k key : UInt8) (down : Bool) :
    (p.set k down).isPressed key =
      if k = key ∧ key.toNat < keyCount then down else p.isPressed key := by
  simp only [isPressed, set, keyCount, Vector.getElem?_setIfInBounds, ← UInt8.toNat_inj]
  by_cases h : k.toNat = key.toNat
  · by_cases hk : key.toNat < 16 <;> simp [h, hk]
  · simp [h]

theorem isPressed_released (key : UInt8) : released.isPressed key = false := by
  simp only [isPressed, released, Vector.getElem?_replicate]
  split <;> rfl

end Keypad

end ChipEight
