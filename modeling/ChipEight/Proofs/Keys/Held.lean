import ChipEight.Proofs.KeyWait
import ChipEight.Proofs.Session

/-!
# Proofs — Keys — Held

Which keys are held after some actions.  For each key the last action that names it counts, and the
order among actions on different keys does not.

* `Action.setting?`, `lastSetting`: what an action makes of a key, and what the last of some actions
  does that names it.
* `Keypad.isPressed_after`: that is what the key reads as afterwards.
* `Machine.after_of_keysOnly`: without ticks, only the keypad of a machine changes.
* `Session.finds_eq`: so it is with the events of a script before a tick.
-/

namespace ChipEight

/-- Whether an action makes a key go down or up, if it names that key. -/
def Action.setting? (key : UInt8) : Action → Option Bool
  | .tick => none
  | .press k => if k = key then some true else none
  | .release k => if k = key then some false else none

/-- Whether the last of some actions that name a key makes it go down or up, if there is one. -/
def lastSetting (as : List Action) (key : UInt8) : Option Bool :=
  (as.filterMap (Action.setting? key)).getLast?

example : lastSetting [.press 5, .release 5, .tick, .press 6] 5 = some false := by decide

namespace Keypad

variable {p q : Keypad} {as bs : List Action}

theorem isPressed_act (p : Keypad) (a : Action) {key : UInt8} (hk : key.toNat < keyCount) :
    (p.act a).isPressed key = (a.setting? key).getD (p.isPressed key) := by
  cases a with
  | tick => rfl
  | press k | release k =>
    simp only [act, press, release, isPressed_set, hk, and_true, Action.setting?]
    split <;> rfl

/-- **A key reads as the last action that names it has left it**, or as it did before if none
does. -/
theorem isPressed_after (p : Keypad) (as : List Action) {key : UInt8} (hk : key.toNat < keyCount) :
    (p.after as).isPressed key = (lastSetting as key).getD (p.isPressed key) := by
  induction as generalizing p with
  | nil => rfl
  | cons a as ih =>
      have hact := p.isPressed_act a hk
      have hafter : (p.after (a :: as)).isPressed key = _ := ih (p.act a)
      rw [hafter, hact, lastSetting, lastSetting, List.filterMap_cons]
      cases a.setting? key with
      | none => rfl
      | some down => rw [List.getLast?_cons, Option.getD_some, Option.getD_some]

/-- Keypads on which all keys read the same are equal. -/
theorem eq_of_isPressed
    (h : ∀ k : Key, p.isPressed (UInt8.ofNat k.val) = q.isPressed (UInt8.ofNat k.val)) :
    p = q := by
  obtain ⟨held⟩ := p
  obtain ⟨held'⟩ := q
  rw [mk.injEq]
  ext i hi
  have hi' := h ⟨i, hi⟩
  rwa [isPressed_ofNat _ hi, isPressed_ofNat _ hi] at hi'

/-- Actions that leave each key the same leave the same keypad. -/
theorem after_eq_of_lastSetting (p : Keypad)
    (h : ∀ k : Key, lastSetting as (UInt8.ofNat k.val) = lastSetting bs (UInt8.ofNat k.val)) :
    p.after as = p.after bs :=
  eq_of_isPressed fun k => by
    have hk : (UInt8.ofNat k.val).toNat < keyCount := (toNat_ofNat_key k).symm ▸ k.isLt
    rw [isPressed_after p as hk, isPressed_after p bs hk, h]

end Keypad

/-- Actions on keys change the keypad of a machine and nothing else. -/
theorem Machine.after_of_keysOnly {as : List Action} (m : Machine) (h : .tick ∉ as) :
    m.after as = { m with keypad := m.keypad.after as } := by
  induction as generalizing m with
  | nil => rfl
  | cons a as ih =>
      have ha : a ≠ .tick := fun he => h (he ▸ List.mem_cons_self)
      rw [after_cons, ih _ fun hm => h (List.mem_cons_of_mem a hm)]
      cases a with
      | tick => exact absurd rfl ha
      | press key | release key => rfl

/-- The events that are due before a tick change the keypad and nothing else. -/
theorem Session.finds_eq (m : Machine) (script : KeyScript) (t : Nat) :
    finds m script t =
      { m.after (script.actions t) with
        keypad := (m.after (script.actions t)).keypad.after
          ((script.due t).map KeyEvent.action) } := by
  rw [finds, Machine.after_append,
    Machine.after_of_keysOnly _ (KeyEvent.tick_not_mem_map_action _)]

end ChipEight
