import ChipEight.Proofs.Footprint

/-!
# Proofs — Keys — Pressed

The keypad is the set of the keys that are held.  Of all actions on a key the last one counts; the
actions on the other keys, in between or not, make no difference, and those on bytes that name no
key make none at all.  A machine hands its keypad on from tick to tick as it is, so what it reads
there is what has been done to the keys.

* `Action.key?`, `onKey`: the key that an action names, and the actions that name a key.
* `lastSetting_eq_some_true_iff`: a key is left down if the last action that names it is a press.
* `Machine.keypad_after`: the keypad of a machine is what its actions make of it.
* `Keypad.pressed_after_released`: a keypad after any actions, read in every way.
-/

namespace ChipEight

/-! ### The actions on one key -/

/-- The key that an action names, if it names one. -/
def Action.key? : Action → Option UInt8
  | .tick => none
  | .press key | .release key => some key

/-- The actions among some that name a key, in their order. -/
def onKey (as : List Action) (key : UInt8) : List Action := as.filter fun a => a.key? = some key

/-- The actions among some that do not name a byte above fifteen. -/
def onKeypad (as : List Action) : List Action := as.filter fun a => a.key?.all (·.toNat ≤ 15)

variable {as bs : List Action} {key : UInt8}

theorem Action.setting?_eq_none_iff {a : Action} : a.setting? key = none ↔ a.key? ≠ some key := by
  cases a <;> simp [setting?, key?]

/-- The actions that do not name a key have no part in how it is left. -/
theorem lastSetting_onKey (as : List Action) (key : UInt8) :
    lastSetting (onKey as key) key = lastSetting as key := by
  have hothers : (fun a : Action => if decide (a.key? = some key) then a.setting? key else none) =
      Action.setting? key := by
    funext a
    by_cases ha : a.key? = some key
    · rw [if_pos (decide_eq_true ha)]
    · rw [if_neg (by simpa using ha), Action.setting?_eq_none_iff.mpr ha]
  rw [lastSetting, lastSetting, onKey, List.filterMap_filter, hothers]

theorem lastSetting_eq_some_true_iff :
    lastSetting as key = some true ↔ (onKey as key).getLast? = some (.press key) := by
  rw [← lastSetting_onKey, lastSetting]
  rcases List.eq_nil_or_concat (onKey as key) with h | ⟨bs, a, h⟩
  · simp [h]
  · rw [List.concat_eq_append] at h
    have ha : a ∈ onKey as key := h ▸ List.mem_append_right bs List.mem_cons_self
    have hkey : a.key? = some key := by simpa using (List.mem_filter.mp ha).2
    rw [h, List.getLast?_concat, List.filterMap_append]
    cases a with
    | tick => cases hkey
    | press k | release k =>
        obtain rfl : k = key := Option.some.inj hkey
        simp [Action.setting?]

/-- What is done to a byte above fifteen is not done to any key. -/
theorem onKey_onKeypad (as : List Action) (k : Key) :
    onKey (onKeypad as) (UInt8.ofNat k.val) = onKey as (UInt8.ofNat k.val) := by
  rw [onKey, onKey, onKeypad, List.filter_filter]
  refine List.filter_congr fun a _ => ?_
  by_cases ha : a.key? = some (UInt8.ofNat k.val)
  · have hk : (UInt8.ofNat k.val).toNat ≤ 15 :=
      (Keypad.toNat_ofNat_key k).symm ▸ Nat.le_of_lt_succ k.isLt
    rw [ha, Option.all_some, decide_eq_true hk, Bool.and_true]
  · rw [decide_eq_false ha, Bool.false_and]

/-! ### The keypad of a machine -/

theorem Machine.keypad_of_load {program : List UInt8} {random : ByteStream} {m : Machine}
    (h : load program random = .ok m) : m.keypad = .released := by
  obtain rfl := Except.ok.inj (h.symm.trans (load_of_fits (length_le_of_load h) _))
  rfl

/-- No tick touches the keypad. -/
theorem Machine.keypad_tick (m : Machine) : m.tick.machine.keypad = m.keypad := by
  generalize ho : m.tick = o
  cases tick_eq_iff.mp ho with
  | waited | resumed | stuck => rfl
  | failed _ _ he => cases execute_eq_failed_iff.mp he <;> rfl
  | executed _ _ he => exact (untouched_execute he).keypad

/-- **The keypad of a machine is what its actions make of it**, whatever else they make the machine
do. -/
theorem Machine.keypad_after (m : Machine) (as : List Action) :
    (m.after as).keypad = m.keypad.after as := by
  induction as generalizing m with
  | nil => rfl
  | cons a as ih =>
      have hact : (m.act a).keypad = m.keypad.act a := by
        cases a with
        | tick => exact m.keypad_tick
        | press key | release key => rfl
      have hafter : m.keypad.after (a :: as) = (m.keypad.act a).after as := rfl
      rw [after_cons, ih, hact, hafter]

namespace Keypad

/-! ### Reading a keypad -/

/-- A byte reads as pressed if it names a key and was pressed last. -/
theorem isPressed_after_released_iff :
    (released.after as).isPressed key = true ↔
      key.toNat ≤ 15 ∧ (onKey as key).getLast? = some (.press key) := by
  by_cases hk : key.toNat < keyCount
  · have hle : key.toNat ≤ 15 := Nat.le_of_lt_succ hk
    rw [isPressed_after _ _ hk, isPressed_released, ← lastSetting_eq_some_true_iff]
    cases lastSetting as key <;> simp [hle]
  · have hnot : ¬ key.toNat ≤ 15 := fun hle => hk (Nat.lt_succ_of_le hle)
    refine iff_of_false (fun h => hk ?_) (fun h => hnot h.1)
    obtain ⟨hlt, -⟩ := exists_key_of_isPressed h
    exact hlt

/-- Actions that are the same on each key leave the same keypad. -/
theorem after_eq_of_onKey (p : Keypad)
    (h : ∀ k : Key, onKey as (UInt8.ofNat k.val) = onKey bs (UInt8.ofNat k.val)) :
    p.after as = p.after bs :=
  after_eq_of_lastSetting p fun k => by rw [← lastSetting_onKey, h, lastSetting_onKey]

/-- **The keypad is the set of the keys that are held.**  Take a keypad with no key held, and do
anything to its keys.  A byte reads as pressed exactly if it is at most fifteen and the last action
that names it is a press; the lowest key is the least that reads as pressed, and there is none
exactly if no byte does.  Other actions that are the same on each of the sixteen keys leave the same
keypad, and so do the same actions without those that name a byte above fifteen.  The keypad of a
machine that was loaded is this keypad, whatever ticks come in between. -/
theorem pressed_after_released (as : List Action) :
    (∀ key, (released.after as).isPressed key = true ↔
      key.toNat ≤ 15 ∧ (onKey as key).getLast? = some (.press key)) ∧
    (∀ k : Key, (released.after as).firstPressed = some k ↔
      (released.after as).isPressed (UInt8.ofNat k.val) = true ∧
        ∀ key, (released.after as).isPressed key = true → k.val ≤ key.toNat) ∧
    ((released.after as).firstPressed = none ↔
      ∀ key, (released.after as).isPressed key = false) ∧
    (∀ bs, (∀ k : Key, onKey as (UInt8.ofNat k.val) = onKey bs (UInt8.ofNat k.val)) →
      released.after as = released.after bs) ∧
    released.after (onKeypad as) = released.after as ∧
    ∀ program random m, Machine.load program random = .ok m →
      (m.after as).keypad = released.after as := by
  refine ⟨fun key => isPressed_after_released_iff, fun k => ?_, firstPressed_eq_none_iff,
    fun bs => after_eq_of_onKey released, after_eq_of_onKey released (onKey_onKeypad as), ?_⟩
  · rw [firstPressed_eq_some_iff]
    exact ⟨fun h => ⟨h.held, h.le⟩, fun ⟨hheld, hle⟩ => ⟨hheld, hle⟩⟩
  · intro program random m hl
    rw [Machine.keypad_after, Machine.keypad_of_load hl]

/-- The theorem at two rows of actions on the keys three and five.  In the first the keys take
turns, and there are a tick and two bytes that only end in a digit of theirs. -/
theorem pressed_after_released_turns :
    ∃ m, Machine.load [0x12, 0x00] (.cycle #[]) = .ok m ∧
      (m.after [.press 5, .press 3, .press 0x15, .tick, .release 5, .release 0x13]).keypad =
        released.after [.press 3, .press 5, .release 5] ∧
      (released.after [.press 3, .press 5, .release 5]).isPressed 3 = true ∧
      (released.after [.press 3, .press 5, .release 5]).isPressed 5 = false ∧
      (released.after [.press 3, .press 5, .release 5]).firstPressed = some 3 := by
  have hfit : ([0x12, 0x00] : List UInt8).length ≤ 3584 := by decide
  have hl := Machine.load_of_fits hfit (.cycle #[])
  obtain ⟨-, -, -, hsame, -, hmachine⟩ := pressed_after_released
    [.press 5, .press 3, .press 0x15, .tick, .release 5, .release 0x13]
  obtain ⟨hpressed, -⟩ := pressed_after_released [.press 3, .press 5, .release 5]
  refine ⟨_, hl, (hmachine _ _ _ hl).trans (hsame _ (by decide)), (hpressed 3).mpr (by decide),
    Bool.eq_false_iff.mpr fun h => ?_, by decide⟩
  exact absurd ((hpressed 5).mp h) (by decide)

end Keypad

end ChipEight
