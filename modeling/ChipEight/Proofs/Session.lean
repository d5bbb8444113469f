import ChipEight.Machine.History
import ChipEight.Session

/-!
# Proofs — Session

What a session comes to.  A session takes its events off the front of its script as the ticks go
by.  Here the script is read as a whole instead: which events are due at a tick, which machine the
tick finds after them, what it writes and tells, and which tick is the last.

* `KeyScript.due`, `KeyScript.left`: the events of a tick, and those that have not come up before
  it.
* `KeyScript.actions`: what a machine undergoes in the first ticks.
* `Session.reached`: a session after some ticks, in terms of the script and the machine it began
  with.
* `Session.Goes`: the ways for a session to end, with what it leaves.
* `Session.run_eq_iff`: a session ends in the way that `Goes` says, and in no other.
-/

namespace ChipEight

/-! ### The events of a tick -/

/-- What an event does to a machine. -/
def KeyEvent.action (e : KeyEvent) : Action :=
  if e.pressed then .press (UInt8.ofNat e.key.val) else .release (UInt8.ofNat e.key.val)

theorem Machine.act_action (m : Machine) (e : KeyEvent) : m.act e.action = e.apply m := by
  obtain ⟨t, key, _ | _⟩ := e <;> rfl

theorem Machine.after_map_action (m : Machine) (es : List KeyEvent) :
    m.after (es.map KeyEvent.action) = es.foldl KeyEvent.apply m := by
  rw [after, List.foldl_map]
  simp only [act_action]

theorem KeyEvent.tick_not_mem_map_action (es : List KeyEvent) :
    .tick ∉ es.map KeyEvent.action := by
  intro h
  obtain ⟨⟨_, _, _ | _⟩, _, he⟩ := List.mem_map.mp h <;> cases he

namespace KeyScript

/-- The events that are due at a tick, in the order of the script. -/
def due (script : KeyScript) (t : Nat) : List KeyEvent := script.events.filter (·.tick = t)

/-- What a machine undergoes in the first `t` ticks under a script. -/
def actions (script : KeyScript) : Nat → List Action
  | 0 => []
  | t + 1 => script.actions t ++ (script.due t).map KeyEvent.action ++ [.tick]

example : (⟨[⟨0, 5, true⟩, ⟨2, 5, false⟩], by decide⟩ : KeyScript).actions 3 =
    [.press 5, .tick, .tick, .release 5, .tick] := by decide

section Prefix

variable {es : List KeyEvent} {p : KeyEvent → Bool}

/-- If no event has the property unless all events before it do, those that have it are in front. -/
theorem takeWhile_eq_filter (hes : es.Pairwise fun a b => p b = true → p a = true) :
    es.takeWhile p = es.filter p := by
  induction es with
  | nil => rfl
  | cons e es ih =>
      obtain ⟨he, hes⟩ := List.pairwise_cons.mp hes
      by_cases hp : p e = true
      · rw [List.takeWhile_cons_of_pos hp, List.filter_cons_of_pos hp, ih hes]
      · rw [List.takeWhile_cons_of_neg hp, List.filter_cons_of_neg hp,
          List.filter_eq_nil_iff.mpr fun b hb hpb => hp (he b hb hpb)]

theorem dropWhile_eq_filter (hes : es.Pairwise fun a b => p b = true → p a = true) :
    es.dropWhile p = es.filter (! p ·) := by
  induction es with
  | nil => rfl
  | cons e es ih =>
      obtain ⟨he, hes⟩ := List.pairwise_cons.mp hes
      by_cases hp : p e = true
      · rw [List.dropWhile_cons_of_pos hp, List.filter_cons_of_neg (by simp [hp]), ih hes]
      · rw [List.dropWhile_cons_of_neg hp, List.filter_cons_of_pos (by simp [hp]),
          List.filter_eq_self.mpr fun b hb => by
            simpa using fun hpb => hp (he b hb hpb)]

end Prefix

variable (script : KeyScript) (t : Nat)

/-- The events that are left before tick `t`. -/
def left (script : KeyScript) (t : Nat) : List KeyEvent := script.events.filter (t ≤ ·.tick)

@[simp] theorem left_zero : script.left 0 = script.events := by simp [left]

theorem left_prefix : (script.left t).Pairwise fun a b =>
    decide (b.tick ≤ t) = true → decide (a.tick ≤ t) = true :=
  (script.ordered.filter _).imp fun {a b} hab hb => by
    rw [decide_eq_true_eq] at hb ⊢
    exact Nat.le_trans hab hb

/-- The events that are due come first among those that are left. -/
theorem takeWhile_left : (script.left t).takeWhile (·.tick ≤ t) = script.due t := by
  rw [takeWhile_eq_filter (script.left_prefix t), left, List.filter_filter, due]
  refine List.filter_congr fun e _ => ?_
  rw [← Bool.decide_and, decide_eq_decide]
  omega

theorem dropWhile_left : (script.left t).dropWhile (·.tick ≤ t) = script.left (t + 1) := by
  rw [dropWhile_eq_filter (script.left_prefix t), left, List.filter_filter, left]
  refine List.filter_congr fun e _ => ?_
  rw [← decide_not, ← Bool.decide_and, decide_eq_decide]
  omega

/-- Every event of a script is due at one of the first ticks, in order and once, or left. -/
theorem flatMap_due_append_left :
    (List.range t).flatMap script.due ++ script.left t = script.events := by
  induction t with
  | zero => simp
  | succ t ih =>
      rw [List.range_succ, List.flatMap_append, List.append_assoc, List.flatMap_singleton,
        ← takeWhile_left, ← dropWhile_left, List.takeWhile_append_dropWhile, ih]

end KeyScript

/-! ### What is written and told -/

theorem Log.record_nil (log : Log) : log.record [] = log := by
  simp [record]

theorem Log.record_append (log : Log) (es es' : List Log.Entry) :
    (log.record es).record es' = log.record (es ++ es') := by
  simp only [record, keeps, List.filter_append, mk.injEq, true_and]
  exact Array.ext' (by simp)

namespace Session

/-- The lines that a tick writes when it has left a machine, if frames are asked for. -/
def picture (frames : Bool) (t : Nat) (m : Machine) : List String :=
  match m.freshFrame with
  | some f => if frames then ("tick " ++ t.repr) :: f.lines else []
  | none => []

section

variable (m : Machine) (script : KeyScript)

/-- The machine that tick `t` finds, after the events that are due. -/
def finds (t : Nat) : Machine :=
  m.after (script.actions t ++ (script.due t).map KeyEvent.action)

/-- The lines that the first `t` ticks write. -/
def pictures (frames : Bool) (t : Nat) : List String :=
  (List.range t).flatMap fun u => picture frames u (m.after (script.actions (u + 1)))

/-- What a tick tells: the events before it, what its machine tells, and a key that it took. -/
def told (t : Nat) : List Log.Entry :=
  (script.due t).map (.event t) ++ (finds m script t).narrate ++
    match (finds m script t).tick.result with
    | .ok step => taken t step
    | .error _ => []

/-- A session after `t` ticks. -/
def reached (frames : Bool) (log : Log) (t : Nat) : Session where
  machine := m.after (script.actions t)
  pending := script.left t
  output := (pictures m script frames t).toArray
  log := log.record ((List.range t).flatMap (told m script))

/-- The ways for a session of some ticks to end, and what it leaves. -/
inductive Goes (ticks : Nat) (frames : Bool) (log : Log) : Session × Option Halt → Prop
  /-- No tick fails, and the last frame is written. -/
  | completed (hok : ∀ t < ticks, ∃ step, (finds m script t).tick.result = .ok step) :
      Goes ticks frames log
        ({ reached m script frames log ticks with
            output := (pictures m script frames ticks ++
              "final frame" :: (m.after (script.actions ticks)).frame.lines).toArray }, none)
  /-- Tick `t` is the first that fails, and nothing is done or written after it. -/
  | halted {t : Nat} {e : Fault} (ht : t < ticks)
      (hok : ∀ u < t, ∃ step, (finds m script u).tick.result = .ok step)
      (he : (finds m script t).tick.result = .error e) :
      Goes ticks frames log
        ({ reached m script frames log (t + 1) with
            output := (pictures m script frames t).toArray },
          some ⟨t, (m.after (script.actions (t + 1))).registers.pc, e⟩)

end

/-! ### Tick by tick -/

variable {m : Machine} {script : KeyScript} {frames : Bool} {log : Log} {t : Nat}

theorem after_actions_succ :
    m.after (script.actions (t + 1)) = (finds m script t).tick.machine :=
  Machine.after_append ..

theorem start_eq : start m script log = reached m script frames log 0 := by
  simp [start, reached, pictures, Log.record_nil, KeyScript.actions]

theorem applyDue_reached :
    (reached m script frames log t).applyDue t =
      { machine := finds m script t
        pending := script.left (t + 1)
        output := (pictures m script frames t).toArray
        log := log.record ((List.range t).flatMap (told m script) ++
          (script.due t).map (.event t)) } := by
  simp only [applyDue, reached, KeyScript.takeWhile_left, KeyScript.dropWhile_left,
    Log.record_append, finds, Machine.after_append, Machine.after_map_action]

theorem pictures_succ :
    pictures m script frames (t + 1) =
      pictures m script frames t ++ picture frames t (finds m script t).tick.machine := by
  rw [pictures, List.range_succ, List.flatMap_append, List.flatMap_singleton, ← pictures,
    after_actions_succ]

theorem write_eq (s : Session) (title : String) (f : Frame) :
    s.write title f = { s with output := (s.output.toList ++ title :: f.lines).toArray } := by
  rw [write, mk.injEq]
  exact ⟨rfl, rfl, Array.ext' (by simp), rfl⟩

/-- A tick that succeeds takes a session on. -/
theorem tick_reached {step : Step} (h : (finds m script t).tick.result = .ok step) :
    (reached m script frames log t).tick frames t =
      (reached m script frames log (t + 1), none) := by
  have htold : told m script t =
      (script.due t).map (.event t) ++ (finds m script t).narrate ++ taken t step := by
    rw [told, h]
  rw [tick, applyDue_reached, reached, after_actions_succ, pictures_succ, List.range_succ,
    List.flatMap_append, List.flatMap_singleton, htold]
  generalize (finds m script t).tick = o at h ⊢
  obtain ⟨n, r⟩ := o
  obtain rfl : r = .ok step := h
  -- a picture is written only if there is a fresh frame and frames are asked for
  cases hf : n.freshFrame with
  | none => simp [Log.record_append, picture, hf]
  | some f => cases frames <;> simp [Log.record_append, picture, hf, write_eq]

/-- A tick that fails halts a session. -/
theorem tick_reached_of_error {e : Fault} (h : (finds m script t).tick.result = .error e) :
    (reached m script frames log t).tick frames t =
      ({ reached m script frames log (t + 1) with
          output := (pictures m script frames t).toArray },
        some ⟨t, (m.after (script.actions (t + 1))).registers.pc, e⟩) := by
  have htold : told m script t = (script.due t).map (.event t) ++ (finds m script t).narrate := by
    rw [told, h, List.append_nil]
  rw [tick, applyDue_reached, reached, after_actions_succ, List.range_succ, List.flatMap_append,
    List.flatMap_singleton, htold]
  generalize (finds m script t).tick = o at h ⊢
  obtain ⟨n, r⟩ := o
  obtain rfl : r = .error e := h
  simp only [Log.record_append, List.append_assoc]

/-- A session that has reached tick `t` ends in one of the ways. -/
theorem goes_runFrom {n ticks : Nat} (hn : t + n = ticks)
    (hok : ∀ u < t, ∃ step, (finds m script u).tick.result = .ok step) :
    Goes m script ticks frames log (runFrom frames t n (reached m script frames log t)) := by
  induction n generalizing t with
  | zero =>
      obtain rfl : t = ticks := hn
      rw [runFrom, write_eq]
      exact .completed hok
  | succ n ih =>
      -- the first of the remaining ticks halts the session, or takes it to the next tick
      rw [runFrom]
      cases h : (finds m script t).tick.result with
      | error e =>
          rw [tick_reached_of_error h]
          exact .halted (by omega) hok h
      | ok step =>
          rw [tick_reached h]
          refine ih (by omega) fun u hu => ?_
          rcases Nat.lt_succ_iff_lt_or_eq.mp hu with hu | rfl
          · exact hok u hu
          · exact ⟨step, h⟩

/-- The ways to end exclude each other. -/
theorem Goes.unique {ticks : Nat} {o o' : Session × Option Halt}
    (h : Goes m script ticks frames log o) (h' : Goes m script ticks frames log o') : o = o' := by
  have hne : ∀ {t e}, (finds m script t).tick.result = .error e →
      ¬ ∃ step, (finds m script t).tick.result = .ok step := by
    rintro t e he ⟨step, hs⟩
    simp [he] at hs
  cases h with
  | completed hok =>
      cases h' with
      | completed => rfl
      | halted ht _ he => exact absurd (hok _ ht) (hne he)
  | @halted t e ht hok he =>
      cases h' with
      | completed hok' => exact absurd (hok' _ ht) (hne he)
      -- neither of the two ticks can come before the other, as each is the first that fails
      | @halted u e' _ hok' he' =>
          obtain rfl : t = u := Nat.le_antisymm
            (Nat.le_of_not_lt fun hlt => hne he' (hok _ hlt))
            (Nat.le_of_not_lt fun hlt => hne he (hok' _ hlt))
          obtain rfl : e = e' := Except.error.inj (he.symm.trans he')
          rfl

/-- A session goes in one of the ways. -/
theorem goes_run (m : Machine) (script : KeyScript) (ticks : Nat) (frames : Bool) (log : Log) :
    Goes m script ticks frames log (run m script ticks frames log) := by
  rw [run, start_eq]
  exact goes_runFrom (Nat.zero_add ticks) nofun

/-- **A session follows its script.**  It ends in the way that `Goes` says and in no other; the
events of its ticks, one tick after the other, and those that are left are the script; and a halt
is told by its tick and the program counter. -/
theorem run_eq_iff (m : Machine) (script : KeyScript) (ticks : Nat) (frames : Bool) (log : Log) :
    (∀ o, run m script ticks frames log = o ↔ Goes m script ticks frames log o) ∧
    (List.range ticks).flatMap script.due ++ script.left ticks = script.events ∧
    ∀ h : Halt, h.context =
      "CPU halted on tick " ++ h.tick.repr ++ " (pc " ++ Hex.literal 4 h.pc.toNat ++ ")" := by
  have hgoes := goes_run m script ticks frames log
  exact ⟨fun o => ⟨fun h => h ▸ hgoes, hgoes.unique⟩, script.flatMap_due_append_left ticks,
    fun h => rfl⟩

end Session

end ChipEight
