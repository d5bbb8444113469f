import ChipEight.Proofs.Footprint
import ChipEight.Proofs.Session
import ChipEight.Proofs.Text.Hex
import ChipEight.Proofs.Unobserved

/-!
# Proofs — Narration

What is told along a history.  A tick that waits for no key tells its registers, and then its
instruction if it finds one, both as they are before the tick; so an instruction that fails is told
too.  A tick that waits tells nothing until its key is there.  Hence a wait is told when it begins
and when it is over, and nothing else is told at that level.

* `Machine.Tells`: what a tick tells, in each of its cases; `Machine.narrate_eq_iff` says that these
  are all.
* `Machine.TakesTurns`: waits begin and are over by turns.
* `Log.along`: the log of a history.
* `Machine.log_along_load`: the log of the history of a program.
* `Session.takesTurns_run`: waits begin and are over by turns in the log of a session too.
-/

namespace ChipEight

/-! ### How entries are worded -/

/-- The digits of a word are those of its two bytes. -/
theorem Opcode.text_ofBytes (high low : UInt8) :
    (ofBytes high low).text = Hex.text 2 high.toNat ++ Hex.text 2 low.toNat := by
  have hh := high.toNat_lt
  have hl := low.toNat_lt
  rw [text, toNat_word_ofBytes, Hex.text_eq_of_lt (by decide) (by omega),
    Hex.text_eq_of_lt (by decide) hh, Hex.text_eq_of_lt (by decide) hl, ← String.ofList_append]
  generalize high.toNat = h at *
  generalize low.toNat = l at *
  obtain ⟨h₁, h₂, h₃, h₄⟩ : (256 * h + l) / 16 / 16 / 16 % 16 = h / 16 % 16 ∧
      (256 * h + l) / 16 / 16 % 16 = h % 16 ∧ (256 * h + l) / 16 % 16 = l / 16 % 16 ∧
      (256 * h + l) % 16 = l % 16 := by omega
  simp only [Hex.lowDigits, h₁, h₂, h₃, h₄, List.nil_append, List.append_assoc]

/-- How the lines about ticks read: what they show of the registers, of an instruction with the two
bytes that it stands in, and of a wait. -/
structure Log.Wording : Prop where
  registers (r : Registers) : (Entry.registers r).line =
    "TRACE " ++ ("v[" ++ ", ".intercalate (r.v.toList.map fun b => Hex.text 2 b.toNat) ++ "] i" ++
      Hex.text 4 r.index.toNat ++ " pc" ++ Hex.text 4 r.pc.toNat ++ " sp" ++ Hex.text 1 r.sp)
  instruction (m : Machine) (ins : Instruction) :
    (Entry.instruction m.registers.pc m.word ins).line =
      "DEBUG " ++ (Hex.literal 4 m.registers.pc.toNat ++ " " ++
        (Hex.text 2 (m.memory.byteAt m.registers.pc.toNat).toNat ++
          Hex.text 2 (m.memory.byteAt (m.registers.pc.toNat + 1)).toNat) ++ ": " ++ ins.text)
  waiting (x : Register) : (Entry.waiting x).line =
    "INFO " ++ ("waiting for key press into " ++ ("V" ++ Hex.text 1 x.val))
  resuming (x : Register) (key : Key) : (Entry.resuming x key).line =
    "INFO " ++ ("key " ++ Hex.text 1 key.val ++ " pressed, resuming into " ++
      ("V" ++ Hex.text 1 x.val))

theorem Log.wording : Wording where
  registers := Machine.line_registers
  instruction m ins := by
    rw [← Opcode.text_ofBytes]
    rfl
  waiting _ := rfl
  resuming _ _ := rfl

/-- The entries at level info. -/
def Log.infos (es : List Entry) : List Entry := es.filter (·.level = .info)

theorem Log.infos_append (es es' : List Entry) : infos (es ++ es') = infos es ++ infos es' :=
  List.filter_append es es'

namespace Machine

/-! ### One tick -/

/-- What a tick of a machine tells, and what comes of the tick. -/
inductive Tells (m : Machine) : List Log.Entry → Prop where
  /-- A key is waited for, and none is held. -/
  | waited {x : Register} (hp : m.parked = some x) (hr : m.tick.result = .ok .awaitingKey)
      (hw : m.tick.machine.parked = some x) : Tells m []
  /-- A key that was waited for goes into its register. -/
  | resumed {x : Register} {key : Key} (hp : m.parked = some x)
      (hr : m.tick.result = .ok (.resumed x key)) (hw : m.tick.machine.parked = none) :
      Tells m [.resuming x key]
  /-- There is no instruction at the program counter. -/
  | stuck {e : Fault} (hp : m.parked = none) (hn : m.next = .error e)
      (hr : m.tick.result = .error e) (hw : m.tick.machine.parked = none) :
      Tells m [.registers m.registers]
  /-- The instruction at the program counter is told, whether it fails or succeeds. -/
  | instruction {ins : Instruction} (hp : m.parked = none) (hn : m.next = .ok (m.word, ins))
      (hsys : ∀ a, ins ≠ .sys a)
      (hr : (∃ e, m.tick.result = .error e) ∨ m.tick.result = .ok (.executed ins))
      (hw : m.tick.machine.parked = none) :
      Tells m [.registers m.registers, .instruction m.registers.pc m.word ins]
  /-- The instruction is a call of machine code. -/
  | ignored {a : Address} (hp : m.parked = none) (hn : m.next = .ok (m.word, .sys a))
      (hr : m.tick.result = .ok (.executed (.sys a))) (hw : m.tick.machine.parked = none) :
      Tells m
        [.registers m.registers, .instruction m.registers.pc m.word (.sys a), .ignored a]
  /-- The instruction begins to wait for a key. -/
  | waits {x : Register} (hp : m.parked = none) (hn : m.next = .ok (m.word, .awaitKey x))
      (hr : m.tick.result = .ok (.executed (.awaitKey x)))
      (hw : m.tick.machine.parked = some x) :
      Tells m
        [.registers m.registers, .instruction m.registers.pc m.word (.awaitKey x), .waiting x]

variable {m : Machine} {ins : Instruction}

theorem narrate_of_parked {x : Register} (hp : m.parked = some x) :
    m.narrate = m.keypad.firstPressed.toList.map (.resuming x ·) := by
  simp only [narrate, hp]

theorem narrate_of_next (hp : m.parked = none) (hn : m.next = .ok (m.word, ins)) :
    m.narrate = .registers m.registers :: .instruction m.registers.pc m.word ins ::
      m.narrateEffect ins := by
  simp only [narrate, hp, hn]

/-- A tick leaves a wait only after the instruction that asks for one. -/
theorem parked_tick_eq_none (h : m.tick.result = .ok (.executed ins))
    (hkey : ∀ x, ins ≠ .awaitKey x) : m.tick.machine.parked = none := by
  refine (parked_tick h).resolve_right fun ⟨x, ho, _⟩ => ?_
  cases ins with
  | awaitKey y => exact hkey y rfl
  | _ => simp [Instruction.operands] at ho

theorem tells_narrate (m : Machine) : m.Tells m.narrate := by
  generalize ho : m.tick = o
  have hr := congrArg Outcome.result ho
  have hw := congrArg (·.machine.parked) ho
  cases tick_eq_iff.mp ho with
  | waited hp hk =>
      rw [narrate_of_parked hp, hk]
      exact .waited hp hr (hw.trans hp)
  | resumed hp hk =>
      rw [narrate_of_parked hp, hk]
      exact .resumed hp hr hw
  | stuck hp hn =>
      rw [narrate, hp, hn]
      exact .stuck hp hn hr (hw.trans hp)
  | failed hp hn he =>
      rw [narrate_of_next hp hn]
      cases execute_eq_failed_iff.mp he <;>
        exact .instruction hp hn (by simp) (.inl ⟨_, hr⟩) (hw.trans hp)
  | @executed ins _ hp hn =>
      rw [narrate_of_next hp hn]
      cases ins with
      | sys a => exact .ignored hp hn hr (parked_tick_eq_none hr (by simp))
      | awaitKey x =>
          -- the machine waits, and tells that it does, only if no key is held
          rw [narrateEffect]
          cases hk : m.keypad.firstPressed with
          | none =>
              have ht := tick_of_idle hp hn (Keypad.firstPressed_eq_none_iff.mp hk)
              exact .waits hp hn hr (congrArg (·.machine.parked) ht)
          | some key =>
              have ht := tick_of_lowest hp hn (Keypad.firstPressed_eq_some_iff.mp hk)
              exact .instruction hp hn (by simp) (.inr hr) (congrArg (·.machine.parked) ht)
      | _ => exact .instruction hp hn (by simp) (.inr hr) (parked_tick_eq_none hr (by simp))

/-- The cases exclude each other. -/
theorem Tells.unique {es es' : List Log.Entry} (h : m.Tells es) (h' : m.Tells es') : es = es' := by
  cases h <;> cases h' <;> grind

/-- **A tick tells what one of the cases says it tells.** -/
theorem narrate_eq_iff {es : List Log.Entry} : m.narrate = es ↔ m.Tells es :=
  ⟨fun h => h ▸ m.tells_narrate, fun h => m.tells_narrate.unique h⟩

/-! ### Waits -/

/-- Entries tell by turns that a wait for a key begins and that it is over, each time for the same
register.  Ahead of them stands the register of a wait that has begun before, if there is one. -/
inductive TakesTurns : Option Register → List Log.Entry → Prop where
  | nil {w : Option Register} : TakesTurns w []
  | waiting {x : Register} {es : List Log.Entry} (h : TakesTurns (some x) es) :
      TakesTurns none (.waiting x :: es)
  | resuming {x : Register} {key : Key} {es : List Log.Entry} (h : TakesTurns none es) :
      TakesTurns (some x) (.resuming x key :: es)

/-- What a machine tells along some actions. -/
def told (m : Machine) (as : List Action) : List Log.Entry := (m.beforeTicks as).flatMap narrate

/-- What a tick tells leads from the wait before it, or from none, to the wait after it. -/
theorem takesTurns_tick {es : List Log.Entry} (h : TakesTurns m.tick.machine.parked es) :
    TakesTurns m.parked (Log.infos m.narrate ++ es) := by
  generalize hn : m.narrate = es'
  cases narrate_eq_iff.mp hn with
  | waited hp _ hw => rwa [hp, ← hw]
  | resumed hp _ hw =>
      rw [hp]
      exact .resuming (hw ▸ h)
  | waits hp _ _ hw =>
      rw [hp]
      exact .waiting (hw ▸ h)
  | stuck hp _ _ hw | instruction hp _ _ _ hw | ignored hp _ _ hw => rwa [hp, ← hw]

theorem takesTurns_told (m : Machine) (as : List Action) :
    TakesTurns m.parked (Log.infos (m.told as)) := by
  induction as generalizing m with
  | nil => exact .nil
  | cons a as ih =>
      cases a with
      | tick =>
          rw [told, beforeTicks, List.flatMap_cons, Log.infos_append]
          exact takesTurns_tick (ih m.tick.machine)
      | press key => exact ih (m.press key)
      | release key => exact ih (m.release key)

end Machine

/-! ### The log -/

/-- A log after some actions, when a machine tells it about every tick. -/
def Log.along (log : Log) (m : Machine) (as : List Action) : Log :=
  (m.beforeTicks as).foldl (fun log n => log.record n.narrate) log

theorem Log.along_eq (log : Log) (m : Machine) (as : List Action) :
    log.along m as = log.record (m.told as) := by
  rw [along, Machine.told]
  induction m.beforeTicks as generalizing log with
  | nil => exact log.record_nil.symm
  | cons n ns ih => rw [List.foldl_cons, ih, record_append, List.flatMap_cons]

/-- A log that listens to the least important level keeps everything. -/
theorem Log.entries_record_of_trace {log : Log} (h : log.threshold = some .trace)
    (es : List Entry) : (log.record es).entries = log.entries ++ es := by
  have hkeeps : ∀ e ∈ es, log.keeps e.level = true := fun e _ => by
    rw [keeps, h]
    cases e <;> rfl
  rw [record, List.filter_eq_self.mpr hkeeps]

/-- A log that listens to level info keeps every entry of that level. -/
theorem Log.infos_record {log : Log} (h : log.keeps .info = true) (es : List Entry) :
    infos (log.record es).entries.toList = infos log.entries.toList ++ infos es := by
  have hlevel : ∀ e : Entry, (decide (e.level = .info) && log.keeps e.level) =
      decide (e.level = .info) := fun e => by
    by_cases he : e.level = .info <;> simp [he, h]
  rw [record, Array.toList_appendList, infos_append]
  simp only [infos, List.filter_filter, hlevel]

theorem Log.lines_along (program : List UInt8) (m : Machine) (as : List Action) :
    ((ofLoad (some .trace) program).along m as).lines =
      (Entry.loaded program.length).line :: (m.told as).map Entry.line := by
  rw [along_eq, ofLoad, record_append, lines, entries_record_of_trace rfl]
  simp [listening]

/-- **A log tells a history as it was.**  Load a program that fits, and let a log that listens to
every level go along with whatever ticks and keys follow.  Its lines are those of the entries that
the ticks tell, one tick after the other; what each tick tells is what `Tells` says and nothing
else; and at level info waits begin and are over by turns, from the first one's beginning on. -/
theorem Machine.log_along_load (program : List UInt8) (random : ByteStream)
    (hfit : program.length ≤ 3584) :
    ∃ m, load program random = .ok m ∧ ∀ as : List Action,
      ((Log.ofLoad (some .trace) program).along m as).lines =
        (Log.Entry.loaded program.length).line :: (m.told as).map Log.Entry.line ∧
      (∀ n ∈ m.beforeTicks as, ∀ es, n.narrate = es ↔ n.Tells es) ∧
      TakesTurns none (Log.infos (m.told as)) ∧ Log.Wording := by
  obtain ⟨m, hl, hp⟩ : ∃ m, load program random = .ok m ∧ m.parked = none :=
    ⟨_, load_of_fits hfit random, rfl⟩
  exact ⟨m, hl, fun as => ⟨Log.lines_along program m as, fun _ _ _ => narrate_eq_iff,
    hp ▸ m.takesTurns_told as, Log.wording⟩⟩

/-- The theorem at a program that waits for a key at once.  The tick that finds none is not told. -/
theorem Machine.log_along_load_wait :
    ∃ m, load [0xF3, 0x0A] (.cycle #[]) = .ok m ∧
      ((Log.ofLoad (some .trace) [0xF3, 0x0A]).along m [.tick, .tick, .press 9, .tick]).lines =
        ["DEBUG loaded 2 byte program",
          "TRACE v[00, 00, 00, 00, 00, 00, 00, 00, 00, 00, 00, 00, 00, 00, 00, 00] " ++
            "i0000 pc0200 sp0",
          "DEBUG 0x0200 F30A: LD V3, K", "INFO waiting for key press into V3",
          "INFO key 9 pressed, resuming into V3"] := by
  have hfit : ([0xF3, 0x0A] : List UInt8).length ≤ 3584 := by decide
  obtain ⟨m, hl, hlog⟩ := log_along_load _ (.cycle #[]) hfit
  obtain ⟨hp, hr, hk, hw⟩ := fresh_of_load hfit hl
  refine ⟨m, hl, (hlog _).1.trans ?_⟩
  have hword : m.word = ⟨0xF30A⟩ := by
    rw [word, hr]
    exact hw 0 (by decide)
  have hn : m.next = .ok (m.word, .awaitKey 3) :=
    next_eq_ok_iff.mpr ⟨by rw [hr]; decide, rfl, by rw [hword]; decide⟩
  have hidle : Keypad.released.Idle := Keypad.firstPressed_eq_none_iff.mp (by decide)
  have ht : m.tick.machine = m.waiting 3 1 .released :=
    congrArg Outcome.machine (hk ▸ tick_of_idle hp hn (hk ▸ hidle))
  have ht' : (m.waiting 3 1 .released).tick.machine = m.waiting 3 2 .released :=
    congrArg Outcome.machine (tick_waiting_of_idle hidle)
  have htold : m.told [.tick, .tick, .press 9, .tick] =
      [.registers (.startingAt 0x200), .instruction 0x200 ⟨0xF30A⟩ (.awaitKey 3), .waiting 3,
        .resuming 3 9] := by
    calc m.told [.tick, .tick, .press 9, .tick]
      _ = m.narrate ++ (m.waiting 3 1 .released).narrate ++
            ((m.waiting 3 2 .released).press 9).narrate := by
          simp only [told, beforeTicks, List.flatMap_cons, List.flatMap_nil, List.append_nil,
            List.append_assoc, ht, ht']
      _ = _ := by
          rw [narrate_of_next hp hn, narrateEffect, hk, hr, hword]
          rfl
  rw [htold]
  decide

/-! ### Sessions -/

namespace Session

variable {m : Machine} {script : KeyScript} {t : Nat}

theorem told_actions_succ :
    m.told (script.actions (t + 1)) = m.told (script.actions t) ++ (finds m script t).narrate := by
  have hdue := KeyEvent.tick_not_mem_map_action (script.due t)
  rw [KeyScript.actions, Machine.told, Machine.beforeTicks_append, Machine.beforeTicks_append,
    Machine.beforeTicks_of_tick_not_mem hdue, List.append_nil, List.flatMap_append]
  simp [Machine.told, Machine.beforeTicks, finds]

/-- At level info a session tells what its machine tells. -/
theorem infos_told (m : Machine) (script : KeyScript) (t : Nat) :
    Log.infos ((List.range t).flatMap (told m script)) =
      Log.infos (m.told (script.actions t)) := by
  induction t with
  | zero => rfl
  | succ t ih =>
      have hdue : Log.infos ((script.due t).map (.event t)) = [] := by
        simp [Log.infos, Log.Entry.level]
      have htold : Log.infos (told m script t) = Log.infos (finds m script t).narrate := by
        rw [told, Log.infos_append, Log.infos_append, hdue]
        rcases (finds m script t).tick.result with _ | _ | _ | _ <;> exact List.append_nil _
      rw [told_actions_succ, List.range_succ, List.flatMap_append, List.flatMap_singleton,
        Log.infos_append, Log.infos_append, ih, htold]

theorem exists_log_run (m : Machine) (script : KeyScript) (ticks : Nat) (frames : Bool)
    (log : Log) : ∃ t, (run m script ticks frames log).1.log =
      log.record ((List.range t).flatMap (told m script)) := by
  have h := goes_run m script ticks frames log
  generalize run m script ticks frames log = o at h ⊢
  cases h with
  | completed => exact ⟨ticks, rfl⟩
  | @halted t => exact ⟨t + 1, rfl⟩

/-- **In the log of a session waits begin and are over by turns**, if it listens to level info and
nothing was told to it at that level before. -/
theorem takesTurns_run {log : Log} (hlog : Log.infos log.entries.toList = [])
    (hinfo : log.keeps .info = true) (m : Machine) (script : KeyScript) (ticks : Nat)
    (frames : Bool) :
    Machine.TakesTurns m.parked
      (Log.infos (run m script ticks frames log).1.log.entries.toList) := by
  obtain ⟨t, ht⟩ := exists_log_run m script ticks frames log
  rw [ht, Log.infos_record hinfo, hlog, List.nil_append, infos_told]
  exact m.takesTurns_told _

end Session

end ChipEight
