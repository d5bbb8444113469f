import ChipEight.Proofs.Keys.Held

/-!
# Proofs — Keys — Script

What of the text of a key script a session depends on.  A session goes by the events in the order
of their ticks, and keys are independent of each other.  So at each tick all that counts of the
events of a key is the last one that is written.

* `KeyScript.written`: the events of a text in their written order.  Sorting keeps that order among
  the events of a tick (`KeyScript.due_ofEvents`).
* `KeyScript.lastFor`: what the last event does that is written for a key and a tick.
* `KeyScript.Restates`: ways to write events anew that say the same.
* `Session.Agree`: two sessions come to the same, and are told alike but for their events.
* `Session.agree_of_lastFor_eq`: scripts with the same last events lead to the same session.
-/

namespace ChipEight

/-- Whether an event makes a key go down or up, if it is for that key and for that tick. -/
def KeyEvent.setting? (t : Nat) (k : Key) (e : KeyEvent) : Option Bool :=
  if e.tick = t ∧ e.key = k then some e.pressed else none

theorem KeyEvent.setting?_action (e : KeyEvent) (k : Key) :
    e.action.setting? (UInt8.ofNat k.val) = if e.key = k then some e.pressed else none := by
  have hkey : UInt8.ofNat e.key.val = UInt8.ofNat k.val ↔ e.key = k := by
    rw [← UInt8.toNat_inj, Keypad.toNat_ofNat_key, Keypad.toNat_ofNat_key, Fin.val_inj]
  obtain ⟨t, key, _ | _⟩ := e <;> simp only [action, Action.setting?] <;> simp [hkey]

namespace KeyScript

/-- The events of a text in the order in which they are written. -/
def written (text : String) : List KeyEvent := (pieces text).filterMap KeyEvent.parse?

/-- Whether the last of some events for a key and a tick makes the key go down or up, if there is
one. -/
def lastFor (es : List KeyEvent) (t : Nat) (k : Key) : Option Bool :=
  (es.filterMap (KeyEvent.setting? t k)).getLast?

example : lastFor [⟨1, 5, true⟩, ⟨0, 5, false⟩, ⟨1, 6, false⟩] 1 5 = some true := by decide

variable {text : String} {script : KeyScript} {es es' : List KeyEvent} {e : KeyEvent} {t T : Nat}
  {k : Key}

/-! ### From a text to the events of a tick -/

theorem eq_filterMap_of_mapM {ps : List (List Char)} (h : ps.mapM readEvent = .ok es) :
    es = ps.filterMap KeyEvent.parse? := by
  induction ps generalizing es with
  | nil => exact (Except.ok.inj h).symm
  | cons p ps ih =>
      rw [List.mapM_cons, readEvent] at h
      cases hp : KeyEvent.parse? p with
      | none =>
          rw [hp] at h
          cases h
      | some e =>
          rw [hp] at h
          cases hps : ps.mapM readEvent with
          | error d =>
              rw [hps] at h
              cases h
          | ok rest =>
              rw [hps] at h
              rw [List.filterMap_cons_some hp, ← ih hps]
              exact (Except.ok.inj h).symm

/-- A script that is read off a text has the events of that text. -/
theorem eq_ofEvents_written (h : parse text = .ok script) : script = ofEvents (written text) := by
  unfold parse at h
  cases hm : (pieces text).mapM readEvent with
  | error d =>
      rw [hm] at h
      cases h
  | ok es =>
      rw [hm] at h
      rw [written, ← eq_filterMap_of_mapM hm]
      exact (Except.ok.inj h).symm

/-- **Sorting is stable**: the events of a tick are due in their written order. -/
theorem due_ofEvents (es : List KeyEvent) (t : Nat) :
    (ofEvents es).due t = es.filter (·.tick = t) := by
  have htick : ∀ e ∈ es.filter (·.tick = t), e.tick = t := fun e he =>
    of_decide_eq_true (List.mem_filter.mp he).2
  have hsub : (es.filter (·.tick = t)).Sublist (ofEvents es).events := by
    refine List.sublist_mergeSort ?_ ?_ ?_ List.filter_sublist
    · intro a b c hab hbc
      simp only [decide_eq_true_eq] at *
      omega
    · intro a b
      simp only [Bool.or_eq_true, decide_eq_true_eq]
      omega
    · refine List.pairwise_of_forall_mem_list fun a ha b hb => decide_eq_true ?_
      exact Nat.le_of_eq ((htick a ha).trans (htick b hb).symm)
  -- both lists have all events of the tick, so the one that lies in the other is equal to it
  have hlength : (es.filter (·.tick = t)).length = ((ofEvents es).due t).length :=
    ((List.mergeSort_perm es _).filter _).length_eq.symm
  have hdue := hsub.filter (·.tick = t)
  rw [List.filter_eq_self.mpr fun e he => (List.mem_filter.mp he).2] at hdue
  exact (hdue.eq_of_length hlength).symm

/-- What a key undergoes right before a tick ends with the last event that is written for it. -/
theorem lastSetting_due (es : List KeyEvent) (t : Nat) (k : Key) :
    lastSetting (((ofEvents es).due t).map KeyEvent.action) (UInt8.ofNat k.val) =
      lastFor es t k := by
  rw [due_ofEvents, lastSetting, lastFor, List.filterMap_map, List.filterMap_filter]
  congr 2
  funext e
  rw [Function.comp_apply, KeyEvent.setting?_action, KeyEvent.setting?]
  by_cases ht : e.tick = t <;> simp [ht]

/-! ### Writing a script anew -/

/-- Ways to write events anew that say the same about the ticks before `T`. -/
inductive Restates (T : Nat) : List KeyEvent → List KeyEvent → Prop where
  /-- In any order that is the old one among the events of a key and a tick. -/
  | reordered {es es' : List KeyEvent}
      (h : ∀ t k, es.filterMap (KeyEvent.setting? t k) = es'.filterMap (KeyEvent.setting? t k)) :
      Restates T es es'
  /-- With an event repeated, which is written once more before itself. -/
  | repeated {es es' : List KeyEvent} {e : KeyEvent} (h : e ∈ es') :
      Restates T (es ++ es') (es ++ e :: es')
  /-- With an event for a later tick added. -/
  | late {es es' : List KeyEvent} {e : KeyEvent} (h : T ≤ e.tick) :
      Restates T (es ++ es') (es ++ e :: es')
  | symm {es es' : List KeyEvent} (h : Restates T es es') : Restates T es' es
  | trans {es es' es'' : List KeyEvent} (h : Restates T es es') (h' : Restates T es' es'') :
      Restates T es es''

/-- Events for different keys or ticks change places. -/
theorem Restates.swapped {e' : KeyEvent} (h : e.tick ≠ e'.tick ∨ e.key ≠ e'.key) :
    Restates T (es ++ e :: e' :: es') (es ++ e' :: e :: es') := by
  refine .reordered ?_
  intro t k
  have hnone : e.setting? t k = none ∨ e'.setting? t k = none := by
    by_cases he : e.tick = t ∧ e.key = k
    · exact .inr (if_neg fun he' => by simp [he, he'] at h)
    · exact .inl (if_neg he)
  rw [List.filterMap_append, List.filterMap_append]
  congr 1
  rcases hnone with hn | hn
  · rw [List.filterMap_cons_none hn, List.filterMap_cons, List.filterMap_cons,
      List.filterMap_cons_none hn]
  · rw [List.filterMap_cons, List.filterMap_cons_none hn, List.filterMap_cons_none hn,
      List.filterMap_cons]

theorem lastFor_append (es es' : List KeyEvent) (t : Nat) (k : Key) :
    lastFor (es ++ es') t k = (lastFor es' t k).or (lastFor es t k) := by
  rw [lastFor, List.filterMap_append, List.getLast?_append, lastFor, lastFor]

theorem lastFor_cons (e : KeyEvent) (es : List KeyEvent) (t : Nat) (k : Key) :
    lastFor (e :: es) t k = (lastFor es t k).or (e.setting? t k) := by
  rw [← List.singleton_append, lastFor_append]
  congr 1
  rw [lastFor, List.filterMap_cons]
  cases e.setting? t k <;> rfl

/-- An event that is written again later goes without saying. -/
theorem lastFor_cons_of_mem (h : e ∈ es) (t : Nat) (k : Key) :
    lastFor (e :: es) t k = lastFor es t k := by
  rw [lastFor_cons]
  cases hs : e.setting? t k with
  | none => exact Option.or_none
  | some down =>
      have hmem : down ∈ es.filterMap (KeyEvent.setting? t k) := List.mem_filterMap.mpr ⟨e, h, hs⟩
      rw [lastFor, List.getLast?_eq_some_getLast (List.ne_nil_of_mem hmem)]
      rfl

/-- Events that are written anew are the last for the same keys at the same ticks. -/
theorem Restates.lastFor_eq (h : Restates T es es') (ht : t < T) (k : Key) :
    lastFor es t k = lastFor es' t k := by
  induction h with
  | reordered h => rw [lastFor, lastFor, h]
  | repeated h => rw [lastFor_append, lastFor_append, lastFor_cons_of_mem h]
  | @late es es' e h =>
      have hs : e.setting? t k = none := if_neg fun hfor => by omega
      rw [lastFor_append, lastFor_append, lastFor_cons, hs, Option.or_none]
  | symm _ ih => exact ih.symm
  | trans _ _ ih ih' => exact ih.trans ih'

end KeyScript

/-! ### Logs but for the events -/

namespace Log

/-- Whether an entry tells of an event of a script. -/
def Entry.isEvent : Entry → Bool
  | .event _ _ => true
  | _ => false

/-- The log without what it tells of events. -/
def besideEvents (log : Log) : Log :=
  { log with entries := log.entries.filter (! ·.isEvent) }

theorem besideEvents_record (log : Log) (es : List Entry) :
    (log.record es).besideEvents = log.besideEvents.record (es.filter (! ·.isEvent)) := by
  rw [record, besideEvents, besideEvents, record, mk.injEq]
  exact ⟨rfl, Array.ext' (by simp [keeps, Bool.and_comm])⟩

end Log

/-! ### Sessions under two scripts -/

namespace Session

/-- Two sessions come to the same, and were told alike but for their events. -/
structure Agree (o o' : Session × Option Halt) : Prop where
  output : o.1.output = o'.1.output
  halt : o.2 = o'.2
  machine : o.1.machine = o'.1.machine
  log : o.1.log.besideEvents = o'.1.log.besideEvents

variable {m : Machine} {s s' : KeyScript} {ticks T t : Nat} {frames : Bool} {log : Log}

/-- If a machine is the same before a tick and each key was last set alike, then the tick finds the
same machine. -/
theorem finds_congr (hbefore : m.after (s.actions t) = m.after (s'.actions t))
    (hlast : ∀ k : Key, lastSetting ((s.due t).map KeyEvent.action) (UInt8.ofNat k.val) =
      lastSetting ((s'.due t).map KeyEvent.action) (UInt8.ofNat k.val)) :
    finds m s t = finds m s' t := by
  rw [finds_eq, finds_eq, hbefore, Keypad.after_eq_of_lastSetting _ hlast]

/-- A machine is the same after ticks that find the same. -/
theorem after_actions_congr (h : ∀ u < t, finds m s u = finds m s' u) :
    m.after (s.actions t) = m.after (s'.actions t) := by
  cases t with
  | zero => rfl
  | succ t => rw [after_actions_succ, after_actions_succ, h t t.lt_succ_self]

/-- Under scripts with the same last events, each tick finds the same. -/
theorem finds_eq_of_lastSetting
    (h : ∀ u < T, ∀ k : Key, lastSetting ((s.due u).map KeyEvent.action) (UInt8.ofNat k.val) =
      lastSetting ((s'.due u).map KeyEvent.action) (UInt8.ofNat k.val)) (ht : t < T) :
    finds m s t = finds m s' t := by
  induction t using Nat.strongRecOn with
  | _ t ih =>
      refine finds_congr (after_actions_congr ?_) (h t ht)
      intro u hu
      exact ih u hu (Nat.lt_trans hu ht)

theorem pictures_congr (h : ∀ u < t, finds m s u = finds m s' u) :
    pictures m s frames t = pictures m s' frames t := by
  induction t with
  | zero => rfl
  | succ t ih =>
      rw [pictures_succ, pictures_succ, ih fun u hu => h u (Nat.lt_succ_of_lt hu),
        h t t.lt_succ_self]

/-- Ticks that find the same tell the same but for their events. -/
theorem filter_told_congr (h : finds m s t = finds m s' t) :
    (told m s t).filter (! ·.isEvent) = (told m s' t).filter (! ·.isEvent) := by
  have hevents (es : List KeyEvent) :
      (es.map (Log.Entry.event t)).filter (! ·.isEvent) = [] := by
    rw [List.filter_eq_nil_iff]
    intro entry hentry
    obtain ⟨e, _, rfl⟩ := List.mem_map.mp hentry
    simp [Log.Entry.isEvent]
  simp only [told, List.filter_append, hevents, h]

theorem besideEvents_reached (frames : Bool) (h : ∀ u < t, finds m s u = finds m s' u) :
    (reached m s frames log t).log.besideEvents =
      (reached m s' frames log t).log.besideEvents := by
  have htold : ((List.range t).flatMap (told m s)).filter (! ·.isEvent) =
      ((List.range t).flatMap (told m s')).filter (! ·.isEvent) := by
    rw [List.filter_flatMap, List.filter_flatMap, List.flatMap_def, List.flatMap_def,
      List.map_congr_left fun u hu => filter_told_congr (h u (List.mem_range.mp hu))]
  rw [reached, reached, Log.besideEvents_record, Log.besideEvents_record, htold]

/-- Sessions agree if each tick finds the same in both. -/
theorem Goes.agree {o o' : Session × Option Halt}
    (hfinds : ∀ u < ticks, finds m s u = finds m s' u)
    (h : Goes m s ticks frames log o) (h' : Goes m s' ticks frames log o') : Agree o o' := by
  cases h with
  | completed hok =>
      have hok' : ∀ t < ticks, ∃ step, (finds m s' t).tick.result = .ok step := by
        intro t ht
        rw [← hfinds t ht]
        exact hok t ht
      rw [h'.unique (.completed hok')]
      exact
        { output := by simp only [pictures_congr hfinds, after_actions_congr hfinds]
          halt := rfl
          machine := after_actions_congr hfinds
          log := besideEvents_reached frames hfinds }
  | @halted t e ht hok he =>
      have hupto : ∀ u < t + 1, finds m s u = finds m s' u := fun u hu => hfinds u (by omega)
      have hbefore : ∀ u < t, finds m s u = finds m s' u := fun u hu => hupto u (by omega)
      -- the other session halts at the same tick, since no earlier one fails there either
      have hok' : ∀ u < t, ∃ step, (finds m s' u).tick.result = .ok step := by
        intro u hu
        rw [← hbefore u hu]
        exact hok u hu
      have he' : (finds m s' t).tick.result = .error e := by rw [← hfinds t ht, he]
      rw [h'.unique (.halted ht hok' he')]
      exact
        { output := by simp only [pictures_congr hbefore]
          halt := by simp only [after_actions_congr hupto]
          machine := after_actions_congr hupto
          log := besideEvents_reached frames hupto }

/-- **Only the last event of a key at a tick counts.**  Take two texts that are read as scripts.
If before the last tick of a session the last event for a key and a tick is the same in both, or
absent in both, then the sessions under the two scripts agree: in what they write, in how they end,
in their last machine, and in what they are told but for the events.  So it is if one text has the
events of the other written anew. -/
theorem agree_of_lastFor_eq {text text' : String} (hs : KeyScript.parse text = .ok s)
    (hs' : KeyScript.parse text' = .ok s') (m : Machine) (ticks : Nat) (frames : Bool)
    (log : Log) :
    ((∀ t < ticks, ∀ k : Key, KeyScript.lastFor (KeyScript.written text) t k =
        KeyScript.lastFor (KeyScript.written text') t k) →
      Agree (run m s ticks frames log) (run m s' ticks frames log)) ∧
    (KeyScript.Restates ticks (KeyScript.written text) (KeyScript.written text') →
      Agree (run m s ticks frames log) (run m s' ticks frames log)) := by
  have hagree : (∀ t < ticks, ∀ k : Key, KeyScript.lastFor (KeyScript.written text) t k =
        KeyScript.lastFor (KeyScript.written text') t k) →
      Agree (run m s ticks frames log) (run m s' ticks frames log) := by
    intro hlast
    refine Goes.agree (fun t ht => finds_eq_of_lastSetting ?_ ht) (goes_run ..) (goes_run ..)
    intro u hu k
    rw [KeyScript.eq_ofEvents_written hs, KeyScript.eq_ofEvents_written hs',
      KeyScript.lastSetting_due, KeyScript.lastSetting_due, hlast u hu k]
  refine ⟨hagree, ?_⟩
  intro hrestates
  apply hagree
  intro t ht k
  exact hrestates.lastFor_eq ht k

/-- The theorem at a program that waits for a key, and a script that is written anew with its events
turned round, one of them twice, and one for a tick that does not come. -/
theorem agree_of_lastFor_eq_turned :
    ∃ (m : Machine) (s s' : KeyScript), Machine.load [0xF0, 0x0A] (.cycle #[]) = .ok m ∧
      KeyScript.parse "0:w,1:-w" = .ok s ∧ KeyScript.parse "1:-w,1:-w,0:w,5:q" = .ok s' ∧
      (∀ t < 2, ∀ k : Key, KeyScript.lastFor (KeyScript.written "0:w,1:-w") t k =
        KeyScript.lastFor (KeyScript.written "1:-w,1:-w,0:w,5:q") t k) ∧
      KeyScript.Restates 2 (KeyScript.written "0:w,1:-w")
        (KeyScript.written "1:-w,1:-w,0:w,5:q") ∧
      Agree (run m s 2 true (.listening (some .debug)))
        (run m s' 2 true (.listening (some .debug))) := by
  have hs : KeyScript.parse "0:w,1:-w" =
      .ok (.ofEvents (KeyScript.written "0:w,1:-w")) := rfl
  have hs' : KeyScript.parse "1:-w,1:-w,0:w,5:q" =
      .ok (.ofEvents (KeyScript.written "1:-w,1:-w,0:w,5:q")) := rfl
  have hw : KeyScript.written "0:w,1:-w" = [⟨0, 5, true⟩, ⟨1, 5, false⟩] := by decide
  have hw' : KeyScript.written "1:-w,1:-w,0:w,5:q" =
      [⟨1, 5, false⟩, ⟨1, 5, false⟩, ⟨0, 5, true⟩, ⟨5, 4, true⟩] := by decide
  have hrestates : KeyScript.Restates 2 (KeyScript.written "0:w,1:-w")
      (KeyScript.written "1:-w,1:-w,0:w,5:q") := by
    rw [hw, hw']
    have hturned : KeyScript.Restates 2 ([] ++ [⟨0, 5, true⟩, ⟨1, 5, false⟩])
        ([] ++ [⟨1, 5, false⟩, ⟨0, 5, true⟩]) := .swapped (.inl (by decide))
    have htwice : KeyScript.Restates 2 ([] ++ [⟨1, 5, false⟩, ⟨0, 5, true⟩])
        ([] ++ [⟨1, 5, false⟩, ⟨1, 5, false⟩, ⟨0, 5, true⟩]) := .repeated (by decide)
    have hlate : KeyScript.Restates 2 ([⟨1, 5, false⟩, ⟨1, 5, false⟩, ⟨0, 5, true⟩] ++ [])
        ([⟨1, 5, false⟩, ⟨1, 5, false⟩, ⟨0, 5, true⟩] ++ [⟨5, 4, true⟩]) := .late (by decide)
    exact (hturned.trans htwice).trans hlate
  exact ⟨_, _, _, Machine.load_of_fits (by decide) _, hs, hs', by decide, hrestates,
    (agree_of_lastFor_eq hs hs' _ 2 true _).2 hrestates⟩

end Session

end ChipEight
