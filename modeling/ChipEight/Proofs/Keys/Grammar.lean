import ChipEight.Proofs.Keys.Script
import ChipEight.Proofs.Text.Numeral
import ChipEight.Proofs.Text.Pieces
import Mathlib.Algebra.Order.BigOperators.Group.List

/-!
# Proofs — Keys — Grammar

The texts that are key scripts, said without the functions that read them.

* `Key.Named`, `KeyEvent.Written`: the names of a key, and the texts of an event.  They are the ones
  that are read (`KeyEvent.parse?_eq_some_iff`).
* `KeyScript.Pieces`: the pieces of a text that have to be events.
* `KeyScript.Arranged`: events in the order of their ticks, with nothing else moved.
* `KeyScript.parse_reads_pieces`: a text is read as the events of its pieces, or it is refused for
  the first piece that is no event.
-/

namespace ChipEight

/-! ### Names of keys -/

/-- A character is itself in lower case, or the capital of it. -/
theorem eq_toLower_or_toUpper (c : Char) : c = c.toLower ∨ c = c.toLower.toUpper := by
  by_cases hc : c.toNat < 91
  · have hall : ∀ n : Fin 91, Char.ofNat n.val = (Char.ofNat n.val).toLower ∨
        Char.ofNat n.val = (Char.ofNat n.val).toLower.toUpper := by decide
    have h := hall ⟨c.toNat, hc⟩
    rwa [Char.ofNat_toNat] at h
  · -- past the capitals every character is in lower case
    have hz : ¬ (c.val ≥ 'A'.val ∧ c.val ≤ 'Z'.val) := fun h =>
      hc (Nat.lt_of_le_of_lt (UInt32.le_iff_toNat_le.mp h.2) (by decide))
    have hlower : c.toLower = c := dif_neg (e := fun _ => c) hz
    exact .inl hlower.symm

namespace Key

/-- The characters of the keyboard that the keys lie on, from key zero to key fifteen. -/
def characters : List Char := "x123qweasdzc4rfv".toList

/-- A text names a key. -/
inductive Named : List Char → Key → Prop where
  /-- By its character, in either case. -/
  | character {a c : Char} {k : Key} (hk : characters[k.val]? = some a)
      (hc : c = a ∨ c = a.toUpper) : Named [c] k
  /-- By its number in base sixteen. -/
  | number {x : Char} {digits : List Char} {k : Key} (hx : x = 'x' ∨ x = 'X')
      (h : Numeral.key.Spells digits k.val) : Named ('0' :: x :: digits) k

variable {c : Char} {name : List Char} {k : Key}

theorem ofChar?_eq_some_iff :
    ofChar? c = some k ↔ ∃ a, characters[k.val]? = some a ∧ (c = a ∨ c = a.toUpper) := by
  constructor
  · intro h
    refine ⟨c.toLower, ?_, eq_toLower_or_toUpper c⟩
    unfold ofChar? at h
    split at h <;> cases h
    all_goals rw [‹c.toLower = _›]; rfl
  · have hall : ∀ k : Key, ofChar? (characters.getD k.val ' ') = some k ∧
        ofChar? (characters.getD k.val ' ').toUpper = some k := by decide
    rintro ⟨a, ha, hc⟩
    have hk : characters.getD k.val ' ' = a := by
      rw [List.getD_eq_getElem?_getD, ha, Option.getD_some]
    rcases hc with rfl | rfl
    · exact hk ▸ (hall k).1
    · exact hk ▸ (hall k).2

/-- A byte that is small enough is the number of a key. -/
theorem spells_key_iff {digits : List Char} :
    Numeral.key.Spells digits k.val ↔ Numeral.byte.read digits = .ok k.val := by
  have hlimit : Numeral.key.limit ≤ Numeral.byte.limit := Nat.le_add_right 0xF 0xF0
  rw [Numeral.read_eq_ok_iff (Nat.le_refl 16)]
  constructor
  · exact fun h => ⟨h.ne_nil, h.row, Nat.le_trans h.le hlimit⟩
  · exact fun h => ⟨h.ne_nil, h.row, Nat.le_of_lt_succ k.isLt⟩

/-- After its mark a number is read as a byte, and it has to be small enough. -/
theorem named?_marked {x : Char} {digits : List Char} (hx : x = 'x' ∨ x = 'X') :
    named? ('0' :: x :: digits) = some k ↔ Numeral.key.Spells digits k.val := by
  rw [spells_key_iff]
  rcases hx with rfl | rfl
  all_goals
    rw [named?]
    cases Numeral.byte.read digits with
    | error e => exact iff_of_false nofun nofun
    | ok n =>
        by_cases hn : n < 16
        · simp [hn, Fin.ext_iff]
        · have hne : n ≠ k.val := fun h => hn (h ▸ k.isLt)
          simp [hn, hne]

/-- **The names that are read are the names of keys.** -/
theorem named?_eq_some_iff : named? name = some k ↔ Named name k := by
  constructor
  · intro h
    unfold named? at h
    split at h
    · exact .number (.inl rfl) ((named?_marked (.inl rfl)).mp h)
    · exact .number (.inr rfl) ((named?_marked (.inr rfl)).mp h)
    · obtain ⟨a, ha, hc⟩ := ofChar?_eq_some_iff.mp h
      exact .character ha hc
    · cases h
    · cases h
  · rintro (⟨ha, hc⟩ | ⟨hx, h⟩)
    · rw [named?]
      exact ofChar?_eq_some_iff.mpr ⟨_, ha, hc⟩
    · exact (named?_marked hx).mpr h

/-- No name starts with the sign of a key that goes up. -/
theorem not_named_minus : ¬ Named ('-' :: name) k := by
  intro h
  cases h with
  | character ha hc =>
      have hread : ofChar? '-' = some k := ofChar?_eq_some_iff.mpr ⟨_, ha, hc⟩
      cases hread

end Key

/-! ### Events -/

namespace KeyEvent

/-- A text is written for an event.  Its first colon stands between the tick and the key; white
space around either does not count. -/
inductive Written (cs : List Char) : KeyEvent → Prop where
  /-- `tick:key`, for a key that goes down. -/
  | pressed {left right number name : List Char} {tick : Nat} {key : Key}
      (hcs : cs = left ++ ':' :: right) (hleft : ':' ∉ left) (hnumber : Text.Trims left number)
      (htick : Numeral.count.Spells number tick) (hname : Text.Trims right name)
      (hkey : Key.Named name key) : Written cs ⟨tick, key, true⟩
  /-- `tick:-key`, for a key that goes up. -/
  | released {left right number name : List Char} {tick : Nat} {key : Key}
      (hcs : cs = left ++ ':' :: right) (hleft : ':' ∉ left) (hnumber : Text.Trims left number)
      (htick : Numeral.count.Spells number tick) (hname : Text.Trims right ('-' :: name))
      (hkey : Key.Named name key) : Written cs ⟨tick, key, false⟩

variable {cs left right : List Char} {e : KeyEvent}

/-- An event is read from the two sides of its first colon. -/
theorem parse?_of_colon (hleft : ':' ∉ left) : parse? (left ++ ':' :: right) = some e ↔
    ∃ tick key, Numeral.count.read (Text.trim left) = .ok tick ∧
      Key.named? (direction (Text.trim right)).2 = some key ∧
      ⟨tick, key, (direction (Text.trim right)).1⟩ = e := by
  have hno : ∀ c ∈ left, decide (c ≠ ':') = true := fun c hc =>
    decide_eq_true fun h => hleft (h ▸ hc)
  have htake : (left ++ ':' :: right).takeWhile (· ≠ ':') = left := by
    rw [List.takeWhile_append_of_pos hno, List.takeWhile_cons_of_neg (by simp), List.append_nil]
  have hdrop : (left ++ ':' :: right).dropWhile (· ≠ ':') = ':' :: right := by
    rw [List.dropWhile_append_of_pos hno, List.dropWhile_cons_of_neg (by simp)]
  unfold parse?
  rw [htake, hdrop]
  cases Numeral.count.read (Text.trim left) <;> simp

theorem parse?_of_no_colon (h : ':' ∉ cs) : parse? cs = none := by
  have hdrop : cs.dropWhile (· ≠ ':') = [] :=
    List.dropWhile_eq_nil_iff.mpr fun c hc => decide_eq_true fun he => h (he ▸ hc)
  rw [parse?, hdrop]

/-- **The texts that are read are those that are written for an event.** -/
theorem parse?_eq_some_iff : parse? cs = some e ↔ Written cs e := by
  constructor
  · intro h
    have hmem : ':' ∈ cs := by
      by_contra hno
      rw [parse?_of_no_colon hno] at h
      cases h
    obtain ⟨left, right, rfl, hleft⟩ := List.eq_append_cons_of_mem hmem
    obtain ⟨tick, key, htick, hkey, rfl⟩ := (parse?_of_colon hleft).mp h
    have hspells := (Numeral.read_eq_ok_iff (by decide)).mp htick
    have hname := Key.named?_eq_some_iff.mp hkey
    generalize ht : Text.trim right = signed at hname ⊢
    unfold direction at hname ⊢
    split at hname
    · exact .released rfl hleft (Text.trims_trim left) hspells (Text.trims_iff.mpr ht) hname
    · exact .pressed rfl hleft (Text.trims_trim left) hspells (Text.trims_iff.mpr ht) hname
  · rintro (⟨rfl, hleft, hnumber, htick, hname, hkey⟩ | ⟨rfl, hleft, hnumber, htick, hname, hkey⟩)
    case pressed name tick key =>
      have hdown : direction name = (true, name) := by
        unfold direction
        split
        · exact absurd hkey Key.not_named_minus
        · rfl
      rw [parse?_of_colon hleft, Text.trims_iff.mp hnumber, Text.trims_iff.mp hname, hdown]
      exact ⟨tick, key, (Numeral.read_eq_ok_iff (by decide)).mpr htick,
        Key.named?_eq_some_iff.mpr hkey, rfl⟩
    case released name tick key =>
      rw [parse?_of_colon hleft, Text.trims_iff.mp hnumber, Text.trims_iff.mp hname]
      exact ⟨tick, key, (Numeral.read_eq_ok_iff (by decide)).mpr htick,
        Key.named?_eq_some_iff.mpr hkey, rfl⟩

/-- A sign before the digits counts for nothing, and neither do zeros.  The sign of the key stands
right before its name. -/
example : parse? "+05 : -0X+0f".toList = some ⟨5, 15, false⟩ ∧ parse? "5:- w".toList = none := by
  decide

end KeyEvent

/-! ### Scripts -/

namespace KeyScript

/-- The pieces of a text: what lies between its commas, without the white space around it, and only
where something is left of it. -/
def Pieces (text : List Char) (ps : List (List Char)) : Prop :=
  ∃ ws ts, Text.Cut (· == ',') text ws ∧ List.Forall₂ Text.Trims ws ts ∧ ps = ts.filter (· ≠ [])

/-- `sorted` are the events `es` in the order of their ticks, and those of one tick in the order
that they have among `es`. -/
structure Arranged (es sorted : List KeyEvent) : Prop where
  perm : sorted.Perm es
  ordered : sorted.Pairwise fun a b => a.tick ≤ b.tick
  stable : ∀ t, sorted.filter (·.tick = t) = es.filter (·.tick = t)

variable {text : String} {ps : List (List Char)} {script script' : KeyScript}
  {es sorted : List KeyEvent}

theorem pieces_iff : Pieces text.toList ps ↔ pieces text = ps := by
  have htrims : ∀ {ws ts}, List.Forall₂ Text.Trims ws ts ↔ ws.map Text.trim = ts := by
    intro ws ts
    rw [← List.forall₂_eq_eq_eq, List.forall₂_map_left_iff]
    exact ⟨.imp fun _ _ => Text.trims_iff.mp, .imp fun _ _ => Text.trims_iff.mpr⟩
  rw [pieces, List.splitOn_eq_splitOnP]
  constructor
  · rintro ⟨ws, ts, hcut, hts, rfl⟩
    rw [Text.cut_iff.mp hcut, htrims.mp hts]
  · rintro rfl
    exact ⟨_, _, Text.cut_splitOnP _ _, htrims.mpr rfl, rfl⟩

/-- Two scripts with the same events due at each tick have the same events. -/
theorem events_eq_of_due_eq (h : ∀ t, script.due t = script'.due t) :
    script.events = script'.events := by
  -- nothing is left of either when all their ticks have gone by
  let t := ((script.events ++ script'.events).map (·.tick)).sum + 1
  have hlate : ∀ e ∈ script.events ++ script'.events, ¬ decide (t ≤ e.tick) = true := by
    intro e he
    have hle : e.tick ≤ t - 1 := List.le_sum_of_mem (List.mem_map_of_mem he)
    rw [decide_eq_true_eq]
    omega
  have hleft : script.left t = [] :=
    List.filter_eq_nil_iff.mpr fun e he => hlate e (List.mem_append_left _ he)
  have hleft' : script'.left t = [] :=
    List.filter_eq_nil_iff.mpr fun e he => hlate e (List.mem_append_right _ he)
  rw [← script.flatMap_due_append_left t, ← script'.flatMap_due_append_left t, hleft, hleft',
    List.flatMap_def, List.flatMap_def, List.map_congr_left fun u _ => h u]

theorem arranged_ofEvents (es : List KeyEvent) : Arranged es (ofEvents es).events :=
  ⟨List.mergeSort_perm _ _, (ofEvents es).ordered, due_ofEvents es⟩

/-- **Events are arranged in one way.** -/
theorem arranged_iff : Arranged es sorted ↔ (ofEvents es).events = sorted := by
  refine ⟨fun h => ?_, fun h => h ▸ arranged_ofEvents es⟩
  have hdue : ∀ t, (ofEvents es).due t = (⟨sorted, h.ordered⟩ : KeyScript).due t := fun t =>
    (due_ofEvents es t).trans (h.stable t).symm
  exact events_eq_of_due_eq hdue

theorem readEvent_eq_ok_iff {p : List Char} {e : KeyEvent} :
    readEvent p = .ok e ↔ KeyEvent.Written p e := by
  rw [← KeyEvent.parse?_eq_some_iff, readEvent]
  cases KeyEvent.parse? p <;> simp

theorem readEvent_eq_error_iff {p : List Char} {d : Defect} :
    readEvent p = .error d ↔ d = ⟨p⟩ ∧ ¬ ∃ e, KeyEvent.Written p e := by
  simp only [← KeyEvent.parse?_eq_some_iff, readEvent]
  cases KeyEvent.parse? p <;> simp [eq_comm]

theorem parse_eq_ok_iff : parse text = .ok script ↔
    ∃ es, List.Forall₂ KeyEvent.Written (pieces text) es ∧ Arranged es script.events := by
  have hscript : ∀ es, ofEvents es = script ↔ Arranged es script.events := fun es => by
    rw [arranged_iff]
    exact ⟨congrArg events, fun h => by cases script; cases h; rfl⟩
  have hevents : ∀ es, (pieces text).mapM readEvent = .ok es ↔
      List.Forall₂ KeyEvent.Written (pieces text) es := fun es => by
    simp only [Text.mapM_eq_ok_iff, readEvent_eq_ok_iff]
  simp only [← hscript, ← hevents, parse]
  cases (pieces text).mapM readEvent <;> simp [Except.map]

theorem parse_eq_error_iff {d : Defect} : parse text = .error d ↔
    ∃ before after, pieces text = before ++ d.event :: after ∧
      (∀ p ∈ before, ∃ e, KeyEvent.Written p e) ∧ ¬ ∃ e, KeyEvent.Written d.event e := by
  have herror : parse text = .error d ↔ (pieces text).mapM readEvent = .error d := by
    rw [parse]
    cases (pieces text).mapM readEvent <;> simp [Except.map]
  rw [herror, Text.mapM_eq_error_iff]
  simp only [readEvent_eq_ok_iff, readEvent_eq_error_iff]
  constructor
  · rintro ⟨before, p, after, hps, hbefore, rfl, hp⟩
    exact ⟨before, after, hps, hbefore, hp⟩
  · rintro ⟨before, after, hps, hbefore, hp⟩
    exact ⟨before, d.event, after, hps, hbefore, rfl, hp⟩

/-- A text is read if each of its pieces is written for an event. -/
theorem exists_parse_eq_ok_iff :
    (∃ script, parse text = .ok script) ↔ ∀ p ∈ pieces text, ∃ e, KeyEvent.Written p e := by
  simp only [← readEvent_eq_ok_iff]
  rw [← Text.exists_mapM_eq_ok_iff, parse]
  cases (pieces text).mapM readEvent <;> simp [Except.map]

/-- **A script is read by its grammar.**  A text has one row of pieces.  It is read if each of them
is written for an event, and then as these events, arranged by their ticks.  Otherwise it is refused
with the first piece that is written for none. -/
theorem parse_reads_pieces (text : String) :
    ∃ ps, (∀ qs, Pieces text.toList qs ↔ qs = ps) ∧
      ((∃ script, parse text = .ok script) ↔ ∀ p ∈ ps, ∃ e, KeyEvent.Written p e) ∧
      (∀ script, parse text = .ok script ↔
        ∃ es, List.Forall₂ KeyEvent.Written ps es ∧ Arranged es script.events) ∧
      ∀ d, parse text = .error d ↔
        ∃ before after, ps = before ++ d.event :: after ∧
          (∀ p ∈ before, ∃ e, KeyEvent.Written p e) ∧ ¬ ∃ e, KeyEvent.Written d.event e :=
  ⟨pieces text, fun _ => pieces_iff.trans eq_comm, exists_parse_eq_ok_iff,
    fun _ => parse_eq_ok_iff, fun _ => parse_eq_error_iff⟩

end KeyScript

end ChipEight
