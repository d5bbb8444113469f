import ChipEight.Proofs.Text.Hex
import ChipEight.Text.Numeral
import Mathlib.Data.List.Forall2
import Mathlib.Data.Nat.Digits.Defs

/-!
# Proofs — Text — Numeral

Which texts are numerals of a kind, and what is wrong with those that are not.

* `Numeral.IsDigit`, `Numeral.Row`: the digits of a base, and the number that a row of them makes.
* `Numeral.Spells`: the texts that are numerals.  They are the ones that are read
  (`Numeral.read_eq_ok_iff`).
* `Numeral.Refuses`: the other texts, with what is met first in them from the left.  Each is refused
  for that (`Numeral.read_eq_error_iff`).
* `Numeral.spells_text`: the numerals of base sixteen that are shown are among those that are read.
-/

namespace ChipEight.Numeral

/-- A character is a digit of the base and has a value.  Letters stand for ten to fifteen, in either
case. -/
def IsDigit (f : Numeral) (c : Char) (d : Nat) : Prop :=
  d < f.base ∧ (c = d.digitChar ∨ c = d.digitChar.toUpper)

/-- Digits that are written after a number `v` make the number `w` of it. -/
def Row (f : Numeral) (v : Nat) (cs : List Char) (w : Nat) : Prop :=
  ∃ ds, List.Forall₂ f.IsDigit cs ds ∧ Nat.ofDigits f.base (v :: ds).reverse = w

/-- A text without the plus sign that may stand in front of it. -/
def unsigned : List Char → List Char
  | '+' :: cs => cs
  | cs => cs

/-- A text is a numeral: after an optional plus sign there are one or more digits, and their number
is admitted. -/
structure Spells (f : Numeral) (cs : List Char) (v : Nat) : Prop where
  ne_nil : unsigned cs ≠ []
  row : f.Row 0 (unsigned cs) v
  le : v ≤ f.limit

/-- What digits that are written after a number meet first: a character that is none, or a digit
that makes the number too large. -/
inductive Stumbles (f : Numeral) (v : Nat) (cs : List Char) : Defect → Prop where
  | digit {ds rest : List Char} {c : Char} {w : Nat} (hcs : cs = ds ++ c :: rest)
      (hrow : f.Row v ds w) (hw : w ≤ f.limit) (hc : ∀ d, ¬ f.IsDigit c d) :
      Stumbles f v cs .invalidDigit
  | large {ds rest : List Char} {w : Nat} (hcs : cs = ds ++ rest) (hrow : f.Row v ds w)
      (hw : f.limit < w) : Stumbles f v cs .tooLarge

/-- A text is no numeral, and why. -/
inductive Refuses (f : Numeral) : List Char → Defect → Prop where
  | empty : Refuses f [] .empty
  /-- A sign without anything after it. -/
  | sign : Refuses f ['+'] .invalidDigit
  | stumbles {cs : List Char} {e : Defect} (h : f.Stumbles 0 (unsigned cs) e) : Refuses f cs e

variable {f : Numeral} {v w d : Nat} {c : Char} {cs ds : List Char} {e : Defect}

/-! ### Digits -/

/-- Nothing past the letter `f` is a digit. -/
theorem toNat_lt_of_digitValue? (h : digitValue? c = some d) : c.toNat < 103 := by
  have hle : ∀ {b : Char}, c ≤ b → c.toNat ≤ b.toNat := UInt32.le_iff_toNat_le.mp
  unfold digitValue? at h
  split at h
  · next hc => exact Nat.lt_of_le_of_lt (hle hc.2) (by decide)
  split at h
  · next hc => exact Nat.lt_of_le_of_lt (hle hc.2) (by decide)
  split at h
  · next hc => exact Nat.lt_of_le_of_lt (hle hc.2) (by decide)
  · cases h

theorem digitValue?_eq_some_iff :
    digitValue? c = some d ↔ d < 16 ∧ (c = d.digitChar ∨ c = d.digitChar.toUpper) := by
  constructor
  · intro h
    have hall : ∀ n : Fin 103, ∀ d ∈ digitValue? (Char.ofNat n.val),
        d < 16 ∧ (Char.ofNat n.val = d.digitChar ∨ Char.ofNat n.val = d.digitChar.toUpper) := by
      decide
    have hc := hall ⟨c.toNat, toNat_lt_of_digitValue? h⟩ d
    rw [Char.ofNat_toNat] at hc
    exact hc h
  · have hall : ∀ d : Fin 16, digitValue? d.val.digitChar = some d.val ∧
        digitValue? d.val.digitChar.toUpper = some d.val := by decide
    rintro ⟨hlt, rfl | rfl⟩
    · exact (hall ⟨d, hlt⟩).1
    · exact (hall ⟨d, hlt⟩).2

theorem digit?_eq_some_iff (hf : f.base ≤ 16) : f.digit? c = some d ↔ f.IsDigit c d := by
  rw [digit?, Option.filter_eq_some_iff, digitValue?_eq_some_iff, decide_eq_true_eq, IsDigit]
  constructor
  · rintro ⟨⟨-, hc⟩, hlt⟩
    exact ⟨hlt, hc⟩
  · rintro ⟨hlt, hc⟩
    exact ⟨⟨Nat.lt_of_lt_of_le hlt hf, hc⟩, hlt⟩

theorem digit?_eq_none_iff (hf : f.base ≤ 16) : f.digit? c = none ↔ ∀ d, ¬ f.IsDigit c d := by
  rw [Option.eq_none_iff_forall_not_mem]
  exact forall_congr' fun d => not_congr (digit?_eq_some_iff hf)

/-! ### Rows of digits -/

@[simp] theorem row_nil : f.Row v [] w ↔ v = w := by
  simp [Row, List.forall₂_nil_left_iff]

/-- The first digit of a row goes to the number before it. -/
theorem row_cons : f.Row v (c :: cs) w ↔ ∃ d, f.IsDigit c d ∧ f.Row (f.base * v + d) cs w := by
  have hdigits : ∀ d ds, Nat.ofDigits f.base (v :: d :: ds).reverse =
      Nat.ofDigits f.base ((f.base * v + d) :: ds).reverse := by
    intro d ds
    rw [List.reverse_cons, List.reverse_cons, List.append_assoc, List.singleton_append,
      List.reverse_cons, Nat.ofDigits_append, Nat.ofDigits_append, Nat.ofDigits_cons,
      Nat.ofDigits_singleton, Nat.ofDigits_singleton, Nat.add_comm d]
  constructor
  · rintro ⟨_, hds, rfl⟩
    cases hds with
    | cons hd hds => exact ⟨_, hd, _, hds, (hdigits ..).symm⟩
  · rintro ⟨d, hd, ds, hds, rfl⟩
    exact ⟨d :: ds, .cons hd hds, hdigits ..⟩

/-- The last digit of a row is worth its value, and the ones before it are worth the base times as
much. -/
theorem row_concat : f.Row v (cs ++ [c]) w ↔ ∃ u d, f.Row v cs u ∧ f.IsDigit c d ∧
    f.base * u + d = w := by
  induction cs generalizing v with
  | nil => simp [row_cons]
  | cons a cs ih =>
      simp only [List.cons_append, row_cons, ih]
      constructor
      · rintro ⟨d, hd, u, d', hu, hd', rfl⟩
        exact ⟨u, d', ⟨d, hd, hu⟩, hd', rfl⟩
      · rintro ⟨u, d', ⟨d, hd, hu⟩, hd', rfl⟩
        exact ⟨d, hd, u, d', hu, hd', rfl⟩

/-- Digits never make a number smaller. -/
theorem Row.le (h : f.Row v cs w) : v ≤ w := by
  induction cs generalizing v with
  | nil => exact Nat.le_of_eq (row_nil.mp h)
  | cons c cs ih =>
      obtain ⟨d, hd, hcs⟩ := row_cons.mp h
      have hpos : 0 < f.base := Nat.lt_of_le_of_lt (Nat.zero_le d) hd.1
      calc v ≤ f.base * v := Nat.le_mul_of_pos_left v hpos
        _ ≤ f.base * v + d := Nat.le_add_right _ _
        _ ≤ w := ih hcs

/-! ### Reading -/

/-- A digit goes to the number before it. -/
theorem readFrom_cons_of_le (hf : f.base ≤ 16) (hd : f.IsDigit c d)
    (hle : f.base * v + d ≤ f.limit) :
    f.readFrom v (c :: cs) = f.readFrom (f.base * v + d) cs := by
  have hextend : f.extend v c = .ok (f.base * v + d) := by
    rw [extend, (digit?_eq_some_iff hf).mpr hd]
    exact if_pos hle
  rw [readFrom, hextend]

theorem readFrom_cons_of_not_le (hf : f.base ≤ 16) (hd : f.IsDigit c d)
    (hle : ¬ f.base * v + d ≤ f.limit) : f.readFrom v (c :: cs) = .error .tooLarge := by
  have hextend : f.extend v c = .error .tooLarge := by
    rw [extend, (digit?_eq_some_iff hf).mpr hd]
    exact if_neg hle
  rw [readFrom, hextend]

theorem readFrom_cons_of_not_isDigit (hf : f.base ≤ 16) (hc : ∀ d, ¬ f.IsDigit c d) :
    f.readFrom v (c :: cs) = .error .invalidDigit := by
  have hextend : f.extend v c = .error .invalidDigit := by
    rw [extend, (digit?_eq_none_iff hf).mpr hc]
  rw [readFrom, hextend]

/-- A row of digits goes to the number before it, if what it makes of that is admitted. -/
theorem readFrom_append (hf : f.base ≤ 16) (hrow : f.Row v ds w) (hw : w ≤ f.limit)
    (cs : List Char) : f.readFrom v (ds ++ cs) = f.readFrom w cs := by
  induction ds generalizing v with
  | nil => rw [List.nil_append, row_nil.mp hrow]
  | cons a ds ih =>
      obtain ⟨d, hd, hds⟩ := row_cons.mp hrow
      rw [List.cons_append, readFrom_cons_of_le hf hd (hds.le.trans hw), ih hds]

theorem row_of_readFrom (hf : f.base ≤ 16) (h : f.readFrom v cs = .ok w) : f.Row v cs w := by
  induction cs generalizing v with
  | nil => exact row_nil.mpr (Except.ok.inj h)
  | cons c cs ih =>
      by_cases hc : ∃ d, f.IsDigit c d
      · obtain ⟨d, hd⟩ := hc
        by_cases hle : f.base * v + d ≤ f.limit
        · rw [readFrom_cons_of_le hf hd hle] at h
          exact row_cons.mpr ⟨d, hd, ih h⟩
        · rw [readFrom_cons_of_not_le hf hd hle] at h
          cases h
      · rw [readFrom_cons_of_not_isDigit hf (not_exists.mp hc)] at h
        cases h

/-- A row of digits is read as its number, if that is admitted. -/
theorem readFrom_eq_ok_iff (hf : f.base ≤ 16) (hv : v ≤ f.limit) :
    f.readFrom v cs = .ok w ↔ f.Row v cs w ∧ w ≤ f.limit := by
  refine ⟨fun h => ⟨row_of_readFrom hf h, le_of_readFrom hv h⟩, fun ⟨hrow, hw⟩ => ?_⟩
  have hread := readFrom_append hf hrow hw []
  rwa [List.append_nil] at hread

/-! ### Refusing -/

theorem Stumbles.cons (hd : f.IsDigit c d) (h : f.Stumbles (f.base * v + d) cs e) :
    f.Stumbles v (c :: cs) e := by
  cases h with
  | digit hcs hrow hw hno =>
      exact .digit (congrArg (c :: ·) hcs) (row_cons.mpr ⟨d, hd, hrow⟩) hw hno
  | large hcs hrow hw =>
      exact .large (congrArg (c :: ·) hcs) (row_cons.mpr ⟨d, hd, hrow⟩) hw

theorem stumbles_of_readFrom (hf : f.base ≤ 16) (hv : v ≤ f.limit)
    (h : f.readFrom v cs = .error e) : f.Stumbles v cs e := by
  induction cs generalizing v with
  | nil => cases h
  | cons c cs ih =>
      by_cases hc : ∃ d, f.IsDigit c d
      · obtain ⟨d, hd⟩ := hc
        by_cases hle : f.base * v + d ≤ f.limit
        · rw [readFrom_cons_of_le hf hd hle] at h
          exact (ih hle h).cons hd
        · rw [readFrom_cons_of_not_le hf hd hle] at h
          cases h
          have hrow : f.Row v [c] (f.base * v + d) := row_cons.mpr ⟨d, hd, row_nil.mpr rfl⟩
          exact .large List.singleton_append.symm hrow (Nat.lt_of_not_le hle)
      · have hno := not_exists.mp hc
        rw [readFrom_cons_of_not_isDigit hf hno] at h
        cases h
        exact .digit (List.nil_append _).symm (row_nil.mpr rfl) hv hno

/-- A row of digits that makes too large a number is not read to its end. -/
theorem readFrom_of_row_of_lt (hf : f.base ≤ 16) (hv : v ≤ f.limit) (hrow : f.Row v ds w)
    (hw : f.limit < w) (cs : List Char) : f.readFrom v (ds ++ cs) = .error .tooLarge := by
  induction ds generalizing v with
  | nil => exact absurd hv (Nat.not_le_of_lt (row_nil.mp hrow ▸ hw))
  | cons a ds ih =>
      obtain ⟨d, hd, hds⟩ := row_cons.mp hrow
      rw [List.cons_append]
      by_cases hle : f.base * v + d ≤ f.limit
      · rw [readFrom_cons_of_le hf hd hle]
        exact ih hle hds
      · exact readFrom_cons_of_not_le hf hd hle

/-- What is not read is refused for what it meets first. -/
theorem readFrom_eq_error_iff (hf : f.base ≤ 16) (hv : v ≤ f.limit) :
    f.readFrom v cs = .error e ↔ f.Stumbles v cs e := by
  refine ⟨stumbles_of_readFrom hf hv, ?_⟩
  rintro (⟨rfl, hrow, hw, hno⟩ | ⟨rfl, hrow, hw⟩)
  · rw [readFrom_append hf hrow hw, readFrom_cons_of_not_isDigit hf hno]
  · exact readFrom_of_row_of_lt hf hv hrow hw _

/-! ### Numerals -/

theorem read_of_unsigned_ne_nil (h : unsigned cs ≠ []) :
    f.read cs = f.readFrom 0 (unsigned cs) := by
  unfold read
  split
  · exact absurd rfl h
  · exact absurd rfl h
  · rfl
  · next hplus =>
      have hbare : unsigned cs = cs := by
        unfold unsigned
        split
        · exact absurd rfl (hplus _)
        · rfl
      rw [hbare]

theorem unsigned_eq_nil_iff : unsigned cs = [] ↔ cs = [] ∨ cs = ['+'] := by
  unfold unsigned
  split
  · simp
  · next hplus =>
      refine ⟨.inl, ?_⟩
      rintro (rfl | rfl)
      · rfl
      · exact absurd rfl (hplus [])

/-- **The texts that are read are the numerals.** -/
theorem read_eq_ok_iff (hf : f.base ≤ 16) : f.read cs = .ok v ↔ f.Spells cs v := by
  by_cases h : unsigned cs = []
  · refine iff_of_false (fun hread => ?_) fun hs => hs.ne_nil h
    rcases unsigned_eq_nil_iff.mp h with rfl | rfl <;> cases hread
  · rw [read_of_unsigned_ne_nil h, readFrom_eq_ok_iff hf (Nat.zero_le _)]
    exact ⟨fun ⟨hrow, hle⟩ => ⟨h, hrow, hle⟩, fun hs => ⟨hs.row, hs.le⟩⟩

/-- **A text that is not read is refused for what comes first in it.** -/
theorem read_eq_error_iff (hf : f.base ≤ 16) : f.read cs = .error e ↔ f.Refuses cs e := by
  -- a text without digits meets nothing
  have hnil : ∀ {e}, ¬ f.Stumbles 0 [] e := by
    rintro e (⟨hcs, -⟩ | ⟨hcs, hrow, hw⟩)
    · exact absurd hcs.symm (List.append_ne_nil_of_right_ne_nil _ (List.cons_ne_nil _ _))
    · obtain ⟨rfl, -⟩ := List.append_eq_nil_iff.mp hcs.symm
      rw [← row_nil.mp hrow] at hw
      exact Nat.not_lt_zero _ hw
  by_cases h : unsigned cs = []
  · constructor
    · intro hread
      rcases unsigned_eq_nil_iff.mp h with rfl | rfl <;> cases hread
      · exact .empty
      · exact .sign
    · rintro (_ | _ | hs)
      · rfl
      · rfl
      · exact absurd (h ▸ hs) hnil
  · rw [read_of_unsigned_ne_nil h, readFrom_eq_error_iff hf (Nat.zero_le _)]
    refine ⟨.stumbles, ?_⟩
    rintro (_ | _ | hs)
    · exact absurd rfl h
    · exact absurd rfl h
    · exact hs

/-! ### Numerals that are shown -/

theorem isDigit_digit (hf : f.base = 16) (hd : d < 16) : f.IsDigit (Hex.digit d) d := by
  have hall : ∀ d : Fin 16, Hex.digit d.val = d.val.digitChar.toUpper := by decide
  exact ⟨hf ▸ hd, .inr (hall ⟨d, hd⟩)⟩

theorem row_lowDigits (hf : f.base = 16) (k n : Nat) :
    f.Row 0 (Hex.lowDigits k n) (n % 16 ^ k) := by
  induction k generalizing n with
  | zero => rw [Nat.pow_zero, Nat.mod_one]; exact row_nil.mpr rfl
  | succ k ih =>
      refine row_concat.mpr ⟨_, _, ih (n / 16), isDigit_digit hf (Nat.mod_lt n (by decide)), ?_⟩
      rw [hf, Nat.pow_succ', Nat.mod_mul, Nat.add_comm]

/-- No sign stands in front of digits. -/
theorem unsigned_lowDigits (k n : Nat) : unsigned (Hex.lowDigits k n) = Hex.lowDigits k n := by
  have hplus : ∀ d : Fin 16, '+' ≠ Hex.digit d.val := by decide
  unfold unsigned
  split
  · next hcs =>
      obtain ⟨d, hd⟩ := Hex.exists_digit_of_mem_lowDigits (hcs ▸ List.mem_cons_self)
      exact absurd hd (hplus d)
  · rfl

/-- **What is shown of a number is a numeral of it**, whatever width it is filled up to. -/
theorem spells_text {n : Nat} (hf : f.base = 16) (hn : n ≤ f.limit) (w : Nat) :
    f.Spells (Hex.text w n).toList n := by
  have hcount : Hex.digitCount n ≤ max w (Hex.digitCount n) := Nat.le_max_right _ _
  have hpos : 0 < max w (Hex.digitCount n) := Nat.lt_of_lt_of_le (Nat.succ_pos _) hcount
  have hlt : n < 16 ^ max w (Hex.digitCount n) :=
    Nat.lt_of_lt_of_le (Hex.lt_pow_digitCount n) (Nat.pow_le_pow_right (by decide) hcount)
  rw [Hex.text, Hex.digits, String.toList_ofList]
  refine ⟨?_, ?_, hn⟩
  · rw [unsigned_lowDigits]
    exact List.ne_nil_of_length_pos (by rwa [Hex.length_lowDigits])
  · have hrow := row_lowDigits hf (max w (Hex.digitCount n)) n
    rwa [Nat.mod_eq_of_lt hlt, ← unsigned_lowDigits] at hrow

end ChipEight.Numeral
