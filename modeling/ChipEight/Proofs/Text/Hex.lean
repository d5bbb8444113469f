import ChipEight.Text.Hex
import Mathlib.Algebra.Group.Nat.Defs

/-!
# Proofs — Text — Hex

Numerals of base sixteen name one number each.

* `Hex.text_inj`, `Hex.literal_inj`: equal numerals of one width are numerals of one number.
* `Hex.length_text_of_lt`: a number that fits the width has a numeral of just that width.
-/

namespace ChipEight.Hex

/-! ### Digits -/

theorem digit_inj {d e : Nat} (hd : d < 16) (he : e < 16) (h : digit d = digit e) : d = e := by
  have hall : ∀ d e : Fin 16, digit d.val = digit e.val → d = e := by decide
  exact congrArg Fin.val (hall ⟨d, hd⟩ ⟨e, he⟩ h)

/-- The characters of a numeral are the sixteen digits. -/
theorem exists_digit_of_mem_lowDigits {c : Char} {k n : Nat} (h : c ∈ lowDigits k n) :
    ∃ d : Fin 16, c = digit d.val := by
  induction k generalizing n with
  | zero => cases h
  | succ k ih =>
      rcases List.mem_append.mp h with h | h
      · exact ih h
      · exact ⟨⟨n % 16, Nat.mod_lt _ (by decide)⟩, List.mem_singleton.mp h⟩

theorem lowDigits_inj {k n n' : Nat} (h : lowDigits k n = lowDigits k n') :
    n % 16 ^ k = n' % 16 ^ k := by
  induction k generalizing n n' with
  | zero => rw [Nat.pow_zero, Nat.mod_one, Nat.mod_one]
  | succ k ih =>
      obtain ⟨hhigh, hlow⟩ := List.append_inj' h rfl
      have hd : n % 16 = n' % 16 :=
        digit_inj (Nat.mod_lt _ (by decide)) (Nat.mod_lt _ (by decide))
          (List.head_eq_of_cons_eq hlow)
      rw [Nat.pow_succ', Nat.mod_mul, Nat.mod_mul, hd, ih hhigh]

/-! ### Numerals -/

/-- A number has as many digits as it takes. -/
theorem lt_pow_digitCount (n : Nat) : n < 16 ^ digitCount n := by
  calc n < 2 ^ (n.log2 + 1) := Nat.lt_log2_self
    _ ≤ 2 ^ (4 * digitCount n) := Nat.pow_le_pow_right (by decide) (by unfold digitCount; omega)
    _ = 16 ^ digitCount n := Nat.pow_mul 2 4 _

/-- And no more, unless it is to be filled up. -/
theorem digitCount_le {w n : Nat} (hw : 0 < w) (h : n < 16 ^ w) : digitCount n ≤ w := by
  by_cases h0 : n = 0
  · subst h0
    exact hw
  · have hlog : n.log2 < 4 * w := by
      rw [Nat.log2_lt h0, Nat.pow_mul]
      exact h
    unfold digitCount
    omega

theorem digits_inj {w n n' : Nat} (h : digits w n = digits w n') : n = n' := by
  have hl := congrArg List.length h
  rw [length_digits, length_digits] at hl
  have hlt : ∀ m, max w (digitCount n) = max w (digitCount m) → m < 16 ^ max w (digitCount n) :=
    fun m hm => Nat.lt_of_lt_of_le (lt_pow_digitCount m)
      (Nat.pow_le_pow_right (by decide) (hm ▸ Nat.le_max_right _ _))
  unfold digits at h
  rw [← hl] at h
  have hmod := lowDigits_inj h
  rwa [Nat.mod_eq_of_lt (hlt n rfl), Nat.mod_eq_of_lt (hlt n' hl)] at hmod

/-- **A numeral names one number.** -/
theorem text_inj {w n n' : Nat} : text w n = text w n' ↔ n = n' := by
  refine ⟨fun h => digits_inj (w := w) ?_, fun h => h ▸ rfl⟩
  simpa only [text, String.ofList_inj] using h

theorem literal_inj {w n n' : Nat} : literal w n = literal w n' ↔ n = n' := by
  simp only [literal, String.append_right_inj, text_inj]

/-- A number that fits the width is not cut. -/
theorem text_eq_of_lt {w n : Nat} (hw : 0 < w) (h : n < 16 ^ w) :
    text w n = String.ofList (lowDigits w n) := by
  rw [text, digits, Nat.max_eq_left (digitCount_le hw h)]

theorem length_text_of_lt {w n : Nat} (hw : 0 < w) (h : n < 16 ^ w) :
    (text w n).toList.length = w := by
  rw [text_eq_of_lt hw h, String.toList_ofList, length_lowDigits]

end ChipEight.Hex
