import ChipEight.HexListing
import ChipEight.Proofs.Text.Numeral
import ChipEight.Proofs.Text.Pieces

/-!
# Proofs — HexListing

The texts that are listings of bytes, said without the functions that read them.

* `HexListing.Unmarked`: a token without the mark of base sixteen that may stand in front of it.
* `HexListing.Writes`, `HexListing.Misspells`: the tokens of a byte, and what is wrong with the
  others.
* `HexListing.parse_reads_tokens`: a text is read as the bytes of its tokens, or it is refused for
  the first token of no byte.
-/

namespace ChipEight.HexListing

/-! ### Tokens -/

/-- `ds` is what a token holds after its mark, or all of it when there is none.  Only one mark is
taken away. -/
inductive Unmarked : List Char → List Char → Prop where
  | marked {x : Char} {ds : List Char} (hx : x = 'x' ∨ x = 'X') : Unmarked ('0' :: x :: ds) ds
  | bare {ds : List Char} (h : ∀ x rest, ds = '0' :: x :: rest → x ≠ 'x' ∧ x ≠ 'X') :
      Unmarked ds ds

/-- A token is written for a byte: in base sixteen, in either case, with or without the mark, a plus
sign and zeros in front. -/
def Writes (token : List Char) (b : UInt8) : Prop :=
  ∃ ds, Unmarked token ds ∧ Numeral.byte.Spells ds b.toNat

/-- A token is written for no byte, and why. -/
def Misspells (token : List Char) (cause : Numeral.Defect) : Prop :=
  ∃ ds, Unmarked token ds ∧ Numeral.byte.Refuses ds cause

variable {text : String} {token ds : List Char} {b : UInt8} {bytes : List UInt8} {bad : BadByte}

/-- **A mark is taken away in one way.** -/
theorem unmarked_iff : Unmarked token ds ↔ digits token = ds := by
  constructor
  · rintro (⟨rfl | rfl⟩ | ⟨h⟩)
    · rfl
    · rfl
    · unfold digits
      split
      · exact absurd rfl (h _ _ rfl).1
      · exact absurd rfl (h _ _ rfl).2
      · rfl
  · rintro rfl
    unfold digits
    split
    · exact .marked (.inl rfl)
    · exact .marked (.inr rfl)
    · next hlower hupper =>
        refine .bare fun x rest hds => ⟨?_, ?_⟩
        · rintro rfl
          exact hlower rest hds
        · rintro rfl
          exact hupper rest hds

/-- **The tokens that are read are those that are written for a byte.** -/
theorem readByte_eq_ok_iff : readByte token = .ok b ↔ Writes token b := by
  have hbyte : readByte token = .ok b ↔ Numeral.byte.read (digits token) = .ok b.toNat := by
    unfold readByte
    split
    · next v hv =>
        have hlt : v < UInt8.size := Nat.lt_succ_of_le (Numeral.le_of_read hv)
        rw [hv, Except.ok.injEq, Except.ok.injEq, ← UInt8.toNat_inj,
          UInt8.toNat_ofNat_of_lt' hlt]
    · next hv =>
        rw [hv]
        exact iff_of_false nofun nofun
  rw [hbyte, Numeral.read_eq_ok_iff (Nat.le_refl 16)]
  simp only [Writes, unmarked_iff, exists_eq_left']

/-- **A token that is not read is refused for what is wrong with it.** -/
theorem readByte_eq_error_iff :
    readByte token = .error bad ↔ bad.token = token ∧ Misspells token bad.cause := by
  have hbyte : readByte token = .error bad ↔
      bad.token = token ∧ Numeral.byte.read (digits token) = .error bad.cause := by
    obtain ⟨t, cause⟩ := bad
    unfold readByte
    split
    · next hv => simp [hv]
    · next hv => simp [hv, eq_comm]
  rw [hbyte, Numeral.read_eq_error_iff (Nat.le_refl 16)]
  simp only [Misspells, unmarked_iff, exists_eq_left']

/-- One mark is taken away, and a digit that is none comes before a number that is too large. -/
example : readByte "0x0x1".toList = .error ⟨"0x0x1".toList, .invalidDigit⟩ ∧
    readByte "0X".toList = .error ⟨"0X".toList, .empty⟩ ∧
    readByte "10g".toList = .error ⟨"10g".toList, .invalidDigit⟩ ∧
    readByte "100g".toList = .error ⟨"100g".toList, .tooLarge⟩ := by decide

/-! ### Listings -/

theorem parse_eq_ok_iff :
    parse text = .ok bytes ↔ List.Forall₂ Writes (tokens text.toList) bytes := by
  simp only [parse, Text.mapM_eq_ok_iff, readByte_eq_ok_iff]

/-- A text is read if each of its tokens is written for a byte. -/
theorem exists_parse_eq_ok_iff :
    (∃ bytes, parse text = .ok bytes) ↔ ∀ t ∈ tokens text.toList, ∃ b, Writes t b := by
  simp only [← readByte_eq_ok_iff]
  exact Text.exists_mapM_eq_ok_iff

theorem parse_eq_error_iff : parse text = .error bad ↔
    ∃ before after, tokens text.toList = before ++ bad.token :: after ∧
      (∀ t ∈ before, ∃ b, Writes t b) ∧ Misspells bad.token bad.cause := by
  rw [parse, Text.mapM_eq_error_iff]
  simp only [readByte_eq_ok_iff, readByte_eq_error_iff]
  constructor
  · rintro ⟨before, t, after, hts, hbefore, rfl, hbad⟩
    exact ⟨before, after, hts, hbefore, hbad⟩
  · rintro ⟨before, after, hts, hbefore, hbad⟩
    exact ⟨before, bad.token, after, hts, hbefore, rfl, hbad⟩

/-- **A listing is read by its grammar.**  A text has one row of tokens.  It is read if each of them
is written for a byte, and then as these bytes in order.  Otherwise it is refused for the first
token that is written for none.  The message quotes that token in full and says what is wrong with
it. -/
theorem parse_reads_tokens (text : String) :
    ∃ ts, (∀ us, Text.Runs isSeparator text.toList us ↔ us = ts) ∧
      ((∃ bytes, parse text = .ok bytes) ↔ ∀ t ∈ ts, ∃ b, Writes t b) ∧
      (∀ bytes, parse text = .ok bytes ↔ List.Forall₂ Writes ts bytes) ∧
      (∀ bad, parse text = .error bad ↔
        ∃ before after, ts = before ++ bad.token :: after ∧
          (∀ t ∈ before, ∃ b, Writes t b) ∧ Misspells bad.token bad.cause) ∧
      ∀ bad, parse text = .error bad →
        bad.messages = ["invalid byte " ++ Text.quoted bad.token, bad.cause.message] :=
  ⟨tokens text.toList, fun _ => Text.runs_iff.trans eq_comm, exists_parse_eq_ok_iff,
    fun _ => parse_eq_ok_iff, fun _ => parse_eq_error_iff, fun _ _ => rfl⟩

end ChipEight.HexListing
