import ChipEight.Proofs.Disassembly
import ChipEight.Proofs.Text.Numeral

/-!
# Proofs — Listing

Nothing is lost when a program is disassembled, except a last byte without a partner.

* `Guarded.disassemble`: the disassembly with every check made on the way.  None fails on a program
  of up to 65536 bytes (`Guarded.disassemble_eq`).
* `disassemble_append`: a program in two parts of whole words is disassembled part by part.
* `readListing`: the program that the lines of a listing tell, by their columns alone.
* `listing_eq_iff`: the listings of two programs are equal when their words are.
-/

namespace ChipEight

/-! ### Checks on the way -/

/-- The words of a program. -/
def words : List UInt8 → List Opcode
  | high :: low :: rest => .ofBytes high low :: words rest
  | _ => []

namespace Guarded

/-- The item of a word from its number in the program.  The number is cut down to sixteen bits, and
twice that has to fit them. -/
def numbered (origin : UInt16) (word : Opcode × Nat) : Except Breach CodeItem := do
  let offset ← product 2 (UInt16.ofNat word.2)
  return ⟨origin + offset, word.1⟩

/-- The disassembly with its checks. -/
def disassemble (program : List UInt8) (origin : UInt16) : Except Breach (List CodeItem) :=
  (words program).zipIdx.mapM (numbered origin)

end Guarded

variable {program a b : List UInt8} {origin : UInt16} {k : Nat}

/-- The address of the next word. -/
theorem add_ofNat_add_two (origin : UInt16) (n : Nat) :
    origin + UInt16.ofNat n + 2 = origin + UInt16.ofNat (n + 2) := by
  rw [UInt16.add_assoc, UInt16.ofNat_add]
  rfl

theorem Guarded.numbered_eq (op : Opcode) (h : 2 * k < 0x10000) :
    numbered origin (op, k) = .ok ⟨origin + UInt16.ofNat (2 * k), op⟩ := by
  have htwo : (2 : UInt16).toNat = 2 := rfl
  have hk : (UInt16.ofNat k).toNat = k := by
    rw [UInt16.toNat_ofNat']
    omega
  have hoffset : product 2 (UInt16.ofNat k) = .ok (UInt16.ofNat (2 * k)) := by
    rw [product_eq (by rwa [htwo, hk]), UInt16.ofNat_mul]
    rfl
  rw [numbered, hoffset]
  rfl

/-- No check fails from the word `k` on, which lies at the address that it is numbered for. -/
theorem Guarded.mapM_numbered (h : 2 * k + program.length ≤ 65536) :
    ((words program).zipIdx k).mapM (numbered origin) =
      .ok (ChipEight.disassemble program (origin + UInt16.ofNat (2 * k))) := by
  fun_induction words program generalizing k with
  | case1 high low rest ih =>
      rw [List.length_cons, List.length_cons] at h
      rw [List.zipIdx_cons, List.mapM_cons, numbered_eq _ (by omega), ih (by omega),
        ChipEight.disassemble, add_ofNat_add_two, Nat.mul_succ]
      rfl
  | case2 program hshort =>
      rcases program with _ | ⟨high, _ | ⟨low, rest⟩⟩
      · rfl
      · rfl
      · exact absurd rfl (hshort high low rest)

/-- **No check fails** on a program of up to 65536 bytes. -/
theorem Guarded.disassemble_eq (h : program.length ≤ 65536) (origin : UInt16) :
    disassemble program origin = .ok (ChipEight.disassemble program origin) := by
  have hstart : 2 * 0 + program.length ≤ 65536 := by rwa [Nat.mul_zero, Nat.zero_add]
  have horigin : origin + UInt16.ofNat (2 * 0) = origin := UInt16.add_zero origin
  rw [disassemble, mapM_numbered hstart, horigin]

/-! ### Items -/

/-- The item of a whole word: its address, its two bytes, and the instruction they stand for. -/
theorem exists_item_disassemble (h : k < program.length / 2) :
    ∃ item high low, (disassemble program origin)[k]? = some item ∧
      program[2 * k]? = some high ∧ program[2 * k + 1]? = some low ∧
      item.address.toNat = (origin.toNat + 2 * k) % 65536 ∧
      item.opcode.word.toNat = 256 * high.toNat + low.toNat ∧
      item.instruction? = Instruction.decode item.opcode := by
  have hk : 2 * k + 1 < program.length := by omega
  refine ⟨_, _, _, getElem?_disassemble hk, List.getElem?_eq_getElem (by omega),
    List.getElem?_eq_getElem hk, ?_, Opcode.toNat_word_ofBytes _ _, rfl⟩
  rw [UInt16.toNat_add, UInt16.toNat_ofNat']
  omega

/-- **A program in two parts of whole words is disassembled part by part.** -/
theorem disassemble_append (h : Even a.length) : disassemble (a ++ b) origin =
    disassemble a origin ++ disassemble b (origin + UInt16.ofNat a.length) := by
  fun_induction disassemble a origin with
  | case1 high low rest origin ih =>
      have hrest : Even rest.length := by
        rw [List.length_cons, List.length_cons] at h
        simpa [Nat.even_add_one] using h
      have hnext : origin + 2 + UInt16.ofNat rest.length =
          origin + UInt16.ofNat (high :: low :: rest).length := by
        rw [UInt16.add_assoc, UInt16.add_comm 2, ← UInt16.add_assoc, add_ofNat_add_two,
          List.length_cons, List.length_cons]
      rw [List.cons_append, List.cons_append, disassemble, ih hrest, hnext, List.cons_append]
  | case2 a origin hshort =>
      rcases a with _ | ⟨high, _ | ⟨low, rest⟩⟩
      · simp
      · simp at h
      · exact absurd rfl (hshort high low rest)

/-- A last byte without a partner does not count. -/
theorem disassemble_take (program : List UInt8) (origin : UInt16) :
    disassemble (program.take (2 * (program.length / 2))) origin = disassemble program origin := by
  have heven : Even (program.take (2 * (program.length / 2))).length := by
    rw [List.length_take, Nat.min_eq_left (by omega)]
    exact even_two_mul _
  have hrest : disassemble (program.drop (2 * (program.length / 2)))
      (origin + UInt16.ofNat (program.take (2 * (program.length / 2))).length) = [] := by
    rw [List.eq_nil_iff_length_eq_zero, length_disassemble, List.length_drop]
    omega
  conv_rhs => rw [← List.take_append_drop (2 * (program.length / 2)) program,
    disassemble_append heven, hrest, List.append_nil]

/-! ### Reading a listing -/

/-- A word in base sixteen. -/
def Numeral.word : Numeral := ⟨16, 0xFFFF⟩

/-- The two bytes of a word, the high one first. -/
def Opcode.bytes (op : Opcode) : List UInt8 := [UInt8.ofNat (op.word.toNat / 256), op.kk]

/-- The word that a line shows.  It stands in the second column, which is four characters wide and
comes after eight others. -/
def CodeItem.readWord (line : String) : Except Numeral.Defect Opcode :=
  (Numeral.word.read ((line.toList.drop 8).take 4)).map fun v => ⟨UInt16.ofNat v⟩

/-- The program whose words some lines show. -/
def readListing (lines : List String) : Except Numeral.Defect (List UInt8) :=
  (lines.mapM CodeItem.readWord).map fun ops => ops.flatMap Opcode.bytes

theorem Opcode.bytes_ofBytes (high low : UInt8) : (ofBytes high low).bytes = [high, low] := by
  have hhigh := high.toNat_lt
  have hlow := low.toNat_lt
  rw [bytes, kk, toNat_word_ofBytes, List.cons.injEq, List.cons.injEq]
  refine ⟨UInt8.toNat_inj.mp ?_, UInt8.toNat_inj.mp ?_, rfl⟩
  · rw [UInt8.toNat_ofNat']
    omega
  · rw [UInt8.toNat_ofNat']
    omega

/-- The columns have the same widths in every line. -/
theorem CodeItem.line_eq (item : CodeItem) : ∃ before after,
    item.line = before ++ item.opcode.text ++ after ∧ before.toList.length = 8 ∧
      item.opcode.text.toList.length = 4 := by
  have hword : ∀ w : UInt16, (Hex.text 4 w.toNat).toList.length = 4 := fun w =>
    Hex.length_text_of_lt (by decide) w.toNat_lt
  refine ⟨Hex.literal 4 item.address.toNat ++ "  ", _, String.append_assoc, ?_, hword _⟩
  simp [Hex.literal, hword]

theorem CodeItem.readWord_line (item : CodeItem) : readWord item.line = .ok item.opcode := by
  obtain ⟨before, after, hline, hbefore, hword⟩ := item.line_eq
  have hread : Numeral.word.read item.opcode.text.toList = .ok item.opcode.word.toNat :=
    (Numeral.read_eq_ok_iff (Nat.le_refl 16)).mpr
      (Numeral.spells_text rfl (Nat.le_of_lt_succ item.opcode.word.toNat_lt) 4)
  rw [readWord, hline, String.toList_append, String.toList_append, List.append_assoc,
    List.drop_left' hbefore, List.take_left' hword, hread, Except.map, UInt16.ofNat_toNat]

theorem CodeItem.mapM_readWord_line (items : List CodeItem) :
    (items.map line).mapM readWord = .ok (items.map (·.opcode)) := by
  induction items with
  | nil => rfl
  | cons item items ih =>
      rw [List.map_cons, List.mapM_cons, readWord_line, ih]
      rfl

theorem flatMap_bytes_disassemble (program : List UInt8) (origin : UInt16) :
    ((disassemble program origin).map (·.opcode)).flatMap Opcode.bytes =
      program.take (2 * (program.length / 2)) := by
  fun_induction disassemble program origin with
  | case1 high low rest origin ih =>
      have hlen : 2 * ((high :: low :: rest).length / 2) = 2 * (rest.length / 2) + 2 := by
        rw [List.length_cons, List.length_cons]
        omega
      rw [List.map_cons, List.flatMap_cons, ih, Opcode.bytes_ofBytes, hlen, List.take_succ_cons,
        List.take_succ_cons, List.cons_append, List.cons_append, List.nil_append]
  | case2 program origin hshort =>
      rcases program with _ | ⟨high, _ | ⟨low, rest⟩⟩
      · rfl
      · simp
      · exact absurd rfl (hshort high low rest)

/-- **A program is read back from its listing**, up to a last byte without a partner. -/
theorem readListing_listing (program : List UInt8) :
    readListing (listing program) = .ok (program.take (2 * (program.length / 2))) := by
  rw [readListing, listing, CodeItem.mapM_readWord_line, Except.map, flatMap_bytes_disassemble]

/-- **Two programs have one listing when they have the same words.** -/
theorem listing_eq_iff : listing a = listing b ↔
    a.take (2 * (a.length / 2)) = b.take (2 * (b.length / 2)) := by
  constructor
  · intro h
    have hread := congrArg readListing h
    rw [readListing_listing, readListing_listing] at hread
    exact Except.ok.inj hread
  · intro h
    rw [listing, listing, ← disassemble_take a, ← disassemble_take b, h]

/-! ### The disassembly as a whole -/

/-- **Nothing is lost in a disassembly.**  On a program of up to 65536 bytes no check fails, there
is one item for each whole word, and each item has the address, the word and the instruction of its
place.  A part of whole words is disassembled on its own.  The listing tells the whole words, and
nothing else of the program. -/
theorem disassemble_loses_nothing (program : List UInt8) (origin : UInt16)
    (h : program.length ≤ 65536) :
    Guarded.disassemble program origin = .ok (disassemble program origin) ∧
    (disassemble program origin).length = program.length / 2 ∧
    (∀ k < program.length / 2, ∃ item high low, (disassemble program origin)[k]? = some item ∧
      program[2 * k]? = some high ∧ program[2 * k + 1]? = some low ∧
      item.address.toNat = (origin.toNat + 2 * k) % 65536 ∧
      item.opcode.word.toNat = 256 * high.toNat + low.toNat ∧
      item.instruction? = Instruction.decode item.opcode) ∧
    (∀ a b, program = a ++ b → Even a.length → disassemble program origin =
      disassemble a origin ++ disassemble b (origin + UInt16.ofNat a.length)) ∧
    readListing (listing program) = .ok (program.take (2 * (program.length / 2))) ∧
    ∀ other : List UInt8, other.length ≤ 65536 → (listing program = listing other ↔
      program.take (2 * (program.length / 2)) = other.take (2 * (other.length / 2))) := by
  refine ⟨Guarded.disassemble_eq h origin, length_disassemble program origin,
    fun k hk => exists_item_disassemble hk, ?_, readListing_listing program,
    fun _ _ => listing_eq_iff⟩
  rintro a b rfl ha
  exact disassemble_append ha

/-- The theorem at three bytes from the last word on: the addresses go on at zero, and another last
byte makes no difference. -/
theorem disassemble_loses_nothing_wrap :
    Guarded.disassemble [0x12, 0x00, 0x8A, 0xB8, 0x77] 0xFFFE =
        .ok [⟨0xFFFE, ⟨0x1200⟩⟩, ⟨0x0000, ⟨0x8AB8⟩⟩] ∧
      listing [0x12, 0x00, 0x8A, 0xB8, 0x77] = listing [0x12, 0x00, 0x8A, 0xB8] := by
  have hlen : ([0x12, 0x00, 0x8A, 0xB8, 0x77] : List UInt8).length ≤ 65536 := by decide
  have hother : ([0x12, 0x00, 0x8A, 0xB8] : List UInt8).length ≤ 65536 := by decide
  obtain ⟨hguarded, -, -, -, -, hlisting⟩ := disassemble_loses_nothing _ 0xFFFE hlen
  exact ⟨hguarded, (hlisting _ hother).mpr rfl⟩

end ChipEight
