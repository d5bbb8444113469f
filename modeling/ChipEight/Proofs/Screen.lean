import ChipEight.Proofs.Effects
import ChipEight.Proofs.Keys.Held

/-!
# Proofs — Screen

A screen that is drawn anew only when a tick says so.  A machine offers its frame right after a tick
that cleared it or drew into it, and at no other time.  A screen that takes each frame on offer, and
otherwise stays as it is, always shows the frame of the machine.

* `Instruction.Draws`: the instructions that change the frame.
* `Machine.tick_draws_or_keeps`: a tick offers a frame, or it leaves the frame as it was.
* `Machine.watch`: what a screen shows after some actions.
* `Session.shown`: the frames that a session writes as its ticks go by.
* `Machine.watch_blank_of_load`: the screen is never stale, and a session ends with the frame that
  it wrote last.
-/

namespace ChipEight

/-- An instruction changes the frame. -/
inductive Instruction.Draws : Instruction → Prop where
  | cls : Draws .cls
  | draw (x y : Register) (height : Fin 16) : Draws (.draw x y height)

namespace Machine

variable {m m' : Machine} {ins : Instruction}

/-! ### One tick -/

theorem drawn_drawSprite {x y : Register} {height : Fin 16}
    (h : m.drawSprite x y height = .done m') : m'.drawn = true := by
  simp only [drawSprite] at h
  split at h
  · obtain rfl := Outcome.done_inj.mp h
    rfl
  · exact absurd h Outcome.failed_ne_done

/-- An instruction draws and says so, or it leaves the frame and what was said. -/
theorem execute_draws_or_keeps (h : m.execute ins = .done m') :
    (ins.Draws ∧ m'.drawn = true) ∨
      (¬ ins.Draws ∧ m'.drawn = m.drawn ∧ m'.frame = m.frame) := by
  cases ins
  case cls =>
    obtain rfl := Outcome.done_inj.mp h
    exact .inl ⟨.cls, rfl⟩
  case draw x y height => exact .inl ⟨.draw x y height, drawn_drawSprite h⟩
  -- the others do not draw
  all_goals refine .inr ⟨nofun, ?_⟩
  case ret | call | decimal | store | load =>
    simp only [execute, ret, call, writeBlock, readBlock] at h
    split at h
    · obtain rfl := Outcome.done_inj.mp h
      exact ⟨rfl, rfl⟩
    · exact absurd h Outcome.failed_ne_done
  case awaitKey x =>
    obtain rfl := Outcome.done_inj.mp h
    unfold awaitKey
    split <;> exact ⟨rfl, rfl⟩
  all_goals
    obtain rfl := Outcome.done_inj.mp h
    exact ⟨rfl, rfl⟩

/-- **A tick draws and says so, or it leaves the frame as it was.**  It draws if it executes an
instruction that does; a tick that fails, waits or resumes leaves the frame. -/
theorem tick_draws_or_keeps (m : Machine) :
    (m.tick.machine.freshFrame = some m.tick.machine.frame ∧
      ∃ ins, m.tick.result = .ok (.executed ins) ∧ ins.Draws) ∨
    (m.tick.machine.freshFrame = none ∧ m.tick.machine.frame = m.frame ∧
      ∀ ins, m.tick.result = .ok (.executed ins) → ¬ ins.Draws) := by
  generalize ht : m.tick = o
  cases tick_eq_iff.mp ht with
  | waited | resumed | stuck => exact .inr ⟨rfl, rfl, nofun⟩
  | failed _ _ he => cases execute_eq_failed_iff.mp he <;> exact .inr ⟨rfl, rfl, nofun⟩
  | @executed ins m' _ _ he =>
      rcases execute_draws_or_keeps he with ⟨hdraws, hd⟩ | ⟨hkeeps, hd, hf⟩
      · exact .inl ⟨if_pos hd, ins, rfl, hdraws⟩
      · refine .inr ⟨if_neg (by simp [hd, begun]), hf, ?_⟩
        rintro _ ⟨⟩
        exact hkeeps

/-- A frame is on offer after a tick exactly if the tick drew. -/
theorem isSome_freshFrame_tick_iff (m : Machine) :
    m.tick.machine.freshFrame.isSome ↔
      ∃ ins, m.tick.result = .ok (.executed ins) ∧ ins.Draws := by
  rcases m.tick_draws_or_keeps with ⟨hf, hdraws⟩ | ⟨hf, -, hkeeps⟩
  · simp only [hf, Option.isSome_some, true_iff]
    exact hdraws
  · simp only [hf, Option.isSome_none, Bool.false_eq_true, false_iff]
    rintro ⟨ins, hr, hd⟩
    exact hkeeps ins hr hd

/-- A screen that shows the frame before a tick shows it after the tick too. -/
theorem getD_freshFrame_tick (m : Machine) :
    m.tick.machine.freshFrame.getD m.frame = m.tick.machine.frame := by
  rcases m.tick_draws_or_keeps with ⟨hf, -⟩ | ⟨hf, hkeeps, -⟩
  · rw [hf, Option.getD_some]
  · rw [hf, Option.getD_none, hkeeps]

/-! ### A screen over time -/

/-- What a screen shows after some actions, if it takes the frames that ticks offer. -/
def watch (m : Machine) (screen : Frame) : List Action → Frame
  | [] => screen
  | .tick :: as => m.tick.machine.watch (m.tick.machine.freshFrame.getD screen) as
  | .press key :: as => (m.press key).watch screen as
  | .release key :: as => (m.release key).watch screen as

/-- A screen that shows the frame at first always shows it. -/
theorem watch_frame (m : Machine) (as : List Action) :
    m.watch m.frame as = (m.after as).frame := by
  induction as generalizing m with
  | nil => rfl
  | cons a as ih =>
      cases a with
      | tick => rw [watch, getD_freshFrame_tick, ih, after_cons, act]
      | press key => exact ih (m.press key)
      | release key => exact ih (m.release key)

end Machine

namespace Session

/-! ### The frames of a session -/

/-- The lines that show a frame under its tick. -/
def under (p : Nat × Frame) : List String := ("tick " ++ p.1.repr) :: p.2.lines

section

variable (m : Machine) (script : KeyScript) (t : Nat)

/-- The frames on offer after the first `t` ticks, with their ticks. -/
def shown : List (Nat × Frame) :=
  (List.range t).filterMap fun u => (m.after (script.actions (u + 1))).freshFrame.map (u, ·)

theorem shown_succ :
    shown m script (t + 1) =
      shown m script t ++ ((finds m script t).tick.machine.freshFrame.map (t, ·)).toList := by
  rw [shown, List.range_succ, List.filterMap_append, ← shown, ← after_actions_succ]
  rfl

/-- What the ticks of a session write is the frames on offer, each under its tick. -/
theorem pictures_eq_flatMap_shown :
    pictures m script true t = (shown m script t).flatMap under := by
  induction t with
  | zero => rfl
  | succ t ih =>
      rw [pictures_succ, shown_succ, List.flatMap_append, ih, picture]
      cases (finds m script t).tick.machine.freshFrame with
      | none => rfl
      | some f =>
          rw [Option.map_some, Option.toList_some, List.flatMap_singleton]
          rfl

/-- The frame after some ticks is the last that was on offer. -/
theorem getLast?_shown :
    ((shown m script t).getLast?.map Prod.snd).getD m.frame =
      (m.after (script.actions t)).frame := by
  induction t with
  | zero => rfl
  | succ t ih =>
      have hfinds : (finds m script t).frame = (m.after (script.actions t)).frame := by
        rw [finds_eq]
      rw [after_actions_succ, ← Machine.getD_freshFrame_tick, hfinds, ← ih, shown_succ]
      cases (finds m script t).tick.machine.freshFrame with
      | none => rw [Option.map_none, Option.toList_none, List.append_nil, Option.getD_none]
      | some f => simp

end

/-- A session that no tick halts writes the frames that were on offer, and the last of them once
more. -/
theorem output_of_run {m : Machine} {script : KeyScript} {ticks : Nat} {log : Log} {s : Session}
    (h : run m script ticks true log = (s, none)) :
    s.output.toList = (shown m script ticks).flatMap under ++
      "final frame" :: (((shown m script ticks).getLast?.map Prod.snd).getD m.frame).lines := by
  have hgoes := goes_run m script ticks true log
  rw [h] at hgoes
  cases hgoes with
  | completed => rw [getLast?_shown, ← pictures_eq_flatMap_shown]

end Session

namespace Machine

/-- **A screen that is drawn only when a tick says so is never stale.**  Load a program that fits,
and take a screen with nothing lit.  Whatever ticks and keys follow, the screen shows the frame of
the machine; a tick offers a frame exactly if it executed an instruction that draws; and a session
with frames that no tick halts ends with the frame that it wrote last, or with a blank one if it
wrote none. -/
theorem watch_blank_of_load (program : List UInt8) (random : ByteStream)
    (hfit : program.length ≤ 3584) :
    ∃ m, load program random = .ok m ∧
      (∀ as, m.watch .blank as = (m.after as).frame) ∧
      (∀ as, (m.after as).tick.machine.freshFrame.isSome ↔
        ∃ ins, (m.after as).tick.result = .ok (.executed ins) ∧ ins.Draws) ∧
      ∀ script ticks log s, Session.run m script ticks true log = (s, none) →
        s.output.toList = (Session.shown m script ticks).flatMap Session.under ++
          "final frame" ::
            (((Session.shown m script ticks).getLast?.map Prod.snd).getD .blank).lines := by
  obtain ⟨m, hm, hblank⟩ : ∃ m, load program random = .ok m ∧ m.frame = .blank :=
    ⟨_, load_of_fits hfit random, rfl⟩
  refine ⟨m, hm, ?_, ?_, ?_⟩
  · intro as
    rw [← hblank, watch_frame]
  · intro as
    exact isSome_freshFrame_tick_iff (m.after as)
  · intro script ticks log s hs
    rw [← hblank, Session.output_of_run hs]

/-- The theorem at a program that draws its own first byte, and a session that writes this frame
once when it is drawn and once at the end. -/
theorem watch_blank_of_load_ownByte :
    ∃ (m : Machine) (s : Session) (f : Frame),
      load [0xA2, 0x00, 0xD0, 0x01] (.cycle #[]) = .ok m ∧ f.lit ⟨0, 0⟩ = true ∧
      m.watch .blank [.tick] = .blank ∧ m.watch .blank [.tick, .tick] = f ∧
      m.tick.machine.tick.machine.freshFrame.isSome = true ∧
      Session.run m .empty 2 true (.listening none) = (s, none) ∧
      s.output.toList = ("tick 1" :: f.lines) ++ "final frame" :: f.lines := by
  have hfit : ([0xA2, 0x00, 0xD0, 0x01] : List UInt8).length ≤ 3584 := by decide
  obtain ⟨m, hl, hwatch, hfresh, hrun⟩ := watch_blank_of_load _ (.cycle #[]) hfit
  obtain ⟨hp, hr, hblank, hw, hw', hbyte⟩ : m.parked = none ∧ m.registers = .startingAt 0x200 ∧
      m.frame = .blank ∧ m.memory.wordAt 0x200 = ⟨0xA200⟩ ∧ m.memory.wordAt 0x202 = ⟨0xD001⟩ ∧
      m.memory.byteAt 0x200 = 0xA2 := by
    obtain rfl := Except.ok.inj (hl.symm.trans (load_of_fits hfit _))
    exact ⟨rfl, rfl, rfl, Memory.wordAt_overlay _ (k := 0) (by decide) (by decide),
      Memory.wordAt_overlay _ (k := 2) (by decide) (by decide),
      (Memory.byteAt_overlay ..).trans (if_pos (by decide))⟩
  -- the first tick points the index at the first byte
  have hd : Instruction.decode m.word = some (.loadIndex 0x200) := by
    rw [word, hr, show (Registers.startingAt 0x200).pc.toNat = 0x200 from rfl, hw]
    decide
  obtain ⟨n, hn, hok, hp, hr, hm, hf, hdrawn⟩ : ∃ n, m.tick.machine = n ∧
      m.tick.result = .ok (.executed (.loadIndex 0x200)) ∧ n.parked = none ∧
      n.registers = { Registers.startingAt 0x202 with index := 0x200 } ∧
      n.memory = m.memory ∧ n.frame = .blank ∧ n.drawn = false := by
    rw [tick_eq_executed hp (by rw [hr]; decide) hd rfl]
    exact ⟨_, rfl, rfl, hp, by simp only [pointTo, begun, hr]; rfl, rfl, hblank, rfl⟩
  -- and the second one draws it
  have hd' : Instruction.decode n.word = some (.draw 0 0 1) := by
    rw [word, hr, hm, show (Registers.startingAt 0x202).pc.toNat = 0x202 from rfl, hw']
    decide
  have hread : n.memory.read 0x200 1 = .ok [0xA2] := by
    rw [Memory.read, if_pos (by decide), ← hbyte, ← hm]
    rfl
  obtain ⟨n', he, hdrawn', hf'⟩ : ∃ n', n.begun.execute (.draw 0 0 1) = .done n' ∧
      n'.drawn = true ∧ n'.frame = (Frame.blank.draw 0 0 [0xA2]).1 := by
    have hread' : (n.begun.put Registers.flag 0).memory.read
        (n.begun.put Registers.flag 0).registers.index (1 : Fin 16).val = .ok [0xA2] := by
      rw [← hread]
      simp only [put, begun, hr]
      rfl
    simp only [execute, drawSprite, hread', Outcome.done_inj, exists_eq_left']
    refine ⟨rfl, ?_⟩
    simp only [put, begun, hr, hf]
    rfl
  have ht := tick_eq_executed hp (by rw [hr]; decide) hd' he
  have hnone : n.freshFrame = none := if_neg (by simp [hdrawn])
  have hsome : n.tick.machine.freshFrame = some (Frame.blank.draw 0 0 [0xA2]).1 := by
    rw [ht, ← hf']
    exact if_pos hdrawn'
  -- a session without keys is these two ticks
  have hfirst : Session.finds m .empty 0 = m := rfl
  have hsecond : Session.finds m .empty 1 = n := hn
  have hshown : Session.shown m .empty 2 = [(1, (Frame.blank.draw 0 0 [0xA2]).1)] := by
    rw [Session.shown_succ, Session.shown_succ, hfirst, hsecond, hn, hnone, hsome]
    rfl
  have hs : Session.run m .empty 2 true (.listening none) = (_, none) :=
    (Session.goes_run ..).unique <| .completed <| by
      intro t hlt
      obtain rfl | rfl : t = 0 ∨ t = 1 := by omega
      · exact ⟨_, hfirst.symm ▸ hok⟩
      · exact ⟨_, by rw [hsecond, ht]⟩
  have hout := hrun _ _ _ _ hs
  rw [hshown, List.flatMap_singleton] at hout
  refine ⟨m, _, (Frame.blank.draw 0 0 [0xA2]).1, hl, by decide, ?_, ?_, ?_, hs, hout⟩
  · rw [hwatch, after_cons, act, after_nil, hn, hf]
  · rw [hwatch, after_cons, after_cons, act, act, after_nil, hn, ht]
    exact hf'
  · rw [← hn] at ht
    exact (hfresh [.tick]).mpr ⟨_, congrArg Outcome.result ht, .draw 0 0 1⟩

end Machine

end ChipEight
