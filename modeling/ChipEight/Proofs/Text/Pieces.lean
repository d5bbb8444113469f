import ChipEight.Text.Blank
import Mathlib.Data.List.Forall2
import Mathlib.Data.List.TakeWhile

/-!
# Proofs — Text — Pieces

Texts in pieces, said by what the pieces are and not by how they are found.

* `Text.Trims`: a text without the white space at its ends.
* `Text.Cut`: what lies between the separators of a text.
* `Text.Runs`: the longest runs without a separator in a text.
* `Text.mapM_eq_ok_iff`, `Text.mapM_eq_error_iff`: pieces that are read one after the other, up to
  the first that cannot be read.
-/

namespace ChipEight.Text

variable {sep : Char → Bool} {cs t w : List Char} {ws ts : List (List Char)}

/-! ### White space at the ends -/

/-- `t` is `cs` without the white space at its ends. -/
structure Trims (cs t : List Char) : Prop where
  between : ∃ l r, cs = l ++ t ++ r ∧ (∀ c ∈ l, isBlank c) ∧ ∀ c ∈ r, isBlank c
  head : ∀ c ∈ t.head?, ¬ isBlank c
  last : ∀ c ∈ t.getLast?, ¬ isBlank c

/-- A text that does not start with white space loses none at its start. -/
theorem dropWhile_eq_self_of_head (h : ∀ c ∈ t.head?, ¬ isBlank c) : t.dropWhile isBlank = t := by
  cases t with
  | nil => rfl
  | cons c t => exact List.dropWhile_cons_of_neg (h c rfl)

theorem head?_dropWhile_not (cs : List Char) :
    ∀ c ∈ (cs.dropWhile isBlank).head?, ¬ isBlank c := by
  intro c hc
  have h := List.head?_dropWhile_not isBlank cs
  rw [Option.mem_def.mp hc] at h
  simpa using h

theorem trims_trim (cs : List Char) : Trims cs (trim cs) := by
  have hend : cs.dropWhile isBlank =
      trim cs ++ ((cs.dropWhile isBlank).reverse.takeWhile isBlank).reverse := by
    rw [trim, trimEnd, ← List.reverse_append, List.takeWhile_append_dropWhile, List.reverse_reverse]
  refine ⟨⟨cs.takeWhile isBlank, ((cs.dropWhile isBlank).reverse.takeWhile isBlank).reverse,
    ?_, ?_, ?_⟩, ?_, ?_⟩
  · rw [List.append_assoc, ← hend, List.takeWhile_append_dropWhile]
  · exact fun c hc => List.mem_takeWhile_imp hc
  · exact fun c hc => List.mem_takeWhile_imp (List.mem_reverse.mp hc)
  · -- the trimmed text starts as the text does without the white space before it
    intro c hc
    refine head?_dropWhile_not cs c ?_
    rw [hend, List.head?_append, Option.mem_def.mp hc]
    rfl
  · intro c hc
    rw [trim, trimEnd, List.getLast?_reverse] at hc
    exact head?_dropWhile_not _ c hc

/-- **Trimming takes the white space at the ends away**, and nothing else does. -/
theorem trims_iff : Trims cs t ↔ trim cs = t := by
  refine ⟨?_, fun h => h ▸ trims_trim cs⟩
  rintro ⟨⟨l, r, rfl, hl, hr⟩, hhead, hlast⟩
  have hstart : (l ++ t ++ r).dropWhile isBlank = (t ++ r).dropWhile isBlank := by
    rw [List.append_assoc, List.dropWhile_append_of_pos hl]
  rw [trim, hstart]
  cases t with
  | nil =>
      rw [List.nil_append, List.dropWhile_eq_nil_iff.mpr hr]
      rfl
  | cons c t =>
      have hfront : ∀ a ∈ (c :: t ++ r).head?, ¬ isBlank a := hhead
      have hrev : ∀ a ∈ (c :: t).reverse.head?, ¬ isBlank a := by
        rw [List.head?_reverse]
        exact hlast
      rw [dropWhile_eq_self_of_head hfront, trimEnd, List.reverse_append,
        List.dropWhile_append_of_pos fun a ha => hr a (List.mem_reverse.mp ha),
        dropWhile_eq_self_of_head hrev, List.reverse_reverse]

/-! ### Cutting at separators -/

/-- `ws` are what lies between the separators of `cs`. -/
inductive Cut (sep : Char → Bool) : List Char → List (List Char) → Prop where
  | last {w : List Char} (hw : ∀ c ∈ w, sep c = false) : Cut sep w [w]
  | more {w cs : List Char} {c : Char} {ws : List (List Char)} (hw : ∀ c ∈ w, sep c = false)
      (hc : sep c = true) (h : Cut sep cs ws) : Cut sep (w ++ c :: cs) (w :: ws)

theorem cut_splitOnP (sep : Char → Bool) (cs : List Char) : Cut sep cs (cs.splitOnP sep) := by
  induction cs with
  | nil => exact .last nofun
  | cons c cs ih =>
      rw [List.splitOnP_cons_eq_if_modifyHead]
      by_cases hc : sep c = true
      · rw [if_pos hc]
        exact .more (w := []) nofun hc ih
      · have hcons : ∀ {w : List Char}, (∀ a ∈ w, sep a = false) → ∀ a ∈ c :: w, sep a = false :=
          fun hw => List.forall_mem_cons.mpr ⟨Bool.eq_false_iff.mpr hc, hw⟩
        rw [if_neg hc]
        generalize cs.splitOnP sep = ws at ih
        cases ih with
        | last hw => exact .last (hcons hw)
        | more hw hc h => exact .more (hcons hw) hc h

/-- **A text is cut in one way.** -/
theorem cut_iff : Cut sep cs ws ↔ cs.splitOnP sep = ws := by
  refine ⟨fun h => ?_, fun h => h ▸ cut_splitOnP sep cs⟩
  induction h with
  | last hw => exact List.splitOnP_eq_singleton hw
  | more hw hc _ ih => rw [List.splitOnP_append_cons_of_forall_mem hw _ hc, ih]

/-! ### Runs without separators -/

/-- `ts` are the longest runs without a separator in `cs`. -/
inductive Runs (sep : Char → Bool) : List Char → List (List Char) → Prop where
  | nil : Runs sep [] []
  | separator {c : Char} {cs : List Char} {ts : List (List Char)} (hc : sep c = true)
      (h : Runs sep cs ts) : Runs sep (c :: cs) ts
  /-- A run goes on up to a separator or to the end. -/
  | run {t cs : List Char} {ts : List (List Char)} (ht : t ≠ []) (hno : ∀ c ∈ t, sep c = false)
      (hcs : ∀ c ∈ cs.head?, sep c = true) (h : Runs sep cs ts) : Runs sep (t ++ cs) (t :: ts)

/-- The runs are what lies between separators, where something does. -/
theorem Cut.runs (h : Cut sep cs ws) : Runs sep cs (ws.filter (· ≠ [])) := by
  induction h with
  | @last w hw =>
      by_cases hnil : w = []
      · subst hnil
        exact .nil
      · rw [List.filter_cons_of_pos (by simpa using hnil), List.filter_nil]
        simpa using Runs.run hnil hw (by simp) .nil
  | @more w cs c ws hw hc _ ih =>
      by_cases hnil : w = []
      · subst hnil
        exact .separator hc ih
      · rw [List.filter_cons_of_pos (by simpa using hnil)]
        exact .run hnil hw (by simpa using hc) (.separator hc ih)

/-- **A text has one row of runs.** -/
theorem runs_iff : Runs sep cs ts ↔ (cs.splitOnP sep).filter (· ≠ []) = ts := by
  refine ⟨fun h => ?_, fun h => h ▸ (cut_splitOnP sep cs).runs⟩
  induction h with
  | nil => rfl
  | @separator c cs ts hc _ ih =>
      rw [List.splitOnP_cons_eq_if_modifyHead, if_pos hc, List.filter_cons_of_neg (by simp), ih]
  | @run t cs ts ht hno hcs _ ih =>
      cases cs with
      | nil =>
          obtain rfl : [] = ts := ih
          rw [List.append_nil, List.splitOnP_eq_singleton hno,
            List.filter_cons_of_pos (by simpa using ht), List.filter_nil]
      | cons c cs =>
          have hc := hcs c rfl
          rw [List.splitOnP_cons_eq_if_modifyHead, if_pos hc, List.filter_cons_of_neg (by simp)]
            at ih
          rw [List.splitOnP_append_cons_of_forall_mem hno _ hc,
            List.filter_cons_of_pos (by simpa using ht), ih]

/-! ### Reading piece by piece -/

section

variable {α ε : Type} {read : List Char → Except ε α} {as : List α} {e : ε}

theorem mapM_eq_ok_iff :
    ts.mapM read = .ok as ↔ List.Forall₂ (fun t a => read t = .ok a) ts as := by
  induction ts generalizing as with
  | nil => exact ⟨fun h => Except.ok.inj h ▸ .nil, fun h => by cases h; rfl⟩
  | cons t ts ih =>
      rw [List.mapM_cons]
      constructor
      · intro h
        cases ht : read t with
        | error e => rw [ht] at h; cases h
        | ok a =>
            cases hts : ts.mapM read with
            | error e => rw [ht, hts] at h; cases h
            | ok rest =>
                rw [ht, hts] at h
                exact Except.ok.inj h ▸ .cons ht (ih.mp hts)
      · rintro (_ | ⟨ht, hts⟩)
        rw [ht, ih.mpr hts]
        rfl

/-- All pieces are read if each of them can be. -/
theorem exists_mapM_eq_ok_iff :
    (∃ as, ts.mapM read = .ok as) ↔ ∀ t ∈ ts, ∃ a, read t = .ok a := by
  simp only [mapM_eq_ok_iff]
  induction ts with
  | nil => exact iff_of_true ⟨[], .nil⟩ nofun
  | cons t ts ih =>
      rw [List.forall_mem_cons, ← ih]
      constructor
      · rintro ⟨_, _ | ⟨ht, hts⟩⟩
        exact ⟨⟨_, ht⟩, _, hts⟩
      · rintro ⟨⟨a, ht⟩, as, hts⟩
        exact ⟨a :: as, .cons ht hts⟩

theorem exists_of_mapM_eq_error (h : ts.mapM read = .error e) : ∃ us t vs,
    ts = us ++ t :: vs ∧ (∀ u ∈ us, ∃ a, read u = .ok a) ∧ read t = .error e := by
  induction ts with
  | nil => cases h
  | cons t ts ih =>
      rw [List.mapM_cons] at h
      cases ht : read t with
      | error e' =>
          rw [ht] at h
          cases h
          exact ⟨[], t, ts, rfl, nofun, ht⟩
      | ok a =>
          have hts : ts.mapM read = .error e := by
            rw [ht] at h
            cases hts : ts.mapM read with
            | error e' => rw [hts] at h; cases h; rfl
            | ok as => rw [hts] at h; cases h
          obtain ⟨us, t', vs, rfl, hus, ht'⟩ := ih hts
          exact ⟨t :: us, t', vs, rfl, List.forall_mem_cons.mpr ⟨⟨a, ht⟩, hus⟩, ht'⟩

/-- What cannot be read is refused for the first of its pieces that cannot be read. -/
theorem mapM_eq_error_iff :
    ts.mapM read = .error e ↔ ∃ us t vs, ts = us ++ t :: vs ∧
      (∀ u ∈ us, ∃ a, read u = .ok a) ∧ read t = .error e := by
  refine ⟨exists_of_mapM_eq_error, ?_⟩
  rintro ⟨us, t, vs, rfl, hus, ht⟩
  obtain ⟨as, has⟩ := exists_mapM_eq_ok_iff.mpr hus
  rw [List.mapM_append, has, List.mapM_cons, ht]
  rfl

end

end ChipEight.Text
