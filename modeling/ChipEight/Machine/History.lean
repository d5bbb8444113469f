import ChipEight.Machine.Tick

/-!
# Machine — History

What can happen to a machine from outside, and the machines that come of it.

* `Machine.after`: the machine after a row of actions.
* `Machine.Reachable`: the machines that some history of a loaded program leads to.
* `Machine.AtTicks`: what is true of the machine at every tick among some actions.
* `Machine.beforeTicks`: the machines that tick, one after the other.
-/

namespace ChipEight

/-- Something that happens to a machine. -/
inductive Action where
  /-- A tick, whether or not it succeeds. -/
  | tick
  /-- A key goes down. -/
  | press (key : UInt8)
  /-- A key goes up. -/
  | release (key : UInt8)
  deriving DecidableEq, Repr

namespace Machine

/-- The machine after an action. -/
def act (m : Machine) : Action → Machine
  | .tick => m.tick.machine
  | .press key => m.press key
  | .release key => m.release key

/-- The machine after some actions, one after the other. -/
def after (m : Machine) (actions : List Action) : Machine := actions.foldl act m

/-- A machine that some actions lead to from a program just loaded. -/
inductive Reachable : Machine → Prop where
  | load {program : List UInt8} {random : ByteStream} {m : Machine}
      (h : load program random = .ok m) : Reachable m
  | act {m : Machine} (h : Reachable m) (a : Action) : Reachable (m.act a)

/-- Something is true of the machine at every tick among some actions, right before that tick. -/
def AtTicks (m : Machine) (as : List Action) (P : Machine → Prop) : Prop :=
  ∀ bs, bs ++ [.tick] <+: as → P (m.after bs)

/-- The machine at each tick among some actions, right before that tick. -/
def beforeTicks (m : Machine) : List Action → List Machine
  | [] => []
  | .tick :: as => m :: m.tick.machine.beforeTicks as
  | .press key :: as => (m.press key).beforeTicks as
  | .release key :: as => (m.release key).beforeTicks as

@[simp] theorem after_nil (m : Machine) : m.after [] = m := rfl

@[simp] theorem after_cons (m : Machine) (a : Action) (as : List Action) :
    m.after (a :: as) = (m.act a).after as := rfl

theorem after_append (m : Machine) (as bs : List Action) :
    m.after (as ++ bs) = (m.after as).after bs := List.foldl_append

theorem atTicks_nil {m : Machine} {P : Machine → Prop} : m.AtTicks [] P := fun bs h => by
  simp at h

theorem atTicks_cons {m : Machine} {a : Action} {as : List Action} {P : Machine → Prop} :
    m.AtTicks (a :: as) P ↔ (a = .tick → P m) ∧ (m.act a).AtTicks as P := by
  constructor
  · intro h
    refine ⟨?_, fun bs hbs => h (a :: bs) (List.cons_prefix_cons.mpr ⟨rfl, hbs⟩)⟩
    rintro rfl
    exact h [] (List.cons_prefix_cons.mpr ⟨rfl, List.nil_prefix⟩)
  · rintro ⟨ha, has⟩ bs hbs
    cases bs with
    | nil => exact ha (List.cons_prefix_cons.mp hbs).1.symm
    | cons b bs =>
        obtain ⟨rfl, htail⟩ := List.cons_prefix_cons.mp hbs
        exact has bs htail

/-- At every tick something is not true, or there is a last tick at which it is. -/
theorem atTicks_not_or_last (m : Machine) (as : List Action) (P : Machine → Prop) :
    m.AtTicks as (¬ P ·) ∨
      ∃ bs cs, as = bs ++ .tick :: cs ∧ P (m.after bs) ∧
        (m.after bs).tick.machine.AtTicks cs (¬ P ·) := by
  induction as generalizing m with
  | nil => exact .inl atTicks_nil
  | cons a as ih =>
      rcases ih (m.act a) with hn | ⟨bs, cs, rfl, hp, hcs⟩
      · by_cases hp : a = .tick ∧ P m
        · obtain ⟨rfl, hp⟩ := hp
          exact .inr ⟨[], as, rfl, hp, hn⟩
        · exact .inl (atTicks_cons.mpr ⟨fun ha hpm => hp ⟨ha, hpm⟩, hn⟩)
      · exact .inr ⟨a :: bs, cs, rfl, hp, hcs⟩

theorem beforeTicks_append (m : Machine) (as bs : List Action) :
    m.beforeTicks (as ++ bs) = m.beforeTicks as ++ (m.after as).beforeTicks bs := by
  induction as generalizing m with
  | nil => rfl
  | cons a as ih =>
      cases a with
      | tick => exact congrArg (m :: ·) (ih m.tick.machine)
      | press key | release key => exact ih _

theorem beforeTicks_of_tick_not_mem {m : Machine} {as : List Action} (h : .tick ∉ as) :
    m.beforeTicks as = [] := by
  induction as generalizing m with
  | nil => rfl
  | cons a as ih =>
      have has : .tick ∉ as := List.not_mem_of_not_mem_cons h
      cases a with
      | tick => exact absurd List.mem_cons_self h
      | press key | release key => exact ih has

/-- What a reachable machine is led to is reachable. -/
theorem Reachable.after {m : Machine} (h : Reachable m) (as : List Action) :
    Reachable (m.after as) := by
  induction as generalizing m with
  | nil => exact h
  | cons a as ih => exact ih (h.act a)

end Machine

end ChipEight
