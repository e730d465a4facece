import Mathlib.Data.List.Basic

/-!
# Machines, runs and invariants

A machine takes events one at a time.  An event is either not enabled, or it
leads to exactly one next state and shows a list of outputs.  Nondeterminism
is in the choice of events: a statement about every interleaving is a
statement about every list of events.

`Guarded` restricts a run by a condition on each step (the state before it and
the event), and `run_invariant` is the one induction over runs that the
safety theorems use.
-/

set_option autoImplicit false

namespace Notifications.Lib

structure Machine (State Event Output : Type) where
  step : State → Event → Option (State × List Output)

namespace Machine

variable {State Event Output : Type} (machine : Machine State Event Output)

/-- The state after a list of events and everything they showed, in order. -/
def run : List Event → State → Option (State × List Output)
  | [], state => some (state, [])
  | event :: rest, state => do
      let (next, shown) ← machine.step state event
      let (final, later) ← run rest next
      some (final, shown ++ later)

/-- Every step of the run meets the condition in the state it starts from. -/
def Guarded (condition : State → Event → Prop) : List Event → State → Prop
  | [], _ => True
  | event :: rest, state =>
      condition state event ∧
        ∀ next shown, machine.step state event = some (next, shown) →
          Guarded condition rest next

/-- The property holds in every state of the run. -/
def Throughout (property : State → Prop) : List Event → State → Prop
  | [], state => property state
  | event :: rest, state =>
      property state ∧
        ∀ next shown, machine.step state event = some (next, shown) →
          Throughout property rest next

/-- A decidable condition is checked along the run. -/
instance decidableGuarded (condition : State → Event → Prop)
    [∀ state event, Decidable (condition state event)] :
    (events : List Event) → (state : State) →
      Decidable (machine.Guarded condition events state)
  | [], _ => .isTrue trivial
  | event :: rest, state =>
      match taken : machine.step state event with
      | none =>
          decidable_of_iff (condition state event) (by simp [Guarded, taken])
      | some (next, _) =>
          have := decidableGuarded condition rest next
          decidable_of_iff
            (condition state event ∧ machine.Guarded condition rest next)
            (by simp [Guarded, taken])

theorem run_cons {event : Event} {rest : List Event} {state final : State}
    {trace : List Output}
    (success : machine.run (event :: rest) state = some (final, trace)) :
    ∃ next shown later, machine.step state event = some (next, shown) ∧
      machine.run rest next = some (final, later) ∧
      trace = shown ++ later := by
  simp only [run] at success
  obtain ⟨⟨next, shown⟩, first, success⟩ := Option.bind_eq_some_iff.mp success
  obtain ⟨⟨final', later⟩, second, success⟩ :=
    Option.bind_eq_some_iff.mp success
  cases Option.some.inj success
  exact ⟨next, shown, later, first, second, rfl⟩

theorem run_of_step {event : Event} {rest : List Event}
    {state next final : State} {shown later : List Output}
    (stepped : machine.step state event = some (next, shown))
    (success : machine.run rest next = some (final, later)) :
    machine.run (event :: rest) state = some (final, shown ++ later) := by
  simp [run, stepped, success]

theorem run_append {first second : List Event} {state between final : State}
    {shown later : List Output}
    (one : machine.run first state = some (between, shown))
    (other : machine.run second between = some (final, later)) :
    machine.run (first ++ second) state = some (final, shown ++ later) := by
  induction first generalizing state shown with
  | nil =>
      cases one
      exact other
  | cons event rest ih =>
      obtain ⟨next, here, there, stepped, ran, rfl⟩ := machine.run_cons one
      rw [List.cons_append, machine.run_of_step stepped (ih ran),
        List.append_assoc]

/-- The second half of a run whose first half is known. -/
theorem run_of_append {first second : List Event}
    {state between final : State} {shown trace : List Output}
    (one : machine.run first state = some (between, shown))
    (both : machine.run (first ++ second) state = some (final, trace)) :
    ∃ later, machine.run second between = some (final, later) := by
  induction first generalizing state shown trace with
  | nil =>
      cases one
      exact ⟨trace, both⟩
  | cons event rest ih =>
      obtain ⟨next, here, there, stepped, ran, _⟩ := machine.run_cons one
      obtain ⟨next', _, _, stepped', ran', _⟩ := machine.run_cons both
      rw [stepped, Option.some.injEq, Prod.mk.injEq] at stepped'
      obtain ⟨rfl, _⟩ := stepped'
      exact ih ran ran'

theorem guarded_of_forall {condition : State → Event → Prop}
    {events : List Event}
    (always : ∀ state, ∀ event ∈ events, condition state event)
    (state : State) : machine.Guarded condition events state := by
  induction events generalizing state with
  | nil => trivial
  | cons event rest ih =>
      refine ⟨always state event (by simp), ?_⟩
      intro next shown _
      apply ih
      intro later member
      simp_all

theorem Guarded.weaken {machine : Machine State Event Output}
    {strong weak : State → Event → Prop}
    (implies : ∀ state event, strong state event → weak state event)
    {events : List Event} {state : State}
    (guarded : machine.Guarded strong events state) :
    machine.Guarded weak events state := by
  induction events generalizing state with
  | nil => trivial
  | cons event rest ih =>
      refine ⟨implies state event guarded.1, ?_⟩
      intro next shown stepped
      exact ih (guarded.2 next shown stepped)

theorem Guarded.and {machine : Machine State Event Output}
    {left right : State → Event → Prop} {events : List Event} {state : State}
    (one : machine.Guarded left events state)
    (other : machine.Guarded right events state) :
    machine.Guarded (fun state event => left state event ∧ right state event)
      events state := by
  induction events generalizing state with
  | nil => trivial
  | cons event rest ih =>
      refine ⟨⟨one.1, other.1⟩, ?_⟩
      intro next shown stepped
      exact ih (one.2 next shown stepped) (other.2 next shown stepped)

/-- What holds at the start and is kept by every step that meets the condition
holds at the end of every run whose steps meet it.  The invariant sees what
the run has shown so far. -/
theorem run_invariant (condition : State → Event → Prop)
    (invariant : List Output → State → Prop)
    (kept : ∀ trace state event next shown,
      invariant trace state → condition state event →
        machine.step state event = some (next, shown) →
          invariant (trace ++ shown) next)
    (events : List Event) (trace : List Output) (state final : State)
    (later : List Output) (start : invariant trace state)
    (guarded : machine.Guarded condition events state)
    (success : machine.run events state = some (final, later)) :
    invariant (trace ++ later) final := by
  induction events generalizing trace state later with
  | nil =>
      simp only [run, Option.some.injEq, Prod.mk.injEq] at success
      obtain ⟨rfl, rfl⟩ := success
      simpa using start
  | cons event rest ih =>
      obtain ⟨next, shown, remaining, stepped, runs, rfl⟩ :=
        machine.run_cons success
      have here := kept trace state event next shown start guarded.1 stepped
      have there := ih (trace ++ shown) next remaining here
        (guarded.2 next shown stepped) runs
      simpa using there

/-- The same rule for an invariant of the state alone. -/
theorem run_state_invariant (condition : State → Event → Prop)
    (invariant : State → Prop)
    (kept : ∀ state event next shown,
      invariant state → condition state event →
        machine.step state event = some (next, shown) → invariant next)
    {events : List Event} {state final : State} {trace : List Output}
    (start : invariant state)
    (guarded : machine.Guarded condition events state)
    (success : machine.run events state = some (final, trace)) :
    invariant final := by
  have rule := machine.run_invariant condition
    (fun _ state => invariant state)
    (fun _ state event next shown => kept state event next shown)
  exact rule events [] state final trace start guarded success

/-- What the guarded steps keep holds in every state of a guarded run. -/
theorem throughout_of_guarded {condition : State → Event → Prop}
    {property : State → Prop}
    (kept : ∀ state event next shown,
      property state → condition state event →
        machine.step state event = some (next, shown) → property next)
    {events : List Event} {state : State} (start : property state)
    (guarded : machine.Guarded condition events state) :
    machine.Throughout property events state := by
  induction events generalizing state with
  | nil => exact start
  | cons event rest ih =>
      refine ⟨start, ?_⟩
      intro next shown stepped
      exact ih (kept state event next shown start guarded.1 stepped)
        (guarded.2 next shown stepped)

/-- A step keeps the property exactly if it meets the condition, so a run has
it throughout exactly if all its steps meet the condition. -/
theorem throughout_iff_guarded {condition : State → Event → Prop}
    (invariant : State → Prop) {property : State → Prop}
    (kept : ∀ state event next shown, invariant state →
      machine.step state event = some (next, shown) → invariant next)
    (exact : ∀ state event next shown, invariant state → property state →
      machine.step state event = some (next, shown) →
        (property next ↔ condition state event))
    {events : List Event} {state final : State} {trace : List Output}
    (start : invariant state) (holds : property state)
    (success : machine.run events state = some (final, trace)) :
    machine.Throughout property events state ↔
      machine.Guarded condition events state := by
  induction events generalizing state trace with
  | nil => exact iff_of_true holds trivial
  | cons event rest ih =>
      obtain ⟨next, shown, later, stepped, runs, rfl⟩ :=
        machine.run_cons success
      have step := exact state event next shown start holds stepped
      have onward := @ih next later
        (kept state event next shown start stepped)
      simp only [Throughout, Guarded, stepped, holds, true_and,
        Option.some.injEq, Prod.mk.injEq]
      constructor
      · intro through
        have there := through next shown ⟨rfl, rfl⟩
        have here : property next := by
          cases rest with
          | nil => exact there
          | cons _ _ => exact there.1
        refine ⟨step.mp here, ?_⟩
        rintro next shown ⟨rfl, rfl⟩
        exact (onward here runs).mp there
      · rintro ⟨here, guarded⟩ next shown ⟨rfl, rfl⟩
        exact (onward (step.mpr here) runs).mpr
          (guarded _ _ ⟨rfl, rfl⟩)

end Machine

end Notifications.Lib
