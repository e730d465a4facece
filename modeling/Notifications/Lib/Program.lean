import Mathlib.Data.List.Basic

/-!
# Programs as trees of calls

A program returns, panics, or makes a call and goes on with the answer.  What a
call does is left to a handler, so one program can be run alone against a state
(`run`) or one call at a time between the calls of other programs.

`Calls` says what holds of every call of a run, in the state it is made in.
-/

set_option autoImplicit false

namespace Notifications.Lib

inductive Program (Op : Type) (Answer : Op → Type) (α : Type) : Type where
  | ret (value : α)
  | panic (message : String)
  | call (op : Op) (next : Answer op → Program Op Answer α)

namespace Program

variable {Op : Type} {Answer : Op → Type} {α β State : Type}

def bind (program : Program Op Answer α)
    (rest : α → Program Op Answer β) : Program Op Answer β :=
  match program with
  | .ret value => rest value
  | .panic message => .panic message
  | .call op next => .call op fun answer => (next answer).bind rest

instance : Monad (Program Op Answer) where
  pure := .ret
  bind := bind

def perform (op : Op) : Program Op Answer (Answer op) := .call op .ret

@[simp] theorem pure_eq (value : α) :
    (pure value : Program Op Answer α) = .ret value := rfl

@[simp] theorem ret_bind (value : α) (rest : α → Program Op Answer β) :
    (Program.ret value >>= rest) = rest value := rfl

@[simp] theorem call_bind (op : Op) (next : Answer op → Program Op Answer α)
    (rest : α → Program Op Answer β) :
    (Program.call op next >>= rest) =
      .call op fun answer => next answer >>= rest := rfl

@[simp] theorem perform_bind (op : Op)
    (rest : Answer op → Program Op Answer β) :
    ((perform op : Program Op Answer _) >>= rest) = .call op rest := rfl

theorem bind_assoc {γ : Type} (program : Program Op Answer α)
    (first : α → Program Op Answer β) (second : β → Program Op Answer γ) :
    (program >>= first) >>= second =
      program >>= fun value => first value >>= second := by
  induction program with
  | ret value => rfl
  | panic message => rfl
  | call op next ih => exact congrArg (call op) (funext ih)

/-- Runs a program alone; the result is missing when it panics. -/
def run (handle : State → (op : Op) → Answer op × State) :
    Program Op Answer α → State → Option α × State
  | .ret value, state => (some value, state)
  | .panic _, state => (none, state)
  | .call op next, state =>
      run handle (next (handle state op).1) (handle state op).2

/-- Every call of the run is allowed in the state it is made in. -/
def Calls (handle : State → (op : Op) → Answer op × State)
    (allowed : State → Op → Prop) : Program Op Answer α → State → Prop
  | .ret _, _ => True
  | .panic _, _ => True
  | .call op next, state =>
      allowed state op ∧
        Calls handle allowed (next (handle state op).1) (handle state op).2

/-- Every call the program may make, whatever the answers, is allowed. -/
def Only (allowed : Op → Prop) : Program Op Answer α → Prop
  | .ret _ => True
  | .panic _ => True
  | .call op next => allowed op ∧ ∀ answer, Only allowed (next answer)

theorem only_bind {allowed : Op → Prop} {program : Program Op Answer α}
    {rest : α → Program Op Answer β} (first : program.Only allowed)
    (second : ∀ value, (rest value).Only allowed) :
    (program >>= rest).Only allowed := by
  induction program with
  | ret value => exact second value
  | panic message => trivial
  | call op next ih => exact ⟨first.1, fun answer => ih answer (first.2 answer)⟩

theorem only_perform {allowed : Op → Prop} {op : Op}
    {rest : Answer op → Program Op Answer β} (fine : allowed op)
    (next : ∀ answer, (rest answer).Only allowed) :
    ((perform op : Program Op Answer _) >>= rest).Only allowed :=
  ⟨fine, next⟩

theorem only_true (program : Program Op Answer α) :
    program.Only fun _ => True := by
  induction program with
  | ret value => trivial
  | panic message => trivial
  | call op next ih => exact ⟨trivial, ih⟩

theorem Only.weaken {strong weak : Op → Prop}
    (implies : ∀ op, strong op → weak op) {program : Program Op Answer α}
    (only : program.Only strong) : program.Only weak := by
  induction program with
  | ret value => trivial
  | panic message => trivial
  | call op next ih =>
      exact ⟨implies op only.1, fun answer => ih answer (only.2 answer)⟩

/-- The calls of a run, each with the state it was made in. -/
def trace (handle : State → (op : Op) → Answer op × State) :
    Program Op Answer α → State → List (State × Op)
  | .ret _, _ => []
  | .panic _, _ => []
  | .call op next, state =>
      (state, op) :: trace handle (next (handle state op).1) (handle state op).2

section Rules

variable (handle : State → (op : Op) → Answer op × State)

@[simp] theorem run_ret (value : α) (state : State) :
    (Program.ret value : Program Op Answer α).run handle state =
      (some value, state) := rfl

@[simp] theorem run_call (op : Op) (next : Answer op → Program Op Answer α)
    (state : State) :
    (Program.call op next).run handle state =
      (next (handle state op).1).run handle (handle state op).2 := rfl

theorem run_bind (program : Program Op Answer α)
    (rest : α → Program Op Answer β) (state : State) :
    (program >>= rest).run handle state =
      match program.run handle state with
      | (some value, after) => (rest value).run handle after
      | (none, after) => (none, after) := by
  induction program generalizing state with
  | ret value => rfl
  | panic message => rfl
  | call op next ih => exact ih _ _

theorem run_bind_of {program : Program Op Answer α}
    {rest : α → Program Op Answer β} {state after : State} {value : α}
    (first : program.run handle state = (some value, after)) :
    (program >>= rest).run handle state = (rest value).run handle after := by
  rw [run_bind, first]

theorem run_bind_none {program : Program Op Answer α}
    {rest : α → Program Op Answer β} {state after : State}
    (panicked : program.run handle state = (none, after)) :
    (program >>= rest).run handle state = (none, after) := by
  rw [run_bind, panicked]

/-- What only computes a result leaves the state as it is. -/
theorem run_bind_ret {program : Program Op Answer α}
    {rest : α → Program Op Answer β}
    (returns : ∀ value, ∃ result, rest value = .ret result) (state : State) :
    ((program >>= rest).run handle state).2 =
      (program.run handle state).2 := by
  rw [run_bind]
  rcases program.run handle state with ⟨result, after⟩
  cases result with
  | none => rfl
  | some value =>
      obtain ⟨result, same⟩ := returns value
      simp [same]

theorem run_bind_some {program : Program Op Answer α}
    {rest : α → Program Op Answer β} {state final : State} {result : β}
    (ran : (program >>= rest).run handle state = (some result, final)) :
    ∃ value after, program.run handle state = (some value, after) ∧
      (rest value).run handle after = (some result, final) := by
  rw [run_bind] at ran
  match first : program.run handle state with
  | (some value, after) =>
      rw [first] at ran
      exact ⟨value, after, rfl, ran⟩
  | (none, after) =>
      rw [first] at ran
      cases ran

/-- What the allowed calls keep, a program that makes no others keeps. -/
theorem run_of_only {allowed : Op → Prop} (invariant : State → Prop)
    (kept : ∀ state op, allowed op → invariant state →
      invariant (handle state op).2)
    {program : Program Op Answer α} (only : program.Only allowed)
    {state : State} (start : invariant state) :
    invariant (program.run handle state).2 := by
  induction program generalizing state with
  | ret value => exact start
  | panic message => exact start
  | call op next ih =>
      exact ih _ (only.2 _) (kept state op only.1 start)

theorem trace_bind (program : Program Op Answer α)
    (rest : α → Program Op Answer β) (state : State) :
    (program >>= rest).trace handle state =
      program.trace handle state ++
        match program.run handle state with
        | (some value, after) => (rest value).trace handle after
        | (none, _) => [] := by
  induction program generalizing state with
  | ret value => rfl
  | panic message => rfl
  | call op next ih => exact congrArg (List.cons (state, op)) (ih _ _)

theorem trace_bind_of {program : Program Op Answer α}
    {rest : α → Program Op Answer β} {state after : State} {value : α}
    (first : program.run handle state = (some value, after)) :
    (program >>= rest).trace handle state =
      program.trace handle state ++ (rest value).trace handle after := by
  rw [trace_bind, first]

theorem trace_of_only {allowed : Op → Prop} {program : Program Op Answer α}
    (only : program.Only allowed) (state : State) :
    ∀ call ∈ program.trace handle state, allowed call.2 := by
  induction program generalizing state with
  | ret value => simp [trace]
  | panic message => simp [trace]
  | call op next ih =>
      intro call member
      rcases List.mem_cons.mp member with here | later
      · exact here ▸ only.1
      · exact ih _ (only.2 _) _ call later

/-- What the allowed calls keep holds whenever a call is made. -/
theorem trace_invariant {allowed : Op → Prop} (invariant : State → Prop)
    (kept : ∀ state op, allowed op → invariant state →
      invariant (handle state op).2)
    {program : Program Op Answer α} (only : program.Only allowed)
    {state : State} (start : invariant state) :
    ∀ call ∈ program.trace handle state, invariant call.1 := by
  induction program generalizing state with
  | ret value => simp [trace]
  | panic message => simp [trace]
  | call op next ih =>
      intro call member
      rcases List.mem_cons.mp member with here | later
      · exact here ▸ start
      · exact ih _ (only.2 _) (kept state op only.1 start) call later

variable (allowed : State → Op → Prop)

theorem calls_of_only {harmless : Op → Prop}
    (implies : ∀ state op, harmless op → allowed state op)
    {program : Program Op Answer α} (only : program.Only harmless)
    (state : State) : program.Calls handle allowed state := by
  induction program generalizing state with
  | ret value => trivial
  | panic message => trivial
  | call op next ih =>
      exact ⟨implies state op only.1, ih _ (only.2 _) _⟩

theorem calls_perform {op : Op} {rest : Answer op → Program Op Answer β}
    {state : State} (fine : allowed state op)
    (next : (rest (handle state op).1).Calls handle allowed
      (handle state op).2) :
    ((perform op : Program Op Answer _) >>= rest).Calls handle allowed
      state :=
  ⟨fine, next⟩

theorem calls_bind {program : Program Op Answer α}
    {rest : α → Program Op Answer β} {state : State}
    (first : program.Calls handle allowed state)
    (second : ∀ value after, program.run handle state = (some value, after) →
      (rest value).Calls handle allowed after) :
    (program >>= rest).Calls handle allowed state := by
  induction program generalizing state with
  | ret value => exact second value state rfl
  | panic message => trivial
  | call op next ih => exact ⟨first.1, ih _ first.2 second⟩

theorem calls_iff_trace {program : Program Op Answer α} {state : State} :
    program.Calls handle allowed state ↔
      ∀ call ∈ program.trace handle state, allowed call.1 call.2 := by
  induction program generalizing state with
  | ret value => simp [Calls, trace]
  | panic message => simp [Calls, trace]
  | call op next ih => simp [Calls, trace, ih]

end Rules

end Program

end Notifications.Lib
