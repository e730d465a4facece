import Notifications.Gobble.Copies

/-!
# A job that is not retried is not run again

Once a callback has left its job without a retry, only the `Dequeue` of that
attempt is still to come.  As long as nothing is unlocked and no process ends,
no other attempt gets the job, neither before the `Dequeue` nor after it.
-/

set_option autoImplicit false
set_option linter.unusedSectionVars false

namespace Notifications.Gobble

open Notifications.Lib Notifications.Lib.Versioned

variable {Instance Name Outcome : Type} [DecidableEq Instance]
  [DecidableEq Name]

/-- Neither `Unlock` nor the end of a process. -/
def Event.steady : Event Instance Name Outcome → Bool
  | .unlock _ => false
  | .crash _ => false
  | _ => true

/-- A callback that left the job of this ID without a retry. -/
def Output.settles (setup : Setup Instance Name Outcome) (id : Nat) :
    Output Name Outcome → Bool
  | .completed _ outcome ran _ =>
      ran.id == id && (setup.callback outcome ran).isNone
  | _ => false

structure Settled (setup : Setup Instance Name Outcome) (id : Nat)
    (trace : List (Output Name Outcome)) (state : State Instance Name) :
    Prop where
  faithful : Faithful setup trace state
  settled : ∀ name outcome ran time,
    .completed name outcome ran time ∈ trace → ran.id = id →
      setup.callback outcome ran = none →
        id < state.nextID ∧ ran.shouldRetry = false ∧
          (state.attempts name = .called ran ∨
            ∀ row ∈ state.jobs, row.id ≠ id)
  once : trace.countP (Output.settles setup id) ≤ 1

variable {setup : Setup Instance Name Outcome}
  {state next final : State Instance Name} {id : Nat}
  {event : Event Instance Name Outcome}
  {shown trace : List (Output Name Outcome)}

theorem Event.clears_of_steady (steady : event.steady = true) :
    event.clears = false := by
  cases event <;> first | rfl | cases steady

theorem Transition.nextID_le
    (transition : Transition setup state event next shown) :
    state.nextID ≤ next.nextID := by
  cases transition <;> simp [State.set, State.crash]

theorem Transition.alive (leased : Leased state)
    (transition : Transition setup state event next shown)
    (steady : event.steady = true) {name : Name} {job : Job}
    (here : state.attempts name = .called job) :
    next.attempts name ≠ .dead := by
  intro dead
  by_cases mine : event.actor = some name
  · cases transition with
    | tick | enqueue | unlock | startWorkers | close | crash => cases mine
    | perform actor | find actor | take actor | miss actor | readClosed actor
    | release actor | releaseMiss actor | receive actor | halt actor
    | callback actor | requeue actor | dequeue actor =>
        cases mine
        rw [set_attempts_self] at dead
        cases dead
    | panic actor called before missing =>
        exact missing (leased.current (by rw [before]; rfl))
  · cases transition with
    | crash inst => cases steady
    | panic actor called before missing =>
        exact missing (leased.current (by rw [before]; rfl))
    | tick | enqueue | unlock | startWorkers | close =>
        rw [here] at dead
        cases dead
    | perform actor | find actor | take actor | miss actor | readClosed actor
    | release actor | releaseMiss actor | receive actor | halt actor
    | callback actor | requeue actor | dequeue actor =>
        have differs : name ≠ actor := fun same => mine (by rw [same]; rfl)
        rw [set_attempts_of_ne _ _ differs] at dead
        cases here.symm.trans dead

/-- A job that has left the table does not come back. -/
theorem Faithful.stays_gone (held : Faithful setup trace state)
    (transition : Transition setup state event next shown)
    (steady : event.steady = true) (old : id < state.nextID)
    (gone : ∀ row ∈ state.jobs, row.id ≠ id) :
    ∀ row ∈ next.jobs, row.id ≠ id := by
  intro row member same
  cases held.row_step (Event.clears_of_steady steady) transition member with
  | kept before => exact gone row before same
  | added job isNew => omega
  | reserved name job before there sameID =>
      exact gone before there (sameID.symm.trans same)
  | released name job waits there sameID =>
      exact gone job.toRow there (sameID.symm.trans same)
  | retried name outcome ran time duration completed there asked written =>
      apply gone ran.toRow there
      rw [written] at same
      exact same

/-- The only row of a holder's job is the one that it deletes. -/
theorem Leased.gone_after_dequeue {name : Name} {job : Job}
    (leased : Leased state) (holds : (state.attempts name).holding = some job) :
    ∀ row ∈ deleteWhere (matched job.toRow job.version) state.jobs,
      row.id ≠ job.id := by
  intro row member same
  obtain ⟨stored, differs⟩ := mem_deleted.mp member
  exact leased.other_row holds stored differs same.symm

theorem Settled.settled_step (held : Settled setup id trace state)
    (transition : Transition setup state event next shown)
    (steady : event.steady = true) {name : Name} {outcome : Outcome}
    {ran : Job} {time : Int}
    (completed : .completed name outcome ran time ∈ trace)
    (sameID : ran.id = id) (asked : setup.callback outcome ran = none) :
    id < next.nextID ∧ ran.shouldRetry = false ∧
      (next.attempts name = .called ran ∨ ∀ row ∈ next.jobs, row.id ≠ id) := by
  obtain ⟨old, notRetried, here | gone⟩ :=
    held.settled name outcome ran time completed sameID asked
  · refine ⟨Nat.lt_of_lt_of_le old transition.nextID_le, notRetried, ?_⟩
    rcases transition.after_called here with
      same | dead | ⟨_, retries, _⟩ | ⟨_, _, deleted⟩
    · exact .inl same
    · exact absurd dead (transition.alive held.faithful.leased steady here)
    · rw [notRetried] at retries
      cases retries
    · right
      rw [deleted, ← sameID]
      exact held.faithful.leased.gone_after_dequeue (by rw [here]; rfl)
  · exact ⟨Nat.lt_of_lt_of_le old transition.nextID_le, notRetried,
      .inr (held.faithful.stays_gone transition steady old gone)⟩

theorem Settled.unsettled (held : Settled setup id trace state) {name : Name}
    {job : Job} (here : state.attempts name = .running job)
    (sameID : job.id = id) :
    trace.countP (Output.settles setup id) = 0 := by
  have holds : (state.attempts name).holding = some job := by
    rw [here]
    rfl
  apply List.countP_eq_zero.mpr
  intro output member settles
  cases output with
  | completed other outcome ran time =>
      simp only [Output.settles, Bool.and_eq_true, beq_iff_eq,
        Option.isNone_iff_eq_none] at settles
      obtain ⟨_, _, called | gone⟩ :=
        held.settled other outcome ran time member settles.1 settles.2
      · have same := held.faithful.leased.alone holds
          (show (state.attempts other).holding = some ran by
            rw [called]
            rfl) (sameID.trans settles.1.symm)
        rw [same, called] at here
        cases here
      · obtain ⟨row, stored, keyed, _⟩ := held.faithful.leased.current holds
        exact gone row stored (keyed.trans sameID)
  | _ => cases settles

theorem Transition.completed
    (transition : Transition setup state event next shown) {name : Name}
    {outcome : Outcome} {ran : Job} {time : Int}
    (completed : .completed name outcome ran time ∈ shown) :
    state.attempts name = .running ran ∧
      next.attempts name = .called (setup.afterCallback outcome time ran) ∧
      next.nextID = state.nextID ∧ event = .callback name outcome ∧
      shown = [.completed name outcome ran time] := by
  cases transition with
  | callback actor met job here =>
      simp only [List.mem_singleton, Output.completed.injEq] at completed
      obtain ⟨rfl, rfl, rfl, rfl⟩ := completed
      exact ⟨here, set_attempts_self _ _ _, rfl, rfl, rfl⟩
  | _ => simp at completed

theorem Settled.step (held : Settled setup id trace state)
    (steady : event.steady = true)
    (stepped : setup.step state event = some (next, shown)) :
    Settled setup id (trace ++ shown) next := by
  have leased := held.faithful.leased
  have transition := step_transition leased.sound stepped
  have clears := Event.clears_of_steady steady
  refine ⟨held.faithful.step clears stepped, ?_, ?_⟩
  · intro name outcome ran time completed sameID asked
    rcases List.mem_append.mp completed with before | now
    · exact held.settled_step transition steady before sameID asked
    · obtain ⟨here, after, sameNext, _, _⟩ := transition.completed now
      obtain ⟨_, notRetried, _⟩ :=
        held.faithful.mirror name ran (by rw [here]; rfl)
      obtain ⟨row, stored, keyed, _⟩ := leased.current
        (show (state.attempts name).holding = some ran by rw [here]; rfl)
      have old : id < state.nextID := by
        have known := leased.sound.known row stored
        rw [keyed] at known
        exact sameID ▸ known
      refine ⟨sameNext ▸ old, notRetried, .inl ?_⟩
      rw [after, Setup.afterCallback, asked]
  · rw [List.countP_append]
    by_cases new : shown.countP (Output.settles setup id) = 0
    · rw [new]
      exact held.once
    · obtain ⟨output, member, settles⟩ :=
        List.countP_pos_iff.mp (Nat.pos_of_ne_zero new)
      cases output with
      | completed name outcome ran time =>
          obtain ⟨here, _, _, _, rfl⟩ := transition.completed member
          have sameID : ran.id = id := by
            simp only [Output.settles, Bool.and_eq_true,
              beq_iff_eq] at settles
            exact settles.1
          have short := List.countP_le_length (p := Output.settles setup id)
            (l := [Output.completed name outcome ran time])
          rw [held.unsettled here sameID, Nat.zero_add]
          exact short
      | _ => cases settles

theorem Initial.settled (initial : Initial state) :
    Settled setup id [] state :=
  ⟨initial.faithful, fun _ _ _ _ member => by simp at member, by simp⟩

/-- In every steady run at most one callback leaves the job without a retry. -/
theorem run_settled {events : List (Event Instance Name Outcome)}
    {condition : State Instance Name → Event Instance Name Outcome → Prop}
    (steady : ∀ state event, condition state event → event.steady = true)
    (initial : Initial state)
    (guarded : setup.machine.Guarded condition events state)
    (success : setup.machine.run events state = some (final, trace)) :
    Settled setup id trace final := by
  have rule := setup.machine.run_invariant condition (Settled setup id)
    (fun _ state event _ _ held met =>
      held.step (steady state event met))
  exact rule events [] state final trace initial.settled guarded success

end Notifications.Gobble
