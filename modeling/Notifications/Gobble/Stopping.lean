import Notifications.Gobble.Exclusivity

/-!
# Halting workers and closing the queue

`Perform` abandons its reservation goroutine when `Halt` wins the `select`.  The
goroutine goes on to reserve a row and, unless it finds the queue closed at the
one moment it looks, blocks in `channel <- job` with nobody left to receive: the
row stays reserved until some process starts again and unlocks it.

`Orderly` is the discipline under which this cannot happen.
-/

set_option autoImplicit false
set_option linter.unusedSectionVars false

namespace Notifications.Gobble

open Notifications.Lib Notifications.Lib.Versioned

def Event.restarts {Instance Name Outcome : Type} :
    Event Instance Name Outcome → Bool
  | .unlock _ => true
  | .crash _ => true
  | _ => false

/-- The goroutine is in `channel <- job` and its worker has returned. -/
def Attempt.abandoned : Attempt → Bool
  | .reserving true (.sending _) => true
  | _ => false

/-- `ShouldRetry` is set by the callback only, and with it `WorkerID` is
cleared. -/
def Attempt.Flagged : Attempt → Prop
  | .reserving _ (.found job) | .reserving _ (.taken job) |
      .reserving _ (.releasing job) | .reserving _ (.sending job) |
      .running job => job.shouldRetry = false
  | .called job => job.shouldRetry = true → job.workerID = ""
  | _ => True

variable {Instance Name Outcome : Type} [DecidableEq Instance]
  [DecidableEq Name]

/-- The row is reserved, nobody runs the callback on it, and as long as no
process restarts nobody ever receives the job or gives the row back. -/
def Stranded (setup : Setup Instance Name Outcome)
    (state : State Instance Name) (row : Row) : Prop :=
  row ∈ state.jobs ∧ row.workerID ≠ "" ∧
    (∀ name job, state.attempts name = .running job ∨
      state.attempts name = .called job → job.id ≠ row.id) ∧
    ∀ (events : List (Event Instance Name Outcome)) final trace,
      (∀ event ∈ events, event.restarts = false) →
        setup.machine.run events state = some (final, trace) →
          row ∈ final.jobs ∧
            ∀ name job time, .started name job time ∈ trace → job.id ≠ row.id

/-- Nobody halts a worker whose goroutine is already sending, and the goroutine
of a halted worker finds the queue closed. -/
def Orderly (setup : Setup Instance Name Outcome)
    (state : State Instance Name) : Event Instance Name Outcome → Prop
  | .halt name => ∀ job, state.attempts name ≠ .reserving false (.sending job)
  | .readClosed name => ∀ job,
      state.attempts name = .reserving true (.taken job) →
        state.closed (setup.inst name) = true
  | _ => True

variable {setup : Setup Instance Name Outcome}
  {state next final : State Instance Name}
  {events : List (Event Instance Name Outcome)}
  {shown trace : List (Output Name Outcome)}

theorem Event.clears_of_calm {event : Event Instance Name Outcome}
    (calm : event.restarts = false) : event.clears = false := by
  cases event <;> first | rfl | cases calm

/-- While no process ends, a step leaves the other attempts alone. -/
theorem Leased.others_same {event : Event Instance Name Outcome} {name : Name}
    (leased : Leased state)
    (transition : Transition setup state event next shown)
    (calm : event.restarts = false) (other : event.actor ≠ some name) :
    next.attempts name = state.attempts name := by
  have differs : ∀ actor, event.actor = some actor → name ≠ actor := by
    intro actor mine same
    exact other (by rw [mine, same])
  cases transition with
  | tick | enqueue | startWorkers | close => rfl
  | unlock | crash => cases calm
  | panic actor job here missing =>
      exact absurd (current_of_called leased.exclusive here) missing
  | perform actor | find actor | take actor | miss actor | readClosed actor
  | release actor | releaseMiss actor | receive actor | halt actor
  | callback actor | requeue actor | dequeue actor =>
      exact set_attempts_of_ne _ _ (differs actor rfl)

/-! ## An abandoned goroutine strands its row -/

theorem Transition.not_abandoned {event : Event Instance Name Outcome}
    {name : Name} (transition : Transition setup state event next shown)
    (mine : event.actor = some name) :
    (state.attempts name).abandoned = false := by
  cases transition with
  | tick | enqueue | unlock | startWorkers | close | crash => cases mine
  | perform actor here | callback actor _ _ here | requeue actor _ here
  | panic actor _ here => cases mine; rw [here]; rfl
  | dequeue actor _ _ here => cases mine; rw [here]; rfl
  | receive actor _ here => cases mine; rw [here]; rfl
  | halt actor stage here => cases mine; rw [here]; cases stage <;> rfl
  | find actor halted _ here | take actor halted _ here
  | miss actor halted _ here | readClosed actor halted _ here
  | release actor halted _ here | releaseMiss actor halted _ here =>
      cases mine
      rw [here]
      cases halted <;> rfl

theorem Attempt.abandoned_eq_true {attempt : Attempt}
    (abandoned : attempt.abandoned = true) :
    ∃ job, attempt = .reserving true (.sending job) := by
  unfold Attempt.abandoned at abandoned
  split at abandoned
  · rename_i job
    exact ⟨job, rfl⟩
  · cases abandoned

/-- A job that is started was held by the attempt that starts it. -/
theorem Transition.started {event : Event Instance Name Outcome} {name : Name}
    {job : Job} {time : Int}
    (transition : Transition setup state event next shown)
    (member : .started name job time ∈ shown) :
    event.actor = some name ∧ (state.attempts name).holding = some job := by
  cases transition with
  | receive actor sent here =>
      simp only [List.mem_singleton, Output.started.injEq] at member
      obtain ⟨rfl, rfl, _⟩ := member
      refine ⟨rfl, ?_⟩
      rw [here]
      rfl
  | _ => simp at member

theorem abandoned_run {name : Name} {job : Job} {row : Row}
    (leased : Leased state)
    (here : state.attempts name = .reserving true (.sending job))
    (member : row ∈ state.jobs) (sameID : row.id = job.id)
    (calm : ∀ event ∈ events, event.restarts = false)
    (success : setup.machine.run events state = some (final, trace)) :
    row ∈ final.jobs ∧
      ∀ other started time, .started other started time ∈ trace →
        started.id ≠ row.id := by
  have guarded : setup.machine.Guarded
      (fun _ event => event.restarts = false) events state :=
    setup.machine.guarded_of_forall (fun _ event found => calm event found) state
  have rule := setup.machine.run_invariant
    (fun _ event => event.restarts = false)
    (fun trace state => Leased state ∧
      state.attempts name = .reserving true (.sending job) ∧
      row ∈ state.jobs ∧ ∀ other started time,
        .started other started time ∈ trace → started.id ≠ row.id)
  have result := rule ?_ events [] state final trace
    ⟨leased, here, member, by simp⟩ guarded success
  · exact result.2.2
  · intro soFar middle event there shown held calm stepped
    obtain ⟨leased, here, member, quiet⟩ := held
    have transition := step_transition leased.sound stepped
    have holds : (middle.attempts name).holding = some job := by
      rw [here]
      rfl
    have other : event.actor ≠ some name := by
      intro mine
      have free := transition.not_abandoned mine
      rw [here] at free
      cases free
    refine ⟨leased.step (Event.clears_of_calm calm) stepped, ?_,
      leased.row_kept transition (Event.clears_of_calm calm) other holds member
        sameID, ?_⟩
    · rw [leased.others_same transition calm other, here]
    · intro starter started time found same
      rcases List.mem_append.mp found with earlier | now
      · exact quiet starter started time earlier same
      · obtain ⟨mine, startedHolds⟩ := transition.started now
        have equal := leased.alone startedHolds holds (same.trans sameID)
        exact other (by rw [mine, equal])

theorem stranded_of_abandoned {name : Name} (leased : Leased state)
    (abandoned : (state.attempts name).abandoned = true) :
    ∃ row, Stranded setup state row := by
  obtain ⟨job, here⟩ := Attempt.abandoned_eq_true abandoned
  have holds : (state.attempts name).holding = some job := by
    rw [here]
    rfl
  obtain ⟨row, member, sameID, _, reserved⟩ :=
    leased.exclusive.held name job.toRow (Leased.client_of_holding holds)
  refine ⟨row, member, reserved, ?_, ?_⟩
  · intro other taken busy same
    have otherHolds : (state.attempts other).holding = some taken := by
      rcases busy with running | called
      · rw [running]
        rfl
      · rw [called]
        rfl
    have equal := leased.alone otherHolds holds (same.trans sameID)
    rw [equal, here] at busy
    rcases busy with bad | bad <;> cases bad
  · intro events final trace calm success
    exact abandoned_run leased here member sameID calm success

/-! ## Every reserved row has a holder -/

theorem Attempt.flagged_kill (attempt : Attempt) : attempt.kill.Flagged := by
  cases attempt <;> trivial

theorem Setup.afterCallback_flagged (outcome : Outcome) (now : Int) {job : Job}
    (fresh : job.shouldRetry = false) :
    (Attempt.called (setup.afterCallback outcome now job)).Flagged := by
  simp only [Setup.afterCallback]
  split
  · intro retries
    rw [fresh] at retries
    cases retries
  · intro _
    rfl

theorem Transition.flagged {event : Event Instance Name Outcome} {name : Name}
    (transition : Transition setup state event next shown)
    (flagged : (state.attempts name).Flagged) :
    (next.attempts name).Flagged := by
  by_cases mine : event.actor = some name
  · cases transition with
    | tick | enqueue | unlock | startWorkers | close | crash => cases mine
    | perform actor | miss actor | release actor | releaseMiss actor
    | requeue actor | dequeue actor =>
        cases mine
        rw [set_attempts_self]
        trivial
    | find actor =>
        cases mine
        rw [set_attempts_self]
        rfl
    | take actor halted job here =>
        cases mine
        rw [here] at flagged
        rw [set_attempts_self]
        exact flagged
    | readClosed actor halted job here =>
        cases mine
        rw [here] at flagged
        rw [set_attempts_self]
        split <;> exact flagged
    | receive actor job here =>
        cases mine
        rw [here] at flagged
        rw [set_attempts_self]
        exact flagged
    | halt actor stage here =>
        cases mine
        rw [here] at flagged
        rw [set_attempts_self]
        cases stage <;> exact flagged
    | callback actor outcome job here =>
        cases mine
        rw [here] at flagged
        rw [set_attempts_self]
        exact setup.afterCallback_flagged outcome state.now flagged
    | panic actor job here missing =>
        cases mine
        rcases crash_attempts (setup.inst name) name with same | killed
        · rw [same]
          exact flagged
        · rw [killed]
          exact Attempt.flagged_kill _
  · rcases transition.not_mine mine with same | killed
    · rw [same]
      exact flagged
    · rw [killed]
      exact Attempt.flagged_kill _

def State.Covers (state : State Instance Name) (row : Row) : Prop :=
  ∃ name job, (state.attempts name).holding = some job ∧ job.id = row.id

/-- In a system without restarts every reserved row has a holder. -/
structure Covered (state : State Instance Name) : Prop where
  leased : Leased state
  flagged : ∀ name, (state.attempts name).Flagged
  covered : ∀ row ∈ state.jobs, row.workerID ≠ "" → state.Covers row

/-- The holder of a row is still its holder when another attempt moves. -/
theorem State.Covers.set {row : Row} (covers : state.Covers row) {actor : Name}
    (attempt : Attempt) (jobs : List Row)
    (other : ∀ job, (state.attempts actor).holding = some job →
      job.id ≠ row.id) :
    State.Covers ({ state with jobs := jobs }.set actor attempt) row := by
  obtain ⟨name, job, holds, sameID⟩ := covers
  have differs : name ≠ actor := by
    intro same
    rw [same] at holds
    exact other job holds sameID
  refine ⟨name, job, ?_, sameID⟩
  rw [set_attempts_of_ne _ _ differs]
  exact holds

/-- The attempt moves and holds the same row as before. -/
theorem State.Covers.move {row : Row} (covers : state.Covers row) {actor : Name}
    {attempt : Attempt}
    (keeps : ∀ job, (state.attempts actor).holding = some job →
      ∃ later, attempt.holding = some later ∧ later.id = job.id) :
    (state.set actor attempt).Covers row := by
  obtain ⟨name, job, holds, sameID⟩ := covers
  by_cases same : name = actor
  · subst same
    obtain ⟨later, laterHolds, laterID⟩ := keeps job holds
    refine ⟨name, later, ?_, laterID.trans sameID⟩
    rw [set_attempts_self]
    exact laterHolds
  · refine ⟨name, job, ?_, sameID⟩
    rw [set_attempts_of_ne _ _ same]
    exact holds

/-- A row that a write of its holder does not hit keeps another holder. -/
theorem Covered.missed {row : Row} (held : Covered state) {actor : Name}
    {job : Job} (holds : (state.attempts actor).holding = some job)
    (member : row ∈ state.jobs) (reserved : row.workerID ≠ "")
    (differs : ¬ (row.id = job.id ∧ row.version = job.version))
    (attempt : Attempt) (jobs : List Row) :
    State.Covers ({ state with jobs := jobs }.set actor attempt) row := by
  apply (held.covered row member reserved).set
  intro taken takenHolds
  rw [holds] at takenHolds
  cases takenHolds
  exact held.leased.other_row holds member differs

theorem Covered.covered_step {event : Event Instance Name Outcome}
    (held : Covered state)
    (transition : Transition setup state event next shown)
    (calm : event.restarts = false)
    (unreserved : ∀ job, event = .enqueue job → job.workerID = "") :
    ∀ row ∈ next.jobs, row.workerID ≠ "" → next.Covers row := by
  have leased := held.leased
  have old := held.covered
  intro row member reserved
  cases transition with
  | tick | startWorkers | close => exact old row member reserved
  | unlock | crash => cases calm
  | enqueue job =>
      rcases List.mem_append.mp member with before | added
      · exact old row before reserved
      · rw [List.mem_singleton.mp added] at reserved
        exact absurd (unreserved job rfl) reserved
  | perform actor here | find actor _ _ here | miss actor _ _ here =>
      apply (old row member reserved).set
      intro job holds
      rw [here] at holds
      cases holds
  | take actor halted job here current =>
      rcases mem_updated.mp member with ⟨before, _⟩ | ⟨_, rfl⟩
      · apply (old row before reserved).set
        intro taken holds
        rw [here] at holds
        cases holds
      · refine ⟨actor, updatedJob job (setup.workerID actor), ?_, rfl⟩
        rw [set_attempts_self]
        rfl
  | readClosed actor halted job here =>
      apply (old row member reserved).move
      intro taken holds
      rw [here] at holds
      refine ⟨taken, ?_, rfl⟩
      split <;> exact holds
  | release actor halted job here current =>
      rcases mem_updated.mp member with ⟨before, differs⟩ | ⟨_, rfl⟩
      · exact held.missed (by rw [here]; rfl) before reserved differs _ _
      · exact absurd rfl reserved
  | releaseMiss actor halted job here missing =>
      exact absurd (leased.current (by rw [here]; rfl)) missing
  | receive actor job here =>
      apply (old row member reserved).move
      intro taken holds
      rw [here] at holds
      exact ⟨taken, holds, rfl⟩
  | halt actor stage here =>
      apply (old row member reserved).move
      intro taken holds
      rw [here] at holds
      refine ⟨taken, ?_, rfl⟩
      cases stage <;> exact holds
  | callback actor outcome job here =>
      apply (old row member reserved).move
      intro taken holds
      rw [here] at holds
      cases holds
      exact ⟨_, rfl, setup.afterCallback_id outcome state.now job⟩
  | requeue actor job here retries current =>
      rcases mem_updated.mp member with ⟨before, differs⟩ | ⟨_, rfl⟩
      · exact held.missed (by rw [here]; rfl) before reserved differs _ _
      · have flagged := held.flagged actor
        rw [here] at flagged
        exact absurd (flagged retries) reserved
  | dequeue actor job found here done foundMember =>
      obtain ⟨before, differs⟩ := mem_deleted.mp member
      exact held.missed (by rw [here]; rfl) before reserved differs _ _
  | panic actor job here missing =>
      exact absurd (leased.current (by rw [here]; rfl)) missing

theorem run_covered (initial : Initial state)
    (calm : ∀ event ∈ events, event.restarts = false)
    (unreserved : ∀ job, .enqueue job ∈ events → job.workerID = "")
    (success : setup.machine.run events state = some (final, trace)) :
    Covered final := by
  have start : Covered state := by
    refine ⟨initial.leased, ?_, ?_⟩
    · intro name
      rw [initial.attempts name]
      trivial
    · intro row member
      simp [initial.jobs] at member
  have guarded : setup.machine.Guarded
      (fun _ event => event.restarts = false ∧
        ∀ job, event = .enqueue job → job.workerID = "") events state := by
    apply setup.machine.guarded_of_forall
    intro _ event member
    refine ⟨calm event member, ?_⟩
    intro job same
    rw [same] at member
    exact unreserved job member
  refine setup.machine.run_state_invariant _ Covered ?_ start guarded success
  intro here event there shown held condition stepped
  have transition := step_transition held.leased.sound stepped
  exact {
    leased := held.leased.step (Event.clears_of_calm condition.1) stepped
    flagged := fun name => transition.flagged (held.flagged name)
    covered := held.covered_step transition condition.1 condition.2 }

/-! ## A row whose holder was not abandoned is not stranded -/

theorem release_frees {name : Name} {halted : Bool} {job : Job} {row : Row}
    (leased : Leased state)
    (here : state.attempts name = .reserving halted (.releasing job))
    (member : row ∈ state.jobs) (sameID : row.id = job.id) :
    ∃ final trace, setup.machine.run [.release name] state =
      some (final, trace) ∧ row ∉ final.jobs := by
  have holds : (state.attempts name).holding = some job := by
    rw [here]
    rfl
  have positive := version_pos_of_holding leased.sound holds
  have current := leased.current holds
  have stepped : setup.step state (.release name) = some
      ({ state with
        jobs := updateWhere (matched job.toRow job.version)
          (fun _ => (updatedJob job "").toRow) state.jobs }.set name
        (.reserving halted .gone), [.released name]) := by
    simp only [Setup.step, here, updateJob_of_current positive current]
  refine ⟨_, _, setup.machine.run_of_step stepped rfl, ?_⟩
  intro still
  rcases mem_updated.mp still with ⟨_, differs⟩ | ⟨_, written⟩
  · exact leased.other_row holds member differs sameID.symm
  · obtain ⟨found, foundMember, foundID, foundVersion⟩ := current
    have equal : row = found :=
      leased.sound.unique.eq_of_mem member foundMember
        (sameID.trans foundID.symm)
    have sameVersion : row.version = job.version := by
      rw [equal]
      exact foundVersion
    rw [written] at sameVersion
    exact absurd sameVersion (Nat.succ_ne_self _)

/-- The goroutine finds the queue closed and gives the row back. -/
theorem close_frees {name : Name} {halted : Bool} {job : Job} {row : Row}
    (leased : Leased state)
    (here : state.attempts name = .reserving halted (.taken job))
    (member : row ∈ state.jobs) (sameID : row.id = job.id) :
    ∃ final trace, setup.machine.run
      [.close (setup.inst name), .readClosed name, .release name] state =
        some (final, trace) ∧ row ∉ final.jobs := by
  let closed : State Instance Name :=
    { state with closed := Function.update state.closed (setup.inst name) true }
  have closes : setup.step state (.close (setup.inst name)) =
      some (closed, []) := rfl
  have reads : setup.step closed (.readClosed name) = some
      (closed.set name (.reserving halted (.releasing job)), []) := by
    simp [Setup.step, closed, here]
  have leasedNext := (leased.step rfl closes).step rfl reads
  obtain ⟨final, trace, success, gone⟩ := release_frees leasedNext
    (set_attempts_self _ name _) member sameID
  exact ⟨final, _, setup.machine.run_of_step closes
    (setup.machine.run_of_step reads success), gone⟩

theorem not_stranded_of_holder {name : Name} {job : Job} {row : Row}
    (leased : Leased state)
    (holds : (state.attempts name).holding = some job)
    (sameID : job.id = row.id)
    (live : (state.attempts name).abandoned = false) :
    ¬ Stranded setup state row := by
  intro stranded
  obtain ⟨member, _, idle, forever⟩ := stranded
  cases here : state.attempts name with
  | idle => rw [here] at holds; cases holds
  | returned => rw [here] at holds; cases holds
  | dead => rw [here] at holds; cases holds
  | running copy =>
      rw [here] at holds
      cases holds
      exact idle name job (.inl here) sameID
  | called copy =>
      rw [here] at holds
      cases holds
      exact idle name job (.inr here) sameID
  | reserving halted stage =>
      rw [here] at holds
      cases stage with
      | finding => cases holds
      | found copy => cases holds
      | gone => cases holds
      | taken copy =>
          cases holds
          obtain ⟨final, trace, success, gone⟩ := close_frees leased here
            member sameID.symm
          exact gone (forever _ final trace (by simp [Event.restarts])
            success).1
      | releasing copy =>
          cases holds
          obtain ⟨final, trace, success, gone⟩ := release_frees leased here
            member sameID.symm
          exact gone (forever _ final trace (by simp [Event.restarts])
            success).1
      | sending copy =>
          cases holds
          cases halted with
          | true => rw [here] at live; cases live
          | false =>
              have stepped : setup.step state (.receive name) = some
                  (state.set name (.running job),
                    [.started name job state.now]) := by
                simp only [Setup.step, here]
              have never := (forever [.receive name] _ _
                (by simp [Event.restarts])
                (setup.machine.run_of_step stepped rfl)).2
              exact never name job state.now (by simp) sameID

/-! ## Orderly runs -/

theorem Orderly.not_abandoned {event : Event Instance Name Outcome}
    (orderly : Orderly setup state event)
    (transition : Transition setup state event next shown) {name : Name}
    (live : (state.attempts name).abandoned = false) :
    (next.attempts name).abandoned = false := by
  by_cases mine : event.actor = some name
  · cases transition with
    | tick | enqueue | unlock | startWorkers | close | crash => cases mine
    | perform actor | receive actor | callback actor | requeue actor
    | dequeue actor =>
        cases mine
        rw [set_attempts_self]
        rfl
    | find actor halted | take actor halted | miss actor halted
    | release actor halted | releaseMiss actor halted =>
        cases mine
        rw [set_attempts_self]
        cases halted <;> rfl
    | readClosed actor halted job here =>
        cases mine
        rw [set_attempts_self]
        cases halted with
        | false => split <;> rfl
        | true => rw [if_pos (orderly job here)]; rfl
    | halt actor stage here =>
        cases mine
        rw [set_attempts_self]
        cases stage with
        | sending job => exact absurd here (orderly job)
        | finding => rfl
        | found job => rfl
        | taken job => rfl
        | releasing job => rfl
        | gone => rfl
    | panic actor job here missing =>
        cases mine
        rcases crash_attempts (setup.inst name) name with same | killed
        · rw [same]
          exact live
        · rw [killed, here]
          rfl
  · rcases transition.not_mine mine with same | killed
    · rw [same]
      exact live
    · rw [killed]
      cases state.attempts name <;> rfl

theorem abandoned_of_not_orderly {event : Event Instance Name Outcome}
    (transition : Transition setup state event next shown)
    (disorderly : ¬ Orderly setup state event) :
    ∃ name, (next.attempts name).abandoned = true := by
  cases transition with
  | halt actor stage here =>
      simp only [Orderly, ne_eq, not_forall, not_not] at disorderly
      obtain ⟨job, sending⟩ := disorderly
      rw [here] at sending
      cases sending
      refine ⟨actor, ?_⟩
      rw [set_attempts_self]
      rfl
  | readClosed actor halted job here =>
      simp only [Orderly, not_forall] at disorderly
      obtain ⟨copy, taken, opened⟩ := disorderly
      rw [here] at taken
      cases taken
      refine ⟨actor, ?_⟩
      rw [set_attempts_self, if_neg opened]
      rfl
  | _ => exact absurd trivial disorderly

theorem abandoned_forever {name : Name} (leased : Leased state)
    (abandoned : (state.attempts name).abandoned = true)
    (calm : ∀ event ∈ events, event.restarts = false)
    (success : setup.machine.run events state = some (final, trace)) :
    (final.attempts name).abandoned = true := by
  have guarded : setup.machine.Guarded
      (fun _ event => event.restarts = false) events state :=
    setup.machine.guarded_of_forall (fun _ event found => calm event found) state
  have rule := setup.machine.run_state_invariant
    (fun _ event => event.restarts = false)
    (fun state => Leased state ∧ (state.attempts name).abandoned = true)
  have result := rule ?_ ⟨leased, abandoned⟩ guarded success
  · exact result.2
  · intro here event there shown held calm stepped
    obtain ⟨leased, abandoned⟩ := held
    have transition := step_transition leased.sound stepped
    refine ⟨leased.step (Event.clears_of_calm calm) stepped, ?_⟩
    rw [leased.others_same transition calm]
    · exact abandoned
    · intro mine
      have free := transition.not_abandoned mine
      rw [abandoned] at free
      cases free

theorem orderly_of_not_abandoned (leased : Leased state)
    (calm : ∀ event ∈ events, event.restarts = false)
    (success : setup.machine.run events state = some (final, trace))
    (live : ∀ name, (final.attempts name).abandoned = false) :
    setup.machine.Guarded (Orderly setup) events state := by
  induction events generalizing state trace with
  | nil => trivial
  | cons event rest ih =>
      obtain ⟨next, shown, later, stepped, runs, _⟩ :=
        setup.machine.run_cons success
      have transition := step_transition leased.sound stepped
      have calmHere := calm event (by simp)
      have calmRest : ∀ event ∈ rest, event.restarts = false :=
        fun event member => calm event (by simp [member])
      have leasedNext := leased.step (Event.clears_of_calm calmHere) stepped
      refine ⟨?_, ?_⟩
      · by_contra disorderly
        obtain ⟨name, abandoned⟩ :=
          abandoned_of_not_orderly transition disorderly
        have still := abandoned_forever leasedNext abandoned calmRest runs
        rw [live name] at still
        cases still
      · intro other otherShown otherStepped
        rw [stepped] at otherStepped
        cases otherStepped
        exact ih leasedNext calmRest runs

/-- Without restarts, a run strands no job exactly when nobody halts a worker
whose goroutine is already sending and the goroutine of every halted worker
finds the queue closed. -/
theorem stopping_strands_no_job_iff (initial : Initial state)
    (calm : ∀ event ∈ events, event.restarts = false)
    (unreserved : ∀ job, .enqueue job ∈ events → job.workerID = "")
    (success : setup.machine.run events state = some (final, trace)) :
    (∀ row, ¬ Stranded setup final row) ↔
      setup.machine.Guarded (Orderly setup) events state := by
  have covered := run_covered initial calm unreserved success
  constructor
  · intro none
    apply orderly_of_not_abandoned initial.leased calm success
    intro name
    cases abandoned : (final.attempts name).abandoned with
    | false => rfl
    | true =>
        obtain ⟨row, stranded⟩ :=
          stranded_of_abandoned covered.leased abandoned
        exact absurd stranded (none row)
  · intro orderly row stranded
    have rule := setup.machine.run_state_invariant
      (Orderly setup) (fun state => Lease.Sound (state.view true) ∧
        ∀ name, (state.attempts name).abandoned = false)
    have live := rule ?_ ⟨initial.sound, ?_⟩ orderly success
    · obtain ⟨name, job, holds, sameID⟩ :=
        covered.covered row stranded.1 stranded.2.1
      exact not_stranded_of_holder covered.leased holds sameID (live.2 name)
        stranded
    · intro here event there shown held orderly stepped
      have transition := step_transition held.1 stepped
      exact ⟨(step_refines held.1 stepped).sound held.1,
        fun name => orderly.not_abandoned transition (held.2 name)⟩
    · intro name
      rw [initial.attempts name]
      rfl

/-- The worker is halted between reserving the job and receiving it. -/
theorem halted_worker_strands_its_job :
    ∃ final trace, pair.machine.run
        [.enqueue (newJob "mail"), .perform false, .findJob false 1,
          .updateJob false, .readClosed false, .halt false] pairStart =
            some (final, trace) ∧
      (∃ stage, final.attempts false = .reserving true stage) ∧
      ∃ row, Stranded pair final row := by
  have success : pair.machine.run
      [.enqueue (newJob "mail"), .perform false, .findJob false 1,
        .updateJob false, .readClosed false, .halt false] pairStart =
          some (_, _) := rfl
  have covered := run_covered pairStart_initial (by decide) (by simp [newJob])
    success
  refine ⟨_, _, success, ⟨_, rfl⟩, ?_⟩
  apply stranded_of_abandoned covered.leased
  show (State.attempts _ false).abandoned = true
  rfl

/-- The queue is closed and then the worker halted: the goroutine gives its job
back. -/
theorem closed_queue_strands_no_job :
    ∃ final trace, pair.machine.run
        [.enqueue (newJob "mail"), .perform false, .findJob false 1,
          .updateJob false, .close false, .halt false, .readClosed false,
          .release false] pairStart = some (final, trace) ∧
      ∀ row, ¬ Stranded pair final row := by
  have success : pair.machine.run
      [.enqueue (newJob "mail"), .perform false, .findJob false 1,
        .updateJob false, .close false, .halt false, .readClosed false,
        .release false] pairStart = some (_, _) := rfl
  refine ⟨_, _, success, ?_⟩
  apply (stopping_strands_no_job_iff pairStart_initial (by decide)
    (by simp [newJob]) success).mpr
  apply orderly_of_not_abandoned pairStart_initial.leased (by decide) success
  decide

end Notifications.Gobble
