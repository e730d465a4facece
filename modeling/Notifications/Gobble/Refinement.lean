import Notifications.Gobble.System

/-!
# The worker system refines the lease protocol

An attempt between a successful `updateJob` of `reserve` and its `Requeue`,
`Dequeue` or release holds a lease on the job's row; an attempt between
`findJob` and `updateJob` has seen it.  Every step of the system is one step of
the protocol, and only `Unlock` clears leases.

The refinement holds for two readings of who has a lease: everybody who
reserved a row, or only those who can still come to run the callback on it.
-/

set_option autoImplicit false
set_option linter.unusedSectionVars false

namespace Notifications.Gobble

open Notifications.Lib Notifications.Lib.Versioned

/-- Rows that `findJob` may return. -/
def Row.Free (row : Row) : Prop := row.workerID = ""

/-- The job an attempt has reserved and not yet requeued, dequeued or
released. -/
def Attempt.holding : Attempt → Option Job
  | .reserving _ (.taken job) => some job
  | .reserving _ (.releasing job) => some job
  | .reserving _ (.sending job) => some job
  | .running job => some job
  | .called job => some job
  | _ => none

/-- The worker has been halted, or the goroutine is giving the job back: the
callback will not run. -/
def Attempt.withdrawn : Attempt → Bool
  | .reserving true _ => true
  | .reserving false (.releasing _) => true
  | _ => false

/-- With `all`, withdrawn attempts count as holders too. -/
def Attempt.client (all : Bool) (attempt : Attempt) : Lease.Client Row :=
  match attempt.holding with
  | some job =>
      if all || !attempt.withdrawn then .holds job.toRow else .seen job.toRow
  | none =>
      match attempt with
      | .reserving _ (.found job) => .seen job.toRow
      | _ => .away

variable {Instance Name Outcome : Type} [DecidableEq Instance]
  [DecidableEq Name]

def State.view (all : Bool) (state : State Instance Name) :
    Lease.State Row Name where
  rows := state.jobs
  fresh := state.nextID
  client name := (state.attempts name).client all

def Event.clears : Event Instance Name Outcome → Bool
  | .unlock _ => true
  | _ => false

@[simp] theorem Attempt.client_idle (all : Bool) :
    Attempt.idle.client all = .away := rfl

theorem Attempt.client_of_holding (all : Bool) {attempt : Attempt} {job : Job}
    (holds : attempt.holding = some job) :
    attempt.client all = .seen job.toRow ∨
      attempt.client all = .holds job.toRow := by
  simp only [Attempt.client, holds]
  split
  · exact .inr rfl
  · exact .inl rfl

theorem Attempt.keeps_of_holding (all : Bool) {attempt : Attempt} {job : Job}
    (holds : attempt.holding = some job) :
    (attempt.client all).Keeps job.toRow :=
  (Attempt.client_of_holding all holds).symm

theorem Attempt.client_eq_holds {all : Bool} {attempt : Attempt} {copy : Row} :
    attempt.client all = .holds copy ↔
      ∃ job, attempt.holding = some job ∧ job.toRow = copy ∧
        (all = true ∨ attempt.withdrawn = false) := by
  constructor
  · intro client
    cases held : attempt.holding with
    | none =>
        simp only [Attempt.client, held] at client
        split at client <;> cases client
    | some job =>
        simp only [Attempt.client, held] at client
        split at client
        · rename_i counted
          cases client
          exact ⟨job, rfl, rfl, by simpa using counted⟩
        · cases client
  · intro holds
    obtain ⟨job, held, rfl, counted⟩ := holds
    simp only [Attempt.client, held]
    rw [if_pos (by simpa using counted)]

theorem view_set (all : Bool) (state : State Instance Name) (name : Name)
    (attempt : Attempt) :
    (state.set name attempt).view all =
      { state.view all with
        client := Function.update (state.view all).client name
          (attempt.client all) } := by
  simp only [State.view, State.set, Lease.State.mk.injEq, true_and]
  funext other
  by_cases same : other = name
  · subst same
    simp
  · simp [Function.update_of_ne same]

section Steps

variable {all : Bool} {setup : Setup Instance Name Outcome}
  {state next : State Instance Name} {shown : List (Output Name Outcome)}

/-- A copy that has a version to lose: what `Gorp`'s contract asks for. -/
theorem version_pos_of_holding {name : Name} {job : Job}
    (sound : Lease.Sound (state.view all))
    (holds : (state.attempts name).holding = some job) : 0 < job.version :=
  sound.copyStarted name job.toRow (Attempt.client_of_holding all holds)

theorem updateJob_ok {jobs after : List Row} {job written : Job}
    {workerID : String} (positive : 0 < job.version)
    (ok : updateJob jobs job workerID = .ok (after, written)) :
    Current jobs job.toRow ∧ written = updatedJob job workerID ∧
      after = updateWhere (matched job.toRow job.version)
        (fun _ => (updatedJob job workerID).toRow) jobs := by
  by_cases current : Current jobs job.toRow
  · rw [updateJob_of_current positive current] at ok
    cases ok
    exact ⟨current, rfl, rfl⟩
  · rw [updateJob_of_not_current positive current] at ok
    cases ok

theorem updateJob_error {jobs : List Row} {job : Job} {workerID : String}
    (positive : 0 < job.version)
    (failed : updateJob jobs job workerID = .error .optimisticLockError) :
    ¬ Current jobs job.toRow := by
  intro current
  rw [updateJob_of_current positive current] at failed
  cases failed

theorem requeue_ok {jobs after : List Row} {job : Job}
    (positive : 0 < job.version) (ok : requeue jobs job = .ok after) :
    Current jobs job.toRow ∧ after =
      updateWhere (matched job.toRow job.version)
        (fun _ => requeuedRow job) jobs := by
  by_cases current : Current jobs job.toRow
  · rw [requeue_of_current positive current] at ok
    cases ok
    exact ⟨current, rfl⟩
  · rw [requeue_of_not_current positive current] at ok
    cases ok

theorem dequeue_ok {jobs after : List Row} {job : Job}
    (positive : 0 < job.version) (ok : dequeue jobs job = .ok after) :
    Current jobs job.toRow ∧
      after = deleteWhere (matched job.toRow job.version) jobs := by
  by_cases current : Current jobs job.toRow
  · rw [dequeue_of_current current] at ok
    cases ok
    exact ⟨current, rfl⟩
  · rw [dequeue_of_not_current positive current] at ok
    cases ok

/-- Everything a step can do once the copies are sound: a write finds the row
it expects, or it fails and changes nothing. -/
inductive Transition (setup : Setup Instance Name Outcome)
    (state : State Instance Name) :
    Event Instance Name Outcome → State Instance Name →
      List (Output Name Outcome) → Prop where
  | tick (elapsed : Nat) :
      Transition setup state (.tick elapsed)
        { state with now := state.now + elapsed } []
  | enqueue (job : Job) :
      Transition setup state (.enqueue job)
        { state with
          jobs := (enqueue state.nextID state.jobs job).1
          nextID := state.nextID + 1 }
        [.enqueued (enqueue state.nextID state.jobs job).2]
  | unlock (inst : Instance) (phase : Instance → Phase) :
      Transition setup state (.unlock inst)
        { state with jobs := unlock state.jobs, phase := phase } []
  | startWorkers (inst : Instance) (phase : Instance → Phase) :
      Transition setup state (.startWorkers inst)
        { state with phase := phase } []
  | close (inst : Instance) :
      Transition setup state (.close inst)
        { state with closed := Function.update state.closed inst true } []
  | crash (inst : Instance) :
      Transition setup state (.crash inst) (state.crash setup inst) []
  | perform (name : Name) (here : state.attempts name = .idle) :
      Transition setup state (.perform name)
        (state.set name (.reserving false .finding)) []
  | find (name : Name) (halted : Bool) (row : Row)
      (here : state.attempts name = .reserving halted .finding)
      (member : row ∈ state.jobs) (unreserved : row.Free)
      (due : row.activeAt ≤ state.now) :
      Transition setup state (.findJob name row.id)
        (state.set name (.reserving halted (.found row.toJob))) []
  | take (name : Name) (halted : Bool) (job : Job)
      (here : state.attempts name = .reserving halted (.found job))
      (current : Current state.jobs job.toRow) :
      Transition setup state (.updateJob name)
        ({ state with
          jobs := updateWhere (matched job.toRow job.version)
            (fun _ => (updatedJob job (setup.workerID name)).toRow)
            state.jobs }.set name
          (.reserving halted (.taken (updatedJob job (setup.workerID name)))))
        [.reserved name (updatedJob job (setup.workerID name))]
  | miss (name : Name) (halted : Bool) (job : Job)
      (here : state.attempts name = .reserving halted (.found job))
      (missing : ¬ Current state.jobs job.toRow) :
      Transition setup state (.updateJob name)
        (state.set name (.reserving halted .finding)) []
  | readClosed (name : Name) (halted : Bool) (job : Job)
      (here : state.attempts name = .reserving halted (.taken job)) :
      Transition setup state (.readClosed name)
        (state.set name (.reserving halted
          (if state.closed (setup.inst name)
            then .releasing job else .sending job))) []
  | release (name : Name) (halted : Bool) (job : Job)
      (here : state.attempts name = .reserving halted (.releasing job))
      (current : Current state.jobs job.toRow) :
      Transition setup state (.release name)
        ({ state with
          jobs := updateWhere (matched job.toRow job.version)
            (fun _ => (updatedJob job "").toRow) state.jobs }.set name
          (.reserving halted .gone)) [.released name]
  | releaseMiss (name : Name) (halted : Bool) (job : Job)
      (here : state.attempts name = .reserving halted (.releasing job))
      (missing : ¬ Current state.jobs job.toRow) :
      Transition setup state (.release name)
        (state.set name (.reserving halted .gone)) []
  | receive (name : Name) (job : Job)
      (here : state.attempts name = .reserving false (.sending job)) :
      Transition setup state (.receive name)
        (state.set name (.running job)) [.started name job state.now]
  | halt (name : Name) (stage : Stage)
      (here : state.attempts name = .reserving false stage) :
      Transition setup state (.halt name)
        (state.set name (.reserving true stage)) []
  | callback (name : Name) (outcome : Outcome) (job : Job)
      (here : state.attempts name = .running job) :
      Transition setup state (.callback name outcome)
        (state.set name (.called (setup.afterCallback outcome state.now job)))
        [.completed name outcome job state.now]
  | requeue (name : Name) (job : Job)
      (here : state.attempts name = .called job)
      (retries : job.shouldRetry = true)
      (current : Current state.jobs job.toRow) :
      Transition setup state (.finish name)
        ({ state with
          jobs := updateWhere (matched job.toRow job.version)
            (fun _ => requeuedRow job) state.jobs }.set name .returned)
        [.requeued name job]
  | dequeue (name : Name) (job : Job) (row : Row)
      (here : state.attempts name = .called job)
      (done : job.shouldRetry = false) (member : row ∈ state.jobs)
      (sameID : row.id = job.id) (sameVersion : row.version = job.version) :
      Transition setup state (.finish name)
        ({ state with
          jobs := deleteWhere (matched job.toRow job.version)
            state.jobs }.set name .returned)
        [.dequeued name job [row]]
  | panic (name : Name) (job : Job)
      (here : state.attempts name = .called job)
      (missing : ¬ Current state.jobs job.toRow) :
      Transition setup state (.finish name)
        (state.crash setup (setup.inst name)) [.panicked name]

theorem finish_transition {name : Name} (sound : Lease.Sound (state.view all))
    (stepped : setup.step state (.finish name) = some (next, shown)) :
    Transition setup state (.finish name) next shown := by
  obtain ⟨job, here, result⟩ := step_finish stepped
  have holds : (state.attempts name).holding = some job := by
    rw [here]
    rfl
  have positive := version_pos_of_holding sound holds
  rcases result with
    ⟨_, retries, ok, rfl, rfl⟩ | ⟨_, done, ok, rfl, rfl⟩ | ⟨failed, rfl, rfl⟩
  · obtain ⟨current, rfl⟩ := requeue_ok positive ok
    exact .requeue name job here retries current
  · obtain ⟨⟨row, member, sameID, sameVersion⟩, rfl⟩ := dequeue_ok positive ok
    have deleted : state.jobs.filter (matched job.toRow job.version) = [row] :=
      filter_matched sound.unique member sameID sameVersion
    rw [deleted]
    exact .dequeue name job row here done member sameID sameVersion
  · apply Transition.panic name job here
    intro current
    rw [requeue_of_current positive current,
      dequeue_of_current current] at failed
    rcases failed with bad | bad <;> cases bad

theorem step_transition {event : Event Instance Name Outcome}
    (sound : Lease.Sound (state.view all))
    (stepped : setup.step state event = some (next, shown)) :
    Transition setup state event next shown := by
  cases event with
  | tick elapsed => cases stepped; exact .tick elapsed
  | enqueue job => cases stepped; exact .enqueue job
  | unlock inst => cases stepped; exact .unlock inst _
  | startWorkers inst =>
      obtain ⟨rfl, rfl⟩ := step_startWorkers stepped
      exact .startWorkers inst _
  | close inst => cases stepped; exact .close inst
  | crash inst => cases stepped; exact .crash inst
  | perform name =>
      obtain ⟨_, here, rfl, rfl⟩ := step_perform stepped
      exact .perform name here
  | findJob name id =>
      obtain ⟨halted, job, here, found, rfl, rfl⟩ := step_findJob stepped
      obtain ⟨row, member, rfl, rfl, unreserved, due⟩ := findJob_eq_some found
      exact .find name halted row here member unreserved due
  | updateJob name =>
      obtain ⟨halted, job, here, result⟩ := step_updateJob stepped
      have saw : (state.view all).client name = .seen job.toRow := by
        simp only [State.view, here]
        rfl
      have positive : 0 < job.version :=
        sound.copyStarted name job.toRow (.inl saw)
      rcases result with ⟨jobs, written, ok, rfl, rfl⟩ | ⟨failed, rfl, rfl⟩
      · obtain ⟨current, rfl, rfl⟩ := updateJob_ok positive ok
        exact .take name halted job here current
      · exact .miss name halted job here (updateJob_error positive failed)
  | readClosed name =>
      obtain ⟨halted, job, here, rfl, rfl⟩ := step_readClosed stepped
      exact .readClosed name halted job here
  | release name =>
      obtain ⟨halted, job, here, result⟩ := step_release stepped
      have holds : (state.attempts name).holding = some job := by
        rw [here]
        rfl
      have positive := version_pos_of_holding sound holds
      rcases result with ⟨jobs, written, ok, rfl, rfl⟩ | ⟨failed, rfl, rfl⟩
      · obtain ⟨current, _, rfl⟩ := updateJob_ok positive ok
        exact .release name halted job here current
      · exact .releaseMiss name halted job here
          (updateJob_error positive failed)
  | receive name =>
      obtain ⟨job, here, rfl, rfl⟩ := step_receive stepped
      exact .receive name job here
  | halt name =>
      obtain ⟨stage, here, rfl, rfl⟩ := step_halt stepped
      exact .halt name stage here
  | callback name outcome =>
      obtain ⟨job, here, rfl, rfl⟩ := step_callback stepped
      exact .callback name outcome job here
  | finish name => exact finish_transition sound stepped

theorem Transition.not_mine {event : Event Instance Name Outcome}
    (transition : Transition setup state event next shown) {name : Name}
    (other : event.actor ≠ some name) :
    next.attempts name = state.attempts name ∨
      next.attempts name = (state.attempts name).kill := by
  have differs : ∀ actor, event.actor = some actor → name ≠ actor := by
    intro actor mine same
    exact other (by rw [mine, same])
  cases transition with
  | tick | enqueue | unlock | startWorkers | close => exact .inl rfl
  | crash inst => exact crash_attempts inst name
  | panic actor job here missing => exact crash_attempts _ name
  | perform actor | find actor | take actor | miss actor | readClosed actor
  | release actor | releaseMiss actor | receive actor | halt actor
  | callback actor | requeue actor | dequeue actor =>
      exact .inl (set_attempts_of_ne _ _ (differs actor rfl))

theorem Transition.shown_le {event : Event Instance Name Outcome}
    (transition : Transition setup state event next shown) :
    shown.length ≤ 1 := by
  cases transition <;> simp

/-- Who has called back did so earlier or does so in this step. -/
theorem Transition.called {event : Event Instance Name Outcome} {name : Name}
    {job : Job} (transition : Transition setup state event next shown)
    (here : next.attempts name = .called job) :
    state.attempts name = .called job ∨
      ∃ outcome ran, state.attempts name = .running ran ∧
        shown = [.completed name outcome ran state.now] ∧
        job = setup.afterCallback outcome state.now ran ∧
        next.jobs = state.jobs ∧ next.now = state.now := by
  by_cases mine : event.actor = some name
  · cases transition with
    | tick | enqueue | unlock | startWorkers | close | crash => cases mine
    | perform actor | find actor | take actor | miss actor | readClosed actor
    | release actor | releaseMiss actor | receive actor | halt actor
    | requeue actor | dequeue actor =>
        cases mine
        rw [set_attempts_self] at here
        cases here
    | callback actor outcome ran running =>
        cases mine
        rw [set_attempts_self] at here
        cases here
        exact .inr ⟨outcome, ran, running, rfl, rfl, rfl, rfl⟩
    | panic actor copy before missing =>
        cases mine
        rcases crash_attempts (setup.inst name) name with same | killed
        · exact .inl (same.symm.trans here)
        · rw [killed, before] at here
          cases here
  · rcases transition.not_mine mine with same | killed
    · exact .inl (same.symm.trans here)
    · rw [killed] at here
      cases before : state.attempts name <;> rw [before] at here <;> cases here

/-! ## Refinement -/

/-- A step that leaves the table; the attempt has what it had, or gives it
up. -/
theorem refines_of_leave {name : Name} {attempt : Attempt}
    (left : attempt.client all = (state.attempts name).client all ∨
      attempt.client all = .away) :
    Lease.Step Row.Free false (state.view all)
      ((state.set name attempt).view all) := by
  rw [view_set]
  apply Lease.Step.leave
  intro other
  by_cases here : other = name
  · subst here
    simpa [State.view] using left
  · simp [Function.update_of_ne here]

theorem refines_of_same_view (same : next.view all = state.view all) :
    Lease.Step Row.Free false (state.view all) (next.view all) := by
  rw [same]
  exact Lease.Step.leave (state.view all).client fun _ => .inl rfl

/-- A step of a holder that stays one; once withdrawn it stays withdrawn. -/
theorem refines_of_holding {name : Name} {attempt : Attempt} {job later : Job}
    (held : (state.attempts name).holding = some job)
    (holds : attempt.holding = some later) (sameID : later.id = job.id)
    (sameVersion : later.version = job.version)
    (stays : (state.attempts name).withdrawn = true →
      later = job ∧ attempt.withdrawn = true) :
    Lease.Step Row.Free false (state.view all)
      ((state.set name attempt).view all) := by
  by_cases counted : all = true ∨ (state.attempts name).withdrawn = false
  · rw [view_set]
    exact Lease.Step.touch name job.toRow later.toRow
      (Attempt.client_eq_holds.mpr ⟨job, held, rfl, counted⟩) sameID
      sameVersion _ (Attempt.keeps_of_holding all holds)
  · simp only [not_or, Bool.not_eq_true, Bool.not_eq_false] at counted
    obtain ⟨notAll, withdrawn⟩ := counted
    obtain ⟨same, stillWithdrawn⟩ := stays withdrawn
    refine refines_of_leave (.inl ?_)
    simp [Attempt.client, held, holds, notAll, withdrawn, stillWithdrawn, same]

theorem Attempt.kill_client (attempt : Attempt) :
    attempt.kill.client all = .away := by
  cases attempt <;> rfl

theorem crash_refines (inst : Instance) :
    Lease.Step Row.Free false (state.view all)
      ((state.crash setup inst).view all) := by
  apply Lease.Step.leave
  intro name
  by_cases here : setup.inst name = inst
  · simp [State.crash, here, Attempt.kill_client]
  · simp [State.crash, here, State.view]

theorem halt_refines {name : Name} {stage : Stage}
    (here : state.attempts name = .reserving false stage) :
    Lease.Step Row.Free false (state.view all)
      ((state.set name (.reserving true stage)).view all) := by
  have holding : (Attempt.reserving true stage).holding =
      (Attempt.reserving false stage).holding := by
    cases stage <;> rfl
  cases held : (Attempt.reserving false stage).holding with
  | some job =>
      apply refines_of_holding (by rw [here, held]) (by rw [holding, held]) rfl
        rfl
      intro _
      exact ⟨rfl, rfl⟩
  | none =>
      refine refines_of_leave (.inl ?_)
      rw [here]
      cases stage with
      | finding => rfl
      | found job => rfl
      | taken job => cases held
      | releasing job => cases held
      | sending job => cases held
      | gone => rfl

/-- Every step of the system is a step of the lease protocol. -/
theorem Transition.refines {event : Event Instance Name Outcome}
    (transition : Transition setup state event next shown) :
    Lease.Step Row.Free event.clears (state.view all) (next.view all) := by
  cases transition with
  | tick elapsed => exact refines_of_same_view rfl
  | enqueue job => exact Lease.Step.add _ rfl (Nat.succ_pos _)
  | unlock inst phase =>
      apply Lease.Step.clear _ (unlock_keys state.jobs)
      intro row member
      obtain ⟨old, oldMember, rfl⟩ := mem_unlock.mp member
      exact ⟨old, oldMember, rfl, rfl⟩
  | startWorkers inst phase => exact refines_of_same_view rfl
  | close inst => exact refines_of_same_view rfl
  | crash inst => exact crash_refines inst
  | perform name here => exact refines_of_leave (.inr rfl)
  | find name halted row here member unreserved due =>
      rw [view_set]
      exact Lease.Step.see name row member unreserved
  | take name halted job here current =>
      rw [view_set]
      refine Lease.Step.take name job.toRow
        (updatedJob job (setup.workerID name)).toRow ?_ current rfl rfl
        (setup.workerID_ne name) _ ?_
      · simp only [State.view, here]
        rfl
      · apply Attempt.keeps_of_holding all
        rfl
  | miss name halted job here missing => exact refines_of_leave (.inr rfl)
  | readClosed name halted job here =>
      apply refines_of_holding (by rw [here]; rfl) _ rfl rfl
      · rw [here]
        intro withdrawn
        cases halted with
        | true => exact ⟨rfl, rfl⟩
        | false => cases withdrawn
      · split <;> rfl
  | release name halted job here current =>
      rw [view_set]
      refine Lease.Step.giveBack name job.toRow _ ?_ current rfl rfl
      exact Attempt.client_of_holding all (by rw [here]; rfl)
  | releaseMiss name halted job here missing => exact refines_of_leave (.inr rfl)
  | receive name job here =>
      apply refines_of_holding (by rw [here]; rfl) rfl rfl rfl
      rw [here]
      intro withdrawn
      cases withdrawn
  | halt name stage here => exact halt_refines here
  | callback name outcome job here =>
      apply refines_of_holding (by rw [here]; rfl) rfl
        (setup.afterCallback_id outcome state.now job)
        (setup.afterCallback_version outcome state.now job)
      rw [here]
      intro withdrawn
      cases withdrawn
  | requeue name job here retries current =>
      rw [view_set]
      refine Lease.Step.giveBack name job.toRow _ ?_ current rfl rfl
      exact Attempt.client_of_holding all (by rw [here]; rfl)
  | dequeue name job row here done member sameID sameVersion =>
      rw [view_set]
      refine Lease.Step.remove name job.toRow ?_
        ⟨row, member, sameID, sameVersion⟩
      exact Attempt.client_eq_holds.mpr
        ⟨job, by rw [here]; rfl, rfl, .inr (by rw [here]; rfl)⟩
  | panic name job here missing => exact crash_refines _

theorem step_refines {event : Event Instance Name Outcome}
    (sound : Lease.Sound (state.view all))
    (stepped : setup.step state event = some (next, shown)) :
    Lease.Step Row.Free event.clears (state.view all) (next.view all) :=
  (step_transition sound stepped).refines

theorem Initial.sound (initial : Initial state) :
    Lease.Sound (state.view all) := by
  have noRows : ∀ row, row ∉ (state.view all).rows := by
    intro row member
    simp [State.view, initial.jobs] at member
  have nobody : ∀ name copy, ¬ Lease.HasCopy (state.view all) name copy := by
    intro name copy has
    simp [Lease.HasCopy, State.view, initial.attempts name] at has
  exact {
    unique := by simp [UniqueBy, State.view, initial.jobs]
    known := fun row member => absurd member (noRows row)
    started := fun row member => absurd member (noRows row)
    copyKnown := fun name copy has => absurd has (nobody name copy)
    copyStarted := fun name copy has => absurd has (nobody name copy)
    behind := fun name copy has => absurd has (nobody name copy) }

theorem Initial.exclusive (initial : Initial state) :
    Lease.Exclusive Row.Free (state.view all) := by
  have nobody : ∀ name copy, (state.view all).client name ≠ .holds copy := by
    intro name copy has
    simp [State.view, initial.attempts name] at has
  exact {
    held := fun name copy has => absurd has (nobody name copy)
    outrun := fun _ other _ taken _ has => absurd has (nobody other taken)
    alone := fun name _ copy _ has => absurd has (nobody name copy) }

theorem run_sound {events : List (Event Instance Name Outcome)}
    {final : State Instance Name} {trace : List (Output Name Outcome)}
    (initial : Initial state)
    (success : setup.machine.run events state = some (final, trace)) :
    Lease.Sound (final.view all) := by
  have always : setup.machine.Guarded (fun _ _ => True) events state :=
    setup.machine.guarded_of_forall (fun _ _ _ => trivial) state
  refine setup.machine.run_state_invariant (fun _ _ => True)
    (fun state => Lease.Sound (state.view all)) ?_ initial.sound always success
  intro here event there shown sound _ stepped
  exact (step_refines sound stepped).sound sound

end Steps

end Notifications.Gobble
