import Notifications.Gobble.Exclusivity

/-!
# What a worker knows about its row

`findJob`, `updateJob` and the callback are separate statements, and each works
on the copy the previous one left.  Without `Unlock` a copy says the truth about
the version it was made from: a row of that version has exactly the copy's
columns.  The invariant also records what the callback did to a job that waits
for its `Requeue` or `Dequeue`.
-/

set_option autoImplicit false
set_option linter.unusedSectionVars false

namespace Notifications.Gobble

open Notifications.Lib Notifications.Lib.Versioned

/-- The job as it was read or reserved, before the callback. -/
def Attempt.copied : Attempt → Option Job
  | .reserving _ (.found job) => some job
  | .reserving _ (.taken job) => some job
  | .reserving _ (.releasing job) => some job
  | .reserving _ (.sending job) => some job
  | .running job => some job
  | _ => none

variable {Instance Name Outcome : Type} [DecidableEq Instance]
  [DecidableEq Name]

/-- The rows of the copy's version are the copy. -/
def Mirrors (jobs : List Row) (copy : Job) : Prop :=
  ∀ row ∈ jobs, row.id = copy.id → row.version = copy.version →
    row = copy.toRow

structure Faithful (setup : Setup Instance Name Outcome)
    (trace : List (Output Name Outcome)) (state : State Instance Name) :
    Prop where
  leased : Leased state
  mirror : ∀ name job, (state.attempts name).copied = some job →
    Mirrors state.jobs job ∧ job.shouldRetry = false ∧
      job.activeAt ≤ state.now
  found : ∀ name halted job,
    state.attempts name = .reserving halted (.found job) → job.workerID = ""
  called : ∀ name job, state.attempts name = .called job →
    ∃ outcome ran time, .completed name outcome ran time ∈ trace ∧
      job = setup.afterCallback outcome time ran ∧
      Mirrors state.jobs ran ∧ ran.shouldRetry = false ∧
      ran.activeAt ≤ time ∧ time ≤ state.now

variable {setup : Setup Instance Name Outcome}
  {state next final : State Instance Name}
  {events : List (Event Instance Name Outcome)}
  {shown trace : List (Output Name Outcome)}

theorem hasCopy_of_copied {name : Name} {job : Job}
    (copied : (state.attempts name).copied = some job) :
    Lease.HasCopy (state.view true) name job.toRow := by
  unfold Attempt.copied at copied
  split at copied <;> cases copied <;> rename_i here
  · exact .inl (by simp only [State.view, here]; rfl)
  all_goals exact .inr (by simp only [State.view, here]; rfl)

theorem Attempt.copied_kill (attempt : Attempt) :
    attempt.kill.copied = none := by
  cases attempt <;> rfl

/-- Where a copy comes from: it was there before, was just read from a row that
is due, or is what `updateJob` left. -/
theorem Transition.copied {event : Event Instance Name Outcome} {name : Name}
    {job : Job} (transition : Transition setup state event next shown)
    (copied : (next.attempts name).copied = some job) :
    (state.attempts name).copied = some job ∨
      (∃ row ∈ state.jobs, job = row.toJob ∧ row.activeAt ≤ state.now ∧
        next.jobs = state.jobs ∧ next.now = state.now) ∨
      (∃ seen, (state.attempts name).copied = some seen ∧
        job = updatedJob seen (setup.workerID name) ∧
        Current state.jobs seen.toRow ∧ next.now = state.now ∧
        next.jobs = updateWhere (matched seen.toRow seen.version)
          (fun _ => job.toRow) state.jobs) := by
  by_cases mine : event.actor = some name
  · cases transition with
    | tick | enqueue | unlock | startWorkers | close | crash => cases mine
    | perform actor | miss actor | release actor | releaseMiss actor
    | callback actor | requeue actor | dequeue actor =>
        cases mine
        rw [set_attempts_self] at copied
        cases copied
    | find actor halted row here member unreserved due =>
        cases mine
        rw [set_attempts_self] at copied
        cases copied
        exact .inr (.inl ⟨row, member, rfl, due, rfl, rfl⟩)
    | take actor halted seen here current =>
        cases mine
        rw [set_attempts_self] at copied
        cases copied
        exact .inr (.inr ⟨seen, by rw [here]; rfl, rfl, current, rfl, rfl⟩)
    | readClosed actor halted held here =>
        cases mine
        rw [set_attempts_self] at copied
        rw [here]
        left
        split at copied <;> exact copied
    | receive actor held here =>
        cases mine
        rw [set_attempts_self] at copied
        rw [here]
        exact .inl copied
    | halt actor stage here =>
        cases mine
        rw [set_attempts_self] at copied
        rw [here]
        left
        cases stage <;> exact copied
    | panic actor held here missing =>
        cases mine
        rcases crash_attempts (setup.inst name) name with same | killed
        · rw [same] at copied
          exact .inl copied
        · rw [killed, Attempt.copied_kill] at copied
          cases copied
  · rcases transition.not_mine mine with same | killed
    · rw [same] at copied
      exact .inl copied
    · rw [killed, Attempt.copied_kill] at copied
      cases copied

theorem Transition.now_le {event : Event Instance Name Outcome}
    (transition : Transition setup state event next shown) :
    state.now ≤ next.now := by
  cases transition with
  | tick elapsed =>
      show state.now ≤ state.now + elapsed
      omega
  | _ => exact Int.le_refl _

/-- A step that spares the leases keeps what a copy says true. -/
theorem Mirrors.step {event : Event Instance Name Outcome} {name : Name}
    {job : Job} (mirrors : Mirrors state.jobs job) (leased : Leased state)
    (has : Lease.HasCopy (state.view true) name job.toRow)
    (spares : event.clears = false)
    (stepped : setup.step state event = some (next, shown)) :
    Mirrors next.jobs job := by
  intro row member sameID sameVersion
  have refined := step_refines leased.sound stepped
  rw [spares] at refined
  exact mirrors row (refined.mem_of_copy leased.sound has member sameID
    sameVersion) sameID sameVersion

theorem mirrors_updated {jobs : List Row} {seen : Job} {workerID : String}
    (unique : UniqueBy key jobs) (current : Current jobs seen.toRow) :
    Mirrors (updateWhere (matched seen.toRow seen.version)
      (fun _ => (updatedJob seen workerID).toRow) jobs)
      (updatedJob seen workerID) := by
  intro row member sameID sameVersion
  rcases mem_updated.mp member with ⟨old, _⟩ | ⟨_, rfl⟩
  · obtain ⟨found, foundMember, foundID, foundVersion⟩ := current
    have equal : row = found :=
      unique.eq_of_mem old foundMember (sameID.trans foundID.symm)
    have newer : found.version = seen.version + 1 := by
      rw [← equal]
      exact sameVersion
    have older : found.version = seen.version := foundVersion
    omega
  · rfl

theorem Faithful.mirror_step {event : Event Instance Name Outcome}
    (held : Faithful setup trace state) (spares : event.clears = false)
    (stepped : setup.step state event = some (next, shown)) :
    ∀ name job, (next.attempts name).copied = some job →
      Mirrors next.jobs job ∧ job.shouldRetry = false ∧
        job.activeAt ≤ next.now := by
  intro name job copied
  have transition := step_transition held.leased.sound stepped
  have later := transition.now_le
  rcases transition.copied copied with
    before | ⟨row, member, rfl, due, sameJobs, _⟩ |
      ⟨seen, before, rfl, current, sameNow, written⟩
  · obtain ⟨mirrors, fresh, due⟩ := held.mirror name job before
    refine ⟨mirrors.step held.leased (hasCopy_of_copied before) spares stepped,
      fresh, by omega⟩
  · refine ⟨?_, rfl, ?_⟩
    · rw [sameJobs]
      intro other otherMember sameID _
      exact held.leased.sound.unique.eq_of_mem otherMember member sameID
    · exact Int.le_trans due later
  · obtain ⟨_, fresh, due⟩ := held.mirror name seen before
    refine ⟨?_, fresh, ?_⟩
    · rw [written]
      exact mirrors_updated held.leased.sound.unique current
    · exact Int.le_trans due later

theorem Faithful.called_step {event : Event Instance Name Outcome}
    (held : Faithful setup trace state) (spares : event.clears = false)
    (stepped : setup.step state event = some (next, shown)) :
    ∀ name job, next.attempts name = .called job →
      ∃ outcome ran time, .completed name outcome ran time ∈ trace ++ shown ∧
        job = setup.afterCallback outcome time ran ∧
        Mirrors next.jobs ran ∧ ran.shouldRetry = false ∧
        ran.activeAt ≤ time ∧ time ≤ next.now := by
  intro name job here
  have transition := step_transition held.leased.sound stepped
  have later := transition.now_le
  rcases transition.called here with
    before | ⟨outcome, ran, running, rfl, rfl, sameJobs, sameNow⟩
  · obtain ⟨outcome, ran, time, member, rfl, mirrors, fresh, due, past⟩ :=
      held.called name job before
    have copied : Lease.HasCopy (state.view true) name
        (setup.afterCallback outcome time ran).toRow :=
      .inr (by simp only [State.view, before]; rfl)
    refine ⟨outcome, ran, time, List.mem_append_left _ member, rfl, ?_, fresh,
      due, by omega⟩
    intro row rowMember sameID sameVersion
    have refined := step_refines held.leased.sound stepped
    rw [spares] at refined
    have old := refined.mem_of_copy held.leased.sound copied rowMember
      (by simpa using sameID) (by simpa using sameVersion)
    exact mirrors row old sameID sameVersion
  · obtain ⟨mirrors, fresh, due⟩ := held.mirror name ran (by rw [running]; rfl)
    refine ⟨outcome, ran, state.now, by simp, rfl, ?_, fresh, due, later⟩
    rw [sameJobs]
    exact mirrors

theorem Transition.found {event : Event Instance Name Outcome} {name : Name}
    {halted : Bool} {job : Job}
    (transition : Transition setup state event next shown)
    (here : next.attempts name = .reserving halted (.found job)) :
    (∃ before, state.attempts name = .reserving before (.found job)) ∨
      job.workerID = "" := by
  by_cases mine : event.actor = some name
  · cases transition with
    | tick | enqueue | unlock | startWorkers | close | crash => cases mine
    | perform actor | take actor | miss actor | release actor
    | releaseMiss actor | receive actor | callback actor | requeue actor
    | dequeue actor =>
        cases mine
        rw [set_attempts_self] at here
        cases here
    | find actor _ row _ member unreserved =>
        cases mine
        rw [set_attempts_self] at here
        cases here
        exact .inr unreserved
    | readClosed actor =>
        cases mine
        rw [set_attempts_self] at here
        split at here <;> cases here
    | halt actor stage before =>
        cases mine
        rw [set_attempts_self] at here
        cases here
        exact .inl ⟨false, before⟩
    | panic actor copy before missing =>
        cases mine
        rcases crash_attempts (setup.inst name) name with same | killed
        · exact .inl ⟨halted, same.symm.trans here⟩
        · rw [killed, before] at here
          cases here
  · rcases transition.not_mine mine with same | killed
    · exact .inl ⟨halted, same.symm.trans here⟩
    · rw [killed] at here
      cases before : state.attempts name <;> rw [before] at here <;> cases here

theorem Faithful.step {event : Event Instance Name Outcome}
    (held : Faithful setup trace state) (spares : event.clears = false)
    (stepped : setup.step state event = some (next, shown)) :
    Faithful setup (trace ++ shown) next where
  leased := held.leased.step spares stepped
  mirror := held.mirror_step spares stepped
  found := by
    intro name halted job here
    rcases (step_transition held.leased.sound stepped).found here with
      ⟨before, saw⟩ | unreserved
    · exact held.found name before job saw
    · exact unreserved
  called := held.called_step spares stepped

theorem Initial.faithful (initial : Initial state) :
    Faithful setup [] state where
  leased := initial.leased
  mirror := by
    intro name job copied
    rw [initial.attempts name] at copied
    cases copied
  found := by
    intro name halted job here
    rw [initial.attempts name] at here
    cases here
  called := by
    intro name job here
    rw [initial.attempts name] at here
    cases here

theorem Mirrors.mem {job : Job} (mirrors : Mirrors state.jobs job)
    (current : Current state.jobs job.toRow) : job.toRow ∈ state.jobs := by
  obtain ⟨row, member, sameID, sameVersion⟩ := current
  rw [← mirrors row member sameID sameVersion]
  exact member

/-! ## How attempts end -/

theorem Transition.after_end {event : Event Instance Name Outcome} {name : Name}
    (transition : Transition setup state event next shown)
    (ended : state.attempts name = .returned ∨ state.attempts name = .dead) :
    next.attempts name = state.attempts name ∨
      next.attempts name = .dead := by
  by_cases mine : event.actor = some name
  · exfalso
    cases transition with
    | tick | enqueue | unlock | startWorkers | close | crash => cases mine
    | perform actor here | find actor _ _ here | take actor _ _ here
    | miss actor _ _ here | readClosed actor _ _ here | release actor _ _ here
    | releaseMiss actor _ _ here | receive actor _ here | halt actor _ here
    | callback actor _ _ here | requeue actor _ here | dequeue actor _ _ here
    | panic actor _ here =>
        cases mine
        rw [here] at ended
        rcases ended with bad | bad <;> cases bad
  · rcases transition.not_mine mine with same | killed
    · exact .inl same
    · right
      rw [killed]
      rcases ended with returned | dead
      · rw [returned]
        rfl
      · rw [dead]
        rfl

/-- What becomes of an attempt that has called back. -/
theorem Transition.after_called {event : Event Instance Name Outcome}
    {name : Name} {job : Job}
    (transition : Transition setup state event next shown)
    (here : state.attempts name = .called job) :
    next.attempts name = .called job ∨ next.attempts name = .dead ∨
      (next.attempts name = .returned ∧ job.shouldRetry = true ∧
        shown = [.requeued name job]) ∨
      (next.attempts name = .returned ∧ job.shouldRetry = false ∧ next.jobs =
        deleteWhere (matched job.toRow job.version) state.jobs) := by
  by_cases mine : event.actor = some name
  · cases transition with
    | tick | enqueue | unlock | startWorkers | close | crash => cases mine
    | perform actor before | find actor _ _ before | take actor _ _ before
    | miss actor _ _ before | readClosed actor _ _ before
    | release actor _ _ before | releaseMiss actor _ _ before
    | receive actor _ before | halt actor _ before
    | callback actor _ _ before =>
        cases mine
        rw [here] at before
        cases before
    | requeue actor called before retries =>
        cases mine
        rw [here] at before
        cases before
        exact .inr (.inr (.inl ⟨set_attempts_self _ _ _, retries, rfl⟩))
    | dequeue actor called row before done =>
        cases mine
        rw [here] at before
        cases before
        exact .inr (.inr (.inr ⟨set_attempts_self _ _ _, done, rfl⟩))
    | panic actor called before =>
        cases mine
        rcases crash_attempts (setup.inst name) name with same | killed
        · exact .inl (same.trans here)
        · right
          left
          rw [killed, here]
          rfl
  · rcases transition.not_mine mine with same | killed
    · exact .inl (same.trans here)
    · right
      left
      rw [killed, here]
      rfl

/-! ## What a step does to the rows -/

/-- The reserved job of an attempt that has not started its callback. -/
def Attempt.waiting : Attempt → Option Job
  | .reserving _ (.taken job) => some job
  | .reserving _ (.releasing job) => some job
  | .reserving _ (.sending job) => some job
  | _ => none

theorem Attempt.holding_of_waiting {attempt : Attempt} {job : Job}
    (waits : attempt.waiting = some job) : attempt.holding = some job := by
  unfold Attempt.waiting at waits
  split at waits <;> cases waits <;> rfl

theorem Attempt.waiting_kill (attempt : Attempt) :
    attempt.kill.waiting = none := by
  cases attempt <;> rfl

/-- Who waits with a job had it before, or has just reserved it. -/
theorem Transition.waiting {event : Event Instance Name Outcome} {name : Name}
    {job : Job} (transition : Transition setup state event next shown)
    (waits : (next.attempts name).waiting = some job) :
    (state.attempts name).waiting = some job ∨
      ∃ halted seen, state.attempts name = .reserving halted (.found seen) ∧
        job = updatedJob seen (setup.workerID name) ∧
        Current state.jobs seen.toRow ∧ shown = [.reserved name job] := by
  by_cases mine : event.actor = some name
  · cases transition with
    | tick | enqueue | unlock | startWorkers | close | crash => cases mine
    | perform actor | find actor | miss actor | release actor
    | releaseMiss actor | receive actor | callback actor | requeue actor
    | dequeue actor =>
        cases mine
        rw [set_attempts_self] at waits
        cases waits
    | take actor halted seen here current =>
        cases mine
        rw [set_attempts_self] at waits
        cases waits
        exact .inr ⟨halted, seen, here, rfl, current, rfl⟩
    | readClosed actor halted held here =>
        cases mine
        rw [set_attempts_self] at waits
        rw [here]
        left
        split at waits <;> exact waits
    | halt actor stage here =>
        cases mine
        rw [set_attempts_self] at waits
        rw [here]
        left
        cases stage <;> exact waits
    | panic actor held here missing =>
        cases mine
        rcases crash_attempts (setup.inst name) name with same | killed
        · rw [same] at waits
          exact .inl waits
        · rw [killed, Attempt.waiting_kill] at waits
          cases waits
  · rcases transition.not_mine mine with same | killed
    · rw [same] at waits
      exact .inl waits
    · rw [killed, Attempt.waiting_kill] at waits
      cases waits

/-- Who runs a job did so before, or has just received it. -/
theorem Transition.running {event : Event Instance Name Outcome} {name : Name}
    {job : Job} (transition : Transition setup state event next shown)
    (runs : next.attempts name = .running job) :
    (state.attempts name = .running job ∧
      ∀ started time, .started name started time ∉ shown) ∨
      (state.attempts name = .reserving false (.sending job) ∧
        shown = [.started name job state.now] ∧ next.jobs = state.jobs) := by
  by_cases mine : event.actor = some name
  · cases transition with
    | tick | enqueue | unlock | startWorkers | close | crash => cases mine
    | perform actor | find actor | take actor | miss actor | readClosed actor
    | release actor | releaseMiss actor | halt actor | callback actor
    | requeue actor | dequeue actor =>
        cases mine
        rw [set_attempts_self] at runs
        cases runs
    | receive actor sent here =>
        cases mine
        rw [set_attempts_self] at runs
        cases runs
        exact .inr ⟨here, rfl, rfl⟩
    | panic actor held here missing =>
        cases mine
        rcases crash_attempts (setup.inst name) name with same | killed
        · exact .inl ⟨same.symm.trans runs, by simp⟩
        · rw [killed, here] at runs
          cases runs
  · left
    constructor
    · rcases transition.not_mine mine with same | killed
      · exact same.symm.trans runs
      · rw [killed] at runs
        cases before : state.attempts name <;> rw [before] at runs <;>
          cases runs
    · intro started time member
      cases transition with
      | receive actor sent here =>
          simp only [List.mem_singleton, Output.started.injEq] at member
          exact mine (congrArg some member.1.symm)
      | _ => simp at member

/-- How a row came into the table after a step that is not `Unlock`, and what
the step shows about its job. -/
inductive RowStep (setup : Setup Instance Name Outcome)
    (trace : List (Output Name Outcome)) (state : State Instance Name)
    (row : Row) : List (Output Name Outcome) → Prop where
  | kept {shown : List (Output Name Outcome)} (member : row ∈ state.jobs)
      (notRequeued : ∀ name job, .requeued name job ∈ shown → job.id ≠ row.id)
      (notDequeued : ∀ name job rows, .dequeued name job rows ∈ shown →
        job.id ≠ row.id)
      (notStarted : row.workerID = "" → ∀ name job time,
        .started name job time ∈ shown → job.id ≠ row.id) :
      RowStep setup trace state row shown
  | added (job : Job) (isNew : row.id = state.nextID)
      (sameID : job.id = row.id) (sameCount : row.retryCount = job.retryCount) :
      RowStep setup trace state row [.enqueued job]
  | reserved (name : Name) (job : Job) (old : Row) (member : old ∈ state.jobs)
      (sameID : row.id = old.id) (sameCount : row.retryCount = old.retryCount)
      (sameActive : row.activeAt = old.activeAt) (locked : row.workerID ≠ "") :
      RowStep setup trace state row [.reserved name job]
  | released (name : Name) (job : Job)
      (waits : (state.attempts name).waiting = some job)
      (member : job.toRow ∈ state.jobs) (sameID : row.id = job.id)
      (sameCount : row.retryCount = job.retryCount)
      (sameActive : row.activeAt = job.activeAt) :
      RowStep setup trace state row [.released name]
  | retried (name : Name) (outcome : Outcome) (ran : Job) (time duration : Int)
      (completed : .completed name outcome ran time ∈ trace)
      (member : ran.toRow ∈ state.jobs)
      (asked : setup.callback outcome ran = some duration)
      (written : row = requeuedRow (ran.retry time duration))
      (due : ran.activeAt ≤ time) (past : time ≤ state.now) :
      RowStep setup trace state row [.requeued name (ran.retry time duration)]

/-- A called job that is to be requeued is what `Job.Retry` made of its row. -/
theorem Faithful.retried {name : Name} {job : Job}
    (held : Faithful setup trace state)
    (here : state.attempts name = .called job)
    (retries : job.shouldRetry = true)
    (current : Current state.jobs job.toRow) :
    ∃ outcome ran time duration, .completed name outcome ran time ∈ trace ∧
      ran.toRow ∈ state.jobs ∧ setup.callback outcome ran = some duration ∧
      job = ran.retry time duration ∧ ran.activeAt ≤ time ∧
      time ≤ state.now := by
  obtain ⟨outcome, ran, time, completed, rfl, mirrors, fresh, due, past⟩ :=
    held.called name job here
  cases asked : setup.callback outcome ran with
  | none =>
      simp only [Setup.afterCallback, asked] at retries
      rw [fresh] at retries
      cases retries
  | some duration =>
      have currentRan : Current state.jobs ran.toRow := by
        obtain ⟨row, member, sameID, sameVersion⟩ := current
        exact ⟨row, member, by simpa using sameID, by simpa using sameVersion⟩
      exact ⟨outcome, ran, time, duration, completed, mirrors.mem currentRan,
        asked, by simp only [Setup.afterCallback, asked], due, past⟩

theorem Faithful.row_step {event : Event Instance Name Outcome} {row : Row}
    (held : Faithful setup trace state) (spares : event.clears = false)
    (transition : Transition setup state event next shown)
    (member : row ∈ next.jobs) : RowStep setup trace state row shown := by
  have leased := held.leased
  cases transition with
  | tick | startWorkers | close | crash | perform | find | miss | readClosed
  | releaseMiss | halt | callback | panic =>
      exact .kept member (by simp) (by simp) (by simp)
  | unlock => cases spares
  | enqueue job =>
      rcases List.mem_append.mp member with old | added
      · exact .kept old (by simp) (by simp) (by simp)
      · rw [List.mem_singleton.mp added]
        refine .added _ rfl ?_ ?_
        · simp only [enqueue, Gorp.insert]
          split <;> rfl
        · simp only [enqueue, Gorp.insert]
          split <;> rfl
  | take name halted job here current =>
      rcases mem_updated.mp member with ⟨old, _⟩ | ⟨_, rfl⟩
      · exact .kept old (by simp) (by simp) (by simp)
      · obtain ⟨mirrors, _, _⟩ := held.mirror name job (by rw [here]; rfl)
        exact .reserved name _ job.toRow (mirrors.mem current) rfl rfl rfl
          (setup.workerID_ne name)
  | release name halted job here current =>
      rcases mem_updated.mp member with ⟨old, _⟩ | ⟨_, rfl⟩
      · exact .kept old (by simp) (by simp) (by simp)
      · obtain ⟨mirrors, _, _⟩ := held.mirror name job (by rw [here]; rfl)
        exact .released name job (by rw [here]; rfl) (mirrors.mem current) rfl
          rfl rfl
  | receive name job here =>
      refine .kept member (by simp) (by simp) ?_
      intro unreserved other started time shows same
      simp only [List.mem_singleton, Output.started.injEq] at shows
      obtain ⟨_, rfl, _⟩ := shows
      have holds : (state.attempts name).holding = some started := by
        rw [here]
        rfl
      obtain ⟨found, foundMember, foundID, _, locked⟩ :=
        leased.exclusive.held name started.toRow
          (Leased.client_of_holding holds)
      have equal : row = found :=
        leased.sound.unique.eq_of_mem member foundMember
          (same.symm.trans foundID.symm)
      rw [equal] at unreserved
      exact locked unreserved
  | requeue name job here retries current =>
      rcases mem_updated.mp member with ⟨old, differs⟩ | ⟨_, rfl⟩
      · refine .kept old ?_ (by simp) (by simp)
        intro other requeued shows
        simp only [List.mem_singleton, Output.requeued.injEq] at shows
        obtain ⟨_, rfl⟩ := shows
        exact leased.other_row (by rw [here]; rfl) old differs
      · obtain ⟨outcome, ran, time, duration, completed, found, asked, rfl,
          due, past⟩ := held.retried here retries current
        exact .retried name outcome ran time duration completed found asked rfl
          due past
  | dequeue name job found here done foundMember =>
      obtain ⟨old, differs⟩ := mem_deleted.mp member
      refine .kept old (by simp) ?_ (by simp)
      intro other dequeued rows shows
      simp only [List.mem_singleton, Output.dequeued.injEq] at shows
      obtain ⟨_, rfl, _⟩ := shows
      exact leased.other_row (by rw [here]; rfl) old differs

theorem Faithful.payload_step {event : Event Instance Name Outcome} {row : Row}
    (held : Faithful setup trace state) (spares : event.clears = false)
    (transition : Transition setup state event next shown)
    (member : row ∈ next.jobs) :
    (∃ old ∈ state.jobs, old.id = row.id ∧ old.payload = row.payload) ∨
      ∃ job, event = .enqueue job ∧ row.payload = job.payload ∧
        shown = [.enqueued (enqueue state.nextID state.jobs job).2] ∧
        (enqueue state.nextID state.jobs job).2.id = row.id := by
  cases transition with
  | tick | startWorkers | close | crash | perform | find | miss | readClosed
  | releaseMiss | receive | halt | callback | panic =>
      exact .inl ⟨row, member, rfl, rfl⟩
  | unlock => cases spares
  | enqueue job =>
      rcases List.mem_append.mp member with old | added
      · exact .inl ⟨row, old, rfl, rfl⟩
      · rw [List.mem_singleton.mp added]
        refine .inr ⟨job, rfl, rfl, rfl, ?_⟩
        simp only [enqueue, Gorp.insert]
        split <;> rfl
  | take name halted job here current
  | release name halted job here current =>
      rcases mem_updated.mp member with ⟨old, _⟩ | ⟨_, rfl⟩
      · exact .inl ⟨row, old, rfl, rfl⟩
      · obtain ⟨mirrors, _, _⟩ := held.mirror name job (by rw [here]; rfl)
        exact .inl ⟨job.toRow, mirrors.mem current, rfl, rfl⟩
  | requeue name job here retries current =>
      rcases mem_updated.mp member with ⟨old, _⟩ | ⟨_, rfl⟩
      · exact .inl ⟨row, old, rfl, rfl⟩
      · obtain ⟨_, ran, _, _, _, found, _, rfl, _⟩ :=
          held.retried here retries current
        exact .inl ⟨ran.toRow, found, rfl, rfl⟩
  | dequeue name job found here done foundMember =>
      exact .inl ⟨row, (mem_deleted.mp member).1, rfl, rfl⟩

end Notifications.Gobble
