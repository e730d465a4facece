import Notifications.Lib.Machine
import Notifications.Lib.Lease
import Notifications.Gobble.Queue

/-!
# Workers, reservation goroutines and instances

Several application instances share one `jobs` table.  Each call of
`Worker.Perform` is an *attempt*: it starts a goroutine running
`Queue.reserve` on a channel of its own and then selects between that channel
and the worker's halt channel.  If halt wins, `Perform` returns 1 and the
goroutine runs on without a receiver.  An attempt performs at most once; a
worker in `Work` goes through many attempts, one after the other.

Every event is one atomic step: one database statement, one channel
operation, one read of the `closed` flag, or the callback.  What the callback
does to the job is at most one call of `Job.Retry`, the only method that
changes a job.  A panic ends the whole process.

Row IDs start at 1, so the loops on `job.ID == 0` in `reserve` and `findJob`
end with the first row found.
-/

set_option autoImplicit false
set_option linter.unusedSectionVars false

namespace Notifications.Gobble

open Notifications.Lib Notifications.Lib.Versioned

/-- Where the goroutine of one `Queue.reserve` call stands. -/
inductive Stage where
  /-- in `findJob` -/
  | finding
  /-- `findJob` returned this job -/
  | found (job : Job)
  /-- `updateJob` succeeded; `queue.closed` has not been read yet -/
  | taken (job : Job)
  /-- `queue.closed` was true; `updateJob(job, "")` comes next -/
  | releasing (job : Job)
  /-- in `channel <- job` -/
  | sending (job : Job)
  | gone
  deriving DecidableEq, Repr

/-- Where one call of `Worker.Perform` stands. -/
inductive Attempt where
  | idle
  /-- in the `select`, or already returned 1 because of `Halt` -/
  | reserving (halted : Bool) (stage : Stage)
  /-- in the callback -/
  | running (job : Job)
  /-- the callback has returned and left this job -/
  | called (job : Job)
  | returned
  /-- its process is gone -/
  | dead
  deriving DecidableEq, Repr

/-- The part of `Application.Boot` that touches the queue. -/
inductive Phase where
  | down
  | unlocked
  | up
  deriving DecidableEq, Repr

structure State (Instance Name : Type) where
  jobs : List Row
  nextID : Nat
  now : Int
  closed : Instance → Bool
  phase : Instance → Phase
  attempts : Name → Attempt

/-- Which instance and worker an attempt belongs to, and what the callback does
with a job, given whatever it met (`Outcome`): the duration it passes to
`Job.Retry`, if it calls it.  Worker IDs need not differ. -/
structure Setup (Instance Name Outcome : Type) where
  inst : Name → Instance
  workerID : Name → String
  workerID_ne : ∀ name, workerID name ≠ ""
  callback : Outcome → Job → Option Int

inductive Event (Instance Name Outcome : Type) where
  | tick (elapsed : Nat)
  | enqueue (job : Job)
  | unlock (inst : Instance)
  | startWorkers (inst : Instance)
  | close (inst : Instance)
  | crash (inst : Instance)
  | perform (name : Name)
  | findJob (name : Name) (id : Nat)
  | updateJob (name : Name)
  | readClosed (name : Name)
  | release (name : Name)
  | receive (name : Name)
  | halt (name : Name)
  | callback (name : Name) (outcome : Outcome)
  /-- `Requeue` or `Dequeue`, after the callback -/
  | finish (name : Name)

def Event.actor {Instance Name Outcome : Type} :
    Event Instance Name Outcome → Option Name
  | .tick _ | .enqueue _ | .unlock _ | .startWorkers _ | .close _ |
      .crash _ => none
  | .perform name | .findJob name _ | .updateJob name | .readClosed name |
      .release name | .receive name | .halt name | .callback name _ |
      .finish name => some name

inductive Output (Name Outcome : Type) where
  | enqueued (job : Job)
  | reserved (name : Name) (job : Job)
  | released (name : Name)
  | started (name : Name) (job : Job) (time : Int)
  | completed (name : Name) (outcome : Outcome) (job : Job) (time : Int)
  | requeued (name : Name) (job : Job)
  | dequeued (name : Name) (job : Job) (deleted : List Row)
  | panicked (name : Name)
  deriving DecidableEq

/-- An empty table and nobody at work.  Instances may already be up. -/
structure Initial {Instance Name : Type} (state : State Instance Name) : Prop where
  jobs : state.jobs = []
  nextID : 0 < state.nextID
  attempts : ∀ name, state.attempts name = .idle

variable {Instance Name Outcome : Type} [DecidableEq Instance]
  [DecidableEq Name]

def State.set (state : State Instance Name) (name : Name)
    (attempt : Attempt) : State Instance Name :=
  { state with attempts := Function.update state.attempts name attempt }

def Attempt.kill : Attempt → Attempt
  | .idle => .idle
  | _ => .dead

def State.crash (setup : Setup Instance Name Outcome)
    (state : State Instance Name) (inst : Instance) : State Instance Name :=
  { state with
    closed := Function.update state.closed inst false
    phase := Function.update state.phase inst .down
    attempts := fun name =>
      if setup.inst name = inst then (state.attempts name).kill
      else state.attempts name }

def Setup.afterCallback (setup : Setup Instance Name Outcome)
    (outcome : Outcome) (now : Int) (job : Job) : Job :=
  match setup.callback outcome job with
  | none => job
  | some duration => job.retry now duration

/-- `Requeue` or `Dequeue` at the end of `Perform`. -/
def Setup.finish (setup : Setup Instance Name Outcome)
    (state : State Instance Name) (name : Name) (job : Job) :
    State Instance Name × List (Output Name Outcome) :=
  if job.shouldRetry then
    match requeue state.jobs job with
    | .ok jobs =>
        ({ state with jobs := jobs }.set name .returned, [.requeued name job])
    | .error .optimisticLockError =>
        (state.crash setup (setup.inst name), [.panicked name])
  else
    match dequeue state.jobs job with
    | .ok jobs =>
        ({ state with jobs := jobs }.set name .returned,
          [.dequeued name job
            (state.jobs.filter (matched job.toRow job.version))])
    | .error .optimisticLockError =>
        (state.crash setup (setup.inst name), [.panicked name])

def Setup.step (setup : Setup Instance Name Outcome)
    (state : State Instance Name) :
    Event Instance Name Outcome →
      Option (State Instance Name × List (Output Name Outcome))
  | .tick elapsed => some ({ state with now := state.now + elapsed }, [])
  | .enqueue job =>
      let inserted := enqueue state.nextID state.jobs job
      some ({ state with jobs := inserted.1, nextID := state.nextID + 1 },
        [.enqueued inserted.2])
  | .unlock inst =>
      some ({ state with
        jobs := unlock state.jobs
        phase := if state.phase inst = .down
          then Function.update state.phase inst .unlocked
          else state.phase }, [])
  | .startWorkers inst =>
      if state.phase inst = .unlocked then
        some ({ state with
          phase := Function.update state.phase inst .up }, [])
      else none
  | .close inst =>
      some ({ state with
        closed := Function.update state.closed inst true }, [])
  | .crash inst => some (state.crash setup inst, [])
  | .perform name =>
      match state.phase (setup.inst name), state.attempts name with
      | .up, .idle => some (state.set name (.reserving false .finding), [])
      | _, _ => none
  | .findJob name id =>
      match state.attempts name with
      | .reserving halted .finding =>
          match findJob state.now state.jobs id with
          | some job =>
              some (state.set name (.reserving halted (.found job)), [])
          | none => none
      | _ => none
  | .updateJob name =>
      match state.attempts name with
      | .reserving halted (.found job) =>
          match updateJob state.jobs job (setup.workerID name) with
          | .ok (jobs, job) =>
              some ({ state with jobs := jobs }.set name
                (.reserving halted (.taken job)), [.reserved name job])
          | .error .optimisticLockError =>
              some (state.set name (.reserving halted .finding), [])
      | _ => none
  | .readClosed name =>
      match state.attempts name with
      | .reserving halted (.taken job) =>
          let stage := if state.closed (setup.inst name)
            then .releasing job else .sending job
          some (state.set name (.reserving halted stage), [])
      | _ => none
  | .release name =>
      match state.attempts name with
      | .reserving halted (.releasing job) =>
          -- the error of this `updateJob` is ignored
          match updateJob state.jobs job "" with
          | .ok (jobs, _) =>
              some ({ state with jobs := jobs }.set name
                (.reserving halted .gone), [.released name])
          | .error .optimisticLockError =>
              some (state.set name (.reserving halted .gone), [])
      | _ => none
  | .receive name =>
      match state.attempts name with
      | .reserving false (.sending job) =>
          some (state.set name (.running job), [.started name job state.now])
      | _ => none
  | .halt name =>
      match state.attempts name with
      | .reserving false stage =>
          some (state.set name (.reserving true stage), [])
      | _ => none
  | .callback name outcome =>
      match state.attempts name with
      | .running job =>
          let job' := setup.afterCallback outcome state.now job
          some (state.set name (.called job'),
            [.completed name outcome job state.now])
      | _ => none
  | .finish name =>
      match state.attempts name with
      | .called job => some (setup.finish state name job)
      | _ => none

def Setup.machine (setup : Setup Instance Name Outcome) :
    Machine (State Instance Name) (Event Instance Name Outcome)
      (Output Name Outcome) where
  step := setup.step

@[simp] theorem Setup.afterCallback_id (setup : Setup Instance Name Outcome)
    (outcome : Outcome) (now : Int) (job : Job) :
    (setup.afterCallback outcome now job).id = job.id := by
  simp only [Setup.afterCallback]
  split <;> rfl

@[simp] theorem Setup.afterCallback_version
    (setup : Setup Instance Name Outcome) (outcome : Outcome) (now : Int)
    (job : Job) :
    (setup.afterCallback outcome now job).version = job.version := by
  simp only [Setup.afterCallback]
  split <;> rfl

@[simp] theorem set_attempts_self (state : State Instance Name) (name : Name)
    (attempt : Attempt) :
    (state.set name attempt).attempts name = attempt := by
  simp [State.set]

theorem set_attempts_of_ne (state : State Instance Name) {name other : Name}
    (attempt : Attempt) (differs : other ≠ name) :
    (state.set name attempt).attempts other = state.attempts other := by
  simp [State.set, differs]

/-! ## What each step can do -/

section Inversion

variable {setup : Setup Instance Name Outcome}
  {state next : State Instance Name} {shown : List (Output Name Outcome)}

theorem step_findJob {name : Name} {id : Nat}
    (stepped : setup.step state (.findJob name id) = some (next, shown)) :
    ∃ halted job, state.attempts name = .reserving halted .finding ∧
      findJob state.now state.jobs id = some job ∧
      next = state.set name (.reserving halted (.found job)) ∧
      shown = [] := by
  simp only [Setup.step] at stepped
  split at stepped
  · rename_i halted here
    cases found : findJob state.now state.jobs id with
    | none => simp [found] at stepped
    | some job =>
        simp only [found, Option.some.injEq, Prod.mk.injEq] at stepped
        exact ⟨halted, job, here, rfl, stepped.1.symm, stepped.2.symm⟩
  · cases stepped

theorem step_updateJob {name : Name}
    (stepped : setup.step state (.updateJob name) = some (next, shown)) :
    ∃ halted job, state.attempts name = .reserving halted (.found job) ∧
      ((∃ jobs written,
          updateJob state.jobs job (setup.workerID name) =
            .ok (jobs, written) ∧
          next = { state with jobs := jobs }.set name
            (.reserving halted (.taken written)) ∧
          shown = [.reserved name written]) ∨
        (updateJob state.jobs job (setup.workerID name) =
            .error .optimisticLockError ∧
          next = state.set name (.reserving halted .finding) ∧
          shown = [])) := by
  simp only [Setup.step] at stepped
  split at stepped
  · rename_i halted job here
    refine ⟨halted, job, here, ?_⟩
    split at stepped
    · rename_i jobs written result
      cases stepped
      exact .inl ⟨jobs, written, result, rfl, rfl⟩
    · rename_i result
      cases stepped
      exact .inr ⟨result, rfl, rfl⟩
  · cases stepped

theorem step_readClosed {name : Name}
    (stepped : setup.step state (.readClosed name) = some (next, shown)) :
    ∃ halted job, state.attempts name = .reserving halted (.taken job) ∧
      next = state.set name (.reserving halted
        (if state.closed (setup.inst name)
          then .releasing job else .sending job)) ∧
      shown = [] := by
  simp only [Setup.step] at stepped
  split at stepped
  · rename_i halted job here
    cases stepped
    exact ⟨halted, job, here, rfl, rfl⟩
  · cases stepped

theorem step_release {name : Name}
    (stepped : setup.step state (.release name) = some (next, shown)) :
    ∃ halted job, state.attempts name = .reserving halted (.releasing job) ∧
      ((∃ jobs written, updateJob state.jobs job "" = .ok (jobs, written) ∧
          next = { state with jobs := jobs }.set name
            (.reserving halted .gone) ∧
          shown = [.released name]) ∨
        (updateJob state.jobs job "" = .error .optimisticLockError ∧
          next = state.set name (.reserving halted .gone) ∧
          shown = [])) := by
  simp only [Setup.step] at stepped
  split at stepped
  · rename_i halted job here
    refine ⟨halted, job, here, ?_⟩
    split at stepped
    · rename_i jobs written result
      cases stepped
      exact .inl ⟨jobs, written, result, rfl, rfl⟩
    · rename_i result
      cases stepped
      exact .inr ⟨result, rfl, rfl⟩
  · cases stepped

theorem step_receive {name : Name}
    (stepped : setup.step state (.receive name) = some (next, shown)) :
    ∃ job, state.attempts name = .reserving false (.sending job) ∧
      next = state.set name (.running job) ∧
      shown = [.started name job state.now] := by
  simp only [Setup.step] at stepped
  split at stepped
  · rename_i job here
    cases stepped
    exact ⟨job, here, rfl, rfl⟩
  · cases stepped

theorem step_perform {name : Name}
    (stepped : setup.step state (.perform name) = some (next, shown)) :
    state.phase (setup.inst name) = .up ∧ state.attempts name = .idle ∧
      next = state.set name (.reserving false .finding) ∧ shown = [] := by
  simp only [Setup.step] at stepped
  split at stepped
  · rename_i up idle
    cases stepped
    exact ⟨up, idle, rfl, rfl⟩
  · cases stepped

theorem step_halt {name : Name}
    (stepped : setup.step state (.halt name) = some (next, shown)) :
    ∃ stage, state.attempts name = .reserving false stage ∧
      next = state.set name (.reserving true stage) ∧ shown = [] := by
  simp only [Setup.step] at stepped
  split at stepped
  · rename_i stage here
    cases stepped
    exact ⟨stage, here, rfl, rfl⟩
  · cases stepped

theorem step_callback {name : Name} {outcome : Outcome}
    (stepped : setup.step state (.callback name outcome) =
      some (next, shown)) :
    ∃ job, state.attempts name = .running job ∧
      next = state.set name
        (.called (setup.afterCallback outcome state.now job)) ∧
      shown = [.completed name outcome job state.now] := by
  simp only [Setup.step] at stepped
  split at stepped
  · rename_i job here
    cases stepped
    exact ⟨job, here, rfl, rfl⟩
  · cases stepped

/-- The three ways in which `Perform` ends after the callback. -/
theorem step_finish {name : Name}
    (stepped : setup.step state (.finish name) = some (next, shown)) :
    ∃ job, state.attempts name = .called job ∧
      ((∃ jobs, job.shouldRetry = true ∧ requeue state.jobs job = .ok jobs ∧
          next = { state with jobs := jobs }.set name .returned ∧
          shown = [.requeued name job]) ∨
        (∃ jobs, job.shouldRetry = false ∧ dequeue state.jobs job = .ok jobs ∧
          next = { state with jobs := jobs }.set name .returned ∧
          shown = [.dequeued name job
            (state.jobs.filter (matched job.toRow job.version))]) ∨
        ((requeue state.jobs job = .error .optimisticLockError ∨
            dequeue state.jobs job = .error .optimisticLockError) ∧
          next = state.crash setup (setup.inst name) ∧
          shown = [.panicked name])) := by
  simp only [Setup.step] at stepped
  split at stepped
  · rename_i job here
    refine ⟨job, here, ?_⟩
    simp only [Setup.finish, Option.some.injEq] at stepped
    split at stepped
    · rename_i retries
      split at stepped
      · rename_i jobs result
        cases stepped
        exact .inl ⟨jobs, retries, result, rfl, rfl⟩
      · rename_i result
        cases stepped
        exact .inr (.inr ⟨.inl result, rfl, rfl⟩)
    · rename_i retries
      split at stepped
      · rename_i jobs result
        cases stepped
        exact .inr (.inl ⟨jobs, by simpa using retries, result, rfl, rfl⟩)
      · rename_i result
        cases stepped
        exact .inr (.inr ⟨.inr result, rfl, rfl⟩)
  · cases stepped

theorem step_startWorkers {inst : Instance}
    (stepped : setup.step state (.startWorkers inst) = some (next, shown)) :
    next = { state with phase := Function.update state.phase inst .up } ∧
      shown = [] := by
  simp only [Setup.step] at stepped
  split at stepped
  · cases stepped
    exact ⟨rfl, rfl⟩
  · cases stepped

theorem crash_attempts (inst : Instance) (name : Name) :
    (state.crash setup inst).attempts name = state.attempts name ∨
      (state.crash setup inst).attempts name =
        (state.attempts name).kill := by
  by_cases here : setup.inst name = inst
  · exact .inr (by simp [State.crash, here])
  · exact .inl (by simp [State.crash, here])

end Inversion

end Notifications.Gobble
