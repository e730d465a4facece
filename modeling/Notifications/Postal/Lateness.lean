import Notifications.Gobble.Copies
import Notifications.Gobble.Fencing
import Notifications.Postal.Retry

/-!
# How long a job can stay in the queue

The delays between the attempts for a job add up to 1023 minutes at most.  What
else passes between its `Enqueue` and the present is lag: an attempt lags from
the time at which the job was due, its `active_at` or its `Enqueue`, to the
attempt's `Requeue` or `Dequeue`.

The schedule says what has been seen of the jobs so far; no step looks at it.
-/

set_option autoImplicit false
set_option linter.unusedSectionVars false

namespace Notifications.Postal

open Notifications.Lib Notifications.Lib.Versioned Notifications.Gobble

structure Schedule where
  /-- the time of `Enqueue` -/
  enqueued : Nat → Int
  /-- of the attempts that have ended, in total -/
  lag : Nat → Int

namespace Schedule

def empty : Schedule := ⟨fun _ => 0, fun _ => 0⟩

/-- When the next attempt was or is to start; the `active_at` of a new job is
the zero time. -/
def due (schedule : Schedule) (row : Row) : Int :=
  if row.activeAt = zeroTime then schedule.enqueued row.id else row.activeAt

def ended (schedule : Schedule) (now : Int) (jobs : List Row)
    (id : Nat) : Schedule :=
  match jobs.find? fun row => row.id == id with
  | none => schedule
  | some row =>
      { schedule with
        lag := Function.update schedule.lag id
          (schedule.lag id + (now - schedule.due row)) }

/-- The lag of the attempts for a job, up to now. -/
def total (schedule : Schedule) (now : Int) (row : Row) : Int :=
  schedule.lag row.id + max 0 (now - schedule.due row)

section Outputs

variable {Instance Name Outcome : Type}

def output (schedule : Schedule) (state : State Instance Name) :
    Output Name Outcome → Schedule
  | .enqueued job =>
      { enqueued := Function.update schedule.enqueued job.id state.now
        lag := Function.update schedule.lag job.id 0 }
  | .requeued _ job => schedule.ended state.now state.jobs job.id
  | .dequeued _ job _ => schedule.ended state.now state.jobs job.id
  | _ => schedule

def after (schedule : Schedule) (state : State Instance Name)
    (shown : List (Output Name Outcome)) : Schedule :=
  shown.foldl (fun schedule output => schedule.output state output) schedule

end Outputs

end Schedule

def delays : Nat → Int
  | 0 => 0
  | count + 1 => delays count + retryDuration count

theorem delays_le : ∀ count : Nat, count ≤ 10 → delays count ≤ 1023 * minute := by
  decide

variable {Instance Name Outcome : Type} [DecidableEq Instance]
  [DecidableEq Name]

/-- The callback asks for a retry as `DeliveryWorker.retry` does, or not. -/
def Lawful (setup : Setup Instance Name Outcome) (outcome : Outcome)
    (job : Job) : Prop :=
  ∀ duration, setup.callback outcome job = some duration →
    retry job = some duration

def AllLawful (setup : Setup Instance Name Outcome)
    (trace : List (Output Name Outcome)) : Prop :=
  ∀ name outcome ran time, .completed name outcome ran time ∈ trace →
    Lawful setup outcome ran

/-- A job is due when its delays and its lag have passed. -/
structure OnSchedule (schedule : Schedule) (now : Int) (row : Row) : Prop where
  past : schedule.enqueued row.id ≤ now
  lag : 0 ≤ schedule.lag row.id
  due : ∃ count : Nat, row.retryCount = count ∧ count ≤ 10 ∧
    schedule.due row ≤
      schedule.enqueued row.id + schedule.lag row.id + delays count

/-- What has passed since the `Enqueue` is delay or lag. -/
theorem OnSchedule.now_le {schedule : Schedule} {now : Int} {row : Row}
    (held : OnSchedule schedule now row) :
    now ≤ schedule.enqueued row.id + 1023 * minute +
      schedule.total now row := by
  obtain ⟨count, _, few, due⟩ := held.due
  have delayed := delays_le count few
  rw [Schedule.total]
  omega

theorem OnSchedule.transfer {schedule later : Schedule} {now moment : Int}
    {old row : Row} (held : OnSchedule schedule now old)
    (sameID : row.id = old.id) (sameCount : row.retryCount = old.retryCount)
    (sameActive : row.activeAt = old.activeAt)
    (sameTime : later.enqueued row.id = schedule.enqueued row.id)
    (sameLag : later.lag row.id = schedule.lag row.id)
    (passed : now ≤ moment) : OnSchedule later moment row := by
  have sameDue : later.due row = schedule.due old := by
    rw [Schedule.due, Schedule.due, sameActive, sameTime, sameID]
  rw [sameID] at sameTime sameLag
  refine ⟨?_, ?_, ?_⟩
  · rw [sameID, sameTime]
    exact Int.le_trans held.past passed
  · rw [sameID, sameLag]
    exact held.lag
  · rw [sameCount, sameDue, sameID, sameTime, sameLag]
    exact held.due

section Steps

variable {setup : Setup Instance Name Outcome} {schedule : Schedule}
  {state next : State Instance Name} {event : Event Instance Name Outcome}
  {trace shown : List (Output Name Outcome)}

theorem ended_other {now : Int} {jobs : List Row} {id other : Nat}
    (different : other ≠ id) :
    (schedule.ended now jobs id).enqueued other = schedule.enqueued other ∧
      (schedule.ended now jobs id).lag other = schedule.lag other := by
  rw [Schedule.ended]
  split
  · exact ⟨rfl, rfl⟩
  · exact ⟨rfl, Function.update_of_ne different _ _⟩

def Elsewhere (id : Nat) : Output Name Outcome → Prop
  | .enqueued job => job.id ≠ id
  | .requeued _ job => job.id ≠ id
  | .dequeued _ job _ => job.id ≠ id
  | _ => True

theorem after_elsewhere {id : Nat}
    (elsewhere : ∀ output ∈ shown, Elsewhere id output) :
    (schedule.after state shown).enqueued id = schedule.enqueued id ∧
      (schedule.after state shown).lag id = schedule.lag id := by
  induction shown generalizing schedule with
  | nil => exact ⟨rfl, rfl⟩
  | cons output rest ih =>
      have here := elsewhere output (.head _)
      obtain ⟨time, lag⟩ := @ih (schedule.output state output)
        fun later member => elsewhere later (.tail _ member)
      rw [Schedule.after, List.foldl_cons]
      have kept : (schedule.output state output).enqueued id =
          schedule.enqueued id ∧
          (schedule.output state output).lag id = schedule.lag id := by
        cases output with
        | enqueued job =>
            exact ⟨Function.update_of_ne (Ne.symm here) _ _,
              Function.update_of_ne (Ne.symm here) _ _⟩
        | requeued name job => exact ended_other (Ne.symm here)
        | dequeued name job rows => exact ended_other (Ne.symm here)
        | _ => exact ⟨rfl, rfl⟩
      exact ⟨time.trans kept.1, lag.trans kept.2⟩

theorem find_of_unique {jobs : List Row} (unique : UniqueBy key jobs)
    {row : Row} (member : row ∈ jobs) :
    (jobs.find? fun other => other.id == row.id) = some row := by
  cases found : jobs.find? fun other => other.id == row.id with
  | none =>
      have missing := List.find?_eq_none.mp found row member
      simp at missing
  | some other =>
      have same := List.find?_some found
      rw [unique.eq_of_mem (List.mem_of_find?_eq_some found) member
        (eq_of_beq same)]

theorem after_requeued {name : Name} {job : Job} {row : Row}
    (unique : UniqueBy key state.jobs) (member : row ∈ state.jobs)
    (sameID : row.id = job.id) :
    (schedule.after state
        [(.requeued name job : Output Name Outcome)]).enqueued job.id =
          schedule.enqueued job.id ∧
      (schedule.after state
        [(.requeued name job : Output Name Outcome)]).lag job.id =
          schedule.lag job.id + (state.now - schedule.due row) := by
  have found := find_of_unique unique member
  rw [sameID] at found
  simp only [Schedule.after, List.foldl_cons, List.foldl_nil,
    Schedule.output, Schedule.ended, found, Function.update_self, and_self]

theorem due_cases (schedule : Schedule) (row : Row) :
    schedule.due row = schedule.enqueued row.id ∨
      schedule.due row = row.activeAt := by
  rw [Schedule.due]
  split
  · exact .inl rfl
  · exact .inr rfl

/-- A requeued job: the lag of its attempt and a new delay are added. -/
theorem OnSchedule.retried {name : Name} {ran : Job} {time duration now : Int}
    (held : OnSchedule schedule state.now ran.toRow)
    (unique : UniqueBy key state.jobs) (member : ran.toRow ∈ state.jobs)
    (asked : retry ran = some duration) (due : ran.activeAt ≤ time)
    (past : time ≤ state.now) (passed : state.now ≤ now) :
    OnSchedule (schedule.after state
        [(.requeued name (ran.retry time duration) : Output Name Outcome)])
      now (requeuedRow (ran.retry time duration)) := by
  obtain ⟨count, counted, few, dueBy⟩ := held.due
  have enqueued := held.past
  have lag := held.lag
  have started : schedule.due ran.toRow ≤ state.now := by
    rcases due_cases schedule ran.toRow with same | same
    · rw [same]
      exact enqueued
    · rw [same]
      exact Int.le_trans due past
  obtain ⟨sameTime, newLag⟩ := @after_requeued _ _ Outcome _ _ schedule state
    name (ran.retry time duration) ran.toRow unique member rfl
  generalize schedule.after state
    [(.requeued name (ran.retry time duration) : Output Name Outcome)] =
      later at sameTime newLag ⊢
  rw [retry] at asked
  split at asked
  · rename_i retries
    rw [Option.some.injEq, counted] at asked
    rw [counted] at retries
    have delayed : 0 < duration := by
      rw [← asked]
      exact (retryDuration_bounds count (by omega)).1
    have active : (requeuedRow (ran.retry time duration)).activeAt =
      time + duration := rfl
    have sameID : (requeuedRow (ran.retry time duration)).id = ran.id := rfl
    have dueNow := due_cases later (requeuedRow (ran.retry time duration))
    rw [active, sameID] at dueNow
    rw [Job.retry_id] at sameTime newLag
    refine ⟨?_, ?_, count + 1, ?_, by omega, ?_⟩
    · rw [sameID, sameTime]
      exact Int.le_trans enqueued passed
    · rw [sameID, newLag]
      omega
    · exact congrArg (· + 1) counted
    · rw [sameID, sameTime, newLag, delays, asked]
      rw [sameTime] at dueNow
      clear asked
      omega
  · cases asked

/-- A job of `NewJob`, as `Enqueue` stores and returns it. -/
def storedJob (id : Nat) (payload : String) : Job where
  id := id
  workerID := ""
  payload := payload
  version := 1
  retryCount := 0
  activeAt := zeroTime
  shouldRetry := false

theorem enqueue_newJob (id : Nat) (jobs : List Row) (payload : String) :
    enqueue id jobs (newJob payload) =
      (jobs ++ [(storedJob id payload).toRow], storedJob id payload) := rfl

/-- A job that has just been enqueued is due at once. -/
theorem OnSchedule.added {id : Nat} {payload : String} :
    OnSchedule (schedule.after state
        [(.enqueued (storedJob id payload) : Output Name Outcome)])
      state.now (storedJob id payload).toRow := by
  have time : (schedule.after state
      [(.enqueued (storedJob id payload) : Output Name Outcome)]).enqueued
        id = state.now :=
    Function.update_self _ _ _
  have lag : (schedule.after state
      [(.enqueued (storedJob id payload) : Output Name Outcome)]).lag id = 0 :=
    Function.update_self _ _ _
  refine ⟨Int.le_of_eq time, Int.le_of_eq lag.symm, 0, rfl, by omega, ?_⟩
  have sameID : (storedJob id payload).toRow.id = id := rfl
  have unset : (storedJob id payload).toRow.activeAt = zeroTime := rfl
  rw [Schedule.due, if_pos unset, sameID, time, lag, delays]
  omega

/-- Every job is on schedule, as long as `NewJob` makes the jobs that are
enqueued, nothing is unlocked and the callbacks retry as `retry` does. -/
theorem OnSchedule.step
    (held : ∀ row ∈ state.jobs, OnSchedule schedule state.now row)
    (faithful : Faithful setup trace state) (lawful : AllLawful setup trace)
    (spares : event.clears = false)
    (new : ∀ job, event = .enqueue job → ∃ payload, job = newJob payload)
    (transition : Transition setup state event next shown) :
    ∀ row ∈ next.jobs,
      OnSchedule (schedule.after state shown) next.now row := by
  intro row member
  have sound := faithful.leased.sound
  have passed := transition.now_le
  cases faithful.row_step spares transition member with
  | kept old notRequeued notDequeued notStarted =>
      have elsewhere : ∀ output ∈ shown, Elsewhere row.id output := by
        intro output present
        cases output with
        | requeued name job => exact notRequeued name job present
        | dequeued name job rows => exact notDequeued name job rows present
        | enqueued job =>
            cases transition with
            | enqueue input =>
                obtain ⟨payload, rfl⟩ := new input rfl
                rw [enqueue_newJob, List.mem_singleton,
                  Output.enqueued.injEq] at present
                have known : row.id < state.nextID := sound.known row old
                rw [present]
                exact Nat.ne_of_gt known
            | _ => simp at present
        | _ => trivial
      obtain ⟨sameTime, sameLag⟩ := @after_elsewhere _ _ Outcome _ _ schedule
        state shown row.id elsewhere
      exact (held row old).transfer rfl rfl rfl sameTime sameLag passed
  | added job isNew sameID sameCount =>
      cases transition with
      | enqueue input =>
          obtain ⟨payload, rfl⟩ := new input rfl
          rw [enqueue_newJob] at member ⊢
          rcases List.mem_append.mp member with old | fresh
          · have known : row.id < state.nextID := sound.known row old
            omega
          · rw [List.mem_singleton.mp fresh]
            exact OnSchedule.added
  | reserved name job old there sameID sameCount sameActive locked =>
      exact (held old there).transfer sameID sameCount sameActive
        (by rfl) rfl passed
  | released name job waits there sameID sameCount sameActive =>
      exact (held job.toRow there).transfer sameID sameCount sameActive rfl
        rfl passed
  | retried name outcome ran time duration completed there asked written
      due past =>
      rw [written]
      exact (held ran.toRow there).retried sound.unique there
        (lawful name outcome ran time completed duration asked) due past
        passed

end Steps

end Notifications.Postal
