import Notifications.Gobble.Copies
import Notifications.Gobble.Fencing
import Notifications.Postal.Retry

/-!
# Bounded retries over whole runs

The invariant follows one job, by its ID, from `Enqueue` to its last `Dequeue`:
its row counts the failed attempts, its `active_at` is the end of the last
delay, and the number of started attempts is tied to the number of failures by
who holds the row.
-/

set_option autoImplicit false
set_option linter.unusedSectionVars false

namespace Notifications.Postal

open Notifications.Lib Notifications.Lib.Versioned Notifications.Gobble

variable {Instance Name : Type} [DecidableEq Instance] [DecidableEq Name]

def isRequeue (id : Nat) : Output Name Bool → Bool
  | .requeued _ job => job.id == id
  | _ => false

def isStart (id : Nat) : Output Name Bool → Bool
  | .started _ job _ => job.id == id
  | _ => false

/-- The failed attempts of a job that have completed and left it in the queue. -/
def failures (id : Nat) (trace : List (Output Name Bool)) : Nat :=
  trace.countP (isRequeue id)

/-- How often `Deliver` was run on the job. -/
def starts (id : Nat) (trace : List (Output Name Bool)) : Nat :=
  trace.countP (isStart id)

/-- Nobody starts a job before the time its failed attempt set, and nothing
happens to a job after its `Dequeue`. -/
def InOrder (id : Nat) : Output Name Bool → Output Name Bool → Prop
  | .requeued _ job, .started _ later time =>
      job.id = id → later.id = id → job.activeAt ≤ time
  | .dequeued _ job _, .started _ later _ => job.id = id → later.id ≠ id
  | .dequeued _ job _, .requeued _ later => job.id = id → later.id ≠ id
  | _, _ => True

/-- A requeued job is what a failed attempt with retries left made of it. -/
def RetryShown (trace : List (Output Name Bool)) (name : Name) (job : Job) :
    Prop :=
  ∃ ran time, .completed name true ran time ∈ trace ∧ ran.retryCount < 10 ∧
    job = ran.retry time (retryDuration ran.retryCount)

structure Backoff (setup : Setup Instance Name Bool) (id : Nat)
    (trace : List (Output Name Bool)) (state : State Instance Name) :
    Prop where
  faithful : Faithful setup trace state
  unused : state.nextID ≤ id → starts id trace = 0 ∧ failures id trace = 0
  count : ∀ row ∈ state.jobs, row.id = id →
    row.retryCount = failures id trace ∧ row.retryCount ≤ 10
  spare : ∀ row ∈ state.jobs, row.id = id → row.workerID = "" →
    starts id trace ≤ failures id trace
  waiting : ∀ name job, (state.attempts name).waiting = some job →
    job.id = id → starts id trace ≤ failures id trace
  bound : starts id trace ≤ failures id trace + 1 ∧ failures id trace ≤ 10
  retried : ∀ name job, .requeued name job ∈ trace → job.id = id →
    RetryShown trace name job
  pending : ∀ name job, .requeued name job ∈ trace → job.id = id →
    ∀ row ∈ state.jobs, row.id = id →
      (job.activeAt ≤ row.activeAt ∨ job.activeAt ≤ state.now) ∧
      job.retryCount ≤ row.retryCount ∧
      (row.retryCount = job.retryCount → row.activeAt = job.activeAt)
  stays : ∀ name job, .requeued name job ∈ trace → job.id = id →
    (∃ row ∈ state.jobs, row.id = id) ∨
      ∃ last done rows, .dequeued last done rows ∈ trace ∧ done.id = id
  gone : ∀ name job rows, .dequeued name job rows ∈ trace → job.id = id →
    id < state.nextID ∧ ∀ row ∈ state.jobs, row.id ≠ id
  ordered : trace.Pairwise (InOrder id)
  settled : ∀ name failed ran time, .completed name failed ran time ∈ trace →
    ran.id = id →
      id < state.nextID ∧ ran.shouldRetry = false ∧ 0 ≤ ran.retryCount ∧
      (state.attempts name = .called (setup.afterCallback failed time ran) ∨
        state.attempts name = .dead ∨
        (state.attempts name = .returned ∧
          (setup.callback failed ran = none →
            ∀ row ∈ state.jobs, row.id ≠ id) ∧
          (∀ duration, setup.callback failed ran = some duration →
            .requeued name (ran.retry time duration) ∈ trace)))

section Counting

variable {id : Nat} {trace shown : List (Output Name Bool)}

theorem failures_append :
    failures id (trace ++ shown) = failures id trace + failures id shown :=
  List.countP_append

theorem starts_append :
    starts id (trace ++ shown) = starts id trace + starts id shown :=
  List.countP_append

theorem failures_eq_zero
    (none : ∀ name job, .requeued name job ∈ shown → job.id ≠ id) :
    failures id shown = 0 := by
  refine List.countP_eq_zero.mpr ?_
  intro output member hit
  cases output with
  | requeued name job => exact none name job member (by simpa [isRequeue] using hit)
  | _ => cases hit

theorem starts_eq_zero
    (none : ∀ name job time, .started name job time ∈ shown → job.id ≠ id) :
    starts id shown = 0 := by
  refine List.countP_eq_zero.mpr ?_
  intro output member hit
  cases output with
  | started name job time =>
      exact none name job time member (by simpa [isStart] using hit)
  | _ => cases hit

theorem failures_pos {name : Name} {job : Job}
    (member : .requeued name job ∈ trace) (sameID : job.id = id) :
    0 < failures id trace :=
  List.countP_pos_iff.mpr ⟨_, member, by simp [isRequeue, sameID]⟩

end Counting

section Steps

variable {setup : Setup Instance Name Bool} {id : Nat}
  {state next : State Instance Name} {event : Event Instance Name Bool}
  {trace shown : List (Output Name Bool)}

/-- The job that is enqueued under this ID starts with `RetryCount` 0. -/
def StartsFresh (id : Nat) (trace : List (Output Name Bool)) : Prop :=
  ∀ job, .enqueued job ∈ trace → job.id = id → job.retryCount = 0

theorem Backoff.count_step (held : Backoff setup id trace state)
    (delivers : setup.callback = deliverCallback)
    (fresh : StartsFresh id shown) (spares : event.clears = false)
    (transition : Transition setup state event next shown) :
    ∀ row ∈ next.jobs, row.id = id →
      row.retryCount = failures id (trace ++ shown) ∧ row.retryCount ≤ 10 := by
  intro row member sameID
  rw [failures_append]
  cases held.faithful.row_step spares transition member with
  | kept old notRequeued notDequeued notStarted =>
      have none : failures id shown = 0 := by
        rw [sameID] at notRequeued
        exact failures_eq_zero notRequeued
      rw [none]
      exact held.count row old sameID
  | added job isNew jobID sameCount =>
      have none := held.unused (by omega)
      have zero := fresh job (by simp) (jobID.trans sameID)
      rw [none.2, sameCount, zero]
      simp [failures, isRequeue]
  | reserved name job old oldMember oldID sameCount sameActive locked =>
      rw [sameCount]
      simpa [failures, isRequeue] using
        held.count old oldMember (oldID.symm.trans sameID)
  | released name job waits oldMember oldID sameCount sameActive =>
      rw [sameCount]
      simpa [failures, isRequeue] using
        held.count job.toRow oldMember (oldID.symm.trans sameID)
  | retried name failed ran time duration completed oldMember asked written
      due past =>
      rw [delivers] at asked
      obtain ⟨_, few, _⟩ := deliverCallback_eq_some.mp asked
      have ranID : ran.id = id := by
        rw [written] at sameID
        exact sameID
      have counted := held.count ran.toRow oldMember ranID
      have one : failures id
          [.requeued name (ran.retry time duration)] = 1 := by
        simp [failures, isRequeue, ranID]
      have next : row.retryCount = ran.retryCount + 1 := by
        rw [written]
        rfl
      rw [one, next]
      omega

theorem Backoff.spare_step (held : Backoff setup id trace state)
    (spares : event.clears = false)
    (transition : Transition setup state event next shown) :
    ∀ row ∈ next.jobs, row.id = id → row.workerID = "" →
      starts id (trace ++ shown) ≤ failures id (trace ++ shown) := by
  intro row member sameID unreserved
  rw [failures_append, starts_append]
  cases held.faithful.row_step spares transition member with
  | kept old notRequeued notDequeued notStarted =>
      have none : starts id shown = 0 := by
        rw [sameID] at notStarted
        exact starts_eq_zero (notStarted unreserved)
      have before := held.spare row old sameID unreserved
      omega
  | added job isNew jobID sameCount =>
      have none := held.unused (by omega)
      rw [none.1]
      simp [starts, isStart]
  | reserved name job old oldMember oldID sameCount sameActive locked =>
      exact absurd unreserved locked
  | released name job waits oldMember oldID sameCount sameActive =>
      have before := held.waiting name job waits (oldID.symm.trans sameID)
      simpa [starts, isStart, failures, isRequeue] using before
  | retried name failed ran time duration completed oldMember asked written
      due past =>
      have ranID : ran.id = id := by
        rw [written] at sameID
        exact sameID
      have before := held.bound.1
      have one : failures id
          [.requeued name (ran.retry time duration)] = 1 := by
        simp [failures, isRequeue, ranID]
      have none : starts id
          [.requeued name (ran.retry time duration)] = 0 := by
        simp [starts, isStart]
      rw [one, none]
      omega

theorem Backoff.started_waits (held : Backoff setup id trace state)
    (transition : Transition setup state event next shown) {name : Name}
    {job : Job} {time : Int} (member : .started name job time ∈ shown) :
    (state.attempts name).waiting = some job ∧
      next.attempts name = .running job ∧ time = state.now ∧
      job.toRow ∈ state.jobs ∧ job.activeAt ≤ state.now := by
  cases transition with
  | receive actor sent here =>
      simp only [List.mem_singleton, Output.started.injEq] at member
      obtain ⟨rfl, rfl, rfl⟩ := member
      have holds : (state.attempts name).holding = some job := by
        rw [here]
        rfl
      obtain ⟨mirrors, _, due⟩ :=
        held.faithful.mirror name job (by rw [here]; rfl)
      refine ⟨by rw [here]; rfl, set_attempts_self _ _ _, rfl, ?_, due⟩
      exact mirrors.mem (held.faithful.leased.current holds)
  | _ => simp at member

/-- A requeued job is the retried row of its attempt. -/
theorem Backoff.requeued_row (held : Backoff setup id trace state)
    (transition : Transition setup state event next shown) {name : Name}
    {job : Job} (member : .requeued name job ∈ shown) :
    requeuedRow job ∈ next.jobs ∧ (state.attempts name).holding = some job ∧
      next.attempts name = .returned ∧ state.attempts name = .called job ∧
      ∃ failed ran time duration,
        .completed name failed ran time ∈ trace ∧ ran.toRow ∈ state.jobs ∧
        setup.callback failed ran = some duration ∧
        job = ran.retry time duration := by
  cases transition with
  | requeue actor called here retries current =>
      simp only [List.mem_singleton, Output.requeued.injEq] at member
      obtain ⟨rfl, rfl⟩ := member
      obtain ⟨failed, ran, time, duration, completed, found, asked, same, _⟩ :=
        held.faithful.retried here retries current
      refine ⟨?_, by rw [here]; rfl, set_attempts_self _ _ _, here, failed, ran,
        time, duration, completed, found, asked, same⟩
      exact mem_updated.mpr (.inr ⟨current, rfl⟩)
  | _ => simp at member

theorem Backoff.waiting_step (held : Backoff setup id trace state)
    (transition : Transition setup state event next shown) :
    ∀ name job, (next.attempts name).waiting = some job → job.id = id →
      starts id (trace ++ shown) ≤ failures id (trace ++ shown) := by
  intro name job waits sameID
  rw [failures_append, starts_append]
  rcases transition.waiting waits with
    before | ⟨halted, seen, here, rfl, current, rfl⟩
  · have none : starts id shown = 0 := by
      apply starts_eq_zero
      intro other started time member startedID
      obtain ⟨otherWaits, running, _⟩ := held.started_waits transition member
      have same := held.faithful.leased.alone
        (Attempt.holding_of_waiting otherWaits)
        (Attempt.holding_of_waiting before) (startedID.trans sameID.symm)
      rw [same] at running
      rw [running] at waits
      cases waits
    have earlier := held.waiting name job before sameID
    omega
  · obtain ⟨mirrors, _, _⟩ := held.faithful.mirror name seen (by rw [here]; rfl)
    have unreserved := held.faithful.found name halted seen here
    have earlier := held.spare seen.toRow (mirrors.mem current) sameID unreserved
    simpa [starts, isStart, failures, isRequeue] using earlier

theorem Backoff.bound_step (held : Backoff setup id trace state)
    (transition : Transition setup state event next shown)
    (counted : ∀ row ∈ next.jobs, row.id = id →
      row.retryCount = failures id (trace ++ shown) ∧ row.retryCount ≤ 10) :
    starts id (trace ++ shown) ≤ failures id (trace ++ shown) + 1 ∧
      failures id (trace ++ shown) ≤ 10 := by
  constructor
  · rw [failures_append, starts_append]
    by_cases none : starts id shown = 0
    · have before := held.bound.1
      omega
    · have positive : 0 < shown.countP (isStart id) := Nat.pos_of_ne_zero none
      obtain ⟨output, member, hit⟩ := List.countP_pos_iff.mp positive
      cases output with
      | started name job time =>
          have jobID : job.id = id := by simpa [isStart] using hit
          obtain ⟨waits, _⟩ := held.started_waits transition member
          have before := held.waiting name job waits jobID
          have one : starts id shown ≤ 1 :=
            Nat.le_trans (List.countP_le_length ..) transition.shown_le
          omega
      | _ => cases hit
  · by_cases none : failures id shown = 0
    · rw [failures_append, none]
      exact held.bound.2
    · have positive : 0 < shown.countP (isRequeue id) := Nat.pos_of_ne_zero none
      obtain ⟨output, member, hit⟩ := List.countP_pos_iff.mp positive
      cases output with
      | requeued name job =>
          have jobID : job.id = id := by simpa [isRequeue] using hit
          obtain ⟨stored, _⟩ := held.requeued_row transition member
          have counts := counted (requeuedRow job) stored jobID
          omega
      | _ => cases hit

theorem Backoff.unused_step (held : Backoff setup id trace state)
    (transition : Transition setup state event next shown)
    (grown : state.nextID ≤ next.nextID) :
    next.nextID ≤ id →
      starts id (trace ++ shown) = 0 ∧ failures id (trace ++ shown) = 0 := by
  intro later
  have sound := held.faithful.leased.sound
  have known : ∀ name job, (state.attempts name).holding = some job →
      job.id ≠ id := by
    intro name job holds same
    have below : job.id < state.nextID :=
      sound.copyKnown name job.toRow (Attempt.client_of_holding true holds)
    omega
  have before := held.unused (by omega)
  have noStart : starts id shown = 0 := by
    apply starts_eq_zero
    intro name job time member
    obtain ⟨waits, _⟩ := held.started_waits transition member
    exact known name job (Attempt.holding_of_waiting waits)
  have noFailure : failures id shown = 0 := by
    apply failures_eq_zero
    intro name job member
    obtain ⟨_, holds, _⟩ := held.requeued_row transition member
    exact known name job holds
  rw [starts_append, failures_append]
  omega

theorem Backoff.retried_step (held : Backoff setup id trace state)
    (delivers : setup.callback = deliverCallback)
    (transition : Transition setup state event next shown) :
    ∀ name job, .requeued name job ∈ trace ++ shown → job.id = id →
      RetryShown (trace ++ shown) name job := by
  intro name job member sameID
  rcases List.mem_append.mp member with earlier | now
  · obtain ⟨ran, time, completed, facts⟩ := held.retried name job earlier sameID
    exact ⟨ran, time, List.mem_append_left _ completed, facts⟩
  · obtain ⟨_, _, _, _, failed, ran, time, duration, completed, _, asked,
      same⟩ := held.requeued_row transition now
    rw [delivers] at asked
    obtain ⟨rfl, few, rfl⟩ := deliverCallback_eq_some.mp asked
    exact ⟨ran, time, List.mem_append_left _ completed, few, same⟩

theorem Backoff.pending_step (held : Backoff setup id trace state)
    (spares : event.clears = false)
    (transition : Transition setup state event next shown) :
    ∀ name job, .requeued name job ∈ trace ++ shown → job.id = id →
      ∀ row ∈ next.jobs, row.id = id →
        (job.activeAt ≤ row.activeAt ∨ job.activeAt ≤ next.now) ∧
        job.retryCount ≤ row.retryCount ∧
        (row.retryCount = job.retryCount → row.activeAt = job.activeAt) := by
  intro name job member jobID row rowMember rowID
  have later := transition.now_le
  have sameRow : ∀ old ∈ state.jobs, old.id = id →
      row.retryCount = old.retryCount → row.activeAt = old.activeAt →
      .requeued name job ∈ trace →
        (job.activeAt ≤ row.activeAt ∨ job.activeAt ≤ next.now) ∧
        job.retryCount ≤ row.retryCount ∧
        (row.retryCount = job.retryCount → row.activeAt = job.activeAt) := by
    intro old oldMember oldID sameCount sameActive earlier
    have before := held.pending name job earlier jobID old oldMember oldID
    rw [sameCount, sameActive]
    refine ⟨?_, before.2⟩
    rcases before.1 with ahead | past
    · exact .inl ahead
    · exact .inr (by omega)
  cases held.faithful.row_step spares transition rowMember with
  | kept old notRequeued notDequeued notStarted =>
      rcases List.mem_append.mp member with earlier | now
      · exact sameRow row old rowID rfl rfl earlier
      · exact absurd (jobID.trans rowID.symm) (notRequeued name job now)
  | added added isNew addedID sameCount =>
      have earlier : .requeued name job ∈ trace := by simpa using member
      have none := held.unused (by omega)
      have some := failures_pos earlier jobID
      omega
  | reserved other taken old oldMember oldID sameCount sameActive locked =>
      exact sameRow old oldMember (oldID.symm.trans rowID) sameCount sameActive
        (by simpa using member)
  | released other taken waits oldMember oldID sameCount sameActive =>
      exact sameRow taken.toRow oldMember (oldID.symm.trans rowID) sameCount
        sameActive (by simpa using member)
  | retried other failed ran time duration completed oldMember asked written
      due past =>
      have ranID : ran.id = id := by
        rw [written] at rowID
        exact rowID
      have rowCount : row.retryCount = ran.retryCount + 1 := by
        rw [written]
        rfl
      rcases List.mem_append.mp member with earlier | now
      · have before := held.pending name job earlier jobID ran.toRow oldMember
          ranID
        refine ⟨.inr ?_, by omega, by omega⟩
        rcases before.1 with ahead | passed <;> omega
      · simp only [List.mem_singleton, Output.requeued.injEq] at now
        obtain ⟨_, rfl⟩ := now
        rw [written]
        exact ⟨.inl (Int.le_refl _), Int.le_refl _, fun _ => rfl⟩

theorem Backoff.stays_step (held : Backoff setup id trace state)
    (transition : Transition setup state event next shown) :
    ∀ name job, .requeued name job ∈ trace ++ shown → job.id = id →
      (∃ row ∈ next.jobs, row.id = id) ∨
        ∃ last done rows, .dequeued last done rows ∈ trace ++ shown ∧
          done.id = id := by
  intro name job member sameID
  rcases List.mem_append.mp member with earlier | now
  · rcases held.stays name job earlier sameID with
      ⟨row, stored, rowID⟩ | ⟨last, done, rows, dequeued, doneID⟩
    · rcases transition.keeps_id held.faithful.leased.sound.unique stored with
        ⟨still, stillStored, stillID⟩ | ⟨last, done, _, _, doneID, _, rfl⟩
      · exact .inl ⟨still, stillStored, stillID.trans rowID⟩
      · exact .inr ⟨last, done, [row], by simp, doneID.symm.trans rowID⟩
    · exact .inr ⟨last, done, rows, List.mem_append_left _ dequeued, doneID⟩
  · obtain ⟨stored, _⟩ := held.requeued_row transition now
    exact .inl ⟨_, stored, sameID⟩

theorem Backoff.no_row_step (held : Backoff setup id trace state)
    (spares : event.clears = false)
    (transition : Transition setup state event next shown)
    (used : id < state.nextID) (none : ∀ row ∈ state.jobs, row.id ≠ id) :
    ∀ row ∈ next.jobs, row.id ≠ id := by
  intro row member sameID
  cases held.faithful.row_step spares transition member with
  | kept old => exact none row old sameID
  | added job isNew => omega
  | reserved name job old oldMember oldID =>
      exact none old oldMember (oldID.symm.trans sameID)
  | released name job waits oldMember oldID =>
      exact none job.toRow oldMember (oldID.symm.trans sameID)
  | retried name failed ran time duration completed oldMember asked written =>
      rw [written] at sameID
      exact none ran.toRow oldMember sameID

theorem Backoff.gone_step (held : Backoff setup id trace state)
    (spares : event.clears = false)
    (transition : Transition setup state event next shown)
    (grown : state.nextID ≤ next.nextID) :
    ∀ name job rows, .dequeued name job rows ∈ trace ++ shown → job.id = id →
      id < next.nextID ∧ ∀ row ∈ next.jobs, row.id ≠ id := by
  intro name job rows member jobID
  rcases List.mem_append.mp member with earlier | now
  · obtain ⟨used, none⟩ := held.gone name job rows earlier jobID
    exact ⟨by omega, held.no_row_step spares transition used none⟩
  · cases transition with
    | dequeue actor called found here done foundMember foundID =>
        simp only [List.mem_singleton, Output.dequeued.injEq] at now
        obtain ⟨_, rfl, _⟩ := now
        have known := held.faithful.leased.sound.known found foundMember
        simp only [key_eq_id] at known
        refine ⟨?_, ?_⟩
        · show id < state.nextID
          have used : found.id < state.nextID := known
          omega
        · intro row stored rowID
          obtain ⟨old, differs⟩ := mem_deleted.mp stored
          exact held.faithful.leased.other_row (by rw [here]; rfl) old differs
            (jobID.trans rowID.symm)
    | _ => simp at now

theorem Backoff.ordered_step (held : Backoff setup id trace state)
    (transition : Transition setup state event next shown) :
    (trace ++ shown).Pairwise (InOrder id) := by
  refine List.pairwise_append.mpr ⟨held.ordered, ?_, ?_⟩
  · cases transition <;> simp
  · intro first earlier second now
    cases second with
    | started name later time =>
        cases first with
        | requeued other job =>
            intro jobID laterID
            obtain ⟨_, _, rfl, stored, due⟩ :=
              held.started_waits transition now
            have before := held.pending other job earlier jobID later.toRow
              stored laterID
            rcases before.1 with ahead | past <;> omega
        | dequeued other job rows =>
            intro jobID laterID
            obtain ⟨_, _, _, stored, _⟩ := held.started_waits transition now
            exact (held.gone other job rows earlier jobID).2 later.toRow stored
              laterID
        | _ => trivial
    | requeued name later =>
        cases first with
        | dequeued other job rows =>
            intro jobID laterID
            obtain ⟨_, _, _, _, failed, ran, time, duration, _, stored, _,
              rfl⟩ := held.requeued_row transition now
            exact (held.gone other job rows earlier jobID).2 ran.toRow stored
              laterID
        | _ => trivial
    | _ => cases first <;> trivial

theorem Backoff.settled_step (held : Backoff setup id trace state)
    (spares : event.clears = false)
    (transition : Transition setup state event next shown)
    (grown : state.nextID ≤ next.nextID) :
    ∀ name failed ran time, .completed name failed ran time ∈ trace ++ shown →
      ran.id = id →
        id < next.nextID ∧ ran.shouldRetry = false ∧ 0 ≤ ran.retryCount ∧
        (next.attempts name = .called (setup.afterCallback failed time ran) ∨
          next.attempts name = .dead ∨
          (next.attempts name = .returned ∧
            (setup.callback failed ran = none →
              ∀ row ∈ next.jobs, row.id ≠ id) ∧
            (∀ duration, setup.callback failed ran = some duration →
              .requeued name (ran.retry time duration) ∈ trace ++ shown))) := by
  intro name failed ran time member ranID
  rcases List.mem_append.mp member with earlier | now
  · obtain ⟨used, fresh, natural, before⟩ :=
      held.settled name failed ran time earlier ranID
    refine ⟨by omega, fresh, natural, ?_⟩
    rcases before with called | dead | ⟨returned, none, some⟩
    · rcases transition.after_called called with
        still | dead | ⟨returned, retries, rfl⟩ | ⟨returned, done, deleted⟩
      · exact .inl still
      · exact .inr (.inl dead)
      · refine .inr (.inr ⟨returned, ?_, ?_⟩)
        · intro notAsked
          simp only [Setup.afterCallback, notAsked, fresh] at retries
          cases retries
        · intro duration asked
          simp [Setup.afterCallback, asked]
      · refine .inr (.inr ⟨returned, ?_, ?_⟩)
        · intro _ row stored rowID
          rw [deleted] at stored
          obtain ⟨old, differs⟩ := mem_deleted.mp stored
          apply held.faithful.leased.other_row (by rw [called]; rfl) old differs
          rw [setup.afterCallback_id]
          exact ranID.trans rowID.symm
        · intro duration asked
          simp [Setup.afterCallback, asked, Job.retry] at done
    · rcases transition.after_end (.inr dead) with same | killed
      · exact .inr (.inl (same.trans dead))
      · exact .inr (.inl killed)
    · rcases transition.after_end (.inl returned) with same | killed
      · refine .inr (.inr ⟨same.trans returned, ?_, ?_⟩)
        · intro notAsked
          exact held.no_row_step spares transition used (none notAsked)
        · intro duration asked
          exact List.mem_append_left _ (some duration asked)
      · exact .inr (.inl killed)
  · cases transition with
    | callback actor outcome job here =>
        simp only [List.mem_singleton, Output.completed.injEq] at now
        obtain ⟨rfl, rfl, rfl, rfl⟩ := now
        have holds : (state.attempts name).holding = some ran := by
          rw [here]
          rfl
        have used : ran.id < state.nextID :=
          held.faithful.leased.sound.copyKnown name ran.toRow
            (Attempt.client_of_holding true holds)
        obtain ⟨mirrors, fresh, _⟩ :=
          held.faithful.mirror name ran (by rw [here]; rfl)
        have counted := held.count ran.toRow
          (mirrors.mem (held.faithful.leased.current holds)) ranID
        refine ⟨?_, fresh, by omega, .inl (set_attempts_self _ _ _)⟩
        show id < state.nextID
        omega
    | _ => simp at now

theorem Backoff.step (held : Backoff setup id trace state)
    (delivers : setup.callback = deliverCallback)
    (fresh : StartsFresh id shown) (spares : event.clears = false)
    (stepped : setup.step state event = some (next, shown)) :
    Backoff setup id (trace ++ shown) next := by
  have sound := held.faithful.leased.sound
  have transition := step_transition sound stepped
  have grown : state.nextID ≤ next.nextID :=
    (step_refines sound stepped).fresh_le
  have counted := held.count_step delivers fresh spares transition
  exact {
    faithful := held.faithful.step spares stepped
    unused := held.unused_step transition grown
    count := counted
    spare := held.spare_step spares transition
    waiting := held.waiting_step transition
    bound := held.bound_step transition counted
    retried := held.retried_step delivers transition
    pending := held.pending_step spares transition
    stays := held.stays_step transition
    gone := held.gone_step spares transition grown
    ordered := held.ordered_step transition
    settled := held.settled_step spares transition grown }

end Steps

section Runs

variable {setup : Setup Instance Name Bool} {id : Nat}
  {state final : State Instance Name}
  {events : List (Event Instance Name Bool)} {trace : List (Output Name Bool)}

theorem initial_backoff (initial : Initial state) :
    Backoff setup id [] state := by
  have noRow : ∀ row, row ∉ state.jobs := by
    intro row member
    simp [initial.jobs] at member
  have noAttempt : ∀ name job, (state.attempts name).waiting ≠ some job := by
    intro name job waits
    rw [initial.attempts name] at waits
    cases waits
  exact {
    faithful := initial.faithful
    unused := fun _ => ⟨rfl, rfl⟩
    count := fun row member => absurd member (noRow row)
    spare := fun row member => absurd member (noRow row)
    waiting := fun name job waits => absurd waits (noAttempt name job)
    bound := by simp [starts, failures]
    retried := by simp
    pending := by simp
    stays := by simp
    gone := by simp
    ordered := List.Pairwise.nil
    settled := by simp }

theorem run_backoff (initial : Initial state)
    (delivers : setup.callback = deliverCallback)
    (noUnlock : ∀ event ∈ events, event.clears = false)
    (fresh : StartsFresh id trace)
    (success : setup.machine.run events state = some (final, trace)) :
    Backoff setup id trace final := by
  have guarded : setup.machine.Guarded
      (fun _ event => event.clears = false) events state :=
    setup.machine.guarded_of_forall
      (fun _ event member => noUnlock event member) state
  have rule := setup.machine.run_invariant
    (fun _ event => event.clears = false)
    (fun trace state => StartsFresh id trace → Backoff setup id trace state)
  refine rule ?_ events [] state final trace (fun _ => initial_backoff initial) guarded
    success fresh
  intro soFar here event there shown held spares stepped fresh
  refine (held ?_).step delivers ?_ spares stepped
  · intro job member
    exact fresh job (List.mem_append_left _ member)
  · intro job member
    exact fresh job (List.mem_append_right _ member)

/-- The promise of `DeliveryWorker.retry` for one job. -/
structure BoundedRetries (id : Nat) (trace : List (Output Name Bool))
    (state : State Instance Name) : Prop where
  /-- `retry_count` counts the failed attempts. -/
  counts : ∀ row ∈ state.jobs, row.id = id →
    row.retryCount = failures id trace ∧ row.retryCount ≤ 10
  failed : ∀ name job, .requeued name job ∈ trace → job.id = id →
    RetryShown trace name job
  runs : starts id trace ≤ 11
  /-- After a failed attempt with retries left the row stays, and until the next
  failure its `active_at` is the end of the delay. -/
  backsOff : ∀ name (ran : Job) time (k : Nat),
    .completed name true ran time ∈ trace → ran.id = id →
    ran.retryCount = k → k < 10 → state.attempts name = .returned →
      ∃ job : Job, .requeued name job ∈ trace ∧ job.id = id ∧
        job.retryCount = k + 1 ∧ job.activeAt = time + 2 ^ k * minute ∧
        ((∃ row ∈ state.jobs, row.id = id ∧
            (row.retryCount = k + 1 → row.activeAt = job.activeAt)) ∨
          ∃ last done rows, .dequeued last done rows ∈ trace ∧ done.id = id)
  /-- Nobody is handed the job before its `active_at`, or after its end. -/
  waits : trace.Pairwise (InOrder id)
  /-- After an attempt without a retry the row is gone. -/
  ends : ∀ name failed ran time, .completed name failed ran time ∈ trace →
    ran.id = id → (failed = false ∨ 10 ≤ ran.retryCount) →
    state.attempts name = .returned → ∀ row ∈ state.jobs, row.id ≠ id

theorem Backoff.backsOff (held : Backoff setup id trace state)
    (delivers : setup.callback = deliverCallback) {name : Name} {ran : Job}
    {time : Int} {k : Nat} (completed : .completed name true ran time ∈ trace)
    (ranID : ran.id = id) (counts : ran.retryCount = k) (few : k < 10)
    (returned : state.attempts name = .returned) :
    ∃ job : Job, .requeued name job ∈ trace ∧ job.id = id ∧
      job.retryCount = k + 1 ∧ job.activeAt = time + 2 ^ k * minute ∧
      ((∃ row ∈ state.jobs, row.id = id ∧
          (row.retryCount = k + 1 → row.activeAt = job.activeAt)) ∨
        ∃ last done rows, .dequeued last done rows ∈ trace ∧ done.id = id) := by
  obtain ⟨_, _, _, ended⟩ := held.settled name true ran time completed ranID
  have asked : setup.callback true ran = some (2 ^ k * minute) := by
    rw [delivers]
    refine deliverCallback_eq_some.mpr ⟨rfl, by omega, ?_⟩
    rw [counts, retryDuration_eq k few]
  rcases ended with bad | bad | ⟨_, _, requeues⟩
  · rw [returned] at bad
    cases bad
  · rw [returned] at bad
    cases bad
  · have requeued := requeues _ asked
    have newCount : (ran.retry time (2 ^ k * minute)).retryCount = k + 1 := by
      simp [Job.retry, counts]
    refine ⟨_, requeued, ranID, newCount, rfl, ?_⟩
    rcases held.stays name _ requeued ranID with ⟨row, stored, rowID⟩ | gone
    · have later := held.pending name _ requeued ranID row stored rowID
      rw [newCount] at later
      exact .inl ⟨row, stored, rowID, later.2.2⟩
    · exact .inr gone

theorem Backoff.ends (held : Backoff setup id trace state)
    (delivers : setup.callback = deliverCallback) {name : Name} {failed : Bool}
    {ran : Job} {time : Int}
    (completed : .completed name failed ran time ∈ trace)
    (ranID : ran.id = id) (last : failed = false ∨ 10 ≤ ran.retryCount)
    (returned : state.attempts name = .returned) :
    ∀ row ∈ state.jobs, row.id ≠ id := by
  obtain ⟨_, _, _, ended⟩ := held.settled name failed ran time completed ranID
  have notAsked : setup.callback failed ran = none := by
    rw [delivers]
    cases asked : deliverCallback failed ran with
    | none => rfl
    | some duration =>
        obtain ⟨rfl, few, _⟩ := deliverCallback_eq_some.mp asked
        rcases last with bad | many
        · cases bad
        · omega
  rcases ended with bad | bad | ⟨_, none, _⟩
  · rw [returned] at bad
    cases bad
  · rw [returned] at bad
    cases bad
  · exact none notAsked

/-- Every job that starts with `RetryCount` 0 is delivered with bounded,
exponentially delayed retries, and the delays are what they say. -/
theorem retries_bounded (initial : Initial state)
    (delivers : setup.callback = deliverCallback)
    (noUnlock : ∀ event ∈ events, event.clears = false)
    (fresh : StartsFresh id trace)
    (success : setup.machine.run events state = some (final, trace)) :
    BoundedRetries id trace final ∧
      (∀ k : Nat, k < 10 → retryDuration k = 2 ^ k * minute ∧
        0 < retryDuration k ∧ retryDuration k < 2 ^ 63) ∧
      ((List.range 10).map fun k : Nat => retryDuration k).sum =
        1023 * minute := by
  have held := run_backoff initial delivers noUnlock fresh success
  refine ⟨?_, ?_, retryDuration_sum⟩
  · exact {
      counts := held.count
      failed := held.retried
      runs := by
        have bounds := held.bound
        omega
      backsOff := fun _ _ _ _ completed ranID counts few returned =>
        held.backsOff delivers completed ranID counts few returned
      waits := held.ordered
      ends := fun _ _ _ _ completed ranID last returned =>
        held.ends delivers completed ranID last returned }
  · intro k few
    exact ⟨retryDuration_eq k few, retryDuration_bounds k few⟩

/-- Jobs made by `NewJob` start fresh, whatever their ID will be. -/
theorem startsFresh_of_events (initial : Initial state)
    (fresh : ∀ job, .enqueue job ∈ events → job.retryCount = 0)
    (success : setup.machine.run events state = some (final, trace)) :
    StartsFresh id trace := by
  have guarded : setup.machine.Guarded
      (fun _ event => ∀ job, event = .enqueue job → job.retryCount = 0)
      events state := by
    apply setup.machine.guarded_of_forall
    intro _ event member job same
    rw [same] at member
    exact fresh job member
  have rule := setup.machine.run_invariant
    (fun _ event => ∀ job, event = .enqueue job → job.retryCount = 0)
    (fun trace state => Lease.Sound (state.view true) ∧ StartsFresh id trace)
  have result := rule ?_ events [] state final trace
    ⟨initial.sound, by simp [StartsFresh]⟩ guarded success
  · exact result.2
  · intro soFar here event there shown held fresh stepped
    refine ⟨(step_refines held.1 stepped).sound held.1, ?_⟩
    intro job member sameID
    rcases List.mem_append.mp member with earlier | now
    · exact held.2 job earlier sameID
    · cases step_transition held.1 stepped with
      | enqueue input =>
          have zero := fresh input rfl
          simp only [List.mem_singleton, Output.enqueued.injEq] at now
          rw [now, ← zero]
          simp only [enqueue, Gorp.insert]
          split <;> rfl
      | _ => simp at now

def deliveryPair : Setup Bool Bool Bool := { pair with callback := deliverCallback }

/-- One failed attempt: the job waits for a minute. -/
theorem retries_bounded_once :
    ∃ final trace, deliveryPair.machine.run
        (.enqueue (newJob "mail") :: takeJob false ++
          [.callback false true, .finish false]) pairStart =
            some (final, trace) ∧
      BoundedRetries 1 trace final ∧
      ∃ row ∈ final.jobs, row.retryCount = 1 ∧ row.activeAt = minute := by
  have success : deliveryPair.machine.run
      (.enqueue (newJob "mail") :: takeJob false ++
        [.callback false true, .finish false]) pairStart = some (_, _) := rfl
  have fresh : StartsFresh 1 _ :=
    startsFresh_of_events pairStart_initial (by simp [takeJob, newJob]) success
  have facts := retries_bounded pairStart_initial rfl (by decide) fresh success
  refine ⟨_, _, success, facts.1, ?_⟩
  decide

end Runs

end Notifications.Postal
