import Notifications.Gobble.Refinement

/-!
# One holder per job

As long as nobody runs `Unlock`, a reserved row has one holder and the holder's
`Requeue` or `Dequeue` meets the row it expects.  `Boot` runs `Unlock` whatever
the other instances are doing; the same guarantees then need that at this
moment no worker can still come to run a callback on a row it reserved.
-/

set_option autoImplicit false
set_option linter.unusedSectionVars false

namespace Notifications.Gobble

open Notifications.Lib Notifications.Lib.Versioned

variable {Instance Name Outcome : Type} [DecidableEq Instance]
  [DecidableEq Name] {setup : Setup Instance Name Outcome}

section Steps

variable {all : Bool} {state next : State Instance Name}
  {shown : List (Output Name Outcome)}

/-- A worker that has called back holds a lease under both readings. -/
theorem current_of_called {name : Name} {job : Job}
    (exclusive : Lease.Exclusive Row.Free (state.view all))
    (here : state.attempts name = .called job) :
    Current state.jobs job.toRow := by
  have held : (state.view all).client name = .holds job.toRow := by
    simp only [State.view, here]
    exact Attempt.client_eq_holds.mpr ⟨job, rfl, rfl, .inr rfl⟩
  exact exclusive.current held

theorem Transition.not_panicked {event : Event Instance Name Outcome}
    (transition : Transition setup state event next shown)
    (exclusive : Lease.Exclusive Row.Free (state.view all)) (name : Name) :
    .panicked name ∉ shown := by
  cases transition with
  | panic actor job here missing =>
      exact absurd (current_of_called exclusive here) missing
  | _ => simp

/-- The state of a system in which every reservation counts. -/
structure Leased (state : State Instance Name) : Prop where
  sound : Lease.Sound (state.view true)
  exclusive : Lease.Exclusive Row.Free (state.view true)

theorem Initial.leased (initial : Initial state) : Leased state :=
  ⟨initial.sound, initial.exclusive⟩

theorem Leased.step {event : Event Instance Name Outcome}
    (leased : Leased state) (spares : event.clears = false)
    (stepped : setup.step state event = some (next, shown)) : Leased next := by
  have refined := step_refines leased.sound stepped
  refine ⟨refined.sound leased.sound,
    refined.exclusive leased.sound leased.exclusive ?_⟩
  intro clears
  rw [spares] at clears
  cases clears

theorem Leased.client_of_holding {name : Name} {job : Job}
    (holds : (state.attempts name).holding = some job) :
    (state.view true).client name = .holds job.toRow :=
  Attempt.client_eq_holds.mpr ⟨job, holds, rfl, .inl rfl⟩

theorem Leased.current {name : Name} {job : Job} (leased : Leased state)
    (holds : (state.attempts name).holding = some job) :
    Current state.jobs job.toRow :=
  leased.exclusive.current (Leased.client_of_holding holds)

theorem Leased.alone {name other : Name} {job taken : Job}
    (leased : Leased state)
    (holds : (state.attempts name).holding = some job)
    (otherHolds : (state.attempts other).holding = some taken)
    (same : job.id = taken.id) : name = other :=
  leased.exclusive.alone name other job.toRow taken.toRow
    (Leased.client_of_holding holds) (Leased.client_of_holding otherHolds) same

theorem Leased.not_found {name other : Name} {job taken : Job} {halted : Bool}
    (leased : Leased state)
    (here : state.attempts other = .reserving halted (.found job))
    (current : Current state.jobs job.toRow)
    (holds : (state.attempts name).holding = some taken) :
    job.id ≠ taken.id := by
  have saw : (state.view true).client other = .seen job.toRow := by
    simp only [State.view, here]
    rfl
  exact leased.exclusive.not_held_of_seen leased.sound saw current
    (Leased.client_of_holding holds)

/-- A row that does not match the actor's copy has another holder. -/
theorem Leased.other_row {actor : Name} {copy : Job} {row : Row}
    (leased : Leased state)
    (held : (state.attempts actor).holding = some copy)
    (member : row ∈ state.jobs)
    (differs : ¬ (row.id = copy.id ∧ row.version = copy.version)) :
    copy.id ≠ row.id := by
  intro same
  obtain ⟨found, foundMember, foundID, foundVersion⟩ := leased.current held
  have equal : row = found :=
    leased.sound.unique.eq_of_mem member foundMember (same.symm.trans foundID.symm)
  rw [equal] at differs
  exact differs ⟨foundID, foundVersion⟩

theorem Leased.row_kept {event : Event Instance Name Outcome} {name : Name}
    {job : Job} {row : Row} (leased : Leased state)
    (transition : Transition setup state event next shown)
    (spares : event.clears = false) (other : event.actor ≠ some name)
    (holds : (state.attempts name).holding = some job)
    (member : row ∈ state.jobs) (sameID : row.id = job.id) :
    row ∈ next.jobs := by
  have differs : ∀ actor copy, event.actor = some actor →
      (state.attempts actor).holding = some copy → row.id ≠ copy.id := by
    intro actor copy mine copyHeld same
    have equal := leased.alone copyHeld holds (same.symm.trans sameID)
    exact other (by rw [mine, equal])
  cases transition with
  | tick | startWorkers | close | crash | perform | find | miss | readClosed
  | releaseMiss | receive | halt | callback | panic => exact member
  | enqueue input => exact List.mem_append_left _ member
  | unlock inst phase => cases spares
  | take actor halted copy here current =>
      apply mem_updated_of_key_ne member
      intro same
      exact leased.not_found here current holds (same.symm.trans sameID)
  | release actor halted copy here current =>
      exact mem_updated_of_key_ne member
        (differs actor copy rfl (by rw [here]; rfl))
  | requeue actor copy here retries current =>
      exact mem_updated_of_key_ne member
        (differs actor copy rfl (by rw [here]; rfl))
  | dequeue actor copy found here done foundMember =>
      exact mem_deleted_of_key_ne member
        (differs actor copy rfl (by rw [here]; rfl))

end Steps

/-- Every `Unlock` meets a system in which nobody has a lease. -/
def QuietUnlock (all : Bool) (state : State Instance Name)
    (event : Event Instance Name Outcome) : Prop :=
  event.clears = true → Lease.Quiet (state.view all)

section Runs

variable {all : Bool} {state final : State Instance Name}
  {events : List (Event Instance Name Outcome)}
  {trace : List (Output Name Outcome)}

theorem run_exclusive (initial : Initial state)
    (quiet : setup.machine.Guarded (QuietUnlock all) events state)
    (success : setup.machine.run events state = some (final, trace)) :
    Lease.Exclusive Row.Free (final.view all) ∧
      ∀ name, .panicked name ∉ trace := by
  have rule := setup.machine.run_invariant (QuietUnlock all)
    (fun trace state => Lease.Sound (state.view all) ∧
      Lease.Exclusive Row.Free (state.view all) ∧
      ∀ name, .panicked name ∉ trace)
  have result := rule ?_ events [] state final trace
    ⟨initial.sound, initial.exclusive, by simp⟩ quiet success
  · exact result.2
  · intro soFar here event there shown held condition stepped
    obtain ⟨sound, exclusive, calm⟩ := held
    have transition := step_transition sound stepped
    have refined := step_refines sound stepped
    refine ⟨refined.sound sound, refined.exclusive sound exclusive condition, ?_⟩
    intro name member
    rcases List.mem_append.mp member with earlier | now
    · exact calm name earlier
    · exact transition.not_panicked exclusive name now

/-- What a lease gives its holder, in terms of the table. -/
theorem holder_spec (sound : Lease.Sound (final.view all))
    (exclusive : Lease.Exclusive Row.Free (final.view all)) {name : Name}
    {job : Job} (holds : (final.attempts name).holding = some job)
    (counted : all = true ∨ (final.attempts name).withdrawn = false) :
    (∃ row ∈ final.jobs, row.id = job.id ∧ row.version = job.version ∧
      row.workerID ≠ "") ∧
    (∃ jobs, requeue final.jobs job = .ok jobs) ∧
    (∃ jobs, dequeue final.jobs job = .ok jobs) := by
  have held : (final.view all).client name = .holds job.toRow :=
    Attempt.client_eq_holds.mpr ⟨job, holds, rfl, counted⟩
  have current := exclusive.current held
  have positive := version_pos_of_holding sound holds
  exact ⟨exclusive.held name job.toRow held,
    ⟨_, requeue_of_current positive current⟩, ⟨_, dequeue_of_current current⟩⟩

theorem holder_alone (exclusive : Lease.Exclusive Row.Free (final.view all))
    {name other : Name} {job taken : Job}
    (holds : (final.attempts name).holding = some job)
    (counted : all = true ∨ (final.attempts name).withdrawn = false)
    (otherHolds : (final.attempts other).holding = some taken)
    (otherCounted : all = true ∨ (final.attempts other).withdrawn = false)
    (same : job.id = taken.id) : name = other :=
  exclusive.alone name other job.toRow taken.toRow
    (Attempt.client_eq_holds.mpr ⟨job, holds, rfl, counted⟩)
    (Attempt.client_eq_holds.mpr ⟨taken, otherHolds, rfl, otherCounted⟩) same

/-- Without `Unlock`, every reserved row has one holder, the row is the one the
holder has, and neither `Requeue` nor `Dequeue` of a holder fails. -/
theorem reservation_exclusive (initial : Initial state)
    (noUnlock : ∀ event ∈ events, event.clears = false)
    (success : setup.machine.run events state = some (final, trace)) :
    (∀ name other job taken,
      (final.attempts name).holding = some job →
        (final.attempts other).holding = some taken →
          job.id = taken.id → name = other) ∧
    (∀ name job, (final.attempts name).holding = some job →
      (∃ row ∈ final.jobs, row.id = job.id ∧ row.version = job.version ∧
        row.workerID ≠ "") ∧
      (∃ jobs, requeue final.jobs job = .ok jobs) ∧
      (∃ jobs, dequeue final.jobs job = .ok jobs)) ∧
    (∀ name, .panicked name ∉ trace) := by
  have quiet : setup.machine.Guarded (QuietUnlock true) events state := by
    apply setup.machine.guarded_of_forall
    intro here event member clears
    rw [noUnlock event member] at clears
    cases clears
  have sound : Lease.Sound (final.view true) := run_sound initial success
  obtain ⟨exclusive, calm⟩ := run_exclusive initial quiet success
  refine ⟨?_, ?_, calm⟩
  · intro name other job taken holds otherHolds same
    exact holder_alone exclusive holds (.inl rfl) otherHolds (.inl rfl) same
  · intro name job holds
    exact holder_spec sound exclusive holds (.inl rfl)

/-! Two instances with one worker each; the second one is still down. -/

def pair : Setup Bool Bool Bool where
  inst name := name
  workerID name := if name then "b" else "a"
  workerID_ne := by decide
  callback failed _ := if failed then some 60000000000 else none

def pairStart : State Bool Bool where
  jobs := []
  nextID := 1
  now := 0
  closed _ := false
  phase inst := if inst then .down else .up
  attempts _ := .idle

theorem pairStart_initial : Initial pairStart where
  jobs := rfl
  nextID := by decide
  attempts _ := rfl

/-- One attempt reserves job 1 and receives it. -/
def takeJob (name : Bool) : List (Event Bool Bool Bool) :=
  [.perform name, .findJob name 1, .updateJob name, .readClosed name,
    .receive name]

theorem reservation_exclusive_running :
    ∃ final trace, pair.machine.run
        (.enqueue (newJob "mail") :: takeJob false) pairStart =
          some (final, trace) ∧
      (∃ job, final.attempts false = .running job ∧ job.id = 1) ∧
      (∃ row ∈ final.jobs, row.id = 1 ∧ row.version = 2 ∧
        row.workerID ≠ "") ∧
      (∀ name, .panicked name ∉ trace) := by
  have success : pair.machine.run
      (.enqueue (newJob "mail") :: takeJob false) pairStart =
        some (_, _) := rfl
  have facts := reservation_exclusive pairStart_initial (by decide) success
  exact ⟨_, _, success, ⟨_, rfl, rfl⟩, (facts.2.1 false _ rfl).1, facts.2.2⟩

/-- `Unlock` spares live workers when it only ever runs while every reserved
row belongs to a worker that was halted or is giving it back. -/
theorem unlock_spares_live_workers (initial : Initial state)
    (quiet : setup.machine.Guarded
      (fun here event => event.clears = true →
        ∀ name job, (here.attempts name).holding = some job →
          (here.attempts name).withdrawn = true) events state)
    (success : setup.machine.run events state = some (final, trace)) :
    (∀ name job, (final.attempts name).holding = some job →
      (final.attempts name).withdrawn = false →
        (∃ row ∈ final.jobs, row.id = job.id ∧ row.version = job.version ∧
          row.workerID ≠ "")) ∧
    (∀ name other job taken, final.attempts name = .running job →
      final.attempts other = .running taken →
        job.id = taken.id → name = other) ∧
    (∀ name, .panicked name ∉ trace) := by
  have quiet' : setup.machine.Guarded (QuietUnlock false) events state := by
    refine quiet.weaken ?_
    intro here event condition clears name copy held
    obtain ⟨job, holds, _, counted⟩ := Attempt.client_eq_holds.mp held
    have withdrawn := condition clears name job holds
    rcases counted with bad | live
    · cases bad
    · rw [withdrawn] at live
      cases live
  have sound : Lease.Sound (final.view false) := run_sound initial success
  obtain ⟨exclusive, calm⟩ := run_exclusive initial quiet' success
  refine ⟨?_, ?_, calm⟩
  · intro name job holds live
    exact (holder_spec sound exclusive holds (.inr live)).1
  · intro name other job taken runs otherRuns same
    have holds : (final.attempts name).holding = some job := by
      rw [runs]
      rfl
    have otherHolds : (final.attempts other).holding = some taken := by
      rw [otherRuns]
      rfl
    exact holder_alone exclusive holds (.inr (by rw [runs]; rfl)) otherHolds
      (.inr (by rw [otherRuns]; rfl)) same

theorem unlock_spares_live_workers_at_boot :
    ∃ final trace, pair.machine.run
        (.unlock true :: .startWorkers true :: .enqueue (newJob "mail") ::
          takeJob true) pairStart = some (final, trace) ∧
      (∃ job, final.attempts true = .running job ∧ job.id = 1) ∧
      (∃ row ∈ final.jobs, row.id = 1 ∧ row.version = 2 ∧
        row.workerID ≠ "") ∧
      (∀ name, .panicked name ∉ trace) := by
  have success : pair.machine.run
      (.unlock true :: .startWorkers true :: .enqueue (newJob "mail") ::
        takeJob true) pairStart = some (_, _) := rfl
  have facts := unlock_spares_live_workers pairStart_initial ?_ success
  · exact ⟨_, _, success, ⟨_, rfl, rfl⟩, facts.1 true _ rfl rfl, facts.2.2⟩
  · refine ⟨?_, ?_⟩
    · intro _ name job holds
      cases holds
    · intro next shown _
      apply pair.machine.guarded_of_forall
      intro here event member clears
      have never : ∀ event ∈ (.startWorkers true ::
          .enqueue (newJob "mail") :: takeJob true :
            List (Event Bool Bool Bool)), event.clears = false := by decide
      rw [never event member] at clears
      cases clears

/-- The second instance boots while the first one runs its callback: `Unlock`
clears the row, both workers run the same job, and the `Dequeue` of the first
one panics. -/
theorem unlock_frees_running_job :
    ∃ cleared before both between final after,
      pair.machine.run
        (.enqueue (newJob "mail") :: takeJob false ++ [.unlock true])
          pairStart = some (cleared, before) ∧
      (∃ job, cleared.attempts false = .running job ∧
        ∀ row ∈ cleared.jobs, row.id = job.id → row.workerID = "") ∧
      pair.machine.run (.startWorkers true :: takeJob true) cleared =
        some (both, between) ∧
      (∃ job taken, both.attempts false = .running job ∧
        both.attempts true = .running taken ∧ job.id = taken.id) ∧
      pair.machine.run [.callback false false, .finish false] both =
        some (final, after) ∧
      .panicked false ∈ after := by
  refine ⟨_, _, _, _, _, _, rfl, ⟨_, rfl, ?_⟩, rfl, ⟨_, _, rfl, rfl, rfl⟩,
    rfl, ?_⟩
  · decide
  · decide

end Runs

end Notifications.Gobble
