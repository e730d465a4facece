import Notifications.Gobble.Exclusivity

/-!
# No job is lost, and stale holders are fenced off

`Unlock` clears `worker_id` without touching `version`, so a row can be taken
again while its first holder still works on it.  From the second `updateJob` on
the first holder's copy is behind the row and every write of it is refused.
Whatever is unlocked, closed or killed, a job leaves the table only through the
`Dequeue` of an attempt that ran the callback on the deleted version.
-/

set_option autoImplicit false
set_option linter.unusedSectionVars false

namespace Notifications.Gobble

open Notifications.Lib Notifications.Lib.Versioned

variable {Instance Name Outcome : Type} [DecidableEq Instance]
  [DecidableEq Name] {setup : Setup Instance Name Outcome}
  {state next final : State Instance Name}
  {events : List (Event Instance Name Outcome)}
  {shown trace : List (Output Name Outcome)}

/-! ## Fencing -/

/-- The attempt has the job, or had it and is done. -/
def Attempt.Past (job : Job) (attempt : Attempt) : Prop :=
  match attempt with
  | .reserving _ (.taken copy) | .reserving _ (.releasing copy) |
      .reserving _ (.sending copy) | .running copy | .called copy =>
      copy.id = job.id ∧ copy.version = job.version
  | .reserving _ .gone | .returned | .dead => True
  | .idle | .reserving _ .finding | .reserving _ (.found _) => False

theorem Attempt.past_of_holding {attempt : Attempt} {job : Job}
    (holds : attempt.holding = some job) : attempt.Past job := by
  unfold Attempt.holding at holds
  split at holds <;> cases holds <;> exact ⟨rfl, rfl⟩

theorem Attempt.past_kill {attempt : Attempt} {job : Job}
    (past : attempt.Past job) : attempt.kill.Past job := by
  cases attempt with
  | idle => exact past
  | reserving halted stage => trivial
  | running copy => trivial
  | called copy => trivial
  | returned => trivial
  | dead => trivial

/-- An attempt that has had a job never has another one. -/
theorem Transition.past {event : Event Instance Name Outcome} {name : Name}
    {job : Job} (transition : Transition setup state event next shown)
    (past : (state.attempts name).Past job) :
    (next.attempts name).Past job := by
  by_cases mine : event.actor = some name
  · cases transition with
    | tick | enqueue | unlock | startWorkers | close | crash => cases mine
    | perform actor here =>
        cases mine
        rw [here] at past
        cases past
    | find actor halted row here =>
        cases mine
        rw [here] at past
        cases past
    | take actor halted copy here =>
        cases mine
        rw [here] at past
        cases past
    | miss actor halted copy here =>
        cases mine
        rw [here] at past
        cases past
    | readClosed actor halted copy here =>
        cases mine
        rw [here] at past
        rw [set_attempts_self]
        split <;> exact past
    | release actor | releaseMiss actor | requeue actor | dequeue actor =>
        cases mine
        rw [set_attempts_self]
        trivial
    | receive actor copy here =>
        cases mine
        rw [here] at past
        rw [set_attempts_self]
        exact past
    | halt actor stage here =>
        cases mine
        rw [here] at past
        rw [set_attempts_self]
        cases stage <;> exact past
    | callback actor outcome copy here =>
        cases mine
        rw [here] at past
        rw [set_attempts_self]
        exact ⟨by simpa using past.1, by simpa using past.2⟩
    | panic actor copy here missing =>
        cases mine
        rcases crash_attempts (setup.inst name) name with same | killed
        · rw [same]
          exact past
        · rw [killed]
          exact Attempt.past_kill past
  · rcases transition.not_mine mine with same | killed
    · rw [same]
      exact past
    · rw [killed]
      exact Attempt.past_kill past

/-- A write whose copy is stale leaves the table as it is. -/
theorem Transition.jobs_of_stale {event : Event Instance Name Outcome}
    {name : Name} {job : Job}
    (transition : Transition setup state event next shown)
    (stale : Stale state.jobs job.toRow)
    (past : (state.attempts name).Past job)
    (mine : event.actor = some name) : next.jobs = state.jobs := by
  have staleCopy : ∀ copy : Job, copy.id = job.id →
      copy.version = job.version → ¬ Current state.jobs copy.toRow := by
    intro copy sameID sameVersion current
    apply stale.not_current
    obtain ⟨row, member, rowKey, rowVersion⟩ := current
    exact ⟨row, member, rowKey.trans sameID, rowVersion.trans sameVersion⟩
  cases transition with
  | tick | enqueue | unlock | startWorkers | close | crash => cases mine
  | perform | find | miss | readClosed | releaseMiss | receive | halt
  | callback | panic => rfl
  | take actor halted copy here =>
      cases mine
      rw [here] at past
      cases past
  | release actor halted copy here current =>
      cases mine
      rw [here] at past
      exact absurd current (staleCopy copy past.1 past.2)
  | requeue actor copy here retries current =>
      cases mine
      rw [here] at past
      exact absurd current (staleCopy copy past.1 past.2)
  | dequeue actor copy row here done member sameID sameVersion =>
      cases mine
      rw [here] at past
      exact absurd ⟨row, member, sameID, sameVersion⟩
        (staleCopy copy past.1 past.2)

/-- Somebody else's `updateJob` makes the copy of a holder stale. -/
theorem retaken_stale {name other : Name} {job written : Job}
    (sound : Lease.Sound (state.view true))
    (holds : (state.attempts name).holding = some job)
    (retaken : setup.step state (.updateJob other) =
      some (next, [.reserved other written]))
    (same : written.id = job.id) : Stale next.jobs job.toRow := by
  have behind : Behind state.jobs job.toRow :=
    sound.behind name job.toRow (Attempt.client_of_holding true holds)
  generalize shows : [Output.reserved other written] = shown at retaken
  have transition := step_transition sound retaken
  cases transition with
  | take _ halted copy here current =>
      cases shows
      exact updated_stale sound.unique current (Nat.lt_succ_self _) same.symm
        behind
  | miss _ halted copy here missing => cases shows

/-- From then on that holder changes nothing in the table. -/
theorem fenced_run {name : Name} {job : Job}
    (sound : Lease.Sound (state.view true))
    (known : job.id < state.nextID) (stale : Stale state.jobs job.toRow)
    (past : (state.attempts name).Past job)
    (success : setup.machine.run events state = some (final, trace)) :
    Lease.Sound (final.view true) ∧ Stale final.jobs job.toRow ∧
      (final.attempts name).Past job := by
  have always : setup.machine.Guarded (fun _ _ => True) events state :=
    setup.machine.guarded_of_forall (fun _ _ _ => trivial) state
  have rule := setup.machine.run_state_invariant (fun _ _ => True)
    (fun state => Lease.Sound (state.view true) ∧ job.id < state.nextID ∧
      Stale state.jobs job.toRow ∧ (state.attempts name).Past job)
  have result := rule ?_ ⟨sound, known, stale, past⟩ always success
  · exact ⟨result.1, result.2.2.1, result.2.2.2⟩
  · intro here event there shown held _ stepped
    obtain ⟨sound, known, stale, past⟩ := held
    have refined := step_refines sound stepped
    exact ⟨refined.sound sound, Nat.lt_of_lt_of_le known refined.fresh_le,
      stale.advance known refined.advances,
      (step_transition sound stepped).past past⟩

/-! ## Where jobs go -/

/-- The job was deleted by an attempt that had run the callback on the deleted
version of the row, without a retry. -/
def DequeuedAfterCallback (setup : Setup Instance Name Outcome)
    (trace : List (Output Name Outcome)) (id : Nat) : Prop :=
  ∃ name outcome ran time job row,
    [.completed name outcome ran time, .dequeued name job [row]].Sublist trace ∧
      setup.callback outcome ran = none ∧ ran.id = id ∧ row.id = id ∧
      row.version = ran.version

theorem DequeuedAfterCallback.append {id : Nat}
    (gone : DequeuedAfterCallback setup trace id)
    (later : List (Output Name Outcome)) :
    DequeuedAfterCallback setup (trace ++ later) id := by
  obtain ⟨name, outcome, ran, time, job, row, sub, facts⟩ := gone
  exact ⟨name, outcome, ran, time, job, row,
    sub.trans (List.sublist_append_left _ _), facts⟩

/-- What the attempt's callback did is on record. -/
def CallbackShown (setup : Setup Instance Name Outcome)
    (trace : List (Output Name Outcome)) (name : Name) (job : Job) : Prop :=
  ∃ outcome ran time, .completed name outcome ran time ∈ trace ∧
    job = setup.afterCallback outcome time ran

/-- A row leaves the table only in the `Dequeue` of its own job. -/
theorem Transition.keeps_id {event : Event Instance Name Outcome} {row : Row}
    (transition : Transition setup state event next shown)
    (unique : UniqueBy key state.jobs) (member : row ∈ state.jobs) :
    (∃ stored ∈ next.jobs, stored.id = row.id) ∨
      ∃ name job, state.attempts name = .called job ∧
        job.shouldRetry = false ∧ row.id = job.id ∧
        row.version = job.version ∧ shown = [.dequeued name job [row]] := by
  cases transition with
  | tick | startWorkers | close | crash | perform | find | miss | readClosed
  | releaseMiss | receive | halt | callback | panic =>
      exact .inl ⟨row, member, rfl⟩
  | enqueue job => exact .inl ⟨row, List.mem_append_left _ member, rfl⟩
  | unlock inst phase =>
      exact .inl ⟨_, mem_unlock.mpr ⟨row, member, rfl⟩, rfl⟩
  | take | release | requeue => exact .inl (exists_updated member rfl)
  | dequeue name job found here done foundMember sameID sameVersion =>
      by_cases same : row.id = job.id ∧ row.version = job.version
      · have equal : row = found :=
          unique.eq_of_mem member foundMember (same.1.trans sameID.symm)
        rw [equal]
        exact .inr ⟨name, job, here, done, sameID, sameVersion, rfl⟩
      · exact .inl ⟨row, mem_deleted.mpr ⟨member, same⟩, rfl⟩

theorem Transition.enqueued {event : Event Instance Name Outcome} {job : Job}
    (transition : Transition setup state event next shown)
    (member : .enqueued job ∈ shown) : ∃ row ∈ next.jobs, row.id = job.id := by
  cases transition with
  | enqueue input =>
      simp only [List.mem_singleton, Output.enqueued.injEq] at member
      subst member
      refine ⟨_, List.mem_append_right _ (List.mem_singleton.mpr rfl), ?_⟩
      simp only [Gobble.enqueue, Gorp.insert]
      split <;> rfl
  | _ => simp at member

structure Accounted (setup : Setup Instance Name Outcome)
    (trace : List (Output Name Outcome)) (state : State Instance Name) :
    Prop where
  sound : Lease.Sound (state.view true)
  called : ∀ name job, state.attempts name = .called job →
    CallbackShown setup trace name job
  kept : ∀ job, .enqueued job ∈ trace →
    (∃ row ∈ state.jobs, row.id = job.id) ∨
      DequeuedAfterCallback setup trace job.id

/-- The job an attempt dequeues went through its callback unchanged. -/
theorem CallbackShown.dequeued {name : Name} {job : Job} {row : Row}
    (ran : CallbackShown setup trace name job)
    (done : job.shouldRetry = false) (sameID : row.id = job.id)
    (sameVersion : row.version = job.version) :
    DequeuedAfterCallback setup (trace ++ [.dequeued name job [row]])
      row.id := by
  obtain ⟨outcome, before, time, shown, rfl⟩ := ran
  have sub : [.completed name outcome before time,
      .dequeued name (setup.afterCallback outcome time before) [row]].Sublist
        (trace ++ [.dequeued name
          (setup.afterCallback outcome time before) [row]]) :=
    List.Sublist.append (List.singleton_sublist.mpr shown)
      (List.Sublist.refl _)
  refine ⟨name, outcome, before, time, _, row, sub, ?_, ?_, rfl, ?_⟩
  · cases asked : setup.callback outcome before with
    | none => rfl
    | some duration => simp [Setup.afterCallback, asked, Job.retry] at done
  · simpa using sameID.symm
  · simpa using sameVersion

theorem Accounted.step {event : Event Instance Name Outcome}
    (accounted : Accounted setup trace state)
    (stepped : setup.step state event = some (next, shown)) :
    Accounted setup (trace ++ shown) next := by
  have transition := step_transition accounted.sound stepped
  refine ⟨(step_refines accounted.sound stepped).sound accounted.sound, ?_, ?_⟩
  · intro name job here
    rcases transition.called here with
      before | ⟨outcome, ran, _, rfl, same, _⟩
    · obtain ⟨outcome, ran, time, member, same⟩ :=
        accounted.called name job before
      exact ⟨outcome, ran, time, List.mem_append_left _ member, same⟩
    · exact ⟨outcome, ran, state.now, by simp, same⟩
  · intro job member
    rcases List.mem_append.mp member with earlier | now
    · rcases accounted.kept job earlier with ⟨row, stored, sameID⟩ | gone
      · rcases transition.keeps_id accounted.sound.unique stored with
          ⟨still, stillStored, stillID⟩ |
            ⟨name, copy, here, done, copyID, copyVersion, rfl⟩
        · exact .inl ⟨still, stillStored, stillID.trans sameID⟩
        · rw [← sameID]
          exact .inr ((accounted.called name copy here).dequeued done copyID
            copyVersion)
      · exact .inr (gone.append shown)
    · exact .inl (transition.enqueued now)

theorem run_accounted (initial : Initial state)
    (success : setup.machine.run events state = some (final, trace)) :
    Accounted setup trace final := by
  have always : setup.machine.Guarded (fun _ _ => True) events state :=
    setup.machine.guarded_of_forall (fun _ _ _ => trivial) state
  have start : Accounted setup [] state := by
    refine ⟨initial.sound, ?_, by simp⟩
    intro name job here
    rw [initial.attempts name] at here
    cases here
  have rule := setup.machine.run_invariant (fun _ _ => True) (Accounted setup)
    (fun _ _ _ _ _ accounted _ stepped => accounted.step stepped)
  exact rule events [] state final trace start always success

/-- Every enqueued job is still in the table or was dequeued by an attempt that
ran the callback on the deleted version without a retry; and a holder whose row
was taken by another attempt changes nothing in the table from then on. -/
theorem jobs_kept_and_stale_holders_fenced (initial : Initial state)
    (success : setup.machine.run events state = some (final, trace)) :
    (∀ job, .enqueued job ∈ trace →
      (∃ row ∈ final.jobs, row.id = job.id) ∨
        DequeuedAfterCallback setup trace job.id) ∧
    (∀ name other job written next,
      (final.attempts name).holding = some job →
      setup.step final (.updateJob other) =
        some (next, [.reserved other written]) →
      written.id = job.id →
      ∀ later last more, setup.machine.run later next = some (last, more) →
      ∀ event : Event Instance Name Outcome, event.actor = some name →
      ∀ after shown, setup.step last event = some (after, shown) →
        after.jobs = last.jobs) := by
  have accounted := run_accounted initial success
  refine ⟨accounted.kept, ?_⟩
  intro name other job written next holds retaken same later last more runs
    event mine after shown stepped
  have sound := accounted.sound
  have refined := step_refines sound retaken
  have known : job.id < final.nextID :=
    sound.copyKnown name job.toRow (Attempt.client_of_holding true holds)
  obtain ⟨lastSound, stale, past⟩ := fenced_run (refined.sound sound)
    (Nat.lt_of_lt_of_le known refined.fresh_le)
    (retaken_stale sound holds retaken same)
    ((step_transition sound retaken).past (Attempt.past_of_holding holds)) runs
  exact (step_transition lastSound stepped).jobs_of_stale stale past mine

/-- The other instance boots and takes the job over while the first one runs its
callback; the first one's `Dequeue` changes nothing. -/
theorem stale_holder_fenced_after_boot :
    ∃ final trace next written last more after shown,
      pair.machine.run
        (.enqueue (newJob "mail") :: takeJob false ++
          [.unlock true, .startWorkers true, .perform true, .findJob true 1])
          pairStart = some (final, trace) ∧
      pair.step final (.updateJob true) =
        some (next, [.reserved true written]) ∧
      pair.machine.run [.callback false false] next = some (last, more) ∧
      pair.step last (.finish false) = some (after, shown) ∧
      ((∃ row ∈ final.jobs, row.id = 1) ∨
        DequeuedAfterCallback pair trace 1) ∧
      after.jobs = last.jobs := by
  have success : pair.machine.run
      (.enqueue (newJob "mail") :: takeJob false ++
        [.unlock true, .startWorkers true, .perform true, .findJob true 1])
        pairStart = some (_, _) := rfl
  obtain ⟨kept, fenced⟩ :=
    jobs_kept_and_stale_holders_fenced pairStart_initial success
  refine ⟨_, _, _, _, _, _, _, _, success, rfl, rfl, rfl, ?_, ?_⟩
  · exact kept _ (List.mem_cons_self ..)
  · exact fenced false true _ _ _ rfl rfl rfl [.callback false false] _ _ rfl
      (.finish false) rfl _ _ rfl

end Notifications.Gobble
