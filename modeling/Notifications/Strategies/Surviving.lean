import Notifications.Gobble.Settled
import Notifications.Strategies.Ageing
import Notifications.Strategies.Collecting

/-!
# The row of a message outlives its job

The delays of a job and a lag of less than 416 minutes end before the
collector's lifetime of 24 hours, by more than the fraction of a second that
the row has lost.  So the collector does not delete the row of a message that
is still to be delivered.
-/

set_option autoImplicit false
set_option linter.unusedSectionVars false

namespace Notifications.Strategies

open Notifications.Lib Notifications.Models Notifications.Postal

namespace Collecting

section Collated

variable [Collation]

variable {Instance Name : Type} [DecidableEq Instance] [DecidableEq Name]
  {setup : Gobble.Setup Instance Name Outcome} {worker : Worker}
  {messageID : String} {start : Option Int} {state next : State Instance Name}
  {trace shown : List (Gobble.Output Name Outcome)}

/-! ## The queue and the attempts -/

/-- When the job of the message was enqueued, after this step. -/
def begins (worker : Worker) (messageID : String) (now : Int)
    (start : Option Int) : Gobble.Event Instance Name Outcome → Option Int
  | .enqueue job =>
      if isFor worker messageID job.payload then some now else start
  | _ => start

/-- Every job is on schedule, a job for the message was enqueued at `start`,
and the attempts meet their contract. -/
structure Queued (setup : Gobble.Setup Instance Name Outcome)
    (worker : Worker) (messageID : String)
    (trace : List (Gobble.Output Name Outcome)) (start : Option Int)
    (state : State Instance Name) : Prop where
  faithful : Gobble.Faithful setup trace state.queue
  lawful : AllLawful setup trace
  scheduled : ∀ row ∈ state.queue.jobs,
    OnSchedule state.schedule state.queue.now row
  jobs : ∀ row ∈ state.queue.jobs, isFor worker messageID row.payload = true →
    start = some (state.schedule.enqueued row.id)
  past : ∀ time, start = some time → time ≤ state.queue.now
  programs : ∀ name job, state.queue.attempts name = .running job →
    ∃ progress, Aware start progress ∧
      (state.programs name).Meets
        (datingContract (isFor worker messageID) messageID .connection)
        (fun _ outcome => Retries job outcome) progress

/-- Nothing of the queue or the attempts has changed. -/
theorem Queued.frame
    (held : Queued setup worker messageID trace start state)
    (queue : next.queue = state.queue)
    (schedule : next.schedule = state.schedule)
    (programs : next.programs = state.programs) :
    Queued setup worker messageID trace start next := by
  obtain ⟨_, _, _, _, _, programsThen, _⟩ := next
  subst queue schedule programs
  exact ⟨held.faithful, held.lawful, held.scheduled, held.jobs, held.past,
    held.programs⟩

theorem queueStep_eq {event : Gobble.Event Instance Name Outcome}
    (stepped : state.queueStep setup worker event = some (next, shown)) :
    ∃ queue, setup.step state.queue event = some (queue, shown) ∧
      next = { state with
        queue := queue
        schedule := state.schedule.after state.queue shown
        programs := started worker state.programs shown } := by
  simp only [State.queueStep] at stepped
  obtain ⟨⟨queue, here⟩, first, stepped⟩ := Option.bind_eq_some_iff.mp stepped
  cases stepped
  exact ⟨queue, first, rfl⟩

theorem after_enqueued {schedule : Schedule} {queue : Gobble.State Instance Name}
    {id : Nat} (others : ∀ job, .enqueued job ∈ shown → job.id ≠ id) :
    (schedule.after queue shown).enqueued id = schedule.enqueued id := by
  induction shown generalizing schedule with
  | nil => rfl
  | cons output rest ih =>
      rw [Schedule.after, List.foldl_cons]
      refine (ih fun job member => others job (.tail _ member)).trans ?_
      have ended (job : Gobble.Job) : (schedule.ended queue.now queue.jobs
          job.id).enqueued id = schedule.enqueued id := by
        rw [Schedule.ended]
        split <;> rfl
      cases output with
      | enqueued job =>
          exact Function.update_of_ne (Ne.symm (others job (.head _))) _ _
      | requeued name job => exact ended job
      | dequeued name job rows => exact ended job
      | _ => rfl

theorem started_other {name : Name} {programs : Name → Prog Outcome}
    (others : ∀ job time, .started name job time ∉ shown) :
    started worker programs shown name = programs name := by
  induction shown generalizing programs with
  | nil => rfl
  | cons output rest ih =>
      rw [started, List.foldl_cons]
      refine (ih fun job time member =>
        others job time (.tail _ member)).trans ?_
      cases output with
      | started other job time =>
          have different : name ≠ other := by
            intro same
            rw [← same] at others
            exact others job time (.head _)
          exact Function.update_of_ne different _ _
      | _ => rfl

section Steps

variable {event : Gobble.Event Instance Name Outcome}
  {queue : Gobble.State Instance Name}

theorem begins_cases (now : Int)
    (first : ∀ job, event = .enqueue job →
      isFor worker messageID job.payload = true → start = none) :
    begins worker messageID now start event = start ∨ start = none := by
  cases event with
  | enqueue job =>
      rw [begins]
      split
      · rename_i own
        exact .inr (first job rfl own)
      · exact .inl rfl
  | _ => exact .inl rfl

theorem begins_some {now time : Int}
    (begun : begins worker messageID now start event = some time) :
    start = some time ∨ time = now := by
  cases event with
  | enqueue job =>
      rw [begins] at begun
      split at begun
      · cases begun
        exact .inr rfl
      · exact .inl begun
  | _ => exact .inl begun

theorem enqueued_id {job : Gobble.Job}
    (transition : Gobble.Transition setup state.queue event queue shown)
    (member : .enqueued job ∈ shown) : job.id = state.queue.nextID := by
  cases transition with
  | enqueue input =>
      simp only [List.mem_singleton, Gobble.Output.enqueued.injEq] at member
      rw [member]
      simp only [Gobble.enqueue, Gorp.insert]
      split <;> rfl
  | _ => simp at member

theorem Queued.lawful_step
    (held : Queued setup worker messageID trace start state)
    (transition : Gobble.Transition setup state.queue event queue shown)
    (retries : ∀ name outcome, event = .callback name outcome →
      ∀ job, state.queue.attempts name = .running job →
        Lawful setup outcome job) :
    AllLawful setup (trace ++ shown) := by
  intro name outcome ran time member
  rcases List.mem_append.mp member with old | new
  · exact held.lawful name outcome ran time old
  · obtain ⟨running, _, _, called, _⟩ := transition.completed new
    exact retries name outcome called ran running

theorem Queued.jobs_step
    (held : Queued setup worker messageID trace start state)
    (spares : event.clears = false)
    (transition : Gobble.Transition setup state.queue event queue shown)
    (first : ∀ job, event = .enqueue job →
      isFor worker messageID job.payload = true → start = none) :
    ∀ row ∈ queue.jobs, isFor worker messageID row.payload = true →
      begins worker messageID state.queue.now start event =
        some ((state.schedule.after state.queue shown).enqueued row.id) := by
  intro row member own
  rcases held.faithful.payload_step spares transition member with
    ⟨old, there, sameID, samePayload⟩ | ⟨job, rfl, payload, rfl, sameID⟩
  · rw [← samePayload] at own
    have known := held.jobs old there own
    have others : ∀ job, .enqueued job ∈ shown → job.id ≠ old.id := by
      intro job present
      rw [enqueued_id transition present]
      exact Nat.ne_of_gt (held.faithful.leased.sound.known old there)
    rcases begins_cases state.queue.now first with same | unset
    · rw [same, known, ← sameID, after_enqueued others]
    · rw [known] at unset
      cases unset
  · rw [payload] at own
    have time : (state.schedule.after state.queue
        [(.enqueued (Gobble.enqueue state.queue.nextID state.queue.jobs job).2 :
          Gobble.Output Name Outcome)]).enqueued
        (Gobble.enqueue state.queue.nextID state.queue.jobs job).2.id =
          state.queue.now :=
      Function.update_self _ _ _
    rw [begins, if_pos own, ← sameID, time]

theorem Queued.programs_step
    (held : Queued setup worker messageID trace start state)
    (transition : Gobble.Transition setup state.queue event queue shown)
    {after : Option Int} (same : after = start ∨ start = none)
    {name : Name} {job : Gobble.Job}
    (runs : queue.attempts name = .running job) :
    ∃ progress, Aware after progress ∧
      (started worker state.programs shown name).Meets
        (datingContract (isFor worker messageID) messageID .connection)
        (fun _ outcome => Retries job outcome) progress := by
  rcases transition.running runs with ⟨before, others⟩ | ⟨sent, rfl, _⟩
  · obtain ⟨progress, aware, meets⟩ := held.programs name job before
    refine ⟨progress, aware.later same, ?_⟩
    rw [started_other others]
    exact meets
  · have program : started worker state.programs
        [.started name job state.queue.now] name = worker.deliver job :=
      Function.update_self _ _ _
    rw [program]
    by_cases own : isFor worker messageID job.payload = true
    · have holds : (state.queue.attempts name).holding = some job := by
        rw [sent]
        rfl
      obtain ⟨mirrors, _, _⟩ := held.faithful.mirror name job
        (by rw [sent]; rfl)
      have known := held.jobs job.toRow
        (mirrors.mem (held.faithful.leased.current holds)) own
      have aware : Aware start Progress.none.enqueued := by
        intro times read
        cases read
        refine ⟨_, known, ?_⟩
        intro time wrong
        cases wrong
      refine ⟨_, aware.later same, deliver_dated worker ?_⟩
      intro _ wrong
      cases wrong
    · refine ⟨.none, ?_, deliver_dated worker fun wrong => absurd wrong own⟩
      intro times wrong
      cases wrong

/-- A step of the queue that is not `Unlock`, enqueues jobs of `NewJob` only,
and one for the message once only. -/
theorem Queued.step
    (held : Queued setup worker messageID trace start state)
    (spares : event.clears = false)
    (new : ∀ job, event = .enqueue job →
      ∃ payload, job = Gobble.newJob payload)
    (first : ∀ job, event = .enqueue job →
      isFor worker messageID job.payload = true → start = none)
    (retries : ∀ name outcome, event = .callback name outcome →
      ∀ job, state.queue.attempts name = .running job →
        Lawful setup outcome job)
    (stepped : state.queueStep setup worker event = some (next, shown)) :
    Queued setup worker messageID (trace ++ shown)
      (begins worker messageID state.queue.now start event) next := by
  obtain ⟨queue, here, rfl⟩ := queueStep_eq stepped
  have transition :=
    Gobble.step_transition held.faithful.leased.sound here
  have passed := transition.now_le
  have same := begins_cases state.queue.now first
  refine ⟨held.faithful.step spares here,
    held.lawful_step transition retries,
    OnSchedule.step held.scheduled held.faithful held.lawful spares new
      transition,
    held.jobs_step spares transition first, ?_, ?_⟩
  · intro time begun
    rcases begins_some begun with before | rfl
    · exact Int.le_trans (held.past time before) passed
    · exact passed
  · intro name job runs
    exact held.programs_step transition same runs

end Steps

/-! ## Every step keeps the row -/

def Answers (messageID : String) (progress : Progress)
    (responses : List Response) : Prop :=
  messageID ∈ responses.map Response.notificationID →
    progress.committed = true

structure Kept (setup : Gobble.Setup Instance Name Outcome) (worker : Worker)
    (messageID : String) (trace : List (Gobble.Output Name Outcome))
    (start : Option Int) (state : State Instance Name) : Prop where
  queued : Queued setup worker messageID trace start state
  thresholds : ∀ inst threshold, state.thresholds inst = some threshold →
    threshold ≤ startMessageGC.threshold state.queue.now
  young : Young messageID start state.queue.now state.database
    state.transaction
  mailer : ∃ progress,
    Knows messageID start state.queue.now state.database state.transaction
      progress ∧
    state.mailer.Meets
      (datingContract (isFor worker messageID) messageID .transaction)
      (Answers messageID) progress

theorem threshold_mono {now later threshold : Int}
    (before : threshold ≤ startMessageGC.threshold now)
    (passed : now ≤ later) : threshold ≤ startMessageGC.threshold later := by
  simp only [MessageGC.threshold] at before ⊢
  omega

/-- A statement that leaves the row of the message alone. -/
def spares (messageID : String) : Statement → Bool
  | .insert .messages row => row.id != messageID
  | .update .messages row => row.id != messageID
  | .delete .messages row => row.id != messageID
  | _ => true

/-- Nothing is unlocked, and what the rest of the service does is about other
messages. -/
def undisturbed (worker : Worker) (messageID : String) :
    Event Instance Name → Bool
  | .queue event => !event.clears
  | .enqueue payload => !isFor worker messageID payload
  | .other statement => spares messageID statement
  | _ => true

theorem refreshes_of_spares {statement : Statement}
    (other : spares messageID statement = true) :
    Refreshes messageID start statement := by
  cases statement with
  | insert table row =>
      cases table with
      | messages => exact fun own => absurd own (bne_iff_ne.mp other)
      | _ => trivial
  | update table row =>
      cases table with
      | messages => exact fun own => absurd own (bne_iff_ne.mp other)
      | _ => trivial
  | delete table row =>
      cases table with
      | messages => exact bne_iff_ne.mp other
      | _ => trivial
  | _ => trivial

section KeptSteps

variable {gc : MessageGC} {environment : Environment}

theorem locked_or_executed {statement : Statement}
    (stepped : (system setup worker gc).step state (.other statement) =
      some (next, shown)) :
    next = { state with
      database := (state.database.execute statement).2 } ∧ shown = [] := by
  simp only [system] at stepped
  split at stepped
  · cases stepped
  · cases stepped
    exact ⟨rfl, rfl⟩

/-- The queue takes a step that has nothing to do with the message. -/
theorem Kept.queue_step {event : Gobble.Event Instance Name Outcome}
    (kept : Kept setup worker messageID trace start state)
    (uncleared : event.clears = false)
    (new : ∀ job, event = .enqueue job →
      ∃ payload, job = Gobble.newJob payload)
    (other : ∀ job, event = .enqueue job →
      isFor worker messageID job.payload = false)
    (retries : ∀ name outcome, event = .callback name outcome →
      ∀ job, state.queue.attempts name = .running job →
        Lawful setup outcome job)
    (stepped : state.queueStep setup worker event = some (next, shown)) :
    Kept setup worker messageID (trace ++ shown) start next := by
  have same : begins worker messageID state.queue.now start event = start := by
    cases event with
    | enqueue job =>
        rw [begins, other job rfl]
        rfl
    | _ => rfl
  have queued := kept.queued.step uncleared new
    (fun job here own => by
      rw [other job here] at own
      cases own) retries stepped
  rw [same] at queued
  obtain ⟨queue, here, rfl⟩ := queueStep_eq stepped
  have passed := (Gobble.step_transition
    kept.queued.faithful.leased.sound here).now_le
  obtain ⟨progress, knows, meets⟩ := kept.mailer
  refine ⟨queued, ?_, kept.young.later (.inl rfl) passed,
    ⟨progress, knows.later passed, meets⟩⟩
  intro inst threshold reads
  exact threshold_mono (kept.thresholds inst threshold reads) passed

/-- Only the tables change, and the row is as it was or newly written. -/
theorem Kept.change {database : Database}
    (kept : Kept setup worker messageID trace start state)
    (keeps : Keeps messageID start state.queue.now state.database database) :
    Kept setup worker messageID trace start
      { state with database := database } := by
  obtain ⟨progress, knows, meets⟩ := kept.mailer
  exact ⟨kept.queued.frame rfl rfl rfl, kept.thresholds,
    kept.young.change keeps, ⟨progress, knows.change keeps, meets⟩⟩

theorem callStep_eq {name : Name}
    (stepped : state.callStep name environment = some (next, shown)) :
    ∃ job op rest answer after, state.queue.attempts name = .running job ∧
      state.programs name = .call op rest ∧
      state.view.workerCall (state.at_ environment) op =
        some (answer, after) ∧
      next = { state with
        database := after.database
        programs := Function.update state.programs name (rest answer) } ∧
      shown = [] := by
  simp only [State.callStep] at stepped
  split at stepped
  · rename_i job op rest runs program
    obtain ⟨⟨answer, after⟩, called, stepped⟩ :=
      Option.bind_eq_some_iff.mp stepped
    cases stepped
    exact ⟨job, op, rest, answer, after, runs, program, called, rfl, rfl⟩
  · cases stepped

theorem Kept.call_step {name : Name}
    (kept : Kept setup worker messageID trace start state)
    (stepped : state.callStep name environment = some (next, shown)) :
    Kept setup worker messageID trace start next ∧ shown = [] := by
  obtain ⟨job, op, rest, answer, after, runs, program, called, rfl, rfl⟩ :=
    callStep_eq stepped
  obtain ⟨progress, aware, meets⟩ := kept.queued.programs name job runs
  rw [program] at meets
  obtain ⟨possible, learnt, keeps⟩ :=
    workerCall_keeps aware kept.queued.past rfl meets.1 called
  have changed := kept.change keeps
  refine ⟨⟨{ changed.queued with programs := ?_ }, changed.thresholds,
    changed.young, changed.mailer⟩, rfl⟩
  intro other running here
  by_cases mine : other = name
  · subst mine
    have same : running = job := by
      rw [runs] at here
      cases here
      rfl
    rw [same]
    refine ⟨_, learnt, ?_⟩
    simp only [Function.update_self]
    exact meets.2 answer possible
  · simp only [Function.update_of_ne mine]
    exact kept.queued.programs other running here

theorem mailerStep_cases
    (stepped : state.mailerStep setup worker environment =
      some (next, shown)) :
    (∃ job rest, state.mailer = .call (.enqueue job) rest ∧
      state.enqueueStep setup worker environment job rest =
        some (next, shown)) ∨
      ∃ op rest answer after, state.mailer = .call op rest ∧
        (∀ job, op ≠ .enqueue job) ∧
        state.view.mailerCall (state.at_ environment) op =
          some (answer, after) ∧
        next = { state with
          database := after.database
          transaction := after.transaction
          mailer := rest answer } ∧ shown = [] := by
  simp only [State.mailerStep] at stepped
  split at stepped
  · rename_i job rest here
    exact .inl ⟨job, rest, here, stepped⟩
  · rename_i op rest other here
    obtain ⟨⟨answer, after⟩, called, stepped⟩ :=
      Option.bind_eq_some_iff.mp stepped
    cases stepped
    refine .inr ⟨op, rest, answer, after, here, ?_, called, rfl, rfl⟩
    intro job same
    subst same
    exact other job rest rfl HEq.rfl
  · cases stepped

theorem enqueueStep_cases {job : Gobble.Job}
    {rest : Except String Gobble.Job → Prog (List Response)}
    (stepped : state.enqueueStep setup worker environment job rest =
      some (next, shown)) :
    (∃ text, next = { state with mailer := rest (.error text) } ∧
      shown = []) ∨
      ∃ inserted after,
        state.queueStep setup worker (.enqueue job) = some (after, shown) ∧
        next = { after with mailer := rest (.ok inserted) } := by
  simp only [State.enqueueStep] at stepped
  split at stepped
  · rename_i text _
    cases stepped
    exact .inl ⟨text, rfl, rfl⟩
  · obtain ⟨⟨after, here⟩, queued, stepped⟩ :=
      Option.bind_eq_some_iff.mp stepped
    cases stepped
    exact .inr ⟨_, after, queued, rfl⟩

theorem Kept.enqueue_step {job : Gobble.Job}
    {rest : Except String Gobble.Job → Prog (List Response)}
    (kept : Kept setup worker messageID trace start state)
    (here : state.mailer = .call (.enqueue job) rest)
    (stepped : state.enqueueStep setup worker environment job rest =
      some (next, shown)) :
    ∃ after, Kept setup worker messageID (trace ++ shown) after next := by
  obtain ⟨progress, knows, meets⟩ := kept.mailer
  rw [here] at meets
  obtain ⟨⟨payload, new⟩, first⟩ := meets.1
  rcases enqueueStep_cases stepped with ⟨text, rfl, rfl⟩ |
    ⟨inserted, after, queued, rfl⟩
  · have continued := meets.2 (.error text) trivial
    rw [List.append_nil]
    exact ⟨start, kept.queued.frame rfl rfl rfl, kept.thresholds, kept.young,
      progress, knows, continued⟩
  · have continued := meets.2 (.ok inserted) trivial
    have unset : isFor worker messageID job.payload = true →
        start = none := by
      intro own
      by_contra begun
      exact knows.enqueued begun (first own)
    have stepped := kept.queued.step rfl
      (fun other same => by
        cases same
        exact ⟨payload, new⟩)
      (fun other same => by
        cases same
        exact unset)
      (fun name outcome wrong => by cases wrong) queued
    obtain ⟨queue, ran, rfl⟩ := queueStep_eq queued
    cases ran
    have later : begins worker messageID state.queue.now start
        (.enqueue job : Gobble.Event Instance Name Outcome) = start ∨
          start = none := by
      apply begins_cases
      intro other same
      cases same
      exact unset
    refine ⟨_, stepped.frame rfl rfl rfl, kept.thresholds,
      kept.young.later later (Int.le_refl _), _, ?_, continued⟩
    by_cases own : isFor worker messageID job.payload = true
    · have enqueued := kept.young
      rw [unset own] at knows enqueued
      simp only [begins, datingContract, own, if_true]
      exact knows.enqueue enqueued
    · simp only [begins, datingContract, own]
      exact knows

theorem Kept.mailer_step
    (kept : Kept setup worker messageID trace start state)
    (stepped : state.mailerStep setup worker environment =
      some (next, shown)) :
    ∃ after, Kept setup worker messageID (trace ++ shown) after next := by
  rcases mailerStep_cases stepped with ⟨job, rest, here, stepped⟩ |
    ⟨op, rest, answer, after, here, other, called, rfl, rfl⟩
  · exact kept.enqueue_step here stepped
  · obtain ⟨progress, knows, meets⟩ := kept.mailer
    rw [here] at meets
    have called := @mailerCall_knows _ (isFor worker messageID) messageID start
      state.queue.now state.view after (state.at_ environment) progress
      kept.young knows op answer kept.queued.past rfl meets.1 other called
    rw [List.append_nil]
    exact ⟨start, kept.queued.frame rfl rfl rfl, kept.thresholds,
      called.young, _, called.knows, meets.2 answer called.possible⟩

theorem Kept.collect_step {inst : Instance}
    (kept : Kept setup worker messageID trace start state)
    (stepped : (system setup worker startMessageGC).step state
      (.collect inst) = some (next, shown)) :
    Kept setup worker messageID trace start next ∧ shown = [] := by
  simp only [system] at stepped
  split at stepped
  · cases stepped
    refine ⟨⟨kept.queued.frame rfl rfl rfl, ?_, kept.young, kept.mailer⟩,
      rfl⟩
    intro other threshold reads
    by_cases mine : other = inst
    · simp only [mine, Function.update_self, Option.some.injEq] at reads
      exact Int.le_of_eq reads.symm
    · simp only [Function.update_of_ne mine] at reads
      exact kept.thresholds other threshold reads
  · cases stepped

theorem Kept.cleared {inst : Instance}
    (kept : Kept setup worker messageID trace start state) :
    Kept setup worker messageID trace start { state with
      thresholds := Function.update state.thresholds inst none } := by
  refine ⟨kept.queued.frame rfl rfl rfl, ?_, kept.young, kept.mailer⟩
  intro other threshold reads
  by_cases mine : other = inst
  · simp only [mine, Function.update_self] at reads
    cases reads
  · simp only [Function.update_of_ne mine] at reads
    exact kept.thresholds other threshold reads

theorem Kept.delete_step {inst : Instance}
    (kept : Kept setup worker messageID trace start state)
    (stepped : state.deleteStep inst environment = some (next, shown)) :
    Kept setup worker messageID trace start next ∧ shown = [] := by
  simp only [State.deleteStep] at stepped
  split at stepped
  · cases stepped
  · rename_i threshold reads
    split at stepped
    · cases stepped
      exact ⟨kept.cleared, rfl⟩
    · split at stepped
      · cases stepped
      · cases stepped
        have keeps := deleteBefore_keeps kept.young.stored
          (kept.thresholds inst threshold reads)
        exact ⟨(kept.change keeps).cleared, rfl⟩

theorem Kept.returned_step {name : Name}
    (delivers : setup.callback = fun outcome _ => outcome.retry)
    (kept : Kept setup worker messageID trace start state)
    (stepped : (system setup worker gc).step state (.returned name) =
      some (next, shown)) :
    Kept setup worker messageID (trace ++ shown) start next := by
  simp only [system] at stepped
  split at stepped
  · rename_i outcome program
    refine kept.queue_step rfl (fun job wrong => by cases wrong)
      (fun job wrong => by cases wrong) ?_ stepped
    intro _ _ same job runs duration asked
    cases same
    obtain ⟨progress, _, meets⟩ := kept.queued.programs name job runs
    rw [program] at meets
    simp only [delivers] at asked
    rcases meets with nothing | retries
    · rw [nothing] at asked
      cases asked
    · exact retries.symm.trans asked
  · cases stepped

theorem Kept.step {event : Event Instance Name}
    (delivers : setup.callback = fun outcome _ => outcome.retry)
    (kept : Kept setup worker messageID trace start state)
    (calm : undisturbed worker messageID event = true)
    (stepped : (system setup worker startMessageGC).step state event =
      some (next, shown)) :
    ∃ after, Kept setup worker messageID (trace ++ shown) after next := by
  cases event with
  | queue event =>
      simp only [system] at stepped
      split at stepped
      · rename_i only
        refine ⟨start, kept.queue_step (by simpa [undisturbed] using calm)
          ?_ ?_ ?_ stepped⟩
        · intro job same
          rw [same] at only
          cases only
        · intro job same
          rw [same] at only
          cases only
        · intro name outcome same
          rw [same] at only
          cases only
      · cases stepped
  | enqueue payload =>
      refine ⟨start, kept.queue_step rfl ?_ ?_
        (fun _ _ wrong => by cases wrong) stepped⟩
      · intro job same
        cases same
        exact ⟨payload, rfl⟩
      · intro job same
        cases same
        have free : isFor worker messageID payload = false := by
          simpa [undisturbed] using calm
        exact free
  | other statement =>
      obtain ⟨rfl, rfl⟩ := locked_or_executed stepped
      rw [List.append_nil]
      exact ⟨start, kept.change (execute_keeps (refreshes_of_spares calm))⟩
  | mailer environment => exact kept.mailer_step stepped
  | call name environment =>
      obtain ⟨kept, rfl⟩ := kept.call_step stepped
      rw [List.append_nil]
      exact ⟨start, kept⟩
  | returned name => exact ⟨start, kept.returned_step delivers stepped⟩
  | collect inst =>
      obtain ⟨kept, rfl⟩ := kept.collect_step stepped
      rw [List.append_nil]
      exact ⟨start, kept⟩
  | deleteBefore inst environment =>
      obtain ⟨kept, rfl⟩ := kept.delete_step stepped
      rw [List.append_nil]
      exact ⟨start, kept⟩

end KeptSteps

/-! ## Whole runs -/

theorem initial_kept {marshal : Delivery → String} {request : Request}
    {users : List Recipient}
    (decodes : ∀ user ∈ users, ∀ id, isFor worker messageID
      (marshal (Mailer.deliveryFor request user id)) = true ↔ id = messageID)
    (initial : state.Initial marshal request users)
    (new : state.database.tables.message messageID = none) :
    Kept setup worker messageID [] none state := by
  have queued : Queued setup worker messageID [] none state := by
    refine ⟨initial.queue.faithful, ?_, ?_, ?_, ?_, ?_⟩
    · intro name outcome ran time wrong
      cases wrong
    · intro row wrong
      rw [initial.queue.jobs] at wrong
      cases wrong
    · intro row wrong
      rw [initial.queue.jobs] at wrong
      cases wrong
    · intro time wrong
      cases wrong
    · intro name job wrong
      rw [initial.queue.attempts name] at wrong
      cases wrong
  refine ⟨queued, ?_, ⟨?_, ?_, ?_⟩, .none, ⟨?_, ?_, ?_, ?_, ?_⟩, ?_⟩
  · intro inst threshold wrong
    rw [initial.thresholds inst] at wrong
    cases wrong
  · intro row wrong
    rw [new] at wrong
    cases wrong
  · intro txn wrong
    rw [initial.transaction] at wrong
    cases wrong
  · intro txn rows wrong
    rw [initial.transaction] at wrong
    cases wrong
  · intro times wrong
    cases wrong
  · intro wrong
    exact absurd rfl wrong
  · intro wrong
    cases wrong
  · intro wrong
    cases wrong
  · intro wrong
    cases wrong
  · rw [initial.mailer]
    exact mailer_dated users decodes

/-- The mailer has committed and answered for this message. -/
def Accepted (messageID : String) (state : State Instance Name) : Prop :=
  ∃ responses, state.mailer = .ret responses ∧
    messageID ∈ responses.map Response.notificationID

/-- A job that is still in the queue is younger than the collector's
lifetime. -/
theorem not_late {schedule : Schedule} {now : Int} {row : Gobble.Row}
    (held : OnSchedule schedule now row)
    (prompt : schedule.total now row < 416 * minute) :
    ¬ Late (some (schedule.enqueued row.id)) now := by
  intro late
  obtain ⟨time, same, late⟩ := late
  cases same
  have passed := held.now_le
  simp only [MessageGC.threshold, startMessageGC, hour, minute] at late
  simp only [minute] at passed prompt
  omega

/-- As long as the job of an accepted notification is in the queue, and its
attempts have lagged by less than 416 minutes, its row is there. -/
theorem row_kept_while_queued (setup : Gobble.Setup Instance Name Outcome)
    (worker : Worker) (marshal : Delivery → String) (request : Request)
    (users : List Recipient) (messageID : String)
    (events : List (Event Instance Name)) (initial final : State Instance Name)
    (trace : List (Gobble.Output Name Outcome))
    (delivers : setup.callback = fun outcome _ => outcome.retry)
    (decodes : ∀ user ∈ users, ∀ id, isFor worker messageID
      (marshal (Mailer.deliveryFor request user id)) = true ↔ id = messageID)
    (starts : initial.Initial marshal request users)
    (new : initial.database.tables.message messageID = none)
    (calm : (system setup worker startMessageGC).Guarded
      (fun _ event => undisturbed worker messageID event = true) events
      initial)
    (ran : (system setup worker startMessageGC).run events initial =
      some (final, trace))
    (accepted : Accepted messageID final) (row : Gobble.Row)
    (queued : row ∈ final.queue.jobs)
    (own : isFor worker messageID row.payload = true)
    (prompt : final.schedule.total final.queue.now row < 416 * minute) :
    ∃ message, final.database.tables.message messageID = some message := by
  obtain ⟨start, kept⟩ := (system setup worker startMessageGC).run_invariant _
    (fun trace state => ∃ start,
      Kept setup worker messageID trace start state)
    (fun trace state event next shown held fine stepped => by
      obtain ⟨start, kept⟩ := held
      exact kept.step delivers fine stepped)
    events [] initial final trace ⟨none, initial_kept decodes starts new⟩ calm
    ran
  obtain ⟨responses, answered, member⟩ := accepted
  obtain ⟨progress, knows, meets⟩ := kept.mailer
  rw [answered] at meets
  rcases knows.committed (meets member) with there | late
  · exact Option.isSome_iff_exists.mp there
  · rw [kept.queued.jobs row queued own] at late
    exact absurd late (not_late (kept.queued.scheduled row queued) prompt)

/-! ## One notification -/

def oneUser : Recipient := ⟨"user", ""⟩

def oneWorker : Worker :=
  { sampleWorker with
    unmarshal := Mailer.plainUnmarshal
      [Mailer.deliveryFor sampleRequest oneUser "guid"] }

def oneSetup : Gobble.Setup Unit Bool Outcome where
  inst _ := ()
  workerID name := if name then "worker-1" else "worker-0"
  workerID_ne := by decide
  callback outcome _ := outcome.retry

def oneStart : State Unit Bool where
  queue := ⟨[], 1, 0, fun _ => false, fun _ => .up, fun _ => .idle⟩
  schedule := .empty
  database := .after []
  transaction := none
  mailer := Mailer.deliver Mailer.plainMarshal sampleRequest [oneUser]
  programs _ := .ret ⟨none, none⟩
  thresholds _ := none

/-- The mailer is done in time zero; six hours later the collector runs. -/
def oneRun : List (Event Unit Bool) :=
  List.replicate 8 (.mailer .calm) ++
    [.queue (.tick (360 * 60 * 1000000000)), .collect (),
      .deleteBefore () .calm]

theorem payload_injective (id : String)
    (same : Mailer.plainMarshal (Mailer.deliveryFor sampleRequest oneUser
      "guid") = Mailer.plainMarshal (Mailer.deliveryFor sampleRequest oneUser
        id)) : id = "guid" := by
  simp only [Mailer.plainMarshal, Mailer.object, Mailer.deliveryFor,
    String.intercalate_cons_cons, String.intercalate_singleton,
    String.append_assoc, String.append_right_inj] at same
  simp only [Mailer.quoted, String.append_assoc, String.append_right_inj,
    String.append_left_inj] at same
  exact same.symm

theorem decodedID_plain (delivery : Delivery) (payload : String) :
    Mailer.decodedID (Mailer.plainUnmarshal [delivery]) payload =
      if Mailer.plainMarshal delivery = payload then some delivery.messageID
      else none := by
  rw [Mailer.decodedID, Mailer.plainUnmarshal, List.find?_cons,
    List.find?_nil]
  by_cases same : Mailer.plainMarshal delivery = payload
  · rw [beq_iff_eq.mpr same, if_pos same]
  · rw [beq_eq_false_iff_ne.mpr same, if_neg same]

theorem oneWorker_decodes (user : Recipient) (member : user ∈ [oneUser])
    (id : String) :
    isFor oneWorker "guid" (Mailer.plainMarshal
      (Mailer.deliveryFor sampleRequest user id)) = true ↔ id = "guid" := by
  rw [List.mem_singleton.mp member]
  have decoded := decodedID_plain
    (Mailer.deliveryFor sampleRequest oneUser "guid")
    (Mailer.plainMarshal (Mailer.deliveryFor sampleRequest oneUser id))
  unfold isFor oneWorker
  rw [decoded]
  constructor
  · intro own
    split at own
    · rename_i same
      exact payload_injective id same
    · cases own
  · intro same
    rw [same, if_pos rfl]
    rfl

end Collated

attribute [local instance] Collation.binary

theorem row_kept_six_hours :
    ∃ final trace row message,
      (system oneSetup oneWorker startMessageGC).run oneRun oneStart =
        some (final, trace) ∧
      Accepted "guid" final ∧ row ∈ final.queue.jobs ∧
      final.queue.now = 360 * minute ∧
      final.schedule.total final.queue.now row < 416 * minute ∧
      final.database.tables.message "guid" = some message := by
  have ran : (system oneSetup oneWorker startMessageGC).run oneRun oneStart =
      some (((system oneSetup oneWorker startMessageGC).run oneRun
        oneStart).get rfl) :=
    (Option.some_get rfl).symm
  have accepted : Accepted "guid" (((system oneSetup oneWorker
      startMessageGC).run oneRun oneStart).get rfl).1 :=
    ⟨_, rfl, .head _⟩
  have starts : oneStart.Initial Mailer.plainMarshal sampleRequest
      [oneUser] :=
    ⟨⟨rfl, by decide, fun _ => rfl⟩, rfl, rfl, fun _ => rfl⟩
  have prompt : Schedule.total (((system oneSetup oneWorker
      startMessageGC).run oneRun oneStart).get rfl).1.schedule (360 * minute)
        (storedJob 1 (Mailer.plainMarshal (Mailer.deliveryFor sampleRequest
          oneUser "guid"))).toRow < 416 * minute := by
    decide +kernel
  obtain ⟨message, found⟩ := row_kept_while_queued oneSetup oneWorker
    Mailer.plainMarshal sampleRequest [oneUser] "guid" oneRun oneStart _ _ rfl
    oneWorker_decodes starts rfl (by decide +kernel) ran accepted
    (storedJob 1 (Mailer.plainMarshal (Mailer.deliveryFor sampleRequest
      oneUser "guid"))).toRow (.head _)
    ((oneWorker_decodes oneUser (.head _) "guid").mpr rfl) prompt
  exact ⟨_, _, _, message, ran, accepted, .head _, rfl, prompt, found⟩

end Collecting

end Notifications.Strategies
