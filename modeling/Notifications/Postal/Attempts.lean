import Mathlib.Data.Finset.Card
import Notifications.Lib.Contract
import Notifications.Lib.Machine
import Notifications.Postal.Dropping

/-!
# Workers and the rest of the service, one statement at a time

Any number of workers reserve jobs from one table and run `Deliver` on them,
one call at a time, between the statements of everybody else.  A worker may
crash, and a starting instance may unlock the jobs that others still work on.
A statement that waits for a lock is one that comes later, and the writes of a
transaction come when it is committed.

The history says what the attempts have done so far; no step looks at it.
-/

set_option autoImplicit false

namespace Notifications.Postal

open Notifications.Lib Notifications.Models

/-- The delivery that a job is for, if its payload can be read. -/
def Worker.delivery (worker : Worker) (job : Gobble.Job) : Option Delivery :=
  (worker.unmarshal job.payload).toOption

variable [Collation]

namespace Attempts

/-- Where the answers have led an attempt so far. -/
inductive Course where
  /-- towards `deliver`, with this address -/
  | going (address : String)
  /-- to an exit of `Deliver` that is before `deliver` -/
  | stopped
  /-- to `deliver` -/
  | handed
  deriving DecidableEq, Repr

namespace Course

/-- Malformed payloads stop an attempt at once. -/
def start : Option Delivery → Course
  | none => stopped
  | some delivery => going delivery.email

/-- What an answer means for an attempt that is on its way: the receipt, the
token, the user's record, the kind and the two kinds of unsubscriptions. -/
def learn (delivery : Delivery) (address : String) :
    (op : Op) → Answer op → Course
  | .sql _ (.upsertReceipt _), .failed _ => stopped
  | .service .loadToken, .error _ => stopped
  | .service (.usersEmailsByIDs _ _), .error _ => stopped
  | .service (.usersEmailsByIDs _ _), .ok records =>
      going (addressIn records delivery)
  | .sql _ (.select .kinds _), .ok [kind] =>
      if kind.critical then handed else going address
  | .sql _ (.select .globalUnsubscribes _), .failed _ => stopped
  | .sql _ (.select .globalUnsubscribes _), .ok (_ :: _) => stopped
  | .sql _ (.select .unsubscribes _), .failed _ => stopped
  | .sql _ (.select .unsubscribes _), .ok (_ :: _) => stopped
  | .sql _ (.select .unsubscribes _), .ok [] =>
      if Worker.usable address then handed else stopped
  | _, _ => going address

def after (delivery : Option Delivery) (course : Course) (op : Op)
    (answer : Answer op) : Course :=
  match delivery, course with
  | some delivery, going address => learn delivery address op answer
  | _, course => course

end Course

/-- A notification for a user, client and kind, which are told from others as
the tables do. -/
structure Notification where
  messageID : String
  userGUID : String
  clientID : String
  kindID : String
  deriving DecidableEq, Repr

def notification (delivery : Delivery) : Notification :=
  ⟨delivery.messageID, Collation.weight delivery.userGUID,
    Collation.weight delivery.clientID,
    Collation.weight delivery.options.kindID⟩

structure History where
  /-- one entry for every attempt that got to its receipt -/
  processed : List Notification
  /-- the messages for which an attempt got to `deliver` -/
  reached : List String
  /-- the messages for which such an attempt returned -/
  handled : List String
  /-- the messages of the jobs that have been dequeued -/
  removed : List String
  deriving DecidableEq, Repr

def History.empty : History := ⟨[], [], [], []⟩

inductive Stage where
  /-- in `findJob` -/
  | reserving
  /-- `findJob` returned this job -/
  | found (job : Gobble.Job)
  /-- what is left of `Deliver` -/
  | delivering (job : Gobble.Job) (course : Course) (program : Prog Outcome)

structure State where
  database : Database
  jobs : List Gobble.Row
  nextJobID : Nat
  workers : Nat → Stage
  history : History

inductive Event where
  | enqueue (job : Gobble.Job)
  | unlock
  /-- a statement of the rest of the service -/
  | other (statement : Statement)
  | findJob (name id : Nat) (now : Int)
  | updateJob (name : Nat) (workerID : String)
  /-- the next call of `Deliver` -/
  | call (name : Nat) (environment : Environment)
  /-- `Requeue` or `Dequeue` -/
  | finish (name : Nat) (now : Int)
  | crash (name : Nat)

def foreign (statement : Statement) : Bool :=
  statement.reads || statement.table != .receipts

def isReceipt : Op → Bool
  | .sql _ (.upsertReceipt _) => true
  | _ => false

/-- A call of `Deliver`. -/
def answered (environment : Environment) (database : Database) :
    (op : Op) → Option (Answer op × Database)
  | .sql .connection statement =>
      match environment.faults 0 with
      | some text => some (.failed text, database)
      | none => some (World.reply (database.execute statement).1,
          (database.execute statement).2)
  | .sql .transaction _ => some (.nilPointer, database)
  | .now => some (environment.clock 0, database)
  | .service service => some (environment.serve 0 service, database)
  | .iterate keys => some (environment.order keys, database)
  | _ => none

namespace History

variable (history : History) (delivery : Option Delivery)

/-- After a call that has led the attempt to `course`. -/
def called (op : Op) (course : Course) : History :=
  match delivery with
  | none => history
  | some delivery =>
      { history with
        processed := if isReceipt op then
          history.processed ++ [notification delivery] else history.processed
        reached := if course = .handed then
          history.reached ++ [delivery.messageID] else history.reached }

/-- After `Requeue` or `Dequeue`. -/
def finished (course : Course) (dequeued : Bool) : History :=
  match delivery with
  | none => history
  | some delivery =>
      { history with
        handled := if course = .handed then
          history.handled ++ [delivery.messageID] else history.handled
        removed := if dequeued then
          history.removed ++ [delivery.messageID] else history.removed }

variable {history : History} {delivery : Option Delivery} {op : Op}
  {course : Course} {gone : Bool} {messageID : String}

@[simp] theorem called_handled :
    (history.called delivery op course).handled = history.handled := by
  unfold called
  cases delivery <;> rfl

@[simp] theorem called_removed :
    (history.called delivery op course).removed = history.removed := by
  unfold called
  cases delivery <;> rfl

omit [Collation] in
@[simp] theorem finished_processed :
    (history.finished delivery course gone).processed =
      history.processed := by
  unfold finished
  cases delivery <;> rfl

omit [Collation] in
@[simp] theorem finished_reached :
    (history.finished delivery course gone).reached = history.reached := by
  unfold finished
  cases delivery <;> rfl

theorem reached_called (member : messageID ∈ history.reached) :
    messageID ∈ (history.called delivery op course).reached := by
  unfold called
  cases delivery with
  | none => exact member
  | some delivery =>
      by_cases handed : course = .handed
      · simp [handed, member]
      · simpa [handed] using member

omit [Collation] in
theorem mem_handled_finished :
    messageID ∈ (history.finished delivery course gone).handled ↔
      messageID ∈ history.handled ∨
        (course = .handed ∧ ∃ own, delivery = some own ∧
          own.messageID = messageID) := by
  unfold finished
  cases delivery with
  | none => simp
  | some delivery =>
      by_cases handed : course = .handed
      · simp [handed, eq_comm]
      · simp [handed]

omit [Collation] in
theorem mem_removed_finished :
    messageID ∈ (history.finished delivery course gone).removed ↔
      messageID ∈ history.removed ∨
        (gone = true ∧ ∃ own, delivery = some own ∧
          own.messageID = messageID) := by
  unfold finished
  cases delivery with
  | none => simp
  | some delivery =>
      cases gone with
      | true => simp [eq_comm]
      | false => simp

end History

def State.set (state : State) (name : Nat) (stage : Stage) : State :=
  { state with workers := Function.update state.workers name stage }

def dequeued (job : Gobble.Job) (outcome : Outcome)
    (jobs : List Gobble.Row) : Bool :=
  outcome.retry.isNone && (Gobble.dequeue jobs job).isOk

def attempts (worker : Worker) : Machine State Event Unit where
  step state event :=
    match event with
    | .enqueue job =>
        some ({ state with
          jobs := (Gobble.enqueue state.nextJobID state.jobs job).1
          nextJobID := state.nextJobID + 1 }, [])
    | .unlock => some ({ state with jobs := Gobble.unlock state.jobs }, [])
    | .other statement =>
        if foreign statement then
          some ({ state with
            database := (state.database.execute statement).2 }, [])
        else
          none
    | .findJob name id now =>
        match state.workers name with
        | .reserving => do
            let job ← Gobble.findJob now state.jobs id
            some (state.set name (.found job), [])
        | _ => none
    | .updateJob name workerID =>
        match state.workers name with
        | .found job =>
            match Gobble.updateJob state.jobs job workerID with
            | .ok (jobs, job) =>
                some ({ state with jobs := jobs }.set name
                  (.delivering job (.start (worker.delivery job))
                    (worker.deliver job)), [])
            | .error _ => some (state.set name .reserving, [])
        | _ => none
    | .call name environment =>
        match state.workers name with
        | .delivering job course (.call op next) => do
            let (answer, database) ← answered environment state.database op
            let course := course.after (worker.delivery job) op answer
            some ({ state with
              database := database
              history := state.history.called (worker.delivery job) op
                course }.set name (.delivering job course (next answer)), [])
        | _ => none
    | .finish name now =>
        match state.workers name with
        | .delivering job course (.ret outcome) =>
            some ({ state with
              jobs := Postal.finish now job outcome state.jobs
              history := state.history.finished (worker.delivery job) course
                (dequeued job outcome state.jobs) }.set name .reserving, [])
        | _ => none
    | .crash name => some (state.set name .reserving, [])

structure State.Idle (state : State) : Prop where
  workers : ∀ name, state.workers name = .reserving
  history : state.history = .empty

structure State.Initial (state : State) : Prop extends state.Idle where
  receipts : state.database.tables.rows .receipts = []

/-! ## What a step can do -/

/-- The steps, as far as the database, the attempts and the history are
concerned. -/
inductive Stepped (worker : Worker) (state next : State) : Event → Prop where
  | quiet (event : Event)
      (idle : ∀ name environment, event ≠ .call name environment)
      (database : next.database = state.database)
      (history : next.history = state.history)
      (workers : ∀ name, next.workers name = state.workers name ∨
        ∀ job course program,
          next.workers name ≠ .delivering job course program) :
      Stepped worker state next event
  | other (statement : Statement) (aside : foreign statement = true)
      (same : next = { state with
        database := (state.database.execute statement).2 }) :
      Stepped worker state next (.other statement)
  | started (name : Nat) (workerID : String) (job : Gobble.Job)
      (jobs : List Gobble.Row)
      (same : next = { state with jobs := jobs }.set name
        (.delivering job (.start (worker.delivery job))
          (worker.deliver job))) :
      Stepped worker state next (.updateJob name workerID)
  | called (name : Nat) (environment : Environment) (job : Gobble.Job)
      (course : Course) (op : Op) (rest : Answer op → Prog Outcome)
      (answer : Answer op) (database : Database)
      (here : state.workers name = .delivering job course (.call op rest))
      (given : answered environment state.database op =
        some (answer, database))
      (same : next = { state with
        database := database
        history := state.history.called (worker.delivery job) op
          (course.after (worker.delivery job) op answer) }.set name
            (.delivering job (course.after (worker.delivery job) op answer)
              (rest answer))) :
      Stepped worker state next (.call name environment)
  | finished (name : Nat) (now : Int) (job : Gobble.Job) (course : Course)
      (outcome : Outcome)
      (here : state.workers name = .delivering job course (.ret outcome))
      (same : next = { state with
        jobs := Postal.finish now job outcome state.jobs
        history := state.history.finished (worker.delivery job) course
          (dequeued job outcome state.jobs) }.set name .reserving) :
      Stepped worker state next (.finish name now)

theorem set_workers (state : State) (name : Nat) {stage : Stage}
    (outside : ∀ job course program,
      stage ≠ .delivering job course program) (other : Nat) :
    (state.set name stage).workers other = state.workers other ∨
      ∀ job course program,
        (state.set name stage).workers other ≠
          .delivering job course program := by
  by_cases same : other = name
  · subst same
    right
    simpa [State.set] using outside
  · left
    simp [State.set, same]

theorem step_does {worker : Worker} {state next : State} {event : Event}
    {shown : List Unit}
    (stepped : (attempts worker).step state event = some (next, shown)) :
    Stepped worker state next event := by
  cases event with
  | enqueue job =>
      cases stepped
      exact .quiet _ (by simp) rfl rfl fun _ => .inl rfl
  | unlock =>
      cases stepped
      exact .quiet _ (by simp) rfl rfl fun _ => .inl rfl
  | other statement =>
      simp only [attempts] at stepped
      split at stepped
      · rename_i aside
        cases stepped
        exact .other statement aside rfl
      · cases stepped
  | findJob name id now =>
      simp only [attempts] at stepped
      split at stepped
      · obtain ⟨job, _, stepped⟩ := Option.bind_eq_some_iff.mp stepped
        cases stepped
        exact .quiet _ (by simp) rfl rfl (set_workers state name (by simp))
      · cases stepped
  | updateJob name workerID =>
      simp only [attempts] at stepped
      split at stepped
      · split at stepped
        · rename_i jobs job _
          cases stepped
          exact .started name workerID job jobs rfl
        · cases stepped
          exact .quiet _ (by simp) rfl rfl (set_workers state name (by simp))
      · cases stepped
  | call name environment =>
      simp only [attempts] at stepped
      split at stepped
      · rename_i job course op rest here
        obtain ⟨⟨answer, database⟩, given, stepped⟩ :=
          Option.bind_eq_some_iff.mp stepped
        cases stepped
        exact .called name environment job course op rest answer database here
          given rfl
      · cases stepped
  | finish name now =>
      simp only [attempts] at stepped
      split at stepped
      · rename_i job course outcome here
        cases stepped
        exact .finished name now job course outcome here rfl
      · cases stepped
  | crash name =>
      cases stepped
      exact .quiet _ (by simp) rfl rfl (set_workers state name (by simp))

/-- What is known about every attempt, from its start on. -/
def EachAttempt
    (known : Gobble.Job → Course → Prog Outcome → Prop) (state : State) :
    Prop :=
  ∀ name job course program,
    state.workers name = .delivering job course program →
      known job course program

theorem EachAttempt.idle {known : Gobble.Job → Course → Prog Outcome → Prop}
    {state : State} (idle : state.Idle) : EachAttempt known state := by
  intro name job course program here
  rw [idle.workers name] at here
  cases here

theorem EachAttempt.weaken
    {strong weak : Gobble.Job → Course → Prog Outcome → Prop}
    {state : State} (each : EachAttempt strong state)
    (implies : ∀ job course program, strong job course program →
      weak job course program) : EachAttempt weak state := by
  intro name job course program here
  exact implies job course program (each name job course program here)

/-- It holds at the start of an attempt, and every call keeps it. -/
theorem Stepped.each {known : Gobble.Job → Course → Prog Outcome → Prop}
    {worker : Worker} {state next : State} {event : Event}
    (stepped : Stepped worker state next event)
    (held : EachAttempt known state)
    (start : ∀ job, known job (.start (worker.delivery job))
      (worker.deliver job))
    (call : ∀ job course op rest environment answer,
      known job course (.call op rest) →
        answered environment state.database op =
            some (answer, next.database) →
          next.history = state.history.called (worker.delivery job) op
              (course.after (worker.delivery job) op answer) →
            known job (course.after (worker.delivery job) op answer)
              (rest answer)) :
    EachAttempt known next := by
  intro other job' course' program' there
  cases stepped with
  | quiet event idle database history workers =>
      rcases workers other with same | outside
      · exact held other job' course' program' (same ▸ there)
      · exact absurd there (outside _ _ _)
  | other statement aside same =>
      subst same
      exact held other job' course' program' there
  | started name workerID job jobs same =>
      subst same
      by_cases own : other = name
      · subst own
        simp only [State.set, Function.update_self, Stage.delivering.injEq]
          at there
        obtain ⟨rfl, rfl, rfl⟩ := there
        exact start job
      · simp only [State.set, Function.update_of_ne own] at there
        exact held other job' course' program' there
  | called name environment job course op rest answer database here given
      same =>
      subst same
      by_cases own : other = name
      · subst own
        simp only [State.set, Function.update_self, Stage.delivering.injEq]
          at there
        obtain ⟨rfl, rfl, rfl⟩ := there
        exact call job course op rest environment answer
          (held other job course _ here) given rfl
      · simp only [State.set, Function.update_of_ne own] at there
        exact held other job' course' program' there
  | finished name now job course outcome here same =>
      subst same
      by_cases own : other = name
      · subst own
        simp only [State.set, Function.update_self] at there
        cases there
      · simp only [State.set, Function.update_of_ne own] at there
        exact held other job' course' program' there

/-! ## Sample runs -/

def newState : State where
  database := ordinaryWorld.database
  jobs := []
  nextJobID := 1
  workers _ := .reserving
  history := .empty

theorem newState_initial : newState.Initial where
  workers _ := rfl
  history := rfl
  receipts := rfl

def smtpDown : Environment :=
  { Environment.calm with
    serve := fun _ service =>
      match service with
      | .connect => .error "connection refused"
      | service => service.answer }

/-- A whole attempt of one worker for the first job. -/
def wholeAttempt (now : Int) (environment : Environment) (calls : Nat) :
    List Event :=
  [.findJob 0 1 now, .updateJob 0 "worker-1"] ++
    List.replicate calls (.call 0 environment) ++ [.finish 0 now]

end Attempts

end Notifications.Postal
