import Notifications.Lib.Machine
import Notifications.Models.Messages
import Notifications.Postal.DeliveryWorker
import Notifications.Strategies.Mailer

/-!
# The mailer and the workers, one statement at a time

`Mailer.Deliver` runs in its own goroutine while workers reserve the jobs it
has enqueued so far.  Every event is one call of one of the programs, with an
environment that decides its answer.

The transaction is InnoDB's at its default isolation level: it reads from a
snapshot that its first `SELECT` takes, with its own writes on top; its writes
check the committed rows, become visible at the commit, and lock their rows
until then, so that a worker's write to one of them waits.  Two attempts for
one message never overlap, because there is one job for a message and one
worker for a job.
-/

set_option autoImplicit false

namespace Notifications.Strategies

open Notifications.Lib Notifications.Models Notifications.Postal

/-- The mailer's transaction; `writes` are the rows of `messages` that it has
inserted or updated. -/
structure Txn where
  snapshot : Option (List Message)
  writes : List Message

variable [Collation]

namespace Txn

def opened : Txn := ⟨none, []⟩

def wrote (txn : Txn) (id : String) : Bool :=
  txn.writes.any fun row => row.id == id

def rows (txn : Txn) (tables : Tables) : List Message :=
  (txn.snapshot.getD (tables.rows .messages)).filter
    (fun row => !txn.wrote row.id) ++ txn.writes

def record (txn : Txn) (message : Message) : Txn :=
  { txn with
    writes := (txn.writes.filter fun row => row.id != message.id) ++
      [message] }

/-- There is a row to update, or in the way of an insert. -/
def occupied (txn : Txn) (tables : Tables) (id : String) : Bool :=
  txn.wrote id || (tables.message id).isSome

/-- A statement of the transaction.  It is only used on `messages`. -/
def execute (txn : Txn) (tables : Tables) : (statement : Statement) →
    Option (Except String statement.Result × Txn)
  | .select .messages wanted =>
      some (.ok ((txn.rows tables).filter wanted),
        { txn with
          snapshot := some (txn.snapshot.getD (tables.rows .messages)) })
  | .insert .messages message =>
      if txn.occupied tables message.id then
        some (.error (duplicateEntry [message.id]), txn)
      else
        some (.ok message, txn.record message)
  | .update .messages message =>
      if txn.occupied tables message.id then
        some (.ok (), txn.record message)
      else
        some (.ok (), txn)
  | _ => none

end Txn

inductive Attempt where
  /-- none is under way; the outcome of the last one -/
  | idle (last : Option Outcome)
  /-- what is left of `Deliver` -/
  | running (job : Gobble.Job) (program : Prog Outcome)

structure State where
  database : Database
  transaction : Option Txn
  /-- what is left of `Mailer.Deliver` -/
  mailer : Prog (List Response)
  jobs : List Gobble.Row
  nextJobID : Nat
  /-- by message ID -/
  attempts : String → Attempt

inductive Event where
  | mailer (environment : Environment)
  /-- a worker reserves the job with this ID, which is for this message -/
  | reserve (messageID : String) (id : Nat) (workerID : String)
      (environment : Environment)
  | attempt (messageID : String) (environment : Environment)
  /-- `Requeue` or `Dequeue` -/
  | finish (messageID : String) (environment : Environment)

/-- The row as the commit leaves it in the table. -/
def store (database : Database) (message : Message) : Database :=
  if (database.tables.message message.id).isSome then
    (database.execute (.update .messages message)).2
  else
    (database.execute (.insert .messages message)).2

namespace State

/-- The statement waits for a row that the transaction has locked. -/
def locked (state : State) : Statement → Bool
  | .insert .messages row => state.transaction.any fun txn => txn.wrote row.id
  | .update .messages row => state.transaction.any fun txn => txn.wrote row.id
  | .delete .messages row => state.transaction.any fun txn => txn.wrote row.id
  | _ => false

def direct (environment : Environment) (state : State)
    (statement : Statement) : Option (Reply statement.Result × State) :=
  match environment.faults 0 with
  | some text => some (.failed text, state)
  | none =>
      if state.locked statement then
        none
      else
        some (World.reply (state.database.execute statement).1,
          { state with database := (state.database.execute statement).2 })

/-- A call of `Deliver`. -/
def workerCall (environment : Environment) (state : State) :
    (op : Op) → Option (Answer op × State)
  | .sql .connection statement => state.direct environment statement
  | .sql .transaction _ => some (.nilPointer, state)
  | .now => some (environment.clock 0, state)
  | .service service => some (environment.serve 0 service, state)
  | .iterate keys => some (environment.order keys, state)
  | _ => none

def inTxn (environment : Environment) (state : State)
    (statement : Statement) : Option (Reply statement.Result × State) :=
  match state.transaction with
  | none => some (.nilPointer, state)
  | some txn =>
      match environment.faults 0 with
      | some text => some (.failed text, state)
      | none => do
          let (result, after) ← txn.execute state.database.tables statement
          some (World.reply result, { state with transaction := some after })

def mailerCall (environment : Environment) (state : State) :
    (op : Op) → Option (Answer op × State)
  | .sql .connection statement => state.direct environment statement
  | .sql .transaction statement => state.inTxn environment statement
  | .begin =>
      match environment.faults 0 with
      | some text => some (.error text, { state with transaction := none })
      | none => some (.ok (), { state with transaction := some .opened })
  | .commit =>
      match state.transaction with
      | none => some (.nilPointer, state)
      | some txn =>
          match environment.faults 0 with
          | some text => some (.failed text, { state with transaction := none })
          | none => some (.ok (), { state with
              database := txn.writes.foldl store state.database
              transaction := none })
  | .rollback =>
      match state.transaction with
      | none => some (.nilPointer, state)
      | some _ =>
          match environment.faults 0 with
          | some text => some (.failed text, { state with transaction := none })
          | none => some (.ok (), { state with transaction := none })
  | .enqueue job =>
      match environment.faults 0 with
      | some text => some (.error text, state)
      | none =>
          let (jobs, inserted) := Gobble.enqueue state.nextJobID state.jobs job
          some (.ok inserted, { state with
            jobs := jobs, nextJobID := state.nextJobID + 1 })
  | .now => some (environment.clock 0, state)
  | .service service => some (environment.serve 0 service, state)
  | .iterate keys => some (environment.order keys, state)

def setAttempt (state : State) (messageID : String)
    (attempt : Attempt) : State :=
  { state with
    attempts := Function.update state.attempts messageID attempt }

end State

/-- A reservation of a job whose delivery is for this message. -/
def reserve (worker : Worker) (state : State) (messageID : String) (id : Nat)
    (workerID : String) (environment : Environment) : Option State := do
  let found ← Gobble.findJob (environment.clock 0) state.jobs id
  match Gobble.updateJob state.jobs found workerID with
  | .error _ => none
  | .ok (jobs, job) =>
      match worker.unmarshal job.payload with
      | .error _ => none
      | .ok delivery =>
          if delivery.messageID = messageID then
            some ({ state with jobs := jobs }.setAttempt messageID
              (.running job (worker.deliver job)))
          else
            none

def interleaving (worker : Worker) : Machine State Event Unit where
  step state event :=
    match event with
    | .mailer environment =>
        match state.mailer with
        | .call op next => do
            let (answer, after) ← state.mailerCall environment op
            some ({ after with mailer := next answer }, [])
        | _ => none
    | .reserve messageID id workerID environment =>
        match state.attempts messageID with
        | .idle _ => do
            let after ← reserve worker state messageID id workerID environment
            some (after, [])
        | _ => none
    | .attempt messageID environment =>
        match state.attempts messageID with
        | .running job (.call op next) => do
            let (answer, after) ← state.workerCall environment op
            some (after.setAttempt messageID (.running job (next answer)), [])
        | _ => none
    | .finish messageID environment =>
        match state.attempts messageID with
        | .running job (.ret outcome) =>
            let jobs := Postal.finish (environment.clock 0) job outcome
              state.jobs
            some ({ state with jobs := jobs }.setAttempt messageID
              (.idle (some outcome)), [])
        | _ => none

structure State.Initial (marshal : Delivery → String) (request : Request)
    (users : List Recipient) (state : State) : Prop where
  transaction : state.transaction = none
  mailer : state.mailer = Mailer.deliver marshal request users
  attempts : ∀ messageID, state.attempts messageID = .idle none

/-! ## What a step can do -/

section Steps

variable {worker : Worker} {state next : State} {shown : List Unit}
  {environment : Environment} {messageID : String}

theorem step_mailer
    (stepped : (interleaving worker).step state (.mailer environment) =
      some (next, shown)) :
    ∃ op rest answer after, state.mailer = .call op rest ∧
      state.mailerCall environment op = some (answer, after) ∧
      next = { after with mailer := rest answer } := by
  simp only [interleaving] at stepped
  split at stepped
  · rename_i op rest here
    obtain ⟨⟨answer, after⟩, called, stepped⟩ :=
      Option.bind_eq_some_iff.mp stepped
    cases stepped
    exact ⟨op, rest, answer, after, here, called, rfl⟩
  · cases stepped

theorem step_attempt
    (stepped : (interleaving worker).step state
      (.attempt messageID environment) = some (next, shown)) :
    ∃ job op rest answer after,
      state.attempts messageID = .running job (.call op rest) ∧
      state.workerCall environment op = some (answer, after) ∧
      next = after.setAttempt messageID (.running job (rest answer)) := by
  simp only [interleaving] at stepped
  split at stepped
  · rename_i job op rest here
    obtain ⟨⟨answer, after⟩, called, stepped⟩ :=
      Option.bind_eq_some_iff.mp stepped
    cases stepped
    exact ⟨job, op, rest, answer, after, here, called, rfl⟩
  · cases stepped

theorem step_reserve {id : Nat} {workerID : String}
    (stepped : (interleaving worker).step state
      (.reserve messageID id workerID environment) = some (next, shown)) :
    ∃ job delivery jobs,
      worker.unmarshal job.payload = .ok delivery ∧
      delivery.messageID = messageID ∧
      next = { state with jobs := jobs }.setAttempt messageID
        (.running job (worker.deliver job)) := by
  simp only [interleaving] at stepped
  split at stepped
  · obtain ⟨after, reserved, stepped⟩ := Option.bind_eq_some_iff.mp stepped
    cases stepped
    simp only [reserve] at reserved
    obtain ⟨found, _, reserved⟩ := Option.bind_eq_some_iff.mp reserved
    split at reserved
    · cases reserved
    · rename_i jobs job _
      split at reserved
      · cases reserved
      · rename_i delivery read
        split at reserved
        · rename_i same
          cases reserved
          exact ⟨job, delivery, jobs, read, same, rfl⟩
        · cases reserved
  · cases stepped

theorem step_finish
    (stepped : (interleaving worker).step state
      (.finish messageID environment) = some (next, shown)) :
    ∃ job outcome jobs,
      state.attempts messageID = .running job (.ret outcome) ∧
      next = { state with jobs := jobs }.setAttempt messageID
        (.idle (some outcome)) := by
  simp only [interleaving] at stepped
  split at stepped
  · rename_i job outcome here
    cases stepped
    exact ⟨job, outcome, _, here, rfl⟩
  · cases stepped

end Steps

end Notifications.Strategies
