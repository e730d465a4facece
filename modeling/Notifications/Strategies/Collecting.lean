import Notifications.Postal.Lateness
import Notifications.Postal.MessageGC
import Notifications.Strategies.Contracts

/-!
# The mailer, the workers and the collectors, on one clock

A call of `Mailer.Deliver` next to any number of workers and to a collector of
old messages in every instance.  The queue is the one of `Gobble.System`, with
all of its steps; between the moment when an attempt receives its job and the
moment when its callback returns, `Deliver` runs one call at a time.

Everybody reads the same clock.  The statements of the rest of the service are
events of their own, and so are the jobs that other calls of `Mailer.Deliver`
enqueue.
-/

set_option autoImplicit false
set_option linter.unusedSectionVars false

namespace Notifications.Strategies

open Notifications.Lib Notifications.Models Notifications.Postal

namespace Collecting

variable [Collation]

structure State (Instance Name : Type) where
  queue : Gobble.State Instance Name
  schedule : Schedule
  database : Database
  /-- the mailer's -/
  transaction : Option Txn
  /-- what is left of `Mailer.Deliver` -/
  mailer : Prog (List Response)
  /-- what is left of `Deliver`, while an attempt is in its callback -/
  programs : Name → Prog Outcome
  /-- the threshold of a `Collect` whose statement is still to come -/
  thresholds : Instance → Option Int

inductive Event (Instance Name : Type) where
  /-- a step of the queue, other than an `Enqueue` or the end of a callback -/
  | queue (event : Gobble.Event Instance Name Outcome)
  /-- somebody else enqueues a job -/
  | enqueue (payload : String)
  /-- a statement of the rest of the service -/
  | other (statement : Statement)
  /-- the next call of `Mailer.Deliver` -/
  | mailer (environment : Environment)
  /-- the next call of `Deliver` -/
  | call (name : Name) (environment : Environment)
  /-- `Deliver` returns -/
  | returned (name : Name)
  /-- `Collect` reads the clock -/
  | collect (inst : Instance)
  /-- `Collect` sends its statement -/
  | deleteBefore (inst : Instance) (environment : Environment)

variable {Instance Name : Type} [DecidableEq Instance] [DecidableEq Name]

/-- The programs after what the queue has shown. -/
def started (worker : Worker) (programs : Name → Prog Outcome)
    (shown : List (Gobble.Output Name Outcome)) : Name → Prog Outcome :=
  shown.foldl (fun programs output =>
    match output with
    | .started name job _ =>
        Function.update programs name (worker.deliver job)
    | _ => programs) programs

/-- Steps of the queue that come by themselves. -/
def alone : Gobble.Event Instance Name Outcome → Bool
  | .enqueue _ => false
  | .callback _ _ => false
  | _ => true

namespace State

/-- The state as the mailer and the workers see it. -/
def view (state : State Instance Name) : Strategies.State where
  database := state.database
  transaction := state.transaction
  mailer := state.mailer
  jobs := state.queue.jobs
  nextJobID := state.queue.nextID
  attempts _ := .idle none

/-- The environment of a call, with the clock of the system. -/
def at_ (state : State Instance Name) (environment : Environment) :
    Environment :=
  { environment with clock := fun _ => state.queue.now }

/-- A row that the statement would delete is locked by the transaction. -/
def blocks (state : State Instance Name) (threshold : Int) : Bool :=
  state.transaction.any fun txn => txn.writes.any fun written =>
    (state.database.tables.message written.id).any fun row =>
      decide (row.updatedAt < threshold)

section Steps

variable (setup : Gobble.Setup Instance Name Outcome) (worker : Worker)

def queueStep (state : State Instance Name)
    (event : Gobble.Event Instance Name Outcome) :
    Option (State Instance Name × List (Gobble.Output Name Outcome)) := do
  let (queue, shown) ← setup.step state.queue event
  some ({ state with
    queue := queue
    schedule := state.schedule.after state.queue shown
    programs := started worker state.programs shown }, shown)

/-- `Queue.Enqueue`, in `Mailer.Deliver`. -/
def enqueueStep (state : State Instance Name) (environment : Environment)
    (job : Gobble.Job)
    (next : Except String Gobble.Job → Prog (List Response)) :
    Option (State Instance Name × List (Gobble.Output Name Outcome)) :=
  match environment.faults 0 with
  | some text => some ({ state with mailer := next (.error text) }, [])
  | none => do
      let inserted :=
        (Gobble.enqueue state.queue.nextID state.queue.jobs job).2
      let (after, shown) ← state.queueStep setup worker (.enqueue job)
      some ({ after with mailer := next (.ok inserted) }, shown)

def mailerStep (state : State Instance Name) (environment : Environment) :
    Option (State Instance Name × List (Gobble.Output Name Outcome)) :=
  match state.mailer with
  | .call (.enqueue job) next =>
      state.enqueueStep setup worker environment job next
  | .call op next => do
      let (answer, after) ← state.view.mailerCall (state.at_ environment) op
      some ({ state with
        database := after.database
        transaction := after.transaction
        mailer := next answer }, [])
  | _ => none

def callStep (state : State Instance Name) (name : Name)
    (environment : Environment) :
    Option (State Instance Name × List (Gobble.Output Name Outcome)) :=
  match state.queue.attempts name, state.programs name with
  | .running _, .call op next => do
      let (answer, after) ← state.view.workerCall (state.at_ environment) op
      some ({ state with
        database := after.database
        programs := Function.update state.programs name (next answer) }, [])
  | _, _ => none

def deleteStep (state : State Instance Name) (inst : Instance)
    (environment : Environment) :
    Option (State Instance Name × List (Gobble.Output Name Outcome)) :=
  match state.thresholds inst with
  | none => none
  | some threshold =>
      let collected := { state with
        thresholds := Function.update state.thresholds inst none }
      match environment.faults 0 with
      -- the error is logged
      | some _ => some (collected, [])
      | none =>
          if state.blocks threshold then
            none
          else
            some ({ collected with
              database := state.database.deleteBefore threshold }, [])

end Steps

end State

def system (setup : Gobble.Setup Instance Name Outcome) (worker : Worker)
    (gc : MessageGC) :
    Machine (State Instance Name) (Event Instance Name)
      (Gobble.Output Name Outcome) where
  step state event :=
    match event with
    | .queue event =>
        if alone event then state.queueStep setup worker event else none
    | .enqueue payload =>
        state.queueStep setup worker (.enqueue (Gobble.newJob payload))
    | .other statement =>
        if state.view.locked statement then
          none
        else
          some ({ state with
            database := (state.database.execute statement).2 }, [])
    | .mailer environment => state.mailerStep setup worker environment
    | .call name environment => state.callStep name environment
    | .returned name =>
        match state.programs name with
        | .ret outcome =>
            state.queueStep setup worker (.callback name outcome)
        | _ => none
    | .collect inst =>
        match state.thresholds inst with
        | none => some ({ state with
            thresholds := Function.update state.thresholds inst
              (some (gc.threshold state.queue.now)) }, [])
        | some _ => none
    | .deleteBefore inst environment => state.deleteStep inst environment

/-- A call of `Mailer.Deliver` is about to start. -/
structure State.Initial (marshal : Delivery → String) (request : Request)
    (users : List Recipient) (state : State Instance Name) : Prop where
  queue : Gobble.Initial state.queue
  transaction : state.transaction = none
  mailer : state.mailer = Mailer.deliver marshal request users
  thresholds : ∀ inst, state.thresholds inst = none

end Collecting

end Notifications.Strategies
