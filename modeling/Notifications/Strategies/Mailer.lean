import Mathlib.Data.List.AList
import Notifications.Postal.Packager

/-!
# The mailer

`Mailer.Deliver`: it makes a job for every user, then enqueues the jobs through
the queue's own connection and records each message as queued inside a
transaction, in the order in which Go iterates the map of jobs.  The error of
`Begin` is ignored, so a transaction that could not be begun is a nil pointer.
-/

set_option autoImplicit false

namespace Notifications.Strategies

open Notifications.Lib Notifications.Models Notifications.Postal

/-- `strategies.User`. -/
structure Recipient where
  guid : String
  email : String
  deriving DecidableEq, Repr

structure Response where
  status : String
  recipient : String
  notificationID : String
  deriving DecidableEq, Repr

/-- What `Deliver` is called with, apart from the users. -/
structure Request where
  options : Options
  space : Space
  organization : Organization
  clientID : String
  scope : String
  deriving DecidableEq, Repr

def sampleRequest : Request :=
  ⟨sampleOptions, ⟨"", "", ""⟩, ⟨"", ""⟩, "client", ""⟩

abbrev Jobs : Type := AList fun _ : String => Gobble.Job

namespace Mailer

variable (marshal : Delivery → String) (request : Request)

/-- The job for one user; its payload is the marshalled delivery. -/
def jobFor (user : Recipient) (messageID : String) : Gobble.Job :=
  Gobble.newJob (marshal {
    options := request.options
    userGUID := user.guid
    email := user.email
    space := request.space
    organization := request.organization
    clientID := request.clientID
    messageID := messageID
    scope := request.scope })

def responseFor (user : Recipient) (messageID : String) : Response where
  status := Status.queued.text
  recipient := if user.email = "" then user.guid else user.email
  notificationID := messageID

/-- The first loop: `jobsByMessageID` and the responses. -/
def prepare : List Recipient → Jobs → Prog (Jobs × List Response)
  | [], jobs => pure (jobs, [])
  | user :: rest, jobs => do
      match ← Program.perform (Op.service .newGUID) with
      | .error text => .panic text
      | .ok messageID =>
          let (jobs, responses) ← prepare rest
            (jobs.insert messageID (jobFor marshal request user messageID))
          pure (jobs, responseFor user messageID :: responses)

/-- The entries of the map in the order of iteration. -/
def entries (jobs : Jobs) (order : List String) :
    List (String × Gobble.Job) :=
  order.filterMap fun messageID =>
    (jobs.lookup messageID).map fun job => (messageID, job)

/-- The second loop; false when it has rolled back. -/
def queueAll : List (String × Gobble.Job) → Prog Bool
  | [] => pure true
  | (messageID, job) :: rest => do
      match ← Program.perform (Op.enqueue job) with
      | .error _ =>
          let _ ← rollback
          pure false
      | .ok _ =>
          match ← MessagesRepo.upsert .transaction
              ⟨messageID, Status.queued.text, Gobble.zeroTime⟩ with
          | (_, some _) =>
              let _ ← rollback
              pure false
          | (_, none) => queueAll rest

/-- The second half of `Deliver`, from `transaction.Begin` on. -/
def queue (jobs : Jobs) (responses : List Response) :
    Prog (List Response) := do
  let _ ← Program.perform Op.begin
  let order ← Program.perform (Op.iterate jobs.keys)
  if ← queueAll (entries jobs order.1) then
    match ← commit with
    | .error _ => pure []
    | .ok _ => pure responses
  else
    pure []

def deliver (users : List Recipient) : Prog (List Response) := do
  let (jobs, responses) ← prepare marshal request users ∅
  queue jobs responses

end Mailer

/-! ## Calls that are no statements -/

def Outside : Op → Prop
  | .sql _ _ => False
  | _ => True

theorem dereference_outside {α : Type} (reply : Reply α) :
    (dereference reply).Only Outside := by
  cases reply <;> trivial

theorem rollback_outside : rollback.Only Outside :=
  Program.only_perform trivial dereference_outside

theorem commit_outside : commit.Only Outside :=
  Program.only_perform trivial dereference_outside

/-- Before the transaction, the mailer calls for GUIDs only. -/
theorem prepare_only {allowed : Op → Prop}
    (drawn : allowed (.service .newGUID)) (marshal : Delivery → String)
    (request : Request) (users : List Recipient) (jobs : Jobs) :
    (Mailer.prepare marshal request users jobs).Only allowed := by
  induction users generalizing jobs with
  | nil => trivial
  | cons user rest ih =>
      refine Program.only_perform drawn ?_
      intro guid
      cases guid with
      | error text => trivial
      | ok messageID => exact Program.only_bind (ih _) fun _ => trivial

end Notifications.Strategies
