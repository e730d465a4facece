import Notifications.Lib.Contract
import Notifications.Postal.Unsubscription
import Notifications.Strategies.Interleaving

/-!
# What the attempts and the mailer may do to the rows

What an attempt knows about its row is a fact that no other step changes, so
its program can be checked alone, against a contract: it writes to its own row
only, and without an error its status is in the row.  The mailer's contract is
for the runs in which none of its lookups finds a row; then it only inserts.
-/

set_option autoImplicit false

namespace Notifications.Strategies

open Notifications.Lib Notifications.Models Notifications.Postal

/-- What an attempt knows about the row of its message. -/
inductive Known where
  | nothing
  | present
  | recorded (status : String)
  deriving DecidableEq, Repr

def Known.seen : Known → Known
  | nothing => present
  | known => known

/-- An attempt writes to its own row only, updates it only if it is there, and
learns from its answers. -/
def workerContract (messageID : String) : Contract Op Answer Known where
  may known op :=
    match op with
    | .sql .connection (.insert .messages row) => row.id = messageID
    | .sql .connection (.update .messages row) =>
        row.id = messageID ∧ known ≠ .nothing
    | .sql .connection (.delete .messages _) => False
    | _ => True
  possible op answer :=
    match op, answer with
    | .sql .connection (.select .messages wanted), .ok rows =>
        ∀ row ∈ rows, wanted row = true
    | _, _ => True
  learn known op answer :=
    match op, answer with
    | .sql .connection (.select .messages _), .ok rows =>
        if rows.any fun row : Message => row.id == messageID then known.seen
        else known
    | .sql .connection (.insert .messages row), .ok _ => .recorded row.status
    | .sql .connection (.update .messages row), .ok _ => .recorded row.status
    | _, _ => known

/-! ## An attempt meets its contract -/

/-- A call that has nothing to do with the messages. -/
def Foreign : Op → Prop
  | .sql _ statement => statement.table ≠ .messages
  | _ => True

section Worker

variable {messageID : String}

theorem may_of_foreign {known : Known} {op : Op} (foreign : Foreign op) :
    (workerContract messageID).may known op := by
  unfold workerContract
  dsimp only
  split
  · exact absurd rfl foreign
  · exact absurd rfl foreign
  · exact absurd rfl foreign
  · trivial

theorem learn_of_foreign {known : Known} {op : Op} (answer : Answer op)
    (foreign : Foreign op) :
    (workerContract messageID).learn known op answer = known := by
  unfold workerContract
  dsimp only
  split
  · exact absurd rfl foreign
  · exact absurd rfl foreign
  · exact absurd rfl foreign
  · rfl

theorem meets_of_foreign {α : Type} {program : Prog α}
    {done : Known → α → Prop} {known : Known}
    (foreign : program.Only Foreign) (all : ∀ value, done known value) :
    program.Meets (workerContract messageID) done known :=
  Program.meets_of_only (fun _ fine => may_of_foreign fine)
    (fun _ answer fine => learn_of_foreign answer fine) foreign all

theorem foreign_of_quiet {op : Op} (quiet : Quiet op) : Foreign op := by
  cases op with
  | sql conn statement => exact quiet.2
  | _ => trivial

theorem nowTruncated_foreign : nowTruncated.Only Foreign :=
  Program.only_perform trivial fun _ => trivial

/-- A lookup of the own row tells whether it is there. -/
theorem findByID_meets {known : Known}
    {done : Known → Message × Option Error → Prop}
    (missing : ∀ text arguments, done known
      (Table.messages.zero, some (.recordNotFound text arguments)))
    (failed : ∀ text known, done known
      (Table.messages.zero, some (.sql text)))
    (found : ∀ message, done known.seen (message, none)) :
    (MessagesRepo.findByID .connection messageID).Meets
      (workerContract messageID) done known := by
  refine Program.meets_bind (Program.meets_bind
    (Program.meets_perform trivial ?_))
  intro answer possible
  cases answer with
  | failed text => exact failed text _
  | nilPointer => exact trivial
  | ok rows =>
      match rows, possible with
      | [], _ => exact missing _ _
      | [row], possible =>
          have own : row.id = messageID := by
            simpa using possible row (by simp)
          have learned : (workerContract messageID).learn known
              (.sql .connection (.select .messages fun row : Message =>
                row.id == messageID)) (.ok [row]) = known.seen := by
            simp [workerContract, own]
          rw [learned]
          exact found row
      | _ :: _ :: _, _ => exact failed _ _

def Stored (status : String) (known : Known)
    (result : Message × Option Error) : Prop :=
  result.2 = none → known = .recorded status

theorem create_meets {known : Known} {message : Message}
    (own : message.id = messageID) :
    (MessagesRepo.create .connection message).Meets
      (workerContract messageID) (Stored message.status) known := by
  refine Program.meets_bind (meets_of_foreign nowTruncated_foreign ?_)
  intro now
  refine Program.meets_bind (Program.meets_perform own ?_)
  intro answer _
  cases answer with
  | ok inserted => exact fun _ => rfl
  | failed text => exact fun wrong => nomatch wrong
  | nilPointer => exact trivial

theorem store_meets {known : Known} {message : Message}
    (own : message.id = messageID) (there : known ≠ .nothing) :
    (MessagesRepo.store .connection message).Meets
      (workerContract messageID) (Stored message.status) known := by
  refine Program.meets_bind (Program.meets_perform ⟨own, there⟩ ?_)
  intro answer _
  cases answer with
  | failed text => exact fun wrong => nomatch wrong
  | nilPointer => exact trivial
  | ok _ =>
      subst own
      exact findByID_meets (fun _ _ wrong => nomatch wrong)
        (fun _ _ wrong => nomatch wrong) fun _ _ => rfl

theorem update_meets {known : Known} {message : Message}
    (own : message.id = messageID) (there : known ≠ .nothing) :
    (MessagesRepo.update .connection message).Meets
      (workerContract messageID) (Stored message.status) known := by
  refine Program.meets_bind (meets_of_foreign nowTruncated_foreign ?_)
  intro now
  exact store_meets own there

theorem upsert_meets (message : Message) (own : message.id = messageID) :
    (MessagesRepo.upsert .connection message).Meets
      (workerContract messageID) (Stored message.status) .nothing := by
  subst own
  refine Program.meets_bind (findByID_meets ?_ ?_ ?_)
  · intro text arguments
    exact create_meets rfl
  · intro text known wrong
    exact nomatch wrong
  · intro found
    exact update_meets rfl (by simp [Known.seen])

theorem record_meets (status : Status) :
    (Worker.record messageID status).Meets (workerContract messageID)
      (fun known result => result.2 = none →
        known = .recorded result.1.text) .nothing := by
  refine Program.meets_bind (Program.meets_bind ?_)
  exact upsert_meets ⟨messageID, status.text, Gobble.zeroTime⟩ rfl

variable [Collation] (worker : Worker)

theorem deliverMail_meets {delivery : Delivery}
    (own : delivery.messageID = messageID) :
    (worker.deliverMail delivery).Meets (workerContract messageID)
      (fun known result => result.2 = none →
        known = .recorded result.1.text) .nothing := by
  subst own
  refine Program.meets_bind (meets_of_foreign
    ((worker.pack_quiet delivery).weaken fun _ => foreign_of_quiet) ?_)
  intro packed
  cases packed with
  | error error => exact record_meets .failed
  | ok message =>
      refine Program.meets_bind (meets_of_foreign
        (Worker.sendMail_only (fun _ => trivial) message) ?_)
      exact record_meets

/-- The status that an attempt reports without an error is in the row. -/
def Reported (known : Known) (outcome : Outcome) : Prop :=
  ∀ status, outcome.recorded = some (status, none) →
    known = .recorded status.text

theorem deliverTo_meets {job : Gobble.Job} {delivery : Delivery}
    (own : delivery.messageID = messageID) :
    (worker.deliverTo job delivery).Meets (workerContract messageID)
      Reported .nothing := by
  refine Program.meets_bind (meets_of_foreign
    ((Worker.shouldDeliver_quiet delivery).weaken
      fun _ => foreign_of_quiet) ?_)
  intro decided
  cases decided with
  | false => exact fun status wrong => nomatch wrong
  | true =>
      refine Program.meets_bind
        ((deliverMail_meets worker own).weaken ?_)
      rintro known ⟨status, err⟩ recorded
      have reported (retry : Option Int) :
          Reported known ⟨retry, some (status, err)⟩ := by
        rintro final ⟨⟩
        exact recorded rfl
      dsimp only
      split
      · exact reported _
      · exact reported _

theorem deliver_meets {job : Gobble.Job} {delivery : Delivery}
    (read : worker.unmarshal job.payload = .ok delivery)
    (own : delivery.messageID = messageID) :
    (worker.deliver job).Meets (workerContract messageID) Reported
      .nothing := by
  rw [Worker.deliver, read]
  refine Program.meets_bind (meets_of_foreign
    (ReceiptsRepo.createReceipts_only trivial ?_ _ _ _) ?_)
  · intro row wrong
    cases wrong
  intro err
  cases err with
  | some error =>
      intro status wrong
      cases wrong
  | none =>
      refine Program.meets_bind (meets_of_foreign
        ((Worker.findEmail_quiet delivery).weaken
          fun _ => foreign_of_quiet) ?_)
      intro email
      cases email with
      | none =>
          intro status wrong
          cases wrong
      | some email => exact deliverTo_meets worker own

end Worker

/-! ## The mailer, when its lookups find nothing -/

/-- The mailer leaves the committed rows alone, and inserts only. -/
def mailerContract : Contract Op Answer Unit where
  may _ op :=
    match op with
    | .sql .connection _ => False
    | .sql .transaction (.update .messages _) => False
    | _ => True
  possible op answer :=
    match op, answer with
    | .sql .transaction (.select .messages _), .ok rows => rows = []
    | _, _ => True
  learn _ _ _ := ()

section Mailer

variable {α : Type} {done : Unit → α → Prop}

theorem meets_of_outside {program : Prog α} (outside : program.Only Outside)
    (all : ∀ value, done () value) :
    program.Meets mailerContract done () := by
  refine Program.meets_of_only ?_ (fun _ _ _ => rfl) outside all
  intro op fine
  cases op with
  | sql conn statement => exact fine.elim
  | _ => trivial

theorem upsert_inserts {done : Unit → Message × Option Error → Prop}
    (message : Message) (all : ∀ result, done () result) :
    (MessagesRepo.upsert .transaction message).Meets mailerContract done
      () := by
  refine Program.meets_bind (Program.meets_bind (Program.meets_bind
    (Program.meets_perform trivial ?_)))
  intro answer possible
  cases answer with
  | failed text => exact all _
  | nilPointer => exact trivial
  | ok rows =>
      have missing : rows = [] := possible
      subst missing
      refine Program.meets_bind (meets_of_outside
        (Program.only_perform trivial fun _ => trivial) ?_)
      intro now
      refine Program.meets_bind (Program.meets_perform trivial ?_)
      intro inserted _
      cases inserted with
      | ok row => exact all _
      | failed text => exact all _
      | nilPointer => exact trivial

theorem queueAll_inserts {done : Unit → Bool → Prop}
    (all : ∀ result, done () result) (entries : List (String × Gobble.Job)) :
    (Mailer.queueAll entries).Meets mailerContract done () := by
  induction entries with
  | nil => exact all true
  | cons entry rest ih =>
      have rolledBack : (do
          let _ ← rollback
          pure false : Prog Bool).Meets mailerContract done () :=
        Program.meets_bind (meets_of_outside rollback_outside fun _ => all _)
      refine Program.meets_perform trivial ?_
      intro enqueued _
      cases enqueued with
      | error text => exact rolledBack
      | ok job =>
          refine Program.meets_bind (upsert_inserts _ ?_)
          rintro ⟨stored, err⟩
          cases err with
          | some error => exact rolledBack
          | none => exact ih

theorem mailer_inserts (marshal : Delivery → String) (request : Request)
    (users : List Recipient) :
    (Mailer.deliver marshal request users).Meets mailerContract
      (fun _ _ => True) () := by
  refine Program.meets_bind (meets_of_outside
    (prepare_only trivial marshal request users ∅) ?_)
  rintro ⟨jobs, responses⟩
  refine Program.meets_perform trivial ?_
  intro begun _
  refine Program.meets_perform trivial ?_
  intro order _
  refine Program.meets_bind (queueAll_inserts ?_ _)
  intro queued
  cases queued with
  | false => exact trivial
  | true =>
      refine Program.meets_bind (meets_of_outside commit_outside ?_)
      intro committed
      cases committed <;> trivial

end Mailer

end Notifications.Strategies
