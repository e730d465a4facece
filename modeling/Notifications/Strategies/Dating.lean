import Notifications.Strategies.Contracts
import Notifications.Strategies.Queueing

/-!
# When the row of a message is written

`Mailer.Deliver` and `Deliver` both record a status with `Upsert`, which reads
the clock on its own.  The contract here is about one message: nobody writes
its row before its job is enqueued, a row that is written carries a time that
was read after that, in whole seconds, and it is updated only by who has seen
it.
-/

set_option autoImplicit false

namespace Notifications.Strategies

open Notifications.Lib Notifications.Models Notifications.Postal

structure Progress where
  /-- what the clock has shown since the job was enqueued, if it was -/
  times : Option (List Int)
  /-- the row has been seen -/
  found : Bool
  /-- the row has been written -/
  written : Bool
  /-- a transaction that has written the row is committed -/
  committed : Bool

namespace Progress

def none : Progress := ⟨.none, false, false, false⟩

/-- The job is there, and the clock has not been read since. -/
def enqueued (progress : Progress) : Progress :=
  { progress with times := some [] }

def reads (progress : Progress) (time : Int) : Progress :=
  { progress with times := progress.times.map (time :: ·) }

def sees (progress : Progress) (own : Bool) : Progress :=
  { progress with found := progress.found || own }

def writes (progress : Progress) (own : Bool) : Progress :=
  { progress with written := progress.written || own }

def closed (progress : Progress) : Progress :=
  { progress with found := false, written := false }

/-- A time that was read since the job was enqueued, in whole seconds. -/
def Dated (progress : Progress) (updatedAt : Int) : Prop :=
  ∃ times, progress.times = some times ∧
    ∃ time ∈ times, updatedAt = time - time % 1000000000

structure Follows (before after : Progress) : Prop where
  times : after.times = .none ↔ before.times = .none
  written : before.written = true → after.written = true

theorem Follows.refl (progress : Progress) : progress.Follows progress :=
  ⟨Iff.rfl, id⟩

theorem Follows.trans {first second third : Progress}
    (one : first.Follows second) (other : second.Follows third) :
    first.Follows third :=
  ⟨other.times.trans one.times, fun written => other.written
    (one.written written)⟩

theorem follows_reads (progress : Progress) (time : Int) :
    progress.Follows (progress.reads time) :=
  ⟨by simp [reads], id⟩

theorem follows_sees (progress : Progress) (own : Bool) :
    progress.Follows (progress.sees own) :=
  ⟨Iff.rfl, id⟩

theorem follows_writes (progress : Progress) (own : Bool) :
    progress.Follows (progress.writes own) :=
  ⟨Iff.rfl, fun written => by simp [writes, written]⟩

theorem dated_reads {progress : Progress} (enqueued : progress.times ≠ .none)
    (time : Int) :
    (progress.reads time).Dated (time - time % 1000000000) := by
  obtain ⟨times, read⟩ := Option.ne_none_iff_exists'.mp enqueued
  refine ⟨time :: times, ?_, time, .head _, rfl⟩
  rw [reads, read]
  rfl

end Progress

/-- What a program may do to the row of one message, whose statements go
through this connection. -/
def datingContract (carries : String → Bool) (messageID : String)
    (conn : Conn) : Contract Op Answer Progress where
  may progress op :=
    match op with
    | .sql used (.select .messages _) => used = conn
    | .sql used (.insert .messages row) =>
        used = conn ∧ (row.id = messageID → progress.Dated row.updatedAt)
    | .sql used (.update .messages row) =>
        used = conn ∧ (row.id = messageID →
          progress.Dated row.updatedAt ∧ progress.found = true)
    | .sql _ (.delete .messages _) => False
    | .enqueue job => (∃ payload, job = Gobble.newJob payload) ∧
        (carries job.payload = true → progress.times = none)
    | _ => True
  possible op answer :=
    match op, answer with
    | .sql _ (.select .messages wanted), .ok rows =>
        ∀ row ∈ rows, wanted row = true
    | _, _ => True
  learn progress op answer :=
    match op, answer with
    | .now, time => progress.reads time
    | .enqueue job, .ok _ =>
        if carries job.payload then progress.enqueued else progress
    | .sql _ (.select .messages _), .ok rows =>
        progress.sees (rows.any fun row : Message => row.id == messageID)
    | .sql _ (.insert .messages row), .ok _ =>
        progress.writes (row.id == messageID)
    | .sql _ (.update .messages row), .ok _ =>
        progress.writes (row.id == messageID)
    | .begin, _ => progress.closed
    | .commit, .ok _ => { progress.closed with
        committed := progress.committed || progress.written }
    | .commit, _ => progress.closed
    | .rollback, _ => progress.closed
    | _, _ => progress

section Programs

variable {carries : String → Bool} {messageID : String} {conn : Conn}
  {progress : Progress}

/-! ## Calls about other things -/

/-- A call that has nothing to do with messages, jobs or transactions. -/
def Beside : Op → Prop
  | .sql _ statement => statement.table ≠ .messages
  | .now => True
  | .service _ => True
  | .iterate _ => True
  | _ => False

theorem beside_of_quiet {op : Op} (quiet : Quiet op) : Beside op := by
  cases op with
  | sql used statement => exact quiet.2
  | now => trivial
  | service service => trivial
  | iterate keys => trivial
  | _ => exact quiet

theorem may_of_beside {op : Op} (beside : Beside op) :
    (datingContract carries messageID conn).may progress op := by
  cases op with
  | sql used statement =>
      cases statement with
      | select table wanted =>
          cases table with
          | messages => exact absurd rfl beside
          | _ => trivial
      | insert table row =>
          cases table with
          | messages => exact absurd rfl beside
          | _ => trivial
      | update table row =>
          cases table with
          | messages => exact absurd rfl beside
          | _ => trivial
      | delete table row =>
          cases table with
          | messages => exact absurd rfl beside
          | _ => trivial
      | _ => trivial
  | enqueue job => exact beside.elim
  | _ => trivial

theorem learn_of_beside {op : Op} (answer : Answer op) (beside : Beside op) :
    progress.Follows
      ((datingContract carries messageID conn).learn progress op answer) := by
  unfold datingContract
  dsimp only
  split
  · exact progress.follows_reads _
  · exact beside.elim
  · exact absurd rfl beside
  · exact absurd rfl beside
  · exact absurd rfl beside
  · exact beside.elim
  · exact beside.elim
  · exact beside.elim
  · exact beside.elim
  · exact .refl progress

theorem meets_beside {α : Type} {program : Prog α}
    {done : Progress → α → Prop} (beside : program.Only Beside)
    (all : ∀ after value, progress.Follows after → done after value) :
    program.Meets (datingContract carries messageID conn) done progress :=
  Program.meets_of_kept (fun _ _ _ fine => may_of_beside fine)
    (fun _ _ answer kept fine => kept.trans (learn_of_beside answer fine))
    beside (.refl progress) all

/-! ## Recording a status -/

theorem findByID_dated (id : String) :
    (MessagesRepo.findByID conn id).Meets
      (datingContract carries messageID conn)
      (fun after result => progress.Follows after ∧
        (result.2 = none → id = messageID → after.found = true))
      progress := by
  refine Program.meets_bind (Program.meets_bind
    (Program.meets_perform (rfl : conn = conn) ?_))
  intro answer possible
  cases answer with
  | failed text => exact ⟨.refl progress, fun wrong => by cases wrong⟩
  | nilPointer => exact trivial
  | ok rows =>
      match rows, possible with
      | [], _ =>
          exact ⟨progress.follows_sees _, fun wrong => by cases wrong⟩
      | [row], possible =>
          have own : row.id = id := by
            simpa using possible row (by simp)
          refine ⟨progress.follows_sees _, ?_⟩
          intro _ same
          simp [datingContract, Progress.sees, own, same]
      | _ :: _ :: _, _ =>
          exact ⟨progress.follows_sees _, fun wrong => by cases wrong⟩

/-- Without an error, the row of this message has been written. -/
def Written (messageID id : String) (progress after : Progress)
    (result : Message × Option Error) : Prop :=
  progress.Follows after ∧
    (result.2 = none → id = messageID → after.written = true)

theorem create_dated {message : Message}
    (enqueued : message.id = messageID → progress.times ≠ none) :
    (MessagesRepo.create conn message).Meets
      (datingContract carries messageID conn)
      (Written messageID message.id progress) progress := by
  refine Program.meets_bind (Program.meets_bind
    (Program.meets_perform trivial ?_))
  intro now _
  refine Program.meets_bind (Program.meets_perform ⟨rfl, ?_⟩ ?_)
  · intro own
    exact Progress.dated_reads (enqueued own) now
  · intro answer _
    have read := progress.follows_reads now
    cases answer with
    | failed text => exact ⟨read, fun wrong => by cases wrong⟩
    | nilPointer => exact trivial
    | ok inserted =>
        refine ⟨read.trans (Progress.follows_writes _ _), ?_⟩
        intro _ own
        simp [datingContract, Progress.writes, own]

theorem update_dated {message : Message}
    (enqueued : message.id = messageID → progress.times ≠ none)
    (found : message.id = messageID → progress.found = true) :
    (MessagesRepo.update conn message).Meets
      (datingContract carries messageID conn)
      (Written messageID message.id progress) progress := by
  refine Program.meets_bind (Program.meets_bind
    (Program.meets_perform trivial ?_))
  intro now _
  refine Program.meets_bind (Program.meets_perform ⟨rfl, ?_⟩ ?_)
  · intro own
    exact ⟨Progress.dated_reads (enqueued own) now, found own⟩
  · intro answer _
    have read := progress.follows_reads now
    cases answer with
    | failed text => exact ⟨read, fun wrong => by cases wrong⟩
    | nilPointer => exact trivial
    | ok _ =>
        refine (findByID_dated message.id).weaken ?_
        intro after result looked
        have wrote := read.trans
          (Progress.follows_writes _ (message.id == messageID))
        refine ⟨wrote.trans looked.1, ?_⟩
        intro _ own
        apply looked.1.written
        simp [datingContract, Progress.writes, own]

theorem upsert_dated (message : Message)
    (enqueued : message.id = messageID → progress.times ≠ none) :
    (MessagesRepo.upsert conn message).Meets
      (datingContract carries messageID conn)
      (Written messageID message.id progress) progress := by
  refine Program.meets_bind ((findByID_dated message.id).weaken ?_)
  intro seen result looked
  have still : message.id = messageID → seen.times ≠ none := by
    intro own unset
    exact enqueued own (looked.1.times.mp unset)
  obtain ⟨row, err⟩ := result
  split
  · refine (create_dated still).weaken ?_
    intro after stored written
    exact ⟨looked.1.trans written.1, written.2⟩
  · rename_i same
    cases same
    refine (update_dated still (looked.2 rfl)).weaken ?_
    intro after stored written
    exact ⟨looked.1.trans written.1, written.2⟩
  · refine ⟨looked.1, ?_⟩
    intro wrong
    cases wrong

end Programs

/-! ## An attempt -/

/-- The payload is the delivery of this message. -/
def isFor (worker : Worker) (messageID payload : String) : Bool :=
  Mailer.decodedID worker.unmarshal payload == some messageID

/-- The job is retried as `DeliveryWorker.retry` does, or not at all. -/
def Retries (job : Gobble.Job) (outcome : Outcome) : Prop :=
  outcome.retry = none ∨ outcome.retry = retry job

variable [Collation]

section Attempt

variable {carries : String → Bool} {messageID : String} {progress : Progress}
  (worker : Worker)

omit [Collation] in
theorem record_dated {id : String} (status : Status)
    {done : Progress → Status × Option Error → Prop}
    (enqueued : id = messageID → progress.times ≠ none)
    (all : ∀ after result, done after result) :
    (Worker.record id status).Meets
      (datingContract carries messageID .connection) done progress := by
  refine Program.meets_bind (Program.meets_bind ?_)
  refine (upsert_dated ⟨id, status.text, Gobble.zeroTime⟩ enqueued).weaken ?_
  intro after result _
  exact all after _

theorem deliverMail_dated {delivery : Delivery}
    {done : Progress → Status × Option Error → Prop}
    (enqueued : delivery.messageID = messageID → progress.times ≠ none)
    (all : ∀ after result, done after result) :
    (worker.deliverMail delivery).Meets
      (datingContract carries messageID .connection) done progress := by
  have still : ∀ {after : Progress}, progress.Follows after →
      delivery.messageID = messageID → after.times ≠ none := by
    intro after follows own unset
    exact enqueued own (follows.times.mp unset)
  refine Program.meets_bind (meets_beside
    ((worker.pack_quiet delivery).weaken fun _ => beside_of_quiet) ?_)
  intro packing packed packs
  cases packed with
  | error error => exact record_dated .failed (still packs) all
  | ok message =>
      refine Program.meets_bind (meets_beside
        (Worker.sendMail_only (fun _ => trivial) message) ?_)
      intro sending status sends
      exact record_dated status (still (packs.trans sends)) all

theorem deliverTo_dated {job : Gobble.Job} {delivery : Delivery}
    (enqueued : delivery.messageID = messageID → progress.times ≠ none) :
    (worker.deliverTo job delivery).Meets
      (datingContract carries messageID .connection)
      (fun _ outcome => Retries job outcome) progress := by
  refine Program.meets_bind (meets_beside
    ((Worker.shouldDeliver_quiet delivery).weaken fun _ => beside_of_quiet) ?_)
  intro deciding decided decides
  cases decided with
  | false => exact .inl rfl
  | true =>
      refine Program.meets_bind (deliverMail_dated worker ?_ ?_)
      · intro own unset
        exact enqueued own (decides.times.mp unset)
      · intro after result
        dsimp only
        split
        · exact .inr rfl
        · exact .inl rfl

theorem deliver_dated {job : Gobble.Job}
    (enqueued : isFor worker messageID job.payload = true →
      progress.times ≠ none) :
    (worker.deliver job).Meets (datingContract carries messageID .connection)
      (fun _ outcome => Retries job outcome) progress := by
  cases read : worker.unmarshal job.payload with
  | error text =>
      rw [Worker.deliver, read]
      exact .inr rfl
  | ok delivery =>
      have own : delivery.messageID = messageID → progress.times ≠ none := by
        intro own
        apply enqueued
        simp only [isFor, Mailer.decodedID, read, own, beq_self_eq_true]
      rw [Worker.deliver, read]
      refine Program.meets_bind (meets_beside
        (ReceiptsRepo.createReceipts_only trivial ?_ _ _ _) ?_)
      · intro row wrong
        cases wrong
      intro counting err counts
      cases err with
      | some error => exact .inr rfl
      | none =>
          refine Program.meets_bind (meets_beside
            ((Worker.findEmail_quiet delivery).weaken
              fun _ => beside_of_quiet) ?_)
          intro finding email finds
          cases email with
          | none => exact .inr rfl
          | some email =>
              apply deliverTo_dated
              intro same unset
              exact own same ((counts.trans finds).times.mp unset)

end Attempt

/-! ## The mailer -/

section Mailer

variable {carries : String → Bool} {messageID : String} {progress : Progress}

omit [Collation] in
theorem rolledBack_dated {done : Progress → Bool → Prop}
    (all : ∀ after, done after false) :
    (do
      let _ ← rollback
      pure false : Prog Bool).Meets
        (datingContract carries messageID .transaction) done progress := by
  refine Program.meets_bind (Program.meets_perform trivial ?_)
  intro answer _
  cases answer with
  | nilPointer => exact trivial
  | _ => exact all _

omit [Collation] in
/-- The second loop: when it is through, it has written the row of the message
if the message is among its entries. -/
theorem queueAll_dated (entries : List (String × Gobble.Job))
    (new : ∀ entry ∈ entries, ∃ payload, entry.2 = Gobble.newJob payload)
    (own : ∀ entry ∈ entries,
      carries entry.2.payload = true ↔ entry.1 = messageID)
    (distinct : (entries.map Prod.fst).Nodup)
    (first : messageID ∈ entries.map Prod.fst → progress.times = none) :
    (Mailer.queueAll entries).Meets
      (datingContract carries messageID .transaction)
      (fun after queued => queued = true →
        (progress.written = true ∨ messageID ∈ entries.map Prod.fst) →
        after.written = true) progress := by
  induction entries generalizing progress with
  | nil =>
      intro _ there
      rcases there with written | missing
      · exact written
      · cases missing
  | cons entry rest ih =>
      obtain ⟨id, job⟩ := entry
      obtain ⟨fresh, others⟩ := List.nodup_cons.mp distinct
      have mine : carries job.payload = true ↔ id = messageID :=
        own (id, job) (.head rest)
      refine Program.meets_perform ⟨new (id, job) (.head rest), ?_⟩ ?_
      · intro carried
        apply first
        rw [← mine.mp carried]
        exact .head _
      intro enqueued _
      cases enqueued with
      | error text => exact rolledBack_dated fun after wrong => by cases wrong
      | ok inserted =>
          generalize learnt : (datingContract carries messageID
            .transaction).learn progress (.enqueue job) (.ok inserted) = queued
          have learns : queued = if carries job.payload then
              progress.enqueued else progress := learnt.symm
          have kept : progress.written = true → queued.written = true := by
            intro written
            rw [learns]
            split
            · exact written
            · exact written
          refine Program.meets_bind ((upsert_dated _ ?_).weaken ?_)
          · intro same
            rw [learns, if_pos (mine.mpr same)]
            intro wrong
            cases wrong
          intro after result recorded
          obtain ⟨stored, err⟩ := result
          cases err with
          | some error =>
              exact rolledBack_dated fun after wrong => by cases wrong
          | none =>
              refine (ih ?_ ?_ others ?_).weaken ?_
              · intro other member
                exact new other (.tail _ member)
              · intro other member
                exact own other (.tail _ member)
              · intro member
                have different : ¬ carries job.payload = true := by
                  intro carried
                  apply fresh
                  rw [← mine.mp carried] at member
                  exact member
                apply recorded.1.times.mpr
                rw [learns, if_neg different]
                exact first (.tail _ member)
              · intro last result continued through there
                apply continued through
                rcases there with written | member
                · exact .inl (recorded.1.written (kept written))
                · rcases List.mem_cons.mp member with same | later
                  · exact .inl (recorded.2 rfl same.symm)
                  · exact .inr later

variable {marshal : Delivery → String} {request : Request}

/-- What the first loop leaves: the jobs are for users, and every response has
one. -/
structure Prepared (marshal : Delivery → String) (request : Request)
    (users : List Recipient) (before : Jobs) (jobs : Jobs)
    (responses : List Response) : Prop where
  made : ∀ id job, jobs.lookup id = some job →
    before.lookup id = some job ∨
      ∃ user ∈ users, job = Mailer.jobFor marshal request user id
  kept : ∀ id ∈ before, id ∈ jobs
  answered : ∀ id ∈ responses.map Response.notificationID, id ∈ jobs

omit [Collation] in
theorem prepare_dated (users : List Recipient) (before : Jobs) :
    (Mailer.prepare marshal request users before).Meets
      (datingContract carries messageID .transaction)
      (fun after result => after = progress ∧
        Prepared marshal request users before result.1 result.2)
      progress := by
  induction users generalizing before with
  | nil => exact ⟨rfl, fun _ _ found => .inl found, fun _ member => member,
      fun _ wrong => by cases wrong⟩
  | cons user rest ih =>
      refine Program.meets_perform trivial ?_
      intro guid _
      cases guid with
      | error text => exact trivial
      | ok id =>
          refine Program.meets_bind ((ih _).weaken ?_)
          intro after result prepared
          obtain ⟨jobs, responses⟩ := result
          obtain ⟨same, made, kept, answered⟩ := prepared
          refine ⟨same, ?_, ?_, ?_⟩
          · intro other job found
            rcases made other job found with old | ⟨later, member, rfl⟩
            · by_cases equal : other = id
              · rw [equal, AList.lookup_insert, Option.some.injEq] at old
                rw [equal, ← old]
                exact .inr ⟨user, .head rest, rfl⟩
              · rw [AList.lookup_insert_ne equal] at old
                exact .inl old
            · exact .inr ⟨later, .tail user member, rfl⟩
          · intro other member
            exact kept other (AList.mem_insert _ |>.mpr (.inr member))
          · intro other member
            rcases List.mem_cons.mp member with equal | later
            · rw [equal]
              exact kept id (AList.mem_insert _ |>.mpr (.inl rfl))
            · exact answered other later

omit [Collation] in
/-- The responses come with the commit of their rows. -/
theorem mailer_dated (users : List Recipient)
    (decodes : ∀ user ∈ users, ∀ id,
      carries (marshal (Mailer.deliveryFor request user id)) = true ↔
        id = messageID) :
    (Mailer.deliver marshal request users).Meets
      (datingContract carries messageID .transaction)
      (fun after responses =>
        messageID ∈ responses.map Response.notificationID →
        after.committed = true) .none := by
  refine Program.meets_bind ((prepare_dated users ∅).weaken ?_)
  intro _ result prepared
  obtain ⟨jobs, responses⟩ := result
  obtain ⟨rfl, made, _, answered⟩ := prepared
  refine Program.meets_perform trivial ?_
  intro begun _
  refine Program.meets_perform trivial ?_
  intro order _
  have keys : (Mailer.entries jobs order.1).map Prod.fst = order.1 :=
    Mailer.entries_ids fun id member =>
      AList.mem_keys.mpr (order.2.mem_iff.mp member)
  have forUser : ∀ entry ∈ Mailer.entries jobs order.1,
      ∃ user ∈ users, entry.2 =
        Mailer.jobFor marshal request user entry.1 := by
    intro entry member
    rcases made entry.1 entry.2 (Mailer.lookup_of_mem_entries member) with
      old | found
    · cases old
    · exact found
  refine Program.meets_bind ((queueAll_dated _ ?_ ?_ ?_ ?_).weaken ?_)
  · intro entry member
    obtain ⟨user, _, same⟩ := forUser entry member
    exact ⟨_, same⟩
  · intro entry member
    obtain ⟨user, isUser, same⟩ := forUser entry member
    rw [same, Mailer.jobFor_payload]
    exact decodes user isUser entry.1
  · rw [keys]
    exact order.2.nodup_iff.mpr jobs.keys_nodup
  · intro _
    rfl
  · intro after queued through
    cases queued with
    | false =>
        intro wrong
        cases wrong
    | true =>
        refine Program.meets_bind (Program.meets_perform trivial ?_)
        intro answer _
        cases answer with
        | nilPointer => exact trivial
        | failed text =>
            intro wrong
            cases wrong
        | ok _ =>
            intro member
            have inOrder : messageID ∈ order.1 :=
              order.2.mem_iff.mpr (AList.mem_keys.mp (answered _ member))
            have wrote := through rfl (.inr (by rw [keys]; exact inOrder))
            simp [datingContract, wrote]

end Mailer

end Notifications.Strategies
