import Notifications.Postal.Attempts

/-!
# Which statuses a removed job leaves behind

`updateMessageStatus` is called in `deliver` only, and a job can leave the
queue without an attempt that gets there: the user has unsubscribed or has no
usable address, or the last retry ends at one of the earlier exits.  If every
job is removed by an attempt that got to `deliver`, or after one that did, no
removed job has a message that is still queued.
-/

set_option autoImplicit false

namespace Notifications.Postal.Attempts

open Notifications.Lib Notifications.Models

section Collated

variable [Collation]

/-- The status of the message is still `queued`. -/
def Queued (database : Database) (messageID : String) : Prop :=
  ∃ row ∈ database.tables.rows .messages,
    row.id = messageID ∧ row.status = Status.queued.text

instance (database : Database) (messageID : String) :
    Decidable (Queued database messageID) :=
  inferInstanceAs (Decidable (∃ row ∈ _, _))

/-- The message of a removed job is not queued any more. -/
def TerminalReported (state : State) : Prop :=
  ∀ messageID ∈ state.history.removed, ¬ Queued state.database messageID

/-- An attempt that has returned from `Deliver`. -/
structure Returned where
  job : Gobble.Job
  course : Course
  outcome : Outcome

def State.finishing (state : State) : Event → Option Returned
  | .finish name _ =>
      match state.workers name with
      | .delivering job course (.ret outcome) => some ⟨job, course, outcome⟩
      | _ => none
  | _ => none

/-- The row that a statement writes to `messages`. -/
def writtenMessage : Statement → Option Message
  | .insert .messages row => some row
  | .update .messages row => some row
  | _ => none

def Event.writtenMessage : Event → Option Message
  | .other statement => Attempts.writtenMessage statement
  | _ => none

/-- The status that the attempt wants to record is recorded. -/
def StatusUpserted (state : State) (event : Event) : Prop :=
  ∀ ended ∈ state.finishing event,
    ∀ recorded ∈ ended.outcome.recorded, recorded.2 = none

/-- A job that is removed can be read, and is removed by an attempt that got to
`deliver`, or after an attempt for its message that did. -/
def HandedOver (worker : Worker) (state : State) (event : Event) : Prop :=
  ∀ ended ∈ state.finishing event,
    dequeued ended.job ended.outcome state.jobs = true →
      ∃ delivery ∈ worker.delivery ended.job, ended.course = .handed ∨
        delivery.messageID ∈ state.history.handled

/-- The mailer's own status is committed before an attempt gets to
`deliver`. -/
def QueuedFirst (state : State) (event : Event) : Prop :=
  ∀ row ∈ event.writtenMessage, row.status = Status.queued.text →
    row.id ∉ state.history.reached

instance (state : State) (event : Event) :
    Decidable (StatusUpserted state event) :=
  inferInstanceAs (Decidable (∀ ended ∈ state.finishing event,
    ∀ recorded ∈ ended.outcome.recorded, recorded.2 = none))

instance (worker : Worker) (state : State) (event : Event) :
    Decidable (HandedOver worker state event) :=
  inferInstanceAs (Decidable (∀ ended ∈ state.finishing event,
    dequeued ended.job ended.outcome state.jobs = true →
      ∃ delivery ∈ worker.delivery ended.job, ended.course = .handed ∨
        delivery.messageID ∈ state.history.handled))

instance (state : State) (event : Event) :
    Decidable (QueuedFirst state event) :=
  inferInstanceAs (Decidable (∀ row ∈ event.writtenMessage,
    row.status = Status.queued.text → row.id ∉ state.history.reached))

/-! ## What statements do to the statuses -/

section Statements

variable {database : Database} {statement : Statement} {messageID : String}

theorem queued_execute
    (queued : Queued (database.execute statement).2 messageID) :
    Queued database messageID ∨
      ∃ row, writtenMessage statement = some row ∧ row.id = messageID ∧
        row.status = Status.queued.text := by
  obtain ⟨row, member, named, status⟩ := queued
  by_cases other : statement.table = .messages
  · cases statement with
    | select table wanted => exact .inl ⟨row, member, named, status⟩
    | insert table written =>
        cases other
        simp only [Database.execute, Statement.execute] at member
        split at member
        · exact .inl ⟨row, member, named, status⟩
        · simp only [Tables.insert, Tables.bump_rows, Tables.set_rows_same,
            List.mem_append, List.mem_singleton] at member
          rcases member with old | new
          · exact .inl ⟨row, old, named, status⟩
          · exact .inr ⟨row, by rw [new]; rfl, named, status⟩
    | update table written =>
        cases other
        simp only [Database.execute, Statement.execute] at member
        split at member
        · exact .inl ⟨row, member, named, status⟩
        · simp only [Tables.update, Tables.set_rows_same] at member
          rcases mem_updateWhere.mp member with
            ⟨old, _⟩ | ⟨_, _, _, rfl⟩
          · exact .inl ⟨row, old, named, status⟩
          · exact .inr ⟨_, rfl, named, status⟩
    | delete table deleted =>
        cases other
        simp only [Database.execute, Statement.execute, Tables.delete,
          Tables.set_rows_same] at member
        exact .inl ⟨row, (mem_deleteWhere.mp member).1, named, status⟩
    | upsertReceipt receipt => cases other
    | selectPreferences userGUID => cases other
  · have same := Statement.execute_other statement database.tables
      (Ne.symm other)
    exact .inl ⟨row, by rwa [← same], named, status⟩

/-- After a write that succeeds the row has the written status. -/
theorem not_queued_of_written {row : Message}
    (written : writtenMessage statement = some row)
    (own : row.id = messageID) (status : row.status ≠ Status.queued.text)
    (success : (database.execute statement).1.isOk = true) :
    ¬ Queued (database.execute statement).2 messageID := by
  rintro ⟨other, member, named, queued⟩
  have same : other = row := by
    cases statement with
    | insert table inserted =>
        cases table with
        | messages =>
            cases written
            simp only [Database.execute, Statement.execute] at success member
            split at success
            · cases success
            · rename_i free
              rw [if_neg free] at member
              simp only [Tables.insert, Tables.bump_rows,
                Tables.set_rows_same, List.mem_append,
                List.mem_singleton] at member
              rcases member with old | new
              · have clash := Tables.not_clashes.mp
                  (by simpa using free) other old
                simp [Table.uniqueKey, named, own] at clash
              · exact new
        | _ => cases written
    | update table updated =>
        cases table with
        | messages =>
            cases written
            simp only [Database.execute, Statement.execute] at success member
            split at success
            · cases success
            · rename_i free
              rw [if_neg free] at member
              simp only [Tables.update, Tables.set_rows_same] at member
              rcases mem_updateWhere.mp member with
                ⟨_, miss⟩ | ⟨_, _, _, rfl⟩
              · simp [Tables.hits, Table.primaryKey, named, own] at miss
              · rfl
        | _ => cases written
    | _ => cases written
  exact status (same ▸ queued)

end Statements

/-! ## The calls of an attempt -/

/-- What an attempt knows: where it is going, and whether its status is in the
row. -/
structure Knowledge where
  course : Course
  wrote : Bool

def stores : (op : Op) → Answer op → Bool
  | .sql _ statement, .ok _ => (writtenMessage statement).isSome
  | _, _ => false

/-- An attempt writes to its own row only, in `deliver` only, and never that
it is queued. -/
def statusContract (delivery : Delivery) : Contract Op Answer Knowledge where
  may known op :=
    match op with
    | .sql _ statement => ∀ row ∈ writtenMessage statement,
        row.id = delivery.messageID ∧ row.status ≠ Status.queued.text ∧
          known.course = .handed
    | _ => True
  possible _ _ := True
  learn known op answer :=
    ⟨known.course.after (some delivery) op answer,
      known.wrote || stores op answer⟩

/-- An attempt that got to `deliver` has a status, which is in the row unless
there was an error; the others have none. -/
structure Concluded (known : Knowledge) (outcome : Outcome) : Prop where
  silent : known.course ≠ .handed → outcome.recorded = none
  reports : known.course = .handed → ∃ status err,
    outcome.recorded = some (status, err) ∧
      (err = none → known.wrote = true)

def Unwritten : Op → Prop
  | .sql _ statement => writtenMessage statement = none
  | _ => True

omit [Collation] in
theorem unwritten_of_quiet {op : Op} (quiet : Quiet op) : Unwritten op := by
  cases op with
  | sql conn statement =>
      cases statement with
      | select table wanted => rfl
      | selectPreferences userGUID => rfl
      | upsertReceipt receipt => rfl
      | delete table row => rfl
      | insert table row => cases quiet.1
      | update table row => cases quiet.1
  | _ => trivial

section Deliver

variable {delivery : Delivery} {wrote : Bool} {α : Type}

omit [Collation] in
theorem may_of_unwritten {known : Knowledge} {op : Op}
    (unwritten : Unwritten op) : (statusContract delivery).may known op := by
  cases op with
  | sql conn statement =>
      have nothing : writtenMessage statement = none := unwritten
      simp [statusContract, nothing]
  | _ => trivial

omit [Collation] in
theorem stores_of_unwritten {op : Op} (unwritten : Unwritten op)
    (answer : Answer op) : stores op answer = false := by
  cases op with
  | sql conn statement =>
      have nothing : writtenMessage statement = none := unwritten
      cases answer <;> simp [stores, nothing]
  | _ => rfl

omit [Collation] in
/-- Once it is handed over, an attempt learns from its writes only. -/
theorem meets_of_unwritten {program : Prog α} {done : Knowledge → α → Prop}
    (unwritten : program.Only Unwritten)
    (all : ∀ value, done ⟨.handed, wrote⟩ value) :
    program.Meets (statusContract delivery) done ⟨.handed, wrote⟩ := by
  refine Program.meets_of_only (fun _ => may_of_unwritten) ?_ unwritten all
  intro op answer fine
  simp [statusContract, Course.after, stores_of_unwritten fine]

omit [Collation] in
theorem sql_meets {statement : Statement} {row : Message}
    {done : Knowledge → Except Error statement.Result → Prop}
    (written : writtenMessage statement = some row)
    (own : row.id = delivery.messageID)
    (status : row.status ≠ Status.queued.text)
    (success : ∀ value, done ⟨.handed, true⟩ (.ok value))
    (failure : ∀ error, done ⟨.handed, wrote⟩ (.error error)) :
    (sql .connection statement).Meets (statusContract delivery) done
      ⟨.handed, wrote⟩ := by
  refine Program.meets_perform ?_ ?_
  · intro other member
    rw [written] at member
    cases member
    exact ⟨own, status, rfl⟩
  · intro answer _
    cases answer with
    | ok value =>
        have learned : (statusContract delivery).learn ⟨.handed, wrote⟩
            (.sql .connection statement) (.ok value) = ⟨.handed, true⟩ := by
          simp [statusContract, Course.after, stores, written]
        rw [learned]
        exact success value
    | failed text =>
        have learned : (statusContract delivery).learn ⟨.handed, wrote⟩
            (.sql .connection statement) (.failed text) =
              ⟨.handed, wrote⟩ := by
          simp [statusContract, Course.after, stores]
        rw [learned]
        exact failure _
    | nilPointer => exact trivial

def Noted {β : Type} (known : Knowledge) (result : β × Option Error) : Prop :=
  known.course = .handed ∧ (result.2 = none → known.wrote = true)

omit [Collation] in
theorem findByID_unwritten (messageID : String) :
    (MessagesRepo.findByID .connection messageID).Only Unwritten := by
  refine Program.only_bind (selectOne_only rfl) ?_
  rintro ⟨message, err⟩
  cases err <;> exact trivial

omit [Collation] in
theorem create_noted {message : Message}
    (own : message.id = delivery.messageID)
    (status : message.status ≠ Status.queued.text) :
    (MessagesRepo.create .connection message).Meets
      (statusContract delivery) Noted ⟨.handed, wrote⟩ := by
  refine Program.meets_bind (meets_of_unwritten
    (nowTruncated_only trivial) ?_)
  intro now
  refine Program.meets_bind (sql_meets rfl own status ?_ ?_)
  · intro inserted
    exact ⟨rfl, fun _ => rfl⟩
  · intro error
    exact ⟨rfl, by simp⟩

omit [Collation] in
theorem update_noted {message : Message}
    (own : message.id = delivery.messageID)
    (status : message.status ≠ Status.queued.text) :
    (MessagesRepo.update .connection message).Meets
      (statusContract delivery) Noted ⟨.handed, wrote⟩ := by
  refine Program.meets_bind (meets_of_unwritten
    (nowTruncated_only trivial) ?_)
  intro now
  refine Program.meets_bind (sql_meets rfl own status ?_ ?_)
  · intro _
    exact meets_of_unwritten (findByID_unwritten _) fun _ =>
      ⟨rfl, fun _ => rfl⟩
  · intro error
    exact ⟨rfl, by simp⟩

omit [Collation] in
theorem record_noted {status : Status} (settled : status ≠ .queued) :
    (Worker.record delivery.messageID status).Meets (statusContract delivery)
      Noted ⟨.handed, wrote⟩ := by
  have named : status.text ≠ Status.queued.text := by
    cases status with
    | queued => exact absurd rfl settled
    | _ => decide
  refine Program.meets_bind (Program.meets_bind (Program.meets_bind
    (meets_of_unwritten (findByID_unwritten _) ?_)))
  rintro ⟨found, err⟩
  have written : (MessagesRepo.create .connection
      ⟨delivery.messageID, status.text, Gobble.zeroTime⟩).Meets
        (statusContract delivery) Noted ⟨.handed, wrote⟩ :=
    create_noted rfl named
  have updated : (MessagesRepo.update .connection
      ⟨delivery.messageID, status.text, Gobble.zeroTime⟩).Meets
        (statusContract delivery) Noted ⟨.handed, wrote⟩ :=
    update_noted rfl named
  dsimp only
  split
  · exact written
  · exact updated
  · exact ⟨rfl, by simp⟩

omit [Collation] in
/-- The mail client's answers are never read as queued. -/
theorem sendMail_meets (message : Mail.Message) :
    (Worker.sendMail message).Meets (statusContract delivery)
      (fun known status => known = ⟨.handed, wrote⟩ ∧ status ≠ .queued)
      ⟨.handed, wrote⟩ := by
  have learned {service : Service} (answer : service.Reply) :
      (statusContract delivery).learn ⟨.handed, wrote⟩ (.service service)
        answer = ⟨.handed, wrote⟩ := by
    simp [statusContract, Course.after, stores]
  refine Program.meets_perform trivial ?_
  intro connected _
  rw [learned]
  cases connected with
  | error text => exact ⟨rfl, by decide⟩
  | ok _ =>
      refine Program.meets_perform trivial ?_
      intro sent _
      rw [learned]
      cases sent with
      | error text => exact ⟨rfl, by decide⟩
      | ok _ => exact ⟨rfl, by decide⟩

theorem deliverMail_noted (worker : Worker) {packed : Delivery}
    (same : packed.messageID = delivery.messageID) :
    (worker.deliverMail packed).Meets (statusContract delivery) Noted
      ⟨.handed, wrote⟩ := by
  rw [Worker.deliverMail, same]
  refine Program.meets_bind (meets_of_unwritten
    ((worker.pack_quiet packed).weaken fun _ => unwritten_of_quiet) ?_)
  intro result
  cases result with
  | error error => exact record_noted (by decide)
  | ok message =>
      refine Program.meets_bind ((sendMail_meets message).weaken ?_)
      rintro known status ⟨rfl, settled⟩
      exact record_noted settled

/-! ## On the way to `deliver` -/

def going (address : String) : Knowledge := ⟨.going address, false⟩

def Decided (known : Knowledge) (decided : Bool) : Prop :=
  known = ⟨if decided then .handed else .stopped, false⟩

variable {address : String}

theorem isCritical_meets (kindID clientID : String) :
    (Worker.isCritical kindID clientID).Meets (statusContract delivery)
      (fun known critical => known =
        if critical then ⟨.handed, false⟩ else going address)
      (going address) := by
  refine Program.meets_bind (Program.meets_bind (Program.meets_bind
    (Program.meets_perform (may_of_unwritten rfl) ?_)))
  intro answer _
  cases answer with
  | failed text => exact rfl
  | nilPointer => exact trivial
  | ok rows =>
      rcases rows with _ | ⟨kind, _ | ⟨_, _⟩⟩
      · exact rfl
      · show (⟨if kind.critical then .handed else .going address, false⟩ :
          Knowledge) = if kind.critical then ⟨.handed, false⟩
            else going address
        cases kind.critical <;> rfl
      · exact rfl

theorem globalUnsubscribes_meets (userGUID : String) :
    (GlobalUnsubscribesRepo.get .connection userGUID).Meets
      (statusContract delivery)
      (fun known result => known = if result = (false, none) then going address
        else ⟨.stopped, false⟩)
      (going address) := by
  refine Program.meets_bind (Program.meets_bind
    (Program.meets_perform (may_of_unwritten rfl) ?_))
  intro answer _
  cases answer with
  | failed text => exact rfl
  | nilPointer => exact trivial
  | ok rows =>
      rcases rows with _ | ⟨row, _ | ⟨_, _⟩⟩
      · exact rfl
      · exact rfl
      · exact rfl

theorem shouldDeliver_meets {read : Delivery}
    (named : read.email = address) :
    (Worker.shouldDeliver read).Meets (statusContract delivery) Decided
      (going address) := by
  refine Program.meets_bind ((isCritical_meets _ _).weaken ?_)
  intro known critical learned
  cases critical with
  | true => exact learned
  | false =>
      have onward : known = going address := learned
      subst onward
      refine Program.meets_bind ((globalUnsubscribes_meets _).weaken ?_)
      rintro known ⟨unsubscribed, err⟩ learned
      subst learned
      cases err with
      | some error =>
          cases unsubscribed <;> exact rfl
      | none =>
          cases unsubscribed with
          | true => exact rfl
          | false =>
              refine Program.meets_bind (Program.meets_bind
                (Program.meets_bind
                  (Program.meets_perform (may_of_unwritten rfl) ?_)))
              intro answer _
              cases answer with
              | failed text => exact rfl
              | nilPointer => exact trivial
              | ok rows =>
                  rcases rows with _ | ⟨row, _ | ⟨_, _⟩⟩
                  · subst named
                    exact rfl
                  · exact rfl
                  · exact rfl

omit [Collation] in
theorem findEmail_meets :
    (Worker.findEmail delivery).Meets (statusContract delivery)
      (fun known found => known = match found with
        | some email => going email
        | none => ⟨.stopped, false⟩)
      (going delivery.email) := by
  unfold Worker.findEmail
  split
  · rename_i empty
    refine Program.meets_perform trivial ?_
    intro token _
    cases token with
    | error error => exact rfl
    | ok token =>
        refine Program.meets_bind (Program.meets_perform trivial ?_)
        intro users _
        cases users with
        | error failure => exact rfl
        | ok records =>
            simp only [Program.pure_eq, Program.Meets,
              if_neg (UserLoader.length_pad _ _), UserLoader.lookup_pad,
              UserLoader.lookup_collect, empty]
            exact rfl
  · exact rfl

theorem deliverTo_meets (worker : Worker) (job : Gobble.Job)
    (email : String) :
    (worker.deliverTo job { delivery with email := email }).Meets
      (statusContract delivery) Concluded (going email) := by
  refine Program.meets_bind ((shouldDeliver_meets rfl).weaken ?_)
  intro known decided learned
  subst learned
  cases decided with
  | false => exact ⟨fun _ => rfl, nofun⟩
  | true =>
      have noted : (worker.deliverMail
          { delivery with email := email }).Meets (statusContract delivery)
            Noted ⟨.handed, false⟩ :=
        deliverMail_noted worker rfl
      refine Program.meets_bind (noted.weaken ?_)
      rintro known ⟨status, err⟩ ⟨course, wrote⟩
      have concluded (retry : Option Int) :
          Concluded known ⟨retry, some (status, err)⟩ :=
        ⟨fun wrong => absurd course wrong,
          fun _ => ⟨status, err, rfl, wrote⟩⟩
      dsimp only
      split
      · exact concluded _
      · exact concluded _

/-- The contract of an attempt with a readable job. -/
theorem deliver_meets {worker : Worker} {job : Gobble.Job}
    (read : worker.delivery job = some delivery) :
    (worker.deliver job).Meets (statusContract delivery) Concluded
      (going delivery.email) := by
  have readable : worker.unmarshal job.payload = .ok delivery := by
    rw [Worker.delivery] at read
    cases unmarshalled : worker.unmarshal job.payload with
    | error text => simp [unmarshalled, Except.toOption] at read
    | ok other => simpa [unmarshalled, Except.toOption] using read
  rw [Worker.deliver, readable]
  refine Program.meets_bind (Program.meets_bind (Program.meets_bind
    (Program.meets_bind (Program.meets_perform trivial ?_))))
  intro now _
  refine Program.meets_bind (Program.meets_perform (may_of_unwritten rfl) ?_)
  intro answer _
  cases answer with
  | nilPointer => exact trivial
  | failed text =>
      refine ⟨fun _ => rfl, ?_⟩
      intro wrong
      cases wrong
  | ok _ =>
      refine Program.meets_bind (findEmail_meets.weaken ?_)
      intro known found learned
      subst learned
      cases found with
      | none =>
          refine ⟨fun _ => rfl, ?_⟩
          intro wrong
          cases wrong
      | some email => exact deliverTo_meets worker job email

end Deliver

/-! ## Every run -/

/-- An attempt got to `deliver` for the message, and it is not queued. -/
def Safe (state : State) (messageID : String) : Prop :=
  messageID ∈ state.history.reached ∧ ¬ Queued state.database messageID

/-- Malformed jobs are given back at once; what is left of the other attempts
meets the contract, and a status that has been written stays. -/
def Follows (worker : Worker) (safe : String → Prop) (job : Gobble.Job)
    (course : Course) (program : Prog Outcome) : Prop :=
  match worker.delivery job with
  | none => ∃ outcome, program = .ret outcome
  | some delivery => ∃ wrote,
      program.Meets (statusContract delivery) Concluded ⟨course, wrote⟩ ∧
        (wrote = true → safe delivery.messageID)

structure Consistent (worker : Worker) (state : State) : Prop where
  attempts : EachAttempt (Follows worker (Safe state)) state
  handled : ∀ messageID ∈ state.history.handled, Safe state messageID
  removed : ∀ messageID ∈ state.history.removed,
    messageID ∈ state.history.handled

section Steps

variable {worker : Worker} {state next : State} {event : Event}

theorem deliver_follows (safe : String → Prop) (job : Gobble.Job) :
    Follows worker safe job (.start (worker.delivery job))
      (worker.deliver job) := by
  unfold Follows
  cases read : worker.delivery job with
  | none =>
      rw [Worker.delivery] at read
      rw [Worker.deliver]
      cases unmarshalled : worker.unmarshal job.payload with
      | error text => exact ⟨_, rfl⟩
      | ok delivery => simp [unmarshalled, Except.toOption] at read
  | some delivery => exact ⟨false, deliver_meets read, by simp⟩

omit [Collation] in
/-- The call that an attempt makes is one of its contract. -/
theorem Follows.call {safe : String → Prop} {job : Gobble.Job}
    {course : Course} {op : Op} {rest : Answer op → Prog Outcome}
    (follows : Follows worker safe job course (.call op rest)) :
    ∃ delivery wrote, worker.delivery job = some delivery ∧
      (statusContract delivery).may ⟨course, wrote⟩ op ∧
      (wrote = true → safe delivery.messageID) ∧
      ∀ answer, (rest answer).Meets (statusContract delivery) Concluded
        ⟨course.after (some delivery) op answer,
          wrote || stores op answer⟩ := by
  unfold Follows at follows
  split at follows
  · obtain ⟨outcome, wrong⟩ := follows
    cases wrong
  · rename_i delivery read
    obtain ⟨wrote, ⟨may, next⟩, safe⟩ := follows
    exact ⟨delivery, wrote, read, may, safe,
      fun answer => next answer trivial⟩

/-- A call of an attempt does not make a message queued. -/
theorem queued_answered {environment : Environment} {database after : Database}
    {delivery : Delivery} {known : Knowledge} {op : Op} {answer : Answer op}
    {messageID : String} (may : (statusContract delivery).may known op)
    (given : answered environment database op = some (answer, after))
    (queued : Queued after messageID) : Queued database messageID := by
  cases op with
  | sql conn statement =>
      cases conn with
      | transaction =>
          cases given
          exact queued
      | connection =>
          simp only [answered] at given
          split at given
          · cases given
            exact queued
          · cases given
            rcases queued_execute queued with old | ⟨row, written, _, status⟩
            · exact old
            · exact absurd status (may row written).2.1
  | begin => cases given
  | commit => cases given
  | rollback => cases given
  | enqueue job => cases given
  | now =>
      cases given
      exact queued
  | service service =>
      cases given
      exact queued
  | iterate keys =>
      cases given
      exact queued

theorem safe_step (stepped : Stepped worker state next event)
    (consistent : Consistent worker state) (first : QueuedFirst state event)
    {messageID : String} (safe : Safe state messageID) :
    Safe next messageID := by
  obtain ⟨reached, unqueued⟩ := safe
  cases stepped with
  | quiet event idle database history workers =>
      rw [Safe, database, history]
      exact ⟨reached, unqueued⟩
  | other statement aside same =>
      subst same
      refine ⟨reached, ?_⟩
      intro queued
      rcases queued_execute queued with old | ⟨row, written, named, status⟩
      · exact unqueued old
      · exact first row written status (named ▸ reached)
  | started name workerID job jobs same =>
      subst same
      exact ⟨reached, unqueued⟩
  | called name environment job course op rest answer database here given
      same =>
      subst same
      obtain ⟨delivery, wrote, _, may, _⟩ :=
        (consistent.attempts name job course _ here).call
      exact ⟨History.reached_called reached,
        fun queued => unqueued (queued_answered may given queued)⟩
  | finished name now job course outcome here same =>
      subst same
      refine ⟨?_, unqueued⟩
      rw [State.set, History.finished_reached]
      exact reached

/-- An attempt whose write succeeds has its message reported. -/
theorem safe_of_stores {environment : Environment} {delivery : Delivery}
    {known : Knowledge} {op : Op} {answer : Answer op}
    (may : (statusContract delivery).may known op)
    (given : answered environment state.database op =
      some (answer, next.database))
    (history : next.history = state.history.called (some delivery) op
      (known.course.after (some delivery) op answer))
    (stored : stores op answer = true) : Safe next delivery.messageID := by
  cases op with
  | sql conn statement =>
      cases answer with
      | failed text => cases stored
      | nilPointer => cases stored
      | ok value =>
          obtain ⟨row, written⟩ := Option.isSome_iff_exists.mp stored
          obtain ⟨own, status, handed⟩ := may row written
          refine ⟨?_, ?_⟩
          · rw [history, handed]
            simp [History.called, Course.after]
          · cases conn with
            | transaction => cases given
            | connection =>
                simp only [answered] at given
                split at given
                · cases given
                · rename_i fault
                  simp only [Option.some.injEq, Prod.mk.injEq] at given
                  rw [← given.2]
                  refine not_queued_of_written written own status ?_
                  cases executed : (state.database.execute statement).1 with
                  | ok _ => rfl
                  | error text => simp [executed, World.reply] at given
  | _ => cases stored

omit [Collation] in
theorem Follows.weaken {strong weak : String → Prop}
    (implies : ∀ messageID, strong messageID → weak messageID)
    (job : Gobble.Job) (course : Course) (program : Prog Outcome)
    (follows : Follows worker strong job course program) :
    Follows worker weak job course program := by
  unfold Follows at follows ⊢
  split
  · rename_i unreadable
    simpa [unreadable] using follows
  · rename_i delivery read
    simp only [read] at follows
    obtain ⟨wrote, meets, safe⟩ := follows
    exact ⟨wrote, meets, fun written => implies _ (safe written)⟩

theorem attempts_step (stepped : Stepped worker state next event)
    (consistent : Consistent worker state)
    (first : QueuedFirst state event) :
    EachAttempt (Follows worker (Safe next)) next := by
  refine stepped.each (consistent.attempts.weaken
    (Follows.weaken fun _ => safe_step stepped consistent first))
    (deliver_follows (Safe next)) ?_
  intro job course op rest environment answer follows given history
  obtain ⟨delivery, wrote, read, may, safe, onward⟩ := follows.call
  unfold Follows
  simp only [read] at history ⊢
  refine ⟨_, onward answer, ?_⟩
  intro written
  rcases Bool.or_eq_true_iff.mp written with before | now
  · exact safe before
  · exact safe_of_stores may given history now

/-- The status of an attempt that got to `deliver` is in the row when it
returns. -/
theorem safe_of_returned {job : Gobble.Job} {course : Course}
    {outcome : Outcome} {delivery : Delivery}
    (follows : Follows worker (Safe state) job course (.ret outcome))
    (read : worker.delivery job = some delivery)
    (upserted : ∀ recorded ∈ outcome.recorded, recorded.2 = none)
    (handed : course = .handed) : Safe state delivery.messageID := by
  unfold Follows at follows
  simp only [read] at follows
  obtain ⟨wrote, concluded, safe⟩ := follows
  obtain ⟨status, err, recorded, stored⟩ := concluded.reports handed
  exact safe (stored (upserted (status, err) recorded))

def Accounted (worker : Worker) (state : State) (event : Event) : Prop :=
  (StatusUpserted state event ∧ HandedOver worker state event) ∧
    QueuedFirst state event

theorem handled_step (stepped : Stepped worker state next event)
    (consistent : Consistent worker state)
    (accounted : Accounted worker state event) :
    ∀ messageID ∈ next.history.handled, Safe next messageID := by
  obtain ⟨⟨upserted, _⟩, first⟩ := accounted
  intro messageID member
  apply safe_step stepped consistent first
  cases stepped with
  | quiet event idle database history workers =>
      rw [history] at member
      exact consistent.handled messageID member
  | other statement aside same =>
      subst same
      exact consistent.handled messageID member
  | started name workerID job jobs same =>
      subst same
      exact consistent.handled messageID member
  | called name environment job course op rest answer database here given
      same =>
      subst same
      rw [State.set, History.called_handled] at member
      exact consistent.handled messageID member
  | finished name now job course outcome here same =>
      subst same
      rcases History.mem_handled_finished.mp member with
        old | ⟨handed, delivery, read, rfl⟩
      · exact consistent.handled messageID old
      · have ended : state.finishing (.finish name now) =
            some ⟨job, course, outcome⟩ := by
          rw [State.finishing, here]
        exact safe_of_returned (consistent.attempts name job course _ here)
          read (upserted _ ended) handed

theorem removed_step (stepped : Stepped worker state next event)
    (consistent : Consistent worker state)
    (accounted : Accounted worker state event) :
    ∀ messageID ∈ next.history.removed, messageID ∈ next.history.handled := by
  obtain ⟨⟨_, handed⟩, _⟩ := accounted
  intro messageID member
  cases stepped with
  | quiet event idle database history workers =>
      rw [history] at member ⊢
      exact consistent.removed messageID member
  | other statement aside same =>
      subst same
      exact consistent.removed messageID member
  | started name workerID job jobs same =>
      subst same
      exact consistent.removed messageID member
  | called name environment job course op rest answer database here given
      same =>
      subst same
      rw [State.set, History.called_removed] at member
      rw [State.set, History.called_handled]
      exact consistent.removed messageID member
  | finished name now job course outcome here same =>
      subst same
      refine History.mem_handled_finished.mpr ?_
      rcases History.mem_removed_finished.mp member with
        old | ⟨gone, delivery, read, rfl⟩
      · exact .inl (consistent.removed messageID old)
      · have ended : state.finishing (.finish name now) =
            some ⟨job, course, outcome⟩ := by
          rw [State.finishing, here]
        obtain ⟨own, same, reached⟩ := handed _ ended gone
        cases Option.some.inj (read.symm.trans same)
        exact reached.symm.imp_right fun now => ⟨now, delivery, read, rfl⟩

theorem Consistent.idle (idle : state.Idle) : Consistent worker state where
  attempts := .idle idle
  handled messageID member := by simp [idle.history, History.empty] at member
  removed messageID member := by simp [idle.history, History.empty] at member

/-- Once a job has been removed from the queue, its message is not queued any
more: in every run in which the statuses are recorded, no job is removed
without an attempt that got to `deliver`, and the mailer's status comes
first. -/
theorem removed_messages_not_queued {events : List Event} {final : State}
    {trace : List Unit} (idle : state.Idle)
    (upserted : (attempts worker).Guarded StatusUpserted events state)
    (handed : (attempts worker).Guarded (HandedOver worker) events state)
    (first : (attempts worker).Guarded QueuedFirst events state)
    (ran : (attempts worker).run events state = some (final, trace)) :
    TerminalReported final := by
  have consistent : Consistent worker final := by
    refine (attempts worker).run_state_invariant (Accounted worker)
      (Consistent worker) ?_ (.idle idle) ((upserted.and handed).and first)
      ran
    intro state event next shown consistent accounted stepped
    have does := step_does stepped
    exact ⟨attempts_step does consistent accounted.2,
      handled_step does consistent accounted,
      removed_step does consistent accounted⟩
  intro messageID member
  exact (consistent.handled messageID
    (consistent.removed messageID member)).2

end Steps

def queuedMessage : List Event :=
  [.other (.insert .messages ⟨"message", Status.queued.text, 0⟩),
    .enqueue (Gobble.newJob "")]

end Collated

attribute [local instance] Collation.binary

theorem sent_message_not_queued :
    ∃ final trace, (attempts sampleWorker).run
        (queuedMessage ++ wholeAttempt 0 .calm 16) newState =
          some (final, trace) ∧
      "message" ∈ final.history.removed ∧ TerminalReported final := by
  have facts : ((attempts sampleWorker).run
      (queuedMessage ++ wholeAttempt 0 .calm 16) newState).any
        (fun after => decide ("message" ∈ after.1.history.removed)) =
          true := by
    decide +kernel
  have upserted : (attempts sampleWorker).Guarded StatusUpserted
      (queuedMessage ++ wholeAttempt 0 .calm 16) newState := by
    decide +kernel
  have handed : (attempts sampleWorker).Guarded (HandedOver sampleWorker)
      (queuedMessage ++ wholeAttempt 0 .calm 16) newState := by
    decide +kernel
  have first : (attempts sampleWorker).Guarded QueuedFirst
      (queuedMessage ++ wholeAttempt 0 .calm 16) newState := by
    decide +kernel
  obtain ⟨⟨final, trace⟩, ran, removed⟩ := (Option.any_eq_true _ _).mp facts
  exact ⟨final, trace, ran, of_decide_eq_true removed,
    removed_messages_not_queued newState_initial.toIdle upserted handed first
      ran⟩

/-- The user has unsubscribed: the job is removed at the first attempt, and its
message stays queued. -/
theorem unsubscribed_message_stays_queued :
    (attempts sampleWorker).Guarded StatusUpserted
        (.other (.insert .unsubscribes ⟨0, "user", "client", "kind", 0⟩) ::
          queuedMessage ++ wholeAttempt 0 .calm 5) newState ∧
      ∃ final trace, (attempts sampleWorker).run
          (.other (.insert .unsubscribes ⟨0, "user", "client", "kind", 0⟩) ::
            queuedMessage ++ wholeAttempt 0 .calm 5) newState =
              some (final, trace) ∧
        "message" ∈ final.history.removed ∧
        Queued final.database "message" ∧ ¬ TerminalReported final := by
  have facts : ((attempts sampleWorker).run
      (.other (.insert .unsubscribes ⟨0, "user", "client", "kind", 0⟩) ::
        queuedMessage ++ wholeAttempt 0 .calm 5) newState).any
          (fun after => decide ("message" ∈ after.1.history.removed ∧
            Queued after.1.database "message")) = true := by
    decide +kernel
  obtain ⟨⟨final, trace⟩, ran, facts⟩ := (Option.any_eq_true _ _).mp facts
  obtain ⟨removed, queued⟩ := of_decide_eq_true facts
  refine ⟨by decide +kernel, final, trace, ran, removed, queued, ?_⟩
  intro reported
  exact reported "message" removed queued

end Notifications.Postal.Attempts
