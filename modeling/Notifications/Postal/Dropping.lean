import Mathlib.Data.List.Induction
import Notifications.Postal.Unsubscription

/-!
# Which failures drop a notification

`Deliver` gives a job up without a retry when `shouldDeliver` says no, and
`shouldDeliver` says no not only when the user has unsubscribed: it says so
when a preference could not be read, and, because `UserLoader.Load` pads the
users that UAA has no record of, when UAA knows nothing about the user.  The
attempts that lose a notification this way are exactly the `Lost` ones.
-/

set_option autoImplicit false

namespace Notifications.Postal

open Notifications.Lib Notifications.Models

/-! ## The receipt and the address -/

namespace UserLoader

/-- The record that UAA returned for a user; the last one counts. -/
def recordOf (records : List User) (guid : String) : Option User :=
  records.reverse.find? fun user => user.id == guid

theorem collect_append (rest : List User) (user : User) :
    collect (rest ++ [user]) = (collect rest).insert user.id user := by
  simp [collect]

theorem recordOf_append (rest : List User) (user : User) (guid : String) :
    recordOf (rest ++ [user]) guid =
      if user.id = guid then some user else recordOf rest guid := by
  simp only [recordOf, List.reverse_append, List.reverse_singleton,
    List.singleton_append, List.find?_cons]
  cases hit : user.id == guid with
  | true => rw [if_pos (by simpa using hit)]
  | false => rw [if_neg (by simpa using hit)]

theorem lookup_collect (records : List User) (guid : String) :
    (collect records).lookup guid = recordOf records guid := by
  induction records using List.reverseRecOn with
  | nil => rfl
  | append_singleton rest user ih =>
      rw [collect_append, recordOf_append]
      split
      · rename_i same
        rw [← same, AList.lookup_insert]
      · rename_i different
        rw [AList.lookup_insert_ne (Ne.symm different), ih]

/-- A padded user looks like one without addresses. -/
theorem lookup_pad (users : Users) (guid : String) :
    ((pad [guid] users).lookup guid).getD noUser =
      (users.lookup guid).getD noUser := by
  simp only [pad, List.foldl_cons, List.foldl_nil]
  split
  · rfl
  · rename_i absent
    rw [AList.lookup_eq_none.mpr absent, AList.lookup_insert]
    rfl

theorem length_pad (users : Users) (guid : String) :
    ¬ (pad [guid] users).keys.length < 1 := by
  have member : guid ∈ (pad [guid] users).keys := by
    simp only [pad, List.foldl_cons, List.foldl_nil]
    split
    · assumption
    · exact AList.mem_insert _ |>.mpr (.inl rfl)
  have := List.length_pos_of_mem member
  omega

end UserLoader

/-- The records that UAA returned for the user of a delivery without an
address, if the token and the users could be loaded. -/
def uaaRecords (environment : Environment) (services : Nat)
    (delivery : Delivery) : Option (List User) :=
  match environment.serve services .loadToken with
  | .error _ => none
  | .ok token =>
      match environment.serve (services + 1)
          (.usersEmailsByIDs token [delivery.userGUID]) with
      | .error _ => none
      | .ok records => some records

/-- The address that `Deliver` goes on with; empty when there is none. -/
def addressIn (records : List User) (delivery : Delivery) : String :=
  ((UserLoader.recordOf records delivery.userGUID).getD noUser).emails.head?.getD
    ""

def addressOf (environment : Environment) (services : Nat)
    (delivery : Delivery) : Option String :=
  if delivery.email = "" then
    (uaaRecords environment services delivery).map fun records =>
      addressIn records delivery
  else
    some delivery.email

section Collated

variable [Collation]

theorem run_findEmail (environment : Environment) (world : World)
    (delivery : Delivery) :
    ∃ services,
      (Worker.findEmail delivery).run (World.handle environment) world =
        (some (addressOf environment world.services delivery),
          { world with services := services }) := by
  unfold Worker.findEmail addressOf
  split
  · rename_i empty
    simp only [Program.perform_bind, Program.run_call, World.handle,
      uaaRecords]
    cases environment.serve world.services .loadToken with
    | error error => exact ⟨_, rfl⟩
    | ok token =>
        simp only [UserLoader.load, Program.perform_bind, Program.call_bind,
          Program.run_call, World.handle]
        cases environment.serve (world.services + 1)
            (.usersEmailsByIDs token [delivery.userGUID]) with
        | error failure => exact ⟨_, rfl⟩
        | ok records =>
            refine ⟨world.services + 1 + 1, ?_⟩
            simp only [Program.pure_eq, Program.ret_bind,
              if_neg (UserLoader.length_pad _ _), UserLoader.lookup_pad,
              UserLoader.lookup_collect, empty, Program.run_ret]
            rfl
  · exact ⟨world.services, rfl⟩

theorem run_createReceipt (environment : Environment) (world : World)
    (guid clientID kindID : String) :
    ∃ after,
      (ReceiptsRepo.createReceipts .connection [guid] clientID kindID).run
          (World.handle environment) world =
        (some ((environment.faults world.statements).map Error.sql), after) ∧
      after.statements = world.statements + 1 ∧
      after.services = world.services ∧
      ∀ table, table ≠ .receipts → after.database.tables.rows table =
        world.database.tables.rows table := by
  simp only [ReceiptsRepo.createReceipts, ReceiptsRepo.upsert, nowTruncated,
    Program.perform_bind, Program.call_bind, Program.pure_eq,
    Program.ret_bind, Program.run_call, World.handle]
  have present : world.read .connection = some world.database := rfl
  rw [Program.run_bind, Program.run_bind, run_sql present]
  cases environment.faults world.statements with
  | some text => exact ⟨_, rfl, rfl, rfl, fun _ _ => rfl⟩
  | none =>
      have stored (receipt : Receipt) :
          (world.database.execute (.upsertReceipt receipt)).1 = .ok () := by
        simp only [Database.execute, Statement.execute]
        split <;> rfl
      rw [stored]
      refine ⟨_, rfl, rfl, rfl, ?_⟩
      intro table other
      exact Statement.execute_other (.upsertReceipt _) _ other

/-! ## Sending -/

/-- The attempt handed a message to the mail client, and `Send` returned
nil. -/
def Sent (environment : Environment) (calls : List (World × Op)) : Prop :=
  ∃ call ∈ calls, ∃ message, call.2 = .service (.send message) ∧
    environment.serve call.1.services (.send message) = .ok ()

theorem not_sent_of_unsent {environment : Environment}
    {calls : List (World × Op)}
    (unsent : ∀ call ∈ calls, Worker.Unsent call.2) :
    ¬ Sent environment calls := by
  rintro ⟨call, member, message, sends, _⟩
  have quiet := unsent call member
  rw [sends] at quiet
  exact quiet

theorem Sent.inside {environment : Environment}
    {before calls after : List (World × Op)}
    (sent : Sent environment calls) :
    Sent environment (before ++ (calls ++ after)) := by
  obtain ⟨call, member, sends⟩ := sent
  refine ⟨call, ?_, sends⟩
  simp [member]

namespace Worker

variable (worker : Worker) {environment : Environment}

theorem sendMail_sent {message : Mail.Message} {world after : World}
    (ran : (sendMail message).run (World.handle environment) world =
      (some .delivered, after)) :
    Sent environment
      ((sendMail message).trace (World.handle environment) world) := by
  simp only [sendMail, Program.perform_bind, Program.run_call, World.handle]
    at ran
  simp only [sendMail, Program.perform_bind, Program.trace, World.handle]
  cases connected : environment.serve world.services .connect with
  | error text =>
      rw [connected] at ran
      cases ran
  | ok _ =>
      rw [connected] at ran
      simp only [Program.run_call, World.handle] at ran
      cases sent : environment.serve (world.services + 1) (.send message) with
      | error text =>
          rw [sent] at ran
          cases ran
      | ok _ =>
          refine ⟨({ world with services := world.services + 1 },
            .service (.send message)), ?_, message, rfl, sent⟩
          simp [Program.trace]

theorem deliverMail_sent {delivery : Delivery} {world after : World}
    {err : Option Error}
    (ran : (worker.deliverMail delivery).run (World.handle environment)
      world = (some (.delivered, err), after)) :
    Sent environment ((worker.deliverMail delivery).trace
      (World.handle environment) world) := by
  obtain ⟨packed, between, first, ran⟩ := Program.run_bind_some _ ran
  rw [deliverMail, Program.trace_bind_of _ first]
  cases packed with
  | error error =>
      obtain ⟨_, _, _, ran⟩ := Program.run_bind_some _ ran
      cases ran
  | ok message =>
      obtain ⟨status, later, sent, ran⟩ := Program.run_bind_some _ ran
      obtain ⟨_, _, _, ran⟩ := Program.run_bind_some _ ran
      cases ran
      have reached := sendMail_sent sent
      rw [Program.trace_bind_of _ sent]
      exact reached.inside

/-! ## The three ends of an attempt -/

theorem deliver_retried {job : Gobble.Job} {world : World}
    (failed : (∀ delivery, worker.unmarshal job.payload ≠ .ok delivery) ∨
      ∃ delivery, worker.unmarshal job.payload = .ok delivery ∧
        (environment.faults world.statements ≠ none ∨
          addressOf environment world.services delivery = none)) :
    ∃ after, (worker.deliver job).run (World.handle environment) world =
      (some ⟨retry job, none⟩, after) := by
  rcases failed with unread | ⟨delivery, read, failed⟩
  · cases read : worker.unmarshal job.payload with
    | error text => exact ⟨world, by simp [deliver, read]⟩
    | ok delivery => exact absurd read (unread delivery)
  · obtain ⟨stored, receipt, _, services, _⟩ := run_createReceipt environment
      world delivery.userGUID delivery.clientID delivery.options.kindID
    simp only [deliver, read, deliverJob]
    rw [Program.run_bind_of _ receipt]
    cases fault : environment.faults world.statements with
    | some text => exact ⟨stored, rfl⟩
    | none =>
        rw [fault] at failed
        have missing := failed.resolve_left (fun wrong => wrong rfl)
        obtain ⟨asked, searched⟩ := run_findEmail environment stored delivery
        rw [services, missing] at searched
        simp only [Option.map_none]
        rw [Program.run_bind_of _ searched]
        exact ⟨_, rfl⟩

/-- Otherwise it comes to the decision, with nothing sent and no preference
changed. -/
theorem deliver_decides {job : Gobble.Job} {world : World}
    {delivery : Delivery} {email : String}
    (read : worker.unmarshal job.payload = .ok delivery)
    (stored : environment.faults world.statements = none)
    (found : addressOf environment world.services delivery = some email) :
    ∃ between before,
      between.statements = world.statements + 1 ∧
      (∀ table, table ≠ .receipts → between.database.tables.rows table =
        world.database.tables.rows table) ∧
      (∀ call ∈ before, Unsent call.2) ∧
      (worker.deliver job).run (World.handle environment) world =
        (worker.deliverTo job { delivery with email := email }).run
          (World.handle environment) between ∧
      (worker.deliver job).trace (World.handle environment) world =
        before ++ (worker.deliverTo job { delivery with email := email }).trace
          (World.handle environment) between := by
  obtain ⟨written, receipt, statements, services, others⟩ :=
    run_createReceipt environment world delivery.userGUID delivery.clientID
      delivery.options.kindID
  obtain ⟨asked, searched⟩ := run_findEmail environment written delivery
  rw [services, found] at searched
  rw [stored] at receipt
  refine ⟨{ written with services := asked },
    (ReceiptsRepo.createReceipts .connection [delivery.userGUID]
        delivery.clientID delivery.options.kindID).trace
          (World.handle environment) world ++
      (findEmail delivery).trace (World.handle environment) written,
    statements, others, ?_, ?_, ?_⟩
  · intro call member
    rcases List.mem_append.mp member with first | second
    · exact Program.trace_of_only _ (createReceipts_unsent _ _ _) _ call
        first
    · exact unsent_of_quiet (Program.trace_of_only _
        (findEmail_quiet delivery) _ call second)
  · simp only [deliver, read, deliverJob]
    rw [Program.run_bind_of _ receipt]
    exact Program.run_bind_of _ searched
  · simp only [deliver, read, deliverJob]
    rw [Program.trace_bind_of _ receipt, List.append_assoc]
    exact congrArg _ (Program.trace_bind_of _ searched)

/-- A decision against the delivery ends the attempt at once. -/
theorem deliverTo_dropped (job : Gobble.Job) {delivery : Delivery}
    {world : World}
    (decided : decision (fun index =>
      environment.faults (world.statements + index)) world.database.tables
        delivery = false) :
    (∃ after, (worker.deliverTo job delivery).run (World.handle environment)
      world = (some ⟨none, none⟩, after)) ∧
    ∀ call ∈ (worker.deliverTo job delivery).trace (World.handle environment)
      world, Unsent call.2 := by
  obtain ⟨statements, ran⟩ := run_shouldDeliver environment world delivery
  rw [decided] at ran
  refine ⟨⟨_, Program.run_bind_of _ ran⟩, ?_⟩
  intro call member
  rw [deliverTo, Program.trace_bind_of _ ran] at member
  simp only [Bool.false_eq_true, if_false, Program.pure_eq, Program.trace,
    List.append_nil] at member
  exact unsent_of_quiet (Program.trace_of_only _
    (shouldDeliver_quiet delivery) _ call member)

/-- After a decision for it, a job that is not retried has been sent. -/
theorem deliverTo_sent {job : Gobble.Job} {delivery : Delivery}
    {world after : World} {outcome : Outcome} (few : job.retryCount < 10)
    (decided : decision (fun index =>
      environment.faults (world.statements + index)) world.database.tables
        delivery = true)
    (ran : (worker.deliverTo job delivery).run (World.handle environment)
      world = (some outcome, after))
    (given : outcome.retry = none) :
    Sent environment ((worker.deliverTo job delivery).trace
      (World.handle environment) world) := by
  obtain ⟨statements, decides⟩ := run_shouldDeliver environment world delivery
  rw [decided] at decides
  rw [deliverTo, Program.run_bind_of _ decides] at ran
  obtain ⟨⟨status, err⟩, later, delivered, ran⟩ :=
    Program.run_bind_some _ ran
  by_cases arrived : status = .delivered
  · subst arrived
    have sent := worker.deliverMail_sent delivered
    rw [deliverTo, Program.trace_bind_of _ decides]
    simp only [if_true]
    rw [Program.trace_bind_of _ delivered]
    exact sent.inside
  · simp only [ne_eq, arrived, not_false_eq_true, if_true] at ran
    cases ran
    simp [retry, few] at given

end Worker

/-! ## Excuses and losses -/

/-- The delivery's own address, or the first one in the user's record, is
missing or has no `@`. -/
def Unusable (environment : Environment) (services : Nat)
    (delivery : Delivery) : Prop :=
  (delivery.email ≠ "" ∧ contains delivery.email "@" = false) ∨
  (delivery.email = "" ∧ ∃ records user,
    uaaRecords environment services delivery = some records ∧
    UserLoader.recordOf records delivery.userGUID = some user ∧
    Worker.usable (user.emails.head?.getD "") = false)

/-- UAA was asked for the user and returned no record. -/
def Unknown (environment : Environment) (services : Nat)
    (delivery : Delivery) : Prop :=
  delivery.email = "" ∧ ∃ records,
    uaaRecords environment services delivery = some records ∧
    UserLoader.recordOf records delivery.userGUID = none

/-- The user does not want the delivery, or it has nowhere to go. -/
def Excused (environment : Environment) (world : World)
    (delivery : Delivery) : Prop :=
  (Unsubscribed world.database.tables delivery ∧
    ¬ KindCritical world.database.tables delivery) ∨
  Unusable environment world.services delivery

/-- An attempt that ends without a retry has sent the message or has an
excuse. -/
def NeverDropped (worker : Worker) (environment : Environment)
    (job : Gobble.Job) (world : World) : Prop :=
  ∀ outcome after,
    (worker.deliver job).run (World.handle environment) world =
      (some outcome, after) →
    outcome.retry = none →
    Sent environment
      ((worker.deliver job).trace (World.handle environment) world) ∨
    ∃ delivery, worker.unmarshal job.payload = .ok delivery ∧
      Excused environment world delivery

/-- The attempts that lose a notification: they come to the preference checks,
the kind is not seen to be critical, there is no excuse, and a preference
cannot be read, UAA has no record of the user, or the user has unsubscribed
(from a critical kind whose row could not be read). -/
structure Lost (worker : Worker) (environment : Environment)
    (job : Gobble.Job) (world : World) (delivery : Delivery) : Prop where
  read : worker.unmarshal job.payload = .ok delivery
  receipt : environment.faults world.statements = none
  loaded : delivery.email = "" →
    uaaRecords environment world.services delivery ≠ none
  kind : Worker.seenCritical (environment.faults (world.statements + 1))
    (Worker.kindOf world.database.tables delivery) = false
  excused : ¬ Excused environment world delivery
  cause : environment.faults (world.statements + 2) ≠ none ∨
    environment.faults (world.statements + 3) ≠ none ∨
    Unknown environment world.services delivery ∨
    Unsubscribed world.database.tables delivery

theorem Worker.decision_eq_false {faults : Nat → Option String}
    {database : Database} {delivery : Delivery} :
    Worker.decision faults database.tables delivery = false ↔
      Worker.seenCritical (faults 0)
        (Worker.kindOf database.tables delivery) = false ∧
      (faults 1 ≠ none ∨ faults 2 ≠ none ∨
        Worker.usable delivery.email = false ∨
        Unsubscribed database.tables delivery) := by
  rw [Worker.unsubscribed_iff]
  simp only [Worker.decision, Bool.or_eq_false_iff, Bool.and_eq_false_iff,
    Option.isNone_eq_false_iff, ← Option.isSome_iff_ne_none]
  tauto

/-- The decision does not look at the receipts or at the old address. -/
theorem Worker.decision_congr {faults : Nat → Option String}
    {before after : Tables} {delivery : Delivery}
    (same : ∀ table, table ≠ .receipts → after.rows table =
      before.rows table) :
    Worker.decision faults after delivery =
      Worker.decision faults before delivery := by
  have kinds := same .kinds (by decide)
  have globals := same .globalUnsubscribes (by decide)
  have unsubscribes := same .unsubscribes (by decide)
  simp only [Worker.decision, Worker.kindOf, Worker.globalUnsubscribeOf,
    Worker.unsubscribeOf, Tables.lookup, kinds, globals, unsubscribes]

omit [Collation] in
/-- The address that was found is no good when it is unusable, or when there
was no record to take one from. -/
theorem usable_address {environment : Environment} {services : Nat}
    {delivery : Delivery} {email : String}
    (found : addressOf environment services delivery = some email) :
    Worker.usable email = false ↔
      Unusable environment services delivery ∨
        Unknown environment services delivery := by
  by_cases empty : delivery.email = ""
  · rw [addressOf, if_pos empty] at found
    obtain ⟨records, returned, rfl⟩ := Option.map_eq_some_iff.mp found
    cases record : UserLoader.recordOf records delivery.userGUID with
    | none =>
        simp [Unusable, Unknown, empty, returned, addressIn, record, noUser,
          Worker.usable]
    | some user =>
        simp [Unusable, Unknown, empty, returned, addressIn, record]
  · rw [addressOf, if_neg empty] at found
    cases found
    simp [Unusable, Unknown, empty, Worker.usable]

/-- Deliveries that differ in their address only are unsubscribed alike. -/
theorem decision_false_iff {environment : Environment} {world : World}
    {delivery : Delivery} {email : String}
    (found : addressOf environment world.services delivery = some email) :
    Worker.decision (fun index =>
        environment.faults (world.statements + 1 + index))
      world.database.tables { delivery with email := email } = false ↔
      Worker.seenCritical (environment.faults (world.statements + 1))
        (Worker.kindOf world.database.tables delivery) = false ∧
      (environment.faults (world.statements + 2) ≠ none ∨
        environment.faults (world.statements + 3) ≠ none ∨
        (Unusable environment world.services delivery ∨
          Unknown environment world.services delivery) ∨
        Unsubscribed world.database.tables delivery) := by
  rw [Worker.decision_eq_false, usable_address found]
  rfl

/-- What an attempt that comes to the decision does, in terms of the state it
started in. -/
theorem decided_of_read {worker : Worker} {environment : Environment}
    {job : Gobble.Job} {world : World} {delivery : Delivery} {email : String}
    (read : worker.unmarshal job.payload = .ok delivery)
    (stored : environment.faults world.statements = none)
    (found : addressOf environment world.services delivery = some email) :
    (Worker.decision (fun index =>
          environment.faults (world.statements + 1 + index))
        world.database.tables { delivery with email := email } = false →
      (∃ after, (worker.deliver job).run (World.handle environment) world =
        (some ⟨none, none⟩, after)) ∧
      ¬ Sent environment
        ((worker.deliver job).trace (World.handle environment) world)) ∧
    (Worker.decision (fun index =>
          environment.faults (world.statements + 1 + index))
        world.database.tables { delivery with email := email } = true →
      job.retryCount < 10 → ∀ outcome after,
      (worker.deliver job).run (World.handle environment) world =
        (some outcome, after) → outcome.retry = none →
      Sent environment
        ((worker.deliver job).trace (World.handle environment) world)) := by
  obtain ⟨between, before, statements, others, unsent, ran, trace⟩ :=
    worker.deliver_decides read stored found
  rw [← Worker.decision_congr others, ← statements, ran, trace]
  constructor
  · intro decided
    obtain ⟨dropped, quiet⟩ := worker.deliverTo_dropped job decided
    refine ⟨dropped, not_sent_of_unsent ?_⟩
    intro call member
    rcases List.mem_append.mp member with first | second
    · exact unsent call first
    · exact quiet call second
  · intro decided few outcome after delivered given
    obtain ⟨call, member, sends⟩ :=
      worker.deliverTo_sent few decided delivered given
    exact ⟨call, List.mem_append_right before member, sends⟩

/-- An attempt that ends without a retry has come to the decision. -/
theorem started_of_given {worker : Worker} {environment : Environment}
    {job : Gobble.Job} {world after : World} {outcome : Outcome}
    (few : job.retryCount < 10)
    (ran : (worker.deliver job).run (World.handle environment) world =
      (some outcome, after))
    (given : outcome.retry = none) :
    ∃ delivery email, worker.unmarshal job.payload = .ok delivery ∧
      environment.faults world.statements = none ∧
      addressOf environment world.services delivery = some email := by
  by_contra never
  have failed : (∀ delivery, worker.unmarshal job.payload ≠ .ok delivery) ∨
      ∃ delivery, worker.unmarshal job.payload = .ok delivery ∧
        (environment.faults world.statements ≠ none ∨
          addressOf environment world.services delivery = none) := by
    cases read : worker.unmarshal job.payload with
    | error text => exact .inl (by simp)
    | ok delivery =>
        refine .inr ⟨delivery, rfl, ?_⟩
        cases stored : environment.faults world.statements with
        | some text => exact .inl (by simp)
        | none =>
            cases found : addressOf environment world.services delivery with
            | none => exact .inr rfl
            | some email => exact absurd ⟨delivery, email, read, stored, found⟩ never
  obtain ⟨_, early⟩ := worker.deliver_retried failed
  rw [early] at ran
  cases ran
  simp [retry, few] at given

/-- Transient failures do drop notifications, and exactly the `Lost` attempts
are the ones that do. -/
theorem notifications_kept_iff (worker : Worker) (environment : Environment)
    (job : Gobble.Job) (world : World) (few : job.retryCount < 10) :
    NeverDropped worker environment job world ↔
      ¬ ∃ delivery, Lost worker environment job world delivery := by
  constructor
  · rintro kept ⟨delivery, lost⟩
    have found : ∃ email,
        addressOf environment world.services delivery = some email := by
      by_cases empty : delivery.email = ""
      · obtain ⟨records, returned⟩ :=
          Option.ne_none_iff_exists'.mp (lost.loaded empty)
        exact ⟨_, by rw [addressOf, if_pos empty, returned, Option.map_some]⟩
      · exact ⟨_, if_neg empty⟩
    obtain ⟨email, found⟩ := found
    have decided := (decision_false_iff found).mpr ⟨lost.kind, by
      rcases lost.cause with first | second | unknown | unsubscribed
      · exact .inl first
      · exact .inr (.inl second)
      · exact .inr (.inr (.inl (.inr unknown)))
      · exact .inr (.inr (.inr unsubscribed))⟩
    obtain ⟨⟨after, ran⟩, unsent⟩ :=
      (decided_of_read lost.read lost.receipt found).1 decided
    rcases kept _ _ ran rfl with sent | ⟨other, read, excused⟩
    · exact unsent sent
    · rw [lost.read] at read
      cases read
      exact lost.excused excused
  · intro kept outcome after ran given
    obtain ⟨delivery, email, read, stored, found⟩ :=
      started_of_given few ran given
    have decides := decided_of_read read stored found
    by_cases decided : Worker.decision (fun index =>
        environment.faults (world.statements + 1 + index))
      world.database.tables { delivery with email := email } = true
    · exact .inl (decides.2 decided few outcome after ran given)
    · refine .inr ⟨delivery, read, ?_⟩
      obtain ⟨kind, cause⟩ := (decision_false_iff found).mp (by simpa using decided)
      by_contra excused
      refine kept ⟨delivery, read, stored, ?_, kind, excused, ?_⟩
      · intro empty missing
        rw [addressOf, if_pos empty, missing] at found
        cases found
      · rcases cause with first | second | (unusable | unknown) | unsubscribed
        · exact .inl first
        · exact .inr (.inl second)
        · exact absurd (.inr unusable) excused
        · exact .inr (.inr (.inl unknown))
        · exact .inr (.inr (.inr unsubscribed))

/-- A kind that is not critical, and nobody has unsubscribed. -/
def ordinaryWorld : World :=
  .start [
    .insert .clients ⟨0, "client", "", 0, "default"⟩,
    .insert .kinds ⟨0, "kind", "", false, "client", 0, 0, "default"⟩,
    .insert .templates ⟨0, "default", "", "", "", "", "", 0, 0, false⟩]

theorem ordinary_not_excused (environment : Environment) :
    ¬ Excused environment ordinaryWorld sampleDelivery := by
  rintro (⟨unsubscribed, _⟩ | unusable | ⟨empty, _⟩)
  · rcases unsubscribed with ⟨row, member, _⟩ | ⟨row, member, _⟩
    · exact absurd member List.not_mem_nil
    · exact absurd member List.not_mem_nil
  · exact absurd unusable.2 (by decide)
  · exact absurd empty (by decide)

end Collated

attribute [local instance] Collation.binary

theorem notifications_kept_calm :
    NeverDropped sampleWorker .calm (Gobble.newJob "") ordinaryWorld := by
  refine (notifications_kept_iff _ _ _ _ (by decide)).mpr ?_
  rintro ⟨delivery, lost⟩
  have read := lost.read
  cases read
  rcases lost.cause with first | second | ⟨empty, _⟩ | unsubscribed
  · exact first rfl
  · exact second rfl
  · exact absurd empty (by decide)
  · rcases unsubscribed with ⟨row, member, _⟩ | ⟨row, member, _⟩
    · exact absurd member List.not_mem_nil
    · exact absurd member List.not_mem_nil

/-- The third statement of an attempt, the look at the global unsubscribes,
fails, and a notification that nobody declined is dropped. -/
theorem failed_read_drops_notification :
    ¬ NeverDropped sampleWorker (.failing 2) (Gobble.newJob "")
      ordinaryWorld := by
  intro kept
  have dropped : Worker.decision (fun index =>
      (Environment.failing 2).faults (ordinaryWorld.statements + 1 + index))
      ordinaryWorld.database.tables sampleDelivery = false := by decide
  have read : sampleWorker.unmarshal (Gobble.newJob "").payload =
      .ok sampleDelivery := rfl
  obtain ⟨⟨after, ran⟩, unsent⟩ := (decided_of_read read rfl rfl).1 dropped
  rcases kept _ _ ran rfl with sent | ⟨delivery, read, excused⟩
  · exact unsent sent
  · cases read
    exact ordinary_not_excused _ excused

end Notifications.Postal
