import Notifications.Lib.Machine
import Notifications.Services
import Notifications.Postal.Decision

/-!
# Unsubscriptions are honoured

A run of the service, one operation at a time: preference updates,
registrations, enqueued jobs and attempts to deliver them, every operation
with an environment of its own that decides which of its statements fail.
Whenever an attempt hands a message to the mail client, the tables at that
moment allow it: the kind is critical, or the user has not unsubscribed.
-/

set_option autoImplicit false

namespace Notifications.Postal

open Notifications.Lib Notifications.Models Notifications.Services

section Collated

variable [Collation]

def KindCritical (tables : Tables) (delivery : Delivery) : Prop :=
  ∃ kind ∈ tables.rows .kinds,
    Collation.equal kind.id delivery.options.kindID ∧
      Collation.equal kind.clientID delivery.clientID ∧ kind.critical = true

/-- The user has a global unsubscribe, or one for the client and kind. -/
def Unsubscribed (tables : Tables) (delivery : Delivery) : Prop :=
  (∃ row ∈ tables.rows .globalUnsubscribes,
    Collation.equal row.userID delivery.userGUID) ∨
  ∃ row ∈ tables.rows .unsubscribes,
    Collation.equal row.userID delivery.userGUID ∧
      Collation.equal row.clientID delivery.clientID ∧
      Collation.equal row.kindID delivery.options.kindID

def MayDeliver (tables : Tables) (delivery : Delivery) : Prop :=
  KindCritical tables delivery ∨ ¬ Unsubscribed tables delivery

namespace Worker

theorem kindCritical_iff {database : Database} {delivery : Delivery} :
    KindCritical database.tables delivery ↔
      ∃ kind, kindOf database.tables delivery = some kind ∧
        kind.critical = true := by
  simp only [KindCritical, kindOf, database.sound.lookup_iff,
    Table.uniqueKey, Collation.key_cons_eq, Collation.equal_iff, and_true,
    and_assoc]

theorem unsubscribed_iff {database : Database} {delivery : Delivery} :
    Unsubscribed database.tables delivery ↔
      (globalUnsubscribeOf database.tables delivery).isSome = true ∨
        (unsubscribeOf database.tables delivery).isSome = true := by
  simp only [Unsubscribed, globalUnsubscribeOf, unsubscribeOf,
    Option.isSome_iff_exists, database.sound.lookup_iff, Table.uniqueKey,
    Collation.key_cons_eq, Collation.equal_iff, and_true]

theorem mayDeliver_of_decision {faults : Nat → Option String}
    {database : Database} {delivery : Delivery}
    (decided : decision faults database.tables delivery = true) :
    MayDeliver database.tables delivery := by
  simp only [decision, Bool.or_eq_true, Bool.and_eq_true] at decided
  rcases decided with critical | ⟨⟨_, noGlobal⟩, ⟨_, noUnsubscribe⟩, _⟩
  · left
    rw [kindCritical_iff]
    cases fault : faults 0 with
    | some text => simp [seenCritical, fault] at critical
    | none =>
        cases found : kindOf database.tables delivery with
        | none => simp [seenCritical, fault, found] at critical
        | some kind =>
            simp only [seenCritical, fault, found] at critical
            exact ⟨kind, rfl, critical⟩
  · right
    rw [unsubscribed_iff]
    rw [Option.isNone_iff_eq_none] at noGlobal noUnsubscribe
    simp [noGlobal, noUnsubscribe]

/-! ## One attempt -/

/-- The call hands no message to the mail client. -/
def Unsent : Op → Prop
  | .service (.send _) => False
  | _ => True

omit [Collation] in
theorem unsent_of_quiet {op : Op} (quiet : Quiet op) : Unsent op := by
  cases op with
  | service service => cases service <;> trivial
  | _ => trivial

/-- The call is not a send, or the tables allow the delivery. -/
def Honoured (delivery : Delivery) (world : World) (op : Op) : Prop :=
  Unsent op ∨ MayDeliver world.database.tables delivery

section Calls

variable {environment : Environment} {delivery : Delivery} {α : Type}

theorem honoured_of_unsent {program : Prog α} (unsent : program.Only Unsent)
    (world : World) :
    program.Calls (World.handle environment) (Honoured delivery) world :=
  Program.calls_of_only _ _ (fun _ _ fine => .inl fine) unsent world

theorem honoured_of_quiet {program : Prog α} (quiet : program.Only Quiet)
    (world : World) :
    program.Calls (World.handle environment) (Honoured delivery) world :=
  honoured_of_unsent (quiet.weaken fun _ => unsent_of_quiet) world

theorem run_quiet {program : Prog α} (quiet : program.Only Quiet)
    {world after : World} {value : Option α}
    (ran : program.run (World.handle environment) world = (value, after)) :
    after.database = world.database := by
  have kept := Program.run_of_only (World.handle environment)
    (fun state : World => state.database = world.database)
    (fun state op fine same =>
      (handle_of_quiet environment state fine).trans same)
    quiet (rfl : world.database = world.database)
  rwa [ran] at kept

end Calls

theorem shouldDeliver_only {allowed : Op → Prop}
    (reads : ∀ (table : Table) (wanted : table.Row → Bool),
      table ≠ .messages → allowed (.sql .connection (.select table wanted)))
    (delivery : Delivery) : (shouldDeliver delivery).Only allowed := by
  refine Program.only_bind ?_ ?_
  · refine Program.only_bind (Program.only_bind
      (selectOne_only (reads _ _ (by decide))) fun _ => trivial) ?_
    rintro ⟨kind, err⟩
    split <;> exact trivial
  · intro critical
    cases critical with
    | true => exact trivial
    | false =>
        refine Program.only_bind ?_ ?_
        · refine Program.only_bind
            (selectOne_only (reads _ _ (by decide))) ?_
          rintro ⟨row, err⟩
          split <;> exact trivial
        · rintro ⟨unsubscribed, err⟩
          split
          · exact trivial
          · exact trivial
          · refine Program.only_bind ?_ ?_
            · exact Program.only_bind
                (selectOne_only (reads _ _ (by decide))) fun _ => trivial
            · rintro ⟨row, err⟩
              split <;> exact trivial

theorem shouldDeliver_quiet (delivery : Delivery) :
    (shouldDeliver delivery).Only Quiet :=
  shouldDeliver_only (fun _ _ other => ⟨rfl, other⟩) delivery

omit [Collation] in
theorem record_unsent (messageID : String) (status : Status) :
    (record messageID status).Only Unsent :=
  record_only (fun _ _ => trivial) trivial messageID status

omit [Collation] in
theorem createReceipts_unsent (userGUIDs : List String)
    (clientID kindID : String) :
    (ReceiptsRepo.createReceipts .connection userGUIDs clientID kindID).Only
      Unsent :=
  ReceiptsRepo.createReceipts_only trivial (fun _ => trivial) _ _ _

variable (worker : Worker) {environment : Environment}

theorem sendMail_honoured {delivery : Delivery} {world : World}
    (allowed : MayDeliver world.database.tables delivery)
    (message : Mail.Message) :
    (sendMail message).Calls (World.handle environment)
      (Honoured delivery) world := by
  refine Program.calls_perform _ _ (.inl trivial) ?_
  split
  · exact trivial
  · refine Program.calls_perform _ _ (.inr allowed) ?_
    split <;> exact trivial

theorem deliverMail_honoured {delivery : Delivery} {world : World}
    (allowed : MayDeliver world.database.tables delivery) :
    (worker.deliverMail delivery).Calls (World.handle environment)
      (Honoured delivery) world := by
  refine Program.calls_bind _ _
    (honoured_of_quiet (worker.pack_quiet delivery) world) ?_
  intro packed after ran
  have same := run_quiet (worker.pack_quiet delivery) ran
  cases packed with
  | error error => exact honoured_of_unsent (record_unsent _ _) after
  | ok message =>
      refine Program.calls_bind _ _
        (sendMail_honoured (by rwa [same]) message) ?_
      intro status later _
      exact honoured_of_unsent (record_unsent _ _) later

theorem deliverTo_honoured (job : Gobble.Job) (delivery : Delivery)
    (world : World) :
    (worker.deliverTo job delivery).Calls (World.handle environment)
      (Honoured delivery) world := by
  refine Program.calls_bind _ _
    (honoured_of_quiet (shouldDeliver_quiet delivery) world) ?_
  intro decided after ran
  obtain ⟨statements, decides⟩ := run_shouldDeliver environment world delivery
  rw [decides] at ran
  cases ran
  cases decided : decision (fun index =>
      environment.faults (world.statements + index))
      world.database.tables delivery with
  | false => exact trivial
  | true =>
      refine Program.calls_bind _ _
        (worker.deliverMail_honoured (mayDeliver_of_decision decided)) ?_
      rintro ⟨status, err⟩ later _
      dsimp only
      split <;> exact trivial

/-- An attempt sends only what the tables allow at that moment. -/
theorem deliver_honoured (job : Gobble.Job) {delivery : Delivery}
    (read : worker.unmarshal job.payload = .ok delivery) (world : World) :
    (worker.deliver job).Calls (World.handle environment)
      (Honoured delivery) world := by
  rw [deliver, read]
  refine Program.calls_bind _ _
    (honoured_of_unsent (createReceipts_unsent _ _ _) world) ?_
  intro err after _
  cases err with
  | some error => exact trivial
  | none =>
      refine Program.calls_bind _ _
        (honoured_of_quiet (findEmail_quiet delivery) after) ?_
      intro email later _
      cases email with
      | none => exact trivial
      | some email =>
          exact worker.deliverTo_honoured job
            { delivery with email := email } later

end Worker

/-! ## Runs of the service -/

inductive Operation where
  | updatePreferences (conn : Conn) (preferences : List Services.Preference)
      (globalUnsubscribe : Bool) (userID : String)
  | register (conn : Conn) (client : Client) (kinds : List Kind)
      (prune : Bool)
  | enqueue (job : Gobble.Job)
  /-- one call of `Worker.Perform` that reserves the job with this ID -/
  | perform (id : Nat) (workerID : String)

structure Event where
  operation : Operation
  environment : Environment

/-- A call that an attempt on a job made, and the world at that moment. -/
structure Call where
  job : Gobble.Job
  world : World
  op : Op

/-- The handlers pass a transaction to the services, `Notify` its
connection. -/
def onConn (conn : Conn) (body : Conn → Prog (Option Error)) :
    Prog (Option Error) :=
  match conn with
  | .connection => body .connection
  | .transaction => inTransaction (body .transaction)

/-- One attempt.  A panic of `Deliver` ends the process, with the job
reserved. -/
def Worker.perform (worker : Worker) (environment : Environment) (id : Nat)
    (workerID : String) (world : World) : Option (World × List Call) := do
  let found ← Gobble.findJob (environment.clock 0) world.jobs id
  match Gobble.updateJob world.jobs found workerID with
  | .error _ => none
  | .ok (jobs, job) =>
      let reserved := { world with jobs := jobs }
      let handle := World.handle environment
      let shown := ((worker.deliver job).trace handle reserved).map
        fun call => Call.mk job call.1 call.2
      match (worker.deliver job).run handle reserved with
      | (none, after) => some (after, shown)
      | (some outcome, after) =>
          let now := environment.clock after.statements
          some ({ after with jobs := finish now job outcome after.jobs },
            shown)

/-- Every operation counts its statements from 0. -/
def World.restarted (world : World) : World :=
  { world with transaction := none, statements := 0, services := 0 }

def service (worker : Worker) : Machine World Event Call where
  step world event :=
    let world := World.restarted world
    let handle := World.handle event.environment
    match event.operation with
    | .updatePreferences conn preferences globalUnsubscribe userID =>
        some (((onConn conn fun conn =>
          PreferenceUpdater.execute conn preferences globalUnsubscribe
            userID).run handle world).2, [])
    | .register conn client kinds prune =>
        some (((onConn conn (registration client kinds prune)).run handle
          world).2, [])
    | .enqueue job => some ((handle world (.enqueue job)).2, [])
    | .perform id workerID =>
        worker.perform event.environment id workerID world

/-- If the call is a send, the tables allow the delivery in its job. -/
def Call.Honoured (worker : Worker) (call : Call) : Prop :=
  ∀ message, call.op = .service (.send message) →
    ∃ delivery, worker.unmarshal call.job.payload = .ok delivery ∧
      MayDeliver call.world.database.tables delivery

theorem deliver_shown (worker : Worker) (environment : Environment)
    (job : Gobble.Job) (world : World) {shown : World × Op}
    (made : shown ∈
      (worker.deliver job).trace (World.handle environment) world) :
    (Call.mk job shown.1 shown.2).Honoured worker := by
  intro message sends
  cases read : worker.unmarshal job.payload with
  | error text =>
      simp [Worker.deliver, read, Program.trace] at made
  | ok delivery =>
      refine ⟨delivery, rfl, ?_⟩
      have honoured := (Program.calls_iff_trace _ _).mp
        (worker.deliver_honoured job read world) shown made
      rcases honoured with unsent | allowed
      · simp only at sends
        rw [sends] at unsent
        cases unsent
      · exact allowed

theorem perform_honoured {worker : Worker} {environment : Environment}
    {id : Nat} {workerID : String} {world next : World} {shown : List Call}
    (performed : worker.perform environment id workerID world =
      some (next, shown)) :
    ∀ call ∈ shown, call.Honoured worker := by
  simp only [Worker.perform] at performed
  obtain ⟨found, _, performed⟩ := Option.bind_eq_some_iff.mp performed
  split at performed
  · cases performed
  · rename_i jobs job _
    have calls : shown = ((worker.deliver job).trace
        (World.handle environment) { world with jobs := jobs }).map
          fun call => Call.mk job call.1 call.2 := by
      split at performed <;> cases performed <;> rfl
    intro call member
    rw [calls] at member
    obtain ⟨made, inTrace, rfl⟩ := List.mem_map.mp member
    exact deliver_shown worker environment job _ inTrace

theorem step_honoured {worker : Worker} {world next : World} {event : Event}
    {shown : List Call}
    (stepped : (service worker).step world event = some (next, shown)) :
    ∀ call ∈ shown, call.Honoured worker := by
  obtain ⟨operation, environment⟩ := event
  cases operation with
  | perform id workerID => exact perform_honoured stepped
  | updatePreferences conn preferences globalUnsubscribe userID =>
      cases stepped
      simp
  | register conn client kinds prune =>
      cases stepped
      simp
  | enqueue job =>
      cases stepped
      simp

/-- Unsubscription is always honoured: over any run, from any database, with
any failing statements, a message handed to the mail client is for a critical
kind or for a user who has not unsubscribed, in the tables of that moment. -/
theorem unsubscription_honoured (worker : Worker) (events : List Event)
    (start final : World) (shown : List Call)
    (ran : (service worker).run events start = some (final, shown))
    (call : Call) (made : call ∈ shown) (message : Mail.Message)
    (sends : call.op = .service (.send message)) :
    ∃ delivery, worker.unmarshal call.job.payload = .ok delivery ∧
      MayDeliver call.world.database.tables delivery := by
  have kept := (service worker).run_invariant (fun _ _ => True)
    (fun trace _ => ∀ call ∈ trace, call.Honoured worker) ?_ events []
    start final shown (by simp)
    ((service worker).guarded_of_forall (fun _ _ _ => trivial) start) ran
  · exact kept call (by simpa using made) message sends
  · intro trace world event next later honoured _ stepped call member
    rcases List.mem_append.mp member with earlier | new
    · exact honoured call earlier
    · exact step_honoured stepped call new

/-- A critical kind, and a user who has unsubscribed from everything. -/
def criticalWorld : World :=
  .start [
    .insert .clients ⟨0, "client", "", 0, "default"⟩,
    .insert .kinds ⟨0, "kind", "", true, "client", 0, 0, "default"⟩,
    .insert .templates ⟨0, "default", "", "", "", "", "", 0, 0, false⟩,
    .insert .globalUnsubscribes ⟨0, "user", 0⟩]

def queuedAndPerformed : List Event :=
  [⟨.enqueue (Gobble.newJob ""), .calm⟩, ⟨.perform 1 "worker", .calm⟩]

end Collated

attribute [local instance] Collation.binary

theorem unsubscription_honoured_critical :
    ∃ final shown call message,
      (service sampleWorker).run queuedAndPerformed criticalWorld =
        some (final, shown) ∧ call ∈ shown ∧
      call.op = .service (.send message) ∧
      ∃ delivery, sampleWorker.unmarshal call.job.payload = .ok delivery ∧
        MayDeliver call.world.database.tables delivery := by
  have ran : (service sampleWorker).run queuedAndPerformed criticalWorld =
      some (((service sampleWorker).run queuedAndPerformed
        criticalWorld).get rfl) :=
    (Option.some_get rfl).symm
  -- the tenth call of the attempt is the send
  have made := List.mem_of_getElem? (rfl :
    (((service sampleWorker).run queuedAndPerformed
      criticalWorld).get rfl).2[9]? = some _)
  exact ⟨_, _, _, _, ran, made, rfl,
    unsubscription_honoured _ _ _ _ _ ran _ made _ rfl⟩

end Notifications.Postal
