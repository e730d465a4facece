import Notifications.Postal.Dropping
import Notifications.Postal.Rendering

/-!
# Where messages are sent to

`Deliver` chooses the address of a delivery, and `shouldDeliver` judges it, but
only after the preferences: a critical kind has been let through by then.  An
attempt on a kind that is seen to be critical packs and sends its message to
whatever address was found, and it is the only one that does.
-/

set_option autoImplicit false

namespace Notifications.Postal

open Notifications.Lib Notifications.Models

section Collated

variable [Collation]

namespace Worker

/-- The call neither starts to pack a message, as only `pack` asks for a
cloak, nor hands one to the mail client. -/
def Held : Op → Prop
  | .service (.newCloak _) => False
  | .service (.send _) => False
  | _ => True

/-- A message that the call hands to the mail client goes to this address. -/
def SentTo (address : String) : Op → Prop
  | .service (.send message) => message.toAddress = address
  | _ => True

omit [Collation] in
theorem sentTo_of_unsent {address : String} {op : Op} (unsent : Unsent op) :
    SentTo address op := by
  cases op with
  | service service => cases service <;> trivial
  | _ => trivial

omit [Collation] in
theorem createReceipts_held (userGUIDs : List String)
    (clientID kindID : String) :
    (ReceiptsRepo.createReceipts .connection userGUIDs clientID kindID).Only
      Held :=
  ReceiptsRepo.createReceipts_only trivial (fun _ => trivial) _ _ _

omit [Collation] in
theorem findEmail_held (delivery : Delivery) :
    (findEmail delivery).Only Held :=
  findEmail_only trivial (fun _ _ => trivial) delivery

theorem shouldDeliver_held (delivery : Delivery) :
    (shouldDeliver delivery).Only Held :=
  shouldDeliver_only (fun _ _ _ => trivial) delivery

variable (worker : Worker) {environment : Environment}

/-- A packed message goes to the address of its delivery. -/
theorem pack_addressed {delivery : Delivery} {message : Mail.Message}
    {world after : World}
    (packs : (worker.pack delivery).run (World.handle environment) world =
      (some (.ok message), after)) :
    message.toAddress = delivery.email := by
  obtain ⟨templates, unsubscribeID, packed⟩ := worker.pack_some packs
  obtain ⟨_, rfl⟩ := (Packager.pack_ok _).mp packed
  rfl

theorem calls_sentTo {α : Type} {program : Prog α}
    (unsent : program.Only Unsent) (address : String) (world : World) :
    program.Calls (World.handle environment)
      (fun _ => SentTo address) world :=
  Program.calls_of_only _ (fun _ => SentTo address)
    (fun _ _ => sentTo_of_unsent) unsent world

theorem deliverMail_addressed (delivery : Delivery) (world : World) :
    (worker.deliverMail delivery).Calls (World.handle environment)
      (fun _ => SentTo delivery.email) world := by
  refine Program.calls_bind _ _ (calls_sentTo
    ((worker.pack_quiet delivery).weaken fun _ => unsent_of_quiet) _ _) ?_
  intro packed after packs
  cases packed with
  | error error => exact calls_sentTo (record_unsent _ _) _ _
  | ok message =>
      refine Program.calls_bind _ _ ?_ fun status later _ =>
        calls_sentTo (record_unsent _ _) _ _
      refine Program.calls_perform _ _ trivial ?_
      split
      · exact trivial
      · refine Program.calls_perform _ _ (worker.pack_addressed packs) ?_
        split <;> exact trivial

theorem deliverMail_packs (delivery : Delivery) (world : World) :
    (world, Op.service (.newCloak worker.encryptionKey)) ∈
      (worker.deliverMail delivery).trace (World.handle environment) world :=
  List.mem_cons_self

/-- A call that is not held back is made for an address that the delivery has
and that `shouldDeliver` let through; messages go there. -/
def Aimed (environment : Environment) (world : World) (delivery : Delivery)
    (op : Op) : Prop :=
  Held op ∨ ∃ email, environment.faults world.statements = none ∧
    addressOf environment world.services delivery = some email ∧
    decision (fun index => environment.faults (world.statements + 1 + index))
      world.database.tables { delivery with email := email } = true ∧
    SentTo email op

theorem aimed_of_held {α : Type} {program : Prog α} {start : World}
    {delivery : Delivery} (held : program.Only Held) (world : World) :
    program.Calls (World.handle environment)
      (fun _ => Aimed environment start delivery) world :=
  Program.calls_of_only _ _ (fun _ _ held => .inl held) held world

theorem deliverTo_aimed (job : Gobble.Job) {delivery : Delivery}
    {world between : World} {email : String}
    (stored : environment.faults world.statements = none)
    (found : addressOf environment world.services delivery = some email)
    (statements : between.statements = world.statements + 1)
    (others : ∀ table, table ≠ .receipts →
      between.database.tables.rows table =
        world.database.tables.rows table) :
    (worker.deliverTo job { delivery with email := email }).Calls
      (World.handle environment)
      (fun _ => Aimed environment world delivery) between := by
  obtain ⟨counted, decides⟩ := run_shouldDeliver environment between
    { delivery with email := email }
  rw [statements, decision_congr others] at decides
  refine Program.calls_bind _ _ (aimed_of_held (shouldDeliver_held _) _) ?_
  intro decided after ran
  rw [decides] at ran
  cases ran
  cases decided : decision (fun index =>
      environment.faults (world.statements + 1 + index))
      world.database.tables { delivery with email := email } with
  | false => exact trivial
  | true =>
      refine Program.calls_bind _ _ ?_ ?_
      · rw [Program.calls_iff_trace]
        intro call member
        have sent := (Program.calls_iff_trace _ _).mp
          (worker.deliverMail_addressed _ _) call member
        exact .inr ⟨email, stored, found, decided, sent⟩
      · intro result later _
        obtain ⟨status, err⟩ := result
        dsimp only
        split <;> exact trivial

theorem deliver_aimed (job : Gobble.Job) {delivery : Delivery}
    (read : worker.unmarshal job.payload = .ok delivery) (world : World) :
    (worker.deliver job).Calls (World.handle environment)
      (fun _ => Aimed environment world delivery) world := by
  obtain ⟨written, receipt, statements, services, others⟩ :=
    run_createReceipt environment world delivery.userGUID delivery.clientID
      delivery.options.kindID
  rw [deliver, read]
  refine Program.calls_bind _ _ (aimed_of_held (createReceipts_held _ _ _) _)
    ?_
  intro err after ran
  rw [receipt] at ran
  cases ran
  cases stored : environment.faults world.statements with
  | some text => exact trivial
  | none =>
      obtain ⟨asked, searched⟩ := run_findEmail environment written delivery
      refine Program.calls_bind _ _ (aimed_of_held (findEmail_held _) _) ?_
      intro found later ran
      rw [searched, services] at ran
      cases ran
      cases found : addressOf environment world.services delivery with
      | none => exact trivial
      | some email =>
          exact worker.deliverTo_aimed job stored found statements others

end Worker

/-! ## Usable addresses -/

/-- `Deliver` goes on with an address, and it is usable. -/
def Addressed (environment : Environment) (services : Nat)
    (delivery : Delivery) : Prop :=
  ∃ email, addressOf environment services delivery = some email ∧
    Worker.usable email = true

/-- Whatever an attempt hands to the mail client has a usable address, and a
delivery without one is neither packed nor sent. -/
structure AddressesUsable (worker : Worker) (environment : Environment)
    (job : Gobble.Job) (world : World) : Prop where
  sent : ∀ call ∈ (worker.deliver job).trace (World.handle environment) world,
    ∀ message, call.2 = .service (.send message) →
      Worker.usable message.toAddress = true
  held : ∀ delivery, worker.unmarshal job.payload = .ok delivery →
    ¬ Addressed environment world.services delivery →
    ∀ call ∈ (worker.deliver job).trace (World.handle environment) world,
      Worker.Held call.2

/-- The address matters unless the kind is seen to be critical. -/
theorem Worker.decision_usable {faults : Nat → Option String}
    {tables : Tables} {delivery : Delivery}
    (decided : decision faults tables delivery = true)
    (ordinary : seenCritical (faults 0) (kindOf tables delivery) = true →
      usable delivery.email = true) :
    usable delivery.email = true := by
  simp only [decision, Bool.or_eq_true, Bool.and_eq_true] at decided
  rcases decided with critical | ⟨_, _, good⟩
  · exact ordinary critical
  · exact good

/-- An attempt on a kind that is seen to be critical starts to pack, whatever
the address. -/
theorem AddressesUsable.critical {worker : Worker}
    {environment : Environment} {job : Gobble.Job} {world : World}
    (safe : AddressesUsable worker environment job world)
    {delivery : Delivery} {email : String}
    (read : worker.unmarshal job.payload = .ok delivery)
    (stored : environment.faults world.statements = none)
    (found : addressOf environment world.services delivery = some email)
    (critical : Worker.seenCritical
      (environment.faults (world.statements + 1))
      (Worker.kindOf world.database.tables delivery) = true) :
    Worker.usable email = true := by
  by_contra bad
  have missing : ¬ Addressed environment world.services delivery := by
    intro facts
    obtain ⟨other, same, good⟩ := facts
    rw [found] at same
    cases same
    exact bad good
  obtain ⟨between, before, statements, others, _, _, trace⟩ :=
    worker.deliver_decides read stored found
  have decided : Worker.decision (fun index =>
      environment.faults (between.statements + index))
      between.database.tables { delivery with email := email } = true := by
    rw [Worker.decision_congr others, statements]
    simp only [Worker.decision, Nat.add_zero, Bool.or_eq_true]
    exact .inl critical
  obtain ⟨counted, decides⟩ := Worker.run_shouldDeliver environment between
    { delivery with email := email }
  rw [decided] at decides
  have held := safe.held delivery read missing
  rw [trace, Worker.deliverTo, Program.trace_bind_of _ decides] at held
  simp only [if_true] at held
  rw [Program.trace_bind] at held
  exact held _ (List.mem_append_right _ (List.mem_append_right _
    (List.mem_append_left _ (worker.deliverMail_packs _ _))))

/-- Exactly the attempts on kinds that are seen to be critical use an address
that is missing or has no `@`. -/
theorem addresses_usable_iff (worker : Worker) (environment : Environment)
    (job : Gobble.Job) (world : World) :
    AddressesUsable worker environment job world ↔
      ∀ delivery email, worker.unmarshal job.payload = .ok delivery →
        environment.faults world.statements = none →
        addressOf environment world.services delivery = some email →
        Worker.seenCritical (environment.faults (world.statements + 1))
          (Worker.kindOf world.database.tables delivery) = true →
        Worker.usable email = true := by
  constructor
  · intro safe delivery email read stored found critical
    exact safe.critical read stored found critical
  · intro ordinary
    have aimed (delivery : Delivery)
        (read : worker.unmarshal job.payload = .ok delivery) :
        ∀ call ∈ (worker.deliver job).trace (World.handle environment) world,
          Worker.Held call.2 ∨ ∃ email,
            addressOf environment world.services delivery = some email ∧
            Worker.usable email = true ∧ Worker.SentTo email call.2 := by
      intro call member
      have aims := (Program.calls_iff_trace _ _).mp
        (worker.deliver_aimed job read world) call member
      rcases aims with held | ⟨email, stored, found, decided, sent⟩
      · exact .inl held
      · exact .inr ⟨email, found, Worker.decision_usable decided
          (ordinary delivery email read stored found), sent⟩
    constructor
    · intro call member message sends
      cases read : worker.unmarshal job.payload with
      | error text => simp [Worker.deliver, read, Program.trace] at member
      | ok delivery =>
          rcases aimed delivery read call member with
            held | ⟨email, _, good, sent⟩
          · rw [sends] at held
            cases held
          · rw [sends] at sent
            have same : message.toAddress = email := sent
            rw [same]
            exact good
    · intro delivery read missing call member
      rcases aimed delivery read call member with
        held | ⟨email, found, good, _⟩
      · exact held
      · exact absurd ⟨email, found, good⟩ missing

/-- A delivery of a critical kind to an address without an `@`. -/
def carelessDelivery : Delivery := { sampleDelivery with email := "nowhere" }

end Collated

attribute [local instance] Collation.binary

theorem critical_kind_sent_nowhere :
    ¬ AddressesUsable { sampleWorker with
        unmarshal := fun _ => .ok carelessDelivery }
      .calm (Gobble.newJob "") criticalWorld := by
  intro safe
  have read : { sampleWorker with
      unmarshal := fun _ => .ok carelessDelivery }.unmarshal
      (Gobble.newJob "").payload = .ok carelessDelivery := rfl
  have usable : Worker.usable "nowhere" = true :=
    safe.critical read rfl rfl (by decide)
  exact absurd usable (by decide)

end Notifications.Postal
