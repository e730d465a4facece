import Notifications.Postal.DeliveryWorker

/-!
# What an attempt decides

`shouldDeliver` in closed form, for every combination of failing statements,
and which parts of `Deliver` change what: the receipts are written before the
decision, and nothing else is written until the message has been handed to the
mail client.
-/

set_option autoImplicit false

namespace Notifications.Postal

open Notifications.Lib Notifications.Models

section Collated

variable [Collation]

/-! ## Reading programs -/

theorem TemplatesLoader.loadTemplate_quiet (templateID : String) :
    (TemplatesLoader.loadTemplate templateID).Only Quiet := by
  refine Program.only_bind (TemplatesRepo.findByID_quiet _ _) ?_
  rintro ⟨template, err⟩
  cases err <;> exact trivial

theorem TemplatesLoader.loadClientTemplate_quiet (clientID : String) :
    (TemplatesLoader.loadClientTemplate clientID).Only Quiet := by
  refine Program.only_bind (ClientsRepo.find_quiet _ _) ?_
  rintro ⟨client, err⟩
  cases err with
  | none => exact TemplatesLoader.loadTemplate_quiet _
  | some error => exact trivial

theorem TemplatesLoader.loadTemplates_quiet (clientID kindID : String) :
    (TemplatesLoader.loadTemplates clientID kindID).Only Quiet := by
  unfold TemplatesLoader.loadTemplates
  split
  · refine Program.only_bind (KindsRepo.find_quiet _ _ _) ?_
    rintro ⟨kind, err⟩
    cases err with
    | none =>
        simp only
        split
        · exact TemplatesLoader.loadTemplate_quiet _
        · exact TemplatesLoader.loadClientTemplate_quiet _
    | some error => exact trivial
  · exact TemplatesLoader.loadClientTemplate_quiet _

omit [Collation] in
theorem newMessageContext_quiet (delivery : Delivery) (sender key : String)
    (templates : Templates) :
    (newMessageContext delivery sender key templates).Only Quiet := by
  refine ⟨trivial, ?_⟩
  intro answer
  cases answer <;> exact trivial

namespace Worker

variable (worker : Worker)

theorem pack_quiet (delivery : Delivery) :
    (worker.pack delivery).Only Quiet := by
  refine Program.only_perform trivial ?_
  intro cloak
  cases cloak with
  | error text => exact trivial
  | ok _ =>
      refine Program.only_bind (TemplatesLoader.loadTemplates_quiet _ _) ?_
      intro loaded
      cases loaded with
      | error error => exact trivial
      | ok templates =>
          refine Program.only_bind (newMessageContext_quiet _ _ _ _) ?_
          intro context
          cases Packager.pack worker.engine context <;> exact trivial

omit [Collation] in
theorem findEmail_only {allowed : Op → Prop}
    (loads : allowed (.service .loadToken))
    (asks : ∀ token guids,
      allowed (.service (.usersEmailsByIDs token guids)))
    (delivery : Delivery) : (findEmail delivery).Only allowed := by
  unfold findEmail
  split
  · refine Program.only_perform loads ?_
    intro token
    cases token with
    | error error => exact trivial
    | ok token =>
        refine Program.only_bind ?_ ?_
        · refine Program.only_perform (asks _ _) ?_
          intro records
          cases records <;> exact trivial
        · intro loaded
          cases loaded with
          | error error => exact trivial
          | ok users =>
              simp only
              split <;> exact trivial
  · exact trivial

omit [Collation] in
theorem findEmail_quiet (delivery : Delivery) :
    (findEmail delivery).Only Quiet :=
  findEmail_only trivial (fun _ _ => trivial) delivery

/-! ## Writing programs -/

section Parts

variable {allowed : Op → Prop}

omit [Collation] in
theorem record_only (messages : ∀ statement : Statement,
      statement.table = .messages → allowed (.sql .connection statement))
    (now : allowed .now) (messageID : String) (status : Status) :
    (record messageID status).Only allowed := by
  refine Program.only_bind ?_ fun _ => trivial
  refine Program.only_bind ?_ fun _ => trivial
  exact MessagesRepo.upsert_only messages now _

omit [Collation] in
theorem sendMail_only (services : ∀ service, allowed (.service service))
    (message : Mail.Message) : (sendMail message).Only allowed := by
  refine Program.only_perform (services _) ?_
  intro connected
  cases connected with
  | error text => exact trivial
  | ok _ =>
      refine Program.only_perform (services _) ?_
      intro sent
      cases sent <;> exact trivial

end Parts

/-! ## The decision -/

/-- What `isCritical` makes of the kind's row and of a failing statement. -/
def seenCritical (fault : Option String) (kind : Option Kind) : Bool :=
  match fault, kind with
  | none, some kind => kind.critical
  | _, _ => false

theorem run_isCritical (environment : Environment) (world : World)
    (kindID clientID : String) :
    (isCritical kindID clientID).run (World.handle environment) world =
      (some (seenCritical (environment.faults world.statements)
        (world.database.tables.lookup .kinds
          (Collation.key [kindID, clientID]))),
          world.counted) := by
  have present : world.read .connection = some world.database := rfl
  rw [isCritical, Program.run_bind_of _ (KindsRepo.run_find present _ _)]
  cases environment.faults world.statements <;>
    cases world.database.tables.lookup .kinds
      (Collation.key [kindID, clientID]) <;> rfl

/-- The kind, the global unsubscribe and the unsubscribe of a delivery. -/
def kindOf (tables : Tables) (delivery : Delivery) : Option Kind :=
  tables.lookup .kinds
    (Collation.key [delivery.options.kindID, delivery.clientID])

def globalUnsubscribeOf (tables : Tables) (delivery : Delivery) :
    Option GlobalUnsubscribe :=
  tables.lookup .globalUnsubscribes (Collation.key [delivery.userGUID])

def unsubscribeOf (tables : Tables) (delivery : Delivery) :
    Option Unsubscribe :=
  tables.lookup .unsubscribes
    (Collation.key
      [delivery.userGUID, delivery.clientID, delivery.options.kindID])

/-- `shouldDeliver` in closed form; `faults` are those of its statements. -/
def decision (faults : Nat → Option String) (tables : Tables)
    (delivery : Delivery) : Bool :=
  seenCritical (faults 0) (kindOf tables delivery) ||
    ((faults 1).isNone && (globalUnsubscribeOf tables delivery).isNone &&
      ((faults 2).isNone && (unsubscribeOf tables delivery).isNone &&
        usable delivery.email))

theorem run_get (environment : Environment) (world : World)
    (userGUID : String) :
    (GlobalUnsubscribesRepo.get .connection userGUID).run
        (World.handle environment) world =
      (some
        (match environment.faults world.statements,
            world.database.tables.lookup .globalUnsubscribes
              (Collation.key [userGUID]) with
        | some text, _ => (false, some (.sql text))
        | none, none => (false, none)
        | none, some _ => (true, none)), world.counted) := by
  have present : world.read .connection = some world.database := rfl
  rw [GlobalUnsubscribesRepo.get,
    Program.run_bind_of _ (GlobalUnsubscribesRepo.run_find present _)]
  cases environment.faults world.statements <;>
    cases world.database.tables.lookup .globalUnsubscribes
      (Collation.key [userGUID]) <;> rfl

theorem run_shouldDeliver (environment : Environment) (world : World)
    (delivery : Delivery) :
    ∃ statements,
      (shouldDeliver delivery).run (World.handle environment) world =
        (some (decision (fun index =>
            environment.faults (world.statements + index))
          world.database.tables delivery),
          { world with statements := statements }) := by
  have present : world.counted.counted.read .connection =
      some world.database := rfl
  rw [shouldDeliver, Program.run_bind_of _ (run_isCritical _ _ _ _), decision,
    kindOf, globalUnsubscribeOf, unsubscribeOf, Nat.add_zero]
  cases seenCritical (environment.faults world.statements)
      (world.database.tables.lookup .kinds
        (Collation.key [delivery.options.kindID, delivery.clientID])) with
  | true => exact ⟨_, rfl⟩
  | false =>
      simp only [Bool.false_eq_true, if_false, Bool.false_or]
      rw [Program.run_bind_of _ (run_get _ _ _), World.counted_statements,
        World.counted_database]
      cases environment.faults (world.statements + 1) with
      | some text => exact ⟨_, rfl⟩
      | none =>
          cases world.database.tables.lookup .globalUnsubscribes
              (Collation.key [delivery.userGUID]) with
          | some row => exact ⟨_, rfl⟩
          | none =>
              simp only
              rw [Program.run_bind_of _
                (UnsubscribesRepo.run_find present _ _ _)]
              simp only [World.counted_statements]
              cases environment.faults (world.statements + 1 + 1) <;>
                cases world.database.tables.lookup .unsubscribes
                  (Collation.key [delivery.userGUID, delivery.clientID,
                    delivery.options.kindID]) <;>
                exact ⟨_, rfl⟩

end Worker

end Collated

/-! ## A sample delivery -/

attribute [local instance] Collation.binary

def sampleDelivery : Delivery :=
  ⟨sampleOptions, "user", "user@example.com", ⟨"", "", ""⟩, ⟨"", ""⟩,
    "client", "message", ""⟩

def sampleWorker : Worker where
  unmarshal _ := .ok sampleDelivery
  engine source := .ok fun _ => (source, none)
  sender := "sender@example.com"
  encryptionKey := "key"

end Notifications.Postal
