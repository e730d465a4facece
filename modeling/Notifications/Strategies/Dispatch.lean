import Notifications.Lib.Contract
import Notifications.Strategies.Mailer

/-!
# The strategies

`Dispatch` of the six strategies: whom a notification is for, and what the
recipients are told about why they receive it.  The users, spaces and
organizations come from services outside the repository.
-/

set_option autoImplicit false

namespace Notifications.Strategies

open Notifications.Lib Notifications.Models Notifications.Postal

inductive Strategy where
  | user
  | email
  | space
  | organization
  | everyone
  | uaaScope
  deriving DecidableEq, Repr

namespace Strategy

variable (marshal : Delivery → String)

def noSpace : Space := ⟨"", "", ""⟩

def noOrganization : Organization := ⟨"", ""⟩

def recipients (guids : List String) : List Recipient :=
  guids.map fun guid => ⟨guid, ""⟩

def userEndorsement : String := "This message was sent directly to you."

def emailEndorsement : String :=
  "This message was sent directly to your email address."

def spaceEndorsement : String :=
  "You received this message because you belong to the \x7b\x7b.Space\x7d\x7d space in the \x7b\x7b.Organization\x7d\x7d organization."

def organizationEndorsement : String :=
  "You received this message because you belong to the \x7b\x7b.Organization\x7d\x7d organization."

def organizationRoleEndorsement : String :=
  "You received this message because you are an \x7b\x7b.OrganizationRole\x7d\x7d in the \x7b\x7b.Organization\x7d\x7d organization."

def everyoneEndorsement : String := "This message was sent to everyone."

def scopeEndorsement : String :=
  "You received this message because you have the \x7b\x7b.Scope\x7d\x7d scope."

def defaultScopes : List String :=
  [ "cloud_controller.read", "cloud_controller.write", "openid",
    "approvals.me", "cloud_controller_service_permissions.read", "scim.me",
    "uaa.user", "password.write", "scim.userids", "oauth.approvals" ]

/-- `mailer.Deliver`, which has no error to return. -/
def deliver (request : Request) (users : List Recipient) :
    Prog (Except Error (List Response)) := do
  let responses ← Mailer.deliver marshal request users
  pure (.ok responses)

def dispatchSpace (clientID guid : String) (options : Options) :
    Prog (Except Error (List Response)) := do
  match ← Program.perform (Op.service .loadToken) with
  | .error error => pure (.error error)
  | .ok token =>
      match ← Program.perform
          (Op.service (.userGUIDsBelongingToSpace guid token)) with
      | .error error => pure (.error error)
      | .ok guids =>
          match ← Program.perform (Op.service (.loadSpace guid token)) with
          | .error error => pure (.error error)
          | .ok (spaceGUID, spaceName, organizationGUID) =>
              match ← Program.perform (Op.service
                  (.loadOrganization organizationGUID token)) with
              | .error error => pure (.error error)
              | .ok (guid, name) =>
                  deliver marshal
                    ⟨{ options with endorsement := spaceEndorsement },
                      ⟨spaceGUID, spaceName, organizationGUID⟩, ⟨guid, name⟩,
                      clientID, ""⟩
                    (recipients guids)

def dispatchOrganization (clientID guid : String) (options : Options) :
    Prog (Except Error (List Response)) := do
  let endorsement := if options.role ≠ "" then organizationRoleEndorsement
    else organizationEndorsement
  match ← Program.perform (Op.service .loadToken) with
  | .error error => pure (.error error)
  | .ok token =>
      match ← Program.perform
          (Op.service (.loadOrganization guid token)) with
      | .error error => pure (.error error)
      | .ok (organizationGUID, name) =>
          match ← Program.perform (Op.service
              (.userGUIDsBelongingToOrganization guid options.role
                token)) with
          | .error error => pure (.error error)
          | .ok guids =>
              deliver marshal
                ⟨{ options with endorsement := endorsement }, noSpace,
                  ⟨organizationGUID, name⟩, clientID, ""⟩
                (recipients guids)

def dispatchEveryone (clientID : String) (options : Options) :
    Prog (Except Error (List Response)) := do
  match ← Program.perform (Op.service .loadToken) with
  | .error error => pure (.error error)
  | .ok _ =>
      match ← Program.perform (Op.service .allUserGUIDs) with
      | .error error => pure (.error error)
      | .ok guids =>
          deliver marshal
            ⟨{ options with endorsement := everyoneEndorsement }, noSpace,
              noOrganization, clientID, ""⟩
            (recipients guids)

def dispatchUAAScope (clientID scope : String) (options : Options) :
    Prog (Except Error (List Response)) := do
  if defaultScopes.contains scope then
    pure (.error .defaultScope)
  else
    match ← Program.perform (Op.service .loadToken) with
    | .error error => pure (.error error)
    | .ok _ =>
        match ← Program.perform
            (Op.service (.userGUIDsBelongingToScope scope)) with
        | .error error => pure (.error error)
        | .ok guids =>
            deliver marshal
              ⟨{ options with endorsement := scopeEndorsement }, noSpace,
                noOrganization, clientID, scope⟩
              (recipients guids)

def dispatch (clientID guid : String) (options : Options) :
    Strategy → Prog (Except Error (List Response))
  | user =>
      deliver marshal
        ⟨{ options with endorsement := userEndorsement }, noSpace,
          noOrganization, clientID, ""⟩
        [⟨guid, ""⟩]
  | email =>
      deliver marshal
        ⟨{ options with endorsement := emailEndorsement }, noSpace,
          noOrganization, clientID, ""⟩
        [⟨"", options.toAddress⟩]
  | space => dispatchSpace marshal clientID guid options
  | organization => dispatchOrganization marshal clientID guid options
  | everyone => dispatchEveryone marshal clientID options
  | uaaScope => dispatchUAAScope marshal clientID guid options

end Strategy

/-! ## A rule for dispatches -/

/-- A contract under which services may be asked, teach nothing, and an error
may be returned. -/
structure Asks {Knowledge : Type} (contract : Contract Op Answer Knowledge)
    (done : Knowledge → Except Error (List Response) → Prop)
    (known : Knowledge) : Prop where
  may : ∀ service, contract.may known (.service service)
  taught : ∀ service answer,
    contract.learn known (.service service) answer = known
  failed : ∀ error, done known (.error error)

section Rule

variable {Knowledge : Type} {contract : Contract Op Answer Knowledge}
  {done : Knowledge → Except Error (List Response) → Prop}
  {known : Knowledge} {marshal : Delivery → String} {clientID : String}
  {options : Options}

theorem Asks.service (asks : Asks contract done known) {service : Service}
    {rest : service.Reply → Prog (Except Error (List Response))}
    (next : ∀ answer, (rest answer).Meets contract done known) :
    (Program.perform (Op.service service) >>= rest).Meets contract done
      known := by
  refine Program.meets_perform (asks.may service) ?_
  intro answer _
  rw [asks.taught]
  exact next answer

/-- What every delivery of the client's notification meets, every strategy
meets: before it delivers, it asks services only. -/
theorem Asks.dispatch (asks : Asks contract done known)
    (delivers : ∀ request users, request.clientID = clientID →
      request.options.kindID = options.kindID →
        (Strategy.deliver marshal request users).Meets contract done known)
    (guid : String) (strategy : Strategy) :
    (strategy.dispatch marshal clientID guid options).Meets contract done
      known := by
  cases strategy with
  | user => exact delivers _ _ rfl rfl
  | email => exact delivers _ _ rfl rfl
  | space =>
      refine asks.service fun token => ?_
      cases token with
      | error error => exact asks.failed error
      | ok token =>
          refine asks.service fun guids => ?_
          cases guids with
          | error error => exact asks.failed error
          | ok guids =>
              refine asks.service fun space => ?_
              cases space with
              | error error => exact asks.failed error
              | ok space =>
                  refine asks.service fun organization => ?_
                  cases organization with
                  | error error => exact asks.failed error
                  | ok organization => exact delivers _ _ rfl rfl
  | organization =>
      refine asks.service fun token => ?_
      cases token with
      | error error => exact asks.failed error
      | ok token =>
          refine asks.service fun organization => ?_
          cases organization with
          | error error => exact asks.failed error
          | ok organization =>
              refine asks.service fun guids => ?_
              cases guids with
              | error error => exact asks.failed error
              | ok guids => exact delivers _ _ rfl rfl
  | everyone =>
      refine asks.service fun token => ?_
      cases token with
      | error error => exact asks.failed error
      | ok token =>
          refine asks.service fun guids => ?_
          cases guids with
          | error error => exact asks.failed error
          | ok guids => exact delivers _ _ rfl rfl
  | uaaScope =>
      rw [Strategy.dispatch, Strategy.dispatchUAAScope]
      split
      · exact asks.failed .defaultScope
      · refine asks.service fun token => ?_
        cases token with
        | error error => exact asks.failed error
        | ok token =>
            refine asks.service fun guids => ?_
            cases guids with
            | error error => exact asks.failed error
            | ok guids => exact delivers _ _ rfl rfl

end Rule

/-! ## The calls of a dispatch -/

/-- No statement but on `messages`. -/
def Messaging : Op → Prop
  | .sql _ statement => statement.table = .messages
  | _ => True

/-- What `Deliver` calls: statements on `messages`, the queue and new GUIDs. -/
def Mailing : Op → Prop
  | .sql _ statement => statement.table = .messages
  | .service .newGUID => True
  | .service _ => False
  | _ => True

theorem messaging_of_mailing {op : Op} (mailing : Mailing op) :
    Messaging op := by
  cases op with
  | sql conn statement => exact mailing
  | _ => exact trivial

theorem dereference_mailing {α : Type} (reply : Reply α) :
    (dereference reply).Only Mailing := by
  cases reply <;> exact trivial

theorem queueAll_mailing (entries : List (String × Gobble.Job)) :
    (Mailer.queueAll entries).Only Mailing := by
  have undone : (do
      let _ ← rollback
      pure false : Prog Bool).Only Mailing :=
    Program.only_bind (Program.only_perform trivial dereference_mailing)
      fun _ => trivial
  induction entries with
  | nil => exact trivial
  | cons entry rest ih =>
      apply Program.only_perform trivial
      intro enqueued
      cases enqueued with
      | error text => exact undone
      | ok job =>
          apply Program.only_bind (MessagesRepo.upsert_only
            (fun _ same => same) trivial _)
          rintro ⟨stored, err⟩
          cases err with
          | some error => exact undone
          | none => exact ih

section Dispatch

variable (marshal : Delivery → String)

theorem deliver_mailing (request : Request) (users : List Recipient) :
    (Strategy.deliver marshal request users).Only Mailing := by
  refine Program.only_bind ?_ fun _ => trivial
  apply Program.only_bind (prepare_only trivial marshal request users ∅)
  rintro ⟨jobs, responses⟩
  apply Program.only_perform trivial
  intro begun
  apply Program.only_perform trivial
  intro order
  apply Program.only_bind (queueAll_mailing _)
  intro queued
  cases queued with
  | false => exact trivial
  | true =>
      apply Program.only_bind (Program.only_perform trivial
        dereference_mailing)
      intro committed
      cases committed <;> exact trivial

theorem dispatch_messaging (clientID guid : String) (options : Options)
    (strategy : Strategy) :
    (strategy.dispatch marshal clientID guid options).Only Messaging := by
  have asks : Asks ⟨fun _ => Messaging, fun _ _ => True, fun _ _ _ => ()⟩
      (fun _ _ => True) () :=
    ⟨fun _ => trivial, fun _ _ => rfl, fun _ => trivial⟩
  refine Program.only_of_meets (asks.dispatch ?_ guid strategy)
  intro request users _ _
  exact Program.meets_of_only (fun _ => messaging_of_mailing)
    (fun _ _ _ => rfl) (deliver_mailing marshal request users)
    fun _ => trivial

end Dispatch

end Notifications.Strategies
