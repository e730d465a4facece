import Notifications.Services
import Notifications.Strategies.Dispatch
import Notifications.Web.Authenticator
import Notifications.Web.Params

/-!
# The handlers that write clients, kinds and templates

`RegisterNotifications`, `RegisterClientWithNotifications`, `Notify`,
`UpdateNotifications`, `AssignClientTemplate`, `AssignNotificationTemplate`,
`CreateTemplate`, `UpdateTemplates`, `UpdateDefaultTemplate` and
`DeleteTemplates`.
A token's claims are what the authenticator has put into the context; a failed
type assertion on them is a panic.

The bodies of the notify endpoints, of a notification update and of a template
come as what their parsers and validators leave of them.
-/

set_option autoImplicit false

namespace Notifications.Web

open Notifications.Lib Notifications.Models Notifications.Services
open Notifications.Postal Notifications.Strategies

/-! ## Claims -/

/-- `token.Claims["client_id"].(string)`. -/
def clientIDOf (claims : Jwt.Fields) : Option String :=
  match claims.lookup "client_id" with
  | some (.string clientID) => some clientID
  | _ => none

/-- The loop over the scopes in `ValidateCriticalScopes`, which looks at all of
them. -/
def hasCriticalWrite : List Jwt.Json → Option Bool
  | [] => some false
  | .string scope :: rest => do
      let later ← hasCriticalWrite rest
      some (later || scope == "critical_notifications.write")
  | _ :: _ => none

def missingAuthority : Refusal :=
  .scopes
    "UAA Scopes Error: Client does not have authority to register critical notifications."

/-- The loop over the kinds in `ValidateCriticalScopes`. -/
def validatedKinds (hasCriticalWrite : Bool) (client : Client) :
    List Kind → Except Refusal (List Kind)
  | [] => .ok []
  | kind :: rest =>
      if kind.critical && !hasCriticalWrite then
        .error missingAuthority
      else
        match validatedKinds hasCriticalWrite client rest with
        | .error refusal => .error refusal
        | .ok validated => .ok ({ kind with clientID := client.id } :: validated)

/-- `none` is a panic. -/
def validateCriticalScopes (claims : Jwt.Fields) (kinds : List Kind)
    (client : Client) : Option (Except Refusal (List Kind)) :=
  match claims.lookup "scope" with
  | some (.array scopes) => do
      some (validatedKinds (← hasCriticalWrite scopes) client kinds)
  | _ => none

/-- What the authenticator in front of a handler does with a token that it has
parsed. -/
def authenticated (scopes : List String) (claims : Jwt.Fields)
    (handler : Prog (Option Refusal)) : Prog (Option Refusal) :=
  match (Authenticator.mk scopes "").containsATokenScope claims with
  | none => .panic interfaceConversion
  | some false => pure (some .unauthorized)
  | some true => handler

variable [Collation]

/-! ## The handlers -/

def executeRegistration (claims : Jwt.Fields) (description : String)
    (kinds : List Kind) (prune : Bool) : Prog (Option Refusal) :=
  match clientIDOf claims with
  | none => .panic interfaceConversion
  | some clientID =>
      let client := { Table.clients.zero with
        id := clientID
        description := description }
      match validateCriticalScopes claims kinds client with
      | none => .panic interfaceConversion
      | some (.error refusal) => pure (some refusal)
      | some (.ok kinds) => do
          let err ← inTransaction
            (registration client kinds prune .transaction)
          pure (err.map .failed)

/-- `RegisterNotifications.Execute`. -/
def registerNotifications (library : Library) (claims : Jwt.Fields)
    (body : Body) : Prog (Option Refusal) :=
  match newRegistration library body with
  | .error refusal => pure (some refusal)
  | .ok parameters =>
      match parameters.validate with
      | some refusal => pure (some refusal)
      | none =>
          executeRegistration claims parameters.sourceDescription
            parameters.kinds.values parameters.includesKinds

/-- The kinds that the loop of the second handler generates. -/
def generatedKinds (notifications : NotificationMap) (order : List String) :
    List Kind :=
  order.filterMap fun id =>
    (notifications.lookup id).join.map fun notification =>
      { Table.kinds.zero with
        id := notification.id
        description := notification.description
        critical := notification.critical
        templateID := doNotSetTemplateID }

/-- `RegisterClientWithNotifications.Execute`. -/
def registerClientWithNotifications (library : Library) (claims : Jwt.Fields)
    (body : Body) : Prog (Option Refusal) := do
  match ← newClientRegistration library body with
  | .error refusal => pure (some refusal)
  | .ok parameters =>
      match ← parameters.validate with
      | some refusal => pure (some refusal)
      | none =>
          let order ← Program.perform
            (Op.iterate parameters.notifications.keys)
          executeRegistration claims parameters.sourceName
            (generatedKinds parameters.notifications order.1)
            (!parameters.notifications.keys.isEmpty)

/-! ## Notifying -/

/-- `params.Notify`, as far as it is read. -/
structure NotifyParams where
  replyTo : String
  subject : String
  text : String
  parsedHTML : HTML
  kindID : String
  toAddress : String
  role : String
  deriving DecidableEq, Repr

def NotifyParams.toOptions (parameters : NotifyParams) (client : Client)
    (kind : Kind) : Options where
  replyTo := parameters.replyTo
  subject := parameters.subject
  kindDescription := kind.description
  sourceDescription := client.description
  text := parameters.text
  html := parameters.parsedHTML
  kindID := parameters.kindID
  toAddress := parameters.toAddress
  role := parameters.role
  endorsement := ""

/-- `hasCriticalNotificationsWriteScope`; `none` is a panic. -/
def hasCriticalNotificationsWriteScope (claims : Jwt.Fields) : Option Bool := do
  Authenticator.contains (← claims.lookup "scope")
    "critical_notifications.write"

/-- The second half of `Notify.Execute`, with the client and the kind. -/
def registerAndDispatch (marshal : Delivery → String) (strategy : Strategy)
    (guid : String) (parameters : NotifyParams) (client : Client)
    (kind : Kind) (clientID : String) : Prog (Option Refusal) := do
  match ← Registrar.register .connection client [kind] with
  | some error => pure (some (.failed error))
  | none =>
      match ← strategy.dispatch marshal clientID guid
          (parameters.toOptions client kind) with
      | .error error => pure (some (.failed error))
      | .ok _ => pure none

/-- The scopes are only looked at for a critical kind. -/
def allowedKind (claims : Jwt.Fields) (kind : Kind) : Option Bool :=
  if kind.critical then hasCriticalNotificationsWriteScope claims
  else some true

/-- `Notify.Execute`. -/
def notify (marshal : Delivery → String) (claims : Jwt.Fields)
    (strategy : Strategy) (guid : String)
    (parsed : Except Refusal NotifyParams) : Prog (Option Refusal) :=
  match parsed with
  | .error refusal => pure (some refusal)
  | .ok parameters =>
      match clientIDOf claims with
      | none => .panic interfaceConversion
      | some clientID => do
          match ← NotificationsFinder.clientAndKind clientID
              parameters.kindID with
          | .error error => pure (some (.failed error))
          | .ok (client, kind) =>
              match allowedKind claims kind with
              | none => .panic interfaceConversion
              | some false =>
                  pure (some (.failed (.criticalNotification kind.id)))
              | some true =>
                  registerAndDispatch marshal strategy guid parameters client
                    kind clientID

/-! ## Managing -/

structure NotificationUpdateParams where
  description : String
  critical : Bool
  templateID : String
  deriving DecidableEq, Repr

def NotificationUpdateParams.toModel (parameters : NotificationUpdateParams)
    (clientID notificationID : String) : Kind :=
  { Table.kinds.zero with
    description := parameters.description
    critical := parameters.critical
    templateID := parameters.templateID
    clientID := clientID
    id := notificationID }

/-- `UpdateNotifications.ServeHTTP`. -/
def updateNotifications (clientID notificationID : String)
    (parsed : Except Refusal NotificationUpdateParams) :
    Prog (Option Refusal) :=
  match parsed with
  | .error refusal => pure (some refusal)
  | .ok parameters => do
      let err ← NotificationsUpdater.update
        (parameters.toModel clientID notificationID)
      pure (err.map .failed)

/-- The decoding of a `TemplateAssignment`. -/
def decodeAssignment (body : Body) : Option String :=
  body.first.bind fun json =>
    Json.decodeStruct [⟨"template", Json.decodeString⟩] json ""

/-- `AssignClientTemplate.ServeHTTP`. -/
def assignClientTemplate (clientID : String) (body : Body) :
    Prog (Option Refusal) :=
  match decodeAssignment body with
  | none => pure (some .parse)
  | some template => do
      let err ← TemplateAssigner.assignToClient clientID template
      pure (err.map .failed)

/-- `AssignNotificationTemplate.ServeHTTP`. -/
def assignNotificationTemplate (clientID notificationID : String)
    (body : Body) : Prog (Option Refusal) :=
  match decodeAssignment body with
  | none => pure (some .parse)
  | some template => do
      let err ← TemplateAssigner.assignToNotification clientID notificationID
        template
      pure (err.map .failed)

/-! ## Templates -/

/-- `params.Template`, as `NewTemplate` returns it. -/
structure TemplateParams where
  name : String
  text : String
  html : String
  subject : String
  metadata : String
  deriving DecidableEq, Repr

def TemplateParams.toModel (parameters : TemplateParams) : Template :=
  { Table.templates.zero with
    name := parameters.name
    text := parameters.text
    html := parameters.html
    subject := parameters.subject
    metadata := parameters.metadata }

/-- `CreateTemplate.ServeHTTP`. -/
def createTemplate (parsed : Except Refusal TemplateParams) :
    Prog (Option Refusal) :=
  match parsed with
  | .error refusal => pure (some refusal)
  | .ok parameters => do
      match ← TemplateCreator.create parameters.toModel with
      | .error _ => pure (some .templateCreate)
      | .ok _ => pure none

/-- `UpdateTemplates.ServeHTTP`. -/
def updateTemplates (templateID : String)
    (parsed : Except Refusal TemplateParams) : Prog (Option Refusal) :=
  match parsed with
  | .error refusal => pure (some refusal)
  | .ok parameters => do
      let err ← TemplateUpdater.update templateID parameters.toModel
      pure (err.map .failed)

/-- `UpdateDefaultTemplate.ServeHTTP`. -/
def updateDefaultTemplate (parsed : Except Refusal TemplateParams) :
    Prog (Option Refusal) :=
  updateTemplates defaultTemplateID parsed

/-- `DeleteTemplates.ServeHTTP`. -/
def deleteTemplates (templateID : String) : Prog (Option Refusal) := do
  let err ← TemplateDeleter.delete templateID
  pure (err.map .failed)

/-! ## Requests -/

inductive Endpoint where
  /-- `PUT /registration` -/
  | registration (body : Body)
  /-- `PUT /notifications` -/
  | notifications (body : Body)
  /-- the `POST` endpoints -/
  | notify (strategy : Strategy) (guid : String)
      (parsed : Except Refusal NotifyParams)
  /-- `PUT /clients/{client_id}/notifications/{notification_id}` -/
  | updateNotifications (clientID notificationID : String)
      (parsed : Except Refusal NotificationUpdateParams)
  /-- `PUT /clients/{client_id}/template` -/
  | assignClientTemplate (clientID : String) (body : Body)
  /-- `PUT /clients/{client_id}/notifications/{notification_id}/template` -/
  | assignNotificationTemplate (clientID notificationID : String)
      (body : Body)
  /-- `POST /templates` -/
  | createTemplate (parsed : Except Refusal TemplateParams)
  /-- `PUT /templates/{template_id}` -/
  | updateTemplates (templateID : String)
      (parsed : Except Refusal TemplateParams)
  /-- `PUT /default_template` -/
  | updateDefaultTemplate (parsed : Except Refusal TemplateParams)
  /-- `DELETE /templates/{template_id}` -/
  | deleteTemplates (templateID : String)

/-- The scope that the router's authenticator wants. -/
def Endpoint.scope : Endpoint → String
  | registration _ => "notifications.write"
  | notifications _ => "notifications.write"
  | notify .email _ _ => "emails.write"
  | notify _ _ _ => "notifications.write"
  | updateNotifications _ _ _ => "notifications.manage"
  | assignClientTemplate _ _ => "notifications.manage"
  | assignNotificationTemplate _ _ _ => "notifications.manage"
  | createTemplate _ => "notification_templates.write"
  | updateTemplates _ _ => "notification_templates.write"
  | updateDefaultTemplate _ => "notification_templates.write"
  | deleteTemplates _ => "notification_templates.write"

/-- A request whose token the authenticator has parsed. -/
structure Request where
  claims : Jwt.Fields
  endpoint : Endpoint

structure Setup where
  library : Library
  /-- `json.Marshal` of a delivery -/
  marshal : Delivery → String

def Request.handler (setup : Setup) (request : Request) :
    Prog (Option Refusal) :=
  match request.endpoint with
  | .registration body =>
      registerNotifications setup.library request.claims body
  | .notifications body =>
      registerClientWithNotifications setup.library request.claims body
  | .notify strategy guid parsed =>
      Web.notify setup.marshal request.claims strategy guid parsed
  | .updateNotifications clientID notificationID parsed =>
      Web.updateNotifications clientID notificationID parsed
  | .assignClientTemplate clientID body =>
      Web.assignClientTemplate clientID body
  | .assignNotificationTemplate clientID notificationID body =>
      Web.assignNotificationTemplate clientID notificationID body
  | .createTemplate parsed => Web.createTemplate parsed
  | .updateTemplates templateID parsed =>
      Web.updateTemplates templateID parsed
  | .updateDefaultTemplate parsed => Web.updateDefaultTemplate parsed
  | .deleteTemplates templateID => Web.deleteTemplates templateID

def Request.serve (setup : Setup) (request : Request) :
    Prog (Option Refusal) :=
  authenticated [request.endpoint.scope] request.claims
    (request.handler setup)

end Notifications.Web
