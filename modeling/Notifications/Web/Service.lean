import Notifications.Web.Agreement
import Notifications.Web.AllNotifications
import Notifications.Web.Associations
import Notifications.Web.BodyAttributes
import Notifications.Web.KindIDs
import Notifications.Web.Paths
import Notifications.Web.Recipients
import Notifications.Web.Stack
import Notifications.Web.Templates

/-!
# The handlers behind the router

Every handler as the router calls it: from a request, and the token that the
authenticator has left in the context, to what is written into the recorder.
The programs of the handlers are those of the other modules; here they get
their parameters from the path and the body, and their results are answered.
-/

set_option autoImplicit false

namespace Notifications.Models

/-- `ListIDsAndNames`; the other columns are not read. -/
def TemplatesRepo.listIDsAndNames (conn : Conn) :
    Prog (List Template × Option Error) :=
  selectAll conn .templates fun _ => true

end Notifications.Models

namespace Notifications.Services

open Notifications.Models

/-- `TemplateLister.List`: the names by their IDs, without the default. -/
def TemplateLister.list :
    Prog (Except Error (AList fun _ : String => String)) := do
  match ← TemplatesRepo.listIDsAndNames .connection with
  | (_, some error) => pure (.error error)
  | (templates, none) =>
      pure (.ok ((templates.filter fun template =>
        template.id ≠ defaultTemplateID).foldl
          (fun listed template => listed.insert template.id template.name) ∅))

def MessageFinder.find (messageID : String) : Prog (Except Error String) := do
  match ← MessagesRepo.findByID .connection messageID with
  | (_, some error) => pure (.error error)
  | (message, none) => pure (.ok message.status)

end Notifications.Services

namespace Notifications.Web

open Notifications.Lib Notifications.Models Notifications.Services
open Notifications.Postal Notifications.Strategies

variable [Collation]

structure Mother where
  library : TemplateLibrary
  jwt : Jwt.Library
  texts : Valiant.Texts
  /-- `goquery.NewDocumentFromReader` -/
  parseHTML : String → Document
  /-- `json.Marshal` of a delivery -/
  marshal : Delivery → String
  uaaPublicKey : String
  corsOrigin : String

/-! ## Answers -/

/-- `ErrorWriter.Write`; its panic is recovered by the stack. -/
def writeError : Option Written → Prog Recorder
  | none => .panic "panic(err)"
  | some written =>
      pure (.answered written.code
        [.json (.object [("errors", .array (written.errors.map .string))])])

def writeRefusal (refusal : Refusal) : Prog Recorder :=
  writeError (ErrorWriter.write refusal)

def writeJSON (status : Nat) (document : Json) : Prog Recorder :=
  pure (.answered status [.json document])

/-- A handler that answers with a status alone. -/
def statusOnly (status : Nat) : Option Refusal → Prog Recorder
  | some refusal => writeRefusal refusal
  | none => pure (.answered status [])

def documented {α : Type} (encode : α → Json) :
    Except Refusal α → Prog Recorder
  | .error refusal => writeRefusal refusal
  | .ok document => writeJSON 200 (encode document)

/-- `context.Get("token").(*jwt.Token)`. -/
def withToken (context : Context) (handler : Jwt.Fields → Prog Recorder) :
    Prog Recorder :=
  match context.token with
  | none => .panic interfaceConversion
  | some token => handler token.claims

/-- `matches[1]` and `matches[2]`. -/
def withVariables (read : Option (List String))
    (handler : List String → Prog Recorder) : Prog Recorder :=
  match read with
  | none => .panic "runtime error: index out of range"
  | some values => handler values

/-! ## The bodies of notifications -/

/-- `params.Notify`, as it is decoded.  Fields without a tag have their Go
names. -/
structure SentNotify where
  replyTo : String
  subject : String
  text : String
  rawHTML : String
  parsedHTML : HTML
  kindID : String
  kindDescription : String
  sourceDescription : String
  errors : Json.Slice String
  toAddress : String
  role : String

def SentNotify.zero : SentNotify :=
  ⟨"", "", "", "", ⟨"", "", "", ""⟩, "", "", "", ⟨[], 0⟩, "", ""⟩

/-- The fields of `postal.HTML`. -/
def htmlFields : List (Json.Field HTML) :=
  [ ⟨"BodyContent", fun json html => do
      some { html with
        bodyContent := ← json.decodeString html.bodyContent }⟩,
    ⟨"BodyAttributes", fun json html => do
      some { html with
        bodyAttributes := ← json.decodeString html.bodyAttributes }⟩,
    ⟨"Head", fun json html => do
      some { html with head := ← json.decodeString html.head }⟩,
    ⟨"Doctype", fun json html => do
      some { html with doctype := ← json.decodeString html.doctype }⟩ ]

def notifyFields : List (Json.Field SentNotify) :=
  [ ⟨"reply_to", fun json notify => do
      some { notify with replyTo := ← json.decodeString notify.replyTo }⟩,
    ⟨"subject", fun json notify => do
      some { notify with subject := ← json.decodeString notify.subject }⟩,
    ⟨"text", fun json notify => do
      some { notify with text := ← json.decodeString notify.text }⟩,
    ⟨"html", fun json notify => do
      some { notify with rawHTML := ← json.decodeString notify.rawHTML }⟩,
    ⟨"ParsedHTML", fun json notify => do
      some { notify with
        parsedHTML := ← Json.decodeStruct htmlFields json notify.parsedHTML }⟩,
    ⟨"kind_id", fun json notify => do
      some { notify with kindID := ← json.decodeString notify.kindID }⟩,
    ⟨"KindDescription", fun json notify => do
      some { notify with
        kindDescription := ← json.decodeString notify.kindDescription }⟩,
    ⟨"SourceDescription", fun json notify => do
      some { notify with
        sourceDescription := ← json.decodeString notify.sourceDescription }⟩,
    ⟨"Errors", fun json notify => do
      some { notify with
        errors := ← Json.decodeSlice "" Json.decodeString json
          notify.errors }⟩,
    ⟨"to", fun json notify => do
      some { notify with
        toAddress := ← json.decodeString notify.toAddress }⟩,
    ⟨"role", fun json notify => do
      some { notify with role := ← json.decodeString notify.role }⟩ ]

/-- `parseRequestBody`; nothing may follow the document. -/
def parseRequestBody (request : HttpRequest) : Option SentNotify :=
  if request.empty then some .zero
  else if request.body.trailing then none
  else request.body.first.bind fun json =>
    Json.decodeStruct notifyFields json .zero

/-- `extractHTML`, over the HTML that the body has set already. -/
def extractInto (parse : String → Document) (rawHTML : String) (html : HTML) :
    Option HTML :=
  (extractHTML parse rawHTML).map fun extracted =>
    if extracted.bodyContent ≠ "" then extracted
    else { html with head := extracted.head, doctype := extracted.doctype }

/-- `NewNotify`; the outer `none` is a panic. -/
def newNotify (parse : String → Document) (request : HttpRequest) :
    Option (Except Refusal NotifyParams) :=
  match parseRequestBody request with
  | none => some (.error .parse)
  | some notify => do
      let html ← extractInto parse notify.rawHTML notify.parsedHTML
      some (.ok
        { replyTo := notify.replyTo
          subject := notify.subject
          text := notify.text
          parsedHTML := html
          kindID := notify.kindID
          toAddress := formatEmail notify.toAddress
          role := notify.role })

/-! ## Notifying -/

/-- The second half of `Notify.Execute`, with what the strategy returns. -/
def dispatched (marshal : Delivery → String) (strategy : Strategy)
    (guid : String) (parameters : NotifyParams) (client : Client)
    (kind : Kind) (clientID : String) :
    Prog (Except Refusal (List Strategies.Response)) := do
  match ← Registrar.register .connection client [kind] with
  | some error => pure (.error (.failed error))
  | none =>
      match ← strategy.dispatch marshal clientID guid
          (parameters.toOptions client kind) with
      | .error error => pure (.error (.failed error))
      | .ok responses => pure (.ok responses)

/-- `Notify.Execute`, with what it returns. -/
def Notify.execute (marshal : Delivery → String) (claims : Jwt.Fields)
    (strategy : Strategy) (guid : String)
    (parsed : Except Refusal NotifyParams) :
    Prog (Except Refusal (List Strategies.Response)) :=
  match parsed with
  | .error refusal => pure (.error refusal)
  | .ok parameters =>
      match clientIDOf claims with
      | none => .panic interfaceConversion
      | some clientID => do
          match ← NotificationsFinder.clientAndKind clientID
              parameters.kindID with
          | .error error => pure (.error (.failed error))
          | .ok (client, kind) =>
              match allowedKind claims kind with
              | none => .panic interfaceConversion
              | some false =>
                  pure (.error (.failed (.criticalNotification kind.id)))
              | some true =>
                  dispatched marshal strategy guid parameters client kind
                    clientID

def errorOf {α : Type} : Except Refusal α → Option Refusal
  | .error refusal => some refusal
  | .ok _ => none

/-- The program that the other modules reason about is this one without the
responses. -/
theorem notify_eq (marshal : Delivery → String) (claims : Jwt.Fields)
    (strategy : Strategy) (guid : String)
    (parsed : Except Refusal NotifyParams) :
    notify marshal claims strategy guid parsed =
      Notify.execute marshal claims strategy guid parsed >>= fun result =>
        pure (errorOf result) := by
  unfold notify Notify.execute
  cases parsed with
  | error refusal => rfl
  | ok parameters =>
      dsimp only
      cases clientIDOf claims with
      | none => rfl
      | some clientID =>
          dsimp only
          rw [Program.bind_assoc]
          congr 1
          funext found
          rcases found with error | ⟨client, kind⟩
          · rfl
          · dsimp only
            cases allowedKind claims kind with
            | none => rfl
            | some allowed =>
                cases allowed with
                | false => rfl
                | true =>
                    dsimp only
                    rw [registerAndDispatch, dispatched, Program.bind_assoc]
                    congr 1
                    funext err
                    cases err with
                    | some error => rfl
                    | none =>
                        dsimp only
                        rw [Program.bind_assoc]
                        congr 1
                        funext result
                        cases result <;> rfl

/-- `json.Marshal` of a response. -/
def encodeResponse (response : Strategies.Response) : Json :=
  .object [("status", .string response.status),
    ("recipient", .string response.recipient),
    ("notification_id", .string response.notificationID)]

/-- The six handlers that notify differ in the strategy, and in how they come
by the GUID. -/
def notifyHandler (mother : Mother) (strategy : Strategy)
    (guid : HttpRequest → String) : Handler := fun request context =>
  match newNotify mother.parseHTML request with
  | none => .panic "runtime error: index out of range"
  | some parsed =>
      withToken context fun claims => do
        let result ← Notify.execute mother.marshal claims strategy
          (guid request) (validated strategy parsed)
        documented (fun responses => .array (responses.map encodeResponse))
          result

def NotifyUser.serveHTTP (mother : Mother) : Handler :=
  notifyHandler mother .user fun request => NotifyUser.userGUID request.path

def NotifySpace.serveHTTP (mother : Mother) : Handler :=
  notifyHandler mother .space fun request =>
    NotifySpace.spaceGUID request.path

def NotifyOrganization.serveHTTP (mother : Mother) : Handler :=
  notifyHandler mother .organization fun request =>
    NotifyOrganization.organizationGUID request.path

def NotifyEveryone.serveHTTP (mother : Mother) : Handler :=
  notifyHandler mother .everyone fun _ => ""

def NotifyUAAScope.serveHTTP (mother : Mother) : Handler :=
  notifyHandler mother .uaaScope fun request =>
    NotifyUAAScope.scope request.path

def NotifyEmail.serveHTTP (mother : Mother) : Handler :=
  notifyHandler mother .email fun _ => ""

/-! ## Registering -/

def RegisterNotifications.serveHTTP (mother : Mother) : Handler :=
  fun request context =>
    withToken context fun claims => do
      match ← registerNotifications mother.library.toLibrary claims
          request.body with
      | some refusal => writeRefusal refusal
      -- nothing is written
      | none => pure .new

def RegisterClientWithNotifications.serveHTTP (mother : Mother) : Handler :=
  fun request context =>
    withToken context fun claims => do
      let refusal ← registerClientWithNotifications mother.library.toLibrary
        claims request.body
      statusOnly 204 refusal

/-! ## Managing -/

def notificationUpdateFields : List (Json.Field NotificationUpdateParams) :=
  [ ⟨"description", fun json parameters => do
      some { parameters with
        description := ← json.decodeString parameters.description }⟩,
    ⟨"critical", fun json parameters => do
      some { parameters with
        critical := ← json.decodeBool parameters.critical }⟩,
    ⟨"template", fun json parameters => do
      some { parameters with
        templateID := ← json.decodeString parameters.templateID }⟩ ]

/-- `NewNotificationParams`; all of its fields are required. -/
def newNotificationParams (mother : Mother) (body : Body) :
    Prog (Except Refusal NotificationUpdateParams) := do
  match ← Valiant.validateTyped mother.library.toLibrary mother.texts
      notificationUpdateFields ["description", "critical", "template"] body
      ⟨"", false, ""⟩ with
  | .error (.required text) => pure (.error (.validation [text]))
  | .error (.other _) => pure (.error .parse)
  | .ok parameters => pure (.ok parameters)

def UpdateNotifications.serveHTTP (mother : Mother) : Handler :=
  fun request _ => do
    match ← newNotificationParams mother request.body with
    | .error refusal => writeRefusal refusal
    | .ok parameters =>
        withVariables (UpdateNotifications.parseURL request.path)
          fun values => do
            let refusal ← updateNotifications (values.getD 0 "")
              (values.getD 1 "") (.ok parameters)
            statusOnly 204 refusal

def AssignClientTemplate.serveHTTP : Handler := fun request _ =>
  withVariables (AssignClientTemplate.clientID request.path)
    fun values => do
      let refusal ← assignClientTemplate (values.getD 0 "") request.body
      statusOnly 204 refusal

def AssignNotificationTemplate.serveHTTP : Handler := fun request _ =>
  withVariables (AssignNotificationTemplate.parseURL request.path)
    fun values => do
      let refusal ← assignNotificationTemplate (values.getD 0 "")
        (values.getD 1 "") request.body
      statusOnly 204 refusal

def encodeListedNotification (notification : ListedNotification) : Json :=
  .object [("description", .string notification.description),
    ("template", .string notification.template),
    ("critical", .bool notification.critical)]

def encodeListedClient (client : ListedClient) : Json :=
  .object [("name", .string client.name),
    ("template", .string client.template),
    ("notifications", Builder.encodeEntries encodeListedNotification
      client.notifications)]

def GetAllNotifications.serveHTTP : Handler := fun _ _ => do
  documented (Builder.encodeEntries encodeListedClient) (← getAllNotifications)

/-! ## Preferences -/

def OptionsPreferences.serveHTTP : Handler := fun _ _ =>
  pure (.answered 204 [])

/-- What both `GET` handlers answer. -/
def shownPreferences : Except Objection Json → Prog Recorder
  | .error objection => writeError (Complaint.objection objection).write
  | .ok document => writeJSON 200 document

def GetPreferences.serveHTTP : Handler := fun _ context =>
  withToken context fun claims => do
    shownPreferences (← getPreferences claims)

def GetPreferencesForUser.serveHTTP : Handler := fun request _ => do
  shownPreferences (← getPreferencesForUser request.path)

/-- What both `PATCH` handlers answer. -/
def patched : Option Complaint → Prog Recorder
  | some complaint => writeError complaint.write
  | none => pure (.answered 204 [])

def UpdatePreferences.serveHTTP (mother : Mother) : Handler :=
  fun request context =>
    withToken context fun claims => do
      patched (← UpdatePreferences.execute mother.library.toLibrary
        mother.texts claims request.body)

def UpdateSpecificUserPreferences.serveHTTP (mother : Mother) : Handler :=
  fun request _ => do
    patched (← UpdateSpecificUserPreferences.execute mother.library.toLibrary
      mother.texts request.path request.body)

/-! ## Templates -/

/-- `CreateTemplate.ServeHTTP`; every error of the creator is the same. -/
def CreateTemplate.serveHTTP (mother : Mother) : Handler :=
  fun request _ => do
    match ← newTemplate mother.library mother.texts request.body with
    | .error refusal => writeRefusal refusal
    | .ok parameters =>
        match ← TemplateCreator.create parameters.toModel with
        | .error _ => writeRefusal .templateCreate
        | .ok templateID =>
            pure (.answered 201 [.text
              ("\x7b\"template_id\":\"" ++ templateID ++ "\"\x7d")])

/-- `GetDefaultTemplate.ServeHTTP`, which panics where the other handler gives
the error to the error writer. -/
def GetDefaultTemplate.serveHTTP (mother : Mother) : Handler := fun _ _ => do
  documented id (← getTemplates mother.library defaultTemplateID)

def GetTemplates.serveHTTP (mother : Mother) : Handler := fun request _ =>
  withVariables (GetTemplates.templateID request.path) fun values => do
    documented id (← getTemplates mother.library (values.getD 0 ""))

/-- The handlers of both `PUT` endpoints, for a template. -/
def updateTemplate (mother : Mother) (templateID : String) (body : Body) :
    Prog Recorder := do
  let parsed ← newTemplate mother.library mother.texts body
  statusOnly 204 (← updateTemplates templateID parsed)

def UpdateDefaultTemplate.serveHTTP (mother : Mother) : Handler :=
  fun request _ => updateTemplate mother defaultTemplateID request.body

def UpdateTemplates.serveHTTP (mother : Mother) : Handler := fun request _ =>
  withVariables (UpdateTemplates.templateID request.path request.rawQuery)
    fun values => updateTemplate mother (values.getD 0 "") request.body

def DeleteTemplates.serveHTTP : Handler := fun request _ =>
  withVariables (DeleteTemplates.templateID request.path) fun values => do
    statusOnly 204 (← deleteTemplates (values.getD 0 ""))

def ListTemplates.serveHTTP : Handler := fun _ _ => do
  let listed ← TemplateLister.list
  documented (Builder.encodeEntries fun name => .object
    [("name", .string name)]) (listed.mapError .failed)

/-- An association; an empty notification is left out. -/
def encodeAssociation (association : TemplateAssociation) : Json :=
  .object (("client", .string association.clientID) ::
    if association.notificationID = "" then []
    else [("notification", .string association.notificationID)])

def ListTemplateAssociations.serveHTTP : Handler := fun request _ =>
  withVariables (ListTemplateAssociations.parseTemplateID request.path)
    fun values => do
      match ← TemplateAssociationLister.list (values.getD 0 "") with
      | (_, some error) => writeRefusal (.failed error)
      | (associations, none) =>
          writeJSON 200 (.object [("associations",
            .array (associations.map encodeAssociation))])

/-! ## The others -/

def GetInfo.serveHTTP : Handler := fun _ _ =>
  pure (.answered 200 [.text "\x7b\x7d"])

def GetMessages.serveHTTP : Handler := fun request _ =>
  withVariables (GetMessages.messageID request.path) fun values => do
    let status ← MessageFinder.find (values.getD 0 "")
    documented (fun status => .object [("status", .string status)])
      (status.mapError .failed)

end Notifications.Web
