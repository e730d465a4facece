import Mathlib.Data.List.AList
import Notifications.Postal.Packager
import Notifications.Postal.Retry

/-!
# The delivery worker

`DeliveryWorker.Deliver` with the loaders it uses.  Logging and metrics are
left out; what `updateMessageStatus` logs, the error of its `Upsert`, is
returned instead, and so is the duration that `retry` passes to `Job.Retry`.
-/

set_option autoImplicit false

namespace Notifications.Postal

open Notifications.Lib Notifications.Models

/-- The library code and the configuration of a worker. -/
structure Worker where
  /-- `json.Unmarshal` of a payload into a `Delivery` -/
  unmarshal : String → Except String Delivery
  engine : Engine
  sender : String
  encryptionKey : String

def uaaErrorFor : UAAFailure → Error
  | .url _ => .uaaDown "UAA is unavailable"
  | .failure code message =>
      if code = 404 then
        if contains message "Requested route" then
          .uaaDown "UAA is unavailable"
        else
          .uaaGeneric ("UAA Unknown 404 error message: " ++ message)
      else
        .uaaDown message
  | .other text => .uaaGeneric ("UAA Unknown Error: " ++ text)

abbrev Users : Type := AList fun _ : String => User

/-- `uaa.User{}`. -/
def noUser : User := ⟨"", []⟩

namespace UserLoader

/-- `users[user.ID] = user` for every record. -/
def collect (records : List User) : Users :=
  records.foldl (fun users user => users.insert user.id user) ∅

def pad (guids : List String) (users : Users) : Users :=
  guids.foldl
    (fun users guid =>
      if guid ∈ users then users else users.insert guid noUser)
    users

def load (guids : List String) (token : String) :
    Prog (Except Error Users) := do
  match ← Program.perform (Op.service (.usersEmailsByIDs token guids)) with
  | .error failure => pure (.error (uaaErrorFor failure))
  | .ok usersByIDs => pure (.ok (pad guids (collect usersByIDs)))

end UserLoader

variable [Collation]

namespace TemplatesLoader

def loadTemplate (templateID : String) : Prog (Except Error Templates) := do
  match ← TemplatesRepo.findByID .connection templateID with
  | (_, some error) => pure (.error error)
  | (template, none) =>
      pure (.ok ⟨template.subject, template.text, template.html⟩)

def loadClientTemplate (clientID : String) :
    Prog (Except Error Templates) := do
  match ← ClientsRepo.find .connection clientID with
  | (_, some error) => pure (.error error)
  | (client, none) => loadTemplate client.templateID

def loadTemplates (clientID kindID : String) :
    Prog (Except Error Templates) := do
  if kindID ≠ "" then
    match ← KindsRepo.find .connection kindID clientID with
    | (_, some error) => pure (.error error)
    | (kind, none) =>
        if kind.templateID ≠ defaultTemplateID then
          loadTemplate kind.templateID
        else
          loadClientTemplate clientID
  else
    loadClientTemplate clientID

end TemplatesLoader

/-- What is left of one call of `Deliver`. -/
structure Outcome where
  /-- the duration passed to `Job.Retry`, if it was called -/
  retry : Option Int
  /-- the status that `deliver` ended with, and the error of recording it -/
  recorded : Option (Status × Option Error)
  deriving DecidableEq, Repr

/-- `Requeue` or `Dequeue`, as `Worker.Perform` chooses; their panics leave
the table as it is. -/
def finish (now : Int) (job : Gobble.Job) (outcome : Outcome)
    (jobs : List Gobble.Row) : List Gobble.Row :=
  let finished := match outcome.retry with
    | some duration => Gobble.requeue jobs (job.retry now duration)
    | none => Gobble.dequeue jobs job
  match finished with
  | .ok rows => rows
  | .error _ => jobs

namespace Worker

variable (worker : Worker)

/-- The delivery's address, or the one that UAA has; `none` where `Deliver`
retries. -/
def findEmail (delivery : Delivery) : Prog (Option String) := do
  if delivery.email = "" then
    match ← Program.perform (Op.service .loadToken) with
    | .error _ => pure none
    | .ok token =>
        match ← UserLoader.load [delivery.userGUID] token with
        | .error _ => pure none
        | .ok users =>
            if users.keys.length < 1 then
              pure none
            else
              let user := (users.lookup delivery.userGUID).getD noUser
              pure (some (user.emails.head?.getD delivery.email))
  else
    pure (some delivery.email)

def isCritical (kindID clientID : String) : Prog Bool := do
  match ← KindsRepo.find .connection kindID clientID with
  | (_, some (.recordNotFound _ _)) => pure false
  | (kind, _) => pure kind.critical

/-- The last check of `shouldDeliver`. -/
def usable (email : String) : Bool :=
  email ≠ "" && contains email "@"

def shouldDeliver (delivery : Delivery) : Prog Bool := do
  if ← isCritical delivery.options.kindID delivery.clientID then
    pure true
  else
    match ← GlobalUnsubscribesRepo.get .connection delivery.userGUID with
    | (_, some _) => pure false
    | (true, none) => pure false
    | (false, none) =>
        match ← UnsubscribesRepo.find .connection delivery.clientID
            delivery.options.kindID delivery.userGUID with
        | (_, some (.recordNotFound _ _)) => pure (usable delivery.email)
        | (_, some _) => pure false
        | (_, none) => pure false

def pack (delivery : Delivery) : Prog (Except Error Mail.Message) := do
  match ← Program.perform (Op.service (.newCloak worker.encryptionKey)) with
  | .error text => .panic text
  | .ok _ =>
      match ← TemplatesLoader.loadTemplates delivery.clientID
          delivery.options.kindID with
      | .error error => pure (.error error)
      | .ok templates =>
          let context ← newMessageContext delivery worker.sender
            worker.encryptionKey templates
          match Packager.pack worker.engine context with
          | .error text => pure (.error (.library text))
          | .ok message => pure (.ok message)

def sendMail (message : Mail.Message) : Prog Status := do
  match ← Program.perform (Op.service .connect) with
  | .error _ => pure .unavailable
  | .ok _ =>
      match ← Program.perform (Op.service (.send message)) with
      | .error _ => pure .failed
      | .ok _ => pure .delivered

def updateMessageStatus (messageID : String) (status : Status) :
    Prog (Option Error) := do
  let (_, err) ← MessagesRepo.upsert .connection
    ⟨messageID, status.text, Gobble.zeroTime⟩
  pure err

def record (messageID : String) (status : Status) :
    Prog (Status × Option Error) := do
  let err ← updateMessageStatus messageID status
  pure (status, err)

def deliverMail (delivery : Delivery) : Prog (Status × Option Error) := do
  match ← worker.pack delivery with
  | .error _ => record delivery.messageID .failed
  | .ok message =>
      let status ← sendMail message
      record delivery.messageID status

/-- `Deliver`, once the address is known. -/
def deliverTo (job : Gobble.Job) (delivery : Delivery) : Prog Outcome := do
  if ← shouldDeliver delivery then
    let (status, err) ← worker.deliverMail delivery
    if status ≠ .delivered then
      pure ⟨retry job, some (status, err)⟩
    else
      pure ⟨none, some (status, err)⟩
  else
    pure ⟨none, none⟩

/-- `Deliver`, once the job is unmarshalled. -/
def deliverJob (job : Gobble.Job) (delivery : Delivery) : Prog Outcome := do
  match ← ReceiptsRepo.createReceipts .connection [delivery.userGUID]
      delivery.clientID delivery.options.kindID with
  | some _ => pure ⟨retry job, none⟩
  | none =>
      match ← findEmail delivery with
      | none => pure ⟨retry job, none⟩
      | some email => worker.deliverTo job { delivery with email := email }

def deliver (job : Gobble.Job) : Prog Outcome :=
  match worker.unmarshal job.payload with
  | .error _ => pure ⟨retry job, none⟩
  | .ok delivery => worker.deliverJob job delivery

end Worker

end Notifications.Postal
