import Notifications.Models.Repos

/-!
# The services that change preferences, clients, kinds and templates

`PreferenceUpdater` and `Registrar`, and the transaction that the handlers run
them in; `NotificationsFinder`, `NotificationsUpdater` and the services for
templates, which run without one.
-/

set_option autoImplicit false

namespace Notifications.Services

open Notifications.Lib Notifications.Models

/-- `models.Preference`, as far as an update reads it. -/
structure Preference where
  clientID : String
  kindID : String
  email : Bool
  deriving DecidableEq, Repr

variable [Collation]

namespace PreferenceUpdater

def changeable (conn : Conn) (preference : Preference) :
    Prog (Option Error) := do
  match ← KindsRepo.find conn preference.kindID preference.clientID with
  | (_, some _) =>
      pure (some (.missingKindOrClient
        ("The kind '" ++ preference.kindID ++
          "' cannot be found for client '" ++ preference.clientID ++ "'")))
  | (kind, none) =>
      if kind.critical then
        pure (some (.criticalKind
          ("The kind '" ++ preference.kindID ++ "' for the '" ++
            preference.clientID ++
            "' client is critical and cannot be unsubscribed from")))
      else
        pure none

def apply (conn : Conn) (userID : String) (preference : Preference) :
    Prog (Option Error) := do
  let unsubscribe := { Table.unsubscribes.zero with
    clientID := preference.clientID
    kindID := preference.kindID
    userID := userID }
  if !preference.email then
    let (_, err) ← UnsubscribesRepo.upsert conn unsubscribe
    pure err
  else
    let (_, err) ← UnsubscribesRepo.destroy conn unsubscribe
    pure err

/-- The loop of `Execute`. -/
def applyAll (conn : Conn) (userID : String) :
    List Preference → Prog (Option Error)
  | [] => pure none
  | preference :: rest => do
      match ← changeable conn preference with
      | some error => pure (some error)
      | none =>
          match ← apply conn userID preference with
          | some error => pure (some error)
          | none => applyAll conn userID rest

def execute (conn : Conn) (preferences : List Preference)
    (globalUnsubscribe : Bool) (userID : String) : Prog (Option Error) := do
  match ← GlobalUnsubscribesRepo.set conn userID globalUnsubscribe with
  | some error => pure (some error)
  | none => applyAll conn userID preferences

end PreferenceUpdater

namespace Registrar

/-- The loop of `Register`. -/
def registerKinds (conn : Conn) : List Kind → Prog (Option Error)
  | [] => pure none
  | kind :: rest =>
      if kind.id = "" then
        registerKinds conn rest
      else do
        match ← KindsRepo.upsert conn kind with
        | (_, some error) => pure (some error)
        | (_, none) => registerKinds conn rest

def register (conn : Conn) (client : Client) (kinds : List Kind) :
    Prog (Option Error) := do
  match ← ClientsRepo.upsert conn client with
  | (_, some error) => pure (some error)
  | (_, none) => registerKinds conn kinds

def prune (conn : Conn) (client : Client) (kinds : List Kind) :
    Prog (Option Error) := do
  let (_, err) ← KindsRepo.trim conn client.id (kinds.map Kind.id)
  pure err

end Registrar

/-- What the handlers of registrations do with their connection. -/
def registration (client : Client) (kinds : List Kind) (prune : Bool)
    (conn : Conn) : Prog (Option Error) := do
  match ← Registrar.register conn client kinds with
  | some error => pure (some error)
  | none =>
      if prune then Registrar.prune conn client kinds else pure none

/-- How the handlers use a transaction: the error of `Begin` is ignored. -/
def inTransaction (body : Prog (Option Error)) : Prog (Option Error) := do
  let _ ← Program.perform Op.begin
  match ← body with
  | some error =>
      let _ ← rollback
      pure (some error)
  | none =>
      match ← commit with
      | .error error => pure (some error)
      | .ok _ => pure none

namespace NotificationsFinder

/-- A client that is not registered yet is an empty one. -/
def client (clientID : String) : Prog (Except Error Client) := do
  match ← ClientsRepo.find .connection clientID with
  | (_, some (.recordNotFound _ _)) =>
      pure (.ok { Table.clients.zero with id := clientID })
  | (_, some error) => pure (.error error)
  | (client, none) => pure (.ok client)

def kind (clientID kindID : String) : Prog (Except Error Kind) := do
  match ← KindsRepo.find .connection kindID clientID with
  | (_, some (.recordNotFound _ _)) =>
      pure (.ok { Table.kinds.zero with id := kindID, clientID := clientID })
  | (_, some error) => pure (.error error)
  | (kind, none) => pure (.ok kind)

def clientAndKind (clientID kindID : String) :
    Prog (Except Error (Client × Kind)) := do
  match ← client clientID with
  | .error error => pure (.error error)
  | .ok client =>
      match ← kind clientID kindID with
      | .error error => pure (.error error)
      | .ok kind => pure (.ok (client, kind))

end NotificationsFinder

def NotificationsUpdater.update (notification : Kind) :
    Prog (Option Error) := do
  let (_, err) ← KindsRepo.update .connection notification
  pure err

namespace TemplateAssigner

def findTemplate (conn : Conn) (templateID : String) :
    Prog (Option Error) := do
  if templateID = "" then
    pure none
  else
    match ← TemplatesRepo.findByID conn templateID with
    | (_, some (.recordNotFound _ _)) =>
        pure (some (.templateAssignment
          ("No template with id '" ++ templateID ++ "'")))
    | (_, err) => pure err

def assigned (templateID : String) : String :=
  if templateID = "" then defaultTemplateID else templateID

def assignToClient (clientID templateID : String) : Prog (Option Error) := do
  let templateID := assigned templateID
  match ← ClientsRepo.find .connection clientID with
  | (_, some error) => pure (some error)
  | (client, none) =>
      match ← findTemplate .connection templateID with
      | some error => pure (some error)
      | none =>
          let (_, err) ← ClientsRepo.update .connection
            { client with templateID := templateID }
          pure err

def assignToNotification (clientID notificationID templateID : String) :
    Prog (Option Error) := do
  let templateID := assigned templateID
  match ← ClientsRepo.find .connection clientID with
  | (_, some error) => pure (some error)
  | (_, none) =>
      match ← KindsRepo.find .connection notificationID clientID with
      | (_, some error) => pure (some error)
      | (kind, none) =>
          match ← findTemplate .connection templateID with
          | some error => pure (some error)
          | none =>
              let (_, err) ← KindsRepo.update .connection
                { kind with templateID := templateID }
              pure err

end TemplateAssigner

def TemplateCreator.create (template : Template) :
    Prog (Except Error String) := do
  match ← TemplatesRepo.create .connection template with
  | (_, some error) => pure (.error error)
  | (newTemplate, none) => pure (.ok newTemplate.id)

def TemplateUpdater.update (templateID : String) (template : Template) :
    Prog (Option Error) := do
  let (_, err) ← TemplatesRepo.update .connection templateID template
  pure err

def TemplateDeleter.delete (templateID : String) : Prog (Option Error) :=
  TemplatesRepo.destroy .connection templateID

end Notifications.Services
