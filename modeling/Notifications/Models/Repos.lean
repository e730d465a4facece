import Notifications.Effects
import Notifications.Lib.Strings

/-!
# The repositories

`KindsRepo`, `ClientsRepo`, `UnsubscribesRepo`, `GlobalUnsubscribesRepo`,
`MessagesRepo`, `ReceiptsRepo` and `TemplatesRepo` as programs, and `Seed`.  A Go function
that returns a value and an error returns a pair here, because some callers
read the value although there is an error.
-/

set_option autoImplicit false

namespace Notifications.Models

open Notifications.Lib

/-- The error of an `Insert` as the `Create` functions return it. -/
def duplicate : Error → Error
  | .sql text =>
      if contains text "Duplicate entry" then .duplicateRecord else .sql text
  | error => error

/-- The error of a `SelectOne` as the `Find` functions return it. -/
def notFound (missing : Error) : Error → Error
  | .noRows => missing
  | error => error

/-- gorp's `Delete` of several rows, one statement each. -/
def deleteAll (conn : Conn) (table : Table) :
    List table.Row → Prog (Int × Option Error)
  | [] => pure (0, none)
  | row :: rest => do
      match ← sql conn (.delete table row) with
      | .error error => pure (-1, some error)
      | .ok deleted =>
          match ← deleteAll conn table rest with
          | (_, some error) => pure (-1, some error)
          | (count, none) => pure (deleted + count, none)

variable [Collation]

namespace KindsRepo

def create (conn : Conn) (kind : Kind) : Prog (Kind × Option Error) := do
  let now ← nowTruncated
  let kind := { kind with createdAt := now, updatedAt := now }
  let kind := if kind.templateID = "" then
    { kind with templateID := defaultTemplateID } else kind
  match ← sql conn (.insert .kinds kind) with
  | .error error => pure (kind, some (duplicate error))
  | .ok inserted => pure (inserted, none)

def missing (id clientID : String) : Error :=
  .recordNotFound
    "Notification with ID %q belonging to client %q could not be found"
    [id, clientID]

def find (conn : Conn) (id clientID : String) :
    Prog (Kind × Option Error) := do
  let (kind, err) ← selectOne conn .kinds fun row =>
    Collation.equal row.id id && Collation.equal row.clientID clientID
  pure (kind, err.map (notFound (missing id clientID)))

def update (conn : Conn) (kind : Kind) : Prog (Kind × Option Error) := do
  match ← find conn kind.id kind.clientID with
  | (_, some error) => pure (kind, some error)
  | (existingKind, none) =>
      let now ← nowTruncated
      let kind := { kind with
        primary := existingKind.primary
        createdAt := existingKind.createdAt
        updatedAt := now }
      let kind := if kind.templateID = doNotSetTemplateID then
        { kind with templateID := existingKind.templateID } else kind
      match ← sql conn (.update .kinds kind) with
      | .error error => pure (kind, some error)
      | .ok _ => find conn kind.id kind.clientID

def upsert (conn : Conn) (kind : Kind) : Prog (Kind × Option Error) := do
  let (existingKind, err) ← find conn kind.id kind.clientID
  let kind := { kind with primary := existingKind.primary }
  match err with
  | some (.recordNotFound _ _) => create conn kind
  | none => update conn kind
  | some error => pure (kind, some error)

def trim (conn : Conn) (clientID : String) (kindIDs : List String) :
    Prog (Int × Option Error) := do
  match ← sql conn (.select .kinds fun row =>
      Collation.equal row.clientID clientID) with
  | .error error => pure (0, some error)
  | .ok kinds =>
      deleteAll conn .kinds
        (kinds.filter fun kind : Kind => !kindIDs.contains kind.id)

end KindsRepo

namespace ClientsRepo

def create (conn : Conn) (client : Client) : Prog (Client × Option Error) := do
  let now ← nowTruncated
  let client := { client with createdAt := now }
  let client := if client.templateID = "" then
    { client with templateID := defaultTemplateID } else client
  match ← sql conn (.insert .clients client) with
  | .error error => pure (client, some (duplicate error))
  | .ok inserted => pure (inserted, none)

def missing (id : String) : Error :=
  .recordNotFound "Client with ID %q could not be found" [id]

def find (conn : Conn) (id : String) : Prog (Client × Option Error) := do
  let (client, err) ← selectOne conn .clients fun row =>
    Collation.equal row.id id
  pure (client, err.map (notFound (missing id)))

/-- The second half of `Update`, with the template ID settled. -/
def store (conn : Conn) (client : Client) : Prog (Client × Option Error) := do
  match ← sql conn (.update .clients client) with
  | .error error => pure (client, some error)
  | .ok _ => find conn client.id

def update (conn : Conn) (client : Client) : Prog (Client × Option Error) := do
  if client.templateID = doNotSetTemplateID then
    match ← find conn client.id with
    | (_, some error) => pure (client, some error)
    | (existingClient, none) =>
        store conn { client with templateID := existingClient.templateID }
  else
    store conn client

def upsert (conn : Conn) (client : Client) : Prog (Client × Option Error) := do
  let (existingClient, err) ← find conn client.id
  let client := { client with
    primary := existingClient.primary
    createdAt := existingClient.createdAt }
  match err with
  | some (.recordNotFound _ _) => create conn client
  | none => update conn client
  | some error => pure (client, some error)

end ClientsRepo

namespace UnsubscribesRepo

def create (conn : Conn) (unsubscribe : Unsubscribe) :
    Prog (Unsubscribe × Option Error) := do
  let now ← nowTruncated
  let unsubscribe := { unsubscribe with createdAt := now }
  match ← sql conn (.insert .unsubscribes unsubscribe) with
  | .error error => pure (unsubscribe, some (duplicate error))
  | .ok inserted => pure (inserted, none)

def missing (clientID kindID userID : String) : Error :=
  .recordNotFound
    "Unsubscribe for user %q of client %q and notification %q could not be found"
    [userID, clientID, kindID]

def find (conn : Conn) (clientID kindID userID : String) :
    Prog (Unsubscribe × Option Error) := do
  let (unsubscribe, err) ← selectOne conn .unsubscribes fun row =>
    Collation.equal row.clientID clientID &&
      Collation.equal row.kindID kindID && Collation.equal row.userID userID
  pure (unsubscribe, err.map (notFound (missing clientID kindID userID)))

def upsert (conn : Conn) (unsubscribe : Unsubscribe) :
    Prog (Unsubscribe × Option Error) := do
  match ← find conn unsubscribe.clientID unsubscribe.kindID
      unsubscribe.userID with
  | (_, some (.recordNotFound _ _)) => create conn unsubscribe
  | (_, some error) => pure (unsubscribe, some error)
  | (_, none) => pure (unsubscribe, none)

def destroy (conn : Conn) (unsubscribe : Unsubscribe) :
    Prog (Int × Option Error) := do
  match ← find conn unsubscribe.clientID unsubscribe.kindID
      unsubscribe.userID with
  | (_, some (.recordNotFound _ _)) => pure (0, none)
  | (_, some error) => pure (0, some error)
  | (found, none) => deleteAll conn .unsubscribes [found]

end UnsubscribesRepo

namespace GlobalUnsubscribesRepo

def find (conn : Conn) (userGUID : String) :
    Prog (GlobalUnsubscribe × Option Error) :=
  selectOne conn .globalUnsubscribes fun row =>
    Collation.equal row.userID userGUID

/-- The `switch` of `Set`, on the row found or the new one. -/
def change (conn : Conn) (globalUnsubscribe : GlobalUnsubscribe)
    (unsubscribe : Bool) : Prog (Option Error) := do
  if unsubscribe && globalUnsubscribe.primary == 0 then
    match ← sql conn (.insert .globalUnsubscribes globalUnsubscribe) with
    | .error error => pure (some error)
    | .ok _ => pure none
  else if !unsubscribe && globalUnsubscribe.primary != 0 then
    match ← sql conn (.delete .globalUnsubscribes globalUnsubscribe) with
    | .error error => pure (some error)
    | .ok _ => pure none
  else
    pure none

def set (conn : Conn) (userGUID : String) (unsubscribe : Bool) :
    Prog (Option Error) := do
  match ← find conn userGUID with
  | (_, some .noRows) =>
      let now ← Program.perform Op.now
      change conn ⟨0, userGUID, now⟩ unsubscribe
  | (_, some error) => pure (some error)
  | (globalUnsubscribe, none) => change conn globalUnsubscribe unsubscribe

def get (conn : Conn) (userGUID : String) : Prog (Bool × Option Error) := do
  match ← find conn userGUID with
  | (_, some .noRows) => pure (false, none)
  | (_, some error) => pure (false, some error)
  | (_, none) => pure (true, none)

end GlobalUnsubscribesRepo

namespace MessagesRepo

def create (conn : Conn) (message : Message) :
    Prog (Message × Option Error) := do
  let now ← nowTruncated
  let message := { message with updatedAt := now }
  match ← sql conn (.insert .messages message) with
  | .error error => pure (Table.messages.zero, some error)
  | .ok inserted => pure (inserted, none)

def missing (messageID : String) : Error :=
  .recordNotFound "Message with ID %q could not be found" [messageID]

def findByID (conn : Conn) (messageID : String) :
    Prog (Message × Option Error) := do
  match ← selectOne conn .messages fun row => row.id == messageID with
  | (_, some error) =>
      pure (Table.messages.zero, some (notFound (missing messageID) error))
  | (message, none) => pure (message, none)

/-- The second half of `Update`, with the time settled. -/
def store (conn : Conn) (message : Message) :
    Prog (Message × Option Error) := do
  match ← sql conn (.update .messages message) with
  | .error error => pure (message, some error)
  | .ok _ => findByID conn message.id

def update (conn : Conn) (message : Message) :
    Prog (Message × Option Error) := do
  let now ← nowTruncated
  store conn { message with updatedAt := now }

def upsert (conn : Conn) (message : Message) :
    Prog (Message × Option Error) := do
  match ← findByID conn message.id with
  | (_, some (.recordNotFound _ _)) => create conn message
  | (_, none) => update conn message
  | (_, some error) => pure (message, some error)

end MessagesRepo

namespace ReceiptsRepo

def upsert (conn : Conn) (receipt : Receipt) : Prog (Option Error) := do
  let now ← nowTruncated
  match ← sql conn (.upsertReceipt
      { receipt with count := 1, createdAt := now }) with
  | .error error => pure (some error)
  | .ok _ => pure none

def createReceipts (conn : Conn) (userGUIDs : List String)
    (clientID kindID : String) : Prog (Option Error) :=
  match userGUIDs with
  | [] => pure none
  | guid :: rest => do
      match ← upsert conn { Table.receipts.zero with
          userGUID := guid, clientID := clientID, kindID := kindID } with
      | some error => pure (some error)
      | none => createReceipts conn rest clientID kindID

end ReceiptsRepo

namespace TemplatesRepo

def missing (templateID : String) : Error :=
  .recordNotFound "Template with ID %q could not be found" [templateID]

def findByID (conn : Conn) (templateID : String) :
    Prog (Template × Option Error) := do
  let (template, err) ← selectOne conn .templates fun row =>
    Collation.equal row.id templateID
  pure (template, err.map (notFound (missing templateID)))

/-- `err.Error()` of a write, which fails with the driver's errors only. -/
def errorText : Error → String
  | .sql text => text
  | _ => ""

def update (conn : Conn) (templateID : String) (template : Template) :
    Prog (Template × Option Error) := do
  match ← findByID conn templateID with
  | (existingTemplate, some (.recordNotFound _ _)) =>
      pure (existingTemplate,
        some (.templateFind ("Template " ++ templateID ++ " not found")))
  | (existingTemplate, some error) => pure (existingTemplate, some error)
  | (existingTemplate, none) =>
      let now ← nowTruncated
      let template := { template with
        primary := existingTemplate.primary
        id := existingTemplate.id
        createdAt := existingTemplate.createdAt
        updatedAt := now
        overridden := true }
      match ← sql conn (.update .templates template) with
      | .error error =>
          pure (Table.templates.zero,
            some (.templateUpdate (errorText error)))
      | .ok _ => pure (template, none)

def setTemplateTimestamps (template : Template) : Prog Template := do
  if template.createdAt = Gobble.zeroTime then
    let now ← nowTruncated
    pure { template with createdAt := now, updatedAt := now }
  else
    pure { template with updatedAt := template.createdAt }

/-- The unexported `create`, which `Seed` calls too. -/
def insert (conn : Conn) (template : Template) :
    Prog (Template × Option Error) := do
  let template ← setTemplateTimestamps template
  match ← sql conn (.insert .templates template) with
  | .error error => pure (Table.templates.zero, some error)
  | .ok inserted => pure (inserted, none)

def create (conn : Conn) (template : Template) :
    Prog (Template × Option Error) := do
  match ← Program.perform (Op.service .newGUID) with
  | .error text => .panic text
  | .ok id => insert conn { template with id := id }

def destroy (conn : Conn) (templateID : String) : Prog (Option Error) := do
  match ← findByID conn templateID with
  | (_, some error) => pure (some error)
  | (template, none) =>
      let (_, err) ← deleteAll conn .templates [template]
      pure err

end TemplatesRepo

/-- What `Seed` reads from the file of the default template. -/
structure DefaultTemplate where
  name : String
  subject : String
  text : String
  html : String
  metadata : String
  deriving DecidableEq, Repr

def panicked (error : Error) : Prog Unit :=
  .panic (TemplatesRepo.errorText error)

/-- `DB.Seed`, with the file read. -/
def seed (template : DefaultTemplate) : Prog Unit := do
  match ← TemplatesRepo.findByID .connection defaultTemplateID with
  | (_, some (.recordNotFound _ _)) =>
      match ← TemplatesRepo.insert .connection { Table.templates.zero with
          id := defaultTemplateID
          name := template.name
          subject := template.subject
          html := template.html
          text := template.text
          metadata := template.metadata } with
      | (_, some error) => panicked error
      | (_, none) => pure ()
  | (_, some error) => panicked error
  | (existingTemplate, none) =>
      if existingTemplate.overridden then
        pure ()
      else do
        let now ← nowTruncated
        match ← sql .connection (.update .templates { existingTemplate with
            name := template.name
            subject := template.subject
            html := template.html
            text := template.text
            metadata := template.metadata
            updatedAt := now }) with
        | .error error => panicked error
        | .ok _ => pure ()

/-! ## Lookups by unique key -/

/-- The result of a `Find` function: the statement may fail, and the row may
be there or not. -/
def sought (table : Table) (missing : Error) (fault : Option String)
    (found : Option table.Row) : table.Row × Option Error :=
  match fault, found with
  | some text, _ => (table.zero, some (.sql text))
  | none, none => (table.zero, some missing)
  | none, some row => (row, none)

omit [Collation] in
theorem sought_eq (table : Table) (missing : Error) (fault : Option String)
    (found : Option table.Row) :
    ((lookedUp table fault found).1,
      (lookedUp table fault found).2.map (notFound missing)) =
        sought table missing fault found := by
  cases fault <;> cases found <;> rfl

section Run

variable {environment : Environment} {world : World} {conn : Conn}
  {database : Database} (present : world.read conn = some database)

include present

theorem KindsRepo.run_find (id clientID : String) :
    (find conn id clientID).run (World.handle environment) world =
      (some (sought .kinds (missing id clientID)
        (environment.faults world.statements)
        (database.tables.lookup .kinds
          (Collation.key [id, clientID]))), world.counted) := by
  rw [find, Program.run_bind_of _ (run_selectOne present ?_)]
  · rw [← sought_eq]
    rfl
  · intro row
    simp [Table.uniqueKey]

theorem TemplatesRepo.run_findByID (templateID : String) :
    (findByID conn templateID).run (World.handle environment) world =
      (some (sought .templates (missing templateID)
        (environment.faults world.statements)
        (database.tables.lookup .templates (Collation.key [templateID]))),
          world.counted) := by
  rw [findByID, Program.run_bind_of _ (run_selectOne present ?_)]
  · rw [← sought_eq]
    rfl
  · intro row
    simp [Table.uniqueKey]

theorem UnsubscribesRepo.run_find (clientID kindID userID : String) :
    (find conn clientID kindID userID).run (World.handle environment) world =
      (some (sought .unsubscribes (missing clientID kindID userID)
        (environment.faults world.statements)
        (database.tables.lookup .unsubscribes
          (Collation.key [userID, clientID, kindID]))),
          world.counted) := by
  rw [find, Program.run_bind_of _ (run_selectOne present ?_)]
  · rw [← sought_eq]
    rfl
  · intro row
    rw [Bool.eq_iff_iff]
    simp only [Table.uniqueKey, Collation.key_cons_eq, Bool.and_eq_true,
      beq_iff_eq, Collation.equal_iff, and_true]
    tauto

theorem GlobalUnsubscribesRepo.run_find (userGUID : String) :
    (find conn userGUID).run (World.handle environment) world =
      (some (lookedUp .globalUnsubscribes
        (environment.faults world.statements)
        (database.tables.lookup .globalUnsubscribes
          (Collation.key [userGUID]))),
          world.counted) := by
  rw [find, run_selectOne present ?_]
  intro row
  simp [Table.uniqueKey]

theorem MessagesRepo.run_findByID (messageID : String) :
    (findByID conn messageID).run (World.handle environment) world =
      (some (sought .messages (missing messageID)
        (environment.faults world.statements)
        (database.tables.lookup .messages [messageID])), world.counted) := by
  rw [findByID, Program.run_bind_of _ (run_selectOne present ?_)]
  · cases environment.faults world.statements <;>
      cases database.tables.lookup .messages [messageID] <;> rfl
  · intro row
    simp [Table.uniqueKey]

end Run

/-! ## Lookups change nothing -/

theorem KindsRepo.find_quiet (conn : Conn) (id clientID : String) :
    (KindsRepo.find conn id clientID).Only Quiet :=
  Program.only_bind (selectOne_quiet conn _ (by decide)) fun _ => trivial

theorem ClientsRepo.find_quiet (conn : Conn) (id : String) :
    (ClientsRepo.find conn id).Only Quiet :=
  Program.only_bind (selectOne_quiet conn _ (by decide)) fun _ => trivial

theorem TemplatesRepo.findByID_quiet (conn : Conn) (id : String) :
    (TemplatesRepo.findByID conn id).Only Quiet :=
  Program.only_bind (selectOne_quiet conn _ (by decide)) fun _ => trivial

/-! ## The calls of status and receipt writes -/

/-- A statement on this connection, or a look at the clock. -/
def OnConn (conn : Conn) : Op → Prop
  | .sql used _ => used = conn
  | .now => True
  | _ => False

section Calls

variable {allowed : Op → Prop} {conn : Conn}

omit [Collation] in
theorem nowTruncated_only (clock : allowed .now) :
    nowTruncated.Only allowed :=
  Program.only_perform clock fun _ => trivial

omit [Collation] in
theorem selectOne_only {table : Table} {wanted : table.Row → Bool}
    (reads : allowed (.sql conn (.select table wanted))) :
    (selectOne conn table wanted).Only allowed :=
  Program.only_bind (sql_only reads) fun _ => trivial

namespace MessagesRepo

variable (statements : ∀ statement : Statement, statement.table = .messages →
  allowed (.sql conn statement))

include statements

omit [Collation] in
theorem findByID_only (messageID : String) :
    (findByID conn messageID).Only allowed := by
  refine Program.only_bind (selectOne_only (statements _ rfl)) ?_
  rintro ⟨message, err⟩
  cases err <;> exact trivial

variable (clock : allowed .now)

include clock

omit [Collation] in
theorem create_only (message : Message) :
    (create conn message).Only allowed := by
  refine Program.only_bind (nowTruncated_only clock) ?_
  intro now
  refine Program.only_bind (sql_only (statements _ rfl)) ?_
  intro result
  cases result <;> exact trivial

omit [Collation] in
theorem update_only (message : Message) :
    (update conn message).Only allowed := by
  refine Program.only_bind (nowTruncated_only clock) ?_
  intro now
  refine Program.only_bind (sql_only (statements _ rfl)) ?_
  intro result
  cases result with
  | error error => exact trivial
  | ok _ => exact findByID_only statements _

omit [Collation] in
theorem upsert_only (message : Message) :
    (upsert conn message).Only allowed := by
  refine Program.only_bind (findByID_only statements _) ?_
  rintro ⟨found, err⟩
  split
  · exact create_only statements clock message
  · exact update_only statements clock message
  · exact trivial

end MessagesRepo

omit [Collation] in
theorem ReceiptsRepo.createReceipts_only (clock : allowed .now)
    (upserts : ∀ receipt, allowed (.sql conn (.upsertReceipt receipt)))
    (userGUIDs : List String) (clientID kindID : String) :
    (ReceiptsRepo.createReceipts conn userGUIDs clientID kindID).Only
      allowed := by
  induction userGUIDs with
  | nil => exact trivial
  | cons guid rest ih =>
      refine Program.only_bind ?_ ?_
      · refine Program.only_bind (Program.only_perform clock ?_) ?_
        · intro now
          exact trivial
        · intro now
          refine Program.only_bind (sql_only (upserts _)) ?_
          intro result
          cases result <;> exact trivial
      · intro err
        cases err with
        | some error => exact trivial
        | none => exact ih

end Calls

end Notifications.Models
