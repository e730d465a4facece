import Notifications.Lib.Program
import Notifications.Models.Connection
import Notifications.Gobble.Queue
import Notifications.Mail.Message

/-!
# What the service's code calls

The repositories, services and workers are programs over the operations below:
statements on a connection or a transaction, `Queue.Enqueue`, the clock, and
the services outside the repository.  `World` and `handle` run such a program
alone.  An `Environment` decides what is not up to the program: which of its
statements fail, what the clock shows, what the services answer and in which
order a map is iterated.

A statement that fails changes nothing.
-/

set_option autoImplicit false

namespace Notifications

open Notifications.Lib Notifications.Models

inductive UAAFailure where
  | url (text : String)
  | failure (code : Nat) (message : String)
  | other (text : String)
  deriving DecidableEq, Repr

/-- The errors that the modelled functions return. -/
inductive Error where
  /-- an error of the driver or of gorp, with its text -/
  | sql (text : String)
  /-- `sql.ErrNoRows` -/
  | noRows
  /-- `models.RecordNotFoundError`: the format and its arguments -/
  | recordNotFound (format : String) (arguments : List String)
  | duplicateRecord
  | missingKindOrClient (text : String)
  | criticalKind (text : String)
  | templateAssignment (text : String)
  | templateFind (text : String)
  | templateUpdate (text : String)
  /-- `postal.CriticalNotificationError` -/
  | criticalNotification (kindID : String)
  /-- `strategies.DefaultScopeError` -/
  | defaultScope
  | uaaDown (text : String)
  | uaaGeneric (text : String)
  /-- an error of the UAA client, passed on -/
  | uaa (failure : UAAFailure)
  /-- `cf.Failure` -/
  | ccFailure (code : Nat) (message : String)
  | ccNotFound (text : String)
  | ccDown (text : String)
  /-- an error of the standard library, with its text -/
  | library (text : String)
  deriving DecidableEq, Repr

/-- `uaa.User`, as far as it is read. -/
structure User where
  id : String
  emails : List String
  deriving DecidableEq, Repr

/-- Code outside the repository, and the token loader's cache. -/
inductive Service where
  | loadToken
  | usersEmailsByIDs (token : String) (guids : List String)
  | newCloak (key : String)
  | veil (key data : String)
  | connect
  | send (message : Mail.Message)
  | newGUID
  | userGUIDsBelongingToSpace (spaceGUID token : String)
  | userGUIDsBelongingToOrganization (orgGUID role token : String)
  | userGUIDsBelongingToScope (scope : String)
  | allUserGUIDs
  /-- the space's GUID, name and organization -/
  | loadSpace (spaceGUID token : String)
  /-- the organization's GUID and name -/
  | loadOrganization (organizationGUID token : String)

@[reducible] def Service.Reply : Service → Type
  | loadToken => Except Error String
  | usersEmailsByIDs _ _ => Except UAAFailure (List User)
  | newCloak _ => Except String Unit
  | veil _ _ => Except String String
  | connect => Except String Unit
  | send _ => Except String Unit
  | newGUID => Except String String
  | userGUIDsBelongingToSpace _ _ => Except Error (List String)
  | userGUIDsBelongingToOrganization _ _ _ => Except Error (List String)
  | userGUIDsBelongingToScope _ => Except Error (List String)
  | allUserGUIDs => Except Error (List String)
  | loadSpace _ _ => Except Error (String × String × String)
  | loadOrganization _ _ => Except Error (String × String)

inductive Conn where
  | connection
  | transaction
  deriving DecidableEq, Repr

/-- A transaction whose `Begin` failed is a nil pointer. -/
inductive Reply (α : Type) where
  | ok (value : α)
  | failed (text : String)
  | nilPointer

inductive Op where
  | sql (conn : Conn) (statement : Statement)
  | begin
  | commit
  | rollback
  | enqueue (job : Gobble.Job)
  | now
  | service (service : Service)
  /-- `range` over a map with these keys -/
  | iterate (keys : List String)

@[reducible] def Answer : Op → Type
  | .sql _ statement => Reply statement.Result
  | .begin => Except String Unit
  | .commit => Reply Unit
  | .rollback => Reply Unit
  | .enqueue _ => Except String Gobble.Job
  | .now => Int
  | .service service => service.Reply
  | .iterate keys => { order : List String // order.Perm keys }

abbrev Prog (α : Type) : Type := Program Op Answer α

/-! ## Calls -/

def nilPointer : String :=
  "runtime error: invalid memory address or nil pointer dereference"

def dereference {α : Type} : Reply α → Prog (Except Error α)
  | .ok value => pure (.ok value)
  | .failed text => pure (.error (.sql text))
  | .nilPointer => .panic nilPointer

def sql (conn : Conn) (statement : Statement) :
    Prog (Except Error statement.Result) := do
  dereference (← .perform (Op.sql conn statement))

def commit : Prog (Except Error Unit) := do
  dereference (← .perform Op.commit)

def rollback : Prog (Except Error Unit) := do
  dereference (← .perform Op.rollback)

/-- `time.Now().Truncate(1 * time.Second).UTC()`. -/
def nowTruncated : Prog Int := do
  let now ← Program.perform Op.now
  pure (now - now % 1000000000)

/-- gorp's `SelectOne`, on the rows that the query returned: the holder keeps
its zero value unless there is exactly one. -/
def selectedOne (table : Table) :
    Except Error (List table.Row) → table.Row × Option Error
  | .error error => (table.zero, some error)
  | .ok [] => (table.zero, some .noRows)
  | .ok [row] => (row, none)
  | .ok _ => (table.zero, some (.sql "gorp: multiple rows returned"))

def selectOne (conn : Conn) (table : Table) (wanted : table.Row → Bool) :
    Prog (table.Row × Option Error) := do
  let rows ← sql conn (.select table wanted)
  pure (selectedOne table rows)

/-! ## Running a program alone -/

structure Environment where
  /-- the statements that fail, by their number, and the driver's text -/
  faults : Nat → Option String
  /-- what the clock shows before each statement -/
  clock : Nat → Int
  /-- what the services answer, by the number of the call -/
  serve : Nat → (service : Service) → service.Reply
  order : (keys : List String) → { order : List String // order.Perm keys }

/-- How a service answers when nothing is wrong. -/
def Service.answer : (service : Service) → service.Reply
  | loadToken => .ok "token"
  | usersEmailsByIDs _ _ => .ok []
  | newCloak _ => .ok ()
  | veil _ data => .ok data
  | connect => .ok ()
  | send _ => .ok ()
  | newGUID => .ok "guid"
  | userGUIDsBelongingToSpace _ _ => .ok []
  | userGUIDsBelongingToOrganization _ _ _ => .ok []
  | userGUIDsBelongingToScope _ => .ok []
  | allUserGUIDs => .ok []
  | loadSpace guid _ => .ok (guid, "", "")
  | loadOrganization guid _ => .ok (guid, "")

def Environment.calm : Environment where
  faults _ := none
  clock _ := 0
  serve _ := Service.answer
  order keys := ⟨keys, .refl keys⟩

/-- The statement with this number fails, and nothing else. -/
def Environment.failing (number : Nat) : Environment :=
  { Environment.calm with
    faults := fun index =>
      if index = number then some "bad connection" else none }

variable [Collation]

structure World where
  database : Database
  /-- the working copy of the open transaction -/
  transaction : Option Database
  jobs : List Gobble.Row
  nextJobID : Nat
  /-- how many statements and how many services have been called -/
  statements : Nat
  services : Nat

namespace World

/-- A database that these statements have filled, and no jobs. -/
def start (statements : List Statement) : World where
  database := .after statements
  transaction := none
  jobs := []
  nextJobID := 1
  statements := 0
  services := 0

def counted (world : World) : World :=
  { world with statements := world.statements + 1 }

/-- A statement fails if the environment says so. -/
def attempt {α : Type} (world : World) (environment : Environment)
    (failure : String → α) (success : α × World) : α × World :=
  match environment.faults world.statements with
  | some text => (failure text, world.counted)
  | none => (success.1, success.2.counted)

def reply {α : Type} : Except String α → Reply α
  | .ok value => .ok value
  | .error text => .failed text

/-- The tables that the statements of a connection act on. -/
def read (world : World) : Conn → Option Database
  | .connection => some world.database
  | .transaction => world.transaction

def write (world : World) (database : Database) : Conn → World
  | .connection => { world with database := database }
  | .transaction => { world with transaction := some database }

def handle (environment : Environment) (world : World) :
    (op : Op) → Answer op × World
  | .sql conn statement =>
      match world.read conn with
      | none => (.nilPointer, world)
      | some database =>
          let (result, after) := database.execute statement
          world.attempt environment .failed
            (reply result, world.write after conn)
  | .begin =>
      { world with transaction := none }.attempt environment .error
        (.ok (), { world with transaction := some world.database })
  | .commit =>
      match world.transaction with
      | none => (.nilPointer, world)
      | some database =>
          { world with transaction := none }.attempt environment .failed
            (.ok (), { world with database := database, transaction := none })
  | .rollback =>
      match world.transaction with
      | none => (.nilPointer, world)
      | some _ =>
          { world with transaction := none }.attempt environment .failed
            (.ok (), { world with transaction := none })
  | .enqueue job =>
      let (jobs, inserted) := Gobble.enqueue world.nextJobID world.jobs job
      world.attempt environment .error
        (.ok inserted,
          { world with jobs := jobs, nextJobID := world.nextJobID + 1 })
  | .now => (environment.clock world.statements, world)
  | .service service =>
      (environment.serve world.services service,
        { world with services := world.services + 1 })
  | .iterate keys => (environment.order keys, world)

@[simp] theorem counted_database (world : World) :
    world.counted.database = world.database := rfl

@[simp] theorem counted_transaction (world : World) :
    world.counted.transaction = world.transaction := rfl

@[simp] theorem counted_jobs (world : World) :
    world.counted.jobs = world.jobs := rfl

@[simp] theorem counted_statements (world : World) :
    world.counted.statements = world.statements + 1 := rfl

@[simp] theorem counted_services (world : World) :
    world.counted.services = world.services := rfl

@[simp] theorem counted_read (world : World) (conn : Conn) :
    world.counted.read conn = world.read conn := by
  cases conn <;> rfl

/-- The world after some statements on one connection. -/
def advance (world : World) (conn : Conn) (database : Database)
    (count : Nat) : World :=
  { world.write database conn with statements := world.statements + count }

theorem read_advance {world : World} {conn : Conn} {database : Database}
    {count : Nat} : (world.advance conn database count).read conn =
      some database := by
  cases conn <;> rfl

theorem statements_advance {world : World} {conn : Conn}
    {database : Database} {count : Nat} :
    (world.advance conn database count).statements =
      world.statements + count := rfl

theorem advance_advance {world : World} {conn : Conn}
    {first second : Database} {count more : Nat} :
    (world.advance conn first count).advance conn second more =
      world.advance conn second (count + more) := by
  cases conn <;> simp [advance, write, Nat.add_assoc]

theorem write_read {world : World} {conn : Conn} {database : Database}
    (present : world.read conn = some database) :
    world.write database conn = world := by
  cases conn with
  | connection =>
      cases present
      rfl
  | transaction =>
      have same : world.transaction = some database := present
      simp [write, ← same]

theorem counted_eq {world : World} {conn : Conn} {database : Database}
    (present : world.read conn = some database) :
    world.counted = world.advance conn database 1 := by
  rw [counted, advance, write_read present]

end World

/-- The result of `SelectOne` for a unique key: the statement may fail, and
the row may be there or not. -/
def lookedUp (table : Table) (fault : Option String)
    (found : Option table.Row) : table.Row × Option Error :=
  match fault, found with
  | some text, _ => (table.zero, some (.sql text))
  | none, none => (table.zero, some .noRows)
  | none, some row => (row, none)

section Run

variable {environment : Environment} {world : World} {conn : Conn}
  {database : Database}

theorem run_sql (present : world.read conn = some database)
    (statement : Statement) :
    (sql conn statement).run (World.handle environment) world =
      match environment.faults world.statements with
      | some text => (some (.error (.sql text)), world.counted)
      | none =>
          (some ((database.execute statement).1.mapError .sql),
            world.advance conn (database.execute statement).2 1) := by
  simp only [sql, Program.perform_bind, Program.run_call, World.handle,
    present, World.attempt]
  cases environment.faults world.statements with
  | some text => rfl
  | none =>
      cases (database.execute statement).1 <;> cases conn <;> rfl

theorem run_selectOne (present : world.read conn = some database)
    {table : Table} {key : List String} {wanted : table.Row → Bool}
    (byKey : ∀ row, wanted row = (table.uniqueKey row == key)) :
    (selectOne conn table wanted).run (World.handle environment) world =
      (some (lookedUp table (environment.faults world.statements)
        (database.tables.lookup table key)), world.counted) := by
  have unchanged : (database.execute (.select table wanted)).2 = database := rfl
  rw [selectOne, Program.run_bind, run_sql present, unchanged,
    ← World.counted_eq present]
  cases environment.faults world.statements with
  | some text => rfl
  | none =>
      have rows : (database.execute (.select table wanted)).1 =
          .ok (database.tables.lookup table key).toList := by
        simp [Database.execute, Statement.execute,
          database.sound.filter_eq byKey]
      rw [rows]
      cases database.tables.lookup table key <;> rfl

theorem run_sql_nil (environment : Environment)
    (absent : world.read conn = none) (statement : Statement) :
    (sql conn statement).run (World.handle environment) world =
      (none, world) := by
  simp only [sql, Program.perform_bind, Program.run_call, World.handle,
    absent]
  rfl

/-- A rollback ends the transaction, whether it is answered or not. -/
theorem run_rollback (environment : Environment)
    (begun : world.transaction = some database) :
    ∃ result,
      rollback.run (World.handle environment) world =
        (some result, { world with transaction := none }.counted) := by
  simp only [rollback, Program.perform_bind, Program.run_call, World.handle,
    begun, World.attempt]
  cases environment.faults world.statements <;> exact ⟨_, rfl⟩

theorem run_rollback_nil (absent : world.transaction = none) :
    rollback.run (World.handle environment) world = (none, world) := by
  simp only [rollback, Program.perform_bind, Program.run_call, World.handle,
    absent]
  rfl

theorem run_commit (environment : Environment)
    (begun : world.transaction = some database) :
    commit.run (World.handle environment) world =
      match environment.faults world.statements with
      | some text => (some (.error (.sql text)),
          { world with transaction := none }.counted)
      | none => (some (.ok ()),
          { world with database := database, transaction := none }.counted)
          := by
  simp only [commit, Program.perform_bind, Program.run_call, World.handle,
    begun, World.attempt]
  cases environment.faults world.statements <;> rfl

end Run

/-! ## Calls that change nothing -/

/-- A call that neither writes nor sends nor looks at a message's status. -/
def Quiet : Op → Prop
  | .sql _ statement => statement.reads = true ∧ statement.table ≠ .messages
  | .now => True
  | .iterate _ => True
  | .service (.send _) => False
  | .service _ => True
  | _ => False

theorem handle_of_quiet (environment : Environment) (world : World) {op : Op}
    (quiet : Quiet op) :
    (world.handle environment op).2.database = world.database := by
  cases op with
  | sql conn statement =>
      have same (database : Database) :
          (database.execute statement).2 = database := by
        have tables := statement.execute_of_reads quiet.1 database.tables
        cases database
        simp only [Database.execute, Database.mk.injEq]
        exact tables
      simp only [World.handle]
      cases present : world.read conn with
      | none => rfl
      | some database =>
          simp only [World.attempt, same, World.write_read present]
          cases environment.faults world.statements <;> rfl
  | now => rfl
  | iterate keys => rfl
  | service service => rfl
  | begin => cases quiet
  | commit => cases quiet
  | rollback => cases quiet
  | enqueue job => cases quiet

omit [Collation] in
theorem sql_only {allowed : Op → Prop} {conn : Conn} {statement : Statement}
    (fine : allowed (.sql conn statement)) :
    (sql conn statement).Only allowed := by
  refine ⟨fine, ?_⟩
  intro answer
  cases answer <;> exact trivial

omit [Collation] in
theorem selectOne_quiet (conn : Conn) {table : Table}
    (wanted : table.Row → Bool) (other : table ≠ .messages) :
    (selectOne conn table wanted).Only Quiet :=
  Program.only_bind (sql_only ⟨rfl, other⟩) fun _ => trivial

end Notifications
