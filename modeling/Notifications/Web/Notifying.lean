import Notifications.Lib.Contract
import Notifications.Models.Attempting
import Notifications.Services.Registration
import Notifications.Strategies.Queueing
import Notifications.Web.Handlers

/-!
# What a notify request leaves behind

`Notify.Execute` registers the client and the kind that it has looked up, and
then enqueues the jobs.  It runs on the connection itself, so a statement that
fails leaves the rows of the ones before it; but no statement of it deletes a
row, and nothing is enqueued before the client and the kind are registered.
-/

set_option autoImplicit false

namespace Notifications.Models

open Notifications.Lib

variable [Collation]

/-! ## Programs that delete nothing -/

/-- Every row of the one is a row of the other, under its unique key. -/
def Tables.Grows (before after : Tables) : Prop :=
  ∀ table key, (before.lookup table key).isSome = true →
    (after.lookup table key).isSome = true

section Grows

variable {before between after : Tables}

theorem Tables.Grows.refl (tables : Tables) : tables.Grows tables :=
  fun _ _ present => present

theorem Tables.Grows.trans (first : before.Grows between)
    (second : between.Grows after) : before.Grows after :=
  fun table key present => second table key (first table key present)

theorem Tables.Puts.grows {table : Table} {row : table.Row}
    (puts : Tables.Puts table row before after) : before.Grows after := by
  intro other key present
  by_cases same : other = table
  · subst same
    rw [puts.lookup]
    split
    · rfl
    · exact present
  · rwa [Tables.lookup, puts.others other same]

end Grows

theorem Achieves.and {α : Type} {environment : Environment} {conn : Conn}
    {program : Prog α} {database : Database}
    {left right : α → Database → Prop}
    (one : Achieves environment conn program database left)
    (other : Achieves environment conn program database right) :
    Achieves environment conn program database fun value after =>
      left value after ∧ right value after := by
  intro world reads
  obtain ⟨value, after, count, ran, holds⟩ := one world reads
  obtain ⟨value', after', count', ran', holds'⟩ := other world reads
  rw [ran, Prod.mk.injEq, Option.some.injEq] at ran'
  obtain ⟨rfl, same⟩ := ran'
  have equal := congrArg (fun world => world.read conn) same
  simp only [World.read_advance, Option.some.injEq] at equal
  subst equal
  exact ⟨value, after, count, ran, holds, holds'⟩

/-- Whatever the program returns, it has deleted nothing. -/
def Adds {α : Type} (environment : Environment) (conn : Conn)
    (program : Prog α) (database : Database) : Prop :=
  Achieves environment conn program database fun _ after =>
    database.tables.Grows after.tables

section Adds

variable {α β : Type} {environment : Environment} {conn : Conn}
  {database : Database}

theorem adds_pure (value : α) :
    Adds environment conn (pure value) database :=
  achieves_pure (Tables.Grows.refl _)

theorem adds_bind {program : Prog α} {rest : α → Prog β}
    (first : Adds environment conn program database)
    (second : ∀ value between, Adds environment conn (rest value) between) :
    Adds environment conn (program >>= rest) database := by
  refine achieves_bind first ?_
  intro value between grown
  exact (second value between).weaken fun _ _ more => grown.trans more

theorem Attempts.adds {program : Prog α} {table : Table}
    {settled : table.Row → Prop}
    (attempts : Attempts environment conn program database table settled) :
    Adds environment conn program database := by
  refine Achieves.weaken attempts ?_
  intro _ after facts
  rcases facts with rfl | ⟨row, _, puts⟩
  · exact Tables.Grows.refl _
  · exact puts.grows

end Adds

end Notifications.Models

namespace Notifications.Strategies

open Notifications.Lib Notifications.Models Notifications.Postal

/-! ## The jobs of a dispatch -/

/-- The job is for a delivery of this client and kind. -/
def JobOf (marshal : Delivery → String) (clientID kindID payload : String) :
    Prop :=
  ∃ delivery, payload = marshal delivery ∧ delivery.clientID = clientID ∧
    delivery.options.kindID = kindID

/-- A dispatch writes messages only, and enqueues jobs of its client and
kind. -/
def dispatchContract (marshal : Delivery → String)
    (clientID kindID : String) : Contract Op Answer Unit where
  may _ op := Messaging op ∧ ∀ job, op = .enqueue job →
    JobOf marshal clientID kindID job.payload
  possible _ _ := True
  learn _ _ _ := ()

section Jobs

variable {marshal : Delivery → String} {clientID kindID : String}
  {α : Type} {done : Unit → α → Prop}

/-- A call that neither enqueues nor writes but messages. -/
def Idle (op : Op) : Prop := Messaging op ∧ ∀ job, op ≠ .enqueue job

theorem meets_of_idle {program : Prog α} (idle : program.Only Idle)
    (all : ∀ value, done () value) :
    program.Meets (dispatchContract marshal clientID kindID) done () := by
  refine Program.meets_of_only ?_ (fun _ _ _ => rfl) idle all
  intro op facts
  obtain ⟨messaging, other⟩ := facts
  exact ⟨messaging, fun job same => absurd same (other job)⟩

/-- Every job of the map is for the client and kind. -/
def AllOf (marshal : Delivery → String) (clientID kindID : String)
    (jobs : Jobs) : Prop :=
  ∀ id job, jobs.lookup id = some job →
    JobOf marshal clientID kindID job.payload

theorem prepare_allOf {request : Request} (client : request.clientID = clientID)
    (kind : request.options.kindID = kindID) (users : List Recipient)
    {jobs : Jobs} (all : AllOf marshal clientID kindID jobs) :
    (Mailer.prepare marshal request users jobs).Meets
      (dispatchContract marshal clientID kindID)
      (fun _ prepared => AllOf marshal clientID kindID prepared.1) () := by
  induction users generalizing jobs with
  | nil => exact all
  | cons user rest ih =>
      refine Program.meets_perform ⟨trivial, by simp⟩ ?_
      intro guid _
      cases guid with
      | error text => exact trivial
      | ok messageID =>
          refine Program.meets_bind ((@ih (jobs.insert messageID
            (Mailer.jobFor marshal request user messageID)) ?_).weaken ?_)
          · intro id job found
            by_cases same : id = messageID
            · subst same
              rw [AList.lookup_insert] at found
              cases found
              exact ⟨_, rfl, client, kind⟩
            · rw [AList.lookup_insert_ne same] at found
              exact all id job found
          · intro _ facts good
            obtain ⟨prepared, responses⟩ := facts
            exact good

theorem rollback_idle : rollback.Only Idle := by
  refine Program.only_perform ⟨trivial, by simp⟩ ?_
  intro reply
  cases reply <;> exact trivial

theorem queueAll_allOf (entries : List (String × Gobble.Job))
    (all : ∀ entry ∈ entries, JobOf marshal clientID kindID entry.2.payload) :
    (Mailer.queueAll entries).Meets
      (dispatchContract marshal clientID kindID) (fun _ _ => True) () := by
  induction entries with
  | nil => exact trivial
  | cons entry rest ih =>
      have undone : (do
          let _ ← rollback
          pure false : Prog Bool).Meets
            (dispatchContract marshal clientID kindID) (fun _ _ => True)
              () :=
        Program.meets_bind (meets_of_idle rollback_idle fun _ => trivial)
      refine Program.meets_perform ⟨trivial, ?_⟩ ?_
      · intro job facts
        cases facts
        exact all entry (.head _)
      · intro enqueued _
        cases enqueued with
        | error text => exact undone
        | ok job =>
            refine Program.meets_bind (meets_of_idle
              (MessagesRepo.upsert_only ?_ ⟨trivial, by simp⟩ _) ?_)
            · intro statement same
              exact ⟨same, by simp⟩
            · intro result
              obtain ⟨stored, err⟩ := result
              cases err with
              | some error => exact undone
              | none =>
                  exact ih fun other member => all other (.tail _ member)

theorem deliver_allOf {request : Request}
    (client : request.clientID = clientID)
    (kind : request.options.kindID = kindID) (users : List Recipient) :
    (Strategy.deliver marshal request users).Meets
      (dispatchContract marshal clientID kindID) (fun _ _ => True) () := by
  refine Program.meets_bind (Program.meets_bind
    ((prepare_allOf client kind users ?_).weaken ?_))
  · intro id job found
    cases found
  · intro _ facts all
    obtain ⟨jobs, responses⟩ := facts
    refine Program.meets_perform ⟨trivial, by simp⟩ ?_
    intro begun _
    refine Program.meets_perform ⟨trivial, by simp⟩ ?_
    intro order _
    refine Program.meets_bind ((queueAll_allOf _ ?_).weaken ?_)
    · intro entry member
      exact all entry.1 entry.2 (Mailer.lookup_of_mem_entries member)
    · intro _ queued _
      cases queued with
      | false => exact trivial
      | true =>
          refine Program.meets_bind (meets_of_idle
            (Program.only_perform ⟨trivial, by simp⟩ ?_) ?_)
          · intro reply
            cases reply <;> exact trivial
          · intro committed
            cases committed <;> exact trivial

/-- Every strategy enqueues jobs of the client and the kind that it is called
with. -/
theorem dispatch_allOf (strategy : Strategy) (guid : String)
    (options : Options) :
    (strategy.dispatch marshal clientID guid options).Meets
      (dispatchContract marshal clientID options.kindID) (fun _ _ => True)
        () := by
  have asks : Asks (dispatchContract marshal clientID options.kindID)
      (fun _ _ => True) () :=
    ⟨fun _ => ⟨trivial, by simp⟩, fun _ _ => rfl, fun _ => trivial⟩
  refine asks.dispatch ?_ guid strategy
  intro request users client kind
  exact deliver_allOf client kind users

end Jobs

end Notifications.Strategies

namespace Notifications.Services

open Notifications.Lib Notifications.Models

variable [Collation]

/-! ## Finding and registering -/

def FoundClient (tables : Tables) (clientID : String) (client : Client) :
    Prop :=
  tables.lookup .clients (Collation.key [clientID]) = some client ∨
    tables.lookup .clients (Collation.key [clientID]) = none ∧
      client = { Table.clients.zero with id := clientID }

def FoundKind (tables : Tables) (clientID kindID : String) (kind : Kind) :
    Prop :=
  tables.lookup .kinds (Collation.key [kindID, clientID]) = some kind ∨
    tables.lookup .kinds (Collation.key [kindID, clientID]) = none ∧
      kind = { Table.kinds.zero with id := kindID, clientID := clientID }

section Finding

variable {environment : Environment} {conn : Conn} {database : Database}
  {tables : Tables} {clientID kindID : String}

theorem FoundClient.id {client : Client}
    (found : FoundClient tables clientID client) :
    Collation.equal client.id clientID := by
  rcases found with present | ⟨_, rfl⟩
  · simpa [Table.uniqueKey] using (Tables.lookup_eq_some present).2
  · exact Collation.equal_self clientID

theorem FoundKind.ids {kind : Kind}
    (found : FoundKind tables clientID kindID kind) :
    Collation.equal kind.id kindID ∧
      Collation.equal kind.clientID clientID := by
  rcases found with present | ⟨_, rfl⟩
  · simpa [Table.uniqueKey] using (Tables.lookup_eq_some present).2
  · exact ⟨Collation.equal_self kindID, Collation.equal_self clientID⟩

theorem client_achieves :
    Achieves environment .connection (NotificationsFinder.client clientID)
      database fun result after => after = database ∧
        (∀ client, result = .ok client →
          FoundClient database.tables clientID client) ∧
        (Faultless environment → ∃ client, result = .ok client) := by
  refine achieves_bind (ClientsRepo.find_achieves clientID) ?_
  rintro _ _ ⟨⟨text, faulty, rfl⟩ | ⟨absent, rfl⟩ | ⟨stored, present, rfl⟩,
    rfl⟩
  · exact achieves_pure ⟨rfl, by simp, fun calm => absurd calm faulty⟩
  · refine achieves_pure ⟨rfl, ?_, fun _ => ⟨_, rfl⟩⟩
    intro _ facts
    cases facts
    exact .inr ⟨absent, rfl⟩
  · refine achieves_pure ⟨rfl, ?_, fun _ => ⟨_, rfl⟩⟩
    intro _ facts
    cases facts
    exact .inl present

theorem kind_achieves :
    Achieves environment .connection
      (NotificationsFinder.kind clientID kindID) database
      fun result after => after = database ∧
        (∀ kind, result = .ok kind →
          FoundKind database.tables clientID kindID kind) ∧
        (Faultless environment → ∃ kind, result = .ok kind) := by
  refine achieves_bind (KindsRepo.find_achieves kindID clientID) ?_
  rintro _ _ ⟨⟨text, faulty, rfl⟩ | ⟨absent, rfl⟩ | ⟨stored, present, rfl⟩,
    rfl⟩
  · exact achieves_pure ⟨rfl, by simp, fun calm => absurd calm faulty⟩
  · refine achieves_pure ⟨rfl, ?_, fun _ => ⟨_, rfl⟩⟩
    intro _ facts
    cases facts
    exact .inr ⟨absent, rfl⟩
  · refine achieves_pure ⟨rfl, ?_, fun _ => ⟨_, rfl⟩⟩
    intro _ facts
    cases facts
    exact .inl present

theorem clientAndKind_achieves :
    Achieves environment .connection
      (NotificationsFinder.clientAndKind clientID kindID) database
      fun result after => after = database ∧
        (∀ client kind, result = .ok (client, kind) →
          FoundClient database.tables clientID client ∧
            FoundKind database.tables clientID kindID kind) ∧
        (Faultless environment → ∃ found, result = .ok found) := by
  refine achieves_bind client_achieves ?_
  intro found _ facts
  obtain ⟨rfl, clientFound, calm⟩ := facts
  cases found with
  | error error =>
      refine achieves_pure ⟨rfl, by simp, ?_⟩
      intro faultless
      obtain ⟨_, wrong⟩ := calm faultless
      cases wrong
  | ok client =>
      refine achieves_bind kind_achieves ?_
      intro found _ facts
      obtain ⟨rfl, kindFound, calm⟩ := facts
      cases found with
      | error error =>
          refine achieves_pure ⟨rfl, by simp, ?_⟩
          intro faultless
          obtain ⟨_, wrong⟩ := calm faultless
          cases wrong
      | ok kind =>
          refine achieves_pure ⟨rfl, ?_, fun _ => ⟨_, rfl⟩⟩
          intro _ _ facts
          cases facts
          exact ⟨clientFound client rfl, kindFound kind rfl⟩

theorem registerKinds_named (kinds : List Kind) :
    Registrar.registerKinds conn kinds =
      Registrar.registerKinds conn
        (kinds.filter fun kind => kind.id ≠ "") := by
  induction kinds with
  | nil => rfl
  | cons kind rest ih =>
      by_cases empty : kind.id = ""
      · rw [Registrar.registerKinds, if_pos empty, ih,
          List.filter_cons_of_neg (by simpa using empty)]
      · rw [List.filter_cons_of_pos (by simpa using empty),
          Registrar.registerKinds, Registrar.registerKinds, if_neg empty,
          if_neg empty, ih]

theorem registerKinds_adds (kinds : List Kind) :
    Adds environment conn (Registrar.registerKinds conn kinds) database := by
  induction kinds generalizing database with
  | nil => exact adds_pure _
  | cons kind rest ih =>
      rw [Registrar.registerKinds]
      split
      · exact ih
      · refine adds_bind (KindsRepo.upsert_attempts kind).adds ?_
        intro result between
        obtain ⟨stored, err⟩ := result
        cases err with
        | some error => exact adds_pure _
        | none => exact ih

/-- Without an error the client and the kinds with an ID are registered. -/
theorem register_registers (client : Client) (kinds : List Kind)
    (own : ∀ kind ∈ kinds, Collation.equal kind.clientID client.id) :
    Achieves environment conn (Registrar.register conn client kinds) database
      fun err after =>
        (err = none →
          Registered client (kinds.filter fun kind => kind.id ≠ "") false
            database.tables after.tables) ∧
        (Faultless environment → err = none) := by
  have named : Registrar.register conn client kinds =
      Registrar.register conn client
        (kinds.filter fun kind => kind.id ≠ "") := by
    simp only [Registrar.register, ← registerKinds_named]
  rw [named]
  refine (register_achieves client _ ?_ ?_ database).weaken ?_
  · intro kind member
    exact own kind (List.mem_of_mem_filter member)
  · intro kind member
    simpa using (List.mem_filter.mp member).2
  · intro err after facts
    obtain ⟨registered, calm⟩ := facts
    refine ⟨?_, calm⟩
    intro done
    obtain ⟨row, between, settled, puts, upserted⟩ := registered done
    exact upserted.registered settled puts

theorem register_adds (client : Client) (kinds : List Kind) :
    Adds environment conn (Registrar.register conn client kinds)
      database := by
  refine adds_bind (ClientsRepo.upsert_attempts client).adds ?_
  intro result between
  obtain ⟨stored, err⟩ := result
  cases err with
  | some error => exact adds_pure _
  | none => exact registerKinds_adds kinds

end Finding

end Notifications.Services

namespace Notifications.Web

open Notifications.Lib Notifications.Models Notifications.Services
open Notifications.Postal Notifications.Strategies

variable [Collation]

/-! ## Dispatching -/

/-- The world beside a dispatch: its tables apart from `messages`, and the jobs
that it did not enqueue. -/
structure Beside (marshal : Delivery → String) (clientID kindID : String)
    (start world : World) : Prop where
  database : ∀ table, table ≠ .messages →
    world.database.tables.rows table = start.database.tables.rows table
  transaction : ∀ working, world.transaction = some working →
    ∀ table, table ≠ .messages →
      working.tables.rows table = start.database.tables.rows table
  jobs : ∀ row ∈ world.jobs, row ∈ start.jobs ∨
    JobOf marshal clientID kindID row.payload

section Dispatching

variable {marshal : Delivery → String} {clientID kindID : String}
  {environment : Environment} {start world : World}

theorem Beside.counted (beside : Beside marshal clientID kindID start world) :
    Beside marshal clientID kindID start world.counted :=
  ⟨beside.database, beside.transaction, beside.jobs⟩

theorem Beside.attempt {α : Type}
    (beside : Beside marshal clientID kindID start world)
    {failure : String → α} {success : α × World}
    (done : Beside marshal clientID kindID start success.2) :
    Beside marshal clientID kindID start
      (world.attempt environment failure success).2 := by
  rw [World.attempt]
  split
  · exact beside.counted
  · exact done.counted

theorem Beside.closed (beside : Beside marshal clientID kindID start world) :
    Beside marshal clientID kindID start
      { world with transaction := none } :=
  ⟨beside.database, by simp, beside.jobs⟩

theorem Beside.sql (beside : Beside marshal clientID kindID start world)
    (conn : Conn) {statement : Statement}
    (messages : statement.table = .messages) :
    Beside marshal clientID kindID start
      (world.handle environment (.sql conn statement)).2 := by
  have same {database : Database} {table : Table} (other : table ≠ .messages) :
      (database.execute statement).2.tables.rows table =
        database.tables.rows table :=
    Statement.execute_other _ _ (messages ▸ other)
  simp only [World.handle]
  cases present : world.read conn with
  | none => exact beside
  | some database =>
      refine beside.attempt ?_
      cases conn with
      | connection =>
          cases present
          refine ⟨?_, beside.transaction, beside.jobs⟩
          intro table other
          exact (same other).trans (beside.database table other)
      | transaction =>
          refine ⟨beside.database, ?_, beside.jobs⟩
          intro _ facts table other
          cases facts
          exact (same other).trans
            (beside.transaction database present table other)

theorem handle_beside (beside : Beside marshal clientID kindID start world)
    {op : Op} (may : (dispatchContract marshal clientID kindID).may () op) :
    Beside marshal clientID kindID start
      (world.handle environment op).2 := by
  cases op with
  | sql conn statement => exact beside.sql conn may.1
  | begin =>
      refine beside.closed.attempt ⟨beside.database, ?_, beside.jobs⟩
      intro _ facts table other
      cases facts
      exact beside.database table other
  | commit =>
      simp only [World.handle]
      split
      · exact beside
      · rename_i database open'
        exact beside.closed.attempt
          ⟨beside.transaction database open', by simp, beside.jobs⟩
  | rollback =>
      simp only [World.handle]
      split
      · exact beside
      · exact beside.closed.attempt beside.closed
  | enqueue job =>
      refine beside.attempt ⟨beside.database, beside.transaction, ?_⟩
      intro row member
      rcases List.mem_append.mp member with old | new
      · exact beside.jobs row old
      · rw [List.mem_singleton.mp new]
        exact .inr (may.2 job rfl)
  | now => exact beside
  | service service => exact ⟨beside.database, beside.transaction, beside.jobs⟩
  | iterate keys => exact beside

theorem run_dispatch (strategy : Strategy) (guid : String)
    (options : Options) (world : World)
    (closed : world.transaction = none) :
    Beside marshal clientID options.kindID world
      ((strategy.dispatch marshal clientID guid options).run
        (World.handle environment) world).2 := by
  have start : Beside marshal clientID options.kindID world world := by
    refine ⟨fun _ _ => rfl, ?_, fun _ member => .inl member⟩
    intro working wrong
    rw [closed] at wrong
    cases wrong
  obtain ⟨_, beside⟩ := Program.run_of_meets (World.handle environment)
    (fun world (_ : Unit) => Beside marshal clientID options.kindID _ world)
    (fun _ _ _ beside may => ⟨trivial, handle_beside beside may⟩)
    (dispatch_allOf strategy guid options) start
  exact beside

end Dispatching

/-! ## `Notify.Execute` -/

/-- The client and the kind are registered, and the jobs are for them. -/
structure Notified (marshal : Delivery → String) (clientID kindID : String)
    (before after : World) : Prop where
  registered : ∃ client kind middle,
    FoundClient before.database.tables clientID client ∧
    FoundKind before.database.tables clientID kindID kind ∧
    Registered client ([kind].filter fun kind => kind.id ≠ "") false
      before.database.tables middle ∧
    before.database.tables.Grows middle ∧
    ∀ table, table ≠ .messages →
      after.database.tables.rows table = middle.rows table
  jobs : ∀ row ∈ after.jobs, row ∈ before.jobs ∨
    JobOf marshal clientID kindID row.payload

theorem Notified.grows {marshal : Delivery → String}
    {clientID kindID : String} {before after : World}
    (notified : Notified marshal clientID kindID before after) :
    ∀ table, table ≠ .messages → ∀ key,
      (before.database.tables.lookup table key).isSome = true →
        (after.database.tables.lookup table key).isSome = true := by
  obtain ⟨_, _, middle, _, _, _, grown, same⟩ := notified.registered
  intro table other key present
  rw [Tables.lookup_congr (same table other)]
  exact grown table key present

/-- A request that is refused, or fails before it dispatches. -/
structure Unnotified (before after : World) : Prop where
  grows : before.database.tables.Grows after.database.tables
  jobs : after.jobs = before.jobs

section Notify

variable {marshal : Delivery → String} {claims : Jwt.Fields}
  {strategy : Strategy} {guid : String} {environment : Environment}
  {world : World}

theorem Unnotified.refl (world : World) : Unnotified world world :=
  ⟨Tables.Grows.refl _, rfl⟩

theorem run_registerAndDispatch {parameters : NotifyParams} {client : Client}
    {kind : Kind} {clientID : String} (closed : world.transaction = none)
    (clientFound : FoundClient world.database.tables clientID client)
    (kindFound : FoundKind world.database.tables clientID parameters.kindID
      kind) :
    (((registerAndDispatch marshal strategy guid parameters client kind
        clientID).run (World.handle environment) world).1 ≠ some none ∧
      Unnotified world ((registerAndDispatch marshal strategy guid parameters
        client kind clientID).run (World.handle environment) world).2) ∨
      Notified marshal clientID parameters.kindID world
        ((registerAndDispatch marshal strategy guid parameters client kind
          clientID).run (World.handle environment) world).2 := by
  have own : ∀ other ∈ [kind], Collation.equal other.clientID client.id := by
    intro other member
    rw [List.mem_singleton.mp member, Collation.equal_iff]
    exact (Collation.equal_iff.mp kindFound.ids.2).trans
      (Collation.equal_iff.mp clientFound.id).symm
  have registers := (@register_registers _ environment .connection
    world.database client [kind] own).and (register_adds client [kind])
  obtain ⟨err, middle, count, ran, ⟨registered, _⟩, grown⟩ :=
    registers world rfl
  rw [registerAndDispatch, Program.run_bind_of _ ran]
  cases err with
  | some error => exact .inl ⟨by simp, grown, rfl⟩
  | none =>
      right
      have beside := @run_dispatch _ marshal clientID environment strategy guid
        (parameters.toOptions client kind)
        (world.advance .connection middle count) closed
      dsimp only
      rw [Program.run_bind_ret]
      · exact ⟨⟨client, kind, middle.tables, clientFound, kindFound,
          registered rfl, grown, beside.database⟩, beside.jobs⟩
      · intro result
        cases result <;> exact ⟨_, rfl⟩

theorem run_notify (parsed : Except Refusal NotifyParams)
    (closed : world.transaction = none) :
    (((notify marshal claims strategy guid parsed).run
        (World.handle environment) world).1 ≠ some none ∧
      Unnotified world ((notify marshal claims strategy guid parsed).run
        (World.handle environment) world).2) ∨
      ∃ parameters clientID, parsed = .ok parameters ∧
        clientIDOf claims = some clientID ∧
        Notified marshal clientID parameters.kindID world
          ((notify marshal claims strategy guid parsed).run
            (World.handle environment) world).2 := by
  cases parsed with
  | error refusal => exact .inl ⟨nofun, .refl world⟩
  | ok parameters =>
      cases client : clientIDOf claims with
      | none =>
          simp only [notify, client]
          exact .inl ⟨nofun, .refl world⟩
      | some clientID =>
          obtain ⟨found, _, count, ran, rfl, both, _⟩ :=
            @clientAndKind_achieves _ environment world.database clientID
              parameters.kindID world rfl
          have unchanged : (world.advance .connection world.database
              count).database = world.database := rfl
          simp only [notify, client]
          rw [Program.run_bind_of _ ran]
          cases found with
          | error error => exact .inl ⟨by simp, Tables.Grows.refl _, rfl⟩
          | ok found =>
              obtain ⟨clientFound, kindFound⟩ := both found.1 found.2 rfl
              simp only
              split
              · exact .inl ⟨nofun, Tables.Grows.refl _, rfl⟩
              · exact .inl ⟨nofun, Tables.Grows.refl _, rfl⟩
              · rcases @run_registerAndDispatch _ marshal strategy guid
                  environment (world.advance .connection world.database count)
                  parameters found.1 found.2 clientID closed clientFound
                  kindFound with ⟨refused, unnotified⟩ | notified
                · exact .inl ⟨refused, unnotified.grows, unnotified.jobs⟩
                · exact .inr ⟨parameters, clientID, rfl, rfl,
                    notified.registered, notified.jobs⟩

end Notify

end Notifications.Web
