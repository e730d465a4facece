import Mathlib.Data.List.Dedup
import Notifications.Models.Storing
import Notifications.Services

/-!
# What a registration leaves behind

`Register` and `Prune` in one transaction: the client's row and the kinds of the
client become those of the request, whatever was there before, and every other
row stays.  A kind that comes twice has the values of its last occurrence.
-/

set_option autoImplicit false

namespace Notifications.Services

open Notifications.Lib Notifications.Models

section Collated

variable [Collation]

/-! ## Transactions -/

section Transaction

variable {environment : Environment} {body : Prog (Option Error)}

theorem run_commit_nil {world : World} (absent : world.transaction = none) :
    commit.run (World.handle environment) world = (none, world) := by
  simp only [commit, Program.perform_bind, Program.run_call, World.handle,
    absent]
  rfl

/-- A call on a transaction leaves the tables of the connection alone, and a
nil transaction stays nil. -/
theorem handle_of_onTransaction {world : World} {op : Op}
    (onTransaction : OnConn .transaction op) :
    (world.handle environment op).2.database = world.database ∧
      (world.transaction = none →
        (world.handle environment op).2.transaction = none) := by
  cases op with
  | sql conn statement =>
      cases onTransaction
      simp only [World.handle, World.read]
      cases begun : world.transaction with
      | none => exact ⟨rfl, fun _ => begun⟩
      | some database =>
          simp only [World.attempt]
          cases environment.faults world.statements <;>
            exact ⟨rfl, by simp⟩
  | now => exact ⟨rfl, id⟩
  | begin => cases onTransaction
  | commit => cases onTransaction
  | rollback => cases onTransaction
  | enqueue job => cases onTransaction
  | service service => cases onTransaction
  | iterate keys => cases onTransaction

theorem run_onTransaction_nil (only : body.Only (OnConn .transaction))
    {world : World} (absent : world.transaction = none) :
    (body.run (World.handle environment) world).2.database =
        world.database ∧
      (body.run (World.handle environment) world).2.transaction = none := by
  refine Program.run_of_only (World.handle environment) (fun after =>
    after.database = world.database ∧ after.transaction = none) ?_ only
    ⟨rfl, absent⟩
  intro state op onTransaction facts
  obtain ⟨database, nil⟩ := facts
  have kept := @handle_of_onTransaction _ environment state op onTransaction
  exact ⟨kept.1.trans database, kept.2 nil⟩

def conclude : Option Error → Prog (Option Error)
  | some error => do
      let _ ← rollback
      pure (some error)
  | none => do
      match ← commit with
      | .error error => pure (some error)
      | .ok _ => pure none

theorem run_conclude_nil (err : Option Error) {world : World}
    (absent : world.transaction = none) :
    (conclude err).run (World.handle environment) world = (none, world) := by
  cases err with
  | some error => exact Program.run_bind_none _ (run_rollback_nil absent)
  | none => exact Program.run_bind_none _ (run_commit_nil absent)

theorem run_conclude (err : Option Error) {world : World}
    {working : Database} (begun : world.transaction = some working) :
    ∃ result after,
      (conclude err).run (World.handle environment) world =
        (some result, after) ∧
      (result = none ∧ err = none ∧ after.database = working ∨
        result ≠ none ∧ after.database = world.database) ∧
      (Faultless environment → err = none → result = none) := by
  cases err with
  | some error =>
      obtain ⟨answer, ran⟩ := run_rollback environment begun
      exact ⟨some error, _, Program.run_bind_of _ ran,
        .inr ⟨by simp, rfl⟩, by simp⟩
  | none =>
      have ran := run_commit environment begun
      cases fault : environment.faults world.statements with
      | some text =>
          rw [fault] at ran
          exact ⟨some (.sql text), _, Program.run_bind_of _ ran,
            .inr ⟨by simp, rfl⟩,
            fun faultless => absurd faultless (not_faultless fault)⟩
      | none =>
          rw [fault] at ran
          exact ⟨none, _, Program.run_bind_of _ ran,
            .inl ⟨rfl, rfl, rfl⟩, fun _ _ => rfl⟩

/-- A transaction has been committed, or the database is what it was. -/
theorem run_inTransaction {post : Option Error → Database → Prop}
    (only : body.Only (OnConn .transaction)) (world : World)
    (achieves : Achieves environment .transaction body world.database post) :
    ∃ result after,
      (inTransaction body).run (World.handle environment) world =
        (result, after) ∧
      (result = some none ∧ post none after.database ∨
        result ≠ some none ∧ after.database = world.database) ∧
      (Faultless environment → (∀ err after, post err after → err = none) →
        result = some none) := by
  cases fault : environment.faults world.statements with
  | some text =>
      -- `Begin` has failed, and the transaction is a nil pointer
      have nil := @run_onTransaction_nil _ environment body only
        ({ world with transaction := none } : World).counted rfl
      have started : (inTransaction body).run (World.handle environment)
          world = (body >>= conclude).run (World.handle environment)
            ({ world with transaction := none } : World).counted := by
        simp only [inTransaction, Program.perform_bind, Program.run_call,
          World.handle, World.attempt, fault]
        rfl
      rw [started, Program.run_bind]
      rcases ran : body.run (World.handle environment)
          ({ world with transaction := none } : World).counted with
        ⟨result, after⟩
      rw [ran] at nil
      cases result with
      | none =>
          exact ⟨none, after, rfl, .inr ⟨by simp, nil.1⟩,
            fun faultless => absurd faultless (not_faultless fault)⟩
      | some err =>
          exact ⟨none, after, run_conclude_nil err nil.2,
            .inr ⟨by simp, nil.1⟩,
            fun faultless => absurd faultless (not_faultless fault)⟩
  | none =>
      have started : (inTransaction body).run (World.handle environment)
          world = (body >>= conclude).run (World.handle environment)
            ({ world with
              transaction := some world.database } : World).counted := by
        simp only [inTransaction, Program.perform_bind, Program.run_call,
          World.handle, World.attempt, fault]
        rfl
      obtain ⟨err, working, count, ran, holds⟩ := achieves
        ({ world with transaction := some world.database } : World).counted
        rfl
      obtain ⟨result, after, concluded, outcome, calm⟩ :=
        @run_conclude _ environment err (World.advance _ .transaction working
          count) working rfl
      refine ⟨some result, after, ?_, ?_, ?_⟩
      · rw [started, Program.run_bind_of _ ran]
        exact concluded
      · rcases outcome with ⟨rfl, rfl, rfl⟩ | ⟨failed, unchanged⟩
        · exact .inl ⟨rfl, holds⟩
        · exact .inr ⟨by simpa using failed, unchanged⟩
      · intro faultless always
        rw [calm faultless (always err working holds)]

end Transaction

/-! ## The loop over the kinds -/

/-- The row of a kind with an ID may be found under this one. -/
def Registrable (kindID : String) : Prop :=
  ∃ id, id ≠ "" ∧ Collation.equal id kindID

def lastOf (id : String) : List Kind → Option Kind
  | [] => none
  | kind :: rest =>
      (lastOf id rest).or
        (if Collation.equal kind.id id then some kind else none)

/-- The template ID that the kinds of a list leave in a row, one after the
other. -/
def templateAfter (id : String) : List Kind → String → String
  | [], template => template
  | kind :: rest, template =>
      templateAfter id rest
        (if Collation.equal kind.id id then chosen kind.templateID template
        else template)

theorem templateAfter_of_none {id : String} {kinds : List Kind}
    (absent : lastOf id kinds = none) (template : String) :
    templateAfter id kinds template = template := by
  induction kinds generalizing template with
  | nil => rfl
  | cons kind rest ih =>
      rw [lastOf, Option.or_eq_none_iff] at absent
      have other : ¬ Collation.equal kind.id id := by
        intro same
        rw [if_pos same] at absent
        cases absent.2
      rw [templateAfter, if_neg other]
      exact ih absent.1 template

theorem lastOf_isSome {id : String} {kinds : List Kind} :
    (lastOf id kinds).isSome ↔ ∃ kind ∈ kinds, Collation.equal kind.id id := by
  induction kinds with
  | nil => simp [lastOf]
  | cons kind rest ih =>
      rw [lastOf, Option.isSome_or, Bool.or_eq_true, ih,
        List.exists_mem_cons_iff]
      by_cases same : Collation.equal kind.id id
      · simp [same]
      · simp [same]

theorem lastOf_eq_some {id : String} {kinds : List Kind} {last : Kind}
    (found : lastOf id kinds = some last) :
    last ∈ kinds ∧ Collation.equal last.id id := by
  induction kinds with
  | nil => cases found
  | cons kind rest ih =>
      rw [lastOf, Option.or_eq_some_iff] at found
      rcases found with later | ⟨_, here⟩
      · exact ⟨.tail _ (ih later).1, (ih later).2⟩
      · split at here
        · rename_i same
          cases here
          exact ⟨.head _, same⟩
        · cases here

structure Entry (id : String) (kinds : List Kind) (old : Option Kind)
    (last row : Kind) : Prop where
  named : row.id = last.id
  owned : row.clientID = last.clientID
  description : row.description = last.description
  critical : row.critical = last.critical
  templateID : row.templateID =
    templateAfter id kinds (old.elim defaultTemplateID Kind.templateID)
  kept : ∀ stored, old = some stored →
    row.primary = stored.primary ∧ row.createdAt = stored.createdAt

structure Upserted (clientID : String) (kinds : List Kind)
    (before after : Tables) : Prop where
  missing : ∀ id, lastOf id kinds = none →
    after.lookup .kinds (Collation.key [id, clientID]) = before.lookup .kinds
      (Collation.key [id, clientID])
  entry : ∀ id last, lastOf id kinds = some last →
    ∃ row, after.lookup .kinds (Collation.key [id, clientID]) = some row ∧
      Entry id kinds (before.lookup .kinds
        (Collation.key [id, clientID])) last row
  foreign : ∀ id other, ¬ Collation.equal other clientID →
    after.lookup .kinds (Collation.key [id, other]) = before.lookup .kinds
      (Collation.key [id, other])
  others : ∀ table, table ≠ .kinds → after.rows table = before.rows table

section Entries

variable {id : String} {first last row final : Kind} {rest : List Kind}
  {old : Option Kind}

theorem Entry.of_other (other : ¬ Collation.equal first.id id)
    (entry : Entry id rest old last row) :
    Entry id (first :: rest) old last row where
  named := entry.named
  owned := entry.owned
  description := entry.description
  critical := entry.critical
  templateID := by
    rw [templateAfter, if_neg other]
    exact entry.templateID
  kept := entry.kept

theorem Entry.of_last (same : Collation.equal first.id id)
    (settled : KindsRepo.Settled first old row)
    (never : lastOf id rest = none) :
    Entry id (first :: rest) old first row where
  named := settled.id
  owned := settled.clientID
  description := settled.description
  critical := settled.critical
  templateID := by
    rw [templateAfter, if_pos same, templateAfter_of_none never]
    exact settled.templateID
  kept := settled.kept

/-- The kind comes again, and finds the row of this pass. -/
theorem Entry.of_later (same : Collation.equal first.id id)
    (settled : KindsRepo.Settled first old row)
    (entry : Entry id rest (some row) last final) :
    Entry id (first :: rest) old last final where
  named := entry.named
  owned := entry.owned
  description := entry.description
  critical := entry.critical
  templateID := by
    rw [templateAfter, if_pos same, ← settled.templateID]
    exact entry.templateID
  kept := by
    intro stored present
    have kept := entry.kept row rfl
    have kept' := settled.kept stored present
    exact ⟨kept.1.trans kept'.1, kept.2.trans kept'.2⟩

end Entries

/-- One pass through the loop, and then the rest of it. -/
theorem Upserted.cons {clientID : String} {first row : Kind}
    {rest : List Kind} {before between after : Tables}
    (own : Collation.equal first.clientID clientID)
    (settled : KindsRepo.Settled first
      (before.lookup .kinds (Collation.key [first.id, first.clientID])) row)
    (puts : Tables.Puts .kinds row before between)
    (later : Upserted clientID rest between after) :
    Upserted clientID (first :: rest) before after := by
  have key : Table.kinds.uniqueKey row =
      Collation.key [first.id, clientID] := by
    rw [Table.uniqueKey, settled.id, settled.clientID]
    exact Collation.key_pair (Collation.equal_self _) own
  have here : between.lookup .kinds
      (Collation.key [first.id, clientID]) = some row := by
    rw [← key, puts.stored]
  have elsewhere : ∀ id other, (¬ Collation.equal first.id id ∨
      ¬ Collation.equal other clientID) →
      between.lookup .kinds (Collation.key [id, other]) =
        before.lookup .kinds (Collation.key [id, other]) := by
    intro id other different
    rw [puts.lookup, key, if_neg]
    intro same
    simp only [Collation.key_cons_eq, and_true, Collation.equal_iff]
      at same different
    exact different.elim (· same.1.symm) (· same.2)
  refine ⟨?_, ?_, ?_, ?_⟩
  · intro id absent
    rw [lastOf, Option.or_eq_none_iff] at absent
    have other : ¬ Collation.equal first.id id := by
      intro same
      rw [if_pos same] at absent
      cases absent.2
    rw [later.missing id absent.1, elsewhere id _ (.inl other)]
  · intro id last found
    rw [lastOf] at found
    by_cases mine : Collation.equal first.id id
    · rw [if_pos mine] at found
      have same := Collation.key_pair mine own
      rw [Collation.key_congr mine] at here
      rw [same] at settled
      cases again : lastOf id rest with
      | some other =>
          rw [again] at found
          cases found
          obtain ⟨final, stored, entry⟩ := later.entry id last again
          rw [here] at entry
          exact ⟨final, stored, .of_later mine settled entry⟩
      | none =>
          rw [again] at found
          cases found
          exact ⟨row, (later.missing id again).trans here,
            .of_last mine settled again⟩
    · rw [if_neg mine, Option.or_none] at found
      obtain ⟨final, stored, entry⟩ := later.entry id last found
      rw [elsewhere id _ (.inl mine)] at entry
      exact ⟨final, stored, .of_other mine entry⟩
  · intro id other different
    rw [later.foreign id other different, elsewhere id other (.inr different)]
  · intro table different
    rw [later.others table different, puts.others table different]

section Loop

variable {environment : Environment} {conn : Conn}

theorem registerKinds_achieves {clientID : String} (kinds : List Kind)
    (own : ∀ kind ∈ kinds, Collation.equal kind.clientID clientID)
    (named : ∀ kind ∈ kinds, kind.id ≠ "") (database : Database) :
    Achieves environment conn (Registrar.registerKinds conn kinds) database
      fun err after =>
        (err = none →
          Upserted clientID kinds database.tables after.tables) ∧
        (Faultless environment → err = none) := by
  induction kinds generalizing database with
  | nil =>
      refine achieves_pure ⟨fun _ => ?_, fun _ => rfl⟩
      exact ⟨fun _ _ => rfl, by simp [lastOf], fun _ _ _ => rfl,
        fun _ _ => rfl⟩
  | cons kind rest ih =>
      rw [Registrar.registerKinds, if_neg (named kind (.head _))]
      apply achieves_bind (KindsRepo.upsert_achieves kind)
      intro result between facts
      obtain ⟨stored, err⟩ := result
      obtain ⟨stores, calm⟩ := facts
      cases err with
      | some error => exact achieves_pure ⟨by simp, calm⟩
      | none =>
          obtain ⟨row, settled, puts⟩ := stores rfl
          apply (ih (fun other member => own other (.tail _ member))
            (fun other member => named other (.tail _ member))
            between).weaken
          intro err after facts
          obtain ⟨upserted, calm⟩ := facts
          refine ⟨fun done => ?_, calm⟩
          exact (upserted done).cons (own kind (.head _)) settled puts

/-- `Register` writes the client's row and then the rows of the kinds. -/
theorem register_achieves (client : Client) (kinds : List Kind)
    (own : ∀ kind ∈ kinds, Collation.equal kind.clientID client.id)
    (named : ∀ kind ∈ kinds, kind.id ≠ "") (database : Database) :
    Achieves environment conn (Registrar.register conn client kinds) database
      fun err after =>
        (err = none → ∃ row between,
          ClientsRepo.Settled client
            (database.tables.lookup .clients (Collation.key [client.id])) row ∧
          Tables.Puts .clients row database.tables between ∧
          Upserted client.id kinds between after.tables) ∧
        (Faultless environment → err = none) := by
  apply achieves_bind (ClientsRepo.upsert_achieves client)
  intro result between facts
  obtain ⟨stored, err⟩ := result
  obtain ⟨stores, calm⟩ := facts
  cases err with
  | some error => exact achieves_pure ⟨by simp, calm⟩
  | none =>
      obtain ⟨row, settled, puts⟩ := stores rfl
      apply (registerKinds_achieves kinds own named between).weaken
      intro err after facts
      obtain ⟨upserted, calm⟩ := facts
      exact ⟨fun done => ⟨row, between.tables, settled, puts,
        upserted done⟩, calm⟩

end Loop

/-! ## The calls of a registration -/

section Calls

variable {allowed : Op → Prop} {conn : Conn} {client : Client}
  {kinds : List Kind} (clock : allowed .now)
  (reads : ∀ wanted, allowed (.sql conn (.select .kinds wanted)))
  (inserts : ∀ kind ∈ kinds, ∀ row, KindsRepo.Copies kind row →
    allowed (.sql conn (.insert .kinds row)))
  (updates : ∀ kind ∈ kinds, ∀ row, KindsRepo.Copies kind row →
    allowed (.sql conn (.update .kinds row)))

include clock reads inserts updates

theorem registerKinds_only :
    (Registrar.registerKinds conn kinds).Only allowed := by
  induction kinds with
  | nil => exact trivial
  | cons kind rest ih =>
      have later := ih (fun other member => inserts other (.tail _ member))
        (fun other member => updates other (.tail _ member))
      rw [Registrar.registerKinds]
      split
      · exact later
      · apply Program.only_bind (KindsRepo.upsert_only clock reads
          (inserts kind (.head _)) (updates kind (.head _)))
        intro result
        obtain ⟨stored, err⟩ := result
        cases err with
        | some error => exact trivial
        | none => exact later

variable (readsClients : ∀ wanted, allowed (.sql conn (.select .clients wanted)))

include readsClients

theorem register_only
    (insertsClient : ∀ row, allowed (.sql conn (.insert .clients row)))
    (updatesClient : ∀ row, allowed (.sql conn (.update .clients row))) :
    (Registrar.register conn client kinds).Only allowed := by
  apply Program.only_bind (ClientsRepo.upsert_only clock readsClients
    insertsClient updatesClient)
  intro result
  obtain ⟨stored, err⟩ := result
  cases err with
  | some error => exact trivial
  | none => exact registerKinds_only clock reads inserts updates

theorem registration_only {prune : Bool}
    (insertsClient : ∀ row, allowed (.sql conn (.insert .clients row)))
    (updatesClient : ∀ row, allowed (.sql conn (.update .clients row)))
    (deletes : ∀ row, allowed (.sql conn (.delete .kinds row))) :
    (registration client kinds prune conn).Only allowed := by
  apply Program.only_bind (register_only clock reads inserts updates
    readsClients insertsClient updatesClient)
  intro err
  cases err with
  | some error => exact trivial
  | none =>
      cases prune with
      | false => exact trivial
      | true =>
          exact Program.only_bind (KindsRepo.trim_only _ _ reads deletes)
            fun _ => trivial

end Calls

namespace NotificationsFinder

variable {allowed : Op → Prop}

theorem client_only (clientID : String)
    (reads : ∀ wanted, allowed (.sql .connection (.select .clients wanted))) :
    (client clientID).Only allowed := by
  apply Program.only_bind (ClientsRepo.find_only reads _)
  intro result
  obtain ⟨client, err⟩ := result
  split <;> exact trivial

theorem kind_only (clientID kindID : String)
    (reads : ∀ wanted, allowed (.sql .connection (.select .kinds wanted))) :
    (kind clientID kindID).Only allowed := by
  apply Program.only_bind (KindsRepo.find_only reads _ _)
  intro result
  obtain ⟨kind, err⟩ := result
  split <;> exact trivial

theorem clientAndKind_only (clientID kindID : String)
    (reads : ∀ table wanted,
      allowed (.sql .connection (.select table wanted))) :
    (clientAndKind clientID kindID).Only allowed := by
  apply Program.only_bind (client_only _ (reads .clients))
  intro client
  cases client with
  | error error => exact trivial
  | ok client =>
      apply Program.only_bind (kind_only _ _ (reads .kinds))
      intro kind
      cases kind <;> exact trivial

end NotificationsFinder

omit [Collation] in
theorem inTransaction_only {allowed : Op → Prop} {body : Prog (Option Error)}
    (begins : allowed .begin) (commits : allowed .commit)
    (rollsBack : allowed .rollback) (only : body.Only allowed) :
    (inTransaction body).Only allowed := by
  apply Program.only_perform begins
  intro begun
  apply Program.only_bind only
  intro err
  cases err with
  | some error =>
      refine Program.only_bind (Program.only_perform rollsBack ?_) ?_
      · intro reply
        cases reply <;> exact trivial
      · intro result
        exact trivial
  | none =>
      refine Program.only_bind (Program.only_perform commits ?_) ?_
      · intro reply
        cases reply <;> exact trivial
      · intro result
        cases result <;> exact trivial

theorem registration_onConn {conn : Conn} {client : Client}
    {kinds : List Kind} {prune : Bool} :
    (registration client kinds prune conn).Only (OnConn conn) :=
  registration_only trivial (fun _ => rfl) (fun _ _ _ _ => rfl)
    (fun _ _ _ _ => rfl) (fun _ => rfl) (fun _ => rfl) (fun _ => rfl)
    fun _ => rfl

/-! ## The whole registration -/

structure Registered (client : Client) (kinds : List Kind) (prune : Bool)
    (before after : Tables) : Prop where
  described : ∃ row, after.lookup .clients
    (Collation.key [client.id]) = some row ∧
    ClientsRepo.Settled client (before.lookup .clients
      (Collation.key [client.id])) row
  missing : ∀ id, lastOf id kinds = none →
    after.lookup .kinds (Collation.key [id, client.id]) =
      if prune then none else before.lookup .kinds
        (Collation.key [id, client.id])
  entry : ∀ id last, lastOf id kinds = some last →
    ∃ row, after.lookup .kinds (Collation.key [id, client.id]) = some row ∧
      Entry id kinds (before.lookup .kinds
        (Collation.key [id, client.id])) last row
  foreignClients : ∀ id, ¬ Collation.equal id client.id →
    after.lookup .clients (Collation.key [id]) = before.lookup .clients
      (Collation.key [id])
  foreignKinds : ∀ id other, ¬ Collation.equal other client.id →
    after.lookup .kinds (Collation.key [id, other]) = before.lookup .kinds
      (Collation.key [id, other])
  others : ∀ table, table ≠ .clients → table ≠ .kinds →
    after.rows table = before.rows table

theorem Registered.keepsClients {client : Client} {kinds : List Kind}
    {prune : Bool} {before after : Tables}
    (registered : Registered client kinds prune before after) (id : String)
    (present : (before.lookup .clients (Collation.key [id])).isSome = true) :
    (after.lookup .clients (Collation.key [id])).isSome = true := by
  by_cases own : Collation.equal id client.id
  · obtain ⟨row, found, _⟩ := registered.described
    rw [Collation.key_congr own, found]
    rfl
  · rwa [registered.foreignClients id own]

theorem Tables.lookup_congr {before after : Tables} {table : Table}
    (same : after.rows table = before.rows table) (key : List String) :
    after.lookup table key = before.lookup table key := by
  rw [Tables.lookup, Tables.lookup, same]

section Whole

variable {client : Client} {kinds : List Kind} {row : Client}
  {before between after : Tables}
  (settled : ClientsRepo.Settled client
    (before.lookup .clients (Collation.key [client.id])) row)
  (puts : Tables.Puts .clients row before between)

include settled puts

theorem Upserted.registered
    (upserted : Upserted client.id kinds between after) :
    Registered client kinds false before after := by
  have clients := Tables.lookup_congr (upserted.others .clients (by decide))
  have untouched := Tables.lookup_congr (puts.others .kinds (by decide))
  have key : Table.clients.uniqueKey row = Collation.key [client.id] := by
    rw [Table.uniqueKey, settled.id]
  refine ⟨⟨row, ?_, settled⟩, ?_, ?_, ?_, ?_, ?_⟩
  · rw [clients, ← key, puts.stored]
  · intro id absent
    rw [upserted.missing id absent, untouched]
    rfl
  · intro id last found
    obtain ⟨row, stored, entry⟩ := upserted.entry id last found
    rw [untouched] at entry
    exact ⟨row, stored, entry⟩
  · intro id different
    rw [clients, puts.lookup, key, if_neg (by simpa using different)]
  · intro id other different
    rw [upserted.foreign id other different, untouched]
  · intro table notClients notKinds
    rw [upserted.others table notKinds, puts.others table notClients]

end Whole

/-- `Prune` after `Register`: only the kinds of the list stay. -/
theorem Registered.pruned {client : Client} {kinds : List Kind}
    {before between after : Tables}
    (registered : Registered client kinds false before between)
    (trimmed : ∀ key, after.lookup .kinds key =
      (between.lookup .kinds key).filter fun row : Kind =>
        !KindsRepo.stale client.id (kinds.map Kind.id) row)
    (others : ∀ table, table ≠ .kinds →
      after.rows table = between.rows table) :
    Registered client kinds true before after := by
  have clients := Tables.lookup_congr (others .clients (by decide))
  -- a row that the lookup finds has the wanted columns
  have columns : ∀ id clientID (row : Kind),
      between.lookup .kinds (Collation.key [id, clientID]) = some row →
        Collation.weight row.id = Collation.weight id ∧
          Collation.weight row.clientID = Collation.weight clientID := by
    intro id clientID row found
    have same := (Tables.lookup_eq_some found).2
    simpa [Table.uniqueKey] using same
  refine ⟨?_, ?_, ?_, ?_, ?_, ?_⟩
  · rw [clients]
    exact registered.described
  · intro id absent
    rw [trimmed, if_pos rfl]
    cases found : between.lookup .kinds (Collation.key [id, client.id]) with
    | none => rfl
    | some row =>
        obtain ⟨named, own⟩ := columns id client.id row found
        have unlisted : row.id ∉ kinds.map Kind.id := by
          intro listed
          obtain ⟨kind, member, same⟩ := List.mem_map.mp listed
          have some := lastOf_isSome.mpr ⟨kind, member,
            Collation.equal_iff.mpr ((congrArg _ same).trans named)⟩
          rw [absent] at some
          cases some
        simp [Option.filter, KindsRepo.stale, own, unlisted]
  · intro id last found
    obtain ⟨row, stored, entry⟩ := registered.entry id last found
    have listed : row.id ∈ kinds.map Kind.id := by
      rw [entry.named]
      exact List.mem_map_of_mem (lastOf_eq_some found).1
    refine ⟨row, ?_, entry⟩
    rw [trimmed, stored]
    simp [Option.filter, KindsRepo.stale, listed]
  · intro id different
    rw [clients]
    exact registered.foreignClients id different
  · intro id other different
    rw [trimmed, ← registered.foreignKinds id other different]
    cases found : between.lookup .kinds (Collation.key [id, other]) with
    | none => rfl
    | some row =>
        have foreign : ¬ Collation.equal row.clientID client.id := by
          rwa [Collation.equal_iff, (columns id other row found).2,
            ← Collation.equal_iff]
        simp [Option.filter, KindsRepo.stale, foreign]
  · intro table notClients notKinds
    rw [others table notKinds, registered.others table notClients notKinds]

theorem registration_achieves {environment : Environment} {conn : Conn}
    (client : Client) (kinds : List Kind) (prune : Bool)
    (own : ∀ kind ∈ kinds, Collation.equal kind.clientID client.id)
    (named : ∀ kind ∈ kinds, kind.id ≠ "") (database : Database) :
    Achieves environment conn (registration client kinds prune conn) database
      fun err after =>
        (err = none →
          Registered client kinds prune database.tables after.tables) ∧
        (Faultless environment → err = none) := by
  apply achieves_bind (register_achieves client kinds own named database)
  intro err between facts
  obtain ⟨registered, calm⟩ := facts
  cases err with
  | some error => exact achieves_pure ⟨by simp, calm⟩
  | none =>
      obtain ⟨row, middle, settled, puts, upserted⟩ := registered rfl
      have registered := upserted.registered settled puts
      cases prune with
      | false => exact achieves_pure ⟨fun _ => registered, fun _ => rfl⟩
      | true =>
          apply achieves_bind (KindsRepo.trim_achieves client.id
            (kinds.map Kind.id) between)
          intro result after facts
          obtain ⟨count, err⟩ := result
          obtain ⟨trimmed, calm⟩ := facts
          refine achieves_pure ⟨fun done => ?_, calm⟩
          exact registered.pruned (trimmed done).1 (trimmed done).2

/-! ## Requests that do not set template IDs -/

/-- What the new row of a client takes from the old one. -/
def KeepsClient (row : Client) : Option Client → Prop
  | some old => row.primary = old.primary ∧ row.createdAt = old.createdAt ∧
      row.templateID = old.templateID
  | none => row.templateID = defaultTemplateID

/-- What the new row of a kind takes from the old one. -/
def KeepsKind (row : Kind) : Option Kind → Prop
  | some old => row.primary = old.primary ∧ row.createdAt = old.createdAt ∧
      row.templateID = old.templateID
  | none => row.templateID = defaultTemplateID

/-- The registry of the client is that of the request. -/
structure Replaced (client : Client) (kinds : List Kind)
    (before after : Tables) : Prop where
  described : ∃ row, after.lookup .clients
    (Collation.key [client.id]) = some row ∧
    row.description = client.description ∧
    KeepsClient row (before.lookup .clients (Collation.key [client.id]))
  listed : (((after.rows .kinds).filter fun row : Kind =>
    Collation.equal row.clientID client.id).map fun row =>
      Collation.weight row.id).Perm
        (kinds.map fun kind => Collation.weight kind.id).dedup
  entry : ∀ id last, lastOf id kinds = some last →
    ∃ row, after.lookup .kinds (Collation.key [id, client.id]) = some row ∧
      row.id = last.id ∧ row.description = last.description ∧
      row.critical = last.critical ∧
      KeepsKind row (before.lookup .kinds (Collation.key [id, client.id]))
  foreignClients : ∀ row : Client, ¬ Collation.equal row.id client.id →
    (row ∈ after.rows .clients ↔ row ∈ before.rows .clients)
  foreignKinds : ∀ row : Kind, ¬ Collation.equal row.clientID client.id →
    (row ∈ after.rows .kinds ↔ row ∈ before.rows .kinds)
  others : ∀ table, table ≠ .clients → table ≠ .kinds →
    after.rows table = before.rows table

theorem templateAfter_of_unset {kinds : List Kind}
    (unset : ∀ kind ∈ kinds, kind.templateID = "") (id template : String) :
    templateAfter id kinds template = template := by
  induction kinds generalizing template with
  | nil => rfl
  | cons kind rest ih =>
      have kept : chosen kind.templateID template = template :=
        if_pos (unset kind (.head _))
      rw [templateAfter, kept, ite_self]
      exact ih (fun other member => unset other (.tail _ member)) template

theorem lookup_kinds_iff {tables : Tables} (sound : tables.Sound)
    {id clientID : String} {row : Kind} :
    tables.lookup .kinds (Collation.key [id, clientID]) = some row ↔
      row ∈ tables.rows .kinds ∧ Collation.equal row.id id ∧
        Collation.equal row.clientID clientID := by
  rw [sound.lookup_iff]
  simp [Table.uniqueKey]

theorem lookup_clients_iff {tables : Tables} (sound : tables.Sound)
    {id : String} {row : Client} :
    tables.lookup .clients (Collation.key [id]) = some row ↔
      row ∈ tables.rows .clients ∧ Collation.equal row.id id := by
  rw [sound.lookup_iff]
  simp [Table.uniqueKey]

theorem nodup_kindIDs {tables : Tables} (sound : tables.Sound)
    (clientID : String) :
    (((tables.rows .kinds).filter fun row : Kind =>
      Collation.equal row.clientID clientID).map fun row =>
        Collation.weight row.id).Nodup := by
  have unique := sound.uniqueKey .kinds
  refine List.Nodup.map_on ?_ (List.Nodup.of_map _ unique |>.filter _)
  intro left inLeft right inRight same
  obtain ⟨leftMember, leftOwn⟩ := List.mem_filter.mp inLeft
  obtain ⟨rightMember, rightOwn⟩ := List.mem_filter.mp inRight
  apply unique.eq_of_mem leftMember rightMember
  rw [Collation.equal_iff] at leftOwn rightOwn
  simp [Table.uniqueKey, same, leftOwn, rightOwn]

/-- The kinds of the client are those of the request. -/
theorem Registered.kindIDs {client : Client} {kinds : List Kind}
    {before after : Database}
    (registered : Registered client kinds true before.tables after.tables) :
    (((after.tables.rows .kinds).filter fun row : Kind =>
      Collation.equal row.clientID client.id).map fun row =>
        Collation.weight row.id).Perm
          (kinds.map fun kind => Collation.weight kind.id).dedup := by
  apply (List.perm_ext_iff_of_nodup (nodup_kindIDs after.sound client.id)
    (List.nodup_dedup _)).mpr
  intro name
  rw [List.mem_dedup, List.mem_map, List.mem_map]
  constructor
  · rintro ⟨row, chosen, rfl⟩
    obtain ⟨stored, own⟩ := List.mem_filter.mp chosen
    have found := (lookup_kinds_iff after.sound).mpr
      ⟨stored, Collation.equal_self row.id, own⟩
    cases last : lastOf row.id kinds with
    | some kind =>
        obtain ⟨member, same⟩ := lastOf_eq_some last
        exact ⟨kind, member, Collation.equal_iff.mp same⟩
    | none =>
        have gone := registered.missing row.id last
        rw [found, if_pos rfl] at gone
        cases gone
  · rintro ⟨kind, member, rfl⟩
    obtain ⟨last, found⟩ := Option.isSome_iff_exists.mp
      (lastOf_isSome.mpr ⟨kind, member, Collation.equal_self kind.id⟩)
    obtain ⟨row, stored, _⟩ := registered.entry kind.id last found
    obtain ⟨member, named, own⟩ := (lookup_kinds_iff after.sound).mp stored
    exact ⟨row, List.mem_filter.mpr ⟨member, own⟩, Collation.equal_iff.mp named⟩

theorem Registered.replaced {client : Client} {kinds : List Kind}
    {before after : Database}
    (registered : Registered client kinds true before.tables after.tables)
    (unsetClient : client.templateID = "")
    (unsetKinds : ∀ kind ∈ kinds, kind.templateID = "") :
    Replaced client kinds before.tables after.tables := by
  refine ⟨?_, ?_, ?_, ?_, ?_, registered.others⟩
  · obtain ⟨row, stored, settled⟩ := registered.described
    refine ⟨row, stored, settled.description, ?_⟩
    have template := settled.templateID
    rw [chosen, if_pos unsetClient] at template
    cases old : before.tables.lookup .clients (Collation.key [client.id]) with
    | none =>
        rw [old] at template
        exact template
    | some existing =>
        rw [old] at template
        have kept := settled.kept existing old
        exact ⟨kept.1, kept.2, template⟩
  · exact registered.kindIDs
  · intro id last found
    obtain ⟨row, stored, entry⟩ := registered.entry id last found
    refine ⟨row, stored, entry.named, entry.description, entry.critical, ?_⟩
    have template := entry.templateID
    rw [templateAfter_of_unset unsetKinds] at template
    cases old : before.tables.lookup .kinds (Collation.key [id, client.id]) with
    | none =>
        rw [old] at template
        exact template
    | some existing =>
        rw [old] at template
        have kept := entry.kept existing old
        exact ⟨kept.1, kept.2, template⟩
  · intro row different
    have same := registered.foreignClients row.id different
    have inAfter := @lookup_clients_iff _ _ after.sound row.id row
    have inBefore := @lookup_clients_iff _ _ before.sound row.id row
    rw [same, inBefore] at inAfter
    simpa using inAfter.symm
  · intro row different
    have same := registered.foreignKinds row.id row.clientID different
    have inAfter := @lookup_kinds_iff _ _ after.sound row.id row.clientID row
    have inBefore := @lookup_kinds_iff _ _ before.sound row.id row.clientID row
    rw [same, inBefore] at inAfter
    simpa using inAfter.symm

/-- A registration with its kinds makes the registry of the client equal to the
request, or an error leaves the database as it was; without failing statements
there is no error. -/
theorem registration_replaces_registry (environment : Environment)
    (world : World) (client : Client) (kinds : List Kind)
    (unsetClient : client.templateID = "")
    (own : ∀ kind ∈ kinds, kind.clientID = client.id)
    (named : ∀ kind ∈ kinds, kind.id ≠ "")
    (unsetKinds : ∀ kind ∈ kinds, kind.templateID = "") :
    ∃ result after,
      (inTransaction (registration client kinds true .transaction)).run
        (World.handle environment) world = (result, after) ∧
      (result = some none →
        Replaced client kinds world.database.tables after.database.tables) ∧
      (result ≠ some none → after.database = world.database) ∧
      (Faultless environment → result = some none) := by
  have alike : ∀ kind ∈ kinds, Collation.equal kind.clientID client.id := by
    intro kind member
    rw [own kind member]
    exact Collation.equal_self _
  obtain ⟨result, after, ran, outcome, calm⟩ := run_inTransaction
    registration_onConn world (registration_achieves client kinds true alike
      named world.database)
  refine ⟨result, after, ran, ?_, ?_, ?_⟩
  · intro same
    subst same
    rcases outcome with ⟨_, registered, _⟩ | ⟨failed, _⟩
    · exact (registered rfl).replaced unsetClient unsetKinds
    · exact absurd rfl failed
  · intro failed
    rcases outcome with ⟨done, _⟩ | ⟨_, unchanged⟩
    · exact absurd done failed
    · exact unchanged
  · intro faultless
    exact calm faultless fun err after holds => holds.2 faultless

end Collated

attribute [local instance] Collation.binary

def sampleRegistry : World :=
  .start [.insert .clients ⟨0, "client", "old", 0, "mine"⟩,
    .insert .kinds ⟨0, "kept", "old", false, "client", 0, 0, "own"⟩,
    .insert .kinds ⟨0, "gone", "old", false, "client", 0, 0, "own"⟩]

def sampleClient : Client := ⟨0, "client", "new", 0, ""⟩

def sampleKinds : List Kind :=
  [⟨0, "kept", "first", false, "client", 0, 0, ""⟩,
    ⟨0, "kept", "second", true, "client", 0, 0, ""⟩]

theorem registration_replaces_sample :
    ∃ after,
      (inTransaction (registration sampleClient sampleKinds true
        .transaction)).run (World.handle .calm) sampleRegistry =
          (some none, after) ∧
      Replaced sampleClient sampleKinds sampleRegistry.database.tables
        after.database.tables := by
  obtain ⟨result, after, ran, replaced, _, calm⟩ :=
    registration_replaces_registry .calm sampleRegistry sampleClient
      sampleKinds rfl (by decide) (by decide) (by decide)
  have success := calm fun _ => rfl
  exact ⟨after, success ▸ ran, replaced success⟩

end Notifications.Services
