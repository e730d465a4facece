import Notifications.Lib.Contract
import Notifications.Lib.Machine
import Notifications.Models.Storing

/-!
# Two upserts of one key

The `Upsert` methods, and `GlobalUnsubscribesRepo.Set`, decide between `INSERT`
and `UPDATE` from a `SELECT` that they have made before.  Two calls with the
same key run next to each other, one statement at a time.  If neither of them
finds a row, the second `INSERT` meets the row of the first.
-/

set_option autoImplicit false

namespace Notifications.Models

open Notifications.Lib

section Collated

variable [Collation]

/-! ## The calls -/

/-- A call that makes sure of a row with a key. -/
inductive Upsert : Table → List String → Type where
  /-- `ClientsRepo.Upsert` -/
  | client (client : Client) : Upsert .clients (Collation.key [client.id])
  /-- `KindsRepo.Upsert` -/
  | kind (kind : Kind) : Upsert .kinds (Collation.key [kind.id, kind.clientID])
  /-- `UnsubscribesRepo.Upsert` -/
  | unsubscribe (unsubscribe : Unsubscribe) : Upsert .unsubscribes
      (Collation.key
        [unsubscribe.userID, unsubscribe.clientID, unsubscribe.kindID])
  /-- `MessagesRepo.Upsert` -/
  | message (message : Message) : Upsert .messages [message.id]
  /-- `GlobalUnsubscribesRepo.Set(userGUID, true)` -/
  | globalUnsubscribe (userGUID : String) :
      Upsert .globalUnsubscribes (Collation.key [userGUID])

namespace Upsert

def program {table : Table} {key : List String} :
    Upsert table key → Prog (Option Error)
  | client wanted => do
      let (_, err) ← ClientsRepo.upsert .connection wanted
      pure err
  | kind wanted => do
      let (_, err) ← KindsRepo.upsert .connection wanted
      pure err
  | unsubscribe wanted => do
      let (_, err) ← UnsubscribesRepo.upsert .connection wanted
      pure err
  | message wanted => do
      let (_, err) ← MessagesRepo.upsert .connection wanted
      pure err
  | globalUnsubscribe userGUID =>
      GlobalUnsubscribesRepo.set .connection userGUID true

/-- The row has the values that the call sets; an empty template ID sets
none.  An unsubscribe that is there already keeps its spelling. -/
def Carried {table : Table} {key : List String} :
    Upsert table key → table.Row → Prop
  | client wanted, row =>
      row.id = wanted.id ∧ row.description = wanted.description ∧
        (wanted.templateID ≠ "" → row.templateID = wanted.templateID)
  | kind wanted, row =>
      row.id = wanted.id ∧ row.clientID = wanted.clientID ∧
        row.description = wanted.description ∧
        row.critical = wanted.critical ∧
        (wanted.templateID ≠ "" → row.templateID = wanted.templateID)
  | unsubscribe wanted, row =>
      Collation.equal row.userID wanted.userID ∧
        Collation.equal row.clientID wanted.clientID ∧
        Collation.equal row.kindID wanted.kindID
  | message wanted, row =>
      row.id = wanted.id ∧ row.status = wanted.status
  | globalUnsubscribe userGUID, row => Collation.equal row.userID userGUID

end Upsert

/-! ## The race -/

inductive Side where
  | left
  | right
  deriving DecidableEq, Repr

structure Race where
  database : Database
  left : Prog (Option Error)
  right : Prog (Option Error)

/-- A program that is about to execute a statement, or has ended: what it reads
from the clock on the way is `now`. -/
def settle {α : Type} (now : Int) : Prog α → Prog α
  | .call .now next => settle now (next now)
  | program => program

/-- The next statement of a program, and what the program does with its
answer. -/
def advanced {α : Type} (now : Int) (database : Database)
    (program : Prog α) : Option (Database × Prog α) :=
  match settle now program with
  | .call (.sql .connection statement) next =>
      some ((database.execute statement).2,
        next (World.reply (database.execute statement).1))
  | _ => none

namespace Race

def step (race : Race) (event : Side × Int) : Option (Race × List Unit) :=
  match event.1 with
  | .left => do
      let (database, program) ← advanced event.2 race.database race.left
      some ({ race with database := database, left := program }, [])
  | .right => do
      let (database, program) ← advanced event.2 race.database race.right
      some ({ race with database := database, right := program }, [])

def machine : Machine Race (Side × Int) Unit := ⟨step⟩

/-- The same race, with the calls in the other places. -/
def swap (race : Race) : Race := ⟨race.database, race.right, race.left⟩

variable {race next : Race} {now : Int} {shown : List Unit}

theorem step_left (stepped : race.step (.left, now) = some (next, shown)) :
    ∃ after rest,
      advanced now race.database race.left = some (after, rest) ∧
        next = ⟨after, rest, race.right⟩ := by
  obtain ⟨⟨after, rest⟩, moved, same⟩ := Option.bind_eq_some_iff.mp stepped
  cases same
  exact ⟨after, rest, moved, rfl⟩

/-- What the right call does is what the left one does in the swapped race. -/
theorem swap_step (stepped : race.step (.right, now) = some (next, shown)) :
    race.swap.step (.left, now) = some (next.swap, shown) := by
  obtain ⟨⟨after, rest⟩, moved, same⟩ := Option.bind_eq_some_iff.mp stepped
  cases same
  exact Option.bind_eq_some_iff.mpr ⟨(after, rest), moved, rfl⟩

theorem step_right (stepped : race.step (.right, now) = some (next, shown)) :
    ∃ after rest,
      advanced now race.database race.right = some (after, rest) ∧
        next = ⟨after, race.left, rest⟩ := by
  obtain ⟨after, rest, moved, same⟩ := step_left (swap_step stepped)
  exact ⟨after, rest, moved, congrArg swap same⟩

end Race

/-! ## What a call does, statement by statement -/

section Spec

variable (table : Table) (key : List String) (primary : PrimaryKey)
  (carried : table.Row → Prop)

/-- A call that has found the row: it reads, and it writes rows with its own
values over the row.  It knows whether it has written. -/
def refreshing : Contract Op Answer Bool where
  may _ op :=
    match op with
    | .now => True
    | .sql .connection statement =>
        statement.reads = true ∨ ∃ row, statement = .update table row ∧
          table.uniqueKey row = key ∧ table.primaryKey row = primary ∧
          carried row
    | _ => False
  possible op :=
    match op with
    | .sql _ statement => fun answer => ∃ (database : Database) (row : _),
        database.tables.lookup table key = some row ∧
          table.primaryKey row = primary ∧
          answer = World.reply (database.execute statement).1
    | _ => fun _ => True
  learn knows op _ :=
    match op with
    | .sql _ (.update _ _) => true
    | _ => knows

/-- It ends without an error, and the row has its values. -/
def Refreshed (knows : Bool) (err : Option Error) : Prop :=
  err = none ∧
    (knows = true ∨ ∀ row, table.uniqueKey row = key → carried row)

def Inserting (program : Prog (Option Error)) : Prop :=
  ∀ now, ∃ row next,
    settle now program = .call (.sql .connection (.insert table row)) next ∧
    table.uniqueKey row = key ∧
    (∀ number, carried (table.numbered row number)) ∧
    (∀ stored, next (.ok stored) = .ret none) ∧
    ∀ text, ∃ error, next (.failed text) = .ret (some error)

def Upserts (program : Prog (Option Error)) : Prop :=
  ∃ wanted next,
    program = .call (.sql .connection (.select table wanted)) next ∧
    (∀ row, wanted row = (table.uniqueKey row == key)) ∧
    Inserting table key carried (next (.ok [])) ∧
    ∀ (database : Database) (row : _),
      database.tables.lookup table key = some row →
      (next (.ok [row])).Meets
        (refreshing table key (table.primaryKey row) carried)
        (Refreshed table key carried) false

end Spec

section Refreshing

variable {table : Table} {key : List String} {primary : PrimaryKey}
  {carried : table.Row → Prop} {β : Type}
  {done : Bool → β → Prop} {knows : Bool}

theorem meets_selectOne_found {wanted : table.Row → Bool}
    (byKey : ∀ row, wanted row = (table.uniqueKey row == key))
    {rest : table.Row × Option Error → Prog β}
    (next : ∀ (database : Database) (row : _),
      database.tables.lookup table key = some row →
      table.primaryKey row = primary →
      (rest (row, none)).Meets (refreshing table key primary carried) done
        knows) :
    (selectOne .connection table wanted >>= rest).Meets
      (refreshing table key primary carried) done knows := by
  refine ⟨.inl rfl, ?_⟩
  intro answer facts
  obtain ⟨database, row, found, same, rfl⟩ := facts
  have selected : (database.tables.rows table).filter wanted = [row] := by
    rw [database.sound.filter_eq byKey, found]
    rfl
  have result : World.reply
      (database.execute (.select table wanted)).1 = .ok [row] := by
    simp only [Database.execute, Statement.execute, World.reply, selected]
  rw [result]
  exact next database row found same

theorem meets_update {row : table.Row} (keyed : table.uniqueKey row = key)
    (same : table.primaryKey row = primary) (holds : carried row)
    {rest : Except Error Unit → Prog β}
    (next : (rest (.ok ())).Meets (refreshing table key primary carried) done
      true) :
    (sql .connection (.update table row) >>= rest).Meets
      (refreshing table key primary carried) done knows := by
  refine ⟨.inr ⟨row, rfl, keyed, same, holds⟩, ?_⟩
  intro answer facts
  obtain ⟨database, old, found, primary, rfl⟩ := facts
  rw [← keyed] at found
  rw [(Database.update_puts found (primary.trans same.symm)).1]
  exact next

theorem meets_nowTruncated {rest : Int → Prog β}
    (next : ∀ now, (rest now).Meets (refreshing table key primary carried)
      done knows) :
    (nowTruncated >>= rest).Meets (refreshing table key primary carried) done
      knows :=
  ⟨trivial, fun _ _ => next _⟩

end Refreshing

theorem KindsRepo.byKey (id clientID : String) (row : Kind) :
    (Collation.equal row.id id && Collation.equal row.clientID clientID) =
      (Table.kinds.uniqueKey row == Collation.key [id, clientID]) := by
  simp [Table.uniqueKey]

namespace Upsert

theorem unsubscribe_carried (wanted : Unsubscribe) {row : Unsubscribe}
    (keyed : Table.unsubscribes.uniqueKey row =
      Collation.key [wanted.userID, wanted.clientID, wanted.kindID]) :
    Carried (unsubscribe wanted) row := by
  simpa [Table.uniqueKey, Carried] using keyed

theorem unsubscribe_upserts (wanted : Unsubscribe) :
    Upserts .unsubscribes
      (Collation.key [wanted.userID, wanted.clientID, wanted.kindID])
      (Carried (unsubscribe wanted)) (program (unsubscribe wanted)) := by
  refine ⟨fun row => Collation.equal row.clientID wanted.clientID &&
    Collation.equal row.kindID wanted.kindID &&
      Collation.equal row.userID wanted.userID, _, rfl, ?_, ?_, ?_⟩
  · intro row
    rw [Bool.eq_iff_iff]
    simp only [Table.uniqueKey, Bool.and_eq_true, beq_iff_eq,
      Collation.equal_iff, Collation.key_cons_eq, and_true]
    tauto
  · intro now
    exact ⟨_, _, rfl, rfl, fun _ => unsubscribe_carried wanted rfl,
      fun _ => rfl, fun _ => ⟨_, rfl⟩⟩
  · intro database row found
    exact ⟨rfl, .inr fun row keyed => unsubscribe_carried wanted keyed⟩

theorem globalUnsubscribe_upserts (userGUID : String) :
    Upserts .globalUnsubscribes (Collation.key [userGUID])
      (Carried (globalUnsubscribe userGUID))
      (program (globalUnsubscribe userGUID)) := by
  refine ⟨fun row => Collation.equal row.userID userGUID, _, rfl, ?_, ?_, ?_⟩
  · intro row
    simp [Table.uniqueKey]
  · intro now
    exact ⟨_, _, rfl, rfl, fun _ => Collation.equal_self userGUID,
      fun _ => rfl, fun _ => ⟨_, rfl⟩⟩
  · intro database row found
    obtain ⟨member, _⟩ := Tables.lookup_eq_some found
    have bounds := database.sound.numbers .globalUnsubscribes row member
      row.primary rfl
    have stored : row.primary ≠ 0 := by omega
    have idle : GlobalUnsubscribesRepo.change .connection row true =
        pure none := by
      simp [GlobalUnsubscribesRepo.change, stored]
    change (GlobalUnsubscribesRepo.change .connection row true).Meets _ _ _
    rw [idle]
    refine ⟨rfl, .inr ?_⟩
    intro other keyed
    simpa [Table.uniqueKey, Carried] using keyed

theorem message_upserts (wanted : Message) :
    Upserts .messages [wanted.id] (Carried (message wanted))
      (program (message wanted)) := by
  refine ⟨fun row => row.id == wanted.id, _, rfl, ?_, ?_, ?_⟩
  · intro row
    simp [Table.uniqueKey]
  · intro now
    exact ⟨_, _, rfl, rfl, fun _ => ⟨rfl, rfl⟩, fun _ => rfl,
      fun _ => ⟨_, rfl⟩⟩
  · intro database row found
    have keyed := (Tables.lookup_eq_some found).2
    change (MessagesRepo.update .connection wanted >>= fun result =>
      pure result.2).Meets _ _ _
    apply Program.meets_bind
    apply meets_nowTruncated
    intro now
    have primary : Table.messages.primaryKey
        { wanted with updatedAt := now } = Table.messages.primaryKey row := by
      simpa [Table.primaryKey, Table.uniqueKey] using keyed.symm
    apply meets_update rfl primary ⟨rfl, rfl⟩
    apply meets_selectOne_found
    · intro row
      simp [Table.uniqueKey]
    · intro database row found same
      exact ⟨rfl, .inl rfl⟩

/-- The rest of `Update` for a client, with the template ID settled. -/
theorem storeClient_meets (wanted row client : Client)
    (keyed : client.id = wanted.id)
    (primary : client.primary = row.primary)
    (carried : Carried (.client wanted) client) :
    (ClientsRepo.store .connection client).Meets
      (refreshing .clients
        (Collation.key [wanted.id]) (Table.clients.primaryKey row)
        (Carried (.client wanted)))
      (fun knows result => Refreshed .clients (Collation.key [wanted.id])
        (Carried (.client wanted)) knows result.2) false := by
  apply meets_update (by rw [Table.uniqueKey, keyed])
    (by rw [Table.primaryKey, Table.primaryKey, primary]) carried
  apply meets_selectOne_found
  · intro row
    simp [Table.uniqueKey, keyed]
  · intro database row found same
    exact ⟨rfl, .inl rfl⟩

theorem client_upserts (wanted : Client) :
    Upserts .clients (Collation.key [wanted.id]) (Carried (.client wanted))
      (program (.client wanted)) := by
  refine ⟨fun row => Collation.equal row.id wanted.id, _, rfl, ?_, ?_, ?_⟩
  · intro row
    simp [Table.uniqueKey]
  · intro now
    refine ⟨_, _, rfl, ?_, ?_, fun _ => rfl, fun _ => ⟨_, rfl⟩⟩
    · split <;> rfl
    · intro number
      split
      · rename_i unset
        exact ⟨rfl, rfl, fun set => absurd unset set⟩
      · exact ⟨rfl, rfl, fun _ => rfl⟩
  · intro database row found
    change (ClientsRepo.update .connection { wanted with
      primary := row.primary, createdAt := row.createdAt } >>= fun result =>
        pure result.2).Meets _ _ _
    apply Program.meets_bind
    rw [ClientsRepo.update]
    split
    · rename_i unset
      apply Program.meets_bind
      apply meets_selectOne_found
      · intro row
        simp [Table.uniqueKey]
      · intro between existing _ _
        exact storeClient_meets wanted row _ rfl rfl
          ⟨rfl, rfl, fun set => absurd unset set⟩
    · exact storeClient_meets wanted row _ rfl rfl ⟨rfl, rfl, fun _ => rfl⟩

/-- The rest of `Update` for a kind, with the row settled. -/
theorem storeKind_meets (wanted kind : Kind) {row : Kind}
    (id : kind.id = wanted.id) (client : kind.clientID = wanted.clientID)
    (primary : kind.primary = row.primary)
    (carried : Carried (.kind wanted) kind) :
    (do
      match ← sql .connection (.update .kinds kind) with
      | .error error => pure (kind, some error)
      | .ok _ => KindsRepo.find .connection kind.id kind.clientID :
        Prog (Kind × Option Error)).Meets
      (refreshing .kinds (Collation.key [wanted.id, wanted.clientID])
        (Table.kinds.primaryKey row) (Carried (.kind wanted)))
      (fun knows result => Refreshed .kinds
        (Collation.key [wanted.id, wanted.clientID])
        (Carried (.kind wanted)) knows result.2) false := by
  apply meets_update (by rw [Table.uniqueKey, id, client])
    (by rw [Table.primaryKey, Table.primaryKey, primary]) carried
  apply meets_selectOne_found
  · intro row
    rw [id, client]
    exact KindsRepo.byKey wanted.id wanted.clientID row
  · intro database row found same
    exact ⟨rfl, .inl rfl⟩

theorem kind_upserts (wanted : Kind) :
    Upserts .kinds
      (Collation.key [wanted.id, wanted.clientID]) (Carried (.kind wanted))
      (program (.kind wanted)) := by
  refine ⟨fun row => Collation.equal row.id wanted.id &&
    Collation.equal row.clientID wanted.clientID, _, rfl,
    KindsRepo.byKey wanted.id wanted.clientID, ?_, ?_⟩
  · intro now
    refine ⟨_, _, rfl, ?_, ?_, fun _ => rfl, fun _ => ⟨_, rfl⟩⟩
    · split <;> rfl
    · intro number
      split
      · rename_i unset
        exact ⟨rfl, rfl, rfl, rfl, fun set => absurd unset set⟩
      · exact ⟨rfl, rfl, rfl, rfl, fun _ => rfl⟩
  · intro database row found
    change (KindsRepo.update .connection { wanted with
      primary := row.primary } >>= fun result => pure result.2).Meets _ _ _
    apply Program.meets_bind
    rw [KindsRepo.update]
    apply Program.meets_bind
    apply meets_selectOne_found
    · exact KindsRepo.byKey wanted.id wanted.clientID
    · intro between existing _ same
      have same : existing.primary = row.primary := by
        simpa [Table.primaryKey] using same
      apply meets_nowTruncated
      intro now
      apply storeKind_meets wanted
      · split <;> rfl
      · split <;> rfl
      · split <;> exact same
      · split
        · rename_i unset
          exact ⟨rfl, rfl, rfl, rfl, fun set => absurd unset set⟩
        · exact ⟨rfl, rfl, rfl, rfl, fun _ => rfl⟩

theorem upserts {table : Table} {key : List String}
    (upsert : Upsert table key) :
    Upserts table key upsert.Carried upsert.program := by
  cases upsert with
  | client wanted => exact client_upserts wanted
  | kind wanted => exact kind_upserts wanted
  | unsubscribe wanted => exact unsubscribe_upserts wanted
  | message wanted => exact message_upserts wanted
  | globalUnsubscribe userGUID => exact globalUnsubscribe_upserts userGUID

end Upsert

/-! ## One statement of a call -/

theorem Database.execute_of_reads {statement : Statement}
    (reads : statement.reads = true) (database : Database) :
    (database.execute statement).2 = database := by
  have tables := statement.execute_of_reads reads database.tables
  cases database
  simp only [Database.execute, Database.mk.injEq]
  exact tables

theorem advanced_eq {now : Int} {database : Database}
    {program rest : Prog (Option Error)} {statement : Statement}
    {next : Answer (.sql .connection statement) → Prog (Option Error)}
    {after : Database}
    (settled : settle now program =
      .call (.sql .connection statement) next)
    (stepped : advanced now database program = some (after, rest)) :
    after = (database.execute statement).2 ∧
      rest = next (World.reply (database.execute statement).1) := by
  rw [advanced, settled] at stepped
  cases stepped
  exact ⟨rfl, rfl⟩

section Statements

variable {table : Table} {key : List String} {carried : table.Row → Prop}
  {now : Int} {database after : Database} {program rest : Prog (Option Error)}

theorem Upserts.advanced (upserts : Upserts table key carried program)
    (stepped : advanced now database program = some (after, rest)) :
    after = database ∧
      (database.tables.lookup table key = none →
        Inserting table key carried rest) ∧
      ∀ row, database.tables.lookup table key = some row →
        rest.Meets (refreshing table key (table.primaryKey row) carried)
          (Refreshed table key carried) false := by
  obtain ⟨wanted, next, rfl, byKey, inserting, found⟩ := upserts
  obtain ⟨rfl, rfl⟩ := advanced_eq rfl stepped
  have selected : World.reply (database.execute (.select table wanted)).1 =
      .ok (database.tables.lookup table key).toList := by
    simp only [Database.execute, Statement.execute, World.reply,
      database.sound.filter_eq byKey]
  rw [selected]
  refine ⟨Database.execute_of_reads rfl database, ?_, ?_⟩
  · intro absent
    rw [absent]
    exact inserting
  · intro row present
    rw [present]
    exact found database row present

theorem Inserting.advanced_absent
    (inserting : Inserting table key carried program)
    (absent : database.tables.lookup table key = none)
    (stepped : advanced now database program = some (after, rest)) :
    rest = .ret none ∧ ∃ row,
      after.tables.lookup table key = some row ∧ carried row := by
  obtain ⟨row, next, settled, keyed, holds, stored, _⟩ := inserting now
  obtain ⟨rfl, rfl⟩ := advanced_eq settled stepped
  rw [← keyed] at absent ⊢
  obtain ⟨result, puts⟩ := Database.insert_puts absent
  have keep := puts.stored
  rw [Table.uniqueKey_numbered] at keep
  exact ⟨by rw [result]; exact stored _, _, keep, holds _⟩

/-- An `INSERT` that meets a row fails, and changes nothing. -/
theorem Inserting.advanced_present
    (inserting : Inserting table key carried program) {old : table.Row}
    (present : database.tables.lookup table key = some old)
    (stepped : advanced now database program = some (after, rest)) :
    after.tables.lookup table key = some old ∧
      ∃ error, rest = .ret (some error) := by
  obtain ⟨row, next, settled, keyed, _, _, failed⟩ := inserting now
  obtain ⟨rfl, rfl⟩ := advanced_eq settled stepped
  have clash : database.tables.clashes table row = true := by
    rw [Tables.clashes_eq, keyed, present]
    rfl
  have executed : Statement.execute (.insert table row) database.tables =
      (.error (duplicateEntry (table.columns row)), database.tables) := by
    rw [Statement.execute, if_pos clash]
  simp only [Database.execute, executed, World.reply]
  exact ⟨present, failed _⟩

theorem settle_meets {primary : PrimaryKey} {knows : Bool}
    (meets : program.Meets (refreshing table key primary carried)
      (Refreshed table key carried) knows) :
    (settle now program).Meets (refreshing table key primary carried)
      (Refreshed table key carried) knows := by
  induction program with
  | ret value => exact meets
  | panic message => exact meets
  | call op next ih =>
      cases op with
      | now => exact ih now (meets.2 now trivial)
      | _ => exact meets

theorem refreshing_advanced {knows : Bool} {row : table.Row}
    (meets : program.Meets
      (refreshing table key (table.primaryKey row) carried)
      (Refreshed table key carried) knows)
    (present : database.tables.lookup table key = some row)
    (stepped : advanced now database program = some (after, rest)) :
    ∃ knows' row', after.tables.lookup table key = some row' ∧
      table.primaryKey row' = table.primaryKey row ∧
      rest.Meets (refreshing table key (table.primaryKey row) carried)
        (Refreshed table key carried) knows' ∧
      (row' = row ∧ knows' = knows ∨ carried row') := by
  have meets := @settle_meets _ _ _ _ now _ _ _ meets
  rw [advanced] at stepped
  split at stepped
  · rename_i statement next settled
    cases stepped
    rw [settled] at meets
    obtain ⟨may, later⟩ := meets
    have continued := later _ ⟨database, row, present, rfl, rfl⟩
    rcases may with reads | ⟨new, rfl, keyed, primary, holds⟩
    · refine ⟨_, row, ?_, rfl, continued, .inl ⟨rfl, ?_⟩⟩
      · rw [Database.execute_of_reads reads]
        exact present
      · cases statement <;> first | rfl | cases reads
    · refine ⟨_, new, ?_, primary, continued, .inr holds⟩
      rw [← keyed] at present ⊢
      exact (Database.update_puts present primary.symm).2.stored
  · cases stepped

end Statements

/-! ## The whole race -/

section Invariants

variable {table : Table} {key : List String} {carried : table.Row → Prop}

/-- A call that has not begun, or has found the row; `good` is what a write of
it has led to. -/
def Ready (table : Table) (key : List String) (carried : table.Row → Prop)
    (primary : PrimaryKey) (good : Prop) (program : Prog (Option Error)) :
    Prop :=
  Upserts table key carried program ∨
    ∃ knows, program.Meets (refreshing table key primary carried)
      (Refreshed table key carried) knows ∧ (knows = true → good)

theorem Ready.weaken {primary : PrimaryKey} {strong weak : Prop}
    {program : Prog (Option Error)}
    (ready : Ready table key carried primary strong program)
    (implies : strong → weak) :
    Ready table key carried primary weak program := by
  rcases ready with upserts | ⟨knows, meets, good⟩
  · exact .inl upserts
  · exact .inr ⟨knows, meets, fun known => implies (good known)⟩

/-- A call that has ended has no error, and the row has its values, or what
its writes have led to. -/
theorem Ready.ended {primary : PrimaryKey} {good : Prop}
    {err : Option Error} {row : table.Row}
    (ready : Ready table key carried primary good (.ret err))
    (keyed : table.uniqueKey row = key) :
    err = none ∧ (good ∨ carried row) := by
  rcases ready with ⟨_, _, wrong, _⟩ | ⟨knows, ⟨none, either⟩, good⟩
  · cases wrong
  · refine ⟨none, ?_⟩
    rcases either with known | always
    · exact .inl (good known)
    · exact .inr (always row keyed)

/-- One statement: the row is the same, or has the values of the call. -/
theorem Ready.advanced {good : table.Row → Prop} {now : Int}
    {database after : Database} {program rest : Prog (Option Error)}
    {row : table.Row}
    (ready : Ready table key carried (table.primaryKey row) (good row)
      program)
    (implies : ∀ row, carried row → good row)
    (present : database.tables.lookup table key = some row)
    (stepped : advanced now database program = some (after, rest)) :
    ∃ row', after.tables.lookup table key = some row' ∧
      table.primaryKey row' = table.primaryKey row ∧
      (row' = row ∨ good row') ∧
      Ready table key carried (table.primaryKey row') (good row') rest := by
  rcases ready with upserts | ⟨knows, meets, led⟩
  · obtain ⟨rfl, _, found⟩ := upserts.advanced stepped
    exact ⟨row, present, rfl, .inl rfl,
      .inr ⟨false, found row present, by simp⟩⟩
  · obtain ⟨knows', row', stored, same, continued, outcome⟩ :=
      refreshing_advanced meets present stepped
    rw [← same] at continued
    rcases outcome with ⟨rfl, rfl⟩ | holds
    · exact ⟨row', stored, same, .inl rfl, .inr ⟨_, continued, led⟩⟩
    · exact ⟨row', stored, same, .inr (implies row' holds),
        .inr ⟨_, continued, fun _ => implies row' holds⟩⟩

end Invariants

section Races

variable {table : Table} {key : List String} {left right : Upsert table key}

/-- The row has the values of one of the calls. -/
def CarriedByOne (left right : Upsert table key) (row : table.Row) : Prop :=
  left.Carried row ∨ right.Carried row

/-- There is a row, and nobody will insert another. -/
def Peaceful (left right : Upsert table key) (race : Race) : Prop :=
  ∃ row, race.database.tables.lookup table key = some row ∧
    Ready table key left.Carried (table.primaryKey row)
      (CarriedByOne left right row) race.left ∧
    Ready table key right.Carried (table.primaryKey row)
      (CarriedByOne left right row) race.right

theorem Peaceful.symm {race : Race} (peaceful : Peaceful left right race) :
    Peaceful right left race.swap := by
  obtain ⟨row, present, readyLeft, readyRight⟩ := peaceful
  exact ⟨row, present, readyRight.weaken Or.symm, readyLeft.weaken Or.symm⟩

theorem Peaceful.step_left {race next : Race} {now : Int}
    {shown : List Unit} (peaceful : Peaceful left right race)
    (stepped : race.step (.left, now) = some (next, shown)) :
    Peaceful left right next := by
  obtain ⟨row, present, readyLeft, readyRight⟩ := peaceful
  obtain ⟨after, rest, moved, rfl⟩ := Race.step_left stepped
  obtain ⟨row', stored, primary, outcome, ready⟩ := readyLeft.advanced
    (fun _ => Or.inl) present moved
  refine ⟨row', stored, ready, ?_⟩
  rw [primary]
  apply readyRight.weaken
  rcases outcome with rfl | good
  · exact id
  · exact fun _ => good

theorem Peaceful.step {race next : Race} {event : Side × Int}
    {shown : List Unit} (peaceful : Peaceful left right race)
    (stepped : race.step event = some (next, shown)) :
    Peaceful left right next := by
  obtain ⟨side, now⟩ := event
  cases side with
  | left => exact peaceful.step_left stepped
  | right => exact (peaceful.symm.step_left (Race.swap_step stepped)).symm

/-- One call has stored its row, and the other has not seen it. -/
def Late (table : Table) (key : List String) (carried : table.Row → Prop)
    (database : Database) (late early : Prog (Option Error)) : Prop :=
  early = .ret none ∧
    (((database.tables.lookup table key).isSome = true ∧
      Inserting table key carried late) ∨
      ∃ error, late = .ret (some error))

/-- Both calls are to insert, or one of them is too late already. -/
def Colliding (left right : Upsert table key) (race : Race) : Prop :=
  (race.database.tables.lookup table key = none ∧
    Inserting table key left.Carried race.left ∧
    Inserting table key right.Carried race.right) ∨
  Late table key left.Carried race.database race.left race.right ∨
  Late table key right.Carried race.database race.right race.left

theorem advanced_ret (now : Int) (database : Database) (err : Option Error) :
    advanced now database (.ret err) = none := rfl

theorem Late.moved {carried : table.Row → Prop} {now : Int}
    {database after : Database} {late early rest : Prog (Option Error)}
    (behind : Late table key carried database late early)
    (stepped : advanced now database late = some (after, rest)) :
    Late table key carried after rest early := by
  obtain ⟨ended, ⟨present, inserting⟩ | ⟨error, rfl⟩⟩ := behind
  · obtain ⟨row, found⟩ := Option.isSome_iff_exists.mp present
    obtain ⟨_, failed⟩ := inserting.advanced_present found stepped
    exact ⟨ended, .inr failed⟩
  · rw [advanced_ret] at stepped
    cases stepped

theorem Late.not_early {carried : table.Row → Prop} {now : Int}
    {database : Database} {late early : Prog (Option Error)}
    (behind : Late table key carried database late early) :
    advanced now database early = none := by
  rw [behind.1, advanced_ret]

theorem Colliding.symm {race : Race} (colliding : Colliding left right race) :
    Colliding right left race.swap := by
  rcases colliding with ⟨absent, first, second⟩ | behind | behind
  · exact .inl ⟨absent, second, first⟩
  · exact .inr (.inr behind)
  · exact .inr (.inl behind)

theorem Colliding.step_left {race next : Race} {now : Int}
    {shown : List Unit} (colliding : Colliding left right race)
    (stepped : race.step (.left, now) = some (next, shown)) :
    Colliding left right next := by
  obtain ⟨after, rest, moved, rfl⟩ := Race.step_left stepped
  rcases colliding with ⟨absent, first, second⟩ | behind | behind
  · obtain ⟨rfl, row, stored, _⟩ := first.advanced_absent absent moved
    refine .inr (.inr ⟨rfl, .inl ⟨?_, second⟩⟩)
    rw [stored]
    rfl
  · exact .inr (.inl (behind.moved moved))
  · rw [behind.not_early] at moved
    cases moved

theorem Colliding.step {race next : Race} {event : Side × Int}
    {shown : List Unit} (colliding : Colliding left right race)
    (stepped : race.step event = some (next, shown)) :
    Colliding left right next := by
  obtain ⟨side, now⟩ := event
  cases side with
  | left => exact colliding.step_left stepped
  | right => exact (colliding.symm.step_left (Race.swap_step stepped)).symm

/-! ## What comes out of it -/

def Race.Ended (race : Race) : Prop :=
  ∃ one other, race.left = .ret one ∧ race.right = .ret other

/-- No error, exactly one row, and it has the values of one of the calls. -/
structure BothSucceed (left right : Upsert table key) (race : Race) :
    Prop where
  leftEnds : race.left = .ret none
  rightEnds : race.right = .ret none
  stored : ∃ row, (race.database.tables.rows table).filter
      (fun row => table.uniqueKey row == key) = [row] ∧
    CarriedByOne left right row

/-- The call that comes first executes its second statement before the other
one executes any. -/
def Undisturbed (events : List (Side × Int)) : Prop :=
  ∃ side first second rest, events = (side, first) :: (side, second) :: rest

theorem Inserting.not_ret {carried : table.Row → Prop} {err : Option Error} :
    ¬ Inserting table key carried (.ret err) := by
  intro inserting
  obtain ⟨row, next, settled, _⟩ := inserting 0
  cases settled

theorem Peaceful.bothSucceed {race : Race}
    (peaceful : Peaceful left right race) (ended : race.Ended) :
    BothSucceed left right race := by
  obtain ⟨row, present, readyLeft, readyRight⟩ := peaceful
  obtain ⟨one, other, endedLeft, endedRight⟩ := ended
  rw [endedLeft] at readyLeft
  rw [endedRight] at readyRight
  have keyed := (Tables.lookup_eq_some present).2
  obtain ⟨rfl, outcome⟩ := readyLeft.ended keyed
  obtain ⟨rfl, _⟩ := readyRight.ended keyed
  refine ⟨endedLeft, endedRight, row, ?_, ?_⟩
  · rw [race.database.sound.filter_eq fun _ => rfl, present]
    rfl
  · rcases outcome with good | carried
    · exact good
    · exact .inl carried

theorem Colliding.not_bothSucceed {race : Race}
    (colliding : Colliding left right race) :
    ¬ BothSucceed left right race := by
  intro success
  rcases colliding with ⟨_, first, _⟩ | ⟨_, ⟨_, first⟩ | ⟨error, failed⟩⟩ |
    ⟨_, ⟨_, second⟩ | ⟨error, failed⟩⟩
  · rw [success.leftEnds] at first
    exact first.not_ret
  · rw [success.leftEnds] at first
    exact first.not_ret
  · rw [success.leftEnds] at failed
    cases failed
  · rw [success.rightEnds] at second
    exact second.not_ret
  · rw [success.rightEnds] at failed
    cases failed

/-- What every statement keeps, the rest of the race keeps. -/
theorem run_race (invariant : Race → Prop)
    (kept : ∀ race event next shown, invariant race →
      race.step event = some (next, shown) → invariant next)
    {events : List (Side × Int)} {race final : Race} {shown : List Unit}
    (start : invariant race)
    (ran : Race.machine.run events race = some (final, shown)) :
    invariant final :=
  Race.machine.run_state_invariant (fun _ _ => True) invariant
    (fun race event next shown holds _ => kept race event next shown holds)
    start (Race.machine.guarded_of_forall (fun _ _ _ => trivial) race) ran

def Race.start (database : Database) (left right : Upsert table key) : Race :=
  ⟨database, left.program, right.program⟩

theorem not_ended_of_upserts {carried : table.Row → Prop}
    {program : Prog (Option Error)} {err : Option Error}
    (upserts : Upserts table key carried program) : program ≠ .ret err := by
  obtain ⟨wanted, next, rfl, _⟩ := upserts
  simp

section Opening

variable {race next : Race} {now : Int} {shown : List Unit}

theorem step_left_inserting
    (absent : race.database.tables.lookup table key = none)
    (inserting : Inserting table key left.Carried race.left)
    (waiting : Upserts table key right.Carried race.right)
    (stepped : race.step (.left, now) = some (next, shown)) :
    Peaceful left right next := by
  obtain ⟨after, rest, moved, rfl⟩ := Race.step_left stepped
  obtain ⟨rfl, row, stored, carried⟩ := inserting.advanced_absent absent moved
  refine ⟨row, stored, ?_, .inl waiting⟩
  exact .inr ⟨true, ⟨rfl, .inl rfl⟩, fun _ => .inl carried⟩

theorem step_right_inserting
    (absent : race.database.tables.lookup table key = none)
    (waiting : Upserts table key left.Carried race.left)
    (inserting : Inserting table key right.Carried race.right)
    (stepped : race.step (.right, now) = some (next, shown)) :
    Peaceful left right next := by
  have swapped := @step_left_inserting _ _ _ right left race.swap next.swap now
    shown absent inserting waiting (Race.swap_step stepped)
  exact swapped.symm

theorem step_left_begins
    (absent : race.database.tables.lookup table key = none)
    (waiting : Upserts table key left.Carried race.left)
    (stepped : race.step (.left, now) = some (next, shown)) :
    next.database.tables.lookup table key = none ∧
      Inserting table key left.Carried next.left ∧
      next.right = race.right := by
  obtain ⟨after, rest, moved, rfl⟩ := Race.step_left stepped
  obtain ⟨rfl, inserting, _⟩ := waiting.advanced moved
  exact ⟨absent, inserting absent, rfl⟩

theorem step_right_begins
    (absent : race.database.tables.lookup table key = none)
    (waiting : Upserts table key right.Carried race.right)
    (stepped : race.step (.right, now) = some (next, shown)) :
    next.database.tables.lookup table key = none ∧
      Inserting table key right.Carried next.right ∧
      next.left = race.left :=
  @step_left_begins _ _ _ right race.swap next.swap now shown absent waiting
    (Race.swap_step stepped)

theorem opening {final : Race} {first second : Side × Int}
    {rest : List (Side × Int)} {database : Database}
    (absent : database.tables.lookup table key = none)
    (ran : Race.machine.run (first :: second :: rest)
      (.start database left right) = some (final, shown)) :
    if first.1 = second.1 then Peaceful left right final
    else Colliding left right final := by
  obtain ⟨next, _, _, firstStep, afterFirst, _⟩ := Race.machine.run_cons ran
  obtain ⟨third, _, _, secondStep, remaining, _⟩ :=
    Race.machine.run_cons afterFirst
  have peacefully := @run_race _ (Peaceful left right)
    (fun _ _ _ _ peaceful stepped => peaceful.step stepped)
  have collidingly := @run_race _ (Colliding left right)
    (fun _ _ _ _ colliding stepped => colliding.step stepped)
  obtain ⟨one, now⟩ := first
  obtain ⟨two, later⟩ := second
  cases one with
  | left =>
      obtain ⟨stillAbsent, inserting, waiting⟩ := step_left_begins absent
        left.upserts firstStep
      have waiting : Upserts table key right.Carried next.right :=
        waiting ▸ right.upserts
      cases two with
      | left =>
          exact peacefully (step_left_inserting stillAbsent inserting waiting
            secondStep) remaining
      | right =>
          obtain ⟨absent, inserting', same⟩ := step_right_begins stillAbsent
            waiting secondStep
          exact collidingly (.inl ⟨absent, same ▸ inserting, inserting'⟩) remaining
  | right =>
      obtain ⟨stillAbsent, inserting, waiting⟩ := step_right_begins absent
        right.upserts firstStep
      have waiting : Upserts table key left.Carried next.left :=
        waiting ▸ left.upserts
      cases two with
      | left =>
          obtain ⟨absent, inserting', same⟩ := step_left_begins stillAbsent
            waiting secondStep
          exact collidingly (.inl ⟨absent, inserting', same ▸ inserting⟩) remaining
      | right =>
          exact peacefully (step_right_inserting stillAbsent waiting inserting
            secondStep) remaining

end Opening

/-! ## Every race ends -/

/-- A program that only executes statements and reads the clock, and does not
panic.  The flag says whether it has read the clock since its last
statement. -/
def Flows {α : Type} (done : Bool → α → Prop) : Prog α → Bool → Prop
  | .ret value, clocked => done clocked value
  | .panic _, _ => False
  | .call .now next, _ => ∀ now, Flows done (next now) true
  | .call (.sql .connection _) next, _ =>
      ∀ result, Flows done (next (World.reply result)) false
  | .call _ _, _ => False

section Flowing

variable {α β : Type} {done : Bool → β → Prop} {clocked : Bool}

omit [Collation] in
theorem flows_bind {program : Prog α} {rest : α → Prog β}
    (flows : Flows (fun clocked value => Flows done (rest value) clocked)
      program clocked) :
    Flows done (program >>= rest) clocked := by
  induction program generalizing clocked with
  | ret value => exact flows
  | panic message => cases flows
  | call op next ih =>
      cases op with
      | now => exact fun now => ih now (flows now)
      | sql conn statement =>
          cases conn with
          | connection => exact fun result => ih _ (flows result)
          | transaction => cases flows
      | _ => cases flows

omit [Collation] in
theorem flows_sql {statement : Statement}
    {rest : Except Error statement.Result → Prog β}
    (next : ∀ result, Flows done (rest result) false) :
    Flows done (sql .connection statement >>= rest) clocked := by
  intro result
  cases result <;> exact next _

omit [Collation] in
theorem flows_nowTruncated {rest : Int → Prog β}
    (next : ∀ now, Flows done (rest now) true) :
    Flows done (nowTruncated >>= rest) clocked :=
  fun _ => next _

omit [Collation] in
theorem flows_weaken {program : Prog β} {strong weak : Bool → β → Prop}
    (flows : Flows strong program clocked)
    (implies : ∀ clocked value, strong clocked value → weak clocked value) :
    Flows weak program clocked := by
  induction program generalizing clocked with
  | ret value => exact implies clocked value flows
  | panic message => cases flows
  | call op next ih =>
      cases op with
      | now => exact fun now => ih now (flows now)
      | sql conn statement =>
          cases conn with
          | connection => exact fun result => ih _ (flows result)
          | transaction => cases flows
      | _ => cases flows

end Flowing

def Ends {α : Type} (program : Prog α) : Prop :=
  ∀ clocked, Flows (fun clocked _ => clocked = false) program clocked

omit [Collation] in
theorem flows_after {α β : Type} {done : Bool → β → Prop} {clocked : Bool}
    {program : Prog α} {rest : α → Prog β} (ends : Ends program)
    (next : ∀ value, Flows done (rest value) false) :
    Flows done (program >>= rest) clocked := by
  apply flows_bind
  apply flows_weaken (ends clocked)
  intro _ value same
  subst same
  exact next value

omit [Collation] in
theorem selectOne_ends {table : Table} (wanted : table.Row → Bool) :
    Ends (selectOne .connection table wanted) :=
  fun _ => flows_sql fun _ => rfl

omit [Collation] in
/-- `Create` and its siblings: the clock, and then the `INSERT`. -/
theorem insert_ends {α : Type} {statement : Int → Statement}
    {rest : (now : Int) → Except Error (statement now).Result → Prog α}
    (returns : ∀ now result, ∃ value, rest now result = .ret value) :
    Ends (nowTruncated >>= fun now =>
      sql .connection (statement now) >>= rest now) := by
  intro clocked
  apply flows_nowTruncated
  intro now
  apply flows_sql
  intro result
  obtain ⟨value, same⟩ := returns now result
  rw [same]
  exact rfl

theorem findClient_ends (id : String) :
    Ends (ClientsRepo.find .connection id) :=
  fun _ => flows_after (selectOne_ends _) fun _ => rfl

theorem storeClient_ends (client : Client) :
    Ends (ClientsRepo.store .connection client) := by
  intro clocked
  apply flows_sql
  intro result
  cases result with
  | error error => exact rfl
  | ok _ => exact findClient_ends _ _

omit [Collation] in
theorem createClient_ends (client : Client) :
    Ends (ClientsRepo.create .connection client) := by
  apply insert_ends
  intro now result
  cases result <;> exact ⟨_, rfl⟩

theorem upsertClient_ends (client : Client) :
    Ends (ClientsRepo.upsert .connection client) := by
  intro clocked
  apply flows_after (findClient_ends _)
  intro result
  obtain ⟨existing, err⟩ := result
  simp only
  split
  · exact createClient_ends _ _
  · rw [ClientsRepo.update]
    split
    · apply flows_after (findClient_ends _)
      intro result
      obtain ⟨found, err⟩ := result
      cases err with
      | some error => exact rfl
      | none => exact storeClient_ends _ _
    · exact storeClient_ends _ _
  · exact rfl

theorem findKind_ends (id clientID : String) :
    Ends (KindsRepo.find .connection id clientID) :=
  fun _ => flows_after (selectOne_ends _) fun _ => rfl

omit [Collation] in
theorem createKind_ends (kind : Kind) :
    Ends (KindsRepo.create .connection kind) := by
  apply insert_ends
  intro now result
  cases result <;> exact ⟨_, rfl⟩

theorem upsertKind_ends (kind : Kind) :
    Ends (KindsRepo.upsert .connection kind) := by
  intro clocked
  apply flows_after (findKind_ends _ _)
  intro facts
  obtain ⟨existing, err⟩ := facts
  simp only
  split
  · exact createKind_ends _ _
  · apply flows_after (findKind_ends _ _)
    intro facts
    obtain ⟨found, err⟩ := facts
    cases err with
    | some error => exact rfl
    | none =>
        apply flows_nowTruncated
        intro now
        apply flows_sql
        intro result
        cases result with
        | error error => exact rfl
        | ok _ => exact findKind_ends _ _ _
  · exact rfl

theorem upsertUnsubscribe_ends (unsubscribe : Unsubscribe) :
    Ends (UnsubscribesRepo.upsert .connection unsubscribe) := by
  have finds : Ends (UnsubscribesRepo.find .connection
      unsubscribe.clientID unsubscribe.kindID unsubscribe.userID) :=
    fun _ => flows_after (selectOne_ends _) fun _ => rfl
  have creates : Ends (UnsubscribesRepo.create .connection unsubscribe) := by
    apply insert_ends
    intro now result
    cases result <;> exact ⟨_, rfl⟩
  intro clocked
  apply flows_after finds
  intro facts
  obtain ⟨found, err⟩ := facts
  split
  · exact creates _
  · exact rfl
  · exact rfl

omit [Collation] in
theorem findMessage_ends (id : String) :
    Ends (MessagesRepo.findByID .connection id) := by
  intro clocked
  apply flows_after (selectOne_ends _)
  intro result
  obtain ⟨found, err⟩ := result
  cases err <;> exact rfl

omit [Collation] in
theorem upsertMessage_ends (message : Message) :
    Ends (MessagesRepo.upsert .connection message) := by
  have creates : Ends (MessagesRepo.create .connection message) := by
    apply insert_ends
    intro now result
    cases result <;> exact ⟨_, rfl⟩
  intro clocked
  apply flows_after (findMessage_ends _)
  intro facts
  obtain ⟨found, err⟩ := facts
  split
  · exact creates _
  · apply flows_nowTruncated
    intro now
    apply flows_sql
    intro result
    cases result with
    | error error => exact rfl
    | ok _ => exact findMessage_ends _ _
  · exact rfl

theorem setGlobalUnsubscribe_ends (userGUID : String) :
    Ends (GlobalUnsubscribesRepo.set .connection userGUID true) := by
  have inserts : ∀ (row : GlobalUnsubscribe) (clocked : Bool),
      row.primary = 0 → Flows (fun clocked _ => clocked = false)
        (GlobalUnsubscribesRepo.change .connection row true) clocked := by
    intro row clocked new
    simp only [GlobalUnsubscribesRepo.change, new, Bool.true_and,
      beq_self_eq_true, if_true]
    apply flows_sql
    intro result
    cases result <;> exact rfl
  intro clocked
  apply flows_after (selectOne_ends _)
  intro facts
  obtain ⟨found, err⟩ := facts
  split
  · exact fun now => inserts ⟨0, userGUID, now⟩ true rfl
  · exact rfl
  · rename_i stored
    cases stored
    by_cases new : found.primary = 0
    · exact inserts found false new
    · simp only [GlobalUnsubscribesRepo.change, new, Bool.true_and,
        beq_iff_eq, if_false, Bool.not_true, Bool.false_and,
        Bool.false_eq_true]
      exact rfl

theorem Upsert.ends (upsert : Upsert table key) : Ends upsert.program := by
  intro clocked
  cases upsert with
  | client wanted =>
      exact flows_after (upsertClient_ends wanted) fun _ => rfl
  | kind wanted =>
      exact flows_after (upsertKind_ends wanted) fun _ => rfl
  | unsubscribe wanted =>
      exact flows_after (upsertUnsubscribe_ends wanted) fun _ => rfl
  | message wanted =>
      exact flows_after (upsertMessage_ends wanted) fun _ => rfl
  | globalUnsubscribe userGUID =>
      exact setGlobalUnsubscribe_ends userGUID clocked

/-- The rest of a call, after any of its statements. -/
def Unfinished (program : Prog (Option Error)) : Prop :=
  Flows (fun clocked _ => clocked = false) program false

omit [Collation] in
theorem settle_flows {program : Prog (Option Error)} {clocked : Bool}
    (now : Int)
    (flows : Flows (fun clocked _ => clocked = false) program clocked) :
    ∃ clocked, Flows (fun clocked _ => clocked = false) (settle now program)
      clocked := by
  induction program generalizing clocked with
  | ret value => exact ⟨clocked, flows⟩
  | panic message => cases flows
  | call op next ih =>
      cases op with
      | now => exact ih now (flows now)
      | _ => exact ⟨clocked, flows⟩

theorem unfinished_advanced {now : Int} {database after : Database}
    {program rest : Prog (Option Error)} (unfinished : Unfinished program)
    (stepped : advanced now database program = some (after, rest)) :
    Unfinished rest := by
  obtain ⟨clocked, flows⟩ := settle_flows now unfinished
  rw [advanced] at stepped
  split at stepped
  · rename_i statement next settled
    cases stepped
    rw [settled] at flows
    exact flows _
  · cases stepped

def Race.Flowing (race : Race) : Prop :=
  Unfinished race.left ∧ Unfinished race.right

theorem Race.Flowing.step {race next : Race} {event : Side × Int}
    {shown : List Unit} (flowing : race.Flowing)
    (stepped : race.step event = some (next, shown)) : next.Flowing := by
  obtain ⟨side, now⟩ := event
  cases side with
  | left =>
      obtain ⟨after, rest, moved, rfl⟩ := Race.step_left stepped
      exact ⟨unfinished_advanced flowing.1 moved, flowing.2⟩
  | right =>
      obtain ⟨after, rest, moved, rfl⟩ := Race.step_right stepped
      exact ⟨flowing.1, unfinished_advanced flowing.2 moved⟩

def repeated : Nat → Database → Prog (Option Error) →
    Option (Database × Prog (Option Error))
  | 0, database, program => some (database, program)
  | count + 1, database, program => do
      let (database, program) ← advanced 0 database program
      repeated count database program

/-- By induction on the program: a clock that is read is read before the next
statement, which there is. -/
theorem repeated_to_end {program : Prog (Option Error)} {clocked : Bool}
    (flows : Flows (fun clocked _ => clocked = false) program clocked)
    (database : Database) :
    ∃ count after err,
      repeated count database program = some (after, .ret err) ∧
      (clocked = true → count ≠ 0) := by
  induction program generalizing database clocked with
  | ret value =>
      refine ⟨0, database, value, rfl, ?_⟩
      intro read
      rw [flows] at read
      cases read
  | panic message => cases flows
  | call op next ih =>
      cases op with
      | now =>
          obtain ⟨count, after, err, ran, some⟩ := ih 0 (flows 0) database
          cases count with
          | zero => exact absurd rfl (some rfl)
          | succ count => exact ⟨count + 1, after, err, ran, by simp⟩
      | sql conn statement =>
          cases conn with
          | connection =>
              obtain ⟨count, after, err, ran, _⟩ := ih _
                (flows (database.execute statement).1)
                (database.execute statement).2
              exact ⟨count + 1, after, err, ran, by simp⟩
          | transaction => cases flows
      | _ => cases flows

/-- One call alone, in a race where `put` gives its place. -/
theorem run_alone {side : Side} {put : Database → Prog (Option Error) → Race}
    (moves : ∀ database program,
      Race.machine.step (put database program) (side, 0) =
        (advanced 0 database program).bind fun moved =>
          some (put moved.1 moved.2, []))
    {count : Nat} {database after : Database}
    {program rest : Prog (Option Error)}
    (ran : repeated count database program = some (after, rest)) :
    Race.machine.run (List.replicate count (side, 0))
      (put database program) = some (put after rest, []) := by
  induction count generalizing database program with
  | zero =>
      cases ran
      rfl
  | succ count ih =>
      obtain ⟨⟨between, remaining⟩, moved, ran⟩ :=
        Option.bind_eq_some_iff.mp ran
      have stepped : Race.machine.step (put database program) (side, 0) =
          some (put between remaining, []) := by
        rw [moves, moved, Option.bind_some]
      exact Race.machine.run_of_step stepped (ih ran)

/-- From every state of a race both calls get to their ends. -/
theorem Race.Flowing.ends {race : Race} (flowing : race.Flowing) :
    ∃ more final later, Race.machine.run more race = some (final, later) ∧
      final.Ended := by
  obtain ⟨count, between, one, ran, _⟩ := repeated_to_end flowing.1
    race.database
  obtain ⟨others, after, other, ran', _⟩ := repeated_to_end flowing.2 between
  have first := @run_alone _ .left (fun database program =>
    ⟨database, program, race.right⟩) (fun _ _ => rfl) _ _ _ _ _ ran
  have second := @run_alone _ .right (fun database program =>
    ⟨database, .ret one, program⟩) (fun _ _ => rfl) _ _ _ _ _ ran'
  exact ⟨_, _, _, Race.machine.run_append first second, one, other, rfl,
    rfl⟩

theorem two_statements {database : Database} {events : List (Side × Int)}
    {reached : Race} {shown : List Unit} (ended : reached.Ended)
    (ran : Race.machine.run events (.start database left right) =
      some (reached, shown)) :
    ∃ first second rest, events = first :: second :: rest := by
  obtain ⟨one, other, endedLeft, endedRight⟩ := ended
  cases events with
  | nil =>
      cases ran
      exact absurd endedLeft (not_ended_of_upserts left.upserts)
  | cons first rest =>
      cases rest with
      | cons second rest => exact ⟨first, second, rest, rfl⟩
      | nil =>
          obtain ⟨next, _, _, stepped, ran, _⟩ := Race.machine.run_cons ran
          cases ran
          obtain ⟨side, now⟩ := first
          cases side with
          | left =>
              obtain ⟨after, program, _, rfl⟩ := Race.step_left stepped
              exact absurd endedRight (not_ended_of_upserts right.upserts)
          | right =>
              obtain ⟨after, program, _, rfl⟩ := Race.step_right stepped
              exact absurd endedLeft (not_ended_of_upserts left.upserts)

/-! ## When both calls succeed -/

/-- Two upserts of one key: every race of them comes to an end, and then both
have succeeded iff there was a row at the start, or the call that came first
had executed its second statement before the other one executed any. -/
theorem racing_upserts_succeed_iff {table : Table} {key : List String}
    (left right : Upsert table key) (database : Database)
    (events : List (Side × Int)) (reached : Race) (shown : List Unit)
    (ran : Race.machine.run events (.start database left right) =
      some (reached, shown)) :
    (∃ more final later, Race.machine.run more reached =
      some (final, later) ∧ final.Ended) ∧
    (reached.Ended → (BothSucceed left right reached ↔
      ((database.tables.lookup table key).isSome = true ∨
        Undisturbed events))) := by
  refine ⟨?_, ?_⟩
  · have start : (Race.start database left right).Flowing :=
      ⟨left.ends false, right.ends false⟩
    have flowing := run_race Race.Flowing
      (fun _ _ _ _ flowing stepped => flowing.step stepped) start ran
    exact flowing.ends
  · intro ended
    cases present : database.tables.lookup table key with
    | some row =>
        have start : Peaceful left right (.start database left right) :=
          ⟨row, present, .inl left.upserts, .inl right.upserts⟩
        have peaceful := run_race (Peaceful left right)
          (fun _ _ _ _ peaceful stepped => peaceful.step stepped) start ran
        exact ⟨fun _ => .inl rfl, fun _ => peaceful.bothSucceed ended⟩
    | none =>
        obtain ⟨first, second, rest, rfl⟩ := two_statements ended ran
        have outcome := opening present ran
        obtain ⟨side, now⟩ := first
        obtain ⟨other, later⟩ := second
        by_cases same : side = other
        · subst same
          rw [if_pos rfl] at outcome
          exact ⟨fun _ => .inr ⟨side, now, later, rest, rfl⟩,
            fun _ => outcome.bothSucceed ended⟩
        · rw [if_neg same] at outcome
          refine ⟨fun success => absurd success outcome.not_bothSucceed, ?_⟩
          intro facts
          rcases facts with wrong | ⟨_, _, _, _, equal⟩
          · cases wrong
          · cases equal
            exact absurd rfl same

/-- The errors of both calls, when they have ended. -/
def Race.errors (race : Race) : Option (Option Error × Option Error) :=
  match race.left, race.right with
  | .ret one, .ret other => some (one, other)
  | _, _ => none

theorem Race.errors_eq {race : Race} {one other : Option Error}
    (ended : race.errors = some (one, other)) :
    race.left = .ret one ∧ race.right = .ret other := by
  rw [Race.errors] at ended
  split at ended
  · rename_i left right
    cases ended
    exact ⟨left, right⟩
  · cases ended

end Races

end Collated

attribute [local instance] Collation.binary

def sampleLeft : Upsert .clients (Collation.key ["client"]) :=
  .client ⟨0, "client", "left", 0, ""⟩

def sampleRight : Upsert .clients (Collation.key ["client"]) :=
  .client ⟨0, "client", "right", 0, ""⟩

def sampleRace : Race := .start (.after []) sampleLeft sampleRight

/-- Both look before either writes: the second gets the error of a duplicate. -/
theorem second_insert_fails :
    ∃ final shown,
      Race.machine.run [(.left, 0), (.right, 0), (.left, 0), (.right, 0)]
        sampleRace = some (final, shown) ∧
      final.right = .ret (some .duplicateRecord) ∧
      ¬ BothSucceed sampleLeft sampleRight final := by
  have ended : (Race.machine.run
      [(.left, 0), (.right, 0), (.left, 0), (.right, 0)] sampleRace).any
        (fun reached => decide (reached.1.errors =
          some (none, some .duplicateRecord))) := by decide +kernel
  obtain ⟨⟨final, shown⟩, ran, ended⟩ := (Option.any_eq_true _ _).mp ended
  have failed := (Race.errors_eq (of_decide_eq_true ended)).2
  refine ⟨final, shown, ran, failed, ?_⟩
  intro success
  rw [success.rightEnds] at failed
  cases failed

theorem undisturbed_race_succeeds :
    ∃ final shown,
      Race.machine.run [(.left, 0), (.left, 0), (.right, 0), (.right, 0),
        (.right, 0), (.right, 0)] sampleRace = some (final, shown) ∧
      final.Ended ∧ BothSucceed sampleLeft sampleRight final := by
  have ended : (Race.machine.run [(.left, 0), (.left, 0), (.right, 0),
      (.right, 0), (.right, 0), (.right, 0)] sampleRace).any
        (fun reached => decide (reached.1.errors = some (none, none))) := by
    decide +kernel
  obtain ⟨⟨final, shown⟩, ran, ended⟩ := (Option.any_eq_true _ _).mp ended
  have both := Race.errors_eq (of_decide_eq_true ended)
  have ended : final.Ended := ⟨none, none, both.1, both.2⟩
  refine ⟨final, shown, ran, ended, ?_⟩
  apply ((racing_upserts_succeed_iff sampleLeft sampleRight (.after []) _
    final shown ran).2 ended).mpr
  exact .inr ⟨.left, 0, 0, _, rfl⟩

end Notifications.Models
