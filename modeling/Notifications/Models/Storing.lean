import Notifications.Models.Repos

/-!
# Tables as maps, and programs on one connection

The unique key makes a table a map from keys to rows; `Puts` is the write of one
entry.  `Transforms` describes a program that only talks to one connection by
what it does to the database behind it, whichever of its statements fail.
-/

set_option autoImplicit false

namespace Notifications.Models

open Notifications.Lib

variable [Collation]

/-! ## Writes by unique key -/

namespace Tables

variable {tables : Tables} {table : Table}

theorem lookup_insert {row : table.Row}
    (free : tables.lookup table (table.uniqueKey row) = none)
    (key : List String) :
    (tables.insert table row).lookup table key =
      if key = table.uniqueKey row then
        some (table.numbered row (tables.autoIncrement table))
      else tables.lookup table key := by
  rw [lookup] at free
  simp only [lookup, insert, bump_rows, set_rows_same, List.find?_append,
    List.find?_singleton, Table.uniqueKey_numbered]
  by_cases same : key = table.uniqueKey row
  · subst same
    simp [free]
  · have other : (table.uniqueKey row == key) = false := by
      simpa using Ne.symm same
    simp [same, other]

theorem clashes_eq {row : table.Row} :
    tables.clashes table row =
      (tables.lookup table (table.uniqueKey row)).isSome := by
  rw [Bool.eq_iff_iff, clashes, List.any_eq_true, lookup, List.find?_isSome]

/-- An update that stays with the key of its row is not in the way of any
other row. -/
theorem Sound.update_free (sound : tables.Sound) {row old : table.Row}
    (found : tables.lookup table (table.uniqueKey row) = some old)
    (same : table.primaryKey old = table.primaryKey row) :
    tables.clashesElsewhere table row = false := by
  obtain ⟨member, keyed⟩ := lookup_eq_some found
  rw [clashesElsewhere, List.any_eq_false]
  intro other otherMember clash
  rw [Bool.and_eq_true, beq_iff_eq] at clash
  have equal := (sound.uniqueKey table).eq_of_mem otherMember member
    (clash.1.trans keyed.symm)
  rw [equal, hits, same] at clash
  simp at clash

theorem Sound.lookup_update (sound : tables.Sound) {row old : table.Row}
    (found : tables.lookup table (table.uniqueKey row) = some old)
    (same : table.primaryKey old = table.primaryKey row)
    (key : List String) :
    (tables.update table row).lookup table key =
      if key = table.uniqueKey row then some row
      else tables.lookup table key := by
  obtain ⟨member, keyed⟩ := lookup_eq_some found
  have updated : (tables.update table row).Sound := by
    apply sound.update
    rw [sound.update_free found same, Bool.and_false]
  apply Option.ext
  intro stored
  rw [updated.lookup_iff]
  simp only [Tables.update, set_rows_same, mem_updateWhere]
  by_cases here : key = table.uniqueKey row
  · rw [if_pos here, Option.some.injEq, here]
    constructor
    · intro facts
      rcases facts with ⟨⟨kept, missed⟩ | ⟨_, _, _, rfl⟩, sameKey⟩
      · have equal := (sound.uniqueKey table).eq_of_mem kept member
          (sameKey.trans keyed.symm)
        rw [equal, hits, same] at missed
        simp at missed
      · rfl
    · intro facts
      subst facts
      exact ⟨.inr ⟨old, member, hits_iff.mpr same, rfl⟩, rfl⟩
  · rw [if_neg here, sound.lookup_iff]
    constructor
    · intro facts
      rcases facts with ⟨⟨kept, missed⟩ | ⟨_, _, _, rfl⟩, sameKey⟩
      · exact ⟨kept, sameKey⟩
      · exact absurd sameKey.symm here
    · intro facts
      obtain ⟨kept, sameKey⟩ := facts
      refine ⟨.inl ⟨kept, ?_⟩, sameKey⟩
      by_contra hit
      have equal := (sound.primaryKey table).eq_of_mem kept member
        ((hits_iff.mp (by simpa using hit)).trans same.symm)
      rw [equal, keyed] at sameKey
      exact here sameKey.symm

theorem Sound.lookup_delete (sound : tables.Sound) (row : table.Row)
    (key : List String) :
    (tables.delete table row).lookup table key =
      (tables.lookup table key).filter fun old => !hits table row old := by
  apply Option.ext
  intro stored
  rw [(sound.delete table row).lookup_iff, Option.filter_eq_some_iff,
    sound.lookup_iff]
  simp only [Tables.delete, set_rows_same, mem_deleteWhere,
    Bool.not_eq_true']
  tauto

/-- One entry is written, and nothing else changes. -/
structure Puts (table : Table) (row : table.Row) (before after : Tables) :
    Prop where
  lookup : ∀ key, after.lookup table key =
    if key = table.uniqueKey row then some row else before.lookup table key
  others : ∀ other, other ≠ table → after.rows other = before.rows other

theorem Puts.stored {row : table.Row} {before after : Tables}
    (puts : Puts table row before after) :
    after.lookup table (table.uniqueKey row) = some row := by
  rw [puts.lookup, if_pos rfl]

end Tables

theorem Database.insert_puts {database : Database} {table : Table}
    {row : table.Row}
    (free : database.tables.lookup table (table.uniqueKey row) = none) :
    (database.execute (.insert table row)).1 =
        .ok (table.numbered row (database.tables.autoIncrement table)) ∧
      Tables.Puts table
        (table.numbered row (database.tables.autoIncrement table))
        database.tables (database.execute (.insert table row)).2.tables := by
  have fresh : database.tables.clashes table row = false := by
    rw [Tables.clashes_eq, free]
    rfl
  have executed : Statement.execute (.insert table row) database.tables =
      (.ok (table.numbered row (database.tables.autoIncrement table)),
        database.tables.insert table row) := by
    rw [Statement.execute, fresh]
    rfl
  simp only [Database.execute, executed]
  refine ⟨trivial, ?_, ?_⟩
  · intro key
    rw [Tables.lookup_insert free, Table.uniqueKey_numbered]
  · intro other different
    exact database.tables.set_rows_other _ different

theorem Database.update_puts {database : Database} {table : Table}
    {row old : table.Row}
    (found : database.tables.lookup table (table.uniqueKey row) = some old)
    (same : table.primaryKey old = table.primaryKey row) :
    (database.execute (.update table row)).1 = .ok () ∧
      Tables.Puts table row database.tables
        (database.execute (.update table row)).2.tables := by
  have executed : Statement.execute (.update table row) database.tables =
      (.ok (), database.tables.update table row) := by
    rw [Statement.execute, database.sound.update_free found same,
      Bool.and_false]
    rfl
  simp only [Database.execute, executed]
  refine ⟨trivial, database.sound.lookup_update found same, ?_⟩
  intro other different
  exact database.tables.set_rows_other _ different

/-! ## Programs on one connection -/

def Faultless (environment : Environment) : Prop :=
  ∀ number, environment.faults number = none

omit [Collation] in
theorem not_faultless {environment : Environment} {number : Nat}
    {text : String} (fault : environment.faults number = some text) :
    ¬ Faultless environment := by
  intro faultless
  rw [faultless] at fault
  cases fault

/-- From this database behind the connection, the program returns, and its
result and the database after it meet the postcondition. -/
def Achieves {α : Type} (environment : Environment) (conn : Conn)
    (program : Prog α) (database : Database)
    (post : α → Database → Prop) : Prop :=
  ∀ world, world.read conn = some database →
    ∃ value after count,
      program.run (World.handle environment) world =
        (some value, world.advance conn after count) ∧
      post value after

section Achieves

variable {α β : Type} {environment : Environment} {conn : Conn}
  {database : Database}

theorem Achieves.weaken {program : Prog α} {strong weak : α → Database → Prop}
    (achieves : Achieves environment conn program database strong)
    (implies : ∀ value after, strong value after → weak value after) :
    Achieves environment conn program database weak := by
  intro world reads
  obtain ⟨value, after, count, ran, holds⟩ := achieves world reads
  exact ⟨value, after, count, ran, implies value after holds⟩

theorem achieves_pure {value : α} {post : α → Database → Prop}
    (holds : post value database) :
    Achieves environment conn (pure value) database post := by
  intro world reads
  refine ⟨value, database, 0, ?_, holds⟩
  rw [World.advance, World.write_read reads]
  rfl

theorem achieves_bind {program : Prog α} {rest : α → Prog β}
    {middle : α → Database → Prop} {post : β → Database → Prop}
    (first : Achieves environment conn program database middle)
    (second : ∀ value between, middle value between →
      Achieves environment conn (rest value) between post) :
    Achieves environment conn (program >>= rest) database post := by
  intro world reads
  obtain ⟨value, between, count, ran, holds⟩ := first world reads
  obtain ⟨result, after, more, ran', holds'⟩ :=
    second value between holds (world.advance conn between count)
      World.read_advance
  refine ⟨result, after, count + more, ?_, holds'⟩
  rw [Program.run_bind_of _ ran, ran', World.advance_advance]

theorem achieves_now {rest : Int → Prog β} {post : β → Database → Prop}
    (next : ∀ now, Achieves environment conn (rest now) database post) :
    Achieves environment conn (nowTruncated >>= rest) database post := by
  refine @achieves_bind _ _ _ _ _ _ _ _ (fun _ after => after = database) _ ?_
    ?_
  · intro world reads
    let now := environment.clock world.statements
    refine ⟨now - now % 1000000000, database, 0, ?_, rfl⟩
    rw [World.advance, World.write_read reads]
    rfl
  · intro now _ same
    subst same
    exact next now

theorem achieves_sql {statement : Statement}
    {rest : Except Error statement.Result → Prog β}
    {post : β → Database → Prop}
    (failed : ∀ text, ¬ Faultless environment →
      Achieves environment conn (rest (.error (.sql text))) database post)
    (executed : Achieves environment conn
      (rest ((database.execute statement).1.mapError .sql))
      (database.execute statement).2 post) :
    Achieves environment conn (sql conn statement >>= rest) database
      post := by
  refine @achieves_bind _ _ _ _ _ _ _ _ (fun result after =>
    (∃ text, ¬ Faultless environment ∧ result = .error (.sql text) ∧
      after = database) ∨
    (result = (database.execute statement).1.mapError .sql ∧
      after = (database.execute statement).2)) _ ?_ ?_
  · intro world reads
    rw [run_sql reads]
    cases fault : environment.faults world.statements with
    | some text =>
        refine ⟨_, database, 1, ?_,
          .inl ⟨text, not_faultless fault, rfl, rfl⟩⟩
        rw [← World.counted_eq reads]
    | none => exact ⟨_, _, 1, rfl, .inr ⟨rfl, rfl⟩⟩
  · intro result after facts
    rcases facts with ⟨text, faulty, rfl, rfl⟩ | ⟨rfl, rfl⟩
    · exact failed text faulty
    · exact executed

/-- An insert fails, or stores a row whose key is free. -/
theorem achieves_insert {table : Table} {row : table.Row}
    {rest : Except Error table.Row → Prog β} {post : β → Database → Prop}
    (free : database.tables.lookup table (table.uniqueKey row) = none)
    (failed : ∀ text, ¬ Faultless environment →
      Achieves environment conn (rest (.error (.sql text))) database post)
    (inserted : ∀ number after,
      Tables.Puts table (table.numbered row number) database.tables
        after.tables →
      Achieves environment conn (rest (.ok (table.numbered row number)))
        after post) :
    Achieves environment conn (sql conn (.insert table row) >>= rest)
      database post := by
  apply achieves_sql failed
  obtain ⟨result, puts⟩ := Database.insert_puts free
  rw [result]
  exact inserted _ _ puts

/-- An update fails, or replaces the row with its keys. -/
theorem achieves_update {table : Table} {row old : table.Row}
    {rest : Except Error Unit → Prog β} {post : β → Database → Prop}
    (found : database.tables.lookup table (table.uniqueKey row) = some old)
    (same : table.primaryKey old = table.primaryKey row)
    (failed : ∀ text, ¬ Faultless environment →
      Achieves environment conn (rest (.error (.sql text))) database post)
    (updated : ∀ after,
      Tables.Puts table row database.tables after.tables →
      Achieves environment conn (rest (.ok ())) after post) :
    Achieves environment conn (sql conn (.update table row) >>= rest)
      database post := by
  apply achieves_sql failed
  obtain ⟨result, puts⟩ := Database.update_puts found same
  rw [result]
  exact updated _ puts

end Achieves

/-- What a lookup by unique key can give: a failure, nothing, or the row. -/
def Found (environment : Environment) (table : Table) (missing : Error)
    (key : List String) (database : Database)
    (result : table.Row × Option Error) : Prop :=
  (∃ text, ¬ Faultless environment ∧
    result = (table.zero, some (.sql text))) ∨
  (database.tables.lookup table key = none ∧
    result = (table.zero, some missing)) ∨
  ∃ row, database.tables.lookup table key = some row ∧ result = (row, none)

theorem found_of_sought {environment : Environment} {table : Table}
    {missing : Error} {key : List String} {database : Database}
    (number : Nat) :
    Found environment table missing key database
      (sought table missing (environment.faults number)
        (database.tables.lookup table key)) := by
  cases fault : environment.faults number with
  | some text => exact .inl ⟨text, not_faultless fault, rfl⟩
  | none =>
      cases found : database.tables.lookup table key with
      | none => exact .inr (.inl ⟨found, rfl⟩)
      | some row => exact .inr (.inr ⟨row, found, rfl⟩)

theorem achieves_found (table : Table) {environment : Environment}
    {conn : Conn} {database : Database} {missing : Error} {key : List String}
    {program : Prog (table.Row × Option Error)}
    (ran : ∀ world, world.read conn = some database →
      program.run (World.handle environment) world =
        (some (sought table missing (environment.faults world.statements)
          (database.tables.lookup table key)), world.counted)) :
    Achieves environment conn program database fun result after =>
      Found environment table missing key database result ∧
        after = database := by
  intro world reads
  exact ⟨_, database, 1, by rw [ran world reads, World.counted_eq reads],
    found_of_sought _, rfl⟩

/-- A write of one row: without an error the row is stored. -/
def Stores (environment : Environment) (table : Table) (database : Database)
    (settled : table.Row → Prop) (result : table.Row × Option Error)
    (after : Database) : Prop :=
  (result.2 = none → ∃ row, settled row ∧
    Tables.Puts table row database.tables after.tables) ∧
  (Faultless environment → result.2 = none)

theorem stores_of_faulty {environment : Environment} {table : Table}
    {database after : Database} {settled : table.Row → Prop}
    {row : table.Row} {error : Error} (faulty : ¬ Faultless environment) :
    Stores environment table database settled (row, some error) after :=
  ⟨by simp, fun faultless => absurd faultless faulty⟩

theorem Stores.weaken {environment : Environment} {table : Table}
    {database after : Database} {strong weak : table.Row → Prop}
    {result : table.Row × Option Error}
    (stores : Stores environment table database strong result after)
    (implies : ∀ row, strong row → weak row) :
    Stores environment table database weak result after := by
  refine ⟨fun done => ?_, stores.2⟩
  obtain ⟨row, settled, puts⟩ := stores.1 done
  exact ⟨row, implies row settled, puts⟩

/-- The lookup that ends an `Update` finds the row that was just stored. -/
theorem Found.stores {environment : Environment} {table : Table}
    {missing : Error} {row : table.Row} {database after : Database}
    {settled : table.Row → Prop} {result : table.Row × Option Error}
    (found : Found environment table missing (table.uniqueKey row) after
      result)
    (puts : Tables.Puts table row database.tables after.tables)
    (holds : settled row) :
    Stores environment table database settled result after := by
  rcases found with ⟨text, faulty, rfl⟩ | ⟨absent, _⟩ | ⟨stored, _, rfl⟩
  · exact stores_of_faulty faulty
  · rw [puts.stored] at absent
    cases absent
  · exact ⟨fun _ => ⟨row, holds, puts⟩, fun _ => rfl⟩

def Attempted (table : Table) (settled : table.Row → Prop)
    (before after : Database) : Prop :=
  after = before ∨
    ∃ row, settled row ∧ Tables.Puts table row before.tables after.tables

/-- A write of one row, on every path: with an error, the row may be stored or
not. -/
def Leaves (environment : Environment) (table : Table) (database : Database)
    (settled : table.Row → Prop) (result : table.Row × Option Error)
    (after : Database) : Prop :=
  Stores environment table database settled result after ∧
    Attempted table settled database after

theorem leaves_of_faulty {environment : Environment} {table : Table}
    {database : Database} {settled : table.Row → Prop} {row : table.Row}
    {error : Error} (faulty : ¬ Faultless environment) :
    Leaves environment table database settled (row, some error) database :=
  ⟨stores_of_faulty faulty, .inl rfl⟩

theorem leaves_of_puts {environment : Environment} {table : Table}
    {database after : Database} {settled : table.Row → Prop}
    {row : table.Row} (holds : settled row)
    (puts : Tables.Puts table row database.tables after.tables) :
    Leaves environment table database settled (row, none) after :=
  ⟨⟨fun _ => ⟨row, holds, puts⟩, fun _ => rfl⟩, .inr ⟨row, holds, puts⟩⟩

theorem Leaves.weaken {environment : Environment} {table : Table}
    {database after : Database} {strong weak : table.Row → Prop}
    {result : table.Row × Option Error}
    (leaves : Leaves environment table database strong result after)
    (implies : ∀ row, strong row → weak row) :
    Leaves environment table database weak result after := by
  refine ⟨leaves.1.weaken implies, ?_⟩
  rcases leaves.2 with same | ⟨row, settled, puts⟩
  · exact .inl same
  · exact .inr ⟨row, implies row settled, puts⟩

theorem Found.leaves {environment : Environment} {table : Table}
    {missing : Error} {row : table.Row} {database after : Database}
    {settled : table.Row → Prop} {result : table.Row × Option Error}
    (found : Found environment table missing (table.uniqueKey row) after
      result)
    (puts : Tables.Puts table row database.tables after.tables)
    (holds : settled row) :
    Leaves environment table database settled result after :=
  ⟨found.stores puts holds, .inr ⟨row, holds, puts⟩⟩

/-- The template ID of a written row: the wanted one, or what was there. -/
def chosen (wanted existing : String) : String :=
  if wanted = "" then existing else wanted

/-! ## Kinds -/

namespace KindsRepo

/-- The row that an `Upsert` of a kind leaves behind. -/
structure Settled (kind : Kind) (old : Option Kind) (row : Kind) : Prop where
  id : row.id = kind.id
  clientID : row.clientID = kind.clientID
  description : row.description = kind.description
  critical : row.critical = kind.critical
  templateID : row.templateID = chosen kind.templateID
    (old.elim defaultTemplateID Kind.templateID)
  kept : ∀ stored, old = some stored →
    row.primary = stored.primary ∧ row.createdAt = stored.createdAt

omit [Collation] in
theorem Settled.of_primary {kind : Kind} {number : Nat} {old : Option Kind}
    {row : Kind} (settled : Settled { kind with primary := number } old row) :
    Settled kind old row :=
  ⟨settled.id, settled.clientID, settled.description, settled.critical,
    settled.templateID, settled.kept⟩

variable {environment : Environment} {conn : Conn} {database : Database}

theorem find_achieves (id clientID : String) :
    Achieves environment conn (find conn id clientID) database
      fun result after =>
        Found environment .kinds (missing id clientID)
          (Collation.key [id, clientID])
          database result ∧ after = database := by
  apply achieves_found .kinds
  intro world reads
  exact run_find reads id clientID

theorem insert_leaves {kind row : Kind}
    (settled : ∀ number, Settled kind none { row with primary := number })
    (absent : database.tables.lookup .kinds
      (Collation.key [row.id, row.clientID]) = none) :
    Achieves environment conn
      (do
        match ← sql conn (.insert .kinds row) with
        | .error error => pure (row, some (duplicate error))
        | .ok inserted => pure (inserted, none))
      database (Leaves environment .kinds database (Settled kind none)) := by
  refine achieves_insert absent (fun text faulty => ?_) ?_
  · exact achieves_pure (leaves_of_faulty faulty)
  · intro number after puts
    exact achieves_pure (leaves_of_puts (settled number) puts)

theorem create_leaves (kind : Kind)
    (absent : database.tables.lookup .kinds
      (Collation.key [kind.id, kind.clientID]) = none) :
    Achieves environment conn (create conn kind) database
      (Leaves environment .kinds database (Settled kind none)) := by
  refine achieves_now fun now => insert_leaves (fun number => ?_) ?_
  · by_cases template : kind.templateID = ""
    · rw [if_pos template]
      exact ⟨rfl, rfl, rfl, rfl, (if_pos template).symm, by simp⟩
    · rw [if_neg template]
      exact ⟨rfl, rfl, rfl, rfl, (if_neg template).symm, by simp⟩
  · split <;> exact absent

theorem store_leaves {kind old row : Kind}
    (settled : Settled kind (some old) row)
    (present : database.tables.lookup .kinds
      (Collation.key [row.id, row.clientID]) =
      some old) :
    Achieves environment conn
      (do
        match ← sql conn (.update .kinds row) with
        | .error error => pure (row, some error)
        | .ok _ => find conn row.id row.clientID)
      database
      (Leaves environment .kinds database (Settled kind (some old))) := by
  have same : Table.kinds.primaryKey old = Table.kinds.primaryKey row := by
    rw [Table.primaryKey, Table.primaryKey, (settled.kept old rfl).1]
  refine achieves_update present same (fun text faulty => ?_) ?_
  · exact achieves_pure (leaves_of_faulty faulty)
  · intro after puts
    apply (find_achieves row.id row.clientID).weaken
    intro result _ facts
    obtain ⟨found, rfl⟩ := facts
    exact Found.leaves found puts settled

theorem update_leaves (kind old : Kind)
    (present : database.tables.lookup .kinds
      (Collation.key [kind.id, kind.clientID]) =
      some old) :
    Achieves environment conn (update conn kind) database
      (Leaves environment .kinds database (Settled kind (some old))) := by
  apply achieves_bind (find_achieves kind.id kind.clientID)
  intro _ _ facts
  rcases facts with
    ⟨⟨text, faulty, rfl⟩ | ⟨absent, _⟩ | ⟨stored, same, rfl⟩, rfl⟩
  · exact achieves_pure (leaves_of_faulty faulty)
  · rw [present] at absent
    cases absent
  · rw [present, Option.some.injEq] at same
    subst same
    refine achieves_now fun now => store_leaves ?_ ?_
    · by_cases template : kind.templateID = doNotSetTemplateID
      · rw [if_pos template]
        exact ⟨rfl, rfl, rfl, rfl, (if_pos template).symm, by simp⟩
      · rw [if_neg template]
        exact ⟨rfl, rfl, rfl, rfl, (if_neg template).symm, by simp⟩
    · split <;> exact present

theorem upsert_leaves (kind : Kind) :
    Achieves environment conn (upsert conn kind) database
      (Leaves environment .kinds database (Settled kind
        (database.tables.lookup .kinds
          (Collation.key [kind.id, kind.clientID])))) := by
  apply achieves_bind (find_achieves kind.id kind.clientID)
  rintro _ _ ⟨⟨text, faulty, rfl⟩ | ⟨absent, rfl⟩ | ⟨stored, present, rfl⟩,
    rfl⟩
  · exact achieves_pure (leaves_of_faulty faulty)
  · rw [absent]
    apply (create_leaves { kind with primary := 0 } absent).weaken
    exact fun _ _ leaves => leaves.weaken fun _ => Settled.of_primary
  · rw [present]
    apply (update_leaves { kind with primary := stored.primary } stored
      present).weaken
    exact fun _ _ leaves => leaves.weaken fun _ => Settled.of_primary

theorem update_achieves (kind old : Kind)
    (present : database.tables.lookup .kinds
      (Collation.key [kind.id, kind.clientID]) =
      some old) :
    Achieves environment conn (update conn kind) database
      (Stores environment .kinds database (Settled kind (some old))) :=
  (update_leaves kind old present).weaken fun _ _ leaves => leaves.1

theorem upsert_achieves (kind : Kind) :
    Achieves environment conn (upsert conn kind) database
      (Stores environment .kinds database (Settled kind
        (database.tables.lookup .kinds
          (Collation.key [kind.id, kind.clientID])))) :=
  (upsert_leaves kind).weaken fun _ _ leaves => leaves.1

end KindsRepo

/-! ## Clients -/

namespace ClientsRepo

/-- The row that an `Upsert` of a client leaves behind. -/
structure Settled (client : Client) (old : Option Client) (row : Client) :
    Prop where
  id : row.id = client.id
  description : row.description = client.description
  templateID : row.templateID = chosen client.templateID
    (old.elim defaultTemplateID Client.templateID)
  kept : ∀ stored, old = some stored →
    row.primary = stored.primary ∧ row.createdAt = stored.createdAt

variable {environment : Environment} {conn : Conn} {database : Database}

theorem run_find {world : World} (present : world.read conn = some database)
    (id : String) :
    (find conn id).run (World.handle environment) world =
      (some (sought .clients (missing id)
        (environment.faults world.statements)
        (database.tables.lookup .clients
          (Collation.key [id]))), world.counted) := by
  rw [find, Program.run_bind_of _ (run_selectOne present ?_)]
  · rw [← sought_eq]
    rfl
  · intro row
    simp [Table.uniqueKey]

theorem find_achieves (id : String) :
    Achieves environment conn (find conn id) database fun result after =>
      Found environment .clients (missing id)
        (Collation.key [id]) database result ∧
        after = database := by
  apply achieves_found .clients
  intro world reads
  exact run_find reads id

theorem insert_leaves {client row : Client}
    (settled : ∀ number, Settled client none { row with primary := number })
    (absent : database.tables.lookup .clients (Collation.key [row.id]) = none) :
    Achieves environment conn
      (do
        match ← sql conn (.insert .clients row) with
        | .error error => pure (row, some (duplicate error))
        | .ok inserted => pure (inserted, none))
      database
      (Leaves environment .clients database (Settled client none)) := by
  refine achieves_insert absent (fun text faulty => ?_) ?_
  · exact achieves_pure (leaves_of_faulty faulty)
  · intro number after puts
    exact achieves_pure (leaves_of_puts (settled number) puts)

theorem create_leaves (client : Client)
    (absent : database.tables.lookup .clients
      (Collation.key [client.id]) = none) :
    Achieves environment conn (create conn client) database
      (Leaves environment .clients database (Settled client none)) := by
  refine achieves_now fun now => insert_leaves (fun number => ?_) ?_
  · by_cases template : client.templateID = ""
    · rw [if_pos template]
      exact ⟨rfl, rfl, (if_pos template).symm, by simp⟩
    · rw [if_neg template]
      exact ⟨rfl, rfl, (if_neg template).symm, by simp⟩
  · split <;> exact absent

theorem store_leaves {client old : Client}
    (present : database.tables.lookup .clients
      (Collation.key [client.id]) = some old)
    (same : client.primary = old.primary) :
    Achieves environment conn (store conn client) database
      (Leaves environment .clients database (· = client)) := by
  have keyed : Table.clients.primaryKey old =
      Table.clients.primaryKey client := by
    rw [Table.primaryKey, Table.primaryKey, same]
  refine achieves_update present keyed (fun text faulty => ?_) ?_
  · exact achieves_pure (leaves_of_faulty faulty)
  · intro after puts
    apply (find_achieves client.id).weaken
    intro result _ facts
    obtain ⟨found, rfl⟩ := facts
    exact Found.leaves found puts rfl

theorem update_leaves {client old : Client}
    (present : database.tables.lookup .clients
      (Collation.key [client.id]) = some old)
    (same : client.primary = old.primary) :
    Achieves environment conn (update conn client) database
      (Leaves environment .clients database
        (· = { client with
          templateID := chosen client.templateID old.templateID })) := by
  rw [update]
  split
  · rename_i template
    have template : client.templateID = "" := template
    apply achieves_bind (find_achieves client.id)
    intro _ _ facts
    rcases facts with
      ⟨⟨text, faulty, rfl⟩ | ⟨absent, _⟩ | ⟨stored, found, rfl⟩, rfl⟩
    · exact achieves_pure (leaves_of_faulty faulty)
    · rw [present] at absent
      cases absent
    · rw [present, Option.some.injEq] at found
      subst found
      rw [chosen, if_pos template]
      exact store_leaves present same
  · rename_i template
    have template : client.templateID ≠ "" := template
    rw [chosen, if_neg template]
    exact store_leaves present same

theorem upsert_leaves (client : Client) :
    Achieves environment conn (upsert conn client) database
      (Leaves environment .clients database (Settled client
        (database.tables.lookup .clients (Collation.key [client.id])))) := by
  apply achieves_bind (find_achieves client.id)
  rintro _ _ ⟨⟨text, faulty, rfl⟩ | ⟨absent, rfl⟩ | ⟨stored, present, rfl⟩,
    rfl⟩
  · exact achieves_pure (leaves_of_faulty faulty)
  · rw [absent]
    apply (create_leaves { client with
      primary := 0, createdAt := Gobble.zeroTime } absent).weaken
    intro _ _ leaves
    refine leaves.weaken fun row settled => ?_
    exact ⟨settled.id, settled.description, settled.templateID, by simp⟩
  · rw [present]
    apply (@update_leaves _ _ _ _ { client with
      primary := stored.primary, createdAt := stored.createdAt } _ present
      rfl).weaken
    intro _ _ leaves
    refine leaves.weaken fun row settled => ?_
    rw [settled]
    exact ⟨rfl, rfl, rfl, by simp⟩

theorem update_achieves {client old : Client}
    (present : database.tables.lookup .clients
      (Collation.key [client.id]) = some old)
    (same : client.primary = old.primary) :
    Achieves environment conn (update conn client) database
      (Stores environment .clients database
        (· = { client with
          templateID := chosen client.templateID old.templateID })) :=
  (update_leaves present same).weaken fun _ _ leaves => leaves.1

theorem upsert_achieves (client : Client) :
    Achieves environment conn (upsert conn client) database
      (Stores environment .clients database (Settled client
        (database.tables.lookup .clients (Collation.key [client.id])))) :=
  (upsert_leaves client).weaken fun _ _ leaves => leaves.1

end ClientsRepo

/-! ## Deletions -/

section Deletion

variable {environment : Environment} {conn : Conn} {table : Table}

theorem deleteAll_achieves (rows : List table.Row) (database : Database) :
    Achieves environment conn (deleteAll conn table rows) database
      fun result after =>
        (result.2 = none →
          (∀ key, after.tables.lookup table key =
            (database.tables.lookup table key).filter fun old =>
              !rows.any fun row => Tables.hits table row old) ∧
          ∀ other, other ≠ table →
            after.tables.rows other = database.tables.rows other) ∧
        (Faultless environment → result.2 = none) := by
  induction rows generalizing database with
  | nil =>
      refine achieves_pure ⟨fun _ => ⟨?_, fun _ _ => rfl⟩, fun _ => rfl⟩
      intro key
      cases database.tables.lookup table key <;> rfl
  | cons row rest ih =>
      refine achieves_sql (fun text faulty => ?_) ?_
      · exact achieves_pure ⟨by simp, fun calm => absurd calm faulty⟩
      · apply achieves_bind (ih (database.execute (.delete table row)).2)
        intro facts after given
        obtain ⟨count, err⟩ := facts
        obtain ⟨deleted, calm⟩ := given
        cases err with
        | some error => exact achieves_pure ⟨by simp, calm⟩
        | none =>
            obtain ⟨lookups, others⟩ := deleted rfl
            refine achieves_pure ⟨fun _ => ⟨?_, ?_⟩, fun _ => rfl⟩
            · intro key
              rw [lookups]
              change Option.filter _ ((database.tables.delete table
                row).lookup table key) = _
              rw [database.sound.lookup_delete]
              cases database.tables.lookup table key with
              | none => rfl
              | some old =>
                  simp only [List.any_cons, Bool.not_or]
                  by_cases hit : Tables.hits table row old = true <;>
                    simp [hit, Option.filter]
            · intro other different
              rw [others other different]
              exact (Statement.delete table row).execute_other _ different

end Deletion

/-- A kind of this client that is not among these. -/
def KindsRepo.stale (clientID : String) (kindIDs : List String)
    (row : Kind) : Bool :=
  Collation.equal row.clientID clientID && !kindIDs.contains row.id

theorem KindsRepo.trimmed_iff {tables : Tables} (sound : tables.Sound)
    {clientID : String} {kindIDs : List String} {old : Kind}
    (member : old ∈ tables.rows .kinds) :
    ((tables.rows .kinds).filter
        (fun row => Collation.equal row.clientID clientID)
      |>.filter (fun kind : Kind => !kindIDs.contains kind.id)).any
        (fun row => Tables.hits .kinds row old) =
      stale clientID kindIDs old := by
  rw [Bool.eq_iff_iff, List.any_eq_true]
  constructor
  · intro facts
    obtain ⟨row, chosen, hit⟩ := facts
    obtain ⟨chosen, outside⟩ := List.mem_filter.mp chosen
    obtain ⟨stored, own⟩ := List.mem_filter.mp chosen
    have same := (sound.primaryKey .kinds).eq_of_mem member stored
      (Tables.hits_iff.mp hit)
    rw [same, stale, own, outside]
    rfl
  · intro gone
    rw [stale, Bool.and_eq_true] at gone
    refine ⟨old, ?_, Tables.hits_iff.mpr rfl⟩
    exact List.mem_filter.mpr ⟨List.mem_filter.mpr ⟨member, gone.1⟩, gone.2⟩

theorem KindsRepo.trim_achieves {environment : Environment} {conn : Conn}
    (clientID : String) (kindIDs : List String) (database : Database) :
    Achieves environment conn (trim conn clientID kindIDs) database
      fun result after =>
        (result.2 = none →
          (∀ key, after.tables.lookup .kinds key =
            (database.tables.lookup .kinds key).filter fun row : Kind =>
              !stale clientID kindIDs row) ∧
          ∀ other, other ≠ .kinds →
            after.tables.rows other = database.tables.rows other) ∧
        (Faultless environment → result.2 = none) := by
  refine achieves_sql (fun text faulty => ?_) ?_
  · exact achieves_pure ⟨by simp, fun calm => absurd calm faulty⟩
  · apply (deleteAll_achieves _ _).weaken
    intro result after facts
    obtain ⟨deleted, calm⟩ := facts
    refine ⟨fun done => ⟨?_, (deleted done).2⟩, calm⟩
    intro key
    rw [(deleted done).1]
    change Option.filter _ (database.tables.lookup .kinds key) = _
    cases found : database.tables.lookup .kinds key with
    | none => rfl
    | some old =>
        obtain ⟨member, _⟩ := Tables.lookup_eq_some found
        have same : ((database.tables.rows .kinds).filter
            (fun row => Collation.equal row.clientID clientID)
              |>.filter (fun kind : Kind => !kindIDs.contains kind.id)).any
                (fun row => Tables.hits .kinds row old) =
            stale clientID kindIDs old :=
          trimmed_iff database.sound member
        simp only [Option.filter, same]

/-! ## The calls that the writes are made of -/

section Calls

variable {allowed : Op → Prop} {conn : Conn}

namespace KindsRepo

/-- What every row written for a kind takes from it. -/
structure Copies (kind row : Kind) : Prop where
  id : row.id = kind.id
  clientID : row.clientID = kind.clientID
  description : row.description = kind.description
  critical : row.critical = kind.critical

variable {kind : Kind} (clock : allowed .now)
  (reads : ∀ wanted, allowed (.sql conn (.select .kinds wanted)))

include clock in
omit [Collation] in
theorem create_only
    (inserts : ∀ row, Copies kind row →
      allowed (.sql conn (.insert .kinds row))) :
    (create conn kind).Only allowed := by
  apply Program.only_bind (nowTruncated_only clock)
  intro now
  refine Program.only_bind (sql_only (inserts _ ?_)) ?_
  · split <;> exact ⟨rfl, rfl, rfl, rfl⟩
  · intro result
    cases result <;> exact trivial

include reads in
theorem find_only (id clientID : String) :
    (find conn id clientID).Only allowed :=
  Program.only_bind (selectOne_only (reads _)) fun _ => trivial

include clock reads

theorem update_only
    (updates : ∀ row, Copies kind row →
      allowed (.sql conn (.update .kinds row))) :
    (update conn kind).Only allowed := by
  apply Program.only_bind (find_only reads _ _)
  intro facts
  obtain ⟨existingKind, err⟩ := facts
  cases err with
  | some error => exact trivial
  | none =>
      apply Program.only_bind (nowTruncated_only clock)
      intro now
      refine Program.only_bind (sql_only (updates _ ?_)) ?_
      · split <;> exact ⟨rfl, rfl, rfl, rfl⟩
      · intro result
        cases result with
        | error error => exact trivial
        | ok _ => exact find_only reads _ _

theorem upsert_only
    (inserts : ∀ row, Copies kind row →
      allowed (.sql conn (.insert .kinds row)))
    (updates : ∀ row, Copies kind row →
      allowed (.sql conn (.update .kinds row))) :
    (upsert conn kind).Only allowed := by
  apply Program.only_bind (find_only reads _ _)
  intro result
  obtain ⟨existingKind, err⟩ := result
  simp only
  split
  · refine create_only clock fun row copies => inserts row ?_
    exact ⟨copies.id, copies.clientID, copies.description, copies.critical⟩
  · refine update_only clock reads fun row copies => updates row ?_
    exact ⟨copies.id, copies.clientID, copies.description, copies.critical⟩
  · exact trivial

end KindsRepo

namespace ClientsRepo

variable {client : Client} (clock : allowed .now)
  (reads : ∀ wanted, allowed (.sql conn (.select .clients wanted)))
  (inserts : ∀ row, allowed (.sql conn (.insert .clients row)))
  (updates : ∀ row, allowed (.sql conn (.update .clients row)))

include clock inserts in
omit [Collation] in
theorem create_only : (create conn client).Only allowed := by
  apply Program.only_bind (nowTruncated_only clock)
  intro now
  apply Program.only_bind (sql_only (inserts _))
  intro result
  cases result <;> exact trivial

include reads

theorem find_only (id : String) : (find conn id).Only allowed :=
  Program.only_bind (selectOne_only (reads _)) fun _ => trivial

include updates

theorem store_only : (store conn client).Only allowed := by
  apply Program.only_bind (sql_only (updates _))
  intro result
  cases result with
  | error error => exact trivial
  | ok _ => exact find_only reads _

theorem update_only : (update conn client).Only allowed := by
  rw [update]
  split
  · apply Program.only_bind (find_only reads _)
    intro result
    obtain ⟨existingClient, err⟩ := result
    cases err with
    | some error => exact trivial
    | none => exact store_only reads updates
  · exact store_only reads updates

include clock inserts

theorem upsert_only : (upsert conn client).Only allowed := by
  apply Program.only_bind (find_only reads _)
  intro result
  obtain ⟨existingClient, err⟩ := result
  simp only
  split
  · exact create_only clock inserts
  · exact update_only reads updates
  · exact trivial

end ClientsRepo

omit [Collation] in
theorem deleteAll_only {table : Table} (rows : List table.Row)
    (deletes : ∀ row, allowed (.sql conn (.delete table row))) :
    (deleteAll conn table rows).Only allowed := by
  induction rows with
  | nil => exact trivial
  | cons row rest ih =>
      apply Program.only_bind (sql_only (deletes row))
      intro result
      cases result with
      | error error => exact trivial
      | ok deleted =>
          apply Program.only_bind ih
          intro facts
          obtain ⟨count, err⟩ := facts
          cases err <;> exact trivial

theorem KindsRepo.trim_only (clientID : String) (kindIDs : List String)
    (reads : ∀ wanted, allowed (.sql conn (.select .kinds wanted)))
    (deletes : ∀ row, allowed (.sql conn (.delete .kinds row))) :
    (KindsRepo.trim conn clientID kindIDs).Only allowed := by
  apply Program.only_bind (sql_only (reads _))
  intro result
  cases result with
  | error error => exact trivial
  | ok kinds => exact deleteAll_only _ deletes

namespace TemplatesRepo

variable (clock : allowed .now)
  (statements : ∀ statement : Statement, statement.table = .templates →
    allowed (.sql conn statement))

include statements

theorem findByID_only (templateID : String) :
    (findByID conn templateID).Only allowed :=
  Program.only_bind (selectOne_only (statements _ rfl)) fun _ => trivial

theorem destroy_only (templateID : String) :
    (destroy conn templateID).Only allowed := by
  apply Program.only_bind (findByID_only statements _)
  intro result
  obtain ⟨template, err⟩ := result
  cases err with
  | some error => exact trivial
  | none =>
      exact Program.only_bind
        (deleteAll_only _ fun row => statements (.delete .templates row) rfl)
        fun _ => trivial

include clock

theorem update_only (templateID : String) (template : Template) :
    (update conn templateID template).Only allowed := by
  apply Program.only_bind (findByID_only statements _)
  intro facts
  obtain ⟨existingTemplate, err⟩ := facts
  split
  · exact trivial
  · exact trivial
  · apply Program.only_bind (nowTruncated_only clock)
    intro now
    apply Program.only_bind (sql_only (statements _ rfl))
    intro result
    cases result <;> exact trivial

omit [Collation] in
omit statements in
theorem setTemplateTimestamps_only (template : Template) :
    (setTemplateTimestamps template).Only allowed := by
  rw [setTemplateTimestamps]
  split
  · exact Program.only_bind (nowTruncated_only clock) fun _ => trivial
  · exact trivial

omit [Collation] in
theorem insert_only (template : Template) :
    (insert conn template).Only allowed := by
  apply Program.only_bind (setTemplateTimestamps_only clock _)
  intro stamped
  apply Program.only_bind (sql_only (statements _ rfl))
  intro result
  cases result <;> exact trivial

omit [Collation] in
theorem create_only (draws : allowed (.service .newGUID))
    (template : Template) : (create conn template).Only allowed := by
  apply Program.only_perform draws
  intro drawn
  cases drawn with
  | error text => exact trivial
  | ok id => exact insert_only clock statements _

end TemplatesRepo

end Calls

end Notifications.Models
