import Notifications.Lib.Join
import Notifications.Models.Tables

/-!
# Statements

The statements that `ConnectionInterface` sends to the server, each of them
atomic.  `SelectOne` and `Select` send the same statement, and `Delete` sends
one for every row.  A write that would break a unique key fails and changes
nothing; the text of its error is the driver's.  Texts are compared by the
collation of their columns, in conditions and joins as in keys.
-/

set_option autoImplicit false

namespace Notifications.Models

open Notifications.Lib

/-- A row of the join that `PreferencesRepo` selects; the description of a
client without a row is `NULL`. -/
structure PreferenceRow where
  kindID : String
  clientID : String
  kindDescription : String
  sourceDescription : Option String
  count : Int
  deriving DecidableEq, Repr

inductive Statement where
  | select (table : Table) (wanted : table.Row → Bool)
  | insert (table : Table) (row : table.Row)
  | update (table : Table) (row : table.Row)
  | delete (table : Table) (row : table.Row)
  /-- `INSERT INTO receipts ... ON DUPLICATE KEY UPDATE count = count + 1` -/
  | upsertReceipt (receipt : Receipt)
  /-- the query of `FindNonCriticalPreferences` -/
  | selectPreferences (userGUID : String)

namespace Statement

/-- What a statement that succeeds gives back: the rows, the row with its new
primary key, or the number of deleted rows. -/
@[reducible] def Result : Statement → Type
  | select table _ => List table.Row
  | insert table _ => table.Row
  | update _ _ => Unit
  | delete _ _ => Nat
  | upsertReceipt _ => Unit
  | selectPreferences _ => List PreferenceRow

def reads : Statement → Bool
  | select _ _ => true
  | selectPreferences _ => true
  | _ => false

def table : Statement → Table
  | select table _ => table
  | insert table _ => table
  | update table _ => table
  | delete table _ => table
  | upsertReceipt _ => .receipts
  | selectPreferences _ => .kinds

end Statement

def duplicateEntry (key : List String) : String :=
  "Error 1062: Duplicate entry '" ++ String.intercalate "-" key ++
    "' for key"

variable [Collation]

namespace Tables

def clashes (tables : Tables) (table : Table) (row : table.Row) : Bool :=
  (tables.rows table).any fun old => table.uniqueKey old == table.uniqueKey row

/-- A row with the same primary key, as in the `WHERE` of gorp's writes. -/
def hits (table : Table) (row old : table.Row) : Bool :=
  table.primaryKey old == table.primaryKey row

/-- A row with the same unique key that an update of `row` would not hit. -/
def clashesElsewhere (tables : Tables) (table : Table)
    (row : table.Row) : Bool :=
  (tables.rows table).any fun old =>
    table.uniqueKey old == table.uniqueKey row && !hits table row old

/-- The row with a given unique key, as it is compared. -/
def lookup (tables : Tables) (table : Table) (key : List String) :
    Option table.Row :=
  (tables.rows table).find? fun row => table.uniqueKey row == key

def insert (tables : Tables) (table : Table) (row : table.Row) : Tables :=
  (tables.set table
    (tables.rows table ++
      [table.numbered row (tables.autoIncrement table)])).bump table

def update (tables : Tables) (table : Table) (row : table.Row) : Tables :=
  tables.set table
    (updateWhere (hits table row) (fun _ => row) (tables.rows table))

def delete (tables : Tables) (table : Table) (row : table.Row) : Tables :=
  tables.set table (deleteWhere (hits table row) (tables.rows table))

/-- `count = count + 1` in the row with the key of `receipt`. -/
def countReceipt (tables : Tables) (receipt : Receipt) : Tables :=
  tables.set .receipts
    (updateWhere
      (fun old => Table.receipts.uniqueKey old ==
        Table.receipts.uniqueKey receipt)
      (fun old => { old with count := old.count + 1 })
      (tables.rows .receipts))

/-- `SELECT DISTINCT kinds.client_id FROM kinds JOIN receipts
ON kinds.client_id = receipts.client_id WHERE receipts.user_guid = ?`. -/
def receivingClients (tables : Tables) (userGUID : String) : List String :=
  ((innerJoin (fun (kind : Kind) (receipt : Receipt) =>
      Collation.equal kind.clientID receipt.clientID)
    (tables.rows .kinds) (tables.rows .receipts)).filter
      (fun joined => Collation.equal joined.2.userGUID userGUID)).map
        (fun joined => Collation.weight joined.1.clientID) |>.dedup

/-- `SELECT ... FROM kinds LEFT OUTER JOIN receipts ON kinds.id =
receipts.kind_id LEFT OUTER JOIN clients ON clients.id = kinds.client_id WHERE
kinds.critical = "false" AND kinds.client_id IN (...)`. -/
def preferences (tables : Tables) (userGUID : String) : List PreferenceRow :=
  let counted := leftOuterJoin (fun (kind : Kind) (receipt : Receipt) =>
    Collation.equal kind.id receipt.kindID) (tables.rows .kinds)
      (tables.rows .receipts)
  let described := leftOuterJoin
    (fun (joined : Kind × Option Receipt) (client : Client) =>
      Collation.equal client.id joined.1.clientID) counted
        (tables.rows .clients)
  let wanted := described.filter fun joined => !joined.1.1.critical &&
    (tables.receivingClients userGUID).contains
      (Collation.weight joined.1.1.clientID)
  wanted.map fun ((kind, receipt), client) =>
    { kindID := kind.id
      clientID := kind.clientID
      kindDescription := kind.description
      sourceDescription := client.map Client.description
      -- IFNULL(receipts.count, 0)
      count := (receipt.map Receipt.count).getD 0 }

end Tables

/-- One statement on the tables, executed without failure of the server. -/
def Statement.execute : (statement : Statement) → Tables →
    Except String statement.Result × Tables
  | .select table wanted, tables =>
      (.ok ((tables.rows table).filter wanted), tables)
  | .insert table row, tables =>
      if tables.clashes table row then
        (.error (duplicateEntry (table.columns row)), tables)
      else
        (.ok (table.numbered row (tables.autoIncrement table)),
          tables.insert table row)
  | .update table row, tables =>
      if (tables.rows table).any (Tables.hits table row) &&
          tables.clashesElsewhere table row then
        (.error (duplicateEntry (table.columns row)), tables)
      else
        (.ok (), tables.update table row)
  | .delete table row, tables =>
      (.ok ((tables.rows table).countP (Tables.hits table row)),
        tables.delete table row)
  | .upsertReceipt receipt, tables =>
      if tables.clashes .receipts receipt then
        (.ok (), tables.countReceipt receipt)
      else
        (.ok (), tables.insert .receipts receipt)
  | .selectPreferences userGUID, tables =>
      (.ok (tables.preferences userGUID), tables)

namespace Tables

/-! ## What the statements keep -/

omit [Collation] in
theorem hits_iff {table : Table} {row old : table.Row} :
    hits table row old = true ↔
      table.primaryKey old = table.primaryKey row := by
  simp [hits]

theorem not_clashes {tables : Tables} {table : Table} {row : table.Row} :
    tables.clashes table row = false ↔
      ∀ old ∈ tables.rows table,
        table.uniqueKey old ≠ table.uniqueKey row := by
  simp [clashes]

theorem lookup_eq_some {tables : Tables} {table : Table} {key : List String}
    {row : table.Row} (found : tables.lookup table key = some row) :
    row ∈ tables.rows table ∧ table.uniqueKey row = key := by
  have member := List.mem_of_find?_eq_some found
  have same := List.find?_some found
  exact ⟨member, by simpa using same⟩

theorem lookup_eq_none {tables : Tables} {table : Table}
    {key : List String} :
    tables.lookup table key = none ↔
      ∀ row ∈ tables.rows table, table.uniqueKey row ≠ key := by
  simp [lookup]

theorem Sound.lookup_iff {tables : Tables} (sound : tables.Sound)
    {table : Table} {key : List String} {row : table.Row} :
    tables.lookup table key = some row ↔
      row ∈ tables.rows table ∧ table.uniqueKey row = key := by
  constructor
  · exact lookup_eq_some
  · rintro ⟨member, same⟩
    cases found : tables.lookup table key with
    | none => exact absurd same (lookup_eq_none.mp found row member)
    | some other =>
        obtain ⟨otherMember, otherSame⟩ := lookup_eq_some found
        rw [(sound.uniqueKey table).eq_of_mem otherMember member
          (otherSame.trans same.symm)]

/-- A `WHERE` over the columns of the unique key selects at most one row. -/
theorem Sound.filter_eq {tables : Tables} (sound : tables.Sound)
    {table : Table} {key : List String} {wanted : table.Row → Bool}
    (byKey : ∀ row, wanted row = (table.uniqueKey row == key)) :
    (tables.rows table).filter wanted =
      (tables.lookup table key).toList := by
  have unique := sound.uniqueKey table
  rw [lookup]
  generalize tables.rows table = rows at unique
  induction rows with
  | nil => rfl
  | cons first rest ih =>
      have unique' := List.nodup_cons.mp unique
      by_cases hit : table.uniqueKey first = key
      · have others : ∀ row ∈ rest, ¬ wanted row = true := by
          intro row member same
          rw [byKey, beq_iff_eq] at same
          apply unique'.1
          rw [hit, ← same]
          exact List.mem_map_of_mem member
        have none := List.filter_eq_nil_iff.mpr others
        simp [byKey first, hit, none]
      · simp [byKey first, hit, ih unique'.2]

/-- Replacing the rows of one table leaves the others as they are. -/
theorem Sound.set {tables : Tables} (sound : tables.Sound) {table : Table}
    {rows : List table.Row}
    (uniqueKey : UniqueBy table.uniqueKey rows)
    (primaryKey : UniqueBy table.primaryKey rows)
    (numbers : ∀ row ∈ rows, ∀ number,
      table.primaryKey row = .number number →
        0 < number ∧ number < tables.autoIncrement table) :
    (tables.set table rows).Sound where
  uniqueKey other := by
    by_cases same : other = table
    · subst same
      simpa using uniqueKey
    · rw [set_rows_other tables rows same]
      exact sound.uniqueKey other
  primaryKey other := by
    by_cases same : other = table
    · subst same
      simpa using primaryKey
    · rw [set_rows_other tables rows same]
      exact sound.primaryKey other
  numbers other := by
    by_cases same : other = table
    · subst same
      simpa using numbers
    · rw [set_rows_other tables rows same]
      exact sound.numbers other
  positive := sound.positive

omit [Collation] in
theorem autoIncrement_le_bump (tables : Tables) (table other : Table) :
    tables.autoIncrement other ≤ (tables.bump table).autoIncrement other := by
  by_cases same : other = table
  · subst same
    simp [bump]
  · simp [bump, same]

theorem Sound.bump {tables : Tables} (sound : tables.Sound) (table : Table) :
    (tables.bump table).Sound where
  uniqueKey := sound.uniqueKey
  primaryKey := sound.primaryKey
  numbers other row member number keyed := by
    have small := sound.numbers other row member number keyed
    have grown := tables.autoIncrement_le_bump table other
    exact ⟨small.1, Nat.lt_of_lt_of_le small.2 grown⟩
  positive other := Nat.lt_of_lt_of_le (sound.positive other)
    (tables.autoIncrement_le_bump table other)

theorem primaryKey_messages {left right : Message}
    (same : Table.messages.primaryKey left =
      Table.messages.primaryKey right) :
    Table.messages.uniqueKey left = Table.messages.uniqueKey right := by
  simpa [Table.primaryKey, Table.uniqueKey] using same

theorem Sound.fresh {tables : Tables} (sound : tables.Sound) {table : Table}
    {row : table.Row} (free : tables.clashes table row = false) :
    ∀ old ∈ tables.rows table, table.primaryKey old ≠
      table.primaryKey
        (table.numbered row (tables.autoIncrement table)) := by
  intro old member same
  rcases table.primaryKey_numbered row (tables.autoIncrement table)
    with numbered | messages
  · have small := sound.numbers table old member _ (same.trans numbered)
    omega
  · subst messages
    exact not_clashes.mp free old member (primaryKey_messages same)

theorem Sound.insert {tables : Tables} (sound : tables.Sound) {table : Table}
    {row : table.Row} (free : tables.clashes table row = false) :
    (tables.insert table row).Sound where
  uniqueKey other := by
    by_cases same : other = table
    · subst same
      simp only [Tables.insert, bump_rows, set_rows_same]
      refine (sound.uniqueKey other).append_fresh ?_
      intro old member
      rw [Table.uniqueKey_numbered]
      exact not_clashes.mp free old member
    · simp only [Tables.insert, bump_rows]
      rw [set_rows_other tables _ same]
      exact sound.uniqueKey other
  primaryKey other := by
    by_cases same : other = table
    · subst same
      simp only [Tables.insert, bump_rows, set_rows_same]
      exact (sound.primaryKey other).append_fresh (sound.fresh free)
    · simp only [Tables.insert, bump_rows]
      rw [set_rows_other tables _ same]
      exact sound.primaryKey other
  numbers other inserted member number keyed := by
    have grown := tables.autoIncrement_le_bump table other
    by_cases same : other = table
    · subst same
      simp only [Tables.insert, bump_rows, set_rows_same, List.mem_append,
        List.mem_singleton] at member
      rcases member with old | new
      · have small := sound.numbers other inserted old number keyed
        exact ⟨small.1, Nat.lt_of_lt_of_le small.2 grown⟩
      · subst new
        rcases other.primaryKey_numbered row (tables.autoIncrement other)
          with numbered | messages
        · rw [numbered] at keyed
          cases keyed
          refine ⟨sound.positive other, ?_⟩
          simp [Tables.insert, Tables.bump]
        · subst messages
          simp [Table.primaryKey] at keyed
    · simp only [Tables.insert, bump_rows] at member
      rw [set_rows_other tables _ same] at member
      have small := sound.numbers other inserted member number keyed
      exact ⟨small.1, Nat.lt_of_lt_of_le small.2 grown⟩
  positive other := Nat.lt_of_lt_of_le (sound.positive other)
    (tables.autoIncrement_le_bump table other)

theorem Sound.delete {tables : Tables} (sound : tables.Sound) (table : Table)
    (row : table.Row) : (tables.delete table row).Sound := by
  refine sound.set ((sound.uniqueKey table).deleteWhere _)
    ((sound.primaryKey table).deleteWhere _) ?_
  intro kept member
  exact sound.numbers table kept (mem_deleteWhere.mp member).1

theorem Sound.update {tables : Tables} (sound : tables.Sound) {table : Table}
    {row : table.Row}
    (free : ((tables.rows table).any (hits table row) &&
      tables.clashesElsewhere table row) = false) :
    (tables.update table row).Sound := by
  by_cases present : (tables.rows table).any (hits table row) = true
  · obtain ⟨old, oldMember, hit⟩ := List.any_eq_true.mp present
    have keyed := hits_iff.mp hit
    have apart : ∀ other ∈ tables.rows table,
        table.primaryKey other ≠ table.primaryKey row →
          table.uniqueKey other ≠ table.uniqueKey row := by
      intro other member different same
      have clash : tables.clashesElsewhere table row = true := by
        refine List.any_eq_true.mpr ⟨other, member, ?_⟩
        simp [same, hits, different]
      simp [present, clash] at free
    refine sound.set
      ((sound.uniqueKey table).replace (sound.primaryKey table) apart)
      ((sound.primaryKey table).updateWhere ?_) ?_
    · intro other otherHit
      exact (hits_iff.mp otherHit).symm
    · intro stored member number numbered
      rcases mem_updateWhere.mp member with ⟨kept, _⟩ | ⟨_, _, _, rfl⟩
      · exact sound.numbers table stored kept number numbered
      · exact sound.numbers table old oldMember number (keyed.trans numbered)
  · have none : ∀ old ∈ tables.rows table, hits table row old = false := by
      intro old member
      by_contra hit
      exact present (List.any_eq_true.mpr ⟨old, member, by simpa using hit⟩)
    rw [Tables.update, updateWhere_of_none none]
    exact sound.set (sound.uniqueKey table) (sound.primaryKey table)
      (sound.numbers table)

theorem Sound.countReceipt {tables : Tables} (sound : tables.Sound)
    (receipt : Receipt) : (tables.countReceipt receipt).Sound := by
  refine sound.set ((sound.uniqueKey .receipts).updateWhere ?_)
    ((sound.primaryKey .receipts).updateWhere ?_) ?_
  · intro old _
    rfl
  · intro old _
    rfl
  · intro stored member number numbered
    rcases mem_updateWhere.mp member with ⟨kept, _⟩ | ⟨old, kept, _, rfl⟩
    · exact sound.numbers .receipts stored kept number numbered
    · exact sound.numbers .receipts old kept number numbered

end Tables

namespace Statement

theorem execute_sound (statement : Statement) {tables : Tables}
    (sound : tables.Sound) : (statement.execute tables).2.Sound := by
  cases statement with
  | select table wanted => exact sound
  | insert table row =>
      simp only [execute]
      split
      · exact sound
      · rename_i free
        exact sound.insert (by simpa using free)
  | update table row =>
      simp only [execute]
      split
      · exact sound
      · rename_i free
        exact sound.update (by simpa using free)
  | delete table row => exact sound.delete table row
  | upsertReceipt receipt =>
      simp only [execute]
      split
      · exact sound.countReceipt receipt
      · rename_i free
        exact sound.insert (by simpa using free)
  | selectPreferences userGUID => exact sound

theorem execute_of_reads {statement : Statement}
    (reads : statement.reads = true) (tables : Tables) :
    (statement.execute tables).2 = tables := by
  cases statement <;> simp_all [Statement.reads, execute]

theorem execute_other (statement : Statement) (tables : Tables)
    {other : Table} (different : other ≠ statement.table) :
    (statement.execute tables).2.rows other = tables.rows other := by
  cases statement with
  | select table wanted => rfl
  | insert table row =>
      simp only [execute]
      split
      · rfl
      · exact tables.set_rows_other _ different
  | update table row =>
      simp only [execute]
      split
      · rfl
      · exact tables.set_rows_other _ different
  | delete table row => exact tables.set_rows_other _ different
  | upsertReceipt receipt =>
      simp only [execute]
      split
      · exact tables.set_rows_other _ different
      · exact tables.set_rows_other _ different
  | selectPreferences userGUID => rfl

end Statement

def Database.execute (database : Database) (statement : Statement) :
    Except String statement.Result × Database :=
  ((statement.execute database.tables).1,
    ⟨(statement.execute database.tables).2,
      statement.execute_sound database.sound⟩)

def Tables.empty : Tables := ⟨fun _ => [], fun _ => 1⟩

theorem Tables.empty_sound : Tables.empty.Sound where
  uniqueKey _ := List.nodup_nil
  primaryKey _ := List.nodup_nil
  numbers _ _ member := by cases member
  positive _ := Nat.one_pos

def Database.after (statements : List Statement) : Database :=
  statements.foldl (fun database statement => (database.execute statement).2)
    ⟨.empty, Tables.empty_sound⟩

end Notifications.Models
