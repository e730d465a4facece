import Notifications.Models.Storing

/-!
# Transactions next to other requests

A transaction is InnoDB's at its default isolation level: it reads from a
snapshot that its first `SELECT` takes, with its own changes on top.  Its writes
check the committed rows and its own changes; they lock the keys of their rows,
so that the writes of others to them wait, and become visible at the commit.
An auto-increment number is used up when the row is inserted.
-/

set_option autoImplicit false

namespace Notifications.Models

open Notifications.Lib

/-- A row that a transaction has inserted, changed or deleted. -/
inductive Change where
  | inserted (table : Table) (row : table.Row)
  | updated (table : Table) (row : table.Row)
  | removed (table : Table) (row : table.Row)

variable [Collation]

namespace Tables

/-- The counter is ahead of the number of a row. -/
def raise (tables : Tables) (table : Table) (row : table.Row) : Tables :=
  match table.primaryKey row with
  | .number number =>
      { tables with
        autoIncrement := Function.update tables.autoIncrement table
          (max (tables.autoIncrement table) (number + 1)) }
  | .text _ => tables

def adopt (tables : Tables) (table : Table) (row : table.Row) : Tables :=
  (tables.set table (tables.rows table ++ [row])).raise table row

def vacant (tables : Tables) (table : Table) (row : table.Row) : Bool :=
  !tables.clashes table row &&
    !(tables.rows table).any (hits table row) &&
    table.primaryKey row != .number 0

omit [Collation] in
@[simp] theorem raise_rows (tables : Tables) (table : Table)
    (row : table.Row) : (tables.raise table row).rows = tables.rows := by
  unfold raise
  split <;> rfl

omit [Collation] in
theorem autoIncrement_le_raise (tables : Tables) (table other : Table)
    (row : table.Row) :
    tables.autoIncrement other ≤
      (tables.raise table row).autoIncrement other := by
  unfold raise
  split
  · by_cases same : other = table
    · subst same
      simp only [Function.update_self]
      omega
    · simp [same]
  · exact Nat.le_refl _

omit [Collation] in
theorem number_lt_raise {tables : Tables} {table : Table} {row : table.Row}
    {number : Nat} (numbered : table.primaryKey row = .number number) :
    number < (tables.raise table row).autoIncrement table := by
  simp only [raise, numbered, Function.update_self]
  omega

omit [Collation] in
@[simp] theorem adopt_rows_same (tables : Tables) (table : Table)
    (row : table.Row) :
    (tables.adopt table row).rows table = tables.rows table ++ [row] := by
  simp [adopt]

omit [Collation] in
theorem adopt_rows_other (tables : Tables) {table other : Table}
    (row : table.Row) (different : other ≠ table) :
    (tables.adopt table row).rows other = tables.rows other := by
  rw [adopt, raise_rows, set_rows_other tables _ different]

theorem Sound.adopt {tables : Tables} (sound : tables.Sound) {table : Table}
    {row : table.Row} (vacant : tables.vacant table row = true) :
    (tables.adopt table row).Sound := by
  simp only [Tables.vacant, Bool.and_eq_true, Bool.not_eq_true', bne_iff_ne,
    ne_eq] at vacant
  obtain ⟨⟨free, missed⟩, positive⟩ := vacant
  refine ⟨?_, ?_, ?_, ?_⟩
  · intro other
    by_cases same : other = table
    · subst same
      rw [adopt_rows_same]
      exact (sound.uniqueKey other).append_fresh (not_clashes.mp free)
    · rw [adopt_rows_other tables row same]
      exact sound.uniqueKey other
  · intro other
    by_cases same : other = table
    · subst same
      rw [adopt_rows_same]
      apply (sound.primaryKey other).append_fresh
      intro old member equal
      rw [List.any_eq_false] at missed
      exact missed old member (hits_iff.mpr equal)
    · rw [adopt_rows_other tables row same]
      exact sound.primaryKey other
  · intro other stored member number numbered
    have grown := (tables.set table (tables.rows table ++
      [row])).autoIncrement_le_raise table other row
    by_cases same : other = table
    · subst same
      rw [adopt_rows_same, List.mem_append, List.mem_singleton] at member
      rcases member with old | rfl
      · have small := sound.numbers other stored old number numbered
        exact ⟨small.1, Nat.lt_of_lt_of_le small.2 grown⟩
      · refine ⟨?_, number_lt_raise numbered⟩
        rcases Nat.eq_zero_or_pos number with rfl | above
        · exact absurd numbered positive
        · exact above
    · rw [adopt_rows_other tables row same] at member
      have small := sound.numbers other stored member number numbered
      exact ⟨small.1, Nat.lt_of_lt_of_le small.2 grown⟩
  · intro other
    exact Nat.lt_of_lt_of_le (sound.positive other)
      ((tables.set table (tables.rows table ++
        [row])).autoIncrement_le_raise table other row)

end Tables

/-- A change takes effect.  One that no longer fits is dropped, which the locks
keep from happening. -/
def Database.apply (database : Database) : Change → Database
  | .inserted table row =>
      if vacant : database.tables.vacant table row = true then
        ⟨database.tables.adopt table row, database.sound.adopt vacant⟩
      else
        database
  | .updated table row => (database.execute (.update table row)).2
  | .removed table row => (database.execute (.delete table row)).2

theorem Database.apply_inserted (database : Database) (table : Table)
    (row : table.Row) :
    database.apply (.inserted table row) = database ∨
      (database.apply (.inserted table row)).tables =
        database.tables.adopt table row := by
  simp only [Database.apply]
  split
  · exact Or.inr rfl
  · exact Or.inl rfl

def Change.table : Change → Table
  | .inserted table _ => table
  | .updated table _ => table
  | .removed table _ => table

theorem Database.apply_other (database : Database) {change : Change}
    {other : Table} (different : other ≠ change.table) :
    (database.apply change).tables.rows other =
      database.tables.rows other := by
  cases change with
  | inserted table row =>
      rcases database.apply_inserted table row with same | adopted
      · rw [same]
      · rw [adopted]
        exact Tables.adopt_rows_other _ _ different
  | updated table row =>
      exact Statement.execute_other (.update table row) _ different
  | removed table row =>
      exact Statement.execute_other (.delete table row) _ different

/-- The counter moves on, whatever becomes of the insert. -/
def Database.bump (database : Database) (table : Table) : Database :=
  ⟨database.tables.bump table, database.sound.bump table⟩

structure Txn where
  snapshot : Option Database
  changes : List Change

namespace Txn

def opened : Txn := ⟨none, []⟩

def on (txn : Txn) (database : Database) : Database :=
  txn.changes.foldl Database.apply database

def record (txn : Txn) (change : Change) : Txn :=
  { txn with changes := txn.changes ++ [change] }

/-- There is a row for an update or a deletion to hit. -/
def hitting (txn : Txn) (committed : Database) (table : Table)
    (row : table.Row) : Bool :=
  ((txn.on committed).tables.rows table).any (Tables.hits table row)

/-- A statement of the transaction, next to the committed rows.  The queries of
the preferences and the receipts are not made in transactions. -/
def execute (txn : Txn) (committed : Database) : (statement : Statement) →
    Option (Except String statement.Result × Txn × Database)
  | .select table wanted =>
      let snapshot := txn.snapshot.getD committed
      some (.ok (((txn.on snapshot).tables.rows table).filter wanted),
        { txn with snapshot := some snapshot }, committed)
  | .insert table row =>
      if (txn.on committed).tables.clashes table row then
        some (.error (duplicateEntry (table.columns row)), txn, committed)
      else
        let inserted := table.numbered row
          (committed.tables.autoIncrement table)
        some (.ok inserted, txn.record (.inserted table inserted),
          committed.bump table)
  | .update table row =>
      match ((txn.on committed).execute (.update table row)).1 with
      | .error text => some (.error text, txn, committed)
      | .ok _ =>
          some (.ok (),
            if txn.hitting committed table row then
              txn.record (.updated table row)
            else txn,
            committed)
  | .delete table row =>
      some (((txn.on committed).execute (.delete table row)).1,
        if txn.hitting committed table row then
          txn.record (.removed table row)
        else txn,
        committed)
  | _ => none

inductive Records : Statement → Change → Prop where
  | insert (table : Table) (row : table.Row) (number : Nat) :
      Records (.insert table row) (.inserted table (table.numbered row number))
  | update (table : Table) (row : table.Row) :
      Records (.update table row) (.updated table row)
  | delete (table : Table) (row : table.Row) :
      Records (.delete table row) (.removed table row)

/-- The rows that others see stay as they are until the commit. -/
theorem execute_cases {txn after : Txn} {committed final : Database}
    {statement : Statement} {result : Except String statement.Result}
    (executed : txn.execute committed statement =
      some (result, after, final)) :
    final.tables.rows = committed.tables.rows ∧
      (after.changes = txn.changes ∨
        ∃ change, Records statement change ∧
          after.changes = txn.changes ++ [change]) := by
  cases statement with
  | select table wanted =>
      cases executed
      exact ⟨rfl, Or.inl rfl⟩
  | insert table row =>
      simp only [execute] at executed
      split at executed
      · cases executed
        exact ⟨rfl, Or.inl rfl⟩
      · cases executed
        exact ⟨rfl, Or.inr ⟨_, .insert table row _, rfl⟩⟩
  | update table row =>
      simp only [execute] at executed
      split at executed
      · cases executed
        exact ⟨rfl, Or.inl rfl⟩
      · cases executed
        refine ⟨rfl, ?_⟩
        split
        · exact Or.inr ⟨_, .update table row, rfl⟩
        · exact Or.inl rfl
  | delete table row =>
      cases executed
      refine ⟨rfl, ?_⟩
      split
      · exact Or.inr ⟨_, .delete table row, rfl⟩
      · exact Or.inl rfl
  | upsertReceipt receipt => cases executed
  | selectPreferences userGUID => cases executed

/-- The change is of this row or of one with its unique key. -/
def locks (table : Table) (row : table.Row) : Change → Bool
  | .inserted other old => same other old
  | .updated other old => same other old
  | .removed other old => same other old
where
  same (other : Table) (old : other.Row) : Bool :=
    decide (other = table) &&
      (other.primaryKey old == table.primaryKey row ||
        other.uniqueKey old == table.uniqueKey row)

/-- The statement is a write of a row that the transaction has locked. -/
def blocks (txn : Txn) : Statement → Bool
  | .insert table row => txn.changes.any (locks table row)
  | .update table row => txn.changes.any (locks table row)
  | .delete table row => txn.changes.any (locks table row)
  | .upsertReceipt receipt => txn.changes.any (locks .receipts receipt)
  | _ => false

end Txn

end Notifications.Models
