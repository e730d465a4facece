import Notifications.Web.Permissions

/-!
# Nobody changes the preferences of others

The rows of `unsubscribes` and `global_unsubscribes` are about one user each.
A handler finds them by the user and deletes them by their number, in another
statement; numbers are not used twice, so what is deleted is still a row of
that user.  Whatever requests are served next to each other, the rows of a user
change only in a call of a request that is entitled to it: the user's own, or
one that may administer preferences and has the user in its path.
-/

set_option autoImplicit false

namespace Notifications.Web.Serving

open Notifications.Lib Notifications.Models Notifications.Services

/-! ## Rows with owners -/

def userOf : (table : Table) → table.Row → Option String
  | .unsubscribes, row => some row.userID
  | .globalUnsubscribes, row => some row.userID
  | _, _ => none

theorem userOf_of_shared {table : Table} (shared : personal table = false)
    (row : table.Row) : userOf table row = none := by
  cases table <;> first | rfl | cases shared

theorem userOf_numbered (table : Table) (row : table.Row) (number : Nat) :
    userOf table (table.numbered row number) = userOf table row := by
  cases table <;> rfl

def about (user : String) (tables : Tables) (table : Table) :
    List table.Row :=
  (tables.rows table).filter fun row => userOf table row == some user

theorem about_shared {table : Table} (shared : personal table = false)
    (user : String) (tables : Tables) : about user tables table = [] := by
  simp [about, userOf_of_shared shared]

/-- Whom a number has been used for, and the next numbers. -/
structure Owners where
  owner : Table → Nat → String
  next : Table → Nat

/-- The row has a number that has been used for its user. -/
def Owners.Own (owners : Owners) (table : Table) (row : table.Row) : Prop :=
  ∀ user, userOf table row = some user →
    ∃ number < owners.next table,
      table.primaryKey row = .number number ∧
        owners.owner table number = user

theorem Owners.own_of_shared {owners : Owners} {table : Table}
    (shared : personal table = false) (row : table.Row) :
    owners.Own table row := by
  intro user same
  rw [userOf_of_shared shared] at same
  cases same

/-- Rows with the same number are about the same user. -/
theorem Owners.Own.same {owners : Owners} {table : Table}
    {left right : table.Row} (one : owners.Own table left)
    (other : owners.Own table right)
    (key : table.primaryKey left = table.primaryKey right) {user : String}
    (theirs : userOf table left = some user) :
    userOf table right = some user := by
  obtain ⟨number, _, numbered, owned⟩ := one user theirs
  cases right_user : userOf table right with
  | none => cases table <;> simp_all [userOf]
  | some whose =>
      obtain ⟨again, _, numbered', owned'⟩ := other whose right_user
      rw [numbered, numbered'] at key
      cases key
      rw [← owned, owned']

/-- All rows of the tables belong to their owners. -/
def Owners.Of (owners : Owners) (tables : Tables) : Prop :=
  ∀ table, ∀ row ∈ tables.rows table, owners.Own table row

structure Owners.Extends (later earlier : Owners) : Prop where
  next : ∀ table, earlier.next table ≤ later.next table
  owner : ∀ table, ∀ number < earlier.next table,
    later.owner table number = earlier.owner table number

theorem Owners.Extends.refl (owners : Owners) : owners.Extends owners :=
  ⟨fun _ => Nat.le_refl _, fun _ _ _ => rfl⟩

theorem Owners.Own.mono {later earlier : Owners}
    (extends_ : later.Extends earlier) {table : Table} {row : table.Row}
    (own : earlier.Own table row) : later.Own table row := by
  intro user same
  obtain ⟨number, small, numbered, owned⟩ := own user same
  refine ⟨number, Nat.lt_of_lt_of_le small (extends_.next table), numbered, ?_⟩
  rw [extends_.owner table number small, owned]

theorem Owners.Of.mono {later earlier : Owners}
    (extends_ : later.Extends earlier) {tables : Tables}
    (of : earlier.Of tables) : later.Of tables :=
  fun table row member => (of table row member).mono extends_

/-- The counters of the database are ahead of these owners. -/
def Owners.advance (owners : Owners) (tables : Tables) : Owners :=
  { owners with next := tables.autoIncrement }

/-- The next number of a table goes to this user. -/
def Owners.give (owners : Owners) (table : Table) (user : String) : Owners where
  owner := Function.update owners.owner table
    (Function.update (owners.owner table) (owners.next table) user)
  next := Function.update owners.next table (owners.next table + 1)

theorem Owners.give_extends (owners : Owners) (table : Table)
    (user : String) : (owners.give table user).Extends owners := by
  constructor
  · intro other
    by_cases same : other = table
    · subst same
      simp [give]
    · simp [give, same]
  · intro other number small
    by_cases same : other = table
    · subst same
      have apart : number ≠ owners.next other := by omega
      simp [give, apart]
    · simp [give, same]

theorem Owners.give_own (owners : Owners) {table : Table} {row : table.Row}
    {user : String} (theirs : userOf table row = some user) :
    (owners.give table user).Own table
      (table.numbered row (owners.next table)) := by
  intro whose same
  rw [userOf_numbered, theirs] at same
  cases same
  refine ⟨owners.next table, by simp [give], ?_, by simp [give]⟩
  cases table <;> first | rfl | cases theirs

/-! ## Changes -/

/-- The change is of a row that a request may change. -/
def Owners.Fits (owners : Owners) (entitled : String → Prop) :
    Change → Prop
  | .inserted table row =>
      owners.Own table row ∧ ∀ user ∈ userOf table row, entitled user
  | .updated table _ => personal table = false
  | .removed table row =>
      owners.Own table row ∧ ∀ user ∈ userOf table row, entitled user

theorem Owners.Fits.mono {later earlier : Owners}
    (extends_ : later.Extends earlier) {entitled : String → Prop}
    {change : Change} (fits : earlier.Fits entitled change) :
    later.Fits entitled change := by
  cases change with
  | inserted table row => exact ⟨fits.1.mono extends_, fits.2⟩
  | updated table row => exact fits
  | removed table row => exact ⟨fits.1.mono extends_, fits.2⟩

section Collated

variable [Collation]

section Changes

variable {owners : Owners} {entitled : String → Prop} {database : Database}

omit [Collation] in
theorem Owners.Of.set {tables : Tables} (of : owners.Of tables)
    {table : Table} {rows : List table.Row}
    (own : ∀ row ∈ rows, owners.Own table row) :
    owners.Of (tables.set table rows) := by
  intro other row member
  by_cases same : other = table
  · subst same
    rw [Tables.set_rows_same] at member
    exact own row member
  · rw [Tables.set_rows_other _ _ same] at member
    exact of other row member

omit [Collation] in
theorem Owners.Of.of_rows {before after : Tables} (of : owners.Of before)
    (same : after.rows = before.rows) : owners.Of after := by
  intro table row member
  rw [same] at member
  exact of table row member

theorem apply_of {change : Change} (of : owners.Of database.tables)
    (fits : owners.Fits entitled change) :
    owners.Of (database.apply change).tables := by
  cases change with
  | inserted table row =>
      rcases database.apply_inserted table row with same | adopted
      · rw [same]
        exact of
      · rw [adopted]
        have appended : owners.Of (database.tables.set table
            (database.tables.rows table ++ [row])) := by
          refine of.set ?_
          intro stored member
          rcases List.mem_append.mp member with old | new
          · exact of table stored old
          · rw [List.mem_singleton.mp new]
            exact fits.1
        exact appended.of_rows (Tables.raise_rows _ _ _)
  | updated table row =>
      intro other stored member
      by_cases same : other = table
      · subst same
        exact Owners.own_of_shared fits stored
      · have alone := Statement.execute_other (.update table row)
          database.tables same
        rw [Database.apply, Database.execute] at member
        rw [alone] at member
        exact of other stored member
  | removed table row =>
      refine of.set fun stored member => of table stored ?_
      exact (mem_deleteWhere.mp member).1

theorem apply_about {change : Change} (of : owners.Of database.tables)
    (fits : owners.Fits entitled change) {user : String}
    (others : ¬ entitled user) (table : Table) :
    about user (database.apply change).tables table =
      about user database.tables table := by
  by_cases same : table = change.table
  · subst same
    cases change with
    | inserted table row =>
        rcases database.apply_inserted table row with same | adopted
        · rw [same]
        · rw [adopted]
          have apart : userOf table row ≠ some user :=
            fun theirs => others (fits.2 user theirs)
          simp only [about, Change.table, Tables.adopt_rows_same,
            List.filter_append]
          simp [apart]
    | updated table row =>
        dsimp only [Change.table]
        rw [about_shared fits, about_shared fits]
    | removed table row =>
        change about user (database.tables.delete table row) table =
          about user database.tables table
        rw [about, about, Tables.delete, Tables.set_rows_same, deleteWhere,
          List.filter_filter]
        apply List.filter_congr
        intro stored member
        cases theirs : userOf table stored == some user with
        | false => simp
        | true =>
            have theirs := eq_of_beq theirs
            have missed : Tables.hits table row stored = false := by
              by_contra hit
              rw [Bool.not_eq_false, Tables.hits_iff] at hit
              exact others (fits.2 user
                ((of table stored member).same fits.1 hit theirs))
            simp [missed]
  · rw [about, about, database.apply_other same]

/-- Everything that a transaction knows and has changed belongs to the owners
of its numbers. -/
structure Owners.OfTxn (owners : Owners) (entitled : String → Prop)
    (txn : Txn) : Prop where
  snapshot : ∀ database ∈ txn.snapshot, owners.Of database.tables
  changes : ∀ change ∈ txn.changes, owners.Fits entitled change

theorem Owners.OfTxn.mono {later earlier : Owners}
    (extends_ : later.Extends earlier) {txn : Txn}
    (of : earlier.OfTxn entitled txn) : later.OfTxn entitled txn :=
  ⟨fun database member => (of.snapshot database member).mono extends_,
    fun change member => (of.changes change member).mono extends_⟩

theorem applied_of {changes : List Change} (of : owners.Of database.tables)
    (fits : ∀ change ∈ changes, owners.Fits entitled change) :
    owners.Of (changes.foldl Database.apply database).tables ∧
      ∀ user, ¬ entitled user → ∀ table,
        about user (changes.foldl Database.apply database).tables table =
          about user database.tables table := by
  induction changes generalizing database with
  | nil => exact ⟨of, fun _ _ _ => rfl⟩
  | cons change rest ih =>
      have first := fits change (.head _)
      obtain ⟨kept, same⟩ := ih (apply_of of first) fun other member =>
        fits other (.tail _ member)
      refine ⟨kept, fun user others table => ?_⟩
      rw [List.foldl_cons, same user others table,
        apply_about of first others table]

end Changes

/-! ## Calls -/

/-- What a request may call that is entitled to the preferences of these
users.  It knows the rows that it has seen. -/
def privacy (entitled : String → Prop) :
    Contract Op Answer (List (Σ table : Table, table.Row)) where
  may seen
    | .sql .connection statement =>
        statement.reads = true ∨ personal statement.table = false
    | .sql .transaction (.insert table row) =>
        ∀ user ∈ userOf table row, entitled user
    | .sql .transaction (.update table _) => personal table = false
    | .sql .transaction (.delete table row) =>
        personal table = true → ⟨table, row⟩ ∈ seen ∧
          ∀ user ∈ userOf table row, entitled user
    | _ => True
  possible
    | .sql _ (.select _ wanted), .ok rows => ∀ row ∈ rows, wanted row = true
    | _, _ => True
  learn seen
    | .sql _ (.select table _), .ok rows =>
        rows.map (fun row => ⟨table, row⟩) ++ seen
    | _, _ => seen

/-- What a request has seen belongs to the owners of the numbers. -/
def Owners.OfSeen (owners : Owners)
    (seen : List (Σ table : Table, table.Row)) : Prop :=
  ∀ known ∈ seen, owners.Own known.1 known.2

section Calls

variable {environment : Environment} {others : List Txn}
  {server after : Server} {transaction final : Option Txn}

theorem call_selected {conn : Conn} {table : Table}
    {wanted : table.Row → Bool} {rows : List table.Row}
    (called : server.call environment others transaction
      (.sql conn (.select table wanted)) = some (.ok rows, final, after)) :
    ∃ database : Database,
      rows = (database.tables.rows table).filter wanted ∧
      (database = server.database ∨ ∃ txn ∈ transaction,
        database = txn.on (txn.snapshot.getD server.database)) := by
  cases conn with
  | connection =>
      obtain ⟨⟨reply, changed⟩, direct, called⟩ :=
        Option.bind_eq_some_iff.mp called
      cases called
      rcases direct_cases direct with ⟨text, failed, _⟩ | ⟨answered, _⟩
      · cases failed
      · cases answered
        exact ⟨server.database, rfl, Or.inl rfl⟩
  | transaction =>
      simp only [Server.call, Server.inTxn] at called
      split at called
      · cases called
      · rename_i txn
        split at called
        · cases called
        · split at called
          · cases called
          · obtain ⟨⟨result, kept, committed⟩, executed, called⟩ :=
              Option.bind_eq_some_iff.mp called
            cases executed
            cases called
            exact ⟨_, rfl, Or.inr ⟨txn, rfl, rfl⟩⟩

theorem autoIncrement_le_execute (database : Database)
    (statement : Statement) (table : Table) :
    database.tables.autoIncrement table ≤
      (database.execute statement).2.tables.autoIncrement table := by
  change _ ≤ (statement.execute database.tables).2.autoIncrement table
  cases statement with
  | select other wanted => exact Nat.le_refl _
  | insert other row =>
      simp only [Statement.execute]
      split
      · exact Nat.le_refl _
      · exact Tables.autoIncrement_le_bump _ other table
  | update other row =>
      simp only [Statement.execute]
      split <;> exact Nat.le_refl _
  | delete other row => exact Nat.le_refl _
  | upsertReceipt receipt =>
      simp only [Statement.execute]
      split
      · exact Nat.le_refl _
      · exact Tables.autoIncrement_le_bump _ .receipts table
  | selectPreferences userGUID => exact Nat.le_refl _

theorem autoIncrement_le_apply (database : Database) (change : Change)
    (table : Table) :
    database.tables.autoIncrement table ≤
      (database.apply change).tables.autoIncrement table := by
  cases change with
  | inserted other row =>
      rcases database.apply_inserted other row with same | adopted
      · rw [same]
      · rw [adopted]
        exact (database.tables.set other (database.tables.rows other ++
          [row])).autoIncrement_le_raise other table row
  | updated other row => exact autoIncrement_le_execute database _ table
  | removed other row => exact autoIncrement_le_execute database _ table

theorem autoIncrement_le_on (txn : Txn) (database : Database)
    (table : Table) :
    database.tables.autoIncrement table ≤
      (txn.on database).tables.autoIncrement table := by
  rw [Txn.on]
  generalize txn.changes = changes
  induction changes generalizing database with
  | nil => exact Nat.le_refl _
  | cons change rest ih =>
      exact Nat.le_trans (autoIncrement_le_apply database change table)
        (ih (database.apply change))

section Owned

variable {owners : Owners} {entitled : String → Prop}
  {seen : List (Σ table : Table, table.Row)}

/-- The answer to a query is possible, and its rows have owners. -/
theorem call_answers {op : Op} {answer : Answer op}
    (of : owners.Of server.database.tables)
    (txns : ∀ txn ∈ transaction, owners.OfTxn entitled txn)
    (knows : owners.OfSeen seen)
    (called : server.call environment others transaction op =
      some (answer, final, after)) :
    (privacy entitled).possible op answer ∧
      owners.OfSeen ((privacy entitled).learn seen op answer) := by
  cases op with
  | sql conn statement =>
      cases statement with
      | select table wanted =>
          cases answer with
          | ok rows =>
              obtain ⟨database, rfl, stored⟩ := call_selected called
              have owned : owners.Of database.tables := by
                rcases stored with rfl | ⟨txn, current, rfl⟩
                · exact of
                · have ofTxn := txns txn current
                  refine (applied_of ?_ ofTxn.changes).1
                  cases taken : txn.snapshot with
                  | none => exact of
                  | some snapshot => exact ofTxn.snapshot snapshot taken
              refine ⟨fun row member => (List.mem_filter.mp member).2, ?_⟩
              intro known member
              rcases List.mem_append.mp member with new | old
              · obtain ⟨row, listed, rfl⟩ := List.mem_map.mp new
                exact owned table row (List.mem_filter.mp listed).1
              · exact knows known old
          | failed text => exact ⟨trivial, knows⟩
          | nilPointer => exact ⟨trivial, knows⟩
      | insert table row => exact ⟨trivial, knows⟩
      | update table row => exact ⟨trivial, knows⟩
      | delete table row => exact ⟨trivial, knows⟩
      | upsertReceipt receipt => exact ⟨trivial, knows⟩
      | selectPreferences userGUID => exact ⟨trivial, knows⟩
  | _ => exact ⟨trivial, knows⟩

/-- What a call leaves behind: the tables and the caller's transaction still
belong to owners, and nobody else's rows have changed. -/
structure Left (owners : Owners) (entitled : String → Prop)
    (before after : Database) (final : Option Txn) (later : Owners) :
    Prop where
  grown : later.Extends owners
  synced : later.next = after.tables.autoIncrement
  of : later.Of after.tables
  txns : ∀ txn ∈ final, later.OfTxn entitled txn
  others : ∀ user, ¬ entitled user → ∀ table,
    about user after.tables table = about user before.tables table

section Effects

variable {before later : Database}
  (synced : owners.next = before.tables.autoIncrement)
  (of : owners.Of before.tables)

include synced of

theorem left_same (txns : ∀ txn ∈ final, owners.OfTxn entitled txn) :
    Left owners entitled before before final owners :=
  ⟨.refl owners, synced, of, txns, fun _ _ _ => rfl⟩

omit of in
theorem left_advanced
    (counters : ∀ table, before.tables.autoIncrement table ≤
      later.tables.autoIncrement table)
    (kept : owners.Of later.tables)
    (txns : ∀ txn ∈ final, owners.OfTxn entitled txn)
    (same : ∀ user, ¬ entitled user → ∀ table,
      about user later.tables table = about user before.tables table) :
    Left owners entitled before later final (owners.advance later.tables) := by
  have grown : (owners.advance later.tables).Extends owners :=
    ⟨fun table => synced ▸ counters table, fun _ _ _ => rfl⟩
  exact ⟨grown, rfl, kept.mono grown, fun txn member =>
    (txns txn member).mono grown, same⟩

theorem left_direct {statement : Statement}
    (harmless : statement.reads = true ∨ personal statement.table = false)
    (txns : ∀ txn ∈ final, owners.OfTxn entitled txn) :
    Left owners entitled before (before.execute statement).2 final
      (owners.advance (before.execute statement).2.tables) := by
  have alone : ∀ table, personal table = true →
      (before.execute statement).2.tables.rows table =
        before.tables.rows table := by
    intro table isPersonal
    change (statement.execute before.tables).2.rows table = _
    rcases harmless with reads | shared
    · rw [Statement.execute_of_reads reads]
    · apply Statement.execute_other
      rintro rfl
      rw [shared] at isPersonal
      cases isPersonal
  refine left_advanced synced (autoIncrement_le_execute before statement)
    ?_ txns ?_
  · intro table row member
    cases kind : personal table with
    | false => exact Owners.own_of_shared kind row
    | true =>
        rw [alone table kind] at member
        exact of table row member
  · intro user _ table
    cases kind : personal table with
    | false => rw [about_shared kind, about_shared kind]
    | true => rw [about, about, alone table kind]

theorem left_numbered {txn : Txn} {table : Table} {row : table.Row}
    (ofTxn : owners.OfTxn entitled txn)
    (may : ∀ user ∈ userOf table row, entitled user) :
    ∃ later, Left owners entitled before (before.bump table)
      (some (txn.record (.inserted table
        (table.numbered row (before.tables.autoIncrement table))))) later := by
  have changed {later : Owners} (grown : later.Extends owners)
      (own : later.Own table
        (table.numbered row (before.tables.autoIncrement table))) :
      later.OfTxn entitled (txn.record (.inserted table
        (table.numbered row (before.tables.autoIncrement table)))) := by
    refine ⟨(ofTxn.mono grown).snapshot, fun change member => ?_⟩
    rcases List.mem_append.mp member with old | new
    · exact (ofTxn.mono grown).changes change old
    · rw [List.mem_singleton.mp new]
      exact ⟨own, by rwa [userOf_numbered]⟩
  cases theirs : userOf table row with
  | none =>
      have grown : (owners.advance (before.bump table).tables).Extends
          owners := ⟨fun other => synced ▸
        Tables.autoIncrement_le_bump _ table other, fun _ _ _ => rfl⟩
      refine ⟨_, grown, rfl, (of.mono grown).of_rows rfl, ?_,
        fun _ _ _ => rfl⟩
      rintro other ⟨⟩
      refine changed grown fun user same => ?_
      rw [userOf_numbered, theirs] at same
      cases same
  | some user =>
      have grown := owners.give_extends table user
      refine ⟨owners.give table user, grown, ?_, (of.mono grown).of_rows rfl,
        ?_, fun _ _ _ => rfl⟩
      · simp only [Owners.give, synced]
        rfl
      · rintro other ⟨⟩
        have own := owners.give_own theirs
        rw [synced] at own
        exact changed grown own

theorem left_inside {statement : Statement} {txn kept : Txn}
    {result : Except String statement.Result}
    (knows : owners.OfSeen seen) (ofTxn : owners.OfTxn entitled txn)
    (may : (privacy entitled).may seen (.sql .transaction statement))
    (executed : txn.execute before statement = some (result, kept, later)) :
    ∃ afterwards, Left owners entitled before later (some kept)
      afterwards := by
  have untouched : ∃ afterwards,
      Left owners entitled before before (some txn) afterwards :=
    ⟨owners, left_same synced of fun other member =>
      Option.some.inj member ▸ ofTxn⟩
  cases statement with
  | select table wanted =>
      cases executed
      refine ⟨owners, left_same synced of ?_⟩
      rintro other ⟨⟩
      refine ⟨?_, ofTxn.changes⟩
      rintro database ⟨⟩
      cases taken : txn.snapshot with
      | none => exact of
      | some snapshot => exact ofTxn.snapshot snapshot taken
  | insert table row =>
      simp only [Txn.execute] at executed
      split at executed
      · cases executed
        exact untouched
      · cases executed
        exact left_numbered synced of ofTxn may
  | update table row =>
      simp only [Txn.execute] at executed
      split at executed
      · cases executed
        exact untouched
      · cases executed
        split
        · refine ⟨owners, left_same synced of ?_⟩
          rintro other ⟨⟩
          refine ⟨ofTxn.snapshot, fun change member => ?_⟩
          rcases List.mem_append.mp member with old | new
          · exact ofTxn.changes change old
          · rw [List.mem_singleton.mp new]
            exact may
        · exact untouched
  | delete table row =>
      cases executed
      split
      · refine ⟨owners, left_same synced of ?_⟩
        rintro other ⟨⟩
        refine ⟨ofTxn.snapshot, fun change member => ?_⟩
        rcases List.mem_append.mp member with old | new
        · exact ofTxn.changes change old
        · rw [List.mem_singleton.mp new]
          cases kind : personal table with
          | false =>
              refine ⟨Owners.own_of_shared kind row, fun user same => ?_⟩
              rw [userOf_of_shared kind] at same
              cases same
          | true => exact ⟨knows _ (may kind).1, (may kind).2⟩
      · exact untouched
  | upsertReceipt receipt => cases executed
  | selectPreferences userGUID => cases executed

end Effects

theorem Effect.left {before after : Database} {op : Op}
    (effect : Effect before transaction op final after)
    (synced : owners.next = before.tables.autoIncrement)
    (of : owners.Of before.tables)
    (txns : ∀ txn ∈ transaction, owners.OfTxn entitled txn)
    (knows : owners.OfSeen seen) (may : (privacy entitled).may seen op) :
    ∃ later, Left owners entitled before after final later := by
  cases effect with
  | idle => exact ⟨owners, left_same synced of txns⟩
  | closed => exact ⟨owners, left_same synced of (by simp)⟩
  | opened =>
      refine ⟨owners, left_same synced of ?_⟩
      rintro txn ⟨⟩
      exact ⟨by simp [Txn.opened], by simp [Txn.opened]⟩
  | direct statement => exact ⟨_, left_direct synced of may txns⟩
  | @inside statement txn kept committed result current executed =>
      exact left_inside synced of knows (txns txn current) may executed
  | @committed txn current =>
      obtain ⟨kept, same⟩ := applied_of of (txns txn current).changes
      exact ⟨_, left_advanced synced (autoIncrement_le_on txn before) kept
        (by simp) same⟩

end Owned

end Calls

/-! ## Programs -/

/-- The program is entitled to what it does, whatever it has seen before. -/
def Private {α : Type} (entitled : String → Prop) (program : Prog α) : Prop :=
  ∀ seen, program.Meets (privacy entitled) (fun _ _ => True) seen

end Collated

section Programs

variable {entitled : String → Prop} {α β : Type}

theorem private_bind {program : Prog α} {rest : α → Prog β}
    (first : Private entitled program)
    (later : ∀ value, Private entitled (rest value)) :
    Private entitled (program >>= rest) := fun seen =>
  Program.meets_bind ((first seen).weaken fun learned value _ =>
    later value learned)

theorem may_of_shared {op : Op} (shared : Shared op)
    (seen : List (Σ table : Table, table.Row)) :
    (privacy entitled).may seen op := by
  cases op with
  | sql conn statement =>
      cases conn with
      | connection => exact shared
      | transaction =>
          cases statement with
          | insert table row =>
              rcases shared with reads | shared
              · cases reads
              · intro user same
                have none := @userOf_of_shared table shared row
                cases none.symm.trans same
          | update table row =>
              rcases shared with reads | shared
              · cases reads
              · exact shared
          | delete table row =>
              rcases shared with reads | shared
              · cases reads
              · intro kind
                rw [Statement.table] at shared
                rw [shared] at kind
                cases kind
          | _ => trivial
  | _ => trivial

theorem private_of_shared {program : Prog α} (only : program.Only Shared) :
    Private entitled program := fun _ =>
  @Program.meets_of_kept _ _ _ _ _ Shared (fun _ => True) _ _ _
    (fun seen _ _ shared => may_of_shared shared seen)
    (fun _ _ _ _ _ => trivial) only trivial fun _ _ _ => trivial

/-- What has been found has been seen, and it is what was wanted. -/
theorem private_found {table : Table} {wanted : table.Row → Bool}
    {rest : table.Row × Option Error → Prog β}
    (found : ∀ row seen, ⟨table, row⟩ ∈ seen → wanted row = true →
      (rest (row, none)).Meets (privacy entitled) (fun _ _ => True) seen)
    (missed : ∀ error, Private entitled (rest (table.zero, some error))) :
    Private entitled (selectOne .transaction table wanted >>= rest) := by
  intro seen
  refine ⟨trivial, fun answer possible => ?_⟩
  cases answer with
  | failed text => exact missed _ _
  | nilPointer => trivial
  | ok rows =>
      cases rows with
      | nil => exact missed _ _
      | cons row others =>
          cases others with
          | cons _ _ => exact missed _ _
          | nil =>
              exact found row _ (.head _) (possible row (.head _))

theorem private_insert {table : Table} {row : table.Row}
    (may : ∀ user ∈ userOf table row, entitled user) :
    Private entitled (sql .transaction (.insert table row)) := by
  intro seen
  refine ⟨may, fun answer _ => ?_⟩
  cases answer <;> exact trivial

theorem meets_delete {table : Table} {row : table.Row}
    {seen : List (Σ table : Table, table.Row)} (known : ⟨table, row⟩ ∈ seen)
    (may : ∀ user ∈ userOf table row, entitled user) :
    (sql .transaction (.delete table row)).Meets (privacy entitled)
      (fun _ _ => True) seen := by
  refine ⟨fun _ => ⟨known, may⟩, fun answer _ => ?_⟩
  cases answer <;> exact trivial

end Programs

section Collated

variable [Collation]

section Preferences

variable {entitled : String → Prop} {userID : String}
  (may : ∀ user, Collation.equal user userID → entitled user)

include may

theorem inserted_private (row : GlobalUnsubscribe)
    (theirs : Collation.equal row.userID userID) :
    Private entitled (do
      match ← sql .transaction (.insert .globalUnsubscribes row) with
      | .error error => pure (some error)
      | .ok _ => pure none : Prog (Option Error)) := by
  refine private_bind (private_insert ?_) ?_
  · rintro user ⟨⟩
    exact may _ theirs
  · intro result seen
    cases result <;> exact trivial

theorem change_new_private (now : Int) (unsubscribe : Bool) :
    Private entitled (GlobalUnsubscribesRepo.change .transaction
      ⟨0, userID, now⟩ unsubscribe) := by
  cases unsubscribe with
  | true =>
      exact inserted_private may ⟨0, userID, now⟩ (Collation.equal_self userID)
  | false => exact fun _ => trivial

theorem set_private (unsubscribe : Bool) :
    Private entitled
      (GlobalUnsubscribesRepo.set .transaction userID unsubscribe) := by
  apply private_found
  · intro row seen known wanted
    have theirs : Collation.equal row.userID userID := wanted
    change (GlobalUnsubscribesRepo.change .transaction row
      unsubscribe).Meets _ _ seen
    rw [GlobalUnsubscribesRepo.change]
    split
    · exact inserted_private may row theirs seen
    · split
      · apply Program.meets_bind
        refine (meets_delete known ?_).weaken fun learned result _ => ?_
        · rintro user ⟨⟩
          exact may _ theirs
        · cases result <;> exact trivial
      · exact trivial
  · intro error
    cases error with
    | noRows =>
        exact fun seen => ⟨trivial, fun now _ =>
          change_new_private may now unsubscribe seen⟩
    | _ => exact fun _ => trivial

theorem upsert_private (unsubscribe : Unsubscribe)
    (theirs : Collation.equal unsubscribe.userID userID) :
    Private entitled (UnsubscribesRepo.upsert .transaction unsubscribe) := by
  refine private_bind (private_of_shared (Program.only_bind
    (selectOne_only (Or.inl rfl)) fun _ => trivial)) ?_
  rintro ⟨found, err⟩
  have created : Private entitled
      (UnsubscribesRepo.create .transaction unsubscribe) := by
    refine private_bind (private_of_shared (nowTruncated_only trivial)) ?_
    intro now
    refine private_bind (private_insert ?_) ?_
    · rintro user ⟨⟩
      exact may _ theirs
    · intro result seen
      cases result <;> exact trivial
  split
  · exact created
  · exact fun _ => trivial
  · exact fun _ => trivial

theorem destroy_private (unsubscribe : Unsubscribe)
    (theirs : Collation.equal unsubscribe.userID userID) :
    Private entitled (UnsubscribesRepo.destroy .transaction unsubscribe) := by
  rw [UnsubscribesRepo.destroy, UnsubscribesRepo.find, Program.bind_assoc]
  apply private_found
  · intro row seen known wanted
    rw [Bool.and_eq_true, Bool.and_eq_true] at wanted
    have whose := Collation.equal_trans wanted.2 theirs
    change (deleteAll .transaction .unsubscribes [row]).Meets _ _ seen
    apply Program.meets_bind
    refine (meets_delete known ?_).weaken fun learned result _ => ?_
    · rintro user ⟨⟩
      exact may _ whose
    · cases result <;> exact trivial
  · intro error seen
    cases error <;> exact trivial

theorem applyAll_private (preferences : List Services.Preference) :
    Private entitled
      (PreferenceUpdater.applyAll .transaction userID preferences) := by
  induction preferences with
  | nil => exact fun _ => trivial
  | cons preference rest ih =>
      refine private_bind (private_of_shared (changeable_only
        (fun _ => Or.inl rfl) preference)) ?_
      intro checked
      cases checked with
      | some error => exact fun _ => trivial
      | none =>
          have applied : Private entitled (PreferenceUpdater.apply
              .transaction userID preference) := by
            rw [PreferenceUpdater.apply]
            split
            · exact private_bind (upsert_private may _ (Collation.equal_self _))
                fun _ _ => trivial
            · exact private_bind
                (destroy_private may _ (Collation.equal_self _))
                fun _ _ => trivial
          refine private_bind applied ?_
          intro err
          cases err with
          | some error => exact fun _ => trivial
          | none => exact ih

theorem complain_private (library : Library) (texts : Valiant.Texts)
    (body : Body) (unconvertible : String → Objection) :
    Private entitled
      (complain library texts userID body unconvertible) := by
  refine private_bind (private_of_shared (validate_only (fun _ => trivial) _ _
    _ _ _ _)) ?_
  rintro (text | builder)
  · exact fun _ => trivial
  · refine private_bind (private_of_shared (Program.only_perform trivial
      fun _ => clientPreferences_only (fun _ => trivial) _ _)) ?_
    rintro (text | preferences)
    · exact fun _ => trivial
    · refine private_bind (private_of_shared ⟨trivial, fun _ => trivial⟩)
        fun _ => private_bind ?_ fun err => ?_
      · refine private_bind (set_private may _) ?_
        intro err
        cases err with
        | some error => exact fun _ => trivial
        | none => exact applyAll_private may preferences
      · cases err with
        | some error =>
            refine private_of_shared ⟨trivial, fun answer => ?_⟩
            cases answer <;> exact trivial
        | none =>
            refine private_of_shared ⟨trivial, fun answer => ?_⟩
            cases answer <;> exact trivial

end Preferences

/-! ## Requests -/

/-- Whose preferences a request may change: those of a user, and what the
tables do not tell from them. -/
inductive Entitled (mother : Mother) (request : HttpRequest) :
    String → Prop where
  /-- the user's own token -/
  | own {now : Int} {token : Jwt.Token} {userID user : String}
      (passed : (Authenticator.mk ["notification_preferences.write"]
        mother.uaaPublicKey).serveHTTP mother.jwt now request.authorization =
          .passed token)
      (claimed : token.claims.lookup "user_id" = some (.string userID))
      (same : Collation.equal user userID) :
      Entitled mother request user
  /-- an administrator's token, and a path with the user -/
  | administered {now : Int} {userID user : String}
      (bears : Bears mother request now "notification_preferences.admin")
      (addressed : parseGUID request.path = some userID)
      (same : Collation.equal user userID) :
      Entitled mother request user

section Requests

variable {mother : Mother} {request : HttpRequest} {context : Context}

theorem updatePreferences_private {time : Int}
    (passed : Passed mother request ["notification_preferences.write"] time
      context) :
    Private (Entitled mother request)
      (UpdatePreferences.serveHTTP mother request context) := by
  obtain ⟨token, stored, passes⟩ := passed
  rw [UpdatePreferences.serveHTTP, withToken, stored]
  refine private_bind ?_ fun complaint =>
    private_of_shared (patched_only complaint)
  rw [UpdatePreferences.execute, withUserID]
  split
  · exact fun _ => trivial
  · rename_i userID claimed
    exact complain_private (fun _ => .own passes claimed) _ _ _ _
  · exact fun _ => trivial

theorem updateSpecificUserPreferences_private {time : Int}
    (passed : Passed mother request ["notification_preferences.admin"] time
      context) :
    Private (Entitled mother request)
      (UpdateSpecificUserPreferences.serveHTTP mother request context) := by
  refine private_bind ?_ fun complaint =>
    private_of_shared (patched_only complaint)
  rw [UpdateSpecificUserPreferences.execute]
  split
  · exact fun _ => trivial
  · rename_i userID addressed
    exact complain_private (fun _ => .administered passed.bears addressed) _ _
      _ _

theorem serveHTTP_private (router : Router mother) (request : HttpRequest) :
    (router.serveHTTP request).Meets (privacy (Entitled mother request))
      (fun _ _ => True) [] := by
  rw [Router.serveHTTP]
  split
  · trivial
  · trivial
  · rename_i found served
    obtain ⟨_, member, _⟩ := Router.dispatched served
    have listed := router.entries_perm.subset (entry_of_route member).1
    by_cases patching : found.route.name ∈ patches
    · have shared : ∀ ware ∈ [logging,
          requestCounter (namedRoutes methodPaths), cors mother.corsOrigin],
          Transparent ware := by
        simp [logging_transparent, requestCounter_transparent,
          cors_transparent]
      have guarded {handler : Handler} {scopes : List String}
          (handles : ∀ context time,
            Passed mother request scopes time context →
              Private (Entitled mother request) (handler request context)) :
          (Stack.serveHTTP ⟨handler, [logging,
            requestCounter (namedRoutes methodPaths), cors mother.corsOrigin,
            mother.authenticator scopes]⟩ request).Meets
              (privacy (Entitled mother request)) (fun _ _ => True) [] :=
        @guarded_meets _ _ _ _ (fun _ => True) _ _ [logging,
          requestCounter (namedRoutes methodPaths), cors mother.corsOrigin] _
          shared trivial trivial (fun _ => trivial) fun context time passed =>
            Program.meets_attempt (handles context time passed _)
      generalize found.route.name = name at listed patching
      generalize found.route.handler = stack at listed
      simp only [patches, List.mem_cons, List.not_mem_nil, or_false]
        at patching
      simp only [stackMap, List.mem_cons, List.not_mem_nil, or_false,
        Prod.mk.injEq] at listed
      rcases patching with rfl | rfl
      · simp only [String.reduceEq, false_and, false_or, true_and, or_false]
          at listed
        subst listed
        exact guarded fun context _ => updatePreferences_private
      · simp only [String.reduceEq, false_and, false_or, true_and, or_false]
          at listed
        subst listed
        exact guarded fun context _ => updateSpecificUserPreferences_private
    · have behaves := stackMap_behaves mother request
        (requestCounter_transparent _) _ listed
      exact private_of_shared (behaves.shared patching) []

end Requests

/-! ## Runs -/

/-- Every row in the tables has its number to itself. -/
theorem exists_owners (database : Database) :
    ∃ owners : Owners, owners.next = database.tables.autoIncrement ∧
      owners.Of database.tables := by
  refine ⟨⟨fun table number =>
    (((database.tables.rows table).find? fun row =>
      table.primaryKey row == .number number).bind (userOf table)).getD "",
    database.tables.autoIncrement⟩, rfl, ?_⟩
  intro table row member user theirs
  have numbered : ∃ number, table.primaryKey row = .number number := by
    cases table <;> first | exact ⟨_, rfl⟩ | cases theirs
  obtain ⟨number, numbered⟩ := numbered
  refine ⟨number, (database.sound.numbers table row member number
    numbered).2, numbered, ?_⟩
  have found : (database.tables.rows table).find? (fun row =>
      table.primaryKey row == .number number) = some row := by
    cases first : (database.tables.rows table).find? fun row =>
        table.primaryKey row == .number number with
    | none =>
        have missed := List.find?_eq_none.mp first row member
        simp [numbered] at missed
    | some other =>
        have hit := List.find?_some first
        have same := eq_of_beq hit
        rw [(database.sound.primaryKey table).eq_of_mem
          (List.mem_of_find?_eq_some first) member
          (same.trans numbered.symm)]
  simp [found, theirs]

/-- A request on its way that respects the owners. -/
structure Respects (mother : Mother) (owners : Owners)
    (exchange : Exchange) : Prop where
  program : ∃ seen, owners.OfSeen seen ∧
    exchange.program.Meets (privacy (Entitled mother exchange.request))
      (fun _ _ => True) seen
  transaction : ∀ txn ∈ exchange.transaction,
    owners.OfTxn (Entitled mother exchange.request) txn

theorem Respects.mono {mother : Mother} {owners later : Owners}
    (grown : later.Extends owners) {exchange : Exchange}
    (respects : Respects mother owners exchange) :
    Respects mother later exchange := by
  obtain ⟨seen, knows, meets⟩ := respects.program
  exact ⟨⟨seen, fun known member => (knows known member).mono grown, meets⟩,
    fun txn member => (respects.transaction txn member).mono grown⟩

/-- The tables belong to owners, and the requests respect them. -/
structure Peaceful (mother : Mother) (state : State) (owners : Owners) :
    Prop where
  synced : owners.next = state.server.database.tables.autoIncrement
  of : owners.Of state.server.database.tables
  respects : ∀ exchange ∈ state.exchanges, Respects mother owners exchange

/-- Nobody's preferences have changed who has not agreed to it. -/
def Output.Private (mother : Mother) (output : Output) : Prop :=
  ∀ user table, about user output.after.database.tables table ≠
      about user output.before.database.tables table →
    Entitled mother output.request user

theorem step_private {mother : Mother} {router : Router mother}
    {state next : State} {event : Event} {shown : List Output}
    {owners : Owners} (peaceful : Peaceful mother state owners)
    (stepped : (system router).step state event = some (next, shown)) :
    (∃ later, Peaceful mother next later) ∧
      ∀ output ∈ shown, output.Private mother := by
  obtain ⟨request, rfl, rfl, rfl⟩ | ⟨index, environment, exchange, op, rest,
    answer, transaction, server, rfl, called, rfl, rfl⟩ := step_cases stepped
  · refine ⟨⟨owners, peaceful.synced, peaceful.of, fun exchange member => ?_⟩,
      by simp⟩
    rcases List.mem_append.mp member with old | new
    · exact peaceful.respects exchange old
    · rw [List.mem_singleton.mp new]
      exact ⟨⟨[], by simp [Owners.OfSeen], serveHTTP_private router request⟩,
        by simp [Exchange.arrived]⟩
  · have held := peaceful.respects exchange
      (List.mem_of_getElem? called.present)
    obtain ⟨seen, knows, meets⟩ := held.program
    rw [called.running] at meets
    obtain ⟨later, left⟩ := Effect.left (call_effect called.called)
      peaceful.synced peaceful.of held.transaction knows meets.1
    obtain ⟨possible, learned⟩ := call_answers peaceful.of held.transaction
      knows called.called
    refine ⟨⟨later, left.synced, left.of, fun other member => ?_⟩,
      fun output member => ?_⟩
    · rcases List.mem_or_eq_of_mem_set member with old | rfl
      · exact (peaceful.respects other old).mono left.grown
      · exact ⟨⟨_, fun known listed => (learned known listed).mono left.grown,
          meets.2 answer possible⟩, left.txns⟩
    · rw [List.mem_singleton.mp member]
      intro user table differs
      by_contra others
      exact differs (left.others user others table)

/-- Whatever requests are served next to each other: what is stored about a
user's preferences changes only in a call of a request with the user's own
token, or of an administrator's with the user in the path. -/
theorem preferences_are_private {mother : Mother} (router : Router mother)
    (server : Server) (events : List Event) (final : State)
    (trace : List Output)
    (ran : (system router).run events ⟨server, []⟩ = some (final, trace)) :
    ∀ output ∈ trace, ∀ user table,
      about user output.after.database.tables table ≠
          about user output.before.database.tables table →
        Entitled mother output.request user := by
  obtain ⟨owners, synced, of⟩ := exists_owners server.database
  have safe := (system router).run_invariant (fun _ _ => True)
    (fun trace state => (∃ owners, Peaceful mother state owners) ∧
      ∀ output ∈ trace, output.Private mother) ?_ events [] _ final trace
    ⟨⟨owners, synced, of, by simp⟩, by simp⟩
    ((system router).guarded_of_forall (fun _ _ _ => trivial) _) ran
  · exact safe.2
  · rintro before state event next shown ⟨⟨owners, peaceful⟩, fine⟩ _ stepped
    obtain ⟨kept, now⟩ := step_private peaceful stepped
    refine ⟨kept, fun output member => ?_⟩
    rcases List.mem_append.mp member with earlier | new
    · exact fine output earlier
    · exact now output new

end Collated

attribute [local instance] Collation.binary

def samplePatching : HttpRequest where
  method := "PATCH"
  path := "/user_preferences"
  rawQuery := ""
  authorization := sampleAuthorization
  body := ⟨some (.object [("global_unsubscribe", .bool true)]), false⟩
  empty := false
  nothing := by simp

theorem samplePatching_served : sampleRouter.serveHTTP samplePatching =
    .call .now fun _ => Program.recover (fun _ => Stack.recovered)
      (Stack.through (UpdatePreferences.serveHTTP sampleMother) samplePatching
        [] ⟨some sampleSegments.token⟩
        ⟨200, [("Access-Control-Allow-Origin", "*"),
          ("Access-Control-Allow-Methods", "GET, PATCH"),
          ("Access-Control-Allow-Headers",
            "Accept, Authorization, Content-Type")], []⟩) := by
  rw [@Router.serveHTTP_counted _ _ sampleRouter samplePatching
    "PATCH /user_preferences" (UpdatePreferences.serveHTTP sampleMother)
    [cors sampleMother.corsOrigin,
      sampleMother.authenticator ["notification_preferences.write"]]
    (@List.mem_of_getElem? _ _ 15 _ rfl) (by decide +kernel)
    (by decide +kernel), Stack.through_cors,
    through_sampleAuthenticator rfl (by decide +kernel)]
  rfl

theorem own_token_changes_preferences :
    ∃ final trace, (system sampleRouter).run
        (.arrive samplePatching :: List.replicate 8 (.call 0 .calm))
        ⟨sampleServer, []⟩ = some (final, trace) ∧
      ∃ output ∈ trace,
        about "user" output.after.database.tables .globalUnsubscribes ≠
            about "user" output.before.database.tables .globalUnsubscribes ∧
          Entitled sampleMother output.request "user" := by
  have changes : (((system sampleRouter).run
      (.arrive samplePatching :: List.replicate 8 (.call 0 .calm))
      ⟨sampleServer, []⟩).any fun result => result.2.any fun output =>
        decide (about "user" output.after.database.tables
            .globalUnsubscribes ≠
          about "user" output.before.database.tables
            .globalUnsubscribes)) = true := by
    rw [run_arrive samplePatching_served]
    decide +kernel
  obtain ⟨⟨final, trace⟩, ran, changes⟩ := (Option.any_eq_true _ _).mp changes
  obtain ⟨output, member, differs⟩ := List.any_eq_true.mp changes
  have differs := of_decide_eq_true differs
  exact ⟨final, trace, ran, output, member, differs,
    preferences_are_private sampleRouter sampleServer _ final trace ran output
      member "user" .globalUnsubscribes differs⟩

end Notifications.Web.Serving
