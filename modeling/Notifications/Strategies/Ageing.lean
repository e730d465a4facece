import Notifications.Models.Storing
import Notifications.Postal.MessageGC
import Notifications.Strategies.Dating
import Notifications.Strategies.Reporting

/-!
# How old the row of a message can be

Once the job of a message is enqueued, whatever is written to the row of the
message carries a later time, up to the fractions of a second.  So the row is
as old as the job at most, and the collector deletes it only when the job has
been there for its lifetime.  `start` is the time of the `Enqueue`, if there
was one.
-/

set_option autoImplicit false

namespace Notifications.Strategies

open Notifications.Lib Notifications.Models Notifications.Postal

def Recent (start : Option Int) (updatedAt : Int) : Prop :=
  ∃ time, start = some time ∧ time - time % 1000000000 ≤ updatedAt

/-- The collector may delete what was written when the job was enqueued. -/
def Late (start : Option Int) (now : Int) : Prop :=
  ∃ time, start = some time ∧
    time - time % 1000000000 < startMessageGC.threshold now

variable [Collation]

def Present (messageID : String) (start : Option Int) (now : Int)
    (database : Database) : Prop :=
  (database.tables.message messageID).isSome = true ∨ Late start now

def Wrote (messageID : String) (transaction : Option Txn) : Prop :=
  ∃ txn, transaction = some txn ∧ txn.wrote messageID = true

omit [Collation] in
theorem Late.later {start : Option Int} {now later : Int}
    (late : Late start now) (passed : now ≤ later) : Late start later := by
  obtain ⟨time, enqueued, old⟩ := late
  refine ⟨time, enqueued, ?_⟩
  simp only [MessageGC.threshold] at old ⊢
  omega

omit [Collation] in
theorem recent_of_le {start : Option Int} {time read : Int}
    (enqueued : start = some time) (passed : time ≤ read) :
    Recent start (read - read % 1000000000) :=
  ⟨time, enqueued, by omega⟩

/-! ## What is written to one row -/

/-- What a change of the tables leaves of one row. -/
structure Keeps (messageID : String) (start : Option Int) (now : Int)
    (before after : Database) : Prop where
  stored : ∀ row, after.tables.message messageID = some row →
    before.tables.message messageID = some row ∨ Recent start row.updatedAt
  present : Present messageID start now before →
    Present messageID start now after

/-- A statement that writes recent times to the row, and does not delete it. -/
def Refreshes (messageID : String) (start : Option Int) : Statement → Prop
  | .insert .messages row => row.id = messageID → Recent start row.updatedAt
  | .update .messages row => row.id = messageID → Recent start row.updatedAt
  | .delete .messages row => row.id ≠ messageID
  | _ => True

section Rows

variable {messageID : String} {start : Option Int} {now : Int}
  {database before after : Database}

theorem keeps_of_same (same : after.tables.message messageID =
    before.tables.message messageID) :
    Keeps messageID start now before after := by
  constructor
  · intro row found
    rw [same] at found
    exact .inl found
  · intro present
    rw [Present, same]
    exact present

theorem Keeps.trans {first second third : Database}
    (one : Keeps messageID start now first second)
    (other : Keeps messageID start now second third) :
    Keeps messageID start now first third := by
  constructor
  · intro row found
    rcases other.stored row found with old | recent
    · exact one.stored row old
    · exact .inr recent
  · intro present
    exact other.present (one.present present)

/-- The row is there, and as it was or newly written. -/
theorem keeps_of_written {row : Message} (recent : Recent start row.updatedAt)
    (found : after.tables.message messageID = some row) :
    Keeps messageID start now before after := by
  constructor
  · intro stored same
    rw [found, Option.some.injEq] at same
    rw [← same]
    exact .inr recent
  · intro _
    rw [Present, found]
    exact .inl rfl

theorem insert_keeps {row : Message}
    (recent : row.id = messageID → Recent start row.updatedAt) :
    Keeps messageID start now database
      (database.execute (.insert .messages row)).2 := by
  cases free : database.tables.message row.id with
  | none =>
      have found := (database.insert_message row free).2 messageID
      by_cases own : messageID = row.id
      · rw [if_pos own] at found
        exact keeps_of_written (recent own.symm) found
      · rw [if_neg own] at found
        exact keeps_of_same found
  | some old =>
      have clash : database.tables.clashes .messages row = true := by
        rw [Tables.clashes_messages, free]
        rfl
      apply keeps_of_same
      simp only [Database.execute, Statement.execute, clash, if_true]

theorem update_keeps {row : Message}
    (recent : row.id = messageID → Recent start row.updatedAt) :
    Keeps messageID start now database
      (database.execute (.update .messages row)).2 := by
  have found := (database.update_message row).2 messageID
  by_cases own : messageID = row.id
  · rw [if_pos own] at found
    cases stored : database.tables.message messageID with
    | none =>
        rw [stored] at found
        exact keeps_of_same (found.trans stored.symm)
    | some old =>
        rw [stored] at found
        exact keeps_of_written (recent own.symm) found
  · rw [if_neg own] at found
    exact keeps_of_same found

theorem delete_keeps {row : Message} (other : row.id ≠ messageID) :
    Keeps messageID start now database
      (database.execute (.delete .messages row)).2 := by
  apply keeps_of_same
  have looked := @Tables.Sound.lookup_delete _ _ .messages database.sound row
    [messageID]
  rw [Tables.message, Tables.message]
  refine looked.trans ?_
  cases found : database.tables.lookup .messages [messageID] with
  | none => rfl
  | some stored =>
      have keyed := (database.sound.lookup_iff.mp found).2
      have missed : Tables.hits .messages row stored = false := by
        simp only [Table.uniqueKey, List.cons.injEq, and_true] at keyed
        simpa [Tables.hits, Table.primaryKey, keyed] using Ne.symm other
      simp [missed]

theorem execute_keeps {statement : Statement}
    (refreshes : Refreshes messageID start statement) :
    Keeps messageID start now database (database.execute statement).2 := by
  by_cases foreign : statement.table = .messages
  · cases statement with
    | select table wanted => exact keeps_of_same rfl
    | insert table row =>
        cases foreign
        exact insert_keeps refreshes
    | update table row =>
        cases foreign
        exact update_keeps refreshes
    | delete table row =>
        cases foreign
        exact delete_keeps refreshes
    | upsertReceipt receipt => cases foreign
    | selectPreferences userGUID => cases foreign
  · exact keeps_of_same (message_of_execute_other database foreign messageID)

/-! ## The commit -/

theorem store_keeps {row : Message}
    (recent : row.id = messageID → Recent start row.updatedAt) :
    Keeps messageID start now database (store database row) := by
  rw [store]
  split
  · exact update_keeps recent
  · exact insert_keeps recent

theorem stores_keep (writes : List Message)
    (recent : ∀ row ∈ writes, row.id = messageID →
      Recent start row.updatedAt) :
    Keeps messageID start now database (writes.foldl store database) := by
  induction writes generalizing database with
  | nil => exact keeps_of_same rfl
  | cons first rest ih =>
      refine (store_keeps (recent first (.head rest))).trans ?_
      exact ih fun row member => recent row (.tail first member)

theorem store_found (row : Message) :
    (store database row).tables.message row.id = some row := by
  rw [store]
  split
  · rename_i there
    obtain ⟨old, found⟩ := Option.isSome_iff_exists.mp there
    rw [(database.update_message row).2, if_pos rfl, found]
    rfl
  · rename_i absent
    have free : database.tables.message row.id = none := by
      simpa using absent
    rw [(database.insert_message row free).2, if_pos rfl]

theorem store_isSome {row : Message}
    (there : (database.tables.message messageID).isSome = true) :
    ((store database row).tables.message messageID).isSome = true := by
  by_cases own : row.id = messageID
  · rw [← own, store_found]
    rfl
  · rw [store_other database row own]
    exact there

theorem stores_isSome (writes : List Message)
    (there : (database.tables.message messageID).isSome = true) :
    ((writes.foldl store database).tables.message messageID).isSome =
      true := by
  induction writes generalizing database with
  | nil => exact there
  | cons first rest ih => exact ih (store_isSome there)

/-- What the transaction has written is there after its commit. -/
theorem stores_written {writes : List Message}
    (wrote : ∃ row ∈ writes, row.id = messageID) :
    ((writes.foldl store database).tables.message messageID).isSome =
      true := by
  induction writes generalizing database with
  | nil =>
      obtain ⟨_, wrong, _⟩ := wrote
      cases wrong
  | cons first rest ih =>
      obtain ⟨row, member, own⟩ := wrote
      rcases List.mem_cons.mp member with same | later
      · refine stores_isSome rest ?_
        rw [← own, same, store_found]
        rfl
      · exact ih ⟨row, later, own⟩

/-! ## The collector -/

/-- The collector deletes a recent row only when it is late. -/
theorem deleteBefore_keeps {threshold : Int}
    (stored : ∀ row, database.tables.message messageID = some row →
      Recent start row.updatedAt)
    (past : threshold ≤ startMessageGC.threshold now) :
    Keeps messageID start now database (database.deleteBefore threshold) := by
  constructor
  · intro row found
    exact .inl (Database.deleteBefore_message found)
  · intro present
    rcases present with there | late
    · obtain ⟨row, found⟩ := Option.isSome_iff_exists.mp there
      cases kept :
          (database.deleteBefore threshold).tables.message messageID with
      | some row =>
          rw [Present, kept]
          exact .inl rfl
      | none =>
          have old := Database.deleteBefore_deleted found kept
          obtain ⟨time, enqueued, recent⟩ := stored row found
          exact .inr ⟨time, enqueued, by omega⟩
    · exact .inr late

end Rows

/-! ## What holds of the row, and what is known about it -/

/-- The row is recent wherever it is, and a snapshot has it only if the tables
do. -/
structure Young (messageID : String) (start : Option Int) (now : Int)
    (database : Database) (transaction : Option Txn) : Prop where
  stored : ∀ row, database.tables.message messageID = some row →
    Recent start row.updatedAt
  written : ∀ txn, transaction = some txn → ∀ row ∈ txn.writes,
    row.id = messageID → Recent start row.updatedAt
  snapshot : ∀ txn rows, transaction = some txn → txn.snapshot = some rows →
    ∀ row ∈ rows, row.id = messageID → Present messageID start now database

/-- The times that a program knows were read after the `Enqueue`. -/
def Aware (start : Option Int) (progress : Progress) : Prop :=
  ∀ times, progress.times = some times →
    ∃ time, start = some time ∧ ∀ read ∈ times, time ≤ read

structure Knows (messageID : String) (start : Option Int) (now : Int)
    (database : Database) (transaction : Option Txn)
    (progress : Progress) : Prop where
  aware : Aware start progress
  enqueued : start ≠ none → progress.times ≠ none
  found : progress.found = true →
    Present messageID start now database ∨ Wrote messageID transaction
  written : progress.written = true →
    Late start now ∨ Wrote messageID transaction
  committed : progress.committed = true →
    Present messageID start now database

section Facts

variable {messageID : String} {start after : Option Int} {now moment : Int}
  {database changed : Database} {transaction : Option Txn}
  {progress : Progress}

theorem Present.later (present : Present messageID start now database)
    (passed : now ≤ moment) : Present messageID start moment database := by
  rcases present with there | late
  · exact .inl there
  · exact .inr (late.later passed)

omit [Collation] in
theorem not_recent_none (updatedAt : Int) : ¬ Recent none updatedAt := by
  intro recent
  obtain ⟨_, wrong, _⟩ := recent
  cases wrong

theorem Young.not_present
    (young : Young messageID none now database transaction) :
    ¬ Present messageID none now database := by
  intro present
  rcases present with there | ⟨_, wrong, _⟩
  · obtain ⟨row, found⟩ := Option.isSome_iff_exists.mp there
    exact not_recent_none _ (young.stored row found)
  · cases wrong

theorem Young.not_wrote
    (young : Young messageID none now database transaction) :
    ¬ Wrote messageID transaction := by
  intro wrote
  obtain ⟨txn, begun, wrote⟩ := wrote
  obtain ⟨row, member, own⟩ := List.any_eq_true.mp wrote
  exact not_recent_none _
    (young.written txn begun row member (eq_of_beq own))

/-- Time passes, or the job is enqueued for the first time. -/
theorem Young.later (young : Young messageID start now database transaction)
    (same : after = start ∨ start = none) (passed : now ≤ moment) :
    Young messageID after moment database transaction := by
  rcases same with rfl | rfl
  · refine ⟨young.stored, young.written, ?_⟩
    intro txn rows begun taken row member own
    exact (young.snapshot txn rows begun taken row member own).later passed
  · constructor
    · intro row found
      exact absurd (young.stored row found) (not_recent_none _)
    · intro txn begun row member own
      exact absurd (young.written txn begun row member own)
        (not_recent_none _)
    · intro txn rows begun taken row member own
      exact absurd (young.snapshot txn rows begun taken row member own)
        young.not_present

omit [Collation] in
theorem Aware.later (aware : Aware start progress)
    (same : after = start ∨ start = none) : Aware after progress := by
  rcases same with rfl | rfl
  · exact aware
  · intro times read
    obtain ⟨_, wrong, _⟩ := aware times read
    cases wrong

theorem Knows.later
    (knows : Knows messageID start now database transaction progress)
    (passed : now ≤ moment) :
    Knows messageID start moment database transaction progress := by
  refine ⟨knows.aware, knows.enqueued, ?_, ?_, ?_⟩
  · intro found
    rcases knows.found found with present | wrote
    · exact .inl (present.later passed)
    · exact .inr wrote
  · intro written
    rcases knows.written written with late | wrote
    · exact .inl (late.later passed)
    · exact .inr wrote
  · intro committed
    exact (knows.committed committed).later passed

/-- The mailer enqueues the job: it knew nothing before. -/
theorem Knows.enqueue
    (young : Young messageID none now database transaction)
    (knows : Knows messageID none now database transaction progress) :
    Knows messageID (some now) now database transaction
      progress.enqueued := by
  constructor
  · intro times read
    cases read
    refine ⟨now, rfl, ?_⟩
    intro time wrong
    cases wrong
  · intro _ wrong
    cases wrong
  · intro found
    rcases knows.found found with present | wrote
    · exact absurd present young.not_present
    · exact absurd wrote young.not_wrote
  · intro written
    rcases knows.written written with ⟨_, wrong, _⟩ | wrote
    · cases wrong
    · exact .inr wrote
  · intro committed
    exact absurd (knows.committed committed) young.not_present

theorem Young.change (young : Young messageID start now database transaction)
    (keeps : Keeps messageID start now database changed) :
    Young messageID start now changed transaction := by
  refine ⟨?_, young.written, ?_⟩
  · intro row found
    rcases keeps.stored row found with old | recent
    · exact young.stored row old
    · exact recent
  · intro txn rows begun taken row member own
    exact keeps.present (young.snapshot txn rows begun taken row member own)

theorem Knows.change
    (knows : Knows messageID start now database transaction progress)
    (keeps : Keeps messageID start now database changed) :
    Knows messageID start now changed transaction progress := by
  refine ⟨knows.aware, knows.enqueued, ?_, knows.written, ?_⟩
  · intro found
    rcases knows.found found with present | wrote
    · exact .inl (keeps.present present)
    · exact .inr wrote
  · intro committed
    exact keeps.present (knows.committed committed)

end Facts

/-! ## What the calls do -/

section Calls

variable {carries : String → Bool} {messageID : String} {start : Option Int}
  {now : Int} {state after : State} {environment : Environment}
  {progress : Progress}

omit [Collation] in
theorem Aware.recent (aware : Aware start progress) {updatedAt : Int}
    (dated : progress.Dated updatedAt) : Recent start updatedAt := by
  obtain ⟨times, known, read, member, rfl⟩ := dated
  obtain ⟨time, enqueued, earlier⟩ := aware times known
  exact recent_of_le enqueued (earlier read member)

omit [Collation] in
theorem Aware.reads (aware : Aware start progress)
    (past : ∀ time, start = some time → time ≤ now) :
    Aware start (progress.reads now) := by
  intro times known
  obtain ⟨earlier, read, rfl⟩ := Option.map_eq_some_iff.mp known
  obtain ⟨time, enqueued, all⟩ := aware earlier read
  refine ⟨time, enqueued, ?_⟩
  intro shown member
  rcases List.mem_cons.mp member with rfl | old
  · exact past time enqueued
  · exact all shown old

omit [Collation] in
theorem refreshes_of_may {used conn : Conn} {statement : Statement}
    (aware : Aware start progress)
    (may : (datingContract carries messageID conn).may progress
      (.sql used statement)) : Refreshes messageID start statement := by
  cases statement with
  | insert table row =>
      cases table with
      | messages => exact fun own => aware.recent (may.2 own)
      | _ => trivial
  | update table row =>
      cases table with
      | messages => exact fun own => aware.recent (may.2 own).1
      | _ => trivial
  | delete table row =>
      cases table with
      | messages => exact may.elim
      | _ => trivial
  | select table wanted => trivial
  | upsertReceipt receipt => trivial
  | selectPreferences userGUID => trivial

omit [Collation] in
/-- Statements do not change which times a program knows. -/
theorem aware_of_sql {used conn : Conn} {statement : Statement}
    {answer : Reply statement.Result} (aware : Aware start progress) :
    Aware start ((datingContract carries messageID conn).learn progress
      (.sql used statement) answer) := by
  cases statement with
  | select table wanted => cases table <;> cases answer <;> exact aware
  | insert table row => cases table <;> cases answer <;> exact aware
  | update table row => cases table <;> cases answer <;> exact aware
  | delete table row => exact aware
  | upsertReceipt receipt => exact aware
  | selectPreferences userGUID => exact aware

theorem direct_keeps {statement : Statement} {answer : Reply statement.Result}
    (refreshes : Refreshes messageID start statement)
    (called : state.direct environment statement = some (answer, after)) :
    Keeps messageID start now state.database after.database ∧
      after.transaction = state.transaction := by
  rcases direct_cases called with ⟨text, _, rfl⟩ | ⟨_, _, rfl⟩
  · exact ⟨keeps_of_same rfl, rfl⟩
  · exact ⟨execute_keeps refreshes, rfl⟩

/-- The answer to a lookup is among the rows that were asked for. -/
theorem direct_possible {conn : Conn} {statement : Statement}
    {answer : Reply statement.Result}
    (called : state.direct environment statement = some (answer, after)) :
    (datingContract carries messageID conn).possible
      (.sql .connection statement) answer := by
  rcases direct_cases called with ⟨text, rfl, _⟩ | ⟨_, rfl, _⟩
  · cases statement with
    | select table wanted => cases table <;> trivial
    | _ => trivial
  · cases statement with
    | select table wanted =>
        cases table with
        | messages =>
            intro row member
            exact (List.mem_filter.mp member).2
        | _ => trivial
    | _ => trivial

theorem workerCall_keeps {op : Op} {answer : Answer op}
    (aware : Aware start progress)
    (past : ∀ time, start = some time → time ≤ now)
    (clock : environment.clock 0 = now)
    (may : (datingContract carries messageID .connection).may progress op)
    (called : state.workerCall environment op = some (answer, after)) :
    (datingContract carries messageID .connection).possible op answer ∧
      Aware start ((datingContract carries messageID .connection).learn
        progress op answer) ∧
      Keeps messageID start now state.database after.database := by
  cases op with
  | sql conn statement =>
      cases conn with
      | connection =>
          have refreshes := refreshes_of_may aware may
          exact ⟨direct_possible called, aware_of_sql aware,
            (direct_keeps refreshes called).1⟩
      | transaction =>
          cases called
          refine ⟨?_, aware_of_sql aware, keeps_of_same rfl⟩
          cases statement with
          | select table wanted => cases table <;> trivial
          | _ => trivial
  | now =>
      cases called
      rw [clock]
      exact ⟨trivial, aware.reads past, keeps_of_same rfl⟩
  | service service =>
      cases called
      exact ⟨trivial, aware, keeps_of_same rfl⟩
  | iterate keys =>
      cases called
      exact ⟨trivial, aware, keeps_of_same rfl⟩
  | begin => cases called
  | commit => cases called
  | rollback => cases called
  | enqueue job => cases called

/-! ## The transaction -/

section Transaction

variable {database : Database} {transaction later : Option Txn} {txn : Txn}

theorem Knows.transact
    (knows : Knows messageID start now database transaction progress)
    (wrote : Wrote messageID transaction → Wrote messageID later) :
    Knows messageID start now database later progress := by
  refine ⟨knows.aware, knows.enqueued, ?_, ?_, knows.committed⟩
  · intro found
    rcases knows.found found with present | there
    · exact .inl present
    · exact .inr (wrote there)
  · intro written
    rcases knows.written written with late | there
    · exact .inl late
    · exact .inr (wrote there)

theorem Knows.sees
    (knows : Knows messageID start now database transaction progress)
    {own : Bool} (seen : own = true →
      Present messageID start now database ∨ Wrote messageID transaction) :
    Knows messageID start now database transaction (progress.sees own) := by
  refine ⟨knows.aware, knows.enqueued, ?_, knows.written, knows.committed⟩
  intro found
  rcases Bool.or_eq_true_iff.mp found with before | here
  · exact knows.found before
  · exact seen here

theorem Knows.writes
    (knows : Knows messageID start now database transaction progress)
    {own : Bool} (wrote : own = true →
      Late start now ∨ Wrote messageID transaction) :
    Knows messageID start now database transaction (progress.writes own) := by
  refine ⟨knows.aware, knows.enqueued, knows.found, ?_, knows.committed⟩
  intro written
  rcases Bool.or_eq_true_iff.mp written with before | here
  · exact knows.written before
  · exact wrote here

theorem Knows.closed
    (knows : Knows messageID start now database transaction progress) :
    Knows messageID start now database later progress.closed := by
  refine ⟨knows.aware, knows.enqueued, ?_, ?_, knows.committed⟩
  · intro wrong
    cases wrong
  · intro wrong
    cases wrong

/-- Without writes and a snapshot, a transaction has nothing of the row. -/
theorem Young.reset
    (young : Young messageID start now database transaction)
    (empty : later = none ∨ later = some .opened) :
    Young messageID start now database later := by
  refine ⟨young.stored, ?_, ?_⟩
  · intro txn begun row member
    rcases empty with rfl | rfl
    · cases begun
    · cases begun
      cases member
  · intro txn rows begun taken
    rcases empty with rfl | rfl
    · cases begun
    · cases begun
      cases taken

/-- What the transaction sees of the row is there, or its own. -/
theorem Young.seen
    (young : Young messageID start now database (some txn)) {row : Message}
    (member : row ∈ txn.rows database.tables) (own : row.id = messageID) :
    Present messageID start now database ∨ Wrote messageID (some txn) := by
  rcases List.mem_append.mp member with seen | written
  · left
    have there := (List.mem_filter.mp seen).1
    cases taken : txn.snapshot with
    | some rows =>
        rw [taken, Option.getD_some] at there
        exact young.snapshot txn rows rfl taken row there own
    | none =>
        rw [taken, Option.getD_none] at there
        left
        rw [Tables.message_eq, List.find?_isSome]
        exact ⟨row, there, by simpa using own⟩
  · exact .inr ⟨txn, rfl, own ▸ wrote_of_mem written⟩

theorem Young.select
    (young : Young messageID start now database (some txn)) :
    Young messageID start now database (some { txn with
      snapshot := some (txn.snapshot.getD (database.tables.rows .messages)) })
      where
  stored := young.stored
  written := by
    intro _ begun row member own
    cases begun
    exact young.written txn rfl row member own
  snapshot := by
    intro _ rows begun taken row member own
    cases begun
    cases taken
    cases before : txn.snapshot with
    | some old =>
        rw [before, Option.getD_some] at member
        exact young.snapshot txn old rfl before row member own
    | none =>
        rw [before, Option.getD_none] at member
        left
        rw [Tables.message_eq, List.find?_isSome]
        exact ⟨row, member, by simpa using own⟩

theorem Young.record
    (young : Young messageID start now database (some txn)) {row : Message}
    (recent : row.id = messageID → Recent start row.updatedAt) :
    Young messageID start now database (some (txn.record row)) where
  stored := young.stored
  written := by
    intro _ begun other member own
    cases begun
    rcases mem_record member with old | rfl
    · exact young.written txn rfl other old own
    · exact recent own
  snapshot := by
    intro _ rows begun taken
    cases begun
    exact young.snapshot txn rows rfl taken

omit [Collation] in
theorem wrote_record (row : Message) :
    (txn.record row).wrote row.id = true := by
  apply wrote_of_mem
  simp [Txn.record]

omit [Collation] in
theorem Wrote.record (wrote : Wrote messageID (some txn)) (row : Message) :
    Wrote messageID (some (txn.record row)) := by
  obtain ⟨_, begun, wrote⟩ := wrote
  cases begun
  by_cases own : row.id = messageID
  · exact ⟨_, rfl, own ▸ wrote_record row⟩
  · obtain ⟨old, member, same⟩ := List.any_eq_true.mp wrote
    have other : (old.id != row.id) = true := by
      rw [eq_of_beq same]
      simpa using Ne.symm own
    refine ⟨_, rfl, List.any_eq_true.mpr ⟨old, ?_, same⟩⟩
    exact List.mem_append_left _ (List.mem_filter.mpr ⟨member, other⟩)

end Transaction

structure MailerKeeps (carries : String → Bool) (messageID : String)
    (start : Option Int) (now : Int) (progress : Progress) (op : Op)
    (answer : Answer op) (after : State) : Prop where
  possible : (datingContract carries messageID .transaction).possible op answer
  young : Young messageID start now after.database after.transaction
  knows : Knows messageID start now after.database after.transaction
    ((datingContract carries messageID .transaction).learn progress op answer)

omit [Collation] in
/-- A statement about another table, or one that is refused, teaches
nothing. -/
theorem sql_teaches_nothing {conn used : Conn} {statement : Statement}
    {answer : Reply statement.Result}
    (nothing : statement.table ≠ .messages ∨ ∀ value, answer ≠ .ok value) :
    (datingContract carries messageID conn).possible (.sql used statement)
        answer ∧
      (datingContract carries messageID conn).learn progress
        (.sql used statement) answer = progress := by
  cases answer with
  | ok value =>
      have foreign : statement.table ≠ .messages := by
        rcases nothing with foreign | refused
        · exact foreign
        · exact absurd rfl (refused value)
      cases statement with
      | select table wanted =>
          cases table with
          | messages => exact absurd rfl foreign
          | _ => exact ⟨trivial, rfl⟩
      | insert table row =>
          cases table with
          | messages => exact absurd rfl foreign
          | _ => exact ⟨trivial, rfl⟩
      | update table row =>
          cases table with
          | messages => exact absurd rfl foreign
          | _ => exact ⟨trivial, rfl⟩
      | _ => exact ⟨trivial, rfl⟩
  | _ =>
      cases statement with
      | select table wanted => cases table <;> exact ⟨trivial, rfl⟩
      | insert table row => cases table <;> exact ⟨trivial, rfl⟩
      | update table row => cases table <;> exact ⟨trivial, rfl⟩
      | _ => exact ⟨trivial, rfl⟩

section MailerCalls

variable (young : Young messageID start now state.database state.transaction)
  (knows : Knows messageID start now state.database state.transaction
    progress)

include young knows

theorem direct_knows {statement : Statement} {answer : Reply statement.Result}
    (may : (datingContract carries messageID .transaction).may progress
      (.sql .connection statement))
    (called : state.direct environment statement = some (answer, after)) :
    MailerKeeps carries messageID start now progress
      (.sql .connection statement) answer after := by
  have foreign : statement.table ≠ .messages := by
    intro own
    cases statement with
    | select table wanted =>
        cases own
        cases may
    | insert table row =>
        cases own
        cases may.1
    | update table row =>
        cases own
        cases may.1
    | delete table row =>
        cases own
        exact may
    | upsertReceipt receipt => cases own
    | selectPreferences userGUID => cases own
  have refreshes := refreshes_of_may knows.aware may
  obtain ⟨keeps, same⟩ := @direct_keeps _ messageID start now state after
    environment statement answer refreshes called
  obtain ⟨possible, learnt⟩ := @sql_teaches_nothing carries messageID progress
    .transaction .connection statement answer (.inl foreign)
  refine ⟨possible, ?_, ?_⟩
  · rw [same]
    exact young.change keeps
  · rw [same, learnt]
    exact knows.change keeps

theorem inTxn_knows {statement : Statement} {answer : Reply statement.Result}
    (may : (datingContract carries messageID .transaction).may progress
      (.sql .transaction statement))
    (called : state.inTxn environment statement = some (answer, after)) :
    MailerKeeps carries messageID start now progress
      (.sql .transaction statement) answer after := by
  have refreshes := refreshes_of_may knows.aware may
  rcases inTxn_cases called with
    ⟨refused, rfl⟩ | ⟨txn, result, later, begun, executed, rfl, rfl⟩
  · obtain ⟨possible, learnt⟩ := @sql_teaches_nothing carries messageID
      progress .transaction .transaction statement answer (.inr refused)
    refine ⟨possible, young, ?_⟩
    rw [learnt]
    exact knows
  rw [begun] at young knows
  cases statement with
  | select table wanted =>
      cases table with
      | messages =>
          cases executed
          refine ⟨?_, young.select, ?_⟩
          · intro row member
            exact (List.mem_filter.mp member).2
          · refine (knows.sees ?_).transact ?_
            · intro some
              obtain ⟨row, member, own⟩ := List.any_eq_true.mp some
              exact young.seen (List.mem_filter.mp member).1 (eq_of_beq own)
            · intro wrote
              obtain ⟨_, same, wrote⟩ := wrote
              cases same
              exact ⟨_, rfl, wrote⟩
      | _ => cases executed
  | insert table row =>
      cases table with
      | messages =>
          simp only [Txn.execute] at executed
          split at executed
          · cases executed
            exact ⟨trivial, young, knows⟩
          · cases executed
            refine ⟨trivial, young.record refreshes, ?_⟩
            refine (knows.transact fun wrote => wrote.record row).writes ?_
            intro own
            exact .inr ⟨_, rfl, eq_of_beq own ▸ wrote_record row⟩
      | _ => cases executed
  | update table row =>
      cases table with
      | messages =>
          simp only [Txn.execute] at executed
          split at executed
          · cases executed
            refine ⟨trivial, young.record refreshes, ?_⟩
            refine (knows.transact fun wrote => wrote.record row).writes ?_
            intro own
            exact .inr ⟨_, rfl, eq_of_beq own ▸ wrote_record row⟩
          · rename_i free
            cases executed
            refine ⟨trivial, young, knows.writes ?_⟩
            -- the row that was seen is gone, so it was deleted
            intro own
            have same : row.id = messageID := eq_of_beq own
            simp only [Txn.occupied, same, Bool.or_eq_true, not_or,
              Bool.not_eq_true] at free
            rcases knows.found (may.2 same).2 with present | wrote
            · rcases present with there | late
              · rw [free.2] at there
                cases there
              · exact .inl late
            · exact .inr wrote
      | _ => cases executed
  | delete table row => cases executed
  | upsertReceipt receipt => cases executed
  | selectPreferences userGUID => cases executed

theorem commit_knows {answer : Reply Unit}
    (called : state.mailerCall environment .commit = some (answer, after)) :
    MailerKeeps carries messageID start now progress .commit answer after := by
  simp only [State.mailerCall] at called
  split at called
  · cases called
    exact ⟨trivial, young, knows.closed⟩
  · rename_i txn begun
    split at called
    · cases called
      exact ⟨trivial, young.reset (.inl rfl), knows.closed⟩
    · cases called
      rw [begun] at young knows
      have keeps : Keeps messageID start now state.database
          (txn.writes.foldl store state.database) :=
        stores_keep txn.writes (young.written txn rfl)
      refine ⟨trivial, (young.change keeps).reset (.inl rfl), ?_⟩
      have closed : Knows messageID start now
          (txn.writes.foldl store state.database) none progress.closed :=
        (knows.change keeps).closed
      refine ⟨closed.aware, closed.enqueued, closed.found, closed.written, ?_⟩
      intro committed
      rcases Bool.or_eq_true_iff.mp committed with before | written
      · exact closed.committed before
      · rcases knows.written written with late | wrote
        · exact .inr late
        · obtain ⟨_, same, wrote⟩ := wrote
          cases same
          obtain ⟨row, member, own⟩ := List.any_eq_true.mp wrote
          exact .inl (stores_written ⟨row, member, eq_of_beq own⟩)

theorem mailerCall_knows {op : Op} {answer : Answer op}
    (past : ∀ time, start = some time → time ≤ now)
    (clock : environment.clock 0 = now)
    (may : (datingContract carries messageID .transaction).may progress op)
    (other : ∀ job, op ≠ .enqueue job)
    (called : state.mailerCall environment op = some (answer, after)) :
    MailerKeeps carries messageID start now progress op answer after := by
  cases op with
  | sql conn statement =>
      cases conn with
      | connection => exact direct_knows young knows may called
      | transaction => exact inTxn_knows young knows may called
  | begin =>
      simp only [State.mailerCall] at called
      split at called
      · cases called
        exact ⟨trivial, young.reset (.inl rfl), knows.closed⟩
      · cases called
        exact ⟨trivial, young.reset (.inr rfl), knows.closed⟩
  | commit => exact commit_knows young knows called
  | rollback =>
      simp only [State.mailerCall] at called
      split at called
      · cases called
        exact ⟨trivial, young, knows.closed⟩
      · split at called
        · cases called
          exact ⟨trivial, young.reset (.inl rfl), knows.closed⟩
        · cases called
          exact ⟨trivial, young.reset (.inl rfl), knows.closed⟩
  | enqueue job => exact absurd rfl (other job)
  | now =>
      cases called
      rw [clock]
      exact ⟨trivial, young, knows.aware.reads past, by
        simpa [datingContract, Progress.reads] using knows.enqueued,
        knows.found, knows.written, knows.committed⟩
  | service service =>
      cases called
      exact ⟨trivial, young, knows⟩
  | iterate keys =>
      cases called
      exact ⟨trivial, young, knows⟩

end MailerCalls

end Calls

end Notifications.Strategies
