import Notifications.Strategies.Contracts

/-!
# When the reported status is the last one

An attempt records its status with a lookup and an insert or an update of its
own, and so does the mailer, in its transaction.  As long as the mailer's
lookup finds no row, it inserts, and an insert cannot overwrite what a worker
has committed; then the status that the last attempt recorded stays.  When the
lookup finds the row of an attempt that was faster than the mailer, the mailer
updates it back to queued.
-/

set_option autoImplicit false

namespace Notifications.Strategies

open Notifications.Lib Notifications.Models Notifications.Postal

section Collated

variable [Collation]

/-! ## Facts about one row -/

def Holds (tables : Tables) (messageID : String) : Known → Prop
  | .nothing => True
  | .present => (tables.message messageID).isSome = true
  | .recorded status => ∃ row, tables.message messageID = some row ∧
      row.status = status

section Rows

variable {tables after : Tables} {messageID : String} {known : Known}

theorem Holds.congr (holds : Holds tables messageID known)
    (same : after.message messageID = tables.message messageID) :
    Holds after messageID known := by
  cases known with
  | nothing => trivial
  | present =>
      rw [Holds, same]
      exact holds
  | recorded status =>
      rw [Holds, same]
      exact holds

theorem Holds.isSome (holds : Holds tables messageID known)
    (there : known ≠ .nothing) :
    (tables.message messageID).isSome = true := by
  cases known with
  | nothing => exact absurd rfl there
  | present => exact holds
  | recorded status =>
      obtain ⟨row, found, _⟩ := holds
      rw [found]
      rfl

theorem Holds.seen (holds : Holds tables messageID known)
    (there : (tables.message messageID).isSome = true) :
    Holds tables messageID known.seen := by
  cases known with
  | nothing => exact there
  | present => exact holds
  | recorded status => exact holds

theorem message_of_execute_other {statement : Statement}
    (database : Database) (other : statement.table ≠ .messages)
    (messageID : String) :
    (database.execute statement).2.tables.message messageID =
      database.tables.message messageID := by
  have rows := statement.execute_other database.tables other.symm
  simp only [Tables.message_eq, Database.execute, rows]

theorem store_other (database : Database) (message : Message)
    (other : message.id ≠ messageID) :
    (store database message).tables.message messageID =
      database.tables.message messageID := by
  have apart : ¬ messageID = message.id := fun same => other same.symm
  unfold store
  split
  · rw [(database.update_message message).2, if_neg apart]
  · rename_i absent
    have free : database.tables.message message.id = none := by
      simpa using absent
    rw [(database.insert_message message free).2, if_neg apart]

theorem foldl_store_other (writes : List Message) (database : Database)
    (other : ∀ row ∈ writes, row.id ≠ messageID) :
    (writes.foldl store database).tables.message messageID =
      database.tables.message messageID := by
  induction writes generalizing database with
  | nil => rfl
  | cons first rest ih =>
      rw [List.foldl_cons, ih _ fun row member =>
        other row (List.mem_cons_of_mem first member)]
      exact store_other database first (other first (by simp))

end Rows

/-! ## What a call of an attempt does to the rows -/

/-- The statement is allowed, its answer is possible, and what is learnt from
it is true. -/
def Learns (messageID : String) (known : Known) (database : Database)
    (statement : Statement) : Prop :=
  let answer := World.reply (database.execute statement).1
  let after := (database.execute statement).2
  (workerContract messageID).possible (.sql .connection statement) answer ∧
    Holds after.tables messageID ((workerContract messageID).learn known
      (.sql .connection statement) answer) ∧
    ∀ other, other ≠ messageID →
      after.tables.message other = database.tables.message other

section Learning

variable {messageID : String} {known : Known} {database : Database}

theorem select_learns (holds : Holds database.tables messageID known)
    (wanted : Message → Bool) :
    Learns messageID known database (.select .messages wanted) := by
  refine ⟨?_, ?_, fun _ _ => rfl⟩
  · intro row member
    exact (List.mem_filter.mp member).2
  · change Holds database.tables messageID (if _ then _ else _)
    split
    · rename_i some
      obtain ⟨row, member, same⟩ := List.any_eq_true.mp some
      have stored := (List.mem_filter.mp member).1
      refine holds.seen ?_
      rw [Tables.message_eq, List.find?_isSome]
      exact ⟨row, stored, same⟩
    · exact holds

theorem insert_learns (holds : Holds database.tables messageID known)
    {row : Message} (own : row.id = messageID) :
    Learns messageID known database (.insert .messages row) := by
  subst own
  cases free : database.tables.message row.id with
  | none =>
      obtain ⟨inserted, found⟩ := database.insert_message row free
      unfold Learns
      rw [inserted]
      refine ⟨trivial, ⟨row, by rw [found, if_pos rfl], rfl⟩, ?_⟩
      intro other different
      rw [found, if_neg different]
  | some old =>
      have clash : database.tables.clashes .messages row = true := by
        rw [Tables.clashes_messages, free]
        rfl
      have refused : Statement.execute (.insert .messages row)
          database.tables =
            (.error (duplicateEntry [row.id]), database.tables) := by
        rw [Statement.execute, clash]
        rfl
      simp only [Learns, Database.execute, refused]
      exact ⟨trivial, holds, fun _ _ => trivial⟩

theorem update_learns (holds : Holds database.tables messageID known)
    {row : Message} (own : row.id = messageID) (there : known ≠ .nothing) :
    Learns messageID known database (.update .messages row) := by
  subst own
  obtain ⟨updated, found⟩ := database.update_message row
  obtain ⟨old, stored⟩ := Option.isSome_iff_exists.mp (holds.isSome there)
  unfold Learns
  rw [updated]
  refine ⟨trivial, ⟨row, ?_, rfl⟩, ?_⟩
  · rw [found, if_pos rfl, stored]
    rfl
  · intro other different
    rw [found, if_neg different]

theorem foreign_learns (holds : Holds database.tables messageID known)
    {statement : Statement} (foreign : statement.table ≠ .messages) :
    Learns messageID known database statement := by
  have same := message_of_execute_other database foreign
  have outside : Foreign (.sql .connection statement) := foreign
  refine ⟨?_, ?_, fun other _ => same other⟩
  · cases statement with
    | select table wanted =>
        cases table with
        | messages => exact absurd rfl foreign
        | _ => trivial
    | _ => trivial
  · rw [learn_of_foreign _ outside]
    exact holds.congr (same messageID)

theorem statement_learns (holds : Holds database.tables messageID known)
    {statement : Statement}
    (may : (workerContract messageID).may known
      (.sql .connection statement)) :
    Learns messageID known database statement := by
  by_cases foreign : statement.table = .messages
  · cases statement with
    | select table wanted =>
        cases foreign
        exact select_learns holds wanted
    | insert table row =>
        cases foreign
        exact insert_learns holds may
    | update table row =>
        cases foreign
        exact update_learns holds may.1 may.2
    | delete table row =>
        cases foreign
        exact may.elim
    | upsertReceipt receipt => cases foreign
    | selectPreferences userGUID => cases foreign
  · exact foreign_learns holds foreign

end Learning

/-! ## The invariant -/

/-- What a finished attempt has reported, or a running one relies on. -/
def Justified (tables : Tables) (messageID : String) : Attempt → Prop
  | .idle last => ∀ outcome, last = some outcome →
      ∀ status, outcome.recorded = some (status, none) →
        Holds tables messageID (.recorded status.text)
  | .running _ program => ∃ known, Holds tables messageID known ∧
      program.Meets (workerContract messageID) Reported known

/-- The rows that the transaction has written are new ones. -/
def Fresh (state : State) : Prop :=
  ∀ txn, state.transaction = some txn → ∀ row ∈ txn.writes,
    state.database.tables.message row.id = none

structure Consistent (state : State) : Prop where
  mailer : state.mailer.Meets mailerContract (fun _ _ => True) ()
  fresh : Fresh state
  attempts : ∀ messageID, Justified state.database.tables messageID
    (state.attempts messageID)

/-- The rows stay as they are, though others may be added. -/
def Extends (before after : Tables) : Prop :=
  ∀ messageID row, before.message messageID = some row →
    after.message messageID = some row

theorem Holds.extend {before after : Tables} {messageID : String}
    {known : Known} (holds : Holds before messageID known)
    (extended : Extends before after) : Holds after messageID known := by
  cases known with
  | nothing => trivial
  | present =>
      obtain ⟨row, found⟩ := Option.isSome_iff_exists.mp holds
      rw [Holds, extended messageID row found]
      rfl
  | recorded status =>
      obtain ⟨row, found, same⟩ := holds
      exact ⟨row, extended messageID row found, same⟩

theorem Justified.mono {before after : Tables} {messageID : String}
    {attempt : Attempt} (justified : Justified before messageID attempt)
    (kept : ∀ known, Holds before messageID known →
      Holds after messageID known) :
    Justified after messageID attempt := by
  cases attempt with
  | idle last =>
      intro outcome here status recorded
      exact kept _ (justified outcome here status recorded)
  | running job program =>
      obtain ⟨known, holds, meets⟩ := justified
      exact ⟨known, kept known holds, meets⟩

section Calls

variable {state after : State} {environment : Environment}
  {messageID : String} {known : Known}

theorem direct_cases {statement : Statement} {answer : Reply statement.Result}
    (called : state.direct environment statement = some (answer, after)) :
    (∃ text, answer = .failed text ∧ after = state) ∨
      (state.locked statement = false ∧
        answer = World.reply (state.database.execute statement).1 ∧
        after = { state with
          database := (state.database.execute statement).2 }) := by
  unfold State.direct at called
  split at called
  · rename_i text _
    cases called
    exact .inl ⟨text, rfl, rfl⟩
  · split at called
    · cases called
    · rename_i free
      cases called
      exact .inr ⟨by simpa using free, rfl, rfl⟩

omit [Collation] in
theorem wrote_of_mem {txn : Txn} {row : Message} (written : row ∈ txn.writes) :
    txn.wrote row.id = true :=
  List.any_eq_true.mpr ⟨row, written, by simp⟩

/-- A worker's statement does not get past the locks of the transaction. -/
theorem locked_unchanged {statement : Statement} {txn : Txn} {row : Message}
    (holds : Holds state.database.tables messageID known)
    (may : (workerContract messageID).may known (.sql .connection statement))
    (free : state.locked statement = false)
    (begun : state.transaction = some txn) (written : row ∈ txn.writes) :
    (state.database.execute statement).2.tables.message row.id =
      state.database.tables.message row.id := by
  by_cases own : row.id = messageID
  · have wrote := wrote_of_mem written
    by_cases foreign : statement.table = .messages
    · cases statement with
      | select table wanted => rfl
      | insert table inserted =>
          cases foreign
          have same : inserted.id = row.id := Eq.trans may own.symm
          simp [State.locked, begun, same, wrote] at free
      | update table updated =>
          cases foreign
          have same : updated.id = row.id := Eq.trans may.1 own.symm
          simp [State.locked, begun, same, wrote] at free
      | delete table deleted =>
          cases foreign
          exact may.elim
      | upsertReceipt receipt => cases foreign
      | selectPreferences userGUID => cases foreign
    · exact message_of_execute_other state.database foreign row.id
  · exact (statement_learns holds may).2.2 row.id own

structure WorkerStep (messageID : String) (known : Known) (state : State)
    (op : Op) (answer : Answer op) (after : State) : Prop where
  possible : (workerContract messageID).possible op answer
  learnt : Holds after.database.tables messageID
    ((workerContract messageID).learn known op answer)
  others : ∀ other, other ≠ messageID →
    after.database.tables.message other = state.database.tables.message other
  fresh : Fresh after
  mailer : after.mailer = state.mailer
  attempts : after.attempts = state.attempts

theorem workerStep_of_same {op : Op} {answer : Answer op}
    (holds : Holds state.database.tables messageID known)
    (fresh : Fresh state)
    (possible : (workerContract messageID).possible op answer)
    (learnt : (workerContract messageID).learn known op answer = known) :
    WorkerStep messageID known state op answer state where
  possible := possible
  learnt := by
    rw [learnt]
    exact holds
  others _ _ := rfl
  fresh := fresh
  mailer := rfl
  attempts := rfl

omit [Collation] in
theorem failed_teaches_nothing (statement : Statement) (text : String) :
    (workerContract messageID).possible (.sql .connection statement)
        (.failed text) ∧
      (workerContract messageID).learn known (.sql .connection statement)
        (.failed text) = known := by
  cases statement with
  | upsertReceipt receipt => exact ⟨trivial, rfl⟩
  | selectPreferences userGUID => exact ⟨trivial, rfl⟩
  | select table _ => cases table <;> exact ⟨trivial, rfl⟩
  | insert table _ => cases table <;> exact ⟨trivial, rfl⟩
  | update table _ => cases table <;> exact ⟨trivial, rfl⟩
  | delete table _ => cases table <;> exact ⟨trivial, rfl⟩

theorem workerCall_sql {statement : Statement}
    {answer : Reply statement.Result}
    (holds : Holds state.database.tables messageID known)
    (fresh : Fresh state)
    (may : (workerContract messageID).may known (.sql .connection statement))
    (called : state.direct environment statement = some (answer, after)) :
    WorkerStep messageID known state (.sql .connection statement) answer
      after := by
  rcases direct_cases called with ⟨text, rfl, rfl⟩ | ⟨free, rfl, rfl⟩
  · obtain ⟨possible, learnt⟩ := failed_teaches_nothing statement text
    exact workerStep_of_same holds fresh possible learnt
  · obtain ⟨possible, learnt, others⟩ := statement_learns holds may
    refine ⟨possible, learnt, others, ?_, rfl, rfl⟩
    intro txn begun row written
    have unchanged := locked_unchanged holds may free begun written
    exact unchanged.trans (fresh txn begun row written)

theorem workerCall_step {op : Op} {answer : Answer op}
    (holds : Holds state.database.tables messageID known)
    (fresh : Fresh state) (may : (workerContract messageID).may known op)
    (called : state.workerCall environment op = some (answer, after)) :
    WorkerStep messageID known state op answer after := by
  cases op with
  | sql conn statement =>
      cases conn with
      | connection => exact workerCall_sql holds fresh may called
      | transaction =>
          cases called
          exact workerStep_of_same holds fresh trivial rfl
  | now =>
      cases called
      exact workerStep_of_same holds fresh trivial rfl
  | service service =>
      cases called
      exact workerStep_of_same holds fresh trivial rfl
  | iterate keys =>
      cases called
      exact workerStep_of_same holds fresh trivial rfl
  | begin => cases called
  | commit => cases called
  | rollback => cases called
  | enqueue job => cases called

/-! ## What a call of the mailer does to the rows -/

/-- The lookup that this step of the mailer makes, if it makes one, finds no
row. -/
def findsNothing (state : State) : Event → Bool
  | .mailer _ =>
      match state.mailer, state.transaction with
      | .call (.sql .transaction (.select .messages wanted)) _, some txn =>
          ((txn.rows state.database.tables).filter wanted).isEmpty
      | _, _ => true
  | _ => true

theorem findsNothing_lookup {wanted : Message → Bool}
    {rest : Reply (List Message) → Prog (List Response)} {txn : Txn}
    (nothing : findsNothing state (.mailer environment) = true)
    (here : state.mailer =
      .call (.sql .transaction (.select .messages wanted)) rest)
    (begun : state.transaction = some txn) :
    (txn.rows state.database.tables).filter wanted = [] := by
  simp only [findsNothing, here, begun] at nothing
  exact List.isEmpty_iff.mp nothing

structure MailerStep (state : State) (op : Op) (answer : Answer op)
    (after : State) : Prop where
  possible : mailerContract.possible op answer
  extended : Extends state.database.tables after.database.tables
  fresh : Fresh after
  attempts : after.attempts = state.attempts

theorem mailerStep_of_same {op : Op} {answer : Answer op}
    (possible : mailerContract.possible op answer) (fresh : Fresh after)
    (database : after.database = state.database)
    (attempts : after.attempts = state.attempts) :
    MailerStep state op answer after where
  possible := possible
  extended messageID row found := by
    rw [database]
    exact found
  fresh := fresh
  attempts := attempts

theorem fresh_of_none (ended : state.transaction = none) : Fresh state := by
  intro txn begun
  rw [ended] at begun
  cases begun

theorem Txn.execute_insert {txn : Txn} {tables : Tables} {message : Message}
    {result : Except String Message × Txn}
    (executed : txn.execute tables (.insert .messages message) =
      some result) :
    result.2 = txn ∨ (tables.message message.id = none ∧
      result.2 = txn.record message) := by
  simp only [Txn.execute] at executed
  split at executed
  · cases executed
    exact .inl rfl
  · rename_i free
    cases executed
    refine .inr ⟨?_, rfl⟩
    simp only [Txn.occupied, Bool.or_eq_true, not_or,
      Bool.not_eq_true] at free
    simpa using free.2

omit [Collation] in
theorem mem_record {txn : Txn} {message row : Message}
    (member : row ∈ (txn.record message).writes) :
    row ∈ txn.writes ∨ row = message := by
  simp only [Txn.record, List.mem_append, List.mem_filter,
    List.mem_singleton] at member
  rcases member with ⟨old, _⟩ | new
  · exact .inl old
  · exact .inr new

/-- The transaction goes on with writes of its own and new rows. -/
theorem fresh_of_writes {txn later : Txn} (fresh : Fresh state)
    (begun : state.transaction = some txn)
    (writes : ∀ row ∈ later.writes, row ∈ txn.writes ∨
      state.database.tables.message row.id = none) :
    Fresh { state with transaction := some later } := by
  rintro _ ⟨⟩ row written
  rcases writes row written with old | new
  · exact fresh txn begun row old
  · exact new

theorem inTxn_cases {statement : Statement} {answer : Reply statement.Result}
    (called : state.inTxn environment statement = some (answer, after)) :
    ((∀ value, answer ≠ .ok value) ∧ after = state) ∨
      ∃ txn result later, state.transaction = some txn ∧
        txn.execute state.database.tables statement = some (result, later) ∧
        answer = World.reply result ∧
        after = { state with transaction := some later } := by
  unfold State.inTxn at called
  split at called
  · cases called
    exact .inl ⟨by simp, rfl⟩
  · rename_i txn begun
    split at called
    · cases called
      exact .inl ⟨by simp, rfl⟩
    · obtain ⟨⟨result, later⟩, executed, called⟩ :=
        Option.bind_eq_some_iff.mp called
      cases called
      exact .inr ⟨txn, result, later, begun, executed, rfl, rfl⟩

omit [Collation] in
theorem possible_of_not_ok {conn : Conn} {statement : Statement}
    {answer : Reply statement.Result} (refused : ∀ value, answer ≠ .ok value) :
    mailerContract.possible (.sql conn statement) answer := by
  cases answer with
  | ok value => exact absurd rfl (refused value)
  | failed text =>
      cases conn <;> cases statement with
      | select table _ => cases table <;> trivial
      | _ => trivial
  | nilPointer =>
      cases conn <;> cases statement with
      | select table _ => cases table <;> trivial
      | _ => trivial

theorem inTxn_step {statement : Statement} {answer : Reply statement.Result}
    (fresh : Fresh state)
    (may : mailerContract.may () (.sql .transaction statement))
    (nothing : ∀ wanted txn, statement = .select .messages wanted →
      state.transaction = some txn →
      (txn.rows state.database.tables).filter wanted = [])
    (called : state.inTxn environment statement = some (answer, after)) :
    MailerStep state (.sql .transaction statement) answer after := by
  rcases inTxn_cases called with
    ⟨refused, rfl⟩ | ⟨txn, result, later, begun, executed, rfl, rfl⟩
  · exact mailerStep_of_same (possible_of_not_ok refused) fresh rfl rfl
  · cases statement with
    | select table wanted =>
        cases table with
        | messages =>
            have missing := nothing wanted txn rfl begun
            cases executed
            refine mailerStep_of_same missing ?_ rfl rfl
            exact fresh_of_writes fresh begun fun row written => .inl written
        | _ => cases executed
    | insert table message =>
        cases table with
        | messages =>
            refine mailerStep_of_same trivial ?_ rfl rfl
            refine fresh_of_writes fresh begun ?_
            intro row written
            rcases Txn.execute_insert executed with same | ⟨free, recorded⟩
            · cases same
              exact .inl written
            · cases recorded
              rcases mem_record written with old | new
              · exact .inl old
              · exact .inr (new ▸ free)
        | _ => cases executed
    | update table message =>
        cases table with
        | messages => exact may.elim
        | _ => cases executed
    | delete table message => cases executed
    | upsertReceipt receipt => cases executed
    | selectPreferences userGUID => cases executed

/-- A commit adds the rows of the transaction and touches no other. -/
theorem commit_extends {txn : Txn} (fresh : Fresh state)
    (begun : state.transaction = some txn) :
    Extends state.database.tables
      (txn.writes.foldl store state.database).tables := by
  intro messageID row found
  rw [foldl_store_other, found]
  intro written member same
  have absent := fresh txn begun written member
  rw [same, found] at absent
  cases absent

theorem mailerCall_step {op : Op} {answer : Answer op} (fresh : Fresh state)
    (may : mailerContract.may () op)
    (nothing : ∀ wanted txn,
      op = .sql .transaction (.select .messages wanted) →
      state.transaction = some txn →
      (txn.rows state.database.tables).filter wanted = [])
    (called : state.mailerCall environment op = some (answer, after)) :
    MailerStep state op answer after := by
  cases op with
  | sql conn statement =>
      cases conn with
      | connection => exact may.elim
      | transaction =>
          refine inTxn_step fresh may ?_ called
          intro wanted txn same
          exact nothing wanted txn (by rw [same])
  | begin =>
      simp only [State.mailerCall] at called
      split at called
      · cases called
        exact mailerStep_of_same trivial (fresh_of_none rfl) rfl rfl
      · cases called
        refine mailerStep_of_same trivial ?_ rfl rfl
        rintro _ ⟨⟩ row ⟨⟩
  | commit =>
      simp only [State.mailerCall] at called
      split at called
      · cases called
        exact mailerStep_of_same trivial fresh rfl rfl
      · rename_i txn begun
        split at called
        · cases called
          exact mailerStep_of_same trivial (fresh_of_none rfl) rfl rfl
        · cases called
          exact ⟨trivial, commit_extends fresh begun, fresh_of_none rfl, rfl⟩
  | rollback =>
      simp only [State.mailerCall] at called
      split at called
      · cases called
        exact mailerStep_of_same trivial fresh rfl rfl
      · split at called
        · cases called
          exact mailerStep_of_same trivial (fresh_of_none rfl) rfl rfl
        · cases called
          exact mailerStep_of_same trivial (fresh_of_none rfl) rfl rfl
  | enqueue job =>
      simp only [State.mailerCall] at called
      split at called
      · cases called
        exact mailerStep_of_same trivial fresh rfl rfl
      · cases called
        exact mailerStep_of_same trivial fresh rfl rfl
  | now =>
      cases called
      exact mailerStep_of_same trivial fresh rfl rfl
  | service service =>
      cases called
      exact mailerStep_of_same trivial fresh rfl rfl
  | iterate keys =>
      cases called
      exact mailerStep_of_same trivial fresh rfl rfl

end Calls

/-! ## Every step keeps the invariant -/

section Invariant

variable {worker : Worker} {state next : State} {shown : List Unit}
  {environment : Environment} {messageID : String}

theorem consistent_mailer (consistent : Consistent state)
    (nothing : findsNothing state (.mailer environment) = true)
    (stepped : (interleaving worker).step state (.mailer environment) =
      some (next, shown)) : Consistent next := by
  obtain ⟨op, rest, answer, after, here, called, rfl⟩ := step_mailer stepped
  have meets := consistent.mailer
  rw [here] at meets
  have step : MailerStep state op answer after := by
    refine mailerCall_step consistent.fresh meets.1 ?_ called
    intro wanted txn same
    subst same
    exact findsNothing_lookup nothing here
  refine ⟨meets.2 answer step.possible, step.fresh, ?_⟩
  intro other
  change Justified after.database.tables other (after.attempts other)
  rw [step.attempts]
  refine (consistent.attempts other).mono ?_
  intro known holds
  exact holds.extend step.extended

theorem attempts_set {state : State} {attempt : Attempt}
    (here : Justified state.database.tables messageID attempt)
    (others : ∀ other, other ≠ messageID →
      Justified state.database.tables other (state.attempts other))
    (other : String) :
    Justified state.database.tables other
      ((state.setAttempt messageID attempt).attempts other) := by
  by_cases same : other = messageID
  · subst same
    simpa [State.setAttempt] using here
  · simpa [State.setAttempt, same] using others other same

theorem consistent_attempt (consistent : Consistent state)
    (stepped : (interleaving worker).step state
      (.attempt messageID environment) = some (next, shown)) :
    Consistent next := by
  obtain ⟨job, op, rest, answer, after, here, called, rfl⟩ :=
    step_attempt stepped
  have justified := consistent.attempts messageID
  rw [here] at justified
  obtain ⟨known, holds, meets⟩ := justified
  have step := workerCall_step holds consistent.fresh meets.1 called
  refine ⟨?_, step.fresh, attempts_set ?_ ?_⟩
  · change after.mailer.Meets mailerContract _ ()
    rw [step.mailer]
    exact consistent.mailer
  · exact ⟨_, step.learnt, meets.2 answer step.possible⟩
  · intro other different
    rw [step.attempts]
    refine (consistent.attempts other).mono ?_
    intro fact held
    exact held.congr (step.others other different)

theorem consistent_reserve {id : Nat} {workerID : String}
    (consistent : Consistent state)
    (stepped : (interleaving worker).step state
      (.reserve messageID id workerID environment) = some (next, shown)) :
    Consistent next := by
  obtain ⟨job, delivery, jobs, read, own, rfl⟩ := step_reserve stepped
  refine ⟨consistent.mailer, consistent.fresh, attempts_set ?_ ?_⟩
  · exact ⟨.nothing, trivial, deliver_meets worker read own⟩
  · intro other _
    exact consistent.attempts other

theorem consistent_finish (consistent : Consistent state)
    (stepped : (interleaving worker).step state
      (.finish messageID environment) = some (next, shown)) :
    Consistent next := by
  obtain ⟨job, outcome, jobs, here, rfl⟩ := step_finish stepped
  refine ⟨consistent.mailer, consistent.fresh, attempts_set ?_ ?_⟩
  · have justified := consistent.attempts messageID
    rw [here] at justified
    obtain ⟨known, holds, reported⟩ := justified
    rintro _ ⟨⟩ status recorded
    rw [← reported status recorded]
    exact holds
  · intro other _
    exact consistent.attempts other

theorem consistent_step (event : Event) (consistent : Consistent state)
    (nothing : findsNothing state event = true)
    (stepped : (interleaving worker).step state event =
      some (next, shown)) : Consistent next := by
  cases event with
  | mailer environment => exact consistent_mailer consistent nothing stepped
  | reserve messageID id workerID environment =>
      exact consistent_reserve consistent stepped
  | attempt messageID environment =>
      exact consistent_attempt consistent stepped
  | finish messageID environment =>
      exact consistent_finish consistent stepped

theorem consistent_initial {marshal : Delivery → String} {request : Request}
    {users : List Recipient}
    (initial : state.Initial marshal request users) : Consistent state where
  mailer := by
    rw [initial.mailer]
    exact mailer_inserts marshal request users
  fresh := fresh_of_none initial.transaction
  attempts messageID := by
    rw [initial.attempts messageID]
    rintro _ ⟨⟩

end Invariant

/-- The status that the last attempt for a message recorded without an error
is the one in its row. -/
def StatusesKept (state : State) : Prop :=
  ∀ messageID outcome status,
    state.attempts messageID = .idle (some outcome) →
    outcome.recorded = some (status, none) →
    ∃ row, state.database.tables.message messageID = some row ∧
      row.status = status.text

theorem Consistent.statusesKept {state : State}
    (consistent : Consistent state) : StatusesKept state := by
  intro messageID outcome status finished recorded
  have justified := consistent.attempts messageID
  rw [finished] at justified
  exact justified outcome rfl status recorded

/-- As long as the mailer's lookups find nothing, no status is lost, in any
interleaving of the mailer with the workers. -/
theorem reported_status_kept (worker : Worker) (marshal : Delivery → String)
    (request : Request) (users : List Recipient) (events : List Event)
    (state final : State) (trace : List Unit)
    (initial : state.Initial marshal request users)
    (nothing : (interleaving worker).Guarded
      (fun state event => findsNothing state event = true) events state)
    (ran : (interleaving worker).run events state = some (final, trace)) :
    StatusesKept final := by
  have consistent := (interleaving worker).run_state_invariant _ Consistent
    (fun _ event _ _ => consistent_step event)
    (consistent_initial initial) nothing ran
  exact consistent.statusesKept

end Collated

/-! ## One message -/

attribute [local instance] Collation.binary

def sampleGUID : Environment :=
  { Environment.calm with
    serve := fun _ service =>
      match service with
      | .newGUID => .ok sampleDelivery.messageID
      | other => other.answer }

def sampleStart : State where
  database := criticalWorld.database
  transaction := none
  mailer := Mailer.deliver (fun _ => "") sampleRequest [⟨"user", ""⟩]
  jobs := []
  nextJobID := 1
  attempts _ := .idle none

theorem sampleStart_initial :
    sampleStart.Initial (fun _ => "") sampleRequest [⟨"user", ""⟩] :=
  ⟨rfl, rfl, fun _ => rfl⟩

def mailerSteps (count : Nat) : List Event :=
  List.replicate count (.mailer sampleGUID)

def attemptSteps (count : Nat) : List Event :=
  [.reserve "message" 1 "worker" .calm] ++
    List.replicate count (.attempt "message" .calm) ++
    [.finish "message" .calm]

def Delivered (state : State) : Prop :=
  (∃ responses, state.mailer = .ret responses) ∧
    state.attempts "message" = .idle (some ⟨none, some (.delivered, none)⟩)

theorem reported_status_kept_mailer_first :
    ∃ final trace,
      (interleaving sampleWorker).run (mailerSteps 8 ++ attemptSteps 14)
        sampleStart = some (final, trace) ∧
      Delivered final ∧ StatusesKept final := by
  have ran : (interleaving sampleWorker).run
      (mailerSteps 8 ++ attemptSteps 14) sampleStart =
        some (((interleaving sampleWorker).run
          (mailerSteps 8 ++ attemptSteps 14) sampleStart).get rfl) :=
    (Option.some_get rfl).symm
  refine ⟨_, _, ran, ⟨⟨_, rfl⟩, rfl⟩, ?_⟩
  exact reported_status_kept sampleWorker _ _ _ _ _ _ _ sampleStart_initial
    (by decide +kernel) ran

/-- An attempt that is over before the mailer looks for the row: the message
has been sent, and its row says that it is queued. -/
theorem delivered_reported_as_queued :
    ∃ final trace row,
      (interleaving sampleWorker).run
        (mailerSteps 4 ++ attemptSteps 13 ++ mailerSteps 5) sampleStart =
          some (final, trace) ∧
      Delivered final ∧
      final.database.tables.message "message" = some row ∧
      row.status = Status.queued.text ∧ ¬ StatusesKept final := by
  have ran : (interleaving sampleWorker).run
      (mailerSteps 4 ++ attemptSteps 13 ++ mailerSteps 5) sampleStart =
        some (((interleaving sampleWorker).run
          (mailerSteps 4 ++ attemptSteps 13 ++ mailerSteps 5)
          sampleStart).get rfl) :=
    (Option.some_get rfl).symm
  refine ⟨_, _, ⟨"message", "queued", 0⟩, ran, ⟨⟨_, rfl⟩, rfl⟩, rfl, rfl, ?_⟩
  intro kept
  obtain ⟨row, found, delivered⟩ := kept "message" _ .delivered rfl rfl
  have queued : row = ⟨"message", "queued", 0⟩ :=
    Option.some.inj (found.symm.trans rfl)
  rw [queued] at delivered
  exact absurd delivered (by decide)

end Notifications.Strategies
