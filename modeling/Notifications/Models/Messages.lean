import Mathlib.Tactic.IntervalCases
import Notifications.Models.Repos

/-!
# Recording a status

What `MessagesRepo.Upsert` does to the `messages` table.  It sends two
statements for a new message and three for one that is already there, and it
fails exactly when one of them does.
-/

set_option autoImplicit false

namespace Notifications.Models

open Notifications.Lib

variable [Collation]

def Tables.message (tables : Tables) (id : String) : Option Message :=
  tables.lookup .messages [id]

namespace Tables

theorem message_eq (tables : Tables) (id : String) :
    tables.message id =
      (tables.rows .messages).find? fun row : Message => row.id == id := by
  simp only [message, lookup, Table.uniqueKey]
  congr 1
  funext row
  simp

theorem clashes_messages {tables : Tables} {message : Message} :
    tables.clashes .messages message = (tables.message message.id).isSome := by
  rw [Bool.eq_iff_iff, clashes, List.any_eq_true, message_eq,
    List.find?_isSome]
  simp [Table.uniqueKey]

theorem message_insert {tables : Tables} {message : Message}
    (free : tables.message message.id = none) (id : String) :
    (tables.insert .messages message).message id =
      if id = message.id then some message else tables.message id := by
  rw [message_eq] at free
  rw [message_eq, message_eq]
  simp only [insert, bump_rows, set_rows_same, Table.numbered,
    List.find?_append]
  by_cases same : id = message.id
  · subst same
    simp [free]
  · have other : ¬ message.id = id := fun equal => same equal.symm
    simp [same, other]

theorem message_update (tables : Tables) (message : Message) (id : String) :
    (tables.update .messages message).message id =
      if id = message.id then (tables.message id).map fun _ => message
      else tables.message id := by
  rw [message_eq, message_eq]
  simp only [update, set_rows_same]
  induction tables.rows .messages with
  | nil => simp [updateWhere]
  | cons first rest ih =>
      rw [updateWhere_cons, List.find?_cons, List.find?_cons, ih]
      by_cases hit : first.id = message.id
      · have replaced : hits .messages message first = true := by
          simp [hits, Table.primaryKey, hit]
        by_cases same : id = message.id
        · simp [replaced, same, hit]
        · have other : (message.id == id) = false := by
            simpa using Ne.symm same
          simp [replaced, same, hit, other]
      · have kept : hits .messages message first = false := by
          simp [hits, Table.primaryKey, hit]
        by_cases same : id = message.id
        · have other : (first.id == message.id) = false := by
            simpa using hit
          simp [kept, same, other]
        · simp [kept, same]

theorem update_messages_free (tables : Tables) (message : Message) :
    tables.clashesElsewhere .messages message = false := by
  simp only [clashesElsewhere, List.any_eq_false]
  intro old _
  simp only [hits, Table.uniqueKey, Table.primaryKey, Bool.and_eq_true,
    Bool.not_eq_true', beq_iff_eq, List.cons.injEq, and_true, not_and,
    Bool.not_eq_false]
  intro same
  rw [same]

end Tables

/-! ## Running `Upsert` -/

/-- How many statements `Upsert` sends when none fails. -/
def upsertCost (tables : Tables) (id : String) : Nat :=
  if (tables.message id).isSome then 3 else 2

theorem upsertCost_of_none {tables : Tables} {id : String}
    (free : tables.message id = none) : upsertCost tables id = 2 := by
  simp [upsertCost, free]

theorem upsertCost_of_some {tables : Tables} {id : String} {row : Message}
    (found : tables.message id = some row) : upsertCost tables id = 3 := by
  simp [upsertCost, found]

theorem upsertCost_pos (tables : Tables) (id : String) :
    0 < upsertCost tables id := by
  unfold upsertCost
  split <;> decide

omit [Collation] in
theorem forall_lt_two {property : Nat → Prop} :
    (∀ index < 2, property index) ↔ property 0 ∧ property 1 := by
  constructor
  · intro all
    exact ⟨all 0 (by decide), all 1 (by decide)⟩
  · rintro ⟨zero, one⟩ index small
    interval_cases index <;> assumption

omit [Collation] in
theorem forall_lt_three {property : Nat → Prop} :
    (∀ index < 3, property index) ↔
      property 0 ∧ property 1 ∧ property 2 := by
  constructor
  · intro all
    exact ⟨all 0 (by decide), all 1 (by decide), all 2 (by decide)⟩
  · rintro ⟨zero, one, two⟩ index small
    interval_cases index <;> assumption

theorem Database.insert_message (database : Database) (message : Message)
    (free : database.tables.message message.id = none) :
    (database.execute (.insert .messages message)).1 = .ok message ∧
      ∀ id, (database.execute (.insert .messages message)).2.tables.message
        id = if id = message.id then some message
          else database.tables.message id := by
  have fresh : database.tables.clashes .messages message = false := by
    rw [Tables.clashes_messages, free]
    rfl
  have executed : Statement.execute (.insert .messages message)
      database.tables =
        (.ok message, database.tables.insert .messages message) := by
    rw [Statement.execute, fresh]
    rfl
  simp only [Database.execute, executed]
  exact ⟨trivial, Tables.message_insert free⟩

theorem Database.update_message (database : Database) (message : Message) :
    (database.execute (.update .messages message)).1 = .ok () ∧
      ∀ id, (database.execute (.update .messages message)).2.tables.message
        id = if id = message.id
          then (database.tables.message id).map fun _ => message
          else database.tables.message id := by
  have executed : Statement.execute (.update .messages message)
      database.tables =
        (.ok (), database.tables.update .messages message) := by
    rw [Statement.execute, Tables.update_messages_free, Bool.and_false]
    rfl
  simp only [Database.execute, executed]
  exact ⟨trivial, database.tables.message_update message⟩

namespace MessagesRepo

variable {environment : Environment} {world : World} {conn : Conn}
  {database : Database} (present : world.read conn = some database)
  (message : Message)

include present

theorem run_create (free : database.tables.message message.id = none) :
    ∃ after stored,
      (create conn message).run (World.handle environment) world =
        (match environment.faults world.statements with
        | some text =>
            (some (Table.messages.zero, some (.sql text)), world.counted)
        | none => (some (stored, none), world.advance conn after 1)) ∧
      ∀ id, after.tables.message id =
        if id = message.id then some stored
        else database.tables.message id := by
  simp only [create, nowTruncated, Program.perform_bind, Program.call_bind,
    Program.pure_eq, Program.ret_bind, Program.run_call, World.handle]
  rw [Program.run_bind, run_sql present]
  generalize environment.clock world.statements = now
  obtain ⟨inserted, found⟩ := database.insert_message
    { message with updatedAt := now - now % 1000000000 } free
  refine ⟨_, _, ?_, found⟩
  cases environment.faults world.statements with
  | some text => rfl
  | none =>
      rw [inserted]
      rfl

theorem run_store (known : (database.tables.message message.id).isSome) :
    ∃ after,
      (store conn message).run (World.handle environment) world =
        (match environment.faults world.statements,
            environment.faults (world.statements + 1) with
        | some text, _ => (some (message, some (.sql text)), world.counted)
        | none, some text =>
            (some (Table.messages.zero, some (.sql text)),
              world.advance conn after 2)
        | none, none => (some (message, none), world.advance conn after 2)) ∧
      ∀ id, after.tables.message id =
        if id = message.id then some message
        else database.tables.message id := by
  obtain ⟨updated, found⟩ := database.update_message message
  obtain ⟨old, stored⟩ := Option.isSome_iff_exists.mp known
  have changed : ∀ id,
      (database.execute (.update .messages message)).2.tables.message id =
        if id = message.id then some message
        else database.tables.message id := by
    intro id
    rw [found]
    by_cases same : id = message.id
    · simp [same, stored]
    · simp [same]
  refine ⟨_, ?_, changed⟩
  rw [store, Program.run_bind, run_sql present, updated]
  cases environment.faults world.statements with
  | some text => rfl
  | none =>
      have refound := changed message.id
      rw [if_pos rfl, Tables.message] at refound
      simp only [Except.mapError]
      rw [run_findByID World.read_advance, refound, World.statements_advance,
        World.counted_eq World.read_advance, World.advance_advance]
      cases environment.faults (world.statements + 1) <;> rfl

theorem run_update (known : (database.tables.message message.id).isSome) :
    ∃ after stored,
      (update conn message).run (World.handle environment) world =
        (match environment.faults world.statements,
            environment.faults (world.statements + 1) with
        | some text, _ => (some (stored, some (.sql text)), world.counted)
        | none, some text =>
            (some (Table.messages.zero, some (.sql text)),
              world.advance conn after 2)
        | none, none => (some (stored, none), world.advance conn after 2)) ∧
      ∀ id, after.tables.message id =
        if id = message.id then some stored
        else database.tables.message id := by
  simp only [update, nowTruncated, Program.perform_bind, Program.call_bind,
    Program.pure_eq, Program.ret_bind, Program.run_call, World.handle]
  generalize environment.clock world.statements = now
  obtain ⟨after, ran, found⟩ := run_store present
    { message with updatedAt := now - now % 1000000000 } known
  exact ⟨after, _, ran, found⟩

/-- `Upsert` looks the message up and goes on with `Create` or `Update`. -/
theorem run_upsert (environment : Environment) :
    (upsert conn message).run (World.handle environment) world =
      match environment.faults world.statements,
          database.tables.message message.id with
      | some text, _ => (some (message, some (.sql text)), world.counted)
      | none, none => (create conn message).run (World.handle environment)
          world.counted
      | none, some _ => (update conn message).run (World.handle environment)
          world.counted := by
  rw [upsert, Program.run_bind_of _ (run_findByID present _), Tables.message]
  cases environment.faults world.statements <;>
    cases database.tables.lookup .messages [message.id] <;> rfl

/-- `Upsert` succeeds exactly when none of its statements fails; then the
message has its new row and the others have theirs. -/
theorem run_upsert_spec (environment : Environment) :
    ∃ after count stored err,
      (upsert conn message).run (World.handle environment) world =
        (some (stored, err), world.advance conn after count) ∧
      (err = none ↔ ∀ index < upsertCost database.tables message.id,
        environment.faults (world.statements + index) = none) ∧
      (err = none → count = upsertCost database.tables message.id ∧
        ∀ id, after.tables.message id =
          if id = message.id then some stored
          else database.tables.message id) := by
  have present' : world.counted.read conn = some database := by simp [present]
  have counted := World.counted_eq present
  have twice : world.counted.counted = world.advance conn database 2 := by
    rw [World.counted_eq present', counted, World.advance_advance]
  rw [run_upsert present]
  cases first : environment.faults world.statements with
  | some text =>
      refine ⟨database, 1, message, some (.sql text), by rw [← counted], ?_,
        by simp⟩
      constructor
      · simp
      · intro calm
        have begun := calm 0 (upsertCost_pos _ _)
        rw [Nat.add_zero, first] at begun
        cases begun
  | none =>
      cases found : database.tables.message message.id with
      | none =>
          obtain ⟨after, stored, ran, changed⟩ :=
            run_create present' message found
          rw [upsertCost_of_none found, forall_lt_two, Nat.add_zero, first]
          rw [World.counted_statements] at ran
          simp only
          rw [ran]
          cases second : environment.faults (world.statements + 1) with
          | some text =>
              refine ⟨database, 2, _, _, by rw [← twice], ?_⟩
              simp
          | none =>
              refine ⟨after, 2, stored, none, ?_, by simp, ?_⟩
              · rw [counted, World.advance_advance]
              · exact fun _ => ⟨rfl, changed⟩
      | some old =>
          obtain ⟨after, stored, ran, changed⟩ :=
            run_update present' message (by simp [found])
          rw [upsertCost_of_some found, forall_lt_three, Nat.add_zero, first]
          rw [World.counted_statements] at ran
          simp only
          rw [ran]
          cases second : environment.faults (world.statements + 1) with
          | some text =>
              refine ⟨database, 2, _, _, by rw [← twice], ?_⟩
              simp
          | none =>
              cases third : environment.faults (world.statements + 2) with
              | some text =>
                  refine ⟨after, 3, _, _,
                    by rw [counted, World.advance_advance], ?_⟩
                  simp
              | none =>
                  refine ⟨after, 3, stored, none, ?_, by simp, ?_⟩
                  · rw [counted, World.advance_advance]
                  · exact fun _ => ⟨rfl, changed⟩

/-- A new message is added, and nothing else changes. -/
theorem run_upsert_new (environment : Environment)
    (free : database.tables.message message.id = none)
    (first : environment.faults world.statements = none)
    (second : environment.faults (world.statements + 1) = none) :
    ∃ after stored,
      (upsert conn message).run (World.handle environment) world =
        (some (stored, none), world.advance conn after 2) ∧
      stored.id = message.id ∧ stored.status = message.status ∧
      after.tables.rows .messages =
        database.tables.rows .messages ++ [stored] ∧
      ∀ table, table ≠ .messages →
        after.tables.rows table = database.tables.rows table := by
  have present' : world.counted.read conn = some database := by simp [present]
  have fresh (now : Int) : database.tables.clashes .messages
      { message with updatedAt := now } = false := by
    rw [Tables.clashes_messages, free]
    rfl
  rw [run_upsert present, first, free]
  simp only [create, nowTruncated, Program.perform_bind, Program.call_bind,
    Program.pure_eq, Program.ret_bind, Program.run_call, World.handle]
  rw [Program.run_bind, run_sql present', World.counted_statements, second]
  generalize environment.clock (world.statements + 1) = now
  refine ⟨(database.execute (.insert .messages
    { message with updatedAt := now - now % 1000000000 })).2,
    { message with updatedAt := now - now % 1000000000 }, ?_, rfl, rfl, ?_,
    ?_⟩
  · simp only [Database.execute, Statement.execute, fresh]
    rw [World.counted_eq present, World.advance_advance]
    rfl
  · simp only [Database.execute, Statement.execute, fresh]
    simp [Tables.insert, Table.numbered]
  · intro table other
    exact Statement.execute_other (.insert .messages _) _ other

omit present in
theorem run_upsert_nil (environment : Environment)
    (absent : world.read conn = none) :
    (upsert conn message).run (World.handle environment) world =
      (none, world) := by
  have selected := run_sql_nil environment absent
    (.select .messages fun row : Message => row.id == message.id)
  exact Program.run_bind_none _ (Program.run_bind_none _
    (Program.run_bind_none _ selected))

end MessagesRepo

end Notifications.Models
