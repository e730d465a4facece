import Notifications.Web.Router
import Notifications.Web.System

/-!
# The running server

Requests arrive at any time and are served next to each other, through the
router and their stacks.  Every other event is one call of one of the requests,
with an environment that decides its answer.  What a request is allowed to do
is decided by the token in its `Authorization` header, and by nothing else.
-/

set_option autoImplicit false

namespace Notifications.Web.Serving

open Notifications.Lib Notifications.Models

variable [Collation]

/-! ## The machine -/

structure Exchange where
  request : HttpRequest
  /-- what is left of its stack -/
  program : Prog Stack.Response
  transaction : Option Txn

structure State where
  server : Server
  exchanges : List Exchange

/-- The transactions that the other requests have open. -/
def State.others (state : State) (index : Nat) : List Txn :=
  (state.exchanges.eraseIdx index).filterMap Exchange.transaction

inductive Event where
  | arrive (request : HttpRequest)
  /-- the next call of the request with this number -/
  | call (index : Nat) (environment : Environment)

/-- Whose call it was, and what the requests share before and after it. -/
structure Output where
  index : Nat
  request : HttpRequest
  /-- what the clock has shown, when that was the call -/
  clock : Option Int
  before : Server
  after : Server

def Exchange.arrived {mother : Mother} (router : Router mother)
    (request : HttpRequest) : Exchange :=
  ⟨request, router.serveHTTP request, none⟩

def reading : (op : Op) → Answer op → Option Int
  | .now, time => some time
  | _, _ => none

def system {mother : Mother} (router : Router mother) :
    Machine State Event Output where
  step state
    | .arrive request =>
        some (⟨state.server,
          state.exchanges ++ [.arrived router request]⟩, [])
    | .call index environment =>
        match state.exchanges[index]? with
        | none => none
        | some exchange =>
            match exchange.program with
            | .call op next => do
                let (answer, transaction, server) ← state.server.call
                  environment (state.others index) exchange.transaction op
                some (⟨server, state.exchanges.set index
                    ⟨exchange.request, next answer, transaction⟩⟩,
                  [⟨index, exchange.request, reading op answer, state.server,
                    server⟩])
            | _ => none

/-- A request arrives with the program that the router has for it. -/
theorem run_arrive {mother : Mother} {router : Router mother}
    {request : HttpRequest} {program : Prog Stack.Response}
    (served : router.serveHTTP request = program) (rest : List Event)
    (state : State) :
    (system router).run (.arrive request :: rest) state =
      (system router).run rest ⟨state.server,
        state.exchanges ++ [⟨request, program, none⟩]⟩ := by
  simp [Machine.run, system, Exchange.arrived, served]

/-- A call of one of the requests, with what came of it. -/
structure Called (state : State) (index : Nat) (environment : Environment)
    (exchange : Exchange) (op : Op) (rest : Answer op → Prog Stack.Response)
    (answer : Answer op) (transaction : Option Txn) (server : Server) :
    Prop where
  present : state.exchanges[index]? = some exchange
  running : exchange.program = .call op rest
  called : state.server.call environment (state.others index)
    exchange.transaction op = some (answer, transaction, server)

theorem step_cases {mother : Mother} {router : Router mother}
    {state next : State} {event : Event} {shown : List Output}
    (stepped : (system router).step state event = some (next, shown)) :
    (∃ request, event = .arrive request ∧ shown = [] ∧
      next = ⟨state.server, state.exchanges ++ [.arrived router request]⟩) ∨
    ∃ index environment exchange op rest answer transaction server,
      event = .call index environment ∧
      Called state index environment exchange op rest answer transaction
        server ∧
      next = ⟨server, state.exchanges.set index
        ⟨exchange.request, rest answer, transaction⟩⟩ ∧
      shown = [⟨index, exchange.request, reading op answer, state.server,
        server⟩] := by
  cases event with
  | arrive request =>
      cases stepped
      exact Or.inl ⟨request, rfl, rfl, rfl⟩
  | call index environment =>
      simp only [system] at stepped
      split at stepped
      · cases stepped
      · rename_i exchange present
        split at stepped
        · rename_i op rest here
          obtain ⟨⟨answer, transaction, server⟩, called, stepped⟩ :=
            Option.bind_eq_some_iff.mp stepped
          cases stepped
          exact Or.inr ⟨index, environment, exchange, op, rest, answer,
            transaction, server, rfl, ⟨present, here, called⟩, rfl, rfl⟩
        · cases stepped

theorem call_jobs {environment : Environment} {others : List Txn}
    {server after : Server} {transaction final : Option Txn} {op : Op}
    {answer : Answer op}
    (called : server.call environment others transaction op =
      some (answer, final, after)) :
    after.jobs = server.jobs ∨ ∃ job, op = .enqueue job := by
  cases op with
  | sql conn statement =>
      refine Or.inl ?_
      cases conn with
      | connection =>
          obtain ⟨⟨reply, changed⟩, direct, called⟩ :=
            Option.bind_eq_some_iff.mp called
          cases called
          simp only [Server.direct] at direct
          split at direct
          · cases direct
            rfl
          · split at direct
            · cases direct
            · cases direct
              rfl
      | transaction =>
          simp only [Server.call, Server.inTxn] at called
          split at called
          · cases called
            rfl
          · split at called
            · cases called
              rfl
            · split at called
              · cases called
              · obtain ⟨⟨result, kept, committed⟩, _, called⟩ :=
                  Option.bind_eq_some_iff.mp called
                cases called
                rfl
  | begin =>
      simp only [Server.call] at called
      split at called <;> cases called <;> exact Or.inl rfl
  | commit =>
      have ended := Option.some.inj called
      simp only [Server.finish] at ended
      split at ended
      · cases ended
        exact Or.inl rfl
      · split at ended <;> cases ended <;> exact Or.inl rfl
  | rollback =>
      have ended := Option.some.inj called
      simp only [Server.finish] at ended
      split at ended
      · cases ended
        exact Or.inl rfl
      · split at ended <;> cases ended <;> exact Or.inl rfl
  | enqueue job => exact Or.inr ⟨job, rfl⟩
  | now =>
      cases called
      exact Or.inl rfl
  | service service =>
      cases called
      exact Or.inl rfl
  | iterate keys =>
      cases called
      exact Or.inl rfl

/-! ## Calls that write certain tables only -/

/-- The call reads, or writes one of these tables; it enqueues when that is
allowed. -/
def Writes (tables : Table → Prop) (jobs : Prop) : Op → Prop
  | .sql _ statement => statement.reads = true ∨ tables statement.table
  | .enqueue _ => jobs
  | _ => True

omit [Collation] in
theorem Writes.weaken {few many : Table → Prop} {some more : Prop}
    (tables : ∀ table, few table → many table) (jobs : some → more) {op : Op}
    (writes : Writes few some op) : Writes many more op := by
  cases op with
  | sql conn statement => exact writes.imp_right (tables _)
  | enqueue job => exact jobs writes
  | _ => trivial

/-- All changes of the transaction are in these tables. -/
def WritingTxn (tables : Table → Prop) (txn : Txn) : Prop :=
  ∀ change ∈ txn.changes, tables change.table

omit [Collation] in
theorem Records.table {statement : Statement} {change : Change}
    (records : Txn.Records statement change) :
    change.table = statement.table ∧ statement.reads = false := by
  cases records with
  | insert table row number => exact ⟨rfl, rfl⟩
  | update table row => exact ⟨rfl, rfl⟩
  | delete table row => exact ⟨rfl, rfl⟩

theorem on_other {tables : Table → Prop} {txn : Txn}
    (writing : WritingTxn tables txn) (database : Database) {table : Table}
    (forbidden : ¬ tables table) :
    (txn.on database).tables.rows table = database.tables.rows table := by
  rw [Txn.on]
  unfold WritingTxn at writing
  generalize txn.changes = changes at writing
  induction changes generalizing database with
  | nil => rfl
  | cons change rest ih =>
      rw [List.foldl_cons, ih _ fun other member =>
        writing other (.tail _ member)]
      apply Database.apply_other
      intro same
      exact forbidden (same ▸ writing change (.head _))

theorem execute_other_table {statement : Statement} (database : Database)
    {tables : Table → Prop} {table : Table} (forbidden : ¬ tables table)
    (writes : statement.reads = true ∨ tables statement.table) :
    (database.execute statement).2.tables.rows table =
      database.tables.rows table := by
  change (statement.execute database.tables).2.rows table = _
  rcases writes with reads | allowed
  · rw [Statement.execute_of_reads reads]
  · apply Statement.execute_other
    rintro rfl
    exact forbidden allowed

theorem Effect.writes {tables : Table → Prop} {jobs : Prop}
    {before after : Database} {transaction final : Option Txn} {op : Op}
    (effect : Effect before transaction op final after)
    (permitted : Writes tables jobs op)
    (writing : ∀ txn ∈ transaction, WritingTxn tables txn) :
    (∀ table, ¬ tables table →
        after.tables.rows table = before.tables.rows table) ∧
      ∀ txn ∈ final, WritingTxn tables txn := by
  cases effect with
  | idle => exact ⟨fun _ _ => rfl, writing⟩
  | closed => exact ⟨fun _ _ => rfl, by simp⟩
  | opened =>
      refine ⟨fun _ _ => rfl, ?_⟩
      intro txn member
      cases member
      simp [WritingTxn, Txn.opened]
  | direct statement =>
      exact ⟨fun _ forbidden =>
        execute_other_table before forbidden permitted, writing⟩
  | @inside statement txn changed committed result current executed =>
      obtain ⟨rows, records⟩ := Txn.execute_cases executed
      refine ⟨fun table _ => by rw [rows], ?_⟩
      intro other member
      cases member
      have held := writing txn current
      rcases records with same | ⟨change, records, appended⟩
      · rw [WritingTxn, same]
        exact held
      · obtain ⟨table, writes⟩ := Records.table records
        intro other member
        rw [appended] at member
        rcases List.mem_append.mp member with old | new
        · exact held other old
        · rw [List.mem_singleton.mp new, table]
          rcases permitted with reads | allowed
          · rw [writes] at reads
            cases reads
          · exact allowed
  | @committed txn current =>
      refine ⟨fun table forbidden => ?_, by simp⟩
      exact on_other (writing txn current) before forbidden

end Notifications.Web.Serving
