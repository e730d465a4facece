import Notifications.Lib.Machine
import Notifications.Models.Transactions
import Notifications.Web.Handlers

/-!
# Requests next to each other

The handlers of all requests run at the same time.  Every event is one call of
one of them, with an environment that decides its answer, so a run is a history
of requests with their statements in some order.  A statement that waits for a
lock is an event that is not enabled.

An output says whose call it was, and how the committed tables were before and
after it.
-/

set_option autoImplicit false

namespace Notifications.Web

open Notifications.Lib Notifications.Models

variable [Collation]

structure Server where
  database : Database
  jobs : List Gobble.Row
  nextJobID : Nat

namespace Server

/-- A statement outside a transaction, next to the open ones. -/
def direct (environment : Environment) (opened : List Txn) (server : Server)
    (statement : Statement) : Option (Reply statement.Result × Server) :=
  match environment.faults 0 with
  | some text => some (.failed text, server)
  | none =>
      if opened.any (fun txn => txn.blocks statement) then
        none
      else
        some (World.reply (server.database.execute statement).1,
          { server with database := (server.database.execute statement).2 })

/-- A statement of a transaction, next to those of others. -/
def inTxn (environment : Environment) (others : List Txn) (server : Server)
    (transaction : Option Txn) (statement : Statement) :
    Option (Reply statement.Result × Option Txn × Server) :=
  match transaction with
  | none => some (.nilPointer, none, server)
  | some txn =>
      match environment.faults 0 with
      | some text => some (.failed text, some txn, server)
      | none =>
          if others.any (fun other => other.blocks statement) then
            none
          else do
            let (result, after, committed) ←
              txn.execute server.database statement
            some (World.reply result, some after,
              { server with database := committed })

/-- The end of a transaction; the answer of the server may be lost. -/
def finish (environment : Environment) (server : Server)
    (transaction : Option Txn) (outcome : Txn → Server) :
    Reply Unit × Option Txn × Server :=
  match transaction with
  | none => (.nilPointer, none, server)
  | some txn =>
      match environment.faults 0 with
      | some text => (.failed text, none, server)
      | none => (.ok (), none, outcome txn)

/-- A call of a request that has this transaction, next to the transactions of
the others. -/
def call (environment : Environment) (others : List Txn) (server : Server)
    (transaction : Option Txn) :
    (op : Op) → Option (Answer op × Option Txn × Server)
  | .sql .connection statement => do
      let (answer, after) ← server.direct environment
        (others ++ transaction.toList) statement
      some (answer, transaction, after)
  | .sql .transaction statement =>
      server.inTxn environment others transaction statement
  | .begin =>
      match environment.faults 0 with
      | some text => some (.error text, none, server)
      | none => some (.ok (), some .opened, server)
  | .commit =>
      some (server.finish environment transaction fun txn =>
        { server with database := txn.on server.database })
  | .rollback =>
      some (server.finish environment transaction fun _ => server)
  | .enqueue job =>
      match environment.faults 0 with
      | some text => some (.error text, transaction, server)
      | none =>
          let (jobs, inserted) :=
            Gobble.enqueue server.nextJobID server.jobs job
          some (.ok inserted, transaction,
            { server with jobs := jobs, nextJobID := server.nextJobID + 1 })
  | .now => some (environment.clock 0, transaction, server)
  | .service service =>
      some (environment.serve 0 service, transaction, server)
  | .iterate keys => some (environment.order keys, transaction, server)

end Server

structure Party where
  request : Request
  /-- what is left of its handler -/
  program : Prog (Option Refusal)
  transaction : Option Txn
  /-- the calls it has made, the latest first -/
  made : List Op

def Party.arrived (setup : Setup) (request : Request) : Party where
  request := request
  program := request.serve setup
  transaction := none
  made := []

def Party.moved (party : Party) (op : Op) (program : Prog (Option Refusal))
    (transaction : Option Txn) : Party :=
  { party with
    program := program
    transaction := transaction
    made := op :: party.made }

structure State where
  server : Server
  parties : List Party

/-- The transactions that the other parties have open. -/
def State.others (state : State) (index : Nat) : List Txn :=
  (state.parties.eraseIdx index).filterMap Party.transaction

structure Event where
  party : Nat
  environment : Environment

structure Output where
  party : Nat
  before : Database
  after : Database

def system : Machine State Event Output where
  step state event :=
    match state.parties[event.party]? with
    | none => none
    | some party =>
        match party.program with
        | .call op next => do
            let (answer, transaction, server) ← state.server.call
              event.environment (state.others event.party) party.transaction op
            some (⟨server, state.parties.set event.party
                (party.moved op (next answer) transaction)⟩,
              [⟨event.party, state.server.database, server.database⟩])
        | _ => none

/-- The requests have arrived, and none has made a call. -/
def State.initial (setup : Setup) (server : Server)
    (requests : List Request) : State :=
  ⟨server, requests.map (Party.arrived setup)⟩

/-! ## What a step can do -/

/-- A call of one of the parties, with what came of it. -/
structure Called (state : State) (event : Event) (party : Party) (op : Op)
    (rest : Answer op → Prog (Option Refusal)) (answer : Answer op)
    (transaction : Option Txn) (server : Server) : Prop where
  present : state.parties[event.party]? = some party
  running : party.program = .call op rest
  called : state.server.call event.environment (state.others event.party)
    party.transaction op = some (answer, transaction, server)

theorem step_called {state next : State} {event : Event}
    {shown : List Output}
    (stepped : system.step state event = some (next, shown)) :
    ∃ party op rest answer transaction server,
      Called state event party op rest answer transaction server ∧
      next = ⟨server, state.parties.set event.party
        (party.moved op (rest answer) transaction)⟩ ∧
      shown = [⟨event.party, state.server.database, server.database⟩] := by
  simp only [system] at stepped
  split at stepped
  · cases stepped
  · rename_i party present
    split at stepped
    · rename_i op rest here
      obtain ⟨⟨answer, transaction, server⟩, called, stepped⟩ :=
        Option.bind_eq_some_iff.mp stepped
      cases stepped
      exact ⟨party, op, rest, answer, transaction, server,
        ⟨present, here, called⟩, rfl, rfl⟩
    · cases stepped

/-- What a call does to the caller's transaction and to the committed
tables. -/
inductive Effect (before : Database) (transaction : Option Txn) :
    Op → Option Txn → Database → Prop where
  | idle (op : Op) : Effect before transaction op transaction before
  /-- a nil pointer, a failed `Begin`, or the end without a commit -/
  | closed (op : Op) : Effect before transaction op none before
  | opened : Effect before transaction .begin (some .opened) before
  | direct (statement : Statement) :
      Effect before transaction (.sql .connection statement) transaction
        (before.execute statement).2
  | inside (statement : Statement) {txn after : Txn} {committed : Database}
      {result : Except String statement.Result}
      (current : transaction = some txn)
      (executed : txn.execute before statement =
        some (result, after, committed)) :
      Effect before transaction (.sql .transaction statement) (some after)
        committed
  | committed {txn : Txn} (current : transaction = some txn) :
      Effect before transaction .commit none (txn.on before)

section Calls

variable {environment : Environment} {others : List Txn}
  {server after : Server} {transaction final : Option Txn}

theorem direct_cases {statement : Statement}
    {answer : Reply statement.Result}
    (called : server.direct environment others statement =
      some (answer, after)) :
    (∃ text, answer = .failed text ∧ after = server) ∨
      (answer = World.reply (server.database.execute statement).1 ∧
        after.database = (server.database.execute statement).2) := by
  unfold Server.direct at called
  split at called
  · rename_i text failed
    cases called
    exact Or.inl ⟨text, rfl, rfl⟩
  · split at called
    · cases called
    · cases called
      exact Or.inr ⟨rfl, rfl⟩

theorem finish_effect {op : Op} {outcome : Txn → Server}
    {answer : Reply Unit}
    (ended : server.finish environment transaction outcome =
      (answer, final, after))
    (effect : ∀ txn, transaction = some txn →
      Effect server.database transaction op none (outcome txn).database) :
    Effect server.database transaction op final after.database := by
  unfold Server.finish at ended
  split at ended
  · cases ended
    exact .closed op
  · rename_i txn
    split at ended
    · cases ended
      exact .closed op
    · cases ended
      exact effect txn rfl

theorem inTxn_effect {statement : Statement}
    {answer : Reply statement.Result}
    (called : server.inTxn environment others transaction statement =
      some (answer, final, after)) :
    Effect server.database transaction (.sql .transaction statement) final
      after.database := by
  unfold Server.inTxn at called
  split at called
  · cases called
    exact .closed _
  · split at called
    · cases called
      exact .idle _
    · split at called
      · cases called
      · obtain ⟨⟨result, kept, committed⟩, executed, called⟩ :=
          Option.bind_eq_some_iff.mp called
        cases called
        exact .inside statement rfl executed

theorem call_effect {op : Op} {answer : Answer op}
    (called : server.call environment others transaction op =
      some (answer, final, after)) :
    Effect server.database transaction op final after.database := by
  cases op with
  | sql conn statement =>
      cases conn with
      | connection =>
          obtain ⟨⟨reply, changed⟩, direct, called⟩ :=
            Option.bind_eq_some_iff.mp called
          cases called
          rcases direct_cases direct with ⟨text, _, rfl⟩ | ⟨_, stored⟩
          · exact .idle _
          · rw [stored]
            exact .direct statement
      | transaction => exact inTxn_effect called
  | begin =>
      simp only [Server.call] at called
      split at called
      · cases called
        exact .closed _
      · cases called
        exact .opened
  | commit =>
      apply finish_effect (Option.some.inj called)
      intro txn current
      exact .committed current
  | rollback =>
      apply finish_effect (Option.some.inj called)
      intro txn _
      exact .closed _
  | enqueue job =>
      simp only [Server.call] at called
      split at called <;> cases called <;> exact .idle _
  | now =>
      cases called
      exact .idle _
  | service service =>
      cases called
      exact .idle _
  | iterate keys =>
      cases called
      exact .idle _

end Calls

end Notifications.Web
