import Notifications.Lib.Contract
import Notifications.Web.System

/-!
# A row that one request copies and writes back

The first request of a run reads a row, and later writes its copy of the row
back outside any transaction, while the other requests go on.  Between the read
and the write the copy says what the table says only as long as the others
leave the row alone.

`Watch.contract` says what such a request may do with the row, given what it
has read of it, and `kept_of_meets` what follows for the whole run.
-/

set_option autoImplicit false

namespace Notifications.Web

open Notifications.Lib Notifications.Models

structure Settings where
  description : String
  critical : Bool
  templateID : String
  deriving DecidableEq, Repr

def settingsOf : (table : Table) → table.Row → Settings
  | .clients, row => ⟨row.description, false, row.templateID⟩
  | .kinds, row => ⟨row.description, row.critical, row.templateID⟩
  | _, _ => ⟨"", false, ""⟩

abbrev Facts : Type := PrimaryKey × Settings

def factsOf (table : Table) (row : table.Row) : Facts :=
  (table.primaryKey row, settingsOf table row)

/-- A row, and whether the first request writes its copy of it back. -/
structure Watch where
  table : Table
  key : List String
  active : Bool

/-- What the first request knows about the row. -/
inductive Knowledge where
  /-- two of its reads differ, which only another request can cause -/
  | refuted
  | unread
  | read (row : Option Facts)
  | written
  deriving DecidableEq, Repr

def Knowledge.seen (knowledge : Knowledge) (found : Option Facts) :
    Knowledge :=
  match knowledge with
  | unread => read found
  | read row => if row = found then read row else refuted
  | knowledge => knowledge

def readsFrom (table : Table) : Op → Bool
  | .sql _ (.select used _) => decide (used = table)
  | _ => false

def writesTo (table : Table) : Op → Bool
  | .sql _ (.insert used _) => decide (used = table)
  | .sql _ (.update used _) => decide (used = table)
  | _ => false

variable [Collation]

def Party.running (party : Party) : Bool :=
  match party.program with
  | .call _ _ => true
  | _ => false

namespace Watch

variable (watch : Watch)

def view (database : Database) : Option Facts :=
  (database.tables.lookup watch.table watch.key).map (factsOf watch.table)

def settings (database : Database) : Option Settings :=
  (watch.view database).map Prod.snd

/-- The settings after a call: those that another request has set last. -/
def settle (current : Option Settings) (output : Output) : Option Settings :=
  if output.party = 0 ∨
      watch.settings output.after = watch.settings output.before then
    current
  else
    watch.settings output.after

def lastSet (start : Option Settings) (trace : List Output) :
    Option Settings :=
  trace.foldl watch.settle start

/-- The first request has read the table, and has a write still to come. -/
def window (state : State) : Bool :=
  match state.parties[0]? with
  | none => false
  | some party =>
      party.running && party.made.any (readsFrom watch.table) &&
        !party.made.any (writesTo watch.table)

/-- The call leaves the row and its settings as they are. -/
def leaves (state : State) (event : Event) : Bool :=
  (system.step state event).all fun after =>
    decide (watch.view after.1.server.database =
      watch.view state.server.database)

/-- The others leave the row alone between the read and the write. -/
def Undisturbed (state : State) (event : Event) : Prop :=
  event.party ≠ 0 → watch.active = true → watch.window state = true →
    watch.leaves state event = true

instance (state : State) (event : Event) :
    Decidable (watch.Undisturbed state event) :=
  inferInstanceAs (Decidable (_ → _ → _ → _))

/-! ## The contract -/

def fits (knowledge : Knowledge) : Op → Prop
  | .sql conn (.select table wanted) => table = watch.table →
      conn = .connection ∧
        ∀ row, wanted row = (table.uniqueKey row == watch.key)
  | .sql conn (.insert table row) => table = watch.table →
      conn = .connection ∧ table.uniqueKey row = watch.key ∧
        knowledge = .read none
  | .sql conn (.update table row) => table = watch.table →
      conn = .connection ∧ table.uniqueKey row = watch.key ∧
        knowledge = .read (some (factsOf table row))
  | .sql _ (.delete table _) => table ≠ watch.table
  | .sql _ (.upsertReceipt _) => Table.receipts ≠ watch.table
  | _ => True

def learn (knowledge : Knowledge) : (op : Op) → Answer op → Knowledge
  | .sql _ (.select table _), .ok rows =>
      if table = watch.table ∧ watch.active = true then
        knowledge.seen (rows.head?.map (factsOf table))
      else
        knowledge
  | .sql _ (.insert table _), _ =>
      if table = watch.table then .written else knowledge
  | .sql _ (.update table _), _ =>
      if table = watch.table then .written else knowledge
  | _, _ => knowledge

def contract : Contract Op Answer Knowledge where
  may knowledge op := knowledge = .refuted ∨ watch.fits knowledge op
  possible op answer :=
    match op, answer with
    | .sql _ (.select _ wanted), .ok rows => ∀ row ∈ rows, wanted row = true
    | _, _ => True
  learn knowledge op answer :=
    if knowledge = .refuted then .refuted else watch.learn knowledge op answer

/-! ## Calls of the first request -/

/-- What is known is true, and the window is open as long as it matters. -/
def Matches (made : List Op) (database : Database) : Knowledge → Prop
  | .refuted => False
  | .unread => made.any (writesTo watch.table) = false
  | .read row => made.any (readsFrom watch.table) = true ∧
      made.any (writesTo watch.table) = false ∧ watch.view database = row ∧
      watch.active = true
  | .written => True

/-- The transaction has no change of the table. -/
def Spares (txn : Txn) : Prop :=
  ∀ change ∈ txn.changes, change.table ≠ watch.table

variable {watch} {before after : Database} {knowledge : Knowledge}
  {made : List Op}

theorem view_of_rows
    (same : after.tables.rows watch.table = before.tables.rows watch.table) :
    watch.view after = watch.view before := by
  rw [view, view, Tables.lookup, Tables.lookup, same]

theorem view_apply {change : Change} (other : change.table ≠ watch.table) :
    watch.view (before.apply change) = watch.view before :=
  view_of_rows (before.apply_other other.symm)

theorem view_on {txn : Txn} (spares : watch.Spares txn) :
    watch.view (txn.on before) = watch.view before := by
  unfold Txn.on
  unfold Spares at spares
  generalize txn.changes = changes at spares
  induction changes generalizing before with
  | nil => rfl
  | cons change rest ih =>
      have first := @view_apply _ watch before change (spares change (.head _))
      exact (ih fun later member => spares later (.tail _ member)).trans first

theorem view_update {row : watch.table.Row}
    (keyed : watch.table.uniqueKey row = watch.key)
    (known : watch.view before = some (factsOf watch.table row)) :
    watch.view (before.execute (.update watch.table row)).2 =
      watch.view before := by
  obtain ⟨old, found, same⟩ := Option.map_eq_some_iff.mp known
  rw [← keyed] at found
  have primary : watch.table.primaryKey old = watch.table.primaryKey row :=
    congrArg Prod.fst same
  have puts := (Database.update_puts found primary).2.lookup watch.key
  rw [known, view, puts, keyed, if_pos rfl]
  rfl

theorem view_execute {statement : Statement}
    (matched : watch.Matches made before knowledge)
    (fits : watch.fits knowledge (.sql .connection statement)) :
    watch.view (before.execute statement).2 = watch.view before ∨
      writesTo watch.table (.sql .connection statement) = true ∧
        watch.view before = none := by
  by_cases same : statement.table = watch.table
  · cases statement with
    | select table wanted => exact Or.inl rfl
    | insert table row =>
        obtain ⟨_, _, rfl⟩ := fits same
        exact Or.inr ⟨decide_eq_true same, matched.2.2.1⟩
    | update table row =>
        have here : table = watch.table := same
        subst here
        obtain ⟨_, keyed, rfl⟩ := fits rfl
        exact Or.inl (view_update keyed matched.2.2.1)
    | delete table row => exact absurd same fits
    | upsertReceipt receipt => exact absurd same fits
    | selectPreferences userGUID => exact Or.inl rfl
  · exact Or.inl (view_of_rows
      (statement.execute_other before.tables (Ne.symm same)))

theorem spares_of_records {statement : Statement} {change : Change}
    (fits : watch.fits knowledge (.sql .transaction statement))
    (records : Txn.Records statement change) :
    change.table ≠ watch.table := by
  intro same
  cases records with
  | insert table row number => cases (fits same).1
  | update table row => cases (fits same).1
  | delete table row => exact fits same

theorem spares_execute {txn moved : Txn} {statement : Statement}
    {result : Except String statement.Result}
    (spares : watch.Spares txn)
    (fits : watch.fits knowledge (.sql .transaction statement))
    (executed : txn.execute before statement = some (result, moved, after)) :
    watch.Spares moved := by
  intro change member
  rcases (Txn.execute_cases executed).2 with kept | ⟨new, records, added⟩
  · rw [kept] at member
    exact spares change member
  · rw [added] at member
    rcases List.mem_append.mp member with old | last
    · exact spares change old
    · rw [List.mem_singleton.mp last]
      exact spares_of_records fits records

/-- A call that the contract allows changes no settings of a row that is
there. -/
theorem effect_own {op : Op} {transaction final : Option Txn}
    (effect : Effect before transaction op final after)
    (matched : watch.Matches made before knowledge)
    (fits : watch.fits knowledge op)
    (spares : ∀ txn ∈ transaction, watch.Spares txn) :
    (watch.view after = watch.view before ∨
      writesTo watch.table op = true ∧ watch.view before = none) ∧
    ∀ txn ∈ final, watch.Spares txn := by
  cases effect with
  | idle => exact ⟨Or.inl rfl, spares⟩
  | closed => exact ⟨Or.inl rfl, by simp⟩
  | opened =>
      refine ⟨Or.inl rfl, ?_⟩
      intro txn member
      cases member
      intro change none
      cases none
  | direct statement => exact ⟨view_execute matched fits, spares⟩
  | inside statement current executed =>
      have same := (Txn.execute_cases executed).1
      refine ⟨Or.inl (view_of_rows (congrFun same _)), ?_⟩
      intro txn member
      cases member
      exact spares_execute (spares _ current) fits executed
  | committed current =>
      exact ⟨Or.inl (view_on (spares _ current)), by simp⟩

/-! ## What is learned is true -/

theorem matches_cons {op : Op} (matched : watch.Matches made before knowledge)
    (silent : writesTo watch.table op = false)
    (same : watch.view after = watch.view before) :
    watch.Matches (op :: made) after knowledge := by
  cases knowledge with
  | refuted => exact matched
  | unread => simpa [Matches, silent] using matched
  | read row =>
      obtain ⟨reads, unwritten, known, active⟩ := matched
      exact ⟨by simp [reads], by simp [silent, unwritten], same.trans known,
        active⟩
  | written => trivial

theorem matches_seen {conn : Conn} {wanted : watch.table.Row → Bool}
    (matched : watch.Matches made before knowledge)
    (active : watch.active = true)
    (same : watch.view after = watch.view before) :
    watch.Matches (.sql conn (.select watch.table wanted) :: made) after
      (knowledge.seen (watch.view before)) := by
  have silent : writesTo watch.table
      (.sql conn (.select watch.table wanted)) = false := rfl
  have reading : readsFrom watch.table
      (.sql conn (.select watch.table wanted)) = true := decide_eq_true rfl
  cases knowledge with
  | refuted => exact matched
  | unread =>
      refine ⟨by simp [reading], ?_, same, active⟩
      rw [List.any_cons, silent, Bool.false_or]
      exact matched
  | read row =>
      have known : row = watch.view before := matched.2.2.1.symm
      rw [Knowledge.seen, if_pos known]
      exact matches_cons matched silent same
  | written => trivial

theorem head_filter {wanted : watch.table.Row → Bool}
    (byKey : ∀ row, wanted row = (watch.table.uniqueKey row == watch.key)) :
    ((before.tables.rows watch.table).filter wanted).head?.map
      (factsOf watch.table) = watch.view before := by
  rw [before.sound.filter_eq byKey, view]
  cases before.tables.lookup watch.table watch.key <;> rfl

omit [Collation] in
theorem learn_of_writes {op : Op} (writes : writesTo watch.table op = true)
    (answer : Answer op) : watch.learn knowledge op answer = .written := by
  cases op with
  | sql conn statement =>
      cases statement with
      | insert table row =>
          have same : table = watch.table := of_decide_eq_true writes
          simp only [learn]
          rw [if_pos same]
      | update table row =>
          have same : table = watch.table := of_decide_eq_true writes
          simp only [learn]
          rw [if_pos same]
      | _ => cases writes
  | _ => cases writes

omit [Collation] in
theorem learn_of_other {op : Op} (silent : writesTo watch.table op = false)
    (unread : readsFrom watch.table op = false) (answer : Answer op) :
    watch.learn knowledge op answer = knowledge := by
  cases op with
  | sql conn statement =>
      cases statement with
      | select table wanted =>
          have other : table ≠ watch.table := of_decide_eq_false unread
          cases answer with
          | ok rows =>
              simp only [learn]
              rw [if_neg fun both => other both.1]
          | _ => rfl
      | insert table row =>
          have other : table ≠ watch.table := of_decide_eq_false silent
          simp only [learn]
          rw [if_neg other]
      | update table row =>
          have other : table ≠ watch.table := of_decide_eq_false silent
          simp only [learn]
          rw [if_neg other]
      | _ => rfl
  | _ => rfl

theorem contract_learn (informed : knowledge ≠ .refuted) (op : Op)
    (answer : Answer op) :
    watch.contract.learn knowledge op answer =
      watch.learn knowledge op answer :=
  if_neg informed

section Called

variable {environment : Environment} {others : List Txn}
  {server moved : Server} {transaction final : Option Txn}

theorem matches_learn {op : Op} {answer : Answer op}
    (called : server.call environment others transaction op =
      some (answer, final, moved))
    (matched : watch.Matches made server.database knowledge)
    (fits : watch.fits knowledge op)
    (spares : ∀ txn ∈ transaction, watch.Spares txn) :
    watch.Matches (op :: made) moved.database
      (watch.learn knowledge op answer) := by
  have effect := call_effect called
  cases writes : writesTo watch.table op with
  | true =>
      rw [learn_of_writes writes]
      trivial
  | false =>
      have same : watch.view moved.database = watch.view server.database := by
        rcases (effect_own effect matched fits spares).1 with same | wrote
        · exact same
        · rw [wrote.1] at writes
          cases writes
      cases reads : readsFrom watch.table op with
      | false =>
          rw [learn_of_other writes reads]
          exact matches_cons matched writes same
      | true =>
          cases op with
          | sql conn statement =>
              cases statement with
              | select table wanted =>
                  have here : table = watch.table := of_decide_eq_true reads
                  subst here
                  obtain ⟨rfl, byKey⟩ := fits rfl
                  obtain ⟨⟨reply, changed⟩, direct, called⟩ :=
                    Option.bind_eq_some_iff.mp called
                  cases called
                  rcases direct_cases direct with ⟨text, rfl, _⟩ | ⟨rfl, _⟩
                  · exact matches_cons matched writes same
                  · simp only [Database.execute, Statement.execute,
                      World.reply, learn, true_and]
                    split
                    · rename_i active
                      rw [head_filter byKey]
                      exact matches_seen matched active same
                    · exact matches_cons matched writes same
              | _ => cases reads
          | _ => cases reads

theorem possible_of_call {op : Op} {answer : Answer op}
    (called : server.call environment others transaction op =
      some (answer, final, moved)) :
    watch.contract.possible op answer := by
  cases op with
  | sql conn statement =>
      cases statement with
      | select table wanted =>
          cases conn with
          | connection =>
              obtain ⟨⟨reply, changed⟩, direct, called⟩ :=
                Option.bind_eq_some_iff.mp called
              cases called
              rcases direct_cases direct with ⟨text, rfl, _⟩ | ⟨rfl, _⟩
              · trivial
              · intro row member
                exact (List.mem_filter.mp member).2
          | transaction =>
              simp only [Server.call, Server.inTxn] at called
              split at called
              · cases called
                trivial
              · split at called
                · cases called
                  trivial
                · split at called
                  · cases called
                  · cases called
                    intro row member
                    exact (List.mem_filter.mp member).2
      | _ => trivial
  | _ => trivial

end Called

end Watch

/-! ## Runs -/

namespace Watch

/-- What the first request has left to do meets the contract, and what the
others have set is still there. -/
structure Holds (watch : Watch) (start : Option Settings)
    (trace : List Output) (state : State) : Prop where
  first : ∃ party, state.parties[0]? = some party ∧
    (∀ txn ∈ party.transaction, watch.Spares txn) ∧
    ∃ knowledge,
      party.program.Meets watch.contract (fun _ _ => True) knowledge ∧
      (party.running = true →
        watch.Matches party.made state.server.database knowledge)
  kept : ∀ settings, watch.lastSet start trace = some settings →
    watch.settings state.server.database = some settings

variable {watch : Watch} {start : Option Settings}

theorem lastSet_append (trace shown : List Output) :
    watch.lastSet start (trace ++ shown) =
      watch.lastSet (watch.lastSet start trace) shown :=
  List.foldl_append

theorem step_own {trace : List Output} {state : State} {event : Event}
    {party : Party} {op : Op} {rest : Answer op → Prog (Option Refusal)}
    {answer : Answer op} {transaction : Option Txn} {server : Server}
    (holds : watch.Holds start trace state) (own : event.party = 0)
    (called : Called state event party op rest answer transaction server) :
    watch.Holds start
      (trace ++ [⟨event.party, state.server.database, server.database⟩])
      ⟨server, state.parties.set event.party
        (party.moved op (rest answer) transaction)⟩ := by
  obtain ⟨first, present, spares, knowledge, meets, matched⟩ := holds.first
  have here := called.present
  rw [own, present] at here
  cases here
  have running : party.running = true := by
    rw [Party.running, called.running]
  have matched := matched running
  rw [called.running] at meets
  obtain ⟨may, next⟩ := meets
  have informed : knowledge ≠ .refuted := by
    rintro rfl
    exact matched
  have fits := may.resolve_left informed
  have effect := call_effect called.called
  obtain ⟨unchanged, spared⟩ := effect_own effect matched fits spares
  have learned := next answer (possible_of_call called.called)
  rw [contract_learn informed] at learned
  constructor
  · refine ⟨party.moved op (rest answer) transaction, ?_, spared,
      watch.learn knowledge op answer, learned, ?_⟩
    · have inside := (List.getElem?_eq_some_iff.mp present).1
      simp [own, inside]
    · intro _
      exact matches_learn called.called matched fits spares
  · intro settings last
    rw [lastSet_append] at last
    have same : watch.lastSet start trace = some settings := by
      simpa [lastSet, settle, own] using last
    have stored := holds.kept settings same
    rcases unchanged with kept | ⟨_, missing⟩
    · simpa [Watch.settings, kept] using stored
    · simp [Watch.settings, missing] at stored

theorem matches_of_same {made : List Op} {before after : Database}
    {knowledge : Knowledge} (matched : watch.Matches made before knowledge)
    (same : ∀ row, knowledge = .read row →
      watch.view after = watch.view before) :
    watch.Matches made after knowledge := by
  cases knowledge with
  | read row =>
      obtain ⟨reads, unwritten, known, active⟩ := matched
      exact ⟨reads, unwritten, (same row rfl).trans known, active⟩
  | _ => exact matched

theorem step_other {trace : List Output} {state next : State} {event : Event}
    {party : Party} {op : Op} {rest : Answer op → Prog (Option Refusal)}
    {answer : Answer op} {transaction : Option Txn} {server : Server}
    (holds : watch.Holds start trace state) (other : event.party ≠ 0)
    (undisturbed : watch.Undisturbed state event)
    (stepped : system.step state event =
      some (next, [⟨event.party, state.server.database, server.database⟩]))
    (moved : next = ⟨server, state.parties.set event.party
      (party.moved op (rest answer) transaction)⟩) :
    watch.Holds start
      (trace ++ [⟨event.party, state.server.database, server.database⟩])
      next := by
  obtain ⟨first, present, spares, knowledge, meets, matched⟩ := holds.first
  constructor
  · refine ⟨first, ?_, spares, knowledge, meets, ?_⟩
    · rw [moved, List.getElem?_set_ne other]
      exact present
    · intro running
      apply matches_of_same (matched running)
      rintro row rfl
      obtain ⟨reads, unwritten, _, active⟩ := matched running
      have opened : watch.window state = true := by
        simp only [window, present, running, reads, unwritten]
        rfl
      have same := undisturbed other active opened
      rw [leaves, stepped] at same
      exact of_decide_eq_true same
  · intro settings last
    rw [lastSet_append] at last
    have here : next.server.database = server.database := by rw [moved]
    rw [here]
    simp only [lastSet, List.foldl_cons, List.foldl_nil, settle] at last
    split at last
    · rename_i same
      rw [same.resolve_left other]
      exact holds.kept settings last
    · exact last

theorem step_holds {trace shown : List Output} {state next : State}
    {event : Event} (holds : watch.Holds start trace state)
    (undisturbed : watch.Undisturbed state event)
    (stepped : system.step state event = some (next, shown)) :
    watch.Holds start (trace ++ shown) next := by
  obtain ⟨party, op, rest, answer, transaction, server, called, moved, rfl⟩ :=
    step_called stepped
  by_cases own : event.party = 0
  · rw [moved]
    exact step_own holds own called
  · exact step_other holds own undisturbed stepped moved

/-- In a run in which the others leave the row alone between the read and the
write, what they set stays. -/
theorem kept_of_meets {setup : Setup} {server : Server} {request : Request}
    {others : List Request} {events : List Event} {final : State}
    {trace : List Output}
    (meets : (request.serve setup).Meets watch.contract (fun _ _ => True)
      .unread)
    (guarded : system.Guarded watch.Undisturbed events
      (.initial setup server (request :: others)))
    (ran : system.run events (.initial setup server (request :: others)) =
      some (final, trace))
    {settings : Settings}
    (last : watch.lastSet (watch.settings server.database) trace =
      some settings) :
    watch.settings final.server.database = some settings := by
  have holds := system.run_invariant watch.Undisturbed
    (watch.Holds (watch.settings server.database)) ?_ events [] _ final trace
    ?_ guarded ran
  · exact holds.kept settings last
  · intro trace state event next shown holds undisturbed stepped
    exact step_holds holds undisturbed stepped
  · refine ⟨⟨.arrived setup request, rfl, by simp [Party.arrived], .unread,
      meets, fun _ => rfl⟩, ?_⟩
    intro settings same
    exact same

end Watch

end Notifications.Web
