import Notifications.Models.Preferences
import Notifications.Models.Storing
import Notifications.Postal.Attempts

/-!
# What the receipts count

`Deliver` writes the receipt before anything that can fail, and a retried job
comes to that statement again.  So the count of a user, client and kind is the
number of notifications exactly as long as no notification is attempted twice
and no first attempt fails to write its receipt.
-/

set_option autoImplicit false

namespace Notifications.Models

open Notifications.Lib

variable [Collation]

/-! ## The receipt of one statement -/

theorem Tables.lookup_countReceipt (tables : Tables) (receipt : Receipt)
    (key : List String) :
    (tables.countReceipt receipt).lookup .receipts key =
      (tables.lookup .receipts key).map fun old =>
        if Table.receipts.uniqueKey old ==
            Table.receipts.uniqueKey receipt then
          { old with count := old.count + 1 }
        else old := by
  simp only [lookup, countReceipt, set_rows_same, updateWhere,
    List.find?_map]
  congr 2
  funext old
  simp only [Function.comp_apply]
  split <;> rfl

theorem received_upsertReceipt (tables : Tables) (receipt : Receipt)
    (one : receipt.count = 1) (userGUID clientID kindID : String) :
    received ((Statement.upsertReceipt receipt).execute tables).2 userGUID
        clientID kindID =
      received tables userGUID clientID kindID +
        if Collation.key [userGUID, clientID, kindID] =
            Table.receipts.uniqueKey receipt
        then 1 else 0 := by
  simp only [Statement.execute, Tables.clashes_eq]
  split
  · rename_i present
    simp only [received, Tables.lookup_countReceipt]
    cases found : tables.lookup .receipts
      (Collation.key [userGUID, clientID, kindID]) with
    | none =>
        have other : Collation.key [userGUID, clientID, kindID] ≠
            Table.receipts.uniqueKey receipt := by
          intro same
          rw [← same, found] at present
          cases present
        simp [other]
    | some row =>
        have keyed := (Tables.lookup_eq_some found).2
        by_cases same : Collation.key [userGUID, clientID, kindID] =
            Table.receipts.uniqueKey receipt
        · simp [same, keyed]
        · simp [same, keyed]
  · rename_i absent
    have free : tables.lookup .receipts
        (Table.receipts.uniqueKey receipt) = none := by
      simpa using absent
    simp only [received, Tables.lookup_insert free]
    by_cases same : Collation.key [userGUID, clientID, kindID] =
        Table.receipts.uniqueKey receipt
    · simp [same, free, Table.numbered, one]
    · simp [same]

theorem received_congr {before after : Tables}
    (same : after.rows .receipts = before.rows .receipts)
    (userGUID clientID kindID : String) :
    received after userGUID clientID kindID =
      received before userGUID clientID kindID := by
  simp [received, Tables.lookup, same]

end Notifications.Models

namespace Notifications.Postal.Attempts

open Notifications.Lib Notifications.Models

section Collated

variable [Collation]

/-! ## Distinct notifications -/

def Notification.isFor (entry : Notification)
    (userGUID clientID kindID : String) : Bool :=
  entry.userGUID == Collation.weight userGUID &&
    entry.clientID == Collation.weight clientID &&
    entry.kindID == Collation.weight kindID

/-- The IDs of the messages for this user, client and kind that have been
processed. -/
def messageIDs (processed : List Notification)
    (userGUID clientID kindID : String) : Finset String :=
  ((processed.filter fun entry =>
    entry.isFor userGUID clientID kindID).map Notification.messageID).toFinset

section Distinct

variable {processed : List Notification} {entry : Notification}
  {userGUID clientID kindID : String}

theorem isFor_iff :
    entry.isFor userGUID clientID kindID = true ↔
      Collation.key [userGUID, clientID, kindID] =
        [entry.userGUID, entry.clientID, entry.kindID] := by
  simp only [Notification.isFor, Collation.key, List.map_cons, List.map_nil,
    Bool.and_eq_true, beq_iff_eq, List.cons.injEq, and_true, and_assoc]
  constructor
  · rintro ⟨user, client, kind⟩
    exact ⟨user.symm, client.symm, kind.symm⟩
  · rintro ⟨user, client, kind⟩
    exact ⟨user.symm, client.symm, kind.symm⟩

theorem mem_messageIDs
    (keyed : entry.isFor userGUID clientID kindID = true) :
    entry.messageID ∈ messageIDs processed userGUID clientID kindID ↔
      entry ∈ processed := by
  simp only [messageIDs, List.mem_toFinset, List.mem_map, List.mem_filter]
  constructor
  · rintro ⟨other, ⟨member, same⟩, named⟩
    have equal : other = entry := by
      cases other
      cases entry
      simp_all [Notification.isFor]
    exact equal ▸ member
  · intro member
    exact ⟨entry, ⟨member, keyed⟩, rfl⟩

/-- One more attempt is one more notification if it is the first one. -/
theorem card_messageIDs_append :
    (messageIDs (processed ++ [entry]) userGUID clientID kindID).card =
      (messageIDs processed userGUID clientID kindID).card +
        if entry.isFor userGUID clientID kindID = true ∧ entry ∉ processed
        then 1 else 0 := by
  by_cases keyed : entry.isFor userGUID clientID kindID = true
  · have grown : messageIDs (processed ++ [entry]) userGUID clientID kindID =
        insert entry.messageID
          (messageIDs processed userGUID clientID kindID) := by
      ext id
      simp [messageIDs, List.filter_append, keyed]
    rw [grown]
    by_cases seen : entry ∈ processed
    · rw [Finset.insert_eq_of_mem ((mem_messageIDs keyed).mpr seen)]
      simp [seen]
    · rw [Finset.card_insert_of_notMem
        fun member => seen ((mem_messageIDs keyed).mp member)]
      simp [keyed, seen]
  · simp [messageIDs, List.filter_append, keyed]

end Distinct

/-- The receipts count the notifications that have been processed. -/
def Counts (state : State) : Prop :=
  ∀ userGUID clientID kindID,
    received state.database.tables userGUID clientID kindID =
      (messageIDs state.history.processed userGUID clientID kindID).card

/-- The notification whose receipt the event writes, and whether the statement
succeeds. -/
def State.receipt (worker : Worker) (state : State) :
    Event → Option (Notification × Bool)
  | .call name environment =>
      match state.workers name with
      | .delivering job _ (.call op _) =>
          if isReceipt op then
            (worker.delivery job).map fun delivery =>
              (notification delivery, (environment.faults 0).isNone)
          else
            none
      | _ => none
  | _ => none

/-- An attempt writes its receipt exactly if it is the first one for its
notification that comes so far. -/
def FirstOnly (worker : Worker) (state : State) (event : Event) : Prop :=
  ∀ written ∈ state.receipt worker event,
    (written.2 = true ↔ written.1 ∉ state.history.processed)

instance (worker : Worker) (state : State) (event : Event) :
    Decidable (FirstOnly worker state event) :=
  inferInstanceAs (Decidable (∀ written ∈ state.receipt worker event,
    (written.2 = true ↔ written.1 ∉ state.history.processed)))

/-! ## The calls of an attempt -/

/-- The receipt that an attempt writes is for its delivery, and it leaves the
other receipts alone. -/
def Own (delivery : Option Delivery) : Op → Prop
  | .sql conn (.upsertReceipt receipt) =>
      conn = .connection ∧ receipt.count = 1 ∧
        ∃ own, delivery = some own ∧ Table.receipts.uniqueKey receipt =
          Collation.key [own.userGUID, own.clientID, own.options.kindID]
  | .sql _ statement => foreign statement = true
  | _ => True

section Programs

variable {own : Option Delivery}

theorem own_of_quiet {op : Op} (quiet : Quiet op) : Own own op := by
  cases op with
  | sql conn statement =>
      cases statement with
      | upsertReceipt receipt => cases quiet.1
      | _ => simp_all [Own, Quiet, foreign]
  | _ => trivial

theorem own_of_quiet_program {α : Type} {program : Prog α}
    (quiet : program.Only Quiet) : program.Only (Own own) :=
  quiet.weaken fun _ => own_of_quiet

theorem record_own (messageID : String) (status : Status) :
    (Worker.record messageID status).Only (Own own) := by
  refine Worker.record_only ?_ trivial messageID status
  intro statement table
  cases statement with
  | upsertReceipt receipt => cases table
  | _ => simp_all [Own, foreign, Statement.table]

theorem deliverMail_own (worker : Worker) (delivery : Delivery) :
    (worker.deliverMail delivery).Only (Own own) := by
  refine Program.only_bind
    (own_of_quiet_program (worker.pack_quiet delivery)) ?_
  intro packed
  cases packed with
  | error error => exact record_own _ _
  | ok message =>
      refine Program.only_bind
        (Worker.sendMail_only (fun _ => trivial) message) ?_
      intro status
      exact record_own _ status

theorem deliverTo_own (worker : Worker) (job : Gobble.Job)
    (delivery : Delivery) :
    (worker.deliverTo job delivery).Only (Own own) := by
  refine Program.only_bind
    (own_of_quiet_program (Worker.shouldDeliver_quiet delivery)) ?_
  intro decided
  cases decided with
  | false => exact trivial
  | true =>
      refine Program.only_bind (deliverMail_own worker delivery) ?_
      rintro ⟨status, err⟩
      dsimp only
      split <;> exact trivial

theorem deliver_own (worker : Worker) (job : Gobble.Job) :
    (worker.deliver job).Only (Own (worker.delivery job)) := by
  rw [Worker.deliver, Worker.delivery]
  cases worker.unmarshal job.payload with
  | error text => exact trivial
  | ok delivery =>
      refine Program.only_bind (Program.only_bind (Program.only_bind
        (nowTruncated_only trivial) ?_) ?_) ?_
      · intro now
        refine Program.only_bind
          (sql_only ⟨rfl, rfl, delivery, rfl, rfl⟩) ?_
        intro result
        cases result <;> exact trivial
      · intro err
        cases err <;> exact trivial
      · intro err
        cases err with
        | some error => exact trivial
        | none =>
            refine Program.only_bind
              (own_of_quiet_program (Worker.findEmail_quiet delivery)) ?_
            intro email
            cases email with
            | none => exact trivial
            | some email => exact deliverTo_own worker job _

end Programs

/-- What is left of every attempt writes no receipt but its own. -/
def Sober (worker : Worker) (state : State) : Prop :=
  EachAttempt (fun job _ program => program.Only (Own (worker.delivery job)))
    state

section Steps

variable {worker : Worker} {state next : State} {event : Event}
  {shown : List Unit}

theorem step_sober (sober : Sober worker state)
    (stepped : (attempts worker).step state event = some (next, shown)) :
    Sober worker next := by
  refine (step_does stepped).each sober (deliver_own worker) ?_
  intro job course op rest environment answer only _ _
  exact only.2 answer

/-! ## One step -/

theorem foreign_receipts (database : Database) {statement : Statement}
    (aside : foreign statement = true) :
    (database.execute statement).2.tables.rows .receipts =
      database.tables.rows .receipts := by
  simp only [foreign, Bool.or_eq_true, bne_iff_ne] at aside
  rcases aside with reads | other
  · simp only [Database.execute, Statement.execute_of_reads reads]
  · exact Statement.execute_other _ _ (Ne.symm other)

/-- A call that is not the receipt's leaves the receipts alone. -/
theorem answered_receipts {environment : Environment}
    {database after : Database} {own : Option Delivery} {op : Op}
    {answer : Answer op} (allowed : Own own op) (other : isReceipt op = false)
    (given : answered environment database op = some (answer, after)) :
    after.tables.rows .receipts = database.tables.rows .receipts := by
  cases op with
  | sql conn statement =>
      have aside : foreign statement = true := by
        cases statement with
        | upsertReceipt receipt => cases other
        | _ => exact allowed
      cases conn with
      | transaction =>
          cases given
          rfl
      | connection =>
          simp only [answered] at given
          split at given
          · cases given
            rfl
          · cases given
            exact foreign_receipts database aside
  | begin => cases given
  | commit => cases given
  | rollback => cases given
  | enqueue job => cases given
  | now =>
      cases given
      rfl
  | service service =>
      cases given
      rfl
  | iterate keys =>
      cases given
      rfl

theorem counts_congr
    (receipts : next.database.tables.rows .receipts =
      state.database.tables.rows .receipts)
    (processed : next.history.processed = state.history.processed)
    (counts : Counts state) : Counts next := by
  intro userGUID clientID kindID
  rw [received_congr receipts, processed]
  exact counts userGUID clientID kindID

/-- The count and the number of notifications grow together exactly if the
statement succeeds for a new notification, and fails for an old one. -/
theorem counts_of_receipt {environment : Environment} {delivery : Delivery}
    {receipt : Receipt} {answer : Answer (.sql .connection
      (.upsertReceipt receipt))} {after : Database}
    (counts : Counts state) (one : receipt.count = 1)
    (own : Table.receipts.uniqueKey receipt = Collation.key
      [delivery.userGUID, delivery.clientID, delivery.options.kindID])
    (given : answered environment state.database
      (.sql .connection (.upsertReceipt receipt)) = some (answer, after))
    (database : next.database = after)
    (processed : next.history.processed =
      state.history.processed ++ [notification delivery]) :
    Counts next ↔
      (environment.faults 0 = none ↔
        notification delivery ∉ state.history.processed) := by
  have keyed (userGUID clientID kindID : String) :
      Collation.key [userGUID, clientID, kindID] =
          Table.receipts.uniqueKey receipt ↔
        (notification delivery).isFor userGUID clientID kindID = true := by
    rw [own, isFor_iff]
    rfl
  have grown (userGUID clientID kindID : String) :
      received next.database.tables userGUID clientID kindID =
        received state.database.tables userGUID clientID kindID +
          if (notification delivery).isFor userGUID clientID kindID = true ∧
            environment.faults 0 = none then 1 else 0 := by
    rw [database]
    simp only [answered] at given
    split at given
    · rename_i text fault
      cases given
      simp [fault]
    · rename_i fault
      cases given
      simp only [Database.execute]
      rw [received_upsertReceipt _ _ one]
      simp [keyed, fault]
  simp only [Counts, grown, processed, card_messageIDs_append]
  constructor
  · intro counted
    have here := counted delivery.userGUID delivery.clientID
      delivery.options.kindID
    rw [counts] at here
    have mine : (notification delivery).isFor delivery.userGUID
        delivery.clientID delivery.options.kindID = true := by
      simp [Notification.isFor, notification]
    simp only [mine, true_and] at here
    by_cases clear : environment.faults 0 = none
    · by_cases seen : notification delivery ∈ state.history.processed
      · simp [clear, seen] at here
      · exact iff_of_true clear seen
    · by_cases seen : notification delivery ∈ state.history.processed
      · exact iff_of_false clear (not_not.mpr seen)
      · simp [clear, seen] at here
  · intro condition userGUID clientID kindID
    rw [counts userGUID clientID kindID]
    simp only [condition, Nat.cast_add, Nat.cast_ite, Nat.cast_one,
      Nat.cast_zero]

/-- Only an attempt's receipt is subject to the condition. -/
theorem firstOnly_of_idle
    (idle : ∀ name environment, event ≠ .call name environment) :
    FirstOnly worker state event := by
  cases event with
  | call name environment => exact absurd rfl (idle name environment)
  | _ => simp [FirstOnly, State.receipt]

theorem called_counts_iff {name : Nat} {environment : Environment}
    {job : Gobble.Job} {course later : Course} {op : Op}
    {rest : Answer op → Prog Outcome} {answer : Answer op}
    {database : Database} (sober : Sober worker state)
    (counts : Counts state)
    (here : state.workers name = .delivering job course (.call op rest))
    (given : answered environment state.database op =
      some (answer, database))
    (stored : next.database = database)
    (history : next.history =
      state.history.called (worker.delivery job) op later) :
    Counts next ↔ FirstOnly worker state (.call name environment) := by
  have allowed := (sober name job course _ here).1
  simp only [FirstOnly, State.receipt, here]
  by_cases receipt : isReceipt op = true
  · cases op with
    | sql conn statement =>
        cases statement with
        | upsertReceipt row =>
            obtain ⟨rfl, one, delivery, read, own⟩ := allowed
            have processed : next.history.processed =
                state.history.processed ++ [notification delivery] := by
              simp [history, History.called, read, isReceipt]
            rw [counts_of_receipt counts one own given stored processed]
            simp [read, receipt]
        | _ => cases receipt
    | _ => cases receipt
  · have other : isReceipt op = false := by simpa using receipt
    refine iff_of_true (counts_congr ?_ ?_ counts) ?_
    · rw [stored]
      exact answered_receipts allowed other given
    · rw [history]
      unfold History.called
      cases worker.delivery job <;> simp [other]
    · simp [other]

theorem step_counts_iff (sober : Sober worker state) (counts : Counts state)
    (stepped : (attempts worker).step state event = some (next, shown)) :
    Counts next ↔ FirstOnly worker state event := by
  cases step_does stepped with
  | quiet event idle database history workers =>
      exact iff_of_true
        (counts_congr (by rw [database]) (by rw [history]) counts)
        (firstOnly_of_idle idle)
  | other statement aside same =>
      subst same
      exact iff_of_true
        (counts_congr (foreign_receipts state.database aside) rfl counts)
        (firstOnly_of_idle (by simp))
  | started name workerID job jobs same =>
      subst same
      exact iff_of_true (@counts_congr _ state _ rfl rfl counts)
        (firstOnly_of_idle (by simp))
  | finished name now job course outcome here same =>
      have unprocessed : next.history.processed =
          state.history.processed := by
        subst same
        exact History.finished_processed
      have database : next.database = state.database := by
        rw [same]
        rfl
      exact iff_of_true (counts_congr (by rw [database]) unprocessed counts)
        (firstOnly_of_idle (by simp))
  | called name environment job course op rest answer database here given
      same =>
      exact called_counts_iff sober counts here given (by rw [same]; rfl)
        (by rw [same]; rfl)

/-! ## Every run -/

theorem State.Initial.counts (initial : state.Initial) : Counts state := by
  intro userGUID clientID kindID
  have nothing : state.database.tables.lookup .receipts
      (Collation.key [userGUID, clientID, kindID]) = none := by
    simp [Tables.lookup, initial.receipts]
  simp [received, nothing, initial.history, History.empty, messageIDs]

/-- The receipts count notifications throughout a run exactly if every attempt
that writes a receipt is the first one for its notification, and every first
one does write it. -/
theorem receipts_count_notifications_iff {events : List Event} {final : State}
    {trace : List Unit} (initial : state.Initial)
    (ran : (attempts worker).run events state = some (final, trace)) :
    (attempts worker).Throughout Counts events state ↔
      (attempts worker).Guarded (FirstOnly worker) events state := by
  refine (attempts worker).throughout_iff_guarded (Sober worker) ?_ ?_ ?_
    initial.counts ran
  · intro state event next shown sober stepped
    exact step_sober sober stepped
  · intro state event next shown sober counts stepped
    exact step_counts_iff sober counts stepped
  · exact EachAttempt.idle initial.toIdle

end Steps

end Collated

attribute [local instance] Collation.binary

theorem receipts_count_one_attempt :
    (attempts sampleWorker).Throughout Counts
      (.enqueue (Gobble.newJob "") :: wholeAttempt 0 .calm 15) newState := by
  have ran : ((attempts sampleWorker).run
      (.enqueue (Gobble.newJob "") :: wholeAttempt 0 .calm 15)
        newState).isSome = true := by
    decide +kernel
  have guarded : (attempts sampleWorker).Guarded (FirstOnly sampleWorker)
      (.enqueue (Gobble.newJob "") :: wholeAttempt 0 .calm 15) newState := by
    decide +kernel
  obtain ⟨⟨final, trace⟩, ran⟩ := Option.isSome_iff_exists.mp ran
  exact (receipts_count_notifications_iff newState_initial ran).mpr guarded

/-- The server is down at the first attempt; the job is retried, and the one
notification counts twice. -/
theorem retried_notification_counts_twice :
    newState.Initial ∧ ∃ final trace,
      (attempts sampleWorker).run (.enqueue (Gobble.newJob "") ::
        wholeAttempt 0 smtpDown 14 ++ wholeAttempt minute .calm 16) newState =
          some (final, trace) ∧
      received final.database.tables "user" "client" "kind" = 2 ∧
      messageIDs final.history.processed "user" "client" "kind" =
        {"message"} ∧ ¬ Counts final := by
  have facts : ((attempts sampleWorker).run (.enqueue (Gobble.newJob "") ::
      wholeAttempt 0 smtpDown 14 ++ wholeAttempt minute .calm 16)
        newState).any (fun after => decide
          (received after.1.database.tables "user" "client" "kind" = 2 ∧
            messageIDs after.1.history.processed "user" "client" "kind" =
              {"message"})) = true := by
    decide +kernel
  obtain ⟨⟨final, trace⟩, ran, facts⟩ := (Option.any_eq_true _ _).mp facts
  obtain ⟨twice, one⟩ := of_decide_eq_true facts
  refine ⟨newState_initial, final, trace, ran, twice, one, ?_⟩
  intro counts
  have wrong := counts "user" "client" "kind"
  rw [twice, one] at wrong
  cases wrong

end Notifications.Postal.Attempts
