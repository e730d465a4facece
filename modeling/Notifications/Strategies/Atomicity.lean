import Mathlib.Algebra.BigOperators.Group.List.Basic
import Mathlib.Data.List.Dedup
import Notifications.Models.Messages
import Notifications.Strategies.Mailer

/-!
# When the mailer is all or nothing

The jobs go through the queue's own connection, so the rollback of
`Mailer.Deliver` does not take them back: a call that fails after the first
`Enqueue` leaves its jobs behind, and their mails will be sent.  A failing call
leaves no trace exactly when the first statement to fail is the first
`Enqueue` itself.
-/

set_option autoImplicit false

namespace Notifications.Strategies

open Notifications.Lib Notifications.Models Notifications.Postal

section Collated

variable [Collation]

/-! ## The number of statements -/

/-- One `Enqueue` and one `Upsert`. -/
def cost (tables : Tables) (messageID : String) : Nat :=
  1 + upsertCost tables messageID

def costs (tables : Tables) (messageIDs : List String) : Nat :=
  (messageIDs.map (cost tables)).sum

theorem costs_cons (tables : Tables) (messageID : String)
    (rest : List String) :
    costs tables (messageID :: rest) =
      1 + upsertCost tables messageID + costs tables rest := by
  simp [costs, cost]

theorem costs_congr {before after : Tables} {messageIDs : List String}
    (same : ∀ id ∈ messageIDs, after.message id = before.message id) :
    costs after messageIDs = costs before messageIDs := by
  unfold costs
  congr 1
  apply List.map_congr_left
  intro id member
  rw [cost, cost, upsertCost, upsertCost, same id member]

theorem costs_perm {tables : Tables} {left right : List String}
    (perm : left.Perm right) : costs tables left = costs tables right :=
  (perm.map (cost tables)).sum_eq

omit [Collation] in
theorem forall_lt_add {property : Nat → Prop} {first second : Nat} :
    (∀ index < first + second, property index) ↔
      (∀ index < first, property index) ∧
        ∀ index < second, property (first + index) := by
  constructor
  · intro all
    exact ⟨fun index small => all index (by omega),
      fun index small => all (first + index) (by omega)⟩
  · rintro ⟨below, above⟩ index small
    rcases Nat.lt_or_ge index first with early | late
    · exact below index early
    · have there := above (index - first) (by omega)
      rwa [Nat.add_sub_cancel' late] at there

/-- None of the statements for a list of messages fails. -/
def Calm (faults : Nat → Option String) (start : Nat) (tables : Tables)
    (messageIDs : List String) : Prop :=
  ∀ index < costs tables messageIDs, faults (start + index) = none

theorem calm_cons {faults : Nat → Option String} {start : Nat}
    {tables : Tables} {messageID : String} {rest : List String} :
    Calm faults start tables (messageID :: rest) ↔
      faults start = none ∧
      (∀ index < upsertCost tables messageID,
        faults (start + 1 + index) = none) ∧
      Calm faults (start + 1 + upsertCost tables messageID) tables rest := by
  simp only [Calm, costs_cons]
  rw [forall_lt_add, forall_lt_add, and_assoc]
  refine and_congr ?_ (and_congr ?_ ?_)
  · constructor
    · intro all
      exact all 0 (by decide)
    · intro first index small
      have : index = 0 := by omega
      rw [this]
      exact first
  · simp only [Nat.add_assoc]
  · simp only [Nat.add_assoc]

theorem calm_congr {faults : Nat → Option String} {start : Nat}
    {before after : Tables} {messageIDs : List String}
    (same : ∀ id ∈ messageIDs, after.message id = before.message id) :
    Calm faults start after messageIDs ↔
      Calm faults start before messageIDs := by
  rw [Calm, Calm, costs_congr same]

namespace Mailer

variable (environment : Environment)

/-! ## The loop over the jobs -/

/-- What the second loop comes to, in a transaction that was begun. -/
structure Queued (database : Database) (pairs : List (String × Gobble.Job))
    (world : World) (success : Bool) (after : World) : Prop where
  ran : (queueAll pairs).run (World.handle environment) world =
    (some success, after)
  unchanged : after.database = world.database
  success_iff : success = true ↔
    Calm environment.faults world.statements database.tables
      (pairs.map Prod.fst)
  finished : success = true → (∃ working, after.transaction = some working) ∧
    after.statements =
      world.statements + costs database.tables (pairs.map Prod.fst)
  jobs : world.jobs.length ≤ after.jobs.length
  untouched : pairs ≠ [] →
    (after.jobs = world.jobs ↔ environment.faults world.statements ≠ none)

omit [Collation] in
theorem enqueue_length (nextID : Nat) (jobs : List Gobble.Row)
    (job : Gobble.Job) :
    (Gobble.enqueue nextID jobs job).1.length = jobs.length + 1 := by
  simp [Gobble.enqueue, Gorp.insert]

/-- The first `Enqueue` fails: nothing has happened yet. -/
theorem queued_of_fault {database : Database} {messageID : String}
    {job : Gobble.Job} {rest : List (String × Gobble.Job)} {world : World}
    {text : String} (begun : world.transaction = some database)
    (fault : environment.faults world.statements = some text) :
    ∃ after, Queued environment database ((messageID, job) :: rest) world
      false after := by
  have begun' : world.counted.transaction = some database := begun
  obtain ⟨result, rolled⟩ := run_rollback environment begun'
  have ran : (queueAll ((messageID, job) :: rest)).run
      (World.handle environment) world =
        (some false, { world.counted with transaction := none }.counted) := by
    simp only [queueAll, Program.perform_bind, Program.run_call,
      World.handle, World.attempt, fault]
    exact Program.run_bind_of _ rolled
  refine ⟨_, ran, rfl, ?_, by simp, Nat.le_refl _, ?_⟩
  · simp [calm_cons, fault]
  · simp [fault]

/-- The world after a successful `Enqueue`. -/
def enqueued (world : World) (job : Gobble.Job) : World :=
  { world with
    jobs := (Gobble.enqueue world.nextJobID world.jobs job).1
    nextJobID := world.nextJobID + 1 }.counted

theorem enqueued_jobs_length (world : World) (job : Gobble.Job) :
    (enqueued world job).jobs.length = world.jobs.length + 1 :=
  enqueue_length _ _ _

theorem jobs_le_enqueued (world : World) (job : Gobble.Job) :
    world.jobs.length ≤ (enqueued world job).jobs.length := by
  rw [enqueued_jobs_length]
  exact Nat.le_succ _

/-- The rest of the loop's body, after a successful `Enqueue`. -/
def recordQueued (messageID : String)
    (rest : List (String × Gobble.Job)) : Prog Bool := do
  match ← MessagesRepo.upsert .transaction
      ⟨messageID, Status.queued.text, Gobble.zeroTime⟩ with
  | (_, some _) =>
      let _ ← rollback
      pure false
  | (_, none) => queueAll rest

theorem run_queueAll_cons (messageID : String) (job : Gobble.Job)
    (rest : List (String × Gobble.Job)) {world : World}
    (calm : environment.faults world.statements = none) :
    (queueAll ((messageID, job) :: rest)).run (World.handle environment)
        world =
      (recordQueued messageID rest).run (World.handle environment)
        (enqueued world job) := by
  simp only [queueAll, Program.perform_bind, Program.run_call, World.handle,
    World.attempt, calm]
  rfl

theorem jobs_ne {world after : World} {job : Gobble.Job}
    (more : (enqueued world job).jobs.length ≤ after.jobs.length) :
    after.jobs ≠ world.jobs := by
  rw [enqueued_jobs_length] at more
  intro same
  rw [same] at more
  omega

section Recording

variable {environment} {database working : Database} {messageID : String}
  {job : Gobble.Job} {rest : List (String × Gobble.Job)} {world : World}
  {count : Nat} {stored : Message}
  (calm : environment.faults world.statements = none)

include calm

theorem queued_of_upsert_error {error : Error}
    (upserted : (MessagesRepo.upsert .transaction
        ⟨messageID, Status.queued.text, Gobble.zeroTime⟩).run
      (World.handle environment) (enqueued world job) =
        (some (stored, some error),
          (enqueued world job).advance .transaction working count))
    (failed : ¬ ∀ index < upsertCost database.tables messageID,
      environment.faults (world.statements + 1 + index) = none) :
    ∃ after, Queued environment database ((messageID, job) :: rest) world
      false after := by
  have begun : ((enqueued world job).advance .transaction working
      count).transaction = some working := rfl
  obtain ⟨result, rolled⟩ := run_rollback environment begun
  have ran := run_queueAll_cons environment messageID job rest calm
  rw [recordQueued, Program.run_bind_of _ upserted] at ran
  simp only at ran
  rw [Program.run_bind_of _ rolled] at ran
  refine ⟨_, ran, rfl, ?_, by simp, jobs_le_enqueued world job, ?_⟩
  · simp only [Bool.false_eq_true, false_iff, List.map_cons, calm_cons,
      not_and]
    exact fun _ upserts => absurd upserts failed
  · intro _
    simp only [calm, ne_eq, not_true, iff_false]
    exact jobs_ne (Nat.le_refl (enqueued world job).jobs.length)

/-- The job is enqueued and recorded, and the loop goes on. -/
theorem queued_of_upserted {success : Bool} {after : World}
    (upserted : (MessagesRepo.upsert .transaction
        ⟨messageID, Status.queued.text, Gobble.zeroTime⟩).run
      (World.handle environment) (enqueued world job) =
        (some (stored, none), (enqueued world job).advance .transaction
          working (upsertCost database.tables messageID)))
    (succeeded : ∀ index < upsertCost database.tables messageID,
      environment.faults (world.statements + 1 + index) = none)
    (others : ∀ id ∈ rest.map Prod.fst,
      working.tables.message id = database.tables.message id)
    (later : Queued environment working rest
      ((enqueued world job).advance .transaction working
        (upsertCost database.tables messageID)) success after) :
    Queued environment database ((messageID, job) :: rest) world success
      after where
  ran := by
    have ran := run_queueAll_cons environment messageID job rest calm
    rw [recordQueued, Program.run_bind_of _ upserted] at ran
    exact ran.trans later.ran
  unchanged := later.unchanged
  success_iff := by
    have going : success = true ↔ Calm environment.faults
        (world.statements + 1 + upsertCost database.tables messageID)
        database.tables (rest.map Prod.fst) := by
      rw [later.success_iff, calm_congr others]
      rfl
    rw [List.map_cons, calm_cons, going]
    constructor
    · exact fun rest => ⟨calm, succeeded, rest⟩
    · exact fun all => all.2.2
  finished done := by
    obtain ⟨ended, statements⟩ := later.finished done
    refine ⟨ended, ?_⟩
    rw [statements, World.statements_advance, List.map_cons, costs_cons,
      costs_congr others]
    change world.statements + 1 + _ + _ = _
    simp only [Nat.add_assoc]
  jobs := Nat.le_trans (jobs_le_enqueued world job) later.jobs
  untouched _ := by
    simp only [calm, ne_eq, not_true, iff_false]
    exact jobs_ne later.jobs

end Recording

theorem queueAll_queued (pairs : List (String × Gobble.Job))
    (distinct : (pairs.map Prod.fst).Nodup) {world : World}
    {database : Database} (begun : world.transaction = some database) :
    ∃ success after, Queued environment database pairs world success after := by
  induction pairs generalizing world database with
  | nil =>
      exact ⟨true, world, rfl, rfl, by simp [Calm, costs],
        fun _ => ⟨⟨database, begun⟩, by simp [costs]⟩, Nat.le_refl _,
        fun wrong => absurd rfl wrong⟩
  | cons pair rest ih =>
      obtain ⟨messageID, job⟩ := pair
      cases fault : environment.faults world.statements with
      | some text => exact ⟨false, queued_of_fault environment begun fault⟩
      | none =>
          have present : (enqueued world job).read .transaction =
              some database := begun
          obtain ⟨working, count, stored, err, upserted, succeeds,
            changed⟩ := MessagesRepo.run_upsert_spec present
              ⟨messageID, Status.queued.text, Gobble.zeroTime⟩ environment
          cases err with
          | some error =>
              refine ⟨false, queued_of_upsert_error fault upserted ?_⟩
              intro calm
              exact absurd (succeeds.mpr calm) (by simp)
          | none =>
              obtain ⟨rfl, found⟩ := changed rfl
              have distinct' := List.nodup_cons.mp distinct
              have others : ∀ id ∈ rest.map Prod.fst,
                  working.tables.message id = database.tables.message id := by
                intro id member
                rw [found, if_neg]
                rintro rfl
                exact distinct'.1 member
              obtain ⟨success, after, later⟩ := ih distinct'.2
                (rfl : ((enqueued world job).advance .transaction working
                  _).transaction = some working)
              exact ⟨success, after, queued_of_upserted fault upserted
                (succeeds.mp rfl) others later⟩

/-- Without a transaction the first pass through the loop panics. -/
theorem queueAll_nil {pairs : List (String × Gobble.Job)}
    (nonempty : pairs ≠ []) {world : World} (absent : world.transaction = none) :
    ∃ after, (queueAll pairs).run (World.handle environment) world =
      (none, after) := by
  obtain ⟨⟨messageID, job⟩, rest, rfl⟩ := List.exists_cons_of_ne_nil nonempty
  cases fault : environment.faults world.statements with
  | some text =>
      have absent' : world.counted.transaction = none := absent
      refine ⟨world.counted, ?_⟩
      simp only [queueAll, Program.perform_bind, Program.run_call,
        World.handle, World.attempt, fault]
      exact Program.run_bind_none _ (run_rollback_nil absent')
  | none =>
      have absent' : (enqueued world job).read .transaction = none := absent
      refine ⟨enqueued world job, ?_⟩
      rw [run_queueAll_cons environment messageID job rest fault]
      exact Program.run_bind_none _
        (MessagesRepo.run_upsert_nil _ environment absent')

/-! ## The first loop -/

/-- The message IDs that the generator draws, if it never fails. -/
def drawn (services : Nat) : Nat → Option (List String)
  | 0 => some []
  | count + 1 =>
      match environment.serve services .newGUID with
      | .error _ => none
      | .ok messageID =>
          (drawn (services + 1) count).map fun rest => messageID :: rest

theorem prepare_panics (marshal : Delivery → String) (request : Request)
    {users : List Recipient} (jobs : Jobs) {world : World}
    (failed : drawn environment world.services users.length = none) :
    ∃ after, (prepare marshal request users jobs).run
      (World.handle environment) world = (none, after) := by
  induction users generalizing jobs world with
  | nil => cases failed
  | cons user rest ih =>
      simp only [prepare, Program.perform_bind, Program.run_call,
        World.handle]
      simp only [List.length_cons, drawn] at failed
      cases draw : environment.serve world.services .newGUID with
      | error text => exact ⟨_, rfl⟩
      | ok messageID =>
          rw [draw] at failed
          simp only [Option.map_eq_none_iff] at failed
          have failed' : drawn environment
              ({ world with services := world.services + 1 } : World).services
                rest.length = none := failed
          obtain ⟨after, ran⟩ := ih (jobs.insert messageID
            (jobFor marshal request user messageID)) failed'
          exact ⟨after, Program.run_bind_none _ ran⟩

theorem prepare_drawn (marshal : Delivery → String) (request : Request)
    {users : List Recipient} (jobs : Jobs) {world : World}
    {messageIDs : List String}
    (ok : drawn environment world.services users.length =
      some messageIDs) :
    ∃ prepared responses,
      (prepare marshal request users jobs).run (World.handle environment)
          world =
        (some (prepared, responses),
          { world with services := world.services + users.length }) ∧
      responses.length = users.length ∧
      messageIDs.length = users.length ∧
      ∀ id, id ∈ prepared ↔ id ∈ messageIDs ∨ id ∈ jobs := by
  induction users generalizing jobs world messageIDs with
  | nil =>
      cases ok
      exact ⟨jobs, [], rfl, rfl, rfl, by simp⟩
  | cons user rest ih =>
      simp only [prepare, Program.perform_bind, Program.run_call,
        World.handle]
      simp only [List.length_cons, drawn] at ok
      cases draw : environment.serve world.services .newGUID with
      | error text => simp [draw] at ok
      | ok messageID =>
          rw [draw] at ok
          simp only [Option.map_eq_some_iff] at ok
          obtain ⟨others, ok, rfl⟩ := ok
          have ok' : drawn environment
              ({ world with services := world.services + 1 } : World).services
                rest.length = some others := ok
          obtain ⟨prepared, responses, ran, length, lengths, members⟩ :=
            ih (jobs.insert messageID
              (jobFor marshal request user messageID)) ok'
          refine ⟨prepared, responseFor user messageID :: responses, ?_,
            by simp [length], by simp [lengths], ?_⟩
          · simp only
            rw [Program.run_bind_of _ ran]
            simp [Nat.add_assoc, Nat.add_comm 1]
          · intro id
            rw [members, AList.mem_insert]
            simp only [List.mem_cons]
            tauto

/-! ## The whole call -/

omit [Collation] in
theorem entries_ids {jobs : Jobs} {order : List String}
    (known : ∀ id ∈ order, id ∈ jobs) :
    (entries jobs order).map Prod.fst = order := by
  induction order with
  | nil => rfl
  | cons id rest ih =>
      obtain ⟨job, found⟩ := Option.isSome_iff_exists.mp
        (AList.lookup_isSome.mpr (known id (.head rest)))
      have others := ih fun other member => known other (.tail id member)
      simp only [entries, List.filterMap_cons, found, Option.map_some,
        List.map_cons]
      exact congrArg (List.cons id) others

omit [Collation] in
/-- Whatever the order of iteration, every message comes once. -/
theorem entries_perm (jobs : Jobs) :
    ((entries jobs (environment.order jobs.keys).1).map Prod.fst).Perm
      jobs.keys := by
  have order := (environment.order jobs.keys).2
  rw [entries_ids fun id member => order.mem_iff.mp member]
  exact order

omit [Collation] in
theorem entries_ne_nil {jobs : Jobs} (nonempty : jobs.keys ≠ []) :
    entries jobs (environment.order jobs.keys).1 ≠ [] := by
  intro empty
  have perm := entries_perm environment jobs
  rw [empty, List.map_nil] at perm
  exact nonempty (List.nil_perm.mp perm)

def Untouched (before after : World) : Prop :=
  after.jobs = before.jobs ∧
    after.database.tables.rows .messages =
      before.database.tables.rows .messages

def begun (world : World) : World :=
  { world with transaction := some world.database }.counted

theorem run_queue {jobs : Jobs} {responses : List Response} {world : World}
    (calm : environment.faults world.statements = none) :
    (queue jobs responses).run (World.handle environment) world =
      ((queueAll (entries jobs (environment.order jobs.keys).1)) >>=
        fun success =>
          if success then do
            match ← commit with
            | .error _ => pure []
            | .ok _ => pure responses
          else pure []).run (World.handle environment) (begun world) := by
  simp only [queue, Program.perform_bind, Program.run_call, World.handle,
    World.attempt, calm]
  rfl

theorem queue_panics {jobs : Jobs} (responses : List Response)
    {world : World} {text : String} (nonempty : jobs.keys ≠ [])
    (fault : environment.faults world.statements = some text) :
    ∃ after, (queue jobs responses).run (World.handle environment) world =
      (none, after) := by
  have absent : ({ world with transaction := none } : World).counted.transaction =
      none := rfl
  obtain ⟨after, ran⟩ := queueAll_nil environment
    (entries_ne_nil environment nonempty) absent
  refine ⟨after, ?_⟩
  simp only [queue, Program.perform_bind, Program.run_call, World.handle,
    World.attempt, fault]
  exact Program.run_bind_none _ ran

/-- The second half of the call: a report of failure leaves no trace exactly
when `Begin` or the first `Enqueue` fails, or nothing does. -/
theorem queue_untouched_iff {jobs : Jobs} {responses : List Response}
    (world : World) (nonempty : jobs.keys ≠ []) (users : responses ≠ []) :
    (∀ after, (queue jobs responses).run (World.handle environment) world =
        (some [], after) → Untouched world after) ↔
      environment.faults world.statements ≠ none ∨
      environment.faults (world.statements + 1) ≠ none ∨
      Calm environment.faults (world.statements + 1) world.database.tables
        jobs.keys ∧
      environment.faults (world.statements + 1 +
        costs world.database.tables jobs.keys) = none := by
  cases fault : environment.faults world.statements with
  | some text =>
      obtain ⟨final, ran⟩ :=
        queue_panics environment responses nonempty fault
      simp [ran]
  | none =>
      have perm := entries_perm environment jobs
      obtain ⟨success, looped, queued⟩ := queueAll_queued environment
        (entries jobs (environment.order jobs.keys).1)
        (perm.nodup_iff.mpr jobs.keys_nodup)
        (rfl : (begun world).transaction = some world.database)
      have calm : success = true ↔ Calm environment.faults
          (world.statements + 1) world.database.tables jobs.keys := by
        rw [queued.success_iff, Calm, Calm, costs_perm perm]
        rfl
      have untouched : looped.jobs = world.jobs ↔
          environment.faults (world.statements + 1) ≠ none :=
        queued.untouched (entries_ne_nil environment nonempty)
      have kept : looped.database = world.database := queued.unchanged
      rw [run_queue environment fault, Program.run_bind_of _ queued.ran,
        ← calm]
      cases success with
      | false =>
          simp [Untouched, kept, untouched]
      | true =>
          obtain ⟨⟨working, open'⟩, statements⟩ := queued.finished rfl
          have statements' : looped.statements = world.statements + 1 +
              costs world.database.tables jobs.keys := by
            rw [statements, costs_perm perm]
            rfl
          have committed := run_commit environment open'
          rw [statements'] at committed
          simp only [if_true]
          rw [Program.run_bind, committed]
          cases environment.faults (world.statements + 1 +
              costs world.database.tables jobs.keys) with
          | some text => simp [Untouched, kept, untouched]
          | none => simp [users]

/-- A report of failure means that nothing was queued or recorded. -/
def AllOrNothing (marshal : Delivery → String) (request : Request)
    (users : List Recipient) (world : World) : Prop :=
  ∀ after, (deliver marshal request users).run (World.handle environment)
    world = (some [], after) → Untouched world after

/-- The generator or `Begin` fails (and the call panics), the first `Enqueue`
fails, or no statement of the call does: one `Begin`, the statements for every
message, one `Commit`. -/
def Undisturbed (users : List Recipient) (world : World) : Prop :=
  match drawn environment world.services users.length with
  | none => True
  | some messageIDs =>
      environment.faults world.statements ≠ none ∨
      environment.faults (world.statements + 1) ≠ none ∨
      ∀ index < 2 + costs world.database.tables messageIDs.dedup,
        environment.faults (world.statements + index) = none

theorem calm_call_iff {faults : Nat → Option String} {start : Nat}
    {tables : Tables} {messageIDs : List String} (first : faults start = none) :
    (∀ index < 2 + costs tables messageIDs, faults (start + index) = none) ↔
      Calm faults (start + 1) tables messageIDs ∧
        faults (start + 1 + costs tables messageIDs) = none := by
  have parts : 2 + costs tables messageIDs =
      1 + (costs tables messageIDs + 1) := by omega
  rw [parts, forall_lt_add, forall_lt_add]
  constructor
  · rintro ⟨_, calm, last⟩
    refine ⟨fun index small => ?_, ?_⟩
    · rw [Nat.add_assoc]
      exact calm index small
    · rw [Nat.add_assoc]
      exact last 0 Nat.one_pos
  · rintro ⟨calm, last⟩
    refine ⟨fun index small => ?_, fun index small => ?_,
      fun index small => ?_⟩
    · rw [Nat.lt_one_iff.mp small]
      exact first
    · rw [← Nat.add_assoc]
      exact calm index small
    · rw [Nat.lt_one_iff.mp small, Nat.add_zero, ← Nat.add_assoc]
      exact last

theorem mailer_all_or_nothing_iff (marshal : Delivery → String)
    (request : Request) (users : List Recipient) (world : World)
    (nonempty : users ≠ []) :
    AllOrNothing environment marshal request users world ↔
      Undisturbed environment users world := by
  unfold AllOrNothing Undisturbed
  cases draws : drawn environment world.services users.length with
  | none =>
      obtain ⟨panicked, ran⟩ :=
        prepare_panics environment marshal request ∅ draws
      rw [deliver, Program.run_bind_none _ ran]
      simp
  | some messageIDs =>
      obtain ⟨jobs, responses, ran, length, drawn, members⟩ :=
        prepare_drawn environment marshal request ∅ draws
      have positive := List.length_pos_of_ne_nil nonempty
      have perm : jobs.keys.Perm messageIDs.dedup := by
        refine (List.perm_ext_iff_of_nodup jobs.keys_nodup
          messageIDs.nodup_dedup).mpr ?_
        intro id
        rw [List.mem_dedup, ← AList.mem_keys, members]
        simp
      have keys : jobs.keys ≠ [] := by
        intro empty
        have more : 0 < messageIDs.length := by rwa [drawn]
        obtain ⟨id, member⟩ := List.exists_mem_of_length_pos more
        have known := AList.mem_keys.mp ((members id).mpr (.inl member))
        rw [empty] at known
        cases known
      have answers : responses ≠ [] := by
        intro empty
        rw [empty, List.length_nil] at length
        omega
      rw [deliver, Program.run_bind_of _ ran]
      have whole := queue_untouched_iff environment
        { world with services := world.services + users.length } keys answers
      refine whole.trans ?_
      rw [costs_perm perm, Calm, costs_perm perm]
      cases first : environment.faults world.statements with
      | some text => simp
      | none =>
          simp only [ne_eq, not_true, false_or]
          rw [calm_call_iff first]
          rfl

end Mailer

end Collated

attribute [local instance] Collation.binary

namespace Mailer

theorem mailer_all_or_nothing_enqueue_fails :
    ((deliver (fun _ => "") sampleRequest [⟨"user", ""⟩]).run
      (World.handle (.failing 1)) (.start [])).1 = some [] ∧
    AllOrNothing (.failing 1) (fun _ => "") sampleRequest [⟨"user", ""⟩]
      (.start []) := by
  refine ⟨rfl, ?_⟩
  refine (mailer_all_or_nothing_iff _ _ _ _ _ (by simp)).mpr ?_
  exact .inr (.inl (by simp [Environment.failing, World.start]))

/-- The first look at the `messages` table fails: the caller is told that
nothing was queued, and the job is in the queue. -/
theorem failed_call_leaves_job :
    ¬ AllOrNothing (.failing 2) (fun _ => "") sampleRequest [⟨"user", ""⟩]
      (.start []) := by
  intro nothing
  have jobs := (nothing _ rfl).1
  cases jobs

end Mailer

end Notifications.Strategies
