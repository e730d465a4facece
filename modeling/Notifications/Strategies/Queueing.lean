import Notifications.Strategies.Atomicity

/-!
# What a successful call queues

With fresh message IDs and no failing statement, `Mailer.Deliver` adds one job
and one row in `messages` for every user, and nothing else.  The jobs are kept
in a map and enqueued in the order of its iteration, the responses in the order
of the users; they are matched by their message IDs.
-/

set_option autoImplicit false

namespace Notifications.Strategies

open Notifications.Lib Notifications.Models Notifications.Postal

namespace Mailer

/-- The delivery that the job of a user stands for. -/
def deliveryFor (request : Request) (user : Recipient)
    (messageID : String) : Delivery where
  options := request.options
  userGUID := user.guid
  email := user.email
  space := request.space
  organization := request.organization
  clientID := request.clientID
  messageID := messageID
  scope := request.scope

section Collated

variable [Collation]

section Loops

variable {environment : Environment} {marshal : Delivery → String}
  {request : Request}

omit [Collation] in
theorem jobFor_payload (user : Recipient) (messageID : String) :
    (jobFor marshal request user messageID).payload =
      marshal (deliveryFor request user messageID) := rfl

/-- The first loop, when the generator does not repeat itself. -/
theorem prepare_distinct {users : List Recipient} (jobs : Jobs)
    {world : World} {messageIDs : List String}
    (draws : drawn environment world.services users.length =
      some messageIDs)
    (distinct : messageIDs.Nodup) :
    ∃ prepared,
      (prepare marshal request users jobs).run (World.handle environment)
          world =
        (some (prepared, List.zipWith responseFor users messageIDs),
          { world with services := world.services + users.length }) ∧
      messageIDs.length = users.length ∧
      (∀ pair ∈ users.zip messageIDs, prepared.lookup pair.2 =
        some (jobFor marshal request pair.1 pair.2)) ∧
      ∀ id ∉ messageIDs, prepared.lookup id = jobs.lookup id := by
  induction users generalizing jobs world messageIDs with
  | nil =>
      cases draws
      exact ⟨jobs, rfl, rfl, by simp, by simp⟩
  | cons user rest ih =>
      simp only [List.length_cons, drawn] at draws
      cases draw : environment.serve world.services .newGUID with
      | error text => simp [draw] at draws
      | ok messageID =>
          rw [draw] at draws
          obtain ⟨others, draws', rfl⟩ := Option.map_eq_some_iff.mp draws
          have distinct' := List.nodup_cons.mp distinct
          obtain ⟨prepared, ran, lengths, mine, untouched⟩ :=
            @ih (jobs.insert messageID
              (jobFor marshal request user messageID))
              { world with services := world.services + 1 } others draws'
              distinct'.2
          refine ⟨prepared, ?_, by simp [lengths], ?_, ?_⟩
          · simp only [prepare, Program.perform_bind, Program.run_call,
              World.handle, draw]
            rw [Program.run_bind_of _ ran]
            simp [Nat.add_assoc, Nat.add_comm 1]
          · intro pair member
            rcases List.mem_cons.mp member with rfl | later
            · rw [untouched messageID distinct'.1, AList.lookup_insert]
            · exact mine pair later
          · intro id absent
            rw [List.mem_cons, not_or] at absent
            rw [untouched id absent.2, AList.lookup_insert_ne absent.1]

theorem message_none_iff {tables : Tables} {id : String} :
    tables.message id = none ↔
      ∀ row ∈ tables.rows .messages, row.id ≠ id := by
  rw [Tables.message, Tables.lookup_eq_none]
  simp [Table.uniqueKey]

/-- The row that `Enqueue` adds. -/
def enqueuedRow (world : World) (job : Gobble.Job) : Gobble.Row :=
  { job.toRow with id := world.nextJobID, version := job.version + 1 }

theorem enqueued_eq (world : World) (job : Gobble.Job) :
    enqueued world job =
      { world with
        jobs := world.jobs ++ [enqueuedRow world job]
        nextJobID := world.nextJobID + 1
        statements := world.statements + 1 } := rfl

/-- What the second loop adds, in the order of iteration. -/
structure Added (pairs : List (String × Gobble.Job)) (before after : Database)
    (jobs : List Gobble.Row) (messages : List Message) : Prop where
  payloads : jobs.map Gobble.Row.payload =
    pairs.map fun pair => pair.2.payload
  rows : after.tables.rows .messages =
    before.tables.rows .messages ++ messages
  ids : messages.map Message.id = pairs.map Prod.fst
  queued : ∀ message ∈ messages, message.status = Status.queued.text
  others : ∀ table, table ≠ .messages →
    after.tables.rows table = before.tables.rows table

/-- One job and one message before those of the rest of the loop. -/
theorem Added.cons {messageID : String} {job : Gobble.Job}
    {rest : List (String × Gobble.Job)} {before between after : Database}
    {row : Gobble.Row} {jobs : List Gobble.Row} {stored : Message}
    {messages : List Message}
    (later : Added rest between after jobs messages)
    (payload : row.payload = job.payload) (sameID : stored.id = messageID)
    (status : stored.status = Status.queued.text)
    (added : between.tables.rows .messages =
      before.tables.rows .messages ++ [stored])
    (others : ∀ table, table ≠ .messages →
      between.tables.rows table = before.tables.rows table) :
    Added ((messageID, job) :: rest) before after (row :: jobs)
      (stored :: messages) where
  payloads := by rw [List.map_cons, List.map_cons, later.payloads, payload]
  rows := by
    rw [later.rows, added, List.append_assoc]
    rfl
  ids := by simp [later.ids, sameID]
  queued := by
    intro message member
    rcases List.mem_cons.mp member with rfl | inRest
    · exact status
    · exact later.queued message inRest
  others := by
    intro table other
    rw [later.others table other, others table other]

theorem fresh_of_added {before after : Tables} {stored : Message}
    {id : String}
    (added : after.rows .messages = before.rows .messages ++ [stored])
    (fresh : before.message id = none) (different : stored.id ≠ id) :
    after.message id = none := by
  rw [message_none_iff, added]
  intro row member
  rcases List.mem_append.mp member with old | new
  · exact message_none_iff.mp fresh row old
  · rwa [List.mem_singleton.mp new]

theorem queueAll_fresh {pairs : List (String × Gobble.Job)}
    (distinct : (pairs.map Prod.fst).Nodup) {world : World}
    {database : Database} (begun : world.transaction = some database)
    (fresh : ∀ pair ∈ pairs, database.tables.message pair.1 = none)
    (calm : ∀ index < 3 * pairs.length,
      environment.faults (world.statements + index) = none) :
    ∃ working jobs messages,
      (queueAll pairs).run (World.handle environment) world =
        (some true,
          { world with
            transaction := some working
            jobs := world.jobs ++ jobs
            nextJobID := world.nextJobID + pairs.length
            statements := world.statements + 3 * pairs.length }) ∧
      Added pairs database working jobs messages := by
  induction pairs generalizing world database with
  | nil =>
      refine ⟨database, [], [], ?_, rfl, by simp, rfl, by simp,
        fun _ _ => rfl⟩
      simp [queueAll, ← begun]
  | cons pair rest ih =>
      obtain ⟨messageID, job⟩ := pair
      have distinct' := List.nodup_cons.mp distinct
      have first : environment.faults world.statements = none :=
        calm 0 (by simp)
      have second : environment.faults (enqueued world job).statements =
          none := calm 1 (by simp; omega)
      have third : environment.faults ((enqueued world job).statements + 1) =
          none := calm 2 (by simp; omega)
      have present : (enqueued world job).read .transaction =
          some database := begun
      obtain ⟨between, stored, upserted, sameID, status, added, others⟩ :=
        MessagesRepo.run_upsert_new present
          ⟨messageID, Status.queued.text, Gobble.zeroTime⟩ environment
          (fresh _ (.head _)) second third
      have fresh' : ∀ pair ∈ rest,
          between.tables.message pair.1 = none := by
        intro pair member
        apply fresh_of_added added (fresh pair (.tail _ member))
        intro same
        rw [sameID] at same
        exact distinct'.1 (List.mem_map.mpr ⟨pair, member, same.symm⟩)
      have calm' : ∀ index < 3 * rest.length, environment.faults
          (((enqueued world job).advance .transaction between 2).statements +
            index) = none := by
        intro index small
        have later := calm (3 + index) (by simp; omega)
        rw [← later]
        congr 1
        change world.statements + 1 + 2 + index = _
        omega
      obtain ⟨working, jobs, messages, ran, later⟩ := ih distinct'.2
        (rfl : ((enqueued world job).advance .transaction between
          2).transaction = some between) fresh' calm'
      refine ⟨working, (enqueuedRow world job) :: jobs, stored :: messages,
        ?_, later.cons rfl sameID status added others⟩
      rw [run_queueAll_cons environment messageID job rest first,
        recordQueued, Program.run_bind_of _ upserted]
      apply ran.trans
      have count : 3 * (rest.length + 1) = 1 + 2 + 3 * rest.length := by
        omega
      simp only [List.length_cons, count]
      simp [enqueued_eq, World.advance, World.write, Nat.add_assoc,
        Nat.add_comm 1]

/-- The second half of `Deliver`, when nothing fails. -/
theorem queue_fresh {prepared : Jobs} {responses : List Response}
    {world : World} {pairs : List (String × Gobble.Job)}
    (same : entries prepared (environment.order prepared.keys).1 = pairs)
    (distinct : (pairs.map Prod.fst).Nodup)
    (fresh : ∀ pair ∈ pairs, world.database.tables.message pair.1 = none)
    (calm : ∀ index < 2 + 3 * pairs.length,
      environment.faults (world.statements + index) = none) :
    ∃ after jobs messages,
      (queue prepared responses).run (World.handle environment) world =
        (some responses, after) ∧
      after.jobs = world.jobs ++ jobs ∧
      Added pairs world.database after.database jobs messages := by
  have first : environment.faults world.statements = none :=
    calm 0 (by omega)
  have calm' : ∀ index < 3 * pairs.length,
      environment.faults ((begun world).statements + index) = none := by
    intro index small
    have later := calm (1 + index) (by omega)
    rw [← Nat.add_assoc] at later
    exact later
  have last : environment.faults
      ((begun world).statements + 3 * pairs.length) = none := by
    have final := calm (1 + 3 * pairs.length) (by omega)
    rw [← Nat.add_assoc] at final
    exact final
  obtain ⟨working, jobs, messages, looped, added⟩ := queueAll_fresh distinct
    (rfl : (begun world).transaction = some world.database) fresh calm'
  let after : World :=
    { begun world with
      database := working
      transaction := none
      jobs := world.jobs ++ jobs
      nextJobID := world.nextJobID + pairs.length
      statements := (begun world).statements + 3 * pairs.length + 1 }
  refine ⟨after, jobs, messages, ?_, rfl, added⟩
  rw [run_queue environment first, same, Program.run_bind_of _ looped]
  simp only [if_true]
  rw [Program.run_bind, run_commit environment rfl]
  simp only [last]
  rfl

end Loops

/-! ## The whole call -/

/-- The `MessageID` that a payload decodes to. -/
def decodedID (unmarshal : String → Except String Delivery)
    (payload : String) : Option String :=
  match unmarshal payload with
  | .ok delivery => some delivery.messageID
  | .error _ => none

def messageIDOf (unmarshal : String → Except String Delivery)
    (row : Gobble.Row) : Option String :=
  decodedID unmarshal row.payload

/-- A response, the one new job and the one row that belong to it. -/
structure Answered (unmarshal : String → Except String Delivery)
    (request : Request) (jobs : List Gobble.Row) (messages : List Message)
    (user : Recipient) (response : Response) : Prop where
  status : response.status = "queued"
  recipient : response.recipient =
    if user.email = "" then user.guid else user.email
  job : ∃ row,
    jobs.filter (fun row =>
      messageIDOf unmarshal row == some response.notificationID) = [row] ∧
    unmarshal row.payload =
      .ok (deliveryFor request user response.notificationID)
  message : ∃ message,
    messages.filter (fun message =>
      message.id == response.notificationID) = [message] ∧
    message.status = "queued"

structure Delivers (unmarshal : String → Except String Delivery)
    (request : Request) (users : List Recipient) (before after : World)
    (responses : List Response) : Prop where
  length : responses.length = users.length
  distinct : (responses.map Response.notificationID).Nodup
  added : ∃ jobs messages,
    after.jobs = before.jobs ++ jobs ∧ jobs.length = users.length ∧
    after.database.tables.rows .messages =
      before.database.tables.rows .messages ++ messages ∧
    messages.length = users.length ∧
    ∀ pair ∈ users.zip responses,
      Answered unmarshal request jobs
        (after.database.tables.rows .messages) pair.1 pair.2
  others : ∀ table, table ≠ .messages →
    after.database.tables.rows table = before.database.tables.rows table

section Call

variable {environment : Environment} {marshal : Delivery → String}
  {request : Request} {users : List Recipient} {world : World}
  {messageIDs : List String}

omit [Collation] in
theorem zip_zipWith {pair : Recipient × Response}
    (member : pair ∈ users.zip (List.zipWith responseFor users messageIDs)) :
    ∃ messageID, (pair.1, messageID) ∈ users.zip messageIDs ∧
      pair.2 = responseFor pair.1 messageID := by
  induction users generalizing messageIDs with
  | nil => cases member
  | cons user rest ih =>
      cases messageIDs with
      | nil => cases member
      | cons messageID others =>
          rcases List.mem_cons.mp member with rfl | later
          · exact ⟨messageID, .head _, rfl⟩
          · obtain ⟨found, inZip, same⟩ := ih later
            exact ⟨found, .tail _ inZip, same⟩

omit [Collation] in
theorem exists_user (lengths : messageIDs.length = users.length)
    {messageID : String} (member : messageID ∈ messageIDs) :
    ∃ user, (user, messageID) ∈ users.zip messageIDs := by
  obtain ⟨index, small, rfl⟩ := List.getElem_of_mem member
  refine ⟨users[index], ?_⟩
  exact List.mem_iff_getElem.mpr ⟨index, by simp; omega, by simp⟩

omit [Collation] in
theorem notificationIDs (lengths : messageIDs.length = users.length) :
    (List.zipWith responseFor users messageIDs).map
      Response.notificationID = messageIDs := by
  induction users generalizing messageIDs with
  | nil => cases messageIDs <;> simp_all
  | cons user rest ih =>
      cases messageIDs with
      | nil => simp at lengths
      | cons messageID others =>
          simp only [List.zipWith_cons_cons, List.map_cons, responseFor]
          rw [ih (by simpa using lengths)]

omit [Collation] in
/-- The entries of the map, as the iteration meets them. -/
theorem lookup_of_mem_entries {jobs : Jobs} {order : List String}
    {pair : String × Gobble.Job} (member : pair ∈ entries jobs order) :
    jobs.lookup pair.1 = some pair.2 := by
  obtain ⟨id, _, found⟩ := List.mem_filterMap.mp member
  obtain ⟨job, stored, rfl⟩ := Option.map_eq_some_iff.mp found
  exact stored

omit [Collation] in
theorem mem_entries {jobs : Jobs} {order : List String} {id : String}
    {job : Gobble.Job} (inOrder : id ∈ order)
    (stored : jobs.lookup id = some job) : (id, job) ∈ entries jobs order :=
  List.mem_filterMap.mpr ⟨id, inOrder, by rw [stored]; rfl⟩

omit [Collation] in
/-- The map has an entry for every drawn ID, and no other. -/
theorem keys_perm {prepared : Jobs} (distinct : messageIDs.Nodup)
    (lengths : messageIDs.length = users.length)
    (mine : ∀ pair ∈ users.zip messageIDs, prepared.lookup pair.2 =
      some (jobFor marshal request pair.1 pair.2))
    (untouched : ∀ id ∉ messageIDs,
      prepared.lookup id = (∅ : Jobs).lookup id) :
    prepared.keys.Perm messageIDs := by
  apply (List.perm_ext_iff_of_nodup prepared.keys_nodup distinct).mpr
  intro id
  rw [← AList.mem_keys, ← AList.lookup_isSome]
  constructor
  · intro present
    by_contra absent
    rw [untouched id absent, AList.lookup_empty] at present
    cases present
  · intro member
    obtain ⟨user, inZip⟩ := exists_user lengths member
    rw [mine (user, id) inZip]
    rfl

omit [Collation] in
/-- The payload of every entry decodes to the delivery of its user. -/
theorem decoded_entries {prepared : Jobs} {order : List String}
    {unmarshal : String → Except String Delivery}
    (perm : order.Perm messageIDs)
    (lengths : messageIDs.length = users.length)
    (mine : ∀ pair ∈ users.zip messageIDs, prepared.lookup pair.2 =
      some (jobFor marshal request pair.1 pair.2))
    (roundTrip : ∀ user ∈ users, ∀ id ∈ messageIDs,
      unmarshal (marshal (deliveryFor request user id)) =
        .ok (deliveryFor request user id)) :
    ∀ pair ∈ entries prepared order,
      decodedID unmarshal pair.2.payload = some pair.1 := by
  intro pair member
  have found := lookup_of_mem_entries member
  have inOrder : pair.1 ∈ messageIDs := by
    obtain ⟨id, inOrder, entry⟩ := List.mem_filterMap.mp member
    obtain ⟨job, _, rfl⟩ := Option.map_eq_some_iff.mp entry
    exact perm.mem_iff.mp inOrder
  obtain ⟨user, inZip⟩ := exists_user lengths inOrder
  rw [mine (user, pair.1) inZip, Option.some.injEq] at found
  rw [← found, jobFor_payload, decodedID,
    roundTrip user (List.of_mem_zip inZip).1 pair.1 inOrder]
  rfl

/-- The new jobs have the message IDs of the entries, each of them once. -/
theorem messageIDs_of_added {unmarshal : String → Except String Delivery}
    {pairs : List (String × Gobble.Job)} {before after : Database}
    {jobs : List Gobble.Row} {messages : List Message}
    (added : Added pairs before after jobs messages)
    (decoded : ∀ pair ∈ pairs,
      decodedID unmarshal pair.2.payload = some pair.1) :
    jobs.map (messageIDOf unmarshal) =
      (pairs.map Prod.fst).map Option.some :=
  calc jobs.map (messageIDOf unmarshal)
      = (jobs.map Gobble.Row.payload).map (decodedID unmarshal) := by
        rw [List.map_map]
        rfl
    _ = pairs.map (fun pair => decodedID unmarshal pair.2.payload) := by
        rw [added.payloads, List.map_map]
        rfl
    _ = pairs.map (fun pair => some pair.1) := List.map_congr_left decoded
    _ = (pairs.map Prod.fst).map Option.some := by
        rw [List.map_map]
        rfl

theorem answered_of_added {unmarshal : String → Except String Delivery}
    {pairs : List (String × Gobble.Job)} {before after : Database}
    {jobs : List Gobble.Row} {messages : List Message}
    (added : Added pairs before after jobs messages)
    (distinct : (pairs.map Prod.fst).Nodup)
    (decoded : ∀ pair ∈ pairs,
      decodedID unmarshal pair.2.payload = some pair.1)
    {user : Recipient} {messageID : String}
    (roundTrip : unmarshal (marshal (deliveryFor request user messageID)) =
      .ok (deliveryFor request user messageID))
    (entry : (messageID, jobFor marshal request user messageID) ∈ pairs) :
    Answered unmarshal request jobs (after.tables.rows .messages) user
      (responseFor user messageID) where
  status := rfl
  recipient := rfl
  job := by
    have payload : marshal (deliveryFor request user messageID) ∈
        jobs.map Gobble.Row.payload := by
      rw [added.payloads]
      exact List.mem_map.mpr ⟨_, entry, jobFor_payload user messageID⟩
    obtain ⟨row, member, same⟩ := List.mem_map.mp payload
    have unique : UniqueBy (messageIDOf unmarshal) jobs := by
      rw [UniqueBy, messageIDs_of_added added decoded]
      exact distinct.map (Option.some_injective _)
    have mine : messageIDOf unmarshal row = some messageID := by
      rw [messageIDOf, decodedID, same, roundTrip]
      rfl
    have one := unique.filter_eq member
    rw [mine] at one
    exact ⟨row, one, by rw [same]; exact roundTrip⟩
  message := by
    have inIDs : messageID ∈ messages.map Message.id := by
      rw [added.ids]
      exact List.mem_map.mpr ⟨_, entry, rfl⟩
    obtain ⟨message, member, rfl⟩ := List.mem_map.mp inIDs
    have stored : message ∈ after.tables.rows .messages := by
      rw [added.rows]
      exact List.mem_append_right _ member
    have unique : UniqueBy Message.id (after.tables.rows .messages) :=
      List.Nodup.of_map (fun id => [id]) (by
        rw [List.map_map]
        exact after.sound.uniqueKey .messages)
    exact ⟨message, unique.filter_eq stored, added.queued message member⟩

/-- With fresh and distinct message IDs and no failing statement, every user
gets one job, one row and one response. -/
theorem deliver_queues_each_user_once
    (unmarshal : String → Except String Delivery)
    (roundTrip : ∀ user ∈ users, ∀ id ∈ messageIDs,
      unmarshal (marshal (deliveryFor request user id)) =
        .ok (deliveryFor request user id))
    (draws : drawn environment world.services users.length =
      some messageIDs)
    (distinct : messageIDs.Nodup)
    (fresh : ∀ id ∈ messageIDs, world.database.tables.message id = none)
    (calm : ∀ index < 2 + 3 * users.length,
      environment.faults (world.statements + index) = none) :
    ∃ responses after,
      (deliver marshal request users).run (World.handle environment) world =
        (some responses, after) ∧
      Delivers unmarshal request users world after responses := by
  obtain ⟨prepared, ran, lengths, mine, untouched⟩ :=
    prepare_distinct ∅ draws distinct
  have keys := keys_perm distinct lengths mine untouched
  have order := (environment.order prepared.keys).2.trans keys
  have decoded := decoded_entries order lengths mine roundTrip
  generalize same : entries prepared (environment.order prepared.keys).1 =
    pairs at decoded
  have ids : (pairs.map Prod.fst).Perm messageIDs := by
    rw [← same]
    exact (entries_perm environment prepared).trans keys
  have count : pairs.length = users.length := by
    rw [← lengths, ← ids.length_eq, List.length_map]
  have nodup : (pairs.map Prod.fst).Nodup := ids.nodup_iff.mpr distinct
  have unused : ∀ pair ∈ pairs,
      world.database.tables.message pair.1 = none := by
    intro pair member
    exact fresh pair.1 (ids.mem_iff.mp (List.mem_map_of_mem member))
  obtain ⟨after, jobs, messages, queued, enqueued, added⟩ :=
    @queue_fresh _ environment prepared
      (List.zipWith responseFor users messageIDs)
      { world with services := world.services + users.length } pairs same
      nodup unused (by rwa [count])
  refine ⟨List.zipWith responseFor users messageIDs, after, ?_, ?_, ?_,
    ⟨jobs, messages, enqueued, ?_, added.rows, ?_, ?_⟩, added.others⟩
  · rw [deliver, Program.run_bind_of _ ran]
    exact queued
  · simp [lengths]
  · rw [notificationIDs lengths]
    exact distinct
  · have same := congrArg List.length added.payloads
    simpa [count] using same
  · have same := congrArg List.length added.ids
    simpa [count] using same
  · intro pair member
    obtain ⟨messageID, inZip, response⟩ := zip_zipWith member
    have inOrder := order.mem_iff.mpr (List.of_mem_zip inZip).2
    rw [response]
    apply answered_of_added added nodup decoded
      (roundTrip _ (List.of_mem_zip inZip).1 _ (List.of_mem_zip inZip).2)
    rw [← same]
    exact mem_entries inOrder (mine (pair.1, messageID) inZip)

end Call

/-! ## One user, twice -/

def quoted (name value : String) : String :=
  "\"" ++ name ++ "\":\"" ++ value ++ "\""

def object (members : List String) : String :=
  "\x7b" ++ String.intercalate "," members ++ "\x7d"

def plainMarshal (delivery : Delivery) : String :=
  let options := delivery.options
  object
    [ "\"Options\":" ++ object
        [ quoted "ReplyTo" options.replyTo, quoted "Subject" options.subject,
          quoted "KindDescription" options.kindDescription,
          quoted "SourceDescription" options.sourceDescription,
          quoted "Text" options.text,
          "\"HTML\":" ++ object
            [ quoted "BodyContent" options.html.bodyContent,
              quoted "BodyAttributes" options.html.bodyAttributes,
              quoted "Head" options.html.head,
              quoted "Doctype" options.html.doctype ],
          quoted "KindID" options.kindID, quoted "To" options.toAddress,
          quoted "Role" options.role,
          quoted "Endorsement" options.endorsement ],
      quoted "UserGUID" delivery.userGUID, quoted "Email" delivery.email,
      "\"Space\":" ++ object
        [ quoted "GUID" delivery.space.guid, quoted "Name" delivery.space.name,
          quoted "OrganizationGUID" delivery.space.organizationGUID ],
      "\"Organization\":" ++ object
        [ quoted "GUID" delivery.organization.guid,
          quoted "Name" delivery.organization.name ],
      quoted "ClientID" delivery.clientID,
      quoted "MessageID" delivery.messageID, quoted "Scope" delivery.scope ]

def plainUnmarshal (deliveries : List Delivery) (payload : String) :
    Except String Delivery :=
  match deliveries.find? fun delivery => plainMarshal delivery == payload with
  | some delivery => .ok delivery
  | none => .error "invalid character"

def twoGUIDs : Environment :=
  { Environment.calm with
    serve := fun number service =>
      match service with
      | .newGUID => .ok (if number = 0 then "guid-1" else "guid-2")
      | other => other.answer }

def twice : List Recipient :=
  [⟨"user-123", "user-123@example.com"⟩, ⟨"user-123", "user-123@example.com"⟩]

def twiceUnmarshal : String → Except String Delivery :=
  plainUnmarshal (List.zipWith (deliveryFor sampleRequest) twice
    ["guid-1", "guid-2"])

end Collated

attribute [local instance] Collation.binary

theorem deliver_same_user_twice :
    ∃ responses after,
      (deliver plainMarshal sampleRequest twice).run
        (World.handle twoGUIDs) (.start []) = (some responses, after) ∧
      Delivers twiceUnmarshal sampleRequest twice (.start []) after
        responses := by
  refine deliver_queues_each_user_once twiceUnmarshal ?_
    (rfl : drawn twoGUIDs 0 2 = some ["guid-1", "guid-2"]) (by decide)
    (fun _ _ => rfl) (fun _ _ => rfl)
  decide +kernel

end Mailer

end Notifications.Strategies
