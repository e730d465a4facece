import Notifications.Web.Notifying
import Notifications.Web.References

/-!
# Queued notifications and later registrations

A notify request registers its client and its kind before it enqueues a job,
and `LoadTemplates` wants both rows when the job is attempted.  Registrations
and notify requests delete no client, and the one thing that deletes a kind is
a registration of its own client that includes kinds but not this one.
-/

set_option autoImplicit false

namespace Notifications.Web

open Notifications.Lib Notifications.Models Notifications.Services
open Notifications.Postal Notifications.Strategies

section Collated

variable [Collation]

/-- `LoadTemplates` finds the client and the kind. -/
structure Deliverable (server : Server) (clientID kindID : String) :
    Prop where
  rows : RowsPresent server.database.tables clientID kindID
  loads : ∀ environment, Faultless environment → ∃ result,
    ((TemplatesLoader.loadTemplates clientID kindID).run
      (World.handle environment) server.enter).1 = some result ∧
    result ≠ .error (KindsRepo.missing kindID clientID) ∧
    result ≠ .error (ClientsRepo.missing clientID)

/-- The IDs of the kinds that a registration includes; it prunes the other
kinds of its client. -/
def Endpoint.includedKinds (library : Library) :
    Endpoint → Option (List String)
  | .registration body =>
      match newRegistration library body with
      | .error _ => none
      | .ok parameters =>
          if parameters.includesKinds then
            some (parameters.kinds.values.map Kind.id)
          else
            none
  | .notifications body =>
      match body.first.bind fun json =>
          Json.decodeStruct clientRegistrationFields json .zero with
      | none => none
      | some parameters =>
          if parameters.notifications.keys.isEmpty then none
          else some parameters.notifications.keys
  | _ => none

def Endpoint.registers : Endpoint → Bool
  | .registration _ => true
  | .notifications _ => true
  | .notify _ _ _ => true
  | _ => false

def Session.accepted (setup : Setup) (server : Server) (session : Session) :
    Prop :=
  ((session.request.serve setup).run (World.handle session.environment)
    server.enter).1 = some none

def OwnToken (claims : Jwt.Fields) (clientID : String) : Prop :=
  ∃ own ∈ clientIDOf claims, Collation.equal own clientID

/-- The kind is among those with these IDs, if there is one. -/
def Includes (kinds : List String) (kindID : String) : Prop :=
  kindID = "" ∨ ∃ id ∈ kinds, Collation.equal id kindID

instance (claims : Jwt.Fields) (clientID : String) :
    Decidable (OwnToken claims clientID) :=
  inferInstanceAs (Decidable (∃ own ∈ clientIDOf claims,
    Collation.equal own clientID = true))

instance (kinds : List String) (kindID : String) :
    Decidable (Includes kinds kindID) :=
  inferInstanceAs (Decidable (_ ∨ ∃ id ∈ kinds,
    Collation.equal id kindID = true))

/-- A registration or a notify request; and an accepted registration of the
client that includes kinds includes this one, if there is one. -/
def Spares (setup : Setup) (clientID kindID : String) (server : Server)
    (session : Session) : Prop :=
  session.request.endpoint.registers = true ∧
    (session.accepted setup server →
      OwnToken session.request.claims clientID →
        ∀ kinds ∈ session.request.endpoint.includedKinds setup.library,
          Includes kinds kindID)

instance (setup : Setup) (server : Server) (session : Session) :
    Decidable (session.accepted setup server) :=
  inferInstanceAs (Decidable (_ = _))

instance (setup : Setup) (clientID kindID : String) (server : Server)
    (session : Session) : Decidable (Spares setup clientID kindID server
      session) :=
  inferInstanceAs (Decidable (_ ∧ (_ → _ → _)))

/-! ## Loading -/

/-- The error of a template that is missing is not about the client or the
kind. -/
theorem RowsPresent.deliverable {server : Server} {clientID kindID : String}
    (rows : RowsPresent server.database.tables clientID kindID) :
    Deliverable server clientID kindID := by
  refine ⟨rows, ?_⟩
  intro environment faultless
  refine ⟨_, run_loadTemplates faultless server.enter rows, ?_⟩
  rw [loaded]
  split
  · simp [KindsRepo.missing, ClientsRepo.missing, TemplatesRepo.missing]
  · simp

/-! ## Registrations -/

section Registering

variable {clientID kindID : String} {before after : Tables}

theorem RowsPresent.grow (rows : RowsPresent before clientID kindID)
    (grows : ∀ table, table ≠ .messages → ∀ key,
      (before.lookup table key).isSome = true →
        (after.lookup table key).isSome = true) :
    RowsPresent after clientID kindID where
  client := grows .clients (by decide) _ rows.client
  kind named := grows .kinds (by decide) _ (rows.kind named)

/-- A registration keeps the rows unless it prunes the kind. -/
theorem RowsPresent.register (rows : RowsPresent before clientID kindID)
    {client : Client} {kinds : List Kind} {prune : Bool}
    (registered : Registered client kinds prune before after)
    (included : Collation.equal client.id clientID → prune = true →
      Includes (kinds.map Kind.id) kindID) :
    RowsPresent after clientID kindID := by
  constructor
  · exact registered.keepsClients clientID rows.client
  · intro named
    by_cases own : Collation.equal clientID client.id
    · have key := Collation.key_pair (Collation.equal_self kindID) own
      rw [key]
      cases last : lastOf kindID kinds with
      | some kind =>
          obtain ⟨row, found, _⟩ := registered.entry kindID kind last
          rw [found]
          rfl
      | none =>
          rw [registered.missing kindID last]
          cases prune with
          | false =>
              have stored := rows.kind named
              rwa [key] at stored
          | true =>
              have same : Collation.equal client.id clientID := by
                simpa using (Collation.equal_iff.mp own).symm
              obtain ⟨id, listed, alike⟩ :=
                (included same rfl).resolve_left named
              obtain ⟨kind, member, rfl⟩ := List.mem_map.mp listed
              have found := lastOf_isSome.mpr ⟨kind, member, alike⟩
              rw [last] at found
              cases found
    · rw [registered.foreignKinds kindID clientID own]
      exact rows.kind named

end Registering

end Collated

/-- The loop that sets the IDs has met a notification under each of them, and
keeps the other entries. -/
theorem identified_of_foldlM {ids : List String}
    {notifications identified : NotificationMap}
    (done : ids.foldlM (fun (identified : NotificationMap) id =>
      match identified.lookup id with
      | some (some notification) =>
          some (identified.insert id (some { notification with id := id }))
      | _ => none) notifications = some identified) :
    (∀ id ∈ ids, ∃ notification,
      notifications.lookup id = some (some notification) ∧
        identified.lookup id = some (some { notification with id := id })) ∧
      ∀ id ∉ ids, identified.lookup id = notifications.lookup id := by
  induction ids generalizing notifications with
  | nil =>
      cases done
      exact ⟨nofun, fun _ _ => rfl⟩
  | cons first rest ih =>
      rw [List.foldlM_cons] at done
      obtain ⟨between, stepped, done⟩ := Option.bind_eq_some_iff.mp done
      obtain ⟨later, kept⟩ := ih done
      split at stepped
      · rename_i notification found
        cases stepped
        constructor
        · intro id member
          by_cases same : id = first
          · subst same
            refine ⟨notification, found, ?_⟩
            by_cases again : id ∈ rest
            · obtain ⟨named, stored, result⟩ := later id again
              rw [AList.lookup_insert] at stored
              cases stored
              exact result
            · rw [kept id again, AList.lookup_insert]
          · have inRest := (List.mem_cons.mp member).resolve_left same
            obtain ⟨named, stored, result⟩ := later id inRest
            rw [AList.lookup_insert_ne same] at stored
            exact ⟨named, stored, result⟩
        · intro id absent
          rw [List.mem_cons, not_or] at absent
          rw [kept id absent.2, AList.lookup_insert_ne absent.1]
      · cases stepped

theorem foldlM_identifies {ids : List String} {notifications : NotificationMap}
    (present : ∀ id ∈ ids, ∃ notification,
      notifications.lookup id = some (some notification)) :
    ∃ identified, ids.foldlM (fun (identified : NotificationMap) id =>
      match identified.lookup id with
      | some (some notification) =>
          some (identified.insert id (some { notification with id := id }))
      | _ => none) notifications = some identified := by
  induction ids generalizing notifications with
  | nil => exact ⟨notifications, rfl⟩
  | cons first rest ih =>
      obtain ⟨notification, found⟩ := present first (.head _)
      rw [List.foldlM_cons, found]
      apply ih
      intro id member
      by_cases same : id = first
      · subst same
        rw [AList.lookup_insert]
        exact ⟨_, rfl⟩
      · rw [AList.lookup_insert_ne same]
        exact present id (.tail _ member)

/-- The IDs of the generated kinds are the keys of the map. -/
theorem mem_generatedKinds {notifications identified : NotificationMap}
    (done : identify notifications = some identified) {order : List String}
    (all : order.Perm identified.keys) {id : String}
    (member : id ∈ notifications.keys) :
    id ∈ (generatedKinds identified order).map Kind.id := by
  obtain ⟨notification, _, found⟩ := (identified_of_foldlM done).1 id member
  have listed : id ∈ order := by
    rw [all.mem_iff]
    exact AList.lookup_isSome.mp (by rw [found]; rfl)
  refine List.mem_map.mpr ⟨{ Table.kinds.zero with
    id := id
    description := notification.description
    critical := notification.critical
    templateID := doNotSetTemplateID }, ?_, rfl⟩
  refine List.mem_filterMap.mpr ⟨id, listed, ?_⟩
  rw [found]
  rfl

section Collated

variable [Collation]

/-- What a parsed body of `PUT /notifications` comes from. -/
theorem newClientRegistration_ok {library : Library} {body : Body}
    {environment : Environment} {world : World}
    {parameters : ClientRegistration}
    (parsed : ((newClientRegistration library body).run
      (World.handle environment) world).1 = some (.ok parameters)) :
    ∃ decoded : ClientRegistration,
      (body.first.bind fun json =>
        Json.decodeStruct clientRegistrationFields json .zero) =
          some decoded ∧
      identify decoded.notifications = some parameters.notifications := by
  rw [newClientRegistration] at parsed
  split at parsed
  · cases parsed
  · rename_i decoded found
    refine ⟨decoded, found, ?_⟩
    rcases ran : (strictValidateJSON library body).run
      (World.handle environment) world with ⟨result, after⟩
    cases result with
    | none =>
        rw [Program.run_bind_none _ ran] at parsed
        cases parsed
    | some refusal =>
        rw [Program.run_bind_of _ ran] at parsed
        cases refusal with
        | some refusal => cases parsed
        | none =>
            cases named : identify decoded.notifications with
            | none =>
                simp only [named] at parsed
                cases parsed
            | some notifications =>
                simp only [named] at parsed
                cases parsed
                rfl

/-! ## Later requests -/

section Requests

variable {clientID kindID : String} {setup : Setup} {claims : Jwt.Fields}
  {body : Body} {environment : Environment} {world : World}

/-- The second half of a registration that includes the kind, or prunes
nothing, or is for another client. -/
theorem RowsPresent.executeRegistration {description : String}
    {kinds : List Kind} {prune : Bool}
    (rows : RowsPresent world.database.tables clientID kindID)
    (named : ∀ kind ∈ kinds, kind.id ≠ "")
    (included : ((executeRegistration claims description kinds prune).run
        (World.handle environment) world).1 = some none →
      OwnToken claims clientID → prune = true →
        Includes (kinds.map Kind.id) kindID) :
    RowsPresent ((executeRegistration claims description kinds prune).run
      (World.handle environment) world).2.database.tables clientID
        kindID := by
  rcases @executeRegistration_outcome _ claims description kinds prune named
    environment world with ⟨_, unchanged⟩ | ⟨client, own, done, registered⟩
  · rw [unchanged]
    exact rows
  · apply rows.register registered
    intro same pruned
    have listed := included done ⟨client, own, same⟩ pruned
    rw [List.map_map]
    exact listed

theorem RowsPresent.registerNotifications
    (rows : RowsPresent world.database.tables clientID kindID)
    (included : ((registerNotifications setup.library claims body).run
        (World.handle environment) world).1 = some none →
      OwnToken claims clientID →
        ∀ kinds ∈ (Endpoint.registration body).includedKinds setup.library,
          Includes kinds kindID) :
    RowsPresent ((registerNotifications setup.library claims body).run
      (World.handle environment) world).2.database.tables clientID
        kindID := by
  rw [Web.registerNotifications] at included ⊢
  split
  · exact rows
  · rename_i parameters parsed
    simp only [parsed, Endpoint.includedKinds] at included
    split
    · exact rows
    · rename_i valid
      simp only [valid] at included
      apply rows.executeRegistration (named_of_valid valid)
      intro done own pruned
      apply included done own
      rw [if_pos pruned]
      exact rfl

theorem RowsPresent.registerClientWithNotifications
    (rows : RowsPresent world.database.tables clientID kindID)
    (included : ((registerClientWithNotifications setup.library claims
        body).run (World.handle environment) world).1 = some none →
      OwnToken claims clientID →
        ∀ kinds ∈ (Endpoint.notifications body).includedKinds setup.library,
          Includes kinds kindID) :
    RowsPresent ((registerClientWithNotifications setup.library claims
      body).run (World.handle environment) world).2.database.tables clientID
        kindID := by
  rcases run_registerClientWithNotifications setup.library claims body
    environment world with unchanged | ⟨parameters, read, valid, onward⟩
  · rw [unchanged]
    exact rows
  · rw [onward] at included ⊢
    obtain ⟨decoded, found, identified⟩ := newClientRegistration_ok read
    have some : decoded.notifications.keys.isEmpty = true →
        parameters.notifications.keys.isEmpty = true := by
      intro none
      rw [identify, List.isEmpty_iff.mp none] at identified
      rw [← Option.some.inj identified]
      exact none
    apply rows.executeRegistration (generatedKinds_named valid)
    intro done own pruned
    refine Or.imp_right ?_ (included done own decoded.notifications.keys ?_)
    · rintro ⟨id, listed, alike⟩
      exact ⟨id, mem_generatedKinds identified (environment.order _).2 listed,
        alike⟩
    · simp only [Endpoint.includedKinds, found]
      rw [if_neg]
      · exact rfl
      · intro none
        rw [some none] at pruned
        cases pruned

theorem RowsPresent.notify {strategy : Strategy} {guid : String}
    {parsed : Except Refusal NotifyParams}
    (rows : RowsPresent world.database.tables clientID kindID)
    (closed : world.transaction = none) :
    RowsPresent ((notify setup.marshal claims strategy guid parsed).run
      (World.handle environment) world).2.database.tables clientID
        kindID := by
  rcases @run_notify _ setup.marshal claims strategy guid environment world
    parsed closed with ⟨_, unnotified⟩ | ⟨parameters, client, _, _, notified⟩
  · exact rows.grow fun table _ => unnotified.grows table
  · exact rows.grow notified.grows

theorem step_rowsPresent {server next : Server} {session : Session}
    {shown : List Unit}
    (rows : RowsPresent server.database.tables clientID kindID)
    (spares : Spares setup clientID kindID server session)
    (stepped : (serial setup).step server session = some (next, shown)) :
    RowsPresent next.database.tables clientID kindID := by
  obtain ⟨⟨claims, endpoint⟩, environment⟩ := session
  obtain ⟨registers, included⟩ := spares
  cases stepped
  simp only [Session.accepted, Request.serve, authenticated] at included
  simp only [leave, Request.serve, authenticated]
  split
  · exact rows
  · exact rows
  · rename_i passed
    simp only [passed] at included
    cases endpoint with
    | registration body => exact rows.registerNotifications included
    | notifications body =>
        exact rows.registerClientWithNotifications included
    | notify strategy guid parsed => exact rows.notify rfl
    | _ => cases registers

end Requests

/-! ## Queued notifications -/

/-- A request that dispatches has registered its client and its kind. -/
theorem Notified.rowsPresent {marshal : Delivery → String}
    {clientID kindID : String} {before after : World}
    (notified : Notified marshal clientID kindID before after) :
    RowsPresent after.database.tables clientID kindID := by
  obtain ⟨client, kind, middle, clientFound, kindFound, registered, grown,
    same⟩ := notified.registered
  have own := clientFound.id
  constructor
  · obtain ⟨row, found, _⟩ := registered.described
    rw [Tables.lookup_congr (same .clients (by decide)),
      ← Collation.key_congr own, found]
    rfl
  · intro named
    rw [Tables.lookup_congr (same .kinds (by decide))]
    rcases kindFound with stored | ⟨_, rfl⟩
    · exact grown .kinds _ (Option.isSome_of_mem stored)
    · have last : lastOf kindID ([{ Table.kinds.zero with
            id := kindID, clientID := clientID }].filter
          fun kind => kind.id ≠ "") = some { Table.kinds.zero with
            id := kindID, clientID := clientID } := by
        simp [lastOf, named]
      have key := Collation.key_pair (Collation.equal_self kindID) own
      obtain ⟨row, found, _⟩ := registered.entry kindID _ last
      rw [← key, found]
      rfl

/-- What a notify request enqueues can be delivered until its own client
registers other kinds without this one. -/
theorem queued_notifications_stay_deliverable (setup : Setup)
    (server : Server) (claims : Jwt.Fields) (strategy : Strategy)
    (guid : String) (parsed : Except Refusal NotifyParams)
    (environment : Environment) (queued : Server) (shown : List Unit)
    (notified : (serial setup).step server
      ⟨⟨claims, .notify strategy guid parsed⟩, environment⟩ =
        some (queued, shown)) (job : Gobble.Row)
    (enqueued : job ∈ queued.jobs) (new : job ∉ server.jobs) :
    ∃ delivery parameters, job.payload = setup.marshal delivery ∧
      clientIDOf claims = some delivery.clientID ∧
      parsed = .ok parameters ∧
      parameters.kindID = delivery.options.kindID ∧
      ∀ later final trace,
        (serial setup).Guarded
            (Spares setup delivery.clientID delivery.options.kindID) later
            queued →
          (serial setup).run later queued = some (final, trace) →
            Deliverable final delivery.clientID delivery.options.kindID := by
  have dispatched : ∃ clientID parameters, parsed = .ok parameters ∧
      clientIDOf claims = some clientID ∧
      RowsPresent queued.database.tables clientID parameters.kindID ∧
      JobOf setup.marshal clientID parameters.kindID job.payload := by
    cases notified
    simp only [leave, Request.serve, authenticated] at enqueued ⊢
    split at enqueued
    · exact absurd enqueued new
    · exact absurd enqueued new
    · rcases @run_notify _ setup.marshal claims strategy guid environment
          server.enter parsed rfl with
        ⟨_, unnotified⟩ | ⟨parameters, clientID, ok, client, notified⟩
      · rw [Request.handler, unnotified.jobs] at enqueued
        exact absurd enqueued new
      · exact ⟨clientID, parameters, ok, client, notified.rowsPresent,
          (notified.jobs job enqueued).resolve_left new⟩
  obtain ⟨_, parameters, ok, client, rows, delivery, payload, rfl, kind⟩ :=
    dispatched
  refine ⟨delivery, parameters, payload, client, ok, kind.symm, ?_⟩
  rw [← kind] at rows
  intro later final trace guarded ran
  have present := (serial setup).run_state_invariant
    (Spares setup delivery.clientID delivery.options.kindID)
    (fun server => RowsPresent server.database.tables delivery.clientID
      delivery.options.kindID)
    (fun _ _ _ _ rows spares stepped => step_rowsPresent rows spares stepped)
    rows guarded ran
  exact present.deliverable

def plainSetup : Setup := ⟨anyLibrary, Mailer.plainMarshal⟩

/-- A client that was never registered notifies a user. -/
def notifyingSession : Session :=
  ⟨⟨writerClaims, .notify .user "user"
    (.ok ⟨"", "Subject", "text", ⟨"", "", "", ""⟩, "kind", "", ""⟩)⟩, .calm⟩

/-- The client registers the kind, after another one has registered. -/
def sparingSessions : List Session :=
  [ ⟨⟨[("client_id", .string "other"),
      ("scope", .array [.string "notifications.write"])],
      .registration plainBody⟩, .calm⟩,
    ⟨⟨writerClaims, .registration plainBody⟩, .calm⟩ ]

end Collated

attribute [local instance] Collation.binary

theorem queued_notification_survives_registration :
    ∃ queued final : Server, ∃ shown trace : List Unit, ∃ job ∈ queued.jobs,
      (serial plainSetup).step seededServer notifyingSession =
        some (queued, shown) ∧
      (serial plainSetup).run sparingSessions queued = some (final, trace) ∧
      job ∈ final.jobs ∧ Deliverable final "client" "kind" := by
  have ran : ((serial plainSetup).step seededServer notifyingSession).any
      fun after => decide (∃ job ∈ after.1.jobs, job ∉ seededServer.jobs ∧
        (serial plainSetup).Guarded (Spares plainSetup "client" "kind")
          sparingSessions after.1 ∧
        ((serial plainSetup).run sparingSessions after.1).any fun last =>
          decide (job ∈ last.1.jobs)) := by
    decide +kernel
  obtain ⟨⟨queued, shown⟩, stepped, ran⟩ := (Option.any_eq_true _ _).mp ran
  obtain ⟨job, enqueued, new, guarded, ran⟩ := of_decide_eq_true ran
  obtain ⟨⟨final, trace⟩, ran, waits⟩ := (Option.any_eq_true _ _).mp ran
  obtain ⟨delivery, parameters, _, client, ok, kind, stays⟩ :=
    queued_notifications_stay_deliverable plainSetup seededServer _ _ _ _ _
      queued shown stepped job enqueued new
  cases ok
  have own : delivery.clientID = "client" := (Option.some.inj client).symm
  rw [own, ← kind] at stays
  exact ⟨queued, final, shown, trace, job, enqueued, stepped, ran,
    of_decide_eq_true waits, stays _ final trace guarded ran⟩

def pruningSession : Session :=
  ⟨⟨writerClaims, .registration
    ⟨some (.object [("source_description", .string "S"),
      ("kinds", .array [.object [("id", .string "other"),
        ("description", .string "O")]])]), false⟩⟩, .calm⟩

def queuedDelivery : Delivery where
  options := ⟨"", "Subject", "", "", "text", ⟨"", "", "", ""⟩, "kind", "", "",
    Strategy.userEndorsement⟩
  userGUID := "user"
  email := ""
  space := Strategy.noSpace
  organization := Strategy.noOrganization
  clientID := "client"
  messageID := "guid"
  scope := ""

theorem registration_strands_queued_notification :
    ∃ queued final : Server, ∃ shown trace : List Unit, ∃ job ∈ queued.jobs,
      notifyingSession.accepted plainSetup seededServer ∧
      (serial plainSetup).step seededServer notifyingSession =
        some (queued, shown) ∧
      JobOf plainSetup.marshal "client" "kind" job.payload ∧
      pruningSession.accepted plainSetup queued ∧
      (serial plainSetup).run [pruningSession] queued =
        some (final, trace) ∧
      job ∈ final.jobs ∧
      ((TemplatesLoader.loadTemplates "client" "kind").run
        (World.handle .calm) final.enter).1 =
          some (.error (KindsRepo.missing "kind" "client")) ∧
      ¬ Deliverable final "client" "kind" := by
  have accepted : notifyingSession.accepted plainSetup seededServer := by
    decide +kernel
  have ran : ((serial plainSetup).step seededServer notifyingSession).any
      fun after => decide (∃ job ∈ after.1.jobs,
        job.payload = plainSetup.marshal queuedDelivery ∧
        pruningSession.accepted plainSetup after.1 ∧
        ((serial plainSetup).run [pruningSession] after.1).any fun last =>
          decide (job ∈ last.1.jobs ∧
            ((TemplatesLoader.loadTemplates "client" "kind").run
              (World.handle .calm) last.1.enter).1 =
                some (.error (KindsRepo.missing "kind" "client")))) := by
    decide +kernel
  obtain ⟨⟨queued, shown⟩, stepped, ran⟩ := (Option.any_eq_true _ _).mp ran
  obtain ⟨job, enqueued, payload, registered, ran⟩ := of_decide_eq_true ran
  obtain ⟨⟨final, trace⟩, ran, left⟩ := (Option.any_eq_true _ _).mp ran
  obtain ⟨waits, failed⟩ := of_decide_eq_true left
  refine ⟨queued, final, shown, trace, job, enqueued, accepted, stepped,
    ⟨queuedDelivery, payload, rfl, rfl⟩, registered, ran, waits, failed, ?_⟩
  intro deliverable
  obtain ⟨result, loaded, found, _⟩ := deliverable.loads .calm fun _ => rfl
  rw [failed] at loaded
  exact found (Option.some.inj loaded).symm

end Notifications.Web
