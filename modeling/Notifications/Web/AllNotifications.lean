import Notifications.Lib.Index
import Notifications.Models.Listing
import Notifications.Web.Housing

/-!
# `GET /notifications`

The listing has an entry for every client, and puts a kind under the client
whose ID it spells.  A kind without such a client would not be listed; and only
requests that spell a client's ID in another way leave one behind.
-/

set_option autoImplicit false

namespace Notifications.Models

def Client.templateToUse (client : Client) : String :=
  if client.templateID ≠ "" then client.templateID else defaultTemplateID

def Kind.templateToUse (kind : Kind) : String :=
  if kind.templateID ≠ "" then kind.templateID else defaultTemplateID

end Notifications.Models

namespace Notifications.Services

open Notifications.Lib Notifications.Models

def NotificationsFinder.allClientsAndNotifications :
    Prog (Except Error (List Client × List Kind)) := do
  match ← ClientsRepo.findAll .connection with
  | (_, some error) => pure (.error error)
  | (clients, none) =>
      match ← KindsRepo.findAll .connection with
      | (_, some error) => pure (.error error)
      | (notifications, none) => pure (.ok (clients, notifications))

end Notifications.Services

namespace Notifications.Web

open Notifications.Lib Notifications.Models Notifications.Services

structure ListedNotification where
  description : String
  template : String
  critical : Bool
  deriving DecidableEq, Repr

structure ListedClient where
  name : String
  template : String
  notifications : AList fun _ : String => ListedNotification

abbrev NotificationsByClient : Type := AList fun _ : String => ListedClient

def listedNotification (notification : Kind) : ListedNotification where
  description := notification.description
  template := notification.templateToUse
  critical := notification.critical

/-- The inner loop of `constructNotifications`. -/
def clientNotifications (notifications : List Kind) (client : Client) :
    AList fun _ : String => ListedNotification :=
  notifications.foldl (fun listed notification =>
    if notification.clientID == client.id then
      listed.insert notification.id (listedNotification notification)
    else listed) ∅

def clientWithNotifications (notifications : List Kind) (client : Client) :
    ListedClient where
  name := client.description
  template := client.templateToUse
  notifications := clientNotifications notifications client

def constructNotifications (clients : List Client)
    (notifications : List Kind) : NotificationsByClient :=
  indexBy Client.id (clientWithNotifications notifications) clients

section Collated

variable [Collation]

/-- `GetAllNotifications.ServeHTTP`. -/
def getAllNotifications : Prog (Except Refusal NotificationsByClient) := do
  match ← NotificationsFinder.allClientsAndNotifications with
  | .error error => pure (.error (.failed error))
  | .ok (clients, notifications) =>
      pure (.ok (constructNotifications clients notifications))

/-! ## What is listed -/

/-- Under a client there is each of its kinds, as it is stored, and nothing
else.  The keys of a map are different from each other. -/
structure ListsKinds (tables : Tables) (client : Client)
    (listed : ListedClient) : Prop where
  name : listed.name = client.description
  template : listed.template = client.templateID
  kinds : ∀ id notification,
    listed.notifications.lookup id = some notification ↔
      ∃ kind : Kind, kind ∈ tables.rows .kinds ∧ kind.id = id ∧
        Collation.equal kind.clientID client.id ∧
        notification = ⟨kind.description, kind.templateID, kind.critical⟩

/-- There is an entry for each client, and no other. -/
structure ListsAll (tables : Tables) (listing : NotificationsByClient) :
    Prop where
  clients : ∀ client : Client, client ∈ tables.rows .clients →
    ∃ listed, listing.lookup client.id = some listed ∧
      ListsKinds tables client listed
  only : ∀ id listed, listing.lookup id = some listed →
    ∃ client : Client, client ∈ tables.rows .clients ∧ client.id = id

section Listing

variable {database : Database}

omit [Collation] in
theorem clientNotifications_eq (notifications : List Kind)
    (client : Client) :
    clientNotifications notifications client =
      indexBy Kind.id listedNotification (notifications.filter
        fun notification => notification.clientID == client.id) := by
  rw [indexBy, List.foldl_filter]
  rfl

theorem uniqueBy_clientID :
    UniqueBy Client.id (database.tables.rows .clients) := by
  have unique := database.sound.uniqueKey .clients
  have keys : (database.tables.rows .clients).map Table.clients.uniqueKey =
      ((database.tables.rows .clients).map Client.id).map fun id =>
        Collation.key [id] := by
    rw [List.map_map]
    rfl
  rw [UniqueBy, keys] at unique
  exact unique.of_map _

theorem uniqueBy_kindID (clientID : String) :
    UniqueBy Kind.id ((database.tables.rows .kinds).filter
      fun kind : Kind => kind.clientID == clientID) := by
  have unique := database.sound.uniqueKey .kinds
  refine List.Nodup.map_on ?_ ((unique.of_map _).filter _)
  intro one memberOne other memberOther same
  obtain ⟨storedOne, ownOne⟩ := List.mem_filter.mp memberOne
  obtain ⟨storedOther, ownOther⟩ := List.mem_filter.mp memberOther
  apply unique.eq_of_mem storedOne storedOther
  rw [Table.uniqueKey, Table.uniqueKey, same, beq_iff_eq.mp ownOne,
    beq_iff_eq.mp ownOther]

theorem kindTemplateToUse (housed : Housed database.tables) {kind : Kind}
    (member : kind ∈ database.tables.rows .kinds) :
    kind.templateToUse = kind.templateID := by
  have found := (lookup_kinds_iff database.sound).mpr
    ⟨member, Collation.equal_self _, Collation.equal_self _⟩
  rw [Kind.templateToUse, if_pos (housed.kinds _ kind found).2]

theorem clientTemplateToUse (housed : Housed database.tables)
    {client : Client} (member : client ∈ database.tables.rows .clients) :
    client.templateToUse = client.templateID := by
  have found := (lookup_clients_iff database.sound).mpr
    ⟨member, Collation.equal_self _⟩
  rw [Client.templateToUse, if_pos (housed.clients _ client found)]

theorem lists_kinds (housed : Housed database.tables) {client : Client}
    (member : client ∈ database.tables.rows .clients) :
    ListsKinds database.tables client (clientWithNotifications
      (database.tables.rows .kinds) client) := by
  refine ⟨rfl, clientTemplateToUse housed member, ?_⟩
  intro id notification
  rw [clientWithNotifications, clientNotifications_eq,
    lookup_indexBy (uniqueBy_kindID client.id)]
  constructor
  · intro facts
    obtain ⟨kind, listed, sameID, rfl⟩ := facts
    obtain ⟨stored, own⟩ := List.mem_filter.mp listed
    have alike : Collation.equal kind.clientID client.id := by
      rw [beq_iff_eq.mp own]
      exact Collation.equal_self _
    refine ⟨kind, stored, sameID, alike, ?_⟩
    rw [listedNotification, kindTemplateToUse housed stored]
  · intro facts
    obtain ⟨kind, stored, sameID, own, rfl⟩ := facts
    refine ⟨kind, List.mem_filter.mpr ⟨stored, ?_⟩, sameID, ?_⟩
    · have found := (lookup_kinds_iff database.sound).mpr
        ⟨stored, Collation.equal_self _, Collation.equal_self _⟩
      have present := (lookup_clients_iff database.sound).mpr
        ⟨member, Collation.equal_self _⟩
      exact beq_iff_eq.mpr (housed.spelling found own present)
    · rw [listedNotification, kindTemplateToUse housed stored]

theorem lists_all (housed : Housed database.tables) :
    ListsAll database.tables (constructNotifications
      (database.tables.rows .clients) (database.tables.rows .kinds)) := by
  constructor
  · intro client member
    refine ⟨_, (lookup_indexBy uniqueBy_clientID).mpr
      ⟨client, member, rfl, rfl⟩, ?_⟩
    exact lists_kinds housed member
  · intro id listed found
    obtain ⟨client, member, same, _⟩ :=
      (lookup_indexBy uniqueBy_clientID).mp found
    exact ⟨client, member, same⟩

theorem run_getAllNotifications {environment : Environment}
    (faultless : Faultless environment) (world : World) :
    (getAllNotifications.run (World.handle environment) world).1 =
      some (.ok (constructNotifications
        (world.database.tables.rows .clients)
        (world.database.tables.rows .kinds))) := by
  have clients := @run_selectAll _ _ faultless world .connection _ rfl .clients
    fun _ => true
  have kinds := @run_selectAll _ _ faultless world.counted .connection _ rfl
    .kinds fun _ => true
  rw [List.filter_true] at clients kinds
  have found : NotificationsFinder.allClientsAndNotifications.run
      (World.handle environment) world =
        (some (.ok (world.database.tables.rows .clients,
          world.database.tables.rows .kinds)), world.counted.counted) := by
    rw [NotificationsFinder.allClientsAndNotifications,
      ClientsRepo.findAll, Program.run_bind_of _ clients]
    dsimp only
    rw [KindsRepo.findAll, Program.run_bind_of _ kinds]
    rfl
  rw [getAllNotifications, Program.run_bind_of _ found]
  rfl

end Listing

/-- In every state that requests lead to without other spellings, each kind has
its client, and the listing shows all clients and under them all kinds. -/
theorem kinds_are_never_hidden (setup : Setup) (start : Server)
    (noClients : start.database.tables.rows .clients = [])
    (noKinds : start.database.tables.rows .kinds = [])
    (sessions : List Session) (final : Server) (trace : List Unit)
    (guarded : (serial setup).Guarded (WellSpelled setup) sessions start)
    (ran : (serial setup).run sessions start = some (final, trace)) :
    (∀ kind : Kind, kind ∈ final.database.tables.rows .kinds →
      ∃ client : Client, client ∈ final.database.tables.rows .clients ∧
        client.id = kind.clientID) ∧
    ∀ environment, Faultless environment → ∃ listing,
      (getAllNotifications.run (World.handle environment) final.enter).1 =
        some (.ok listing) ∧
      ListsAll final.database.tables listing := by
  have housed := run_serial_housed noClients noKinds guarded ran
  constructor
  · intro kind member
    have found := (lookup_kinds_iff final.database.sound).mpr
      ⟨member, Collation.equal_self _, Collation.equal_self _⟩
    obtain ⟨client, present, same⟩ := (housed.kinds _ kind found).1
    exact ⟨client, (Tables.lookup_eq_some present).1, same⟩
  · intro environment faultless
    exact ⟨_, run_getAllNotifications faultless final.enter,
      lists_all housed⟩

/-- A client registers a kind, and a notify request for another one fails
before it enqueues a job. -/
def partialSessions : List Session :=
  [ ⟨⟨writerClaims, .registration plainBody⟩, .calm⟩,
    ⟨⟨writerClaims, .notify .user "user"
      (.ok ⟨"", "Subject", "text", ⟨"", "", "", ""⟩, "second", "", ""⟩)⟩,
      .failing 8⟩ ]

end Collated

section Binary

attribute [local instance] Collation.binary

theorem kinds_are_never_hidden_sample :
    ∃ final trace,
      (serial anySetup).run partialSessions emptyServer =
        some (final, trace) ∧
      (final.database.tables.rows .kinds).map Kind.id = ["kind", "second"] ∧
      ∃ listing,
        (getAllNotifications.run (World.handle .calm) final.enter).1 =
          some (.ok listing) ∧
        ListsAll final.database.tables listing := by
  have ran : ((serial anySetup).run partialSessions emptyServer).any
      fun after => decide ((after.1.database.tables.rows .kinds).map
        Kind.id = ["kind", "second"]) := by
    decide +kernel
  obtain ⟨⟨final, trace⟩, ran, kinds⟩ := (Option.any_eq_true _ _).mp ran
  have spelled (server : Server) (session : Session) :
      WellSpelled anySetup server session := fun _ =>
    spelledAsStored_of_exact Function.injective_id anySetup server session
  have guarded : (serial anySetup).Guarded (WellSpelled anySetup)
      partialSessions emptyServer :=
    (serial anySetup).guarded_of_forall (fun _ _ _ => spelled _ _) _
  exact ⟨final, trace, ran, of_decide_eq_true kinds,
    (kinds_are_never_hidden anySetup emptyServer rfl rfl partialSessions final
      trace guarded ran).2 .calm fun _ => rfl⟩

end Binary

section Caseless

attribute [local instance] Collation.caseless

/-- A client registers a kind, and the kind is updated under another spelling
of the client's ID. -/
def respellingSessions : List Session :=
  [ ⟨⟨writerClaims, .registration plainBody⟩, .calm⟩,
    ⟨⟨managerClaims, .updateNotifications "CLIENT" "kind"
      (.ok ⟨"K", false, "default"⟩)⟩, .calm⟩ ]

/-- The kind has the client's ID in the spelling of the request, and is listed
under no client. -/
theorem respelling_hides_kind :
    ∃ final trace listing,
      (serial anySetup).run respellingSessions emptyServer =
        some (final, trace) ∧
      (final.database.tables.rows .clients).map Client.id = ["client"] ∧
      (final.database.tables.rows .kinds).map Kind.clientID = ["CLIENT"] ∧
      (getAllNotifications.run (World.handle .calm) final.enter).1 =
        some (.ok listing) ∧
      (listing.lookup "client").map (fun client => client.notifications.keys) =
        some [] ∧
      ¬ ListsAll final.database.tables listing := by
  have ran : ((serial anySetup).run respellingSessions emptyServer).any
      fun after => decide (
        after.1.database.tables.rows .clients =
          [⟨1, "client", "S", 0, "default"⟩] ∧
        after.1.database.tables.rows .kinds =
          [⟨1, "kind", "K", false, "CLIENT", 0, 0, "default"⟩]) := by
    decide +kernel
  obtain ⟨⟨final, trace⟩, ran, stored⟩ := (Option.any_eq_true _ _).mp ran
  obtain ⟨clients, kinds⟩ := of_decide_eq_true stored
  have shown := run_getAllNotifications (fun _ => rfl : Faultless .calm)
    final.enter
  have entered : final.enter.database = final.database := rfl
  rw [entered, clients, kinds] at shown
  refine ⟨final, trace, _, ran, by rw [clients]; rfl, by rw [kinds]; rfl, shown,
    by decide +kernel, ?_⟩
  intro lists
  obtain ⟨listed, found, shows⟩ := lists.clients _
    (by rw [clients]; exact .head _)
  have same : (constructNotifications [⟨1, "client", "S", 0, "default"⟩]
      [⟨1, "kind", "K", false, "CLIENT", 0, 0, "default"⟩]).lookup "client" =
        some ⟨"S", "default", ∅⟩ := by
    rfl
  cases same.symm.trans found
  have hidden := (shows.kinds "kind" ⟨"K", "default", false⟩).mpr
    ⟨⟨1, "kind", "K", false, "CLIENT", 0, 0, "default"⟩,
      by rw [kinds]; exact .head _, rfl, by decide +kernel, rfl⟩
  cases hidden

end Caseless

end Notifications.Web
