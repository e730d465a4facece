import Notifications.Models.Holding
import Notifications.Web.Authority
import Notifications.Web.Deliverable
import Notifications.Web.Notifying
import Notifications.Web.References

/-!
# Kinds belong to registered clients

`kinds` has no foreign key, and `Notify` registers without a transaction.  But
every path writes the client before it writes a kind, nothing deletes a client,
and an update stays with the row it has found; so a kind's client is there,
wherever a request stops.  It has the very ID that the kind names, as long as
no request writes the ID in another spelling.
-/

set_option autoImplicit false

namespace Notifications.Models

open Notifications.Lib

variable [Collation]

def Spelt (tables : Tables) (clientID : String) : Prop :=
  ∃ client : Client,
    tables.lookup .clients (Collation.key [clientID]) = some client ∧
      client.id = clientID

/-- The row of the client, if there is one, has this very ID. -/
def NamedAlike (tables : Tables) (clientID : String) : Prop :=
  ∀ client : Client,
    tables.lookup .clients (Collation.key [clientID]) = some client →
      client.id = clientID

/-- Every kind has a client, and every row has a template ID. -/
structure Housed (tables : Tables) : Prop where
  kinds : ∀ key kind, tables.lookup .kinds key = some kind →
    Spelt tables kind.clientID ∧ kind.templateID ≠ ""
  clients : ∀ key client, tables.lookup .clients key = some client →
    client.templateID ≠ ""

omit [Collation] in
theorem chosen_ne {wanted existing : String} (nonempty : existing ≠ "") :
    chosen wanted existing ≠ "" := by
  rw [chosen]
  split
  · exact nonempty
  · assumption

section Writes

variable {before after : Tables}

theorem Spelt.congr {clientID : String} (spelt : Spelt before clientID)
    (clients : after.rows .clients = before.rows .clients) :
    Spelt after clientID := by
  rw [Spelt, Services.Tables.lookup_congr clients]
  exact spelt

theorem Housed.spelling (housed : Housed before) {key : List String}
    {kind : Kind} (found : before.lookup .kinds key = some kind)
    {client : Client} {clientID : String}
    (own : Collation.equal kind.clientID clientID)
    (stored : before.lookup .clients (Collation.key [clientID]) =
      some client) : kind.clientID = client.id := by
  obtain ⟨⟨named, present, same⟩, _⟩ := housed.kinds key kind found
  rw [Collation.key_congr own, stored, Option.some.injEq] at present
  rw [present, same]

theorem Housed.congr (housed : Housed before)
    (kinds : after.rows .kinds = before.rows .kinds)
    (clients : after.rows .clients = before.rows .clients) :
    Housed after := by
  have sameKinds := Services.Tables.lookup_congr kinds
  have sameClients := Services.Tables.lookup_congr clients
  constructor
  · intro key kind found
    rw [sameKinds] at found
    obtain ⟨spelt, templated⟩ := housed.kinds key kind found
    exact ⟨spelt.congr clients, templated⟩
  · intro key client found
    rw [sameClients] at found
    exact housed.clients key client found

theorem Housed.putClient (housed : Housed before) {row : Client}
    (puts : Tables.Puts .clients row before after)
    (alike : NamedAlike before row.id)
    (templated : row.templateID ≠ "") : Housed after := by
  constructor
  · intro key kind found
    rw [Services.Tables.lookup_congr (puts.others .kinds (by decide))] at found
    obtain ⟨⟨client, present, same⟩, rest⟩ := housed.kinds key kind found
    refine ⟨?_, rest⟩
    rw [Spelt, puts.lookup]
    split
    · rename_i own
      rw [own] at present
      exact ⟨row, rfl, (alike client present).symm.trans same⟩
    · exact ⟨client, present, same⟩
  · intro key client found
    rw [puts.lookup] at found
    split at found
    · cases found
      exact templated
    · exact housed.clients key client found

theorem Housed.putKind (housed : Housed before) {row : Kind}
    (puts : Tables.Puts .kinds row before after)
    (client : Spelt before row.clientID)
    (templated : row.templateID ≠ "") : Housed after := by
  have same := Services.Tables.lookup_congr
    (puts.others .clients (by decide))
  constructor
  · intro key kind found
    rw [puts.lookup] at found
    rw [Spelt, same]
    split at found
    · cases found
      exact ⟨client, templated⟩
    · exact housed.kinds key kind found
  · intro key client found
    rw [same] at found
    exact housed.clients key client found

theorem Housed.attemptedClient {before after : Database}
    (housed : Housed before.tables) {settled : Client → Prop}
    (alike : ∀ row, settled row → NamedAlike before.tables row.id)
    (templated : ∀ row, settled row → row.templateID ≠ "")
    (attempted : Attempted .clients settled before after) :
    Housed after.tables := by
  rcases attempted with rfl | ⟨row, holds, puts⟩
  · exact housed
  · exact housed.putClient puts (alike row holds) (templated row holds)

theorem Housed.attemptedKind {before after : Database}
    (housed : Housed before.tables) {kind : Kind} {old : Option Kind}
    (client : Spelt before.tables kind.clientID)
    (stored : ∀ row, old = some row → row.templateID ≠ "")
    (attempted : Attempted .kinds (KindsRepo.Settled kind old) before
      after) : Housed after.tables := by
  rcases attempted with rfl | ⟨row, settled, puts⟩
  · exact housed
  · apply housed.putKind puts
    · rwa [settled.clientID]
    · rw [settled.templateID]
      apply chosen_ne
      cases old with
      | none => decide
      | some row => exact stored row rfl

end Writes

end Notifications.Models

namespace Notifications.Services

open Notifications.Lib Notifications.Models

variable [Collation]

/-! ## Services without a transaction -/

/-- The row of the kind, if there is one, names its client the same way. -/
def KeepsSpelling (tables : Tables) (kind : Kind) : Prop :=
  ∀ old : Kind,
    tables.lookup .kinds (Collation.key [kind.id, kind.clientID]) =
      some old → old.clientID = kind.clientID

section Services

variable {environment : Environment} {conn : Conn} {database : Database}

theorem updateKind_housed (housed : Housed database.tables) {kind : Kind}
    (alike : KeepsSpelling database.tables kind) :
    Achieves environment conn (KindsRepo.update conn kind) database
      fun _ after => Housed after.tables := by
  refine Achieves.weaken (KindsRepo.update_attempts kind) ?_
  intro _ after facts
  rcases facts with rfl | ⟨row, ⟨old, found, settled⟩, puts⟩
  · exact housed
  · obtain ⟨client, templated⟩ := housed.kinds _ old found
    apply housed.putKind puts
    · rwa [settled.clientID, ← alike old found]
    · rw [settled.templateID]
      exact chosen_ne templated

theorem updater_housed (housed : Housed database.tables)
    {notification : Kind}
    (alike : KeepsSpelling database.tables notification) :
    Achieves environment .connection (NotificationsUpdater.update
      notification) database fun _ after => Housed after.tables :=
  achieves_bind (updateKind_housed housed alike)
    fun _ _ kept => achieves_pure kept

theorem registerKinds_housed {clientID : String} (kinds : List Kind)
    (own : ∀ kind ∈ kinds, kind.id ≠ "" → kind.clientID = clientID)
    (housed : Housed database.tables)
    (client : Spelt database.tables clientID) :
    Achieves environment conn (Registrar.registerKinds conn kinds) database
      fun _ after => Housed after.tables := by
  induction kinds generalizing database with
  | nil => exact achieves_pure housed
  | cons kind rest ih =>
      have later : ∀ other ∈ rest, other.id ≠ "" →
          other.clientID = clientID :=
        fun other member => own other (.tail _ member)
      rw [Registrar.registerKinds]
      split
      · exact ih later housed client
      · rename_i named
        refine achieves_bind (KindsRepo.upsert_attempts kind) ?_
        intro result between attempted
        obtain ⟨stored, err⟩ := result
        have mine : kind.clientID = clientID := own kind (.head _) named
        have kept : Housed between.tables := by
          refine housed.attemptedKind ?_ ?_ attempted
          · rwa [mine]
          · intro row found
            exact (housed.kinds _ row found).2
        have still : Spelt between.tables clientID := by
          rcases attempted with rfl | ⟨row, _, puts⟩
          · exact client
          · exact client.congr (puts.others .clients (by decide))
        cases err with
        | some error => exact achieves_pure kept
        | none => exact ih later kept still

/-- `Register` writes the client first, and stops if that fails. -/
theorem register_housed (client : Client) (kinds : List Kind)
    (own : ∀ kind ∈ kinds, kind.id ≠ "" → kind.clientID = client.id)
    (alike : NamedAlike database.tables client.id)
    (housed : Housed database.tables) :
    Achieves environment conn (Registrar.register conn client kinds) database
      fun _ after => Housed after.tables := by
  refine achieves_bind (ClientsRepo.upsert_leaves client) ?_
  intro result between leaves
  obtain ⟨stored, err⟩ := result
  obtain ⟨⟨stores, _⟩, attempted⟩ := leaves
  have kept : Housed between.tables := by
    refine housed.attemptedClient ?_ ?_ attempted
    · intro row settled
      rwa [settled.id]
    · intro row settled
      rw [settled.templateID]
      apply chosen_ne
      cases found : database.tables.lookup .clients
          (Collation.key [client.id]) with
      | none => decide
      | some old => exact housed.clients _ old found
  cases err with
  | some error => exact achieves_pure kept
  | none =>
      obtain ⟨row, settled, puts⟩ := stores rfl
      apply registerKinds_housed kinds own kept
      rw [← settled.id]
      exact ⟨row, puts.stored, rfl⟩

theorem findTemplate_unchanged (templateID : String) :
    Achieves environment .connection
      (TemplateAssigner.findTemplate .connection templateID) database
      fun _ after => after = database := by
  rw [TemplateAssigner.findTemplate]
  split
  · exact achieves_pure rfl
  · refine achieves_bind (achieves_found .templates fun world reads =>
      TemplatesRepo.run_findByID reads templateID) ?_
    intro result _ facts
    obtain ⟨_, rfl⟩ := facts
    split <;> exact achieves_pure rfl

theorem assignToClient_housed (housed : Housed database.tables)
    (clientID templateID : String) :
    Achieves environment .connection
      (TemplateAssigner.assignToClient clientID templateID) database
      fun _ after => Housed after.tables := by
  refine achieves_bind (ClientsRepo.find_achieves clientID) ?_
  intro _ _ facts
  rcases facts with ⟨⟨text, _, rfl⟩ | ⟨_, rfl⟩ | ⟨client, found, rfl⟩, rfl⟩
  · exact achieves_pure housed
  · exact achieves_pure housed
  · refine achieves_bind (findTemplate_unchanged _) ?_
    intro err _ same
    subst same
    cases err with
    | some error => exact achieves_pure housed
    | none =>
        have named : Collation.key [client.id] = Collation.key [clientID] :=
          (Tables.lookup_eq_some found).2
        rw [← named] at found
        refine achieves_bind (@ClientsRepo.update_attempts _ _ _ _
          { client with templateID := TemplateAssigner.assigned templateID }
          client found rfl) ?_
        intro result after attempted
        obtain ⟨stored, err⟩ := result
        refine achieves_pure (housed.attemptedClient ?_ ?_ attempted)
        · rintro row rfl other present
          cases found.symm.trans present
          rfl
        · rintro row rfl
          exact chosen_ne (housed.clients _ client found)

theorem assignToNotification_housed (housed : Housed database.tables)
    (clientID notificationID templateID : String) :
    Achieves environment .connection
      (TemplateAssigner.assignToNotification clientID notificationID
        templateID) database
      fun _ after => Housed after.tables := by
  refine achieves_bind (ClientsRepo.find_unchanged clientID) ?_
  intro result _ same
  obtain ⟨client, err⟩ := result
  subst same
  cases err with
  | some error => exact achieves_pure housed
  | none =>
      refine achieves_bind (KindsRepo.find_achieves _ _) ?_
      intro _ _ facts
      rcases facts with ⟨⟨text, _, rfl⟩ | ⟨_, rfl⟩ | ⟨kind, found, rfl⟩, rfl⟩
      · exact achieves_pure housed
      · exact achieves_pure housed
      · refine achieves_bind (findTemplate_unchanged _) ?_
        intro err _ same
        subst same
        cases err with
        | some error => exact achieves_pure housed
        | none =>
            refine achieves_bind (updateKind_housed housed ?_)
              fun _ _ kept => achieves_pure kept
            intro old present
            have named : Collation.key [kind.id, kind.clientID] =
                Collation.key [notificationID, clientID] :=
              (Tables.lookup_eq_some found).2
            rw [← named] at found
            cases found.symm.trans present
            rfl

end Services

/-! ## Registrations in a transaction -/

theorem templateAfter_ne {id : String} {kinds : List Kind}
    {template : String} (nonempty : template ≠ "") :
    templateAfter id kinds template ≠ "" := by
  induction kinds generalizing template with
  | nil => exact nonempty
  | cons kind rest ih =>
      rw [templateAfter]
      apply ih
      split
      · exact chosen_ne nonempty
      · exact nonempty

/-- The ID of the client may change its spelling only if no kind stays
behind. -/
theorem registered_housed {client : Client} {kinds : List Kind} {prune : Bool}
    {before after : Tables} (housed : Housed before)
    (own : ∀ kind ∈ kinds, kind.clientID = client.id)
    (alike : NamedAlike before client.id ∨ prune = true ∨
      ∀ kind : Kind, kind ∈ before.rows .kinds →
        ¬ Collation.equal kind.clientID client.id)
    (registered : Registered client kinds prune before after) :
    Housed after := by
  obtain ⟨written, described, settled⟩ := registered.described
  have spelt : Spelt after client.id := ⟨written, described, settled.id⟩
  constructor
  · intro key kind found
    have keyed : Collation.key [kind.id, kind.clientID] = key :=
      (Tables.lookup_eq_some found).2
    subst keyed
    by_cases mine : Collation.equal kind.clientID client.id
    · have same : Collation.key [kind.id, kind.clientID] =
          Collation.key [kind.id, client.id] := by
        simpa using mine
      rw [same] at found
      cases last : lastOf kind.id kinds with
      | none =>
          rw [registered.missing kind.id last] at found
          split at found
          · cases found
          · rename_i kept
            have stored := (Tables.lookup_eq_some found).1
            obtain ⟨⟨named, present, alone⟩, templated⟩ :=
              housed.kinds _ kind found
            rw [Collation.key_congr mine] at present
            rcases alike with alike | pruned | kindless
            · have same := alike named present
              rw [← alone, same]
              exact ⟨spelt, templated⟩
            · exact absurd pruned kept
            · exact absurd mine (kindless kind stored)
      | some given =>
          obtain ⟨row, stored, entry⟩ :=
            registered.entry kind.id given last
          rw [found, Option.some.injEq] at stored
          have member := (lastOf_eq_some last).1
          rw [stored, entry.owned, own given member, entry.templateID]
          refine ⟨spelt, templateAfter_ne ?_⟩
          cases old : before.lookup .kinds
              (Collation.key [kind.id, client.id]) with
          | none => decide
          | some row => exact (housed.kinds _ row old).2
    · rw [registered.foreignKinds kind.id kind.clientID mine] at found
      rw [Spelt, registered.foreignClients kind.clientID mine]
      exact housed.kinds _ kind found
  · intro key row found
    have keyed : Collation.key [row.id] = key :=
      (Tables.lookup_eq_some found).2
    subst keyed
    by_cases mine : Collation.equal row.id client.id
    · rw [Collation.key_congr mine, described, Option.some.injEq] at found
      rw [← found, settled.templateID]
      apply chosen_ne
      cases old : before.lookup .clients (Collation.key [client.id]) with
      | none => decide
      | some old' => exact housed.clients _ old' old
    · rw [registered.foreignClients row.id mine] at found
      exact housed.clients _ row found

/-! ## What a notify request has found -/

/-- The client that a notify request has found keeps its spelling. -/
theorem FoundClient.namedAlike {tables : Tables} {clientID : String}
    {client : Client} (found : FoundClient tables clientID client) :
    NamedAlike tables client.id := by
  intro stored present
  rw [Collation.key_congr found.id] at present
  rcases found with here | ⟨absent, rfl⟩
  · cases here.symm.trans present
    rfl
  · cases absent.symm.trans present

/-- A kind that a notify request writes names the client as its row does. -/
theorem FoundKind.spelling {tables : Tables} {clientID kindID : String}
    {client : Client} {kind : Kind}
    (kindFound : FoundKind tables clientID kindID kind)
    (housed : Housed tables)
    (clientFound : FoundClient tables clientID client) (named : kind.id ≠ "")
    (alike : NamedAlike tables clientID ∨ kindID = "" ∨
      (tables.lookup .kinds (Collation.key [kindID, clientID])).isSome =
        true) : kind.clientID = client.id := by
  have own := kindFound.ids.2
  rcases kindFound with stored | ⟨absent, rfl⟩
  · rcases clientFound with present | ⟨missing, _⟩
    · exact housed.spelling stored own present
    · obtain ⟨⟨other, present, _⟩, _⟩ := housed.kinds _ kind stored
      rw [Collation.key_congr own, missing] at present
      cases present
  · rcases clientFound with present | ⟨_, rfl⟩
    · rcases alike with alike | empty | stored
      · exact (alike client present).symm
      · exact absurd empty named
      · rw [absent] at stored
        cases stored
    · rfl

end Notifications.Services

namespace Notifications.Web

open Notifications.Lib Notifications.Models Notifications.Services
open Notifications.Postal Notifications.Strategies

variable [Collation]

/-! ## One request -/

/-- A registration without a list of kinds, which prunes nothing. -/
def Endpoint.omitsKinds (library : Library) : Endpoint → Bool
  | .registration body =>
      match newRegistration library body with
      | .error _ => false
      | .ok parameters => !parameters.includesKinds
  | .notifications body =>
      match body.first.bind fun json =>
          Json.decodeStruct clientRegistrationFields json .zero with
      | none => false
      | some parameters => parameters.notifications.keys.isEmpty
  | _ => false

/-- The request leaves no kind behind under a client's ID in another spelling:
a registration without kinds spells the ID as it is stored, or there is no kind
of the client; a notify request does if it adds a kind; and an update spells
the client as the kind's row does. -/
structure SpelledAsStored (setup : Setup) (server : Server)
    (session : Session) : Prop where
  registration : session.request.endpoint.omitsKinds setup.library = true →
    ∀ own ∈ clientIDOf session.request.claims,
      NamedAlike server.database.tables own ∨
      ∀ kind : Kind, kind ∈ server.database.tables.rows .kinds →
        ¬ Collation.equal kind.clientID own
  notify : ∀ strategy guid parameters,
    session.request.endpoint = .notify strategy guid (.ok parameters) →
    ∀ own ∈ clientIDOf session.request.claims,
      NamedAlike server.database.tables own ∨ parameters.kindID = "" ∨
      (server.database.tables.lookup .kinds
        (Collation.key [parameters.kindID, own])).isSome = true
  update : ∀ clientID notificationID parsed,
    session.request.endpoint =
      .updateNotifications clientID notificationID parsed →
    ∀ kind : Kind, server.database.tables.lookup .kinds
        (Collation.key [notificationID, clientID]) = some kind →
      kind.clientID = clientID

/-- So it is with every request that gets past the authenticator. -/
def WellSpelled (setup : Setup) (server : Server) (session : Session) :
    Prop :=
  (Authenticator.mk [session.request.endpoint.scope] "").containsATokenScope
      session.request.claims = some true →
    SpelledAsStored setup server session

/-- Where texts are compared exactly, there is one spelling only. -/
theorem spelledAsStored_of_exact (exact : Function.Injective Collation.weight)
    (setup : Setup) (server : Server) (session : Session) :
    SpelledAsStored setup server session where
  registration _ own _ := by
    left
    intro client found
    have keyed := (Tables.lookup_eq_some found).2
    exact exact (List.cons.inj keyed).1
  notify _ _ _ _ own _ := by
    left
    intro client found
    have keyed := (Tables.lookup_eq_some found).2
    exact exact (List.cons.inj keyed).1
  update clientID notificationID _ _ kind found := by
    have keyed := (Tables.lookup_eq_some found).2
    exact exact (List.cons.inj (List.cons.inj keyed).2).1

section Requests

variable {setup : Setup} {claims : Jwt.Fields} {environment : Environment}
  {world : World}

theorem run_housed {α : Type} {program : Prog α}
    (achieves : Achieves environment .connection program world.database
      fun _ after => Housed after.tables) :
    Housed (program.run (World.handle environment)
      world).2.database.tables := by
  obtain ⟨value, after, count, ran, housed⟩ := achieves world rfl
  rw [ran]
  exact housed

theorem executeRegistration_housed {description : String}
    {kinds : List Kind} {prune : Bool}
    (named : ∀ kind ∈ kinds, kind.id ≠ "")
    (alike : ∀ own ∈ clientIDOf claims,
      NamedAlike world.database.tables own ∨ prune = true ∨
      ∀ kind : Kind, kind ∈ world.database.tables.rows .kinds →
        ¬ Collation.equal kind.clientID own)
    (housed : Housed world.database.tables) :
    Housed ((executeRegistration claims description kinds prune).run
      (World.handle environment) world).2.database.tables := by
  rcases @executeRegistration_outcome _ claims description kinds prune named
    environment world with ⟨_, unchanged⟩ | ⟨own, client, _, registered⟩
  · rw [unchanged]
    exact housed
  · refine registered_housed housed ?_ (alike own client) registered
    intro kind member
    obtain ⟨_, _, rfl⟩ := List.mem_map.mp member
    rfl

theorem registerNotifications_housed {body : Body}
    (alike : (Endpoint.registration body).omitsKinds setup.library = true →
      ∀ own ∈ clientIDOf claims,
        NamedAlike world.database.tables own ∨
        ∀ kind : Kind, kind ∈ world.database.tables.rows .kinds →
          ¬ Collation.equal kind.clientID own)
    (housed : Housed world.database.tables) :
    Housed ((registerNotifications setup.library claims body).run
      (World.handle environment) world).2.database.tables := by
  rw [registerNotifications]
  split
  · exact housed
  · rename_i parameters parsed
    simp only [parsed, Endpoint.omitsKinds, Bool.not_eq_true'] at alike
    split
    · exact housed
    · rename_i valid
      refine executeRegistration_housed (named_of_valid valid) ?_ housed
      intro own client
      cases included : parameters.includesKinds with
      | true => exact .inr (.inl rfl)
      | false => exact (alike included own client).imp_right .inr

theorem registerClientWithNotifications_housed {body : Body}
    (alike : (Endpoint.notifications body).omitsKinds setup.library = true →
      ∀ own ∈ clientIDOf claims,
        NamedAlike world.database.tables own ∨
        ∀ kind : Kind, kind ∈ world.database.tables.rows .kinds →
          ¬ Collation.equal kind.clientID own)
    (housed : Housed world.database.tables) :
    Housed ((registerClientWithNotifications setup.library claims body).run
      (World.handle environment) world).2.database.tables := by
  rcases run_registerClientWithNotifications setup.library claims body
    environment world with unchanged | ⟨parameters, read, valid, onward⟩
  · rw [unchanged]
    exact housed
  · rw [onward]
    obtain ⟨decoded, found, identified⟩ := newClientRegistration_ok read
    refine executeRegistration_housed (generatedKinds_named valid) ?_ housed
    intro own client
    cases empty : parameters.notifications.keys.isEmpty with
    | false => exact .inr (.inl rfl)
    | true =>
        -- no key is lost when the kinds get their IDs
        have none : decoded.notifications.keys = [] := by
          rw [List.eq_nil_iff_forall_not_mem]
          intro id member
          obtain ⟨notification, _, named⟩ :=
            (identified_of_foldlM identified).1 id member
          have listed : id ∈ parameters.notifications.keys :=
            AList.lookup_isSome.mp (by rw [named]; rfl)
          rw [List.isEmpty_iff.mp empty] at listed
          cases listed
        have omitted : (Endpoint.notifications body).omitsKinds
            setup.library = true := by
          simp [Endpoint.omitsKinds, found, none]
        exact (alike omitted own client).imp_right .inr

/-- What `Notify` has registered stays, wherever it stops. -/
theorem notify_housed {strategy : Strategy} {guid : String}
    {parsed : Except Refusal NotifyParams}
    (closed : world.transaction = none)
    (alike : ∀ parameters, parsed = .ok parameters →
      ∀ own ∈ clientIDOf claims,
        NamedAlike world.database.tables own ∨ parameters.kindID = "" ∨
        (world.database.tables.lookup .kinds
          (Collation.key [parameters.kindID, own])).isSome = true)
    (housed : Housed world.database.tables) :
    Housed ((notify setup.marshal claims strategy guid parsed).run
      (World.handle environment) world).2.database.tables := by
  unfold Web.notify
  split
  · exact housed
  · rename_i parameters
    split
    · exact housed
    · rename_i clientID identified
      obtain ⟨found, _, count, ran, rfl, both, _⟩ :=
        @clientAndKind_achieves _ environment world.database clientID
          parameters.kindID world rfl
      rw [Program.run_bind_of _ ran]
      cases found with
      | error error => exact housed
      | ok found =>
          obtain ⟨client, kind⟩ := found
          obtain ⟨clientFound, kindFound⟩ := both client kind rfl
          have own : ∀ other ∈ [kind], other.id ≠ "" →
              other.clientID = client.id := by
            intro other member named
            rw [List.mem_singleton.mp member] at named ⊢
            exact kindFound.spelling housed clientFound named
              (alike parameters rfl clientID identified)
          obtain ⟨err, middle, more, registered, kept⟩ :=
            register_housed client [kind] own clientFound.namedAlike housed
              (world.advance .connection world.database count)
              World.read_advance
          simp only
          split
          · exact housed
          · exact housed
          · rw [registerAndDispatch, Program.run_bind_of _ registered]
            cases err with
            | some error => exact kept
            | none =>
                have beside := @run_dispatch _ setup.marshal clientID
                  environment strategy guid
                  (parameters.toOptions client kind)
                  ((world.advance .connection world.database
                    count).advance .connection middle more) closed
                dsimp only
                rw [Program.run_bind_ret]
                · exact kept.congr (beside.database .kinds (by decide))
                    (beside.database .clients (by decide))
                · intro result
                  cases result <;> exact ⟨_, rfl⟩

theorem updateNotifications_housed {clientID notificationID : String}
    {parsed : Except Refusal NotificationUpdateParams}
    (alike : ∀ kind : Kind, world.database.tables.lookup .kinds
        (Collation.key [notificationID, clientID]) = some kind →
      kind.clientID = clientID)
    (housed : Housed world.database.tables) :
    Housed ((updateNotifications clientID notificationID parsed).run
      (World.handle environment) world).2.database.tables := by
  unfold Web.updateNotifications
  split
  · exact housed
  · apply run_housed
    exact achieves_bind (updater_housed housed alike)
      fun _ _ kept => achieves_pure kept

theorem assignClientTemplate_housed {clientID : String} {body : Body}
    (housed : Housed world.database.tables) :
    Housed ((assignClientTemplate clientID body).run
      (World.handle environment) world).2.database.tables := by
  unfold Web.assignClientTemplate
  split
  · exact housed
  · apply run_housed
    exact achieves_bind (assignToClient_housed housed _ _)
      fun _ _ kept => achieves_pure kept

theorem assignNotificationTemplate_housed {clientID notificationID : String}
    {body : Body} (housed : Housed world.database.tables) :
    Housed ((assignNotificationTemplate clientID notificationID body).run
      (World.handle environment) world).2.database.tables := by
  unfold Web.assignNotificationTemplate
  split
  · exact housed
  · apply run_housed
    exact achieves_bind (assignToNotification_housed housed _ _ _)
      fun _ _ kept => achieves_pure kept

theorem housed_of_templates {conn : Conn} (statement : Statement)
    (about : statement.table = .templates) :
    World.Keeps Housed (.sql conn statement) := by
  intro database housed
  have others {table : Table} (other : table ≠ .templates) :=
    statement.execute_other database.tables (about ▸ other)
  exact housed.congr (others (by decide)) (others (by decide))

theorem step_housed {server next : Server} {session : Session}
    {shown : List Unit} (housed : Housed server.database.tables)
    (alike : WellSpelled setup server session)
    (stepped : (serial setup).step server session = some (next, shown)) :
    Housed next.database.tables := by
  obtain ⟨⟨claims, endpoint⟩, environment⟩ := session
  have entered : server.enter.Holds Housed := ⟨housed, nofun⟩
  have start : Housed server.enter.database.tables := housed
  cases stepped
  simp only [leave, Request.serve, authenticated]
  split
  · exact housed
  · exact housed
  rename_i passed
  have alike := alike passed
  cases endpoint with
  | registration body =>
      exact registerNotifications_housed alike.registration start
  | notifications body =>
      exact registerClientWithNotifications_housed alike.registration start
  | notify strategy guid parsed =>
      refine notify_housed rfl ?_ start
      rintro parameters rfl
      exact alike.notify strategy guid parameters rfl
  | updateNotifications clientID notificationID parsed =>
      exact updateNotifications_housed (alike.update _ _ parsed rfl) start
  | assignClientTemplate clientID body =>
      exact assignClientTemplate_housed start
  | assignNotificationTemplate clientID notificationID body =>
      exact assignNotificationTemplate_housed start
  | createTemplate parsed =>
      exact (World.run_holds (createTemplate_only trivial housed_of_templates
        trivial parsed) entered).database
  | updateTemplates templateID parsed =>
      exact (World.run_holds (updateTemplates_only trivial housed_of_templates
        templateID parsed) entered).database
  | updateDefaultTemplate parsed =>
      exact (World.run_holds (updateTemplates_only trivial housed_of_templates
        defaultTemplateID parsed) entered).database
  | deleteTemplates templateID =>
      exact (World.run_holds (deleteTemplates_only housed_of_templates
        templateID) entered).database

end Requests

/-- An empty registry stays housed through every history without other
spellings. -/
theorem run_serial_housed {setup : Setup} {start final : Server}
    {sessions : List Session} {trace : List Unit}
    (noClients : start.database.tables.rows .clients = [])
    (noKinds : start.database.tables.rows .kinds = [])
    (guarded : (serial setup).Guarded (WellSpelled setup) sessions start)
    (ran : (serial setup).run sessions start = some (final, trace)) :
    Housed final.database.tables := by
  have empty : Housed start.database.tables := by
    constructor
    · intro key kind found
      have member := (Tables.lookup_eq_some found).1
      rw [noKinds] at member
      cases member
    · intro key client found
      have member := (Tables.lookup_eq_some found).1
      rw [noClients] at member
      cases member
  exact (serial setup).run_state_invariant (WellSpelled setup)
    (fun server => Housed server.database.tables)
    (fun _ _ _ _ housed alike stepped => step_housed housed alike stepped)
    empty guarded ran

end Notifications.Web
