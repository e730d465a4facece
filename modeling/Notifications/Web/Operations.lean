import Notifications.Web.Notifying
import Notifications.Web.References

/-!
# Operations on registrations and templates

Assignments, notification updates, registrations, notify requests and changes
of templates, each executed alone.  What a successful one does to the rows is
said once: which template it assigns to which client, which it gives to which
kind, and which kinds it prunes.  An empty template ID stands for the one that
the row has, so registrations and notify requests move no row to another
template.
-/

set_option autoImplicit false

namespace Notifications.Web

open Notifications.Lib Notifications.Models Notifications.Services
open Notifications.Postal Notifications.Strategies

/-! ## Operations -/

/-- What the registration handlers call the registrar with. -/
structure PlainRegistration where
  client : Client
  kinds : List Kind
  prune : Bool
  /-- `ValidateCriticalScopes` sets the client ID of every kind -/
  own : ∀ kind ∈ kinds, kind.clientID = client.id
  /-- `Validate` refuses a kind without an ID -/
  named : ∀ kind ∈ kinds, kind.id ≠ ""
  unsetClient : client.templateID = ""
  unsetKinds : ∀ kind ∈ kinds, kind.templateID = ""

inductive Operation where
  | assignToClient (clientID templateID : String)
  | assignToNotification (clientID notificationID templateID : String)
  | updateNotification (notification : Kind)
  | register (registration : PlainRegistration)
  | notify (claims : Jwt.Fields) (strategy : Strategy) (guid : String)
      (parsed : Except Refusal NotifyParams)
  | createTemplate (template : Template)
  | updateTemplate (templateID : String) (template : Template)

variable [Collation]

def Operation.program (marshal : Delivery → String) : Operation → Prog Bool
  | assignToClient clientID templateID => do
      let err ← TemplateAssigner.assignToClient clientID templateID
      pure err.isNone
  | assignToNotification clientID notificationID templateID => do
      let err ← TemplateAssigner.assignToNotification clientID notificationID
        templateID
      pure err.isNone
  | updateNotification notification => do
      let err ← NotificationsUpdater.update notification
      pure err.isNone
  | register registration => do
      let err ← inTransaction (Services.registration registration.client
        registration.kinds registration.prune .transaction)
      pure err.isNone
  | notify claims strategy guid parsed => do
      let refusal ← Web.notify marshal claims strategy guid parsed
      pure refusal.isNone
  | createTemplate template => do
      match ← TemplateCreator.create template with
      | .error _ => pure false
      | .ok _ => pure true
  | updateTemplate templateID template => do
      let err ← TemplateUpdater.update templateID template
      pure err.isNone

/-- The operations that were successful, the last one first. -/
structure History where
  server : Server
  operations : List Operation

/-- An operation, and what happens to its calls. -/
structure Execution where
  operation : Operation
  environment : Environment

def executing (marshal : Delivery → String) :
    Machine History Execution Unit where
  step history execution :=
    match (execution.operation.program marshal).run
        (World.handle execution.environment) history.server.enter with
    | (some true, world) =>
        some (⟨leave world, execution.operation :: history.operations⟩, [])
    | _ => none

/-! ## What the operations say -/

/-- The template that the operation assigns to a client. -/
def Operation.assigns (clientID : String) : Operation → Option String
  | assignToClient client templateID =>
      if Collation.equal client clientID then
        some (TemplateAssigner.assigned templateID)
      else
        none
  | _ => none

/-- The template that the operation gives to a kind. -/
def Operation.gives (clientID kindID : String) : Operation → Option String
  | assignToNotification client notification templateID =>
      if Collation.equal client clientID ∧
          Collation.equal notification kindID then
        some (TemplateAssigner.assigned templateID)
      else
        none
  | updateNotification notification =>
      if Collation.equal notification.clientID clientID ∧
          Collation.equal notification.id kindID ∧
          notification.templateID ≠ "" then
        some notification.templateID
      else
        none
  | _ => none

def Operation.prunes (clientID kindID : String) : Operation → Bool
  | register registration =>
      registration.prune &&
        Collation.equal registration.client.id clientID &&
        !registration.kinds.any fun kind => Collation.equal kind.id kindID
  | _ => false

def HasTemplate (tables : Tables) (templateID : String) : Prop :=
  (tables.lookup .templates (Collation.key [templateID])).isSome = true

instance (tables : Tables) (templateID : String) :
    Decidable (HasTemplate tables templateID) :=
  inferInstanceAs (Decidable (_ = true))

def Operation.updated : Operation → Option Kind
  | updateNotification notification => some notification
  | _ => none

/-! ## What one operation does -/

structure Performed (operation : Operation) (before after : Tables) :
    Prop where
  clients : ∀ clientID, clientTemplate after clientID =
    (operation.assigns clientID).getD (clientTemplate before clientID)
  kinds : ∀ kindID clientID, kindTemplate after kindID clientID =
    if operation.prunes clientID kindID then defaultTemplateID
    else
      (operation.gives clientID kindID).getD
        (kindTemplate before kindID clientID)
  assigned : ∀ clientID templateID,
    operation.assigns clientID = some templateID →
      HasTemplate before templateID
  given : operation.updated = none → ∀ clientID kindID templateID,
    operation.gives clientID kindID = some templateID →
      HasTemplate before templateID
  templates : ∀ templateID, HasTemplate before templateID →
    HasTemplate after templateID
  untouched : operation.updated ≠ none →
    after.rows .templates = before.rows .templates
  registered : ∀ clientID, (before.lookup .clients
    (Collation.key [clientID])).isSome →
    (after.lookup .clients (Collation.key [clientID])).isSome
  owned : ∀ kindID clientID,
    (after.lookup .kinds (Collation.key [kindID, clientID])).isSome →
      (before.lookup .kinds (Collation.key [kindID, clientID])).isSome ∨
        Registrable kindID ∧
          (after.lookup .clients (Collation.key [clientID])).isSome

theorem HasTemplate.congr {before after : Tables} {templateID : String}
    (same : after.rows .templates = before.rows .templates)
    (known : HasTemplate before templateID) :
    HasTemplate after templateID := by
  rwa [HasTemplate, Tables.lookup_congr same]

section Rows

variable {before after : Tables}

theorem clientTemplate_congr
    (same : after.rows .clients = before.rows .clients) (id : String) :
    clientTemplate after id = clientTemplate before id := by
  rw [clientTemplate, clientTemplate, Tables.lookup_congr same]

theorem kindTemplate_congr (same : after.rows .kinds = before.rows .kinds)
    (id clientID : String) :
    kindTemplate after id clientID = kindTemplate before id clientID := by
  rw [kindTemplate, kindTemplate, Tables.lookup_congr same]

theorem clientTemplate_puts {row : Client}
    (puts : Tables.Puts .clients row before after) (id : String) :
    clientTemplate after id =
      if Collation.equal row.id id then row.templateID
      else clientTemplate before id := by
  have keyed : Collation.key [id] = Table.uniqueKey .clients row ↔
      Collation.equal row.id id := by
    rw [eq_comm]
    simp [Table.uniqueKey]
  rw [clientTemplate, puts.lookup]
  by_cases same : Collation.equal row.id id
  · rw [if_pos (keyed.mpr same), if_pos same]
    rfl
  · rw [if_neg (mt keyed.mp same), if_neg same]
    rfl

theorem kindTemplate_puts {row : Kind}
    (puts : Tables.Puts .kinds row before after) (id clientID : String) :
    kindTemplate after id clientID =
      if Collation.equal row.clientID clientID ∧ Collation.equal row.id id then
        row.templateID
      else kindTemplate before id clientID := by
  have keyed : Collation.key [id, clientID] =
      Table.uniqueKey .kinds row ↔
        Collation.equal row.clientID clientID ∧ Collation.equal row.id id := by
    rw [eq_comm, and_comm]
    simp [Table.uniqueKey]
  rw [kindTemplate, puts.lookup]
  by_cases same : Collation.equal row.clientID clientID ∧
      Collation.equal row.id id
  · rw [if_pos (keyed.mpr same), if_pos same]
    rfl
  · rw [if_neg (mt keyed.mp same), if_neg same]
    rfl

theorem performed_putsClient {clientID templateID : String} {row : Client}
    (puts : Tables.Puts .clients row before after)
    (own : Collation.equal row.id clientID)
    (moved : row.templateID = TemplateAssigner.assigned templateID)
    (known : HasTemplate before (TemplateAssigner.assigned templateID)) :
    Performed (.assignToClient clientID templateID) before after where
  clients id := by
    have spelt : Collation.equal row.id id ↔ Collation.equal clientID id := by
      rw [Collation.equal_iff, Collation.equal_iff, Collation.equal_iff.mp own]
    simp only [clientTemplate_puts puts, moved, Operation.assigns, spelt]
    split <;> rfl
  kinds id client := kindTemplate_congr (puts.others .kinds (by decide)) ..
  assigned id template assigned := by
    rw [Operation.assigns] at assigned
    split at assigned
    · rwa [← Option.some.inj assigned]
    · cases assigned
  given _ _ _ _ given := by cases given
  templates _ := .congr (puts.others .templates (by decide))
  untouched wrong := absurd rfl wrong
  registered id := puts.grows .clients _
  owned id client present := by
    rw [Tables.lookup_congr (puts.others .kinds (by decide))] at present
    exact .inl present

theorem performed_putsKind {operation : Operation} {row : Kind}
    (puts : Tables.Puts .kinds row before after)
    (present : (before.lookup .kinds
      (Collation.key [row.id, row.clientID])).isSome)
    (kindsOnly : ∀ clientID, operation.assigns clientID = none)
    (noPruning : ∀ clientID kindID, operation.prunes clientID kindID = false)
    (moved : ∀ clientID kindID, Collation.equal row.clientID clientID →
      Collation.equal row.id kindID →
        row.templateID = (operation.gives clientID kindID).getD
          (kindTemplate before kindID clientID))
    (others : ∀ clientID kindID,
      ¬ (Collation.equal row.clientID clientID ∧
          Collation.equal row.id kindID) →
        operation.gives clientID kindID = none)
    (given : operation.updated = none → ∀ clientID kindID templateID,
      operation.gives clientID kindID = some templateID →
        HasTemplate before templateID) :
    Performed operation before after where
  clients id := by
    rw [clientTemplate_congr (puts.others .clients (by decide)),
      kindsOnly id]
    rfl
  kinds id client := by
    rw [kindTemplate_puts puts, noPruning client id]
    by_cases same : Collation.equal row.clientID client ∧
        Collation.equal row.id id
    · rw [if_pos same]
      exact moved client id same.1 same.2
    · rw [if_neg same, others client id same]
      rfl
  assigned id _ assigned := by
    rw [kindsOnly id] at assigned
    cases assigned
  given := given
  templates _ := .congr (puts.others .templates (by decide))
  untouched _ := puts.others .templates (by decide)
  registered id := puts.grows .clients _
  owned id client stored := by
    rw [puts.lookup] at stored
    split at stored
    · rename_i keyed
      rw [keyed]
      exact .inl present
    · exact .inl stored

theorem performed_templates {operation : Operation}
    (others : ∀ table, table ≠ .templates →
      after.rows table = before.rows table)
    (grown : ∀ templateID, HasTemplate before templateID →
      HasTemplate after templateID)
    (assigns : ∀ clientID, operation.assigns clientID = none)
    (prunes : ∀ clientID kindID, operation.prunes clientID kindID = false)
    (gives : ∀ clientID kindID, operation.gives clientID kindID = none)
    (looked : operation.updated = none) :
    Performed operation before after where
  clients id := by
    rw [clientTemplate_congr (others .clients (by decide)), assigns id]
    rfl
  kinds id client := by
    rw [kindTemplate_congr (others .kinds (by decide)), prunes client id,
      gives client id]
    rfl
  assigned id _ assigned := by
    rw [assigns id] at assigned
    cases assigned
  given _ client id _ given := by
    rw [gives client id] at given
    cases given
  templates := grown
  untouched wrong := absurd looked wrong
  registered id present := by
    rwa [Tables.lookup_congr (others .clients (by decide))]
  owned id client present := by
    rw [Tables.lookup_congr (others .kinds (by decide))] at present
    exact .inl present

end Rows

/-! ## Registrations -/

section Registered

variable {client : Client} {kinds : List Kind} {prune : Bool}
  {before after : Tables} (registered : Registered client kinds prune before
    after)

include registered

theorem clientTemplate_registered (id : String) :
    clientTemplate after id =
      if Collation.equal id client.id then
        chosen client.templateID (clientTemplate before id)
      else clientTemplate before id := by
  by_cases own : Collation.equal id client.id
  · obtain ⟨row, found, settled⟩ := registered.described
    rw [if_pos own, clientTemplate, clientTemplate, Collation.key_congr own,
      found]
    exact settled.templateID
  · rw [if_neg own, clientTemplate, clientTemplate,
      registered.foreignClients id own]

theorem kindTemplate_registered (id clientID : String) :
    kindTemplate after id clientID =
      if Collation.equal clientID client.id then
        if prune = true ∧ lastOf id kinds = none then defaultTemplateID
        else templateAfter id kinds (kindTemplate before id clientID)
      else kindTemplate before id clientID := by
  by_cases own : Collation.equal clientID client.id
  · have spelt := Collation.key_pair (Collation.equal_self id) own
    rw [if_pos own, kindTemplate, kindTemplate, spelt]
    cases last : lastOf id kinds with
    | some kind =>
        obtain ⟨row, found, entry⟩ := registered.entry id kind last
        rw [if_neg (by simp), found]
        exact entry.templateID
    | none =>
        rw [registered.missing id last]
        cases prune with
        | true => rfl
        | false =>
            rw [if_neg (by decide), if_neg (by simp),
              templateAfter_of_none last]
  · rw [if_neg own, kindTemplate, kindTemplate,
      registered.foreignKinds id clientID own]

theorem owned_registered (named : ∀ kind ∈ kinds, kind.id ≠ "")
    (id clientID : String)
    (present : (after.lookup .kinds (Collation.key [id, clientID])).isSome) :
    (before.lookup .kinds (Collation.key [id, clientID])).isSome ∨
      Registrable id ∧
        (after.lookup .clients (Collation.key [clientID])).isSome := by
  by_cases own : Collation.equal clientID client.id
  · have spelt := Collation.key_pair (Collation.equal_self id) own
    cases last : lastOf id kinds with
    | some kind =>
        obtain ⟨row, found, _⟩ := registered.described
        obtain ⟨member, same⟩ := lastOf_eq_some last
        refine .inr ⟨⟨kind.id, named kind member, same⟩, ?_⟩
        rw [Collation.key_congr own, found]
        rfl
    | none =>
        rw [spelt] at present ⊢
        rw [registered.missing id last] at present
        cases prune with
        | true => cases present
        | false => exact .inl present
  · rw [registered.foreignKinds id clientID own] at present
    exact .inl present

end Registered

theorem performed_register {registration : PlainRegistration}
    {before after : Tables}
    (registered : Registered registration.client registration.kinds
      registration.prune before after) :
    Performed (.register registration) before after where
  clients id := by
    rw [clientTemplate_registered registered, chosen,
      if_pos registration.unsetClient, ite_self]
    rfl
  kinds id client := by
    have unlisted : lastOf id registration.kinds = none ↔
        (registration.kinds.any fun kind => Collation.equal kind.id id) =
          false := by
      rw [← Option.not_isSome_iff_eq_none, lastOf_isSome, ← List.any_eq_true,
        Bool.not_eq_true]
    rw [kindTemplate_registered registered,
      templateAfter_of_unset registration.unsetKinds]
    by_cases own : Collation.equal client registration.client.id
    · have mine : Collation.equal registration.client.id client :=
        Collation.equal_symm own
      simp [-Collation.equal_iff, Operation.prunes, Operation.gives, own,
        mine, unlisted]
    · have other : ¬ Collation.equal registration.client.id client :=
        fun mine => own (Collation.equal_symm mine)
      simp [-Collation.equal_iff, Operation.prunes, Operation.gives, own,
        other]
  assigned _ _ assigned := by cases assigned
  given _ _ _ _ given := by cases given
  templates _ :=
    .congr (registered.others .templates (by decide) (by decide))
  untouched wrong := absurd rfl wrong
  registered := registered.keepsClients
  owned := owned_registered registered registration.named

/-- A row that was found is written back with the template that it has. -/
theorem chosen_foundClient {tables : Tables} {clientID : String}
    {client : Client} (found : FoundClient tables clientID client) :
    chosen client.templateID (clientTemplate tables clientID) =
      clientTemplate tables clientID := by
  rw [chosen]
  rcases found with present | ⟨_, rfl⟩
  · rw [clientTemplate, present]
    exact ite_eq_right_iff.mpr fun _ => rfl
  · rfl

theorem chosen_foundKind {tables : Tables} {clientID kindID : String}
    {kind : Kind} (found : FoundKind tables clientID kindID kind) :
    chosen kind.templateID (kindTemplate tables kindID clientID) =
      kindTemplate tables kindID clientID := by
  rw [chosen]
  rcases found with present | ⟨_, rfl⟩
  · rw [kindTemplate, present]
    exact ite_eq_right_iff.mpr fun _ => rfl
  · rfl

theorem templateAfter_foundKind {tables : Tables} {clientID kindID : String}
    {kind : Kind} (found : FoundKind tables clientID kindID kind)
    (id : String) :
    templateAfter id ([kind].filter fun kind => kind.id ≠ "")
        (kindTemplate tables id clientID) =
      kindTemplate tables id clientID := by
  by_cases named : kind.id = ""
  · rw [List.filter_cons_of_neg (by simpa using named)]
    rfl
  · rw [List.filter_cons_of_pos (by simpa using named), List.filter_nil,
      templateAfter, templateAfter]
    split
    · rename_i same
      have spelt : Collation.equal id kindID :=
        Collation.equal_trans (Collation.equal_symm same) found.ids.1
      rw [kindTemplate, Collation.key_congr spelt]
      exact chosen_foundKind found
    · rfl

theorem performed_notify {marshal : Delivery → String}
    {clientID kindID : String} {before after : World} {claims : Jwt.Fields}
    {strategy : Strategy} {guid : String}
    {parsed : Except Refusal NotifyParams}
    (notified : Notified marshal clientID kindID before after) :
    Performed (.notify claims strategy guid parsed) before.database.tables
      after.database.tables := by
  obtain ⟨client, kind, middle, clientFound, kindFound, registered, _, same⟩ :=
    notified.registered
  have own := clientFound.id
  obtain ⟨sameID, sameClient⟩ := kindFound.ids
  have named : ∀ other ∈ [kind].filter fun kind => kind.id ≠ "",
      other.id ≠ "" := by
    intro other member
    simpa using (List.mem_filter.mp member).2
  refine ⟨?_, ?_, nofun, nofun, ?_, ?_, ?_, ?_⟩
  · intro id
    rw [clientTemplate_congr (same .clients (by decide)),
      clientTemplate_registered registered]
    split
    · rename_i here
      rw [clientTemplate,
        Collation.key_congr (Collation.equal_trans here own)]
      exact chosen_foundClient clientFound
    · rfl
  · intro id other
    rw [kindTemplate_congr (same .kinds (by decide)),
      kindTemplate_registered registered]
    by_cases here : Collation.equal other client.id
    · have spelt := Collation.key_pair (Collation.equal_self id)
        (Collation.equal_trans here own)
      rw [if_pos here, if_neg (by simp), kindTemplate, spelt]
      exact templateAfter_foundKind kindFound id
    · rw [if_neg here]
      rfl
  · intro id known
    refine HasTemplate.congr (same .templates (by decide)) ?_
    exact known.congr (registered.others .templates (by decide) (by decide))
  · intro wrong
    exact absurd rfl wrong
  · intro id present
    rw [Tables.lookup_congr (same .clients (by decide))]
    exact registered.keepsClients id present
  · intro id other present
    rw [Tables.lookup_congr (same .kinds (by decide))] at present
    rw [Tables.lookup_congr (same .clients (by decide))]
    exact owned_registered registered named id other present

/-! ## Programs -/

section Programs

variable {environment : Environment} {database : Database}

omit [Collation] in
theorem assigned_ne (templateID : String) :
    TemplateAssigner.assigned templateID ≠ "" := by
  rw [TemplateAssigner.assigned]
  split
  · decide
  · assumption

theorem findTemplate_achieves (templateID : String) :
    Achieves environment .connection
      (TemplateAssigner.findTemplate .connection
        (TemplateAssigner.assigned templateID)) database
      fun err after => after = database ∧ (err = none →
        HasTemplate database.tables
          (TemplateAssigner.assigned templateID)) := by
  rw [TemplateAssigner.findTemplate, if_neg (assigned_ne templateID)]
  refine achieves_bind (achieves_found .templates
    fun world reads => TemplatesRepo.run_findByID reads _) ?_
  intro _ _ facts
  rcases facts with ⟨⟨text, _, rfl⟩ | ⟨_, rfl⟩ | ⟨stored, present, rfl⟩, rfl⟩
  · exact achieves_pure ⟨rfl, by simp⟩
  · exact achieves_pure ⟨rfl, by simp⟩
  · refine achieves_pure ⟨rfl, ?_⟩
    intro _
    rw [HasTemplate, present]
    rfl

/-- Without an error, the operation has been performed. -/
def Performs (environment : Environment) (operation : Operation)
    (database : Database) (program : Prog (Option Error)) : Prop :=
  Achieves environment .connection program database fun err after =>
    err = none → Performed operation database.tables after.tables

theorem assignToClient_performs (clientID templateID : String) :
    Performs environment (.assignToClient clientID templateID) database
      (TemplateAssigner.assignToClient clientID templateID) := by
  refine achieves_bind (ClientsRepo.find_achieves clientID) ?_
  intro _ _ facts
  rcases facts with ⟨⟨text, _, rfl⟩ | ⟨_, rfl⟩ | ⟨client, present, rfl⟩, rfl⟩
  · exact achieves_pure nofun
  · exact achieves_pure nofun
  · refine achieves_bind (findTemplate_achieves templateID) ?_
    intro err _ facts
    obtain ⟨rfl, known⟩ := facts
    cases err with
    | some error => exact achieves_pure nofun
    | none =>
        have own : Collation.equal client.id clientID := by
          simpa [Table.uniqueKey] using (Tables.lookup_eq_some present).2
        rw [← Collation.key_congr own] at present
        refine achieves_bind (@ClientsRepo.update_achieves _ environment
          .connection _ { client with templateID := _ } client present
          rfl) ?_
        intro result after facts
        obtain ⟨stored, err⟩ := result
        obtain ⟨stores, _⟩ := facts
        refine achieves_pure ?_
        intro done
        obtain ⟨row, rfl, puts⟩ := stores done
        exact performed_putsClient puts own
          (if_neg (assigned_ne templateID)) (known rfl)

theorem assignToNotification_performs
    (clientID notificationID templateID : String) :
    Performs environment
      (.assignToNotification clientID notificationID templateID) database
      (TemplateAssigner.assignToNotification clientID notificationID
        templateID) := by
  refine achieves_bind (ClientsRepo.find_achieves clientID) ?_
  intro _ _ facts
  rcases facts with ⟨⟨text, _, rfl⟩ | ⟨_, rfl⟩ | ⟨client, _, rfl⟩, rfl⟩
  · exact achieves_pure nofun
  · exact achieves_pure nofun
  refine achieves_bind (KindsRepo.find_achieves notificationID clientID) ?_
  intro _ _ facts
  rcases facts with ⟨⟨text, _, rfl⟩ | ⟨_, rfl⟩ | ⟨kind, present, rfl⟩, rfl⟩
  · exact achieves_pure nofun
  · exact achieves_pure nofun
  refine achieves_bind (findTemplate_achieves templateID) ?_
  intro err _ facts
  obtain ⟨rfl, known⟩ := facts
  cases err with
  | some error => exact achieves_pure nofun
  | none =>
      have keyed := (Tables.lookup_eq_some present).2
      obtain ⟨ownID, ownClient⟩ : Collation.equal kind.id notificationID ∧
          Collation.equal kind.clientID clientID := by
        simpa [Table.uniqueKey] using keyed
      rw [← keyed] at present
      refine achieves_bind (@KindsRepo.update_achieves _ environment
        .connection _ { kind with templateID := _ } kind present) ?_
      intro result after facts
      obtain ⟨stored, err⟩ := result
      obtain ⟨stores, _⟩ := facts
      refine achieves_pure ?_
      intro done
      obtain ⟨row, settled, puts⟩ := stores done
      have sameID := settled.id
      have sameClient := settled.clientID
      refine performed_putsKind puts ?_ (fun _ => rfl) (fun _ _ => rfl) ?_ ?_
        ?_
      · rw [sameID, sameClient]
        exact Option.isSome_of_mem present
      · intro client id here there
        rw [sameClient] at here
        rw [sameID] at there
        have gives : (Operation.assignToNotification clientID notificationID
            templateID).gives client id =
              some (TemplateAssigner.assigned templateID) :=
          if_pos ⟨Collation.equal_trans (Collation.equal_symm ownClient) here,
            Collation.equal_trans (Collation.equal_symm ownID) there⟩
        rw [gives, settled.templateID, chosen]
        exact if_neg (assigned_ne templateID)
      · intro client id other
        rw [sameID, sameClient] at other
        apply if_neg
        intro same
        exact other ⟨Collation.equal_trans ownClient same.1,
          Collation.equal_trans ownID same.2⟩
      · intro _ client id template gives
        rw [Operation.gives] at gives
        split at gives
        · rw [← Option.some.inj gives]
          exact known rfl
        · cases gives

theorem updateKind_absent {notification : Kind}
    (absent : database.tables.lookup .kinds
      (Collation.key [notification.id, notification.clientID]) = none) :
    Achieves environment .connection
      (KindsRepo.update .connection notification) database
      fun result _ => result.2 ≠ none := by
  refine achieves_bind (KindsRepo.find_achieves notification.id
    notification.clientID) ?_
  intro _ _ facts
  rcases facts with ⟨⟨text, _, rfl⟩ | ⟨_, rfl⟩ | ⟨stored, present, rfl⟩, rfl⟩
  · exact achieves_pure nofun
  · exact achieves_pure nofun
  · rw [absent] at present
    cases present

theorem updateNotification_performs (notification : Kind) :
    Performs environment (.updateNotification notification) database
      (NotificationsUpdater.update notification) := by
  cases present : database.tables.lookup .kinds
    (Collation.key [notification.id, notification.clientID]) with
  | none =>
      refine achieves_bind (updateKind_absent present) ?_
      intro result after failed
      exact achieves_pure fun done => absurd done failed
  | some old =>
      refine achieves_bind (KindsRepo.update_achieves notification old
        present) ?_
      intro facts after given
      obtain ⟨stored, err⟩ := facts
      obtain ⟨stores, _⟩ := given
      refine achieves_pure ?_
      intro done
      obtain ⟨row, settled, puts⟩ := stores done
      have sameID := settled.id
      have sameClient := settled.clientID
      refine performed_putsKind puts ?_ (fun _ => rfl) (fun _ _ => rfl) ?_ ?_
        nofun
      · rw [sameID, sameClient, present]
        rfl
      · intro client id here there
        rw [sameClient] at here
        rw [sameID] at there
        have spelt := Collation.key_pair there here
        rw [settled.templateID, kindTemplate, ← spelt, present, chosen]
        by_cases unset : notification.templateID = ""
        · simp [Operation.gives, unset]
        · have gives : (Operation.updateNotification notification).gives
              client id = some notification.templateID :=
            if_pos ⟨here, there, unset⟩
          rw [gives, if_neg unset]
          rfl
      · intro client id other
        rw [sameID, sameClient] at other
        apply if_neg
        intro same
        exact other ⟨same.1, same.2.1⟩

/-- Templates are added or rewritten under their IDs. -/
structure Tended (before after : Tables) : Prop where
  others : ∀ table, table ≠ .templates → after.rows table = before.rows table
  grown : ∀ templateID, HasTemplate before templateID →
    HasTemplate after templateID

theorem Tended.refl (tables : Tables) : Tended tables tables :=
  ⟨fun _ _ => rfl, fun _ known => known⟩

theorem Tables.Puts.tended {before after : Tables} {row : Template}
    (puts : Tables.Puts .templates row before after) : Tended before after :=
  ⟨puts.others, fun id => puts.grows .templates (Collation.key [id])⟩

theorem updateTemplate_tends (templateID : String) (template : Template) :
    Achieves environment .connection
      (TemplatesRepo.update .connection templateID template) database
      fun _ after => Tended database.tables after.tables := by
  refine achieves_bind (achieves_found .templates
    fun world reads => TemplatesRepo.run_findByID reads templateID) ?_
  intro _ _ facts
  rcases facts with ⟨⟨text, _, rfl⟩ | ⟨_, rfl⟩ | ⟨existing, present, rfl⟩, rfl⟩
  · exact achieves_pure (.refl _)
  · exact achieves_pure (.refl _)
  · rw [← (Tables.lookup_eq_some present).2] at present
    refine achieves_now fun now => @achieves_update _ _ _ _ _ .templates _
      existing _ _ present rfl ?_ ?_
    · intro text _
      exact achieves_pure (.refl _)
    · intro after puts
      exact achieves_pure (Tables.Puts.tended puts)

theorem updateTemplate_performs (templateID : String)
    (template : Template) :
    Performs environment (.updateTemplate templateID template) database
      (TemplateUpdater.update templateID template) := by
  refine achieves_bind (updateTemplate_tends templateID template) ?_
  intro result after tended
  refine achieves_pure ?_
  intro _
  exact performed_templates tended.others tended.grown (fun _ => rfl)
    (fun _ _ => rfl) (fun _ _ => rfl) rfl

theorem tended_insert (row : Template) :
    Tended database.tables
      (database.execute (.insert .templates row)).2.tables := by
  cases free : database.tables.lookup .templates (Collation.key [row.id]) with
  | none => exact Tables.Puts.tended (Database.insert_puts free).2
  | some old =>
      have clashes : database.tables.clashes .templates row = true := by
        rw [Tables.clashes_eq, Table.uniqueKey, free]
        rfl
      rw [Database.execute]
      simp only [Statement.execute, clashes]
      exact .refl _

theorem storeTemplate_tends (row : Template) :
    Achieves environment .connection
      (do
        match ← sql .connection (.insert .templates row) with
        | .error error => pure (Table.templates.zero, some error)
        | .ok inserted => pure (inserted, none))
      database fun _ after => Tended database.tables after.tables := by
  refine achieves_sql ?_ ?_
  · intro text _
    exact achieves_pure (.refl _)
  · cases (database.execute (.insert .templates row)).1 <;>
      exact achieves_pure (tended_insert row)

theorem setTemplateTimestamps_achieves (template : Template) :
    Achieves environment .connection
      (TemplatesRepo.setTemplateTimestamps template) database
      fun _ after => after = database := by
  rw [TemplatesRepo.setTemplateTimestamps]
  split
  · exact achieves_now fun now => achieves_pure rfl
  · exact achieves_pure rfl

theorem insertTemplate_tends (template : Template) :
    Achieves environment .connection
      (TemplatesRepo.insert .connection template) database
      fun _ after => Tended database.tables after.tables := by
  refine achieves_bind (setTemplateTimestamps_achieves template) ?_
  intro stamped _ same
  subst same
  exact storeTemplate_tends stamped

end Programs

/-! ## Steps -/

section Steps

variable {marshal : Delivery → String} {environment : Environment}
  {world after : World}

/-- A successful operation on one connection has been performed. -/
theorem performed_of_performs {operation : Operation}
    {program : Prog (Option Error)}
    (performs : Performs environment operation world.database program)
    (success : (do
      let err ← program
      pure err.isNone : Prog Bool).run (World.handle environment) world =
        (some true, after)) :
    Performed operation world.database.tables after.database.tables := by
  obtain ⟨err, database, count, ran, performed⟩ := performs world rfl
  rw [Program.run_bind_of _ ran] at success
  cases err with
  | some error => cases success
  | none =>
      cases success
      exact performed rfl

theorem performed_of_register {registration : PlainRegistration}
    (success : ((Operation.register registration).program marshal).run
      (World.handle environment) world = (some true, after)) :
    Performed (.register registration) world.database.tables
      after.database.tables := by
  obtain ⟨result, committed, ran, outcome, _⟩ := run_inTransaction
    registration_onConn world (@registration_achieves _ environment
      .transaction registration.client registration.kinds registration.prune
      (fun kind member => by
        rw [registration.own kind member, Collation.equal_self])
      registration.named world.database)
  rw [Operation.program, Program.run_bind, ran] at success
  rcases outcome with ⟨rfl, registered, _⟩ | ⟨failed, _⟩
  · cases success
    exact performed_register (registered rfl)
  · cases result with
    | none => cases success
    | some err =>
        cases err with
        | none => exact absurd rfl failed
        | some error => cases success

theorem performed_of_notify {claims : Jwt.Fields} {strategy : Strategy}
    {guid : String} {parsed : Except Refusal NotifyParams}
    (closed : world.transaction = none)
    (success : ((Operation.notify claims strategy guid parsed).program
      marshal).run (World.handle environment) world = (some true, after)) :
    Performed (.notify claims strategy guid parsed) world.database.tables
      after.database.tables := by
  have outcome := @run_notify _ marshal claims strategy guid environment world
    parsed closed
  rcases ran : (Web.notify marshal claims strategy guid parsed).run
    (World.handle environment) world with ⟨result, final⟩
  rw [ran] at outcome
  rw [Operation.program, Program.run_bind, ran] at success
  cases result with
  | none => cases success
  | some refusal =>
      cases refusal with
      | some refusal => cases success
      | none =>
          cases success
          rcases outcome with ⟨refused, _⟩ | ⟨_, _, _, _, notified⟩
          · exact absurd rfl refused
          · exact performed_notify notified

theorem createTemplate_tends (template : Template) :
    Tended world.database.tables
      ((TemplatesRepo.create .connection template).run
        (World.handle environment) world).2.database.tables := by
  rw [TemplatesRepo.create]
  simp only [Program.perform_bind, Program.run_call, World.handle]
  cases environment.serve world.services .newGUID with
  | error text => exact .refl _
  | ok id =>
      obtain ⟨result, database, count, ran, tended⟩ :=
        @insertTemplate_tends _ environment _ { template with id := id }
          { world with services := world.services + 1 } rfl
      dsimp only
      rw [ran]
      exact tended

theorem performed_of_createTemplate {template : Template}
    (success : ((Operation.createTemplate template).program marshal).run
      (World.handle environment) world = (some true, after)) :
    Performed (.createTemplate template) world.database.tables
      after.database.tables := by
  have tended := @createTemplate_tends _ environment world template
  have same := congrArg (fun ran => ran.2.database.tables) success
  rw [← same, Operation.program, Program.run_bind_ret,
    TemplateCreator.create, Program.run_bind_ret]
  · exact performed_templates tended.others tended.grown (fun _ => rfl)
      (fun _ _ => rfl) (fun _ _ => rfl) rfl
  · intro result
    obtain ⟨stored, err⟩ := result
    cases err <;> exact ⟨_, rfl⟩
  · intro created
    cases created <;> exact ⟨_, rfl⟩

theorem step_performed {history next : History} {execution : Execution}
    {shown : List Unit}
    (stepped : (executing marshal).step history execution =
      some (next, shown)) :
    next.operations = execution.operation :: history.operations ∧
      Performed execution.operation history.server.database.tables
        next.server.database.tables := by
  simp only [executing] at stepped
  split at stepped
  · rename_i world success
    cases stepped
    refine ⟨rfl, ?_⟩
    obtain ⟨operation, environment⟩ := execution
    cases operation with
    | assignToClient clientID templateID =>
        exact performed_of_performs (assignToClient_performs _ _) success
    | assignToNotification clientID notificationID templateID =>
        exact performed_of_performs (assignToNotification_performs _ _ _)
          success
    | updateNotification notification =>
        exact performed_of_performs (updateNotification_performs _) success
    | register registration => exact performed_of_register success
    | notify claims strategy guid parsed =>
        exact performed_of_notify rfl success
    | createTemplate template => exact performed_of_createTemplate success
    | updateTemplate templateID template =>
        exact performed_of_performs (updateTemplate_performs _ _) success
  · cases stepped

end Steps

end Notifications.Web
