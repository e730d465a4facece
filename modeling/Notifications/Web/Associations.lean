import Notifications.Models.Listing
import Notifications.Models.Seeding
import Notifications.Web.References

/-!
# Associations and deleted templates

`TemplateAssociationLister` names the clients and the kinds that have a
template.  Deleting the template makes `LoadTemplates` fail for exactly the
listed kinds, and for a listed client where it falls back to the client's
template; nothing else changes.
-/

set_option autoImplicit false

namespace Notifications.Services

open Notifications.Lib Notifications.Models

structure TemplateAssociation where
  clientID : String
  notificationID : String
  deriving DecidableEq, Repr

variable [Collation]

namespace TemplateAssociationLister

def ofClient (client : Client) : TemplateAssociation := ⟨client.id, ""⟩

def ofKind (kind : Kind) : TemplateAssociation := ⟨kind.clientID, kind.id⟩

def list (templateID : String) :
    Prog (List TemplateAssociation × Option Error) := do
  match ← TemplatesRepo.findByID .connection templateID with
  | (_, some error) => pure ([], some error)
  | (_, none) =>
      match ← ClientsRepo.findAllByTemplateID .connection templateID with
      | (_, some error) => pure ([], some error)
      | (clients, none) =>
          match ← KindsRepo.findAllByTemplateID .connection templateID with
          | (_, some error) => pure ([], some error)
          | (kinds, none) =>
              pure (clients.map ofClient ++ kinds.map ofKind, none)

end TemplateAssociationLister

end Notifications.Services

namespace Notifications.Web

open Notifications.Lib Notifications.Models Notifications.Services
open Notifications.Postal

section Collated

variable [Collation]

/-! ## The list -/

/-- The clients with the template, and then the kinds. -/
def associations (tables : Tables) (templateID : String) :
    List TemplateAssociation :=
  ((tables.rows .clients).filter fun client : Client =>
      Collation.equal client.templateID templateID).map
        TemplateAssociationLister.ofClient ++
    ((tables.rows .kinds).filter fun kind : Kind =>
      Collation.equal kind.templateID templateID).map
        TemplateAssociationLister.ofKind

/-- The association stands for a client or for a kind with the template. -/
def Associated (tables : Tables) (templateID : String)
    (association : TemplateAssociation) : Prop :=
  (association.notificationID = "" ∧ ∃ client : Client,
    client ∈ tables.rows .clients ∧
      Collation.equal client.templateID templateID ∧
      client.id = association.clientID) ∨
  ∃ kind : Kind, kind ∈ tables.rows .kinds ∧
    Collation.equal kind.templateID templateID ∧
    kind.clientID = association.clientID ∧
    kind.id = association.notificationID

def KindsNamed (tables : Tables) : Prop :=
  ∀ kind : Kind, kind ∈ tables.rows .kinds → kind.id ≠ ""

instance (tables : Tables) : Decidable (KindsNamed tables) :=
  inferInstanceAs (Decidable (∀ kind ∈ tables.rows .kinds, _))

section List

variable {database : Database} {templateID : String}

theorem mem_associations {association : TemplateAssociation} :
    association ∈ associations database.tables templateID ↔
      Associated database.tables templateID association := by
  rw [associations, List.mem_append, List.mem_map, List.mem_map, Associated]
  constructor
  · intro facts
    rcases facts with ⟨client, member, rfl⟩ | ⟨kind, member, rfl⟩
    · obtain ⟨stored, same⟩ := List.mem_filter.mp member
      exact .inl ⟨rfl, client, stored, same, rfl⟩
    · obtain ⟨stored, same⟩ := List.mem_filter.mp member
      exact .inr ⟨kind, stored, same, rfl, rfl⟩
  · rintro (⟨noKind, client, stored, same, own⟩ |
      ⟨kind, stored, same, own, id⟩)
    · refine .inl ⟨client, List.mem_filter.mpr ⟨stored, same⟩, ?_⟩
      rw [TemplateAssociationLister.ofClient, own, ← noKind]
    · refine .inr ⟨kind, List.mem_filter.mpr ⟨stored, same⟩, ?_⟩
      rw [TemplateAssociationLister.ofKind, own, id]

theorem associations_nodup (named : KindsNamed database.tables) :
    (associations database.tables templateID).Nodup := by
  have unique := database.sound.uniqueKey
  refine List.Nodup.append ?_ ?_ ?_
  · refine List.Nodup.map_on ?_
      ((unique .clients).of_map _ |>.filter _)
    intro one memberOne other memberOther same
    apply (unique .clients).eq_of_mem (List.mem_of_mem_filter memberOne)
      (List.mem_of_mem_filter memberOther)
    exact congrArg (fun association =>
      Collation.key [association.clientID]) same
  · refine List.Nodup.map_on ?_ ((unique .kinds).of_map _ |>.filter _)
    intro one memberOne other memberOther same
    apply (unique .kinds).eq_of_mem (List.mem_of_mem_filter memberOne)
      (List.mem_of_mem_filter memberOther)
    exact congrArg (fun association : TemplateAssociation =>
      Collation.key [association.notificationID, association.clientID]) same
  · intro association client kind
    obtain ⟨_, _, rfl⟩ := List.mem_map.mp client
    obtain ⟨stored, member, same⟩ := List.mem_map.mp kind
    exact named stored (List.mem_of_mem_filter member)
      (congrArg TemplateAssociation.notificationID same)

theorem run_list {environment : Environment}
    (faultless : Faultless environment)
    (present : (database.tables.lookup .templates
      (Collation.key [templateID])).isSome =
      true) :
    ((TemplateAssociationLister.list templateID).run
      (World.handle environment) database.alone).1 =
        some (associations database.tables templateID, none) := by
  obtain ⟨template, found⟩ := Option.isSome_iff_exists.mp present
  have read : database.alone.read .connection = some database := rfl
  have looked := @TemplatesRepo.run_findByID _ environment _ _ _ read templateID
  rw [faultless database.alone.statements, found] at looked
  rw [TemplateAssociationLister.list, Program.run_bind_of _ looked]
  simp only [sought]
  rw [ClientsRepo.findAllByTemplateID,
    Program.run_bind_of _ (run_selectAll faultless rfl _ _)]
  dsimp only
  rw [KindsRepo.findAllByTemplateID,
    Program.run_bind_of _ (run_selectAll faultless rfl _ _)]
  rfl

def ListsClient (listed : List TemplateAssociation) (clientID : String) :
    Prop :=
  ∃ association ∈ listed, association.notificationID = "" ∧
    Collation.equal association.clientID clientID

def ListsKind (listed : List TemplateAssociation)
    (clientID kindID : String) : Prop :=
  ∃ association ∈ listed, association.notificationID ≠ "" ∧
    Collation.equal association.clientID clientID ∧
    Collation.equal association.notificationID kindID

theorem listed_client (named : KindsNamed database.tables)
    {clientID : String} :
    ListsClient (associations database.tables templateID) clientID ↔
      ∃ client, database.tables.lookup .clients (Collation.key [clientID]) =
          some client ∧
        Collation.equal client.templateID templateID := by
  constructor
  · rintro ⟨association, member, empty, alike⟩
    rcases mem_associations.mp member with
      ⟨_, client, stored, same, own⟩ | ⟨kind, stored, _, _, id⟩
    · rw [← own] at alike
      exact ⟨client, (lookup_clients_iff database.sound).mpr ⟨stored, alike⟩,
        same⟩
    · exact absurd (id.trans empty) (named kind stored)
  · rintro ⟨client, found, same⟩
    obtain ⟨stored, own⟩ := (lookup_clients_iff database.sound).mp found
    exact ⟨⟨client.id, ""⟩,
      mem_associations.mpr (.inl ⟨rfl, client, stored, same, rfl⟩), rfl, own⟩

theorem listed_kind (named : KindsNamed database.tables)
    {clientID kindID : String} :
    ListsKind (associations database.tables templateID) clientID kindID ↔
      ∃ kind, database.tables.lookup .kinds
          (Collation.key [kindID, clientID]) = some kind ∧
        Collation.equal kind.templateID templateID := by
  constructor
  · rintro ⟨association, member, nonempty, client, alike⟩
    rcases mem_associations.mp member with
      ⟨empty, _⟩ | ⟨kind, stored, same, own, id⟩
    · exact absurd empty nonempty
    · rw [← own] at client
      rw [← id] at alike
      exact ⟨kind, (lookup_kinds_iff database.sound).mpr
        ⟨stored, alike, client⟩, same⟩
  · rintro ⟨kind, found, same⟩
    obtain ⟨stored, id, own⟩ := (lookup_kinds_iff database.sound).mp found
    exact ⟨⟨kind.clientID, kind.id⟩,
      mem_associations.mpr (.inr ⟨kind, stored, same, rfl, rfl⟩),
      named kind stored, own, id⟩

end List

/-! ## Loading before and after -/

def clientResult (tables : Tables) (clientID : String) :
    Except Error Templates :=
  match tables.lookup .clients (Collation.key [clientID]) with
  | none => .error (ClientsRepo.missing clientID)
  | some client => loaded tables client.templateID

/-- What `LoadTemplates` returns, as a function of three lookups. -/
def loadResult (tables : Tables) (clientID kindID : String) :
    Except Error Templates :=
  if kindID ≠ "" then
    match tables.lookup .kinds (Collation.key [kindID, clientID]) with
    | none => .error (KindsRepo.missing kindID clientID)
    | some kind =>
        if kind.templateID ≠ defaultTemplateID then
          loaded tables kind.templateID
        else clientResult tables clientID
  else clientResult tables clientID

section Loading

variable {environment : Environment} (faultless : Faultless environment)

include faultless

theorem run_clientResult (clientID : String) (world : World) :
    ((TemplatesLoader.loadClientTemplate clientID).run
      (World.handle environment) world).1 =
        some (clientResult world.database.tables clientID) := by
  have read : world.read .connection = some world.database := rfl
  have ran := @ClientsRepo.run_find _ environment _ _ _ read clientID
  rw [faultless world.statements] at ran
  rw [TemplatesLoader.loadClientTemplate, Program.run_bind_of _ ran,
    clientResult]
  cases world.database.tables.lookup .clients (Collation.key [clientID]) with
  | none => rfl
  | some client => exact run_loadTemplate faultless _ world.counted

theorem run_loadResult (clientID kindID : String) (world : World) :
    ((TemplatesLoader.loadTemplates clientID kindID).run
      (World.handle environment) world).1 =
        some (loadResult world.database.tables clientID kindID) := by
  rw [TemplatesLoader.loadTemplates, loadResult]
  by_cases named : kindID ≠ ""
  · have read : world.read .connection = some world.database := rfl
    have ran := @KindsRepo.run_find _ environment _ _ _ read kindID clientID
    rw [faultless world.statements] at ran
    rw [if_pos named, if_pos named, Program.run_bind_of _ ran]
    cases world.database.tables.lookup .kinds
      (Collation.key [kindID, clientID]) with
    | none => rfl
    | some kind =>
        simp only [sought]
        by_cases own : kind.templateID ≠ defaultTemplateID
        · rw [if_pos own, if_pos own]
          exact run_loadTemplate faultless kind.templateID world.counted
        · rw [if_neg own, if_neg own]
          exact run_clientResult faultless clientID world.counted
  · rw [if_neg named, if_neg named]
    exact run_clientResult faultless clientID world

end Loading

/-- The kind is listed, or its client is and decides which template is
loaded. -/
def Breaks (tables : Tables) (listed : List TemplateAssociation)
    (clientID kindID : String) : Prop :=
  (kindID ≠ "" ∧ ListsKind listed clientID kindID) ∨
  (ListsClient listed clientID ∧ (kindID = "" ∨ ∃ kind : Kind,
    tables.lookup .kinds (Collation.key [kindID, clientID]) = some kind ∧
      kind.templateID = defaultTemplateID))

section Deleting

variable {database : Database} {after : Tables} {templateID : String}
  (destroys : Destroys templateID database.tables after)

include destroys

theorem loaded_after (id : String) :
    loaded after id =
      if Collation.equal id templateID then
        .error (TemplatesRepo.missing id)
      else loaded database.tables id := by
  rw [loaded, destroys.lookups]
  by_cases same : Collation.equal id templateID
  · rw [if_pos same, if_pos (Collation.key_congr same)]
  · rw [if_neg, if_neg same, loaded]
    simpa using same

theorem clientResult_after (named : KindsNamed database.tables)
    {clientID : String} {templates : Templates}
    (loads : clientResult database.tables clientID = .ok templates) :
    (ListsClient (associations database.tables templateID) clientID →
      ∃ error, clientResult after clientID = .error error) ∧
    (¬ ListsClient (associations database.tables templateID) clientID →
      clientResult after clientID = .ok templates) := by
  have same := Tables.lookup_congr (destroys.others .clients (by decide))
  rw [clientResult] at loads
  cases found : database.tables.lookup .clients
      (Collation.key [clientID]) with
  | none =>
      rw [found] at loads
      cases loads
  | some client =>
      rw [found] at loads
      rw [listed_client named, clientResult, same, found]
      simp only [loaded_after destroys, Option.some.injEq]
      constructor
      · intro facts
        obtain ⟨_, rfl, given⟩ := facts
        rw [if_pos given]
        exact ⟨_, rfl⟩
      · intro unlisted
        rw [if_neg fun given => unlisted ⟨client, rfl, given⟩]
        exact loads

theorem loadResult_after (named : KindsNamed database.tables)
    (other : ¬ Collation.equal templateID defaultTemplateID)
    {clientID kindID : String} {templates : Templates}
    (loads : loadResult database.tables clientID kindID = .ok templates) :
    (Breaks database.tables (associations database.tables templateID)
        clientID kindID →
      ∃ error, loadResult after clientID kindID = .error error) ∧
    (¬ Breaks database.tables (associations database.tables templateID)
        clientID kindID →
      loadResult after clientID kindID = .ok templates) := by
  have same := Tables.lookup_congr (destroys.others .kinds (by decide))
  rw [loadResult] at loads
  rw [loadResult, Breaks]
  by_cases nonempty : kindID ≠ ""
  · rw [if_pos nonempty] at loads ⊢
    rw [same, listed_kind named]
    cases found : database.tables.lookup .kinds
        (Collation.key [kindID, clientID]) with
    | none =>
        rw [found] at loads
        cases loads
    | some kind =>
        rw [found] at loads
        simp only [Option.some.injEq, nonempty, false_or] at loads ⊢
        by_cases own : kind.templateID ≠ defaultTemplateID
        · -- the kind's own template
          rw [if_pos own] at loads ⊢
          rw [loaded_after destroys]
          constructor
          · intro facts
            rcases facts with ⟨_, _, rfl, given⟩ | ⟨_, _, rfl, fallback⟩
            · rw [if_pos given]
              exact ⟨_, rfl⟩
            · exact absurd fallback own
          · intro unlisted
            rw [if_neg]
            · exact loads
            · intro given
              exact unlisted (.inl ⟨nonempty, kind, rfl, given⟩)
        · -- the client's template
          rw [if_neg own] at loads ⊢
          obtain ⟨breaks, keeps⟩ := clientResult_after destroys named loads
          have fallback := not_not.mp own
          constructor
          · intro facts
            rcases facts with ⟨_, _, rfl, given⟩ | ⟨listed, _⟩
            · rw [fallback, Collation.equal_iff] at given
              exact absurd (Collation.equal_iff.mpr given.symm) other
            · exact breaks listed
          · intro unlisted
            apply keeps
            intro listed
            exact unlisted (.inr ⟨listed, kind, rfl, fallback⟩)
  · rw [if_neg nonempty] at loads ⊢
    obtain ⟨breaks, keeps⟩ := clientResult_after destroys named loads
    have empty := not_not.mp nonempty
    constructor
    · intro facts
      rcases facts with ⟨given, _⟩ | ⟨listed, _⟩
      · exact absurd empty given
      · exact breaks listed
    · intro unlisted
      apply keeps
      intro listed
      exact unlisted (.inr ⟨listed, .inl empty⟩)

end Deleting

/-- One kind of the client has a template of its own. -/
def associatedDatabase : Database :=
  .after [
    .insert .templates ⟨0, "default", "Default", "", "", "", "", 0, 0, false⟩,
    .insert .templates ⟨0, "mine", "Mine", "", "text", "", "", 0, 0, false⟩,
    .insert .clients ⟨0, "client", "C", 0, "default"⟩,
    .insert .kinds ⟨0, "kind", "K", false, "client", 0, 0, "mine"⟩]

end Collated

attribute [local instance] Collation.binary

end Notifications.Web
