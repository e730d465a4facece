import Notifications.Web.Operations

/-!
# The template that the history chooses

`LoadTemplates` reads the template of the kind, and that of the client if the
kind has the default template.  Read off the successful operations alone: a
kind has the template that was last given to it since it was last pruned, and a
client has the one that was last assigned to it.  `LoadTemplates` returns the
contents of that template as long as it exists, and the one operation that
gives a template which it has not looked up is the notification update.
-/

set_option autoImplicit false

namespace Notifications.Web

open Notifications.Lib Notifications.Models Notifications.Services
open Notifications.Postal Notifications.Strategies

section Collated

variable [Collation]

/-! ## Precedence -/

def assignedTo (clientID : String) : List Operation → Option String
  | [] => none
  | operation :: earlier =>
      (operation.assigns clientID).or (assignedTo clientID earlier)

/-- The template last given to the kind since its row was created: what was
given to a row that is gone does not count. -/
def givenTo (clientID kindID : String) : List Operation → Option String
  | [] => none
  | operation :: earlier =>
      if operation.prunes clientID kindID then none
      else
        (operation.gives clientID kindID).or
          (givenTo clientID kindID earlier)

/-- The template of a client, or the default template. -/
def clientLevel (clientID : String) (operations : List Operation) : String :=
  (assignedTo clientID operations).getD defaultTemplateID

/-- The template of a kind, unless it is the default template; else that of
the client. -/
def kindLevel (clientID kindID : String) (operations : List Operation) :
    String :=
  match givenTo clientID kindID operations with
  | some templateID =>
      if templateID ≠ defaultTemplateID then templateID
      else clientLevel clientID operations
  | none => clientLevel clientID operations

/-- `LoadTemplates` returns the contents of the template. -/
def Loads (environment : Environment) (server : Server)
    (clientID kindID templateID : String) : Prop :=
  ∃ template : Template,
    server.database.tables.lookup .templates
      (Collation.key [templateID]) = some template ∧
    ((TemplatesLoader.loadTemplates clientID kindID).run
      (World.handle environment) server.enter).1 =
        some (.ok ⟨template.subject, template.text, template.html⟩)

/-- `LoadTemplates` goes by the history. -/
structure Precedence (history : History) : Prop where
  client : ∀ environment, Faultless environment → ∀ clientID,
    (history.server.database.tables.lookup .clients
      (Collation.key [clientID])).isSome →
      Loads environment history.server clientID ""
        (clientLevel clientID history.operations)
  kind : ∀ environment, Faultless environment → ∀ clientID kindID,
    kindID ≠ "" →
    (history.server.database.tables.lookup .clients
      (Collation.key [clientID])).isSome →
      (history.server.database.tables.lookup .kinds
          (Collation.key [kindID, clientID])).isSome →
        Loads environment history.server clientID kindID
          (kindLevel clientID kindID history.operations)

/-- A notification update has an empty template ID or that of an existing
template. -/
def LooksUp (history : History) (execution : Execution) : Prop :=
  ∀ notification ∈ execution.operation.updated,
    notification.templateID = "" ∨
      HasTemplate history.server.database.tables notification.templateID

instance (history : History) (execution : Execution) :
    Decidable (LooksUp history execution) :=
  inferInstanceAs (Decidable (∀ _ ∈ _, _))

/-- No client and no kind is registered yet, and there is a default
template. -/
structure Fresh (server : Server) : Prop where
  clients : server.database.tables.rows .clients = []
  kinds : server.database.tables.rows .kinds = []
  fallback : HasTemplate server.database.tables defaultTemplateID

/-! ## Whole histories -/

/-- The rows have the templates that the operations say. -/
structure Recorded (history : History) : Prop where
  clients : ∀ clientID,
    clientTemplate history.server.database.tables clientID =
      clientLevel clientID history.operations
  kinds : ∀ kindID clientID,
    kindTemplate history.server.database.tables kindID clientID =
      (givenTo clientID kindID history.operations).getD defaultTemplateID
  fallback : HasTemplate history.server.database.tables defaultTemplateID
  owned : ∀ kindID clientID,
    (history.server.database.tables.lookup .kinds
        (Collation.key [kindID, clientID])).isSome →
      Registrable kindID ∧
        (history.server.database.tables.lookup .clients
          (Collation.key [clientID])).isSome

/-- Every template ID in a row is that of a template. -/
structure Resolvable (tables : Tables) : Prop where
  clients : ∀ clientID, HasTemplate tables (clientTemplate tables clientID)
  kinds : ∀ kindID clientID,
    HasTemplate tables (kindTemplate tables kindID clientID)

section Histories

variable {marshal : Delivery → String} {history next : History}
  {execution : Execution} {shown : List Unit}

theorem fresh_recorded {server : Server} (fresh : Fresh server) :
    Recorded ⟨server, []⟩ := by
  have noClient (clientID : String) :
      server.database.tables.lookup .clients
        (Collation.key [clientID]) = none := by
    rw [Tables.lookup, fresh.clients]
    rfl
  have noKind (kindID clientID : String) :
      server.database.tables.lookup .kinds
        (Collation.key [kindID, clientID]) = none := by
    rw [Tables.lookup, fresh.kinds]
    rfl
  refine ⟨?_, ?_, fresh.fallback, ?_⟩
  · intro clientID
    rw [clientTemplate, noClient]
    rfl
  · intro kindID clientID
    rw [kindTemplate, noKind]
    rfl
  · intro kindID clientID present
    rw [noKind] at present
    cases present

theorem fresh_resolvable {server : Server} (fresh : Fresh server) :
    Resolvable server.database.tables := by
  have recorded := fresh_recorded fresh
  refine ⟨?_, ?_⟩
  · intro clientID
    rw [recorded.clients clientID]
    exact fresh.fallback
  · intro kindID clientID
    rw [recorded.kinds kindID clientID]
    exact fresh.fallback

theorem step_recorded (recorded : Recorded history)
    (stepped : (executing marshal).step history execution =
      some (next, shown)) : Recorded next := by
  obtain ⟨operations, performed⟩ := step_performed stepped
  refine ⟨?_, ?_, performed.templates _ recorded.fallback, ?_⟩
  · intro clientID
    rw [performed.clients, recorded.clients, operations, clientLevel,
      clientLevel, assignedTo]
    cases execution.operation.assigns clientID <;> rfl
  · intro kindID clientID
    rw [performed.kinds, recorded.kinds, operations, givenTo]
    split
    · rfl
    · cases execution.operation.gives clientID kindID <;> rfl
  · intro kindID clientID present
    rcases performed.owned kindID clientID present with old | new
    · obtain ⟨registrable, registered⟩ := recorded.owned kindID clientID old
      exact ⟨registrable, performed.registered clientID registered⟩
    · exact new

omit [Collation] in
theorem Operation.updated_eq {operation : Operation} {notification : Kind}
    (update : operation.updated = some notification) :
    operation = .updateNotification notification := by
  cases operation with
  | updateNotification other =>
      cases update
      rfl
  | _ => cases update

/-- A kind gets the template of an update, and the other operations have looked
their template up. -/
theorem step_resolvable_iff (recorded : Recorded history)
    (resolvable : Resolvable history.server.database.tables)
    (stepped : (executing marshal).step history execution =
      some (next, shown)) :
    Resolvable next.server.database.tables ↔ LooksUp history execution := by
  obtain ⟨_, performed⟩ := step_performed stepped
  constructor
  · intro after notification update
    by_cases unset : notification.templateID = ""
    · exact .inl unset
    · right
      have gives : execution.operation.gives notification.clientID
          notification.id = some notification.templateID := by
        rw [Operation.updated_eq update]
        exact if_pos ⟨Collation.equal_self _, Collation.equal_self _, unset⟩
      have spared : execution.operation.prunes notification.clientID
          notification.id = false := by
        rw [Operation.updated_eq update]
        rfl
      have moved : kindTemplate next.server.database.tables notification.id
          notification.clientID = notification.templateID := by
        rw [performed.kinds, spared, gives]
        rfl
      have untouched := performed.untouched
        (Option.isSome_iff_ne_none.mp (Option.isSome_of_mem update))
      have known := after.kinds notification.id notification.clientID
      rw [moved] at known
      exact known.congr untouched.symm
  · intro looks
    refine ⟨?_, ?_⟩
    · intro clientID
      apply performed.templates
      rw [performed.clients]
      cases assigns : execution.operation.assigns clientID with
      | none => exact resolvable.clients clientID
      | some templateID => exact performed.assigned clientID _ assigns
    · intro kindID clientID
      apply performed.templates
      rw [performed.kinds]
      split
      · exact recorded.fallback
      · cases gives : execution.operation.gives clientID kindID with
        | none => exact resolvable.kinds kindID clientID
        | some templateID =>
            cases update : execution.operation.updated with
            | none => exact performed.given update _ _ _ gives
            | some notification =>
                rw [Operation.updated_eq update, Operation.gives] at gives
                split at gives
                · rename_i here
                  cases gives
                  exact (looks notification update).resolve_left here.2.2
                · cases gives

theorem kindLevel_of_recorded (recorded : Recorded history)
    (clientID kindID : String) (named : kindID ≠ "") :
    effectiveTemplate history.server.database.tables clientID kindID =
      kindLevel clientID kindID history.operations := by
  rw [effectiveTemplate, recorded.kinds, recorded.clients, kindLevel]
  cases givenTo clientID kindID history.operations with
  | none => simp
  | some templateID => simp [named]

theorem clientLevel_of_recorded (recorded : Recorded history)
    (clientID : String) :
    effectiveTemplate history.server.database.tables clientID "" =
      clientLevel clientID history.operations := by
  rw [effectiveTemplate, if_neg (by simp), recorded.clients]

theorem loads_of_hasTemplate {environment : Environment}
    (faultless : Faultless environment) {server : Server}
    {clientID kindID templateID : String}
    (rows : RowsPresent server.database.tables clientID kindID)
    (effective : effectiveTemplate server.database.tables clientID kindID =
      templateID) (known : HasTemplate server.database.tables templateID) :
    Loads environment server clientID kindID templateID := by
  obtain ⟨template, found⟩ := Option.isSome_iff_exists.mp known
  refine ⟨template, found, ?_⟩
  rw [run_loadTemplates faultless server.enter rows]
  simp only [Server.enter, effective, loaded, found]

theorem Resolvable.effective {tables : Tables}
    (resolvable : Resolvable tables) (clientID kindID : String) :
    HasTemplate tables (effectiveTemplate tables clientID kindID) := by
  rw [effectiveTemplate]
  split
  · exact resolvable.kinds kindID clientID
  · exact resolvable.clients clientID

theorem Loads.hasTemplate {environment : Environment} {server : Server}
    {clientID kindID templateID : String}
    (loads : Loads environment server clientID kindID templateID) :
    HasTemplate server.database.tables templateID := by
  obtain ⟨template, found, _⟩ := loads
  exact Option.isSome_of_mem found

theorem precedence_of_resolvable (recorded : Recorded history)
    (resolvable : Resolvable history.server.database.tables) :
    Precedence history where
  client environment faultless clientID registered := by
    have effective := clientLevel_of_recorded recorded clientID
    have known := resolvable.effective clientID ""
    rw [effective] at known
    exact loads_of_hasTemplate faultless ⟨registered, fun named =>
      absurd rfl named⟩ effective known
  kind environment faultless clientID kindID named registered listed := by
    have effective := kindLevel_of_recorded recorded clientID kindID named
    have known := resolvable.effective clientID kindID
    rw [effective] at known
    exact loads_of_hasTemplate faultless ⟨registered, fun _ => listed⟩
      effective known

theorem resolvable_of_precedence (recorded : Recorded history)
    (precedence : Precedence history) :
    Resolvable history.server.database.tables where
  clients clientID := by
    cases found : history.server.database.tables.lookup .clients
      (Collation.key [clientID]) with
    | none =>
        rw [clientTemplate, found]
        exact recorded.fallback
    | some client =>
        rw [recorded.clients]
        exact (precedence.client .calm (fun _ => rfl) clientID
          (Option.isSome_of_mem found)).hasTemplate
  kinds kindID clientID := by
    cases found : history.server.database.tables.lookup .kinds
      (Collation.key [kindID, clientID]) with
    | none =>
        rw [kindTemplate, found]
        exact recorded.fallback
    | some kind =>
        have listed := Option.isSome_of_mem found
        obtain ⟨⟨id, named, same⟩, registered⟩ :=
          recorded.owned kindID clientID listed
        -- the row is also found under an ID that is not empty
        rw [← Collation.key_congr same] at listed
        have known := (precedence.kind .calm (fun _ => rfl) clientID id named
          registered listed).hasTemplate
        rw [kindTemplate, ← Collation.key_congr same, ← kindTemplate]
        by_cases own : kindTemplate history.server.database.tables id
            clientID = defaultTemplateID
        · rw [own]
          exact recorded.fallback
        · rwa [← kindLevel_of_recorded recorded clientID id named,
            effectiveTemplate, if_pos ⟨named, own⟩] at known

theorem precedence_iff_resolvable (recorded : Recorded history) :
    Precedence history ↔ Resolvable history.server.database.tables :=
  ⟨resolvable_of_precedence recorded, precedence_of_resolvable recorded⟩

end Histories

end Collated

/-! ## Two histories -/

section Binary

attribute [local instance] Collation.binary

theorem seededServer_fresh : Fresh seededServer :=
  ⟨by decide +kernel, by decide +kernel, by decide +kernel⟩

def plainRegistration : PlainRegistration where
  client := registeredClient "client" "S"
  kinds := [{ Table.kinds.zero with
    id := "kind"
    description := "K"
    clientID := "client" }]
  prune := true
  own := by decide
  named := by decide
  unsetClient := rfl
  unsetKinds := by decide

def assigningExecutions : List Execution :=
  [ ⟨.createTemplate ⟨0, "", "Mine", "subject", "text", "html", "", 0, 0,
      false⟩, .calm⟩,
    ⟨.register plainRegistration, .calm⟩,
    ⟨.assignToClient "client" "guid", .calm⟩ ]

def updating (templateID : String) : Execution :=
  ⟨.updateNotification { Table.kinds.zero with
    id := "kind"
    description := "K"
    clientID := "client"
    templateID := templateID }, .calm⟩

def givingExecutions : List Execution :=
  assigningExecutions ++ [updating "guid", updating "",
    ⟨.register plainRegistration, .calm⟩,
    ⟨.notify writerClaims .user "user" (.ok ⟨"", "Subject", "text",
      ⟨"", "", "", ""⟩, "kind", "", ""⟩), .calm⟩]

end Binary

end Notifications.Web
