import Notifications.Services.Registration
import Notifications.Web.Handlers

/-!
# Registrations that assign templates

`PUT /notifications` never sets a template ID.  `PUT /registration` decodes its
kinds into the model, so a member called `TemplateID`, in any capitalization,
reaches the row: nothing checks the token or that the template exists.
-/

set_option autoImplicit false

namespace Notifications.Web

open Notifications.Lib Notifications.Models Notifications.Services

section Collated

variable [Collation]

/-- The template ID of a row that may not be there yet. -/
def clientTemplate (tables : Tables) (id : String) : String :=
  (tables.lookup .clients
    (Collation.key [id])).elim defaultTemplateID Client.templateID

def kindTemplate (tables : Tables) (id clientID : String) : String :=
  (tables.lookup .kinds
    (Collation.key [id, clientID])).elim defaultTemplateID Kind.templateID

/-- Every row has the template ID it had, and a new row has the default. -/
structure TemplatesKept (before after : Tables) : Prop where
  clients : ∀ row ∈ after.rows .clients,
    row.templateID = clientTemplate before row.id
  kinds : ∀ row ∈ after.rows .kinds,
    row.templateID = kindTemplate before row.id row.clientID

theorem templatesKept_refl (database : Database) :
    TemplatesKept database.tables database.tables where
  clients row member := by
    rw [clientTemplate,
      (lookup_clients_iff database.sound).mpr ⟨member, Collation.equal_self _⟩]
    rfl
  kinds row member := by
    rw [kindTemplate, (lookup_kinds_iff database.sound).mpr
      ⟨member, Collation.equal_self _, Collation.equal_self _⟩]
    rfl

/-- The last template ID that the kinds of a list name for an ID. -/
def assignedTemplate (id : String) : List Kind → Option String
  | [] => none
  | kind :: rest =>
      (assignedTemplate id rest).or
        (if Collation.equal kind.id id ∧ kind.templateID ≠ "" then
          some kind.templateID
        else none)

theorem templateAfter_eq (id : String) (kinds : List Kind)
    (template : String) :
    templateAfter id kinds template =
      (assignedTemplate id kinds).getD template := by
  induction kinds generalizing template with
  | nil => rfl
  | cons kind rest ih =>
      rw [templateAfter, assignedTemplate, ih]
      cases assignedTemplate id rest with
      | some later => rfl
      | none =>
          by_cases same : Collation.weight kind.id = Collation.weight id
          · by_cases unset : kind.templateID = ""
            · simp [chosen, same, unset]
            · simp [chosen, same, unset]
          · simp [same]

theorem lastOf_of_assigned {id template : String} {kinds : List Kind}
    (assigned : assignedTemplate id kinds = some template) :
    (lastOf id kinds).isSome := by
  induction kinds with
  | nil => cases assigned
  | cons kind rest ih =>
      rw [lastOf, Option.isSome_or, Bool.or_eq_true]
      rw [assignedTemplate] at assigned
      cases later : assignedTemplate id rest with
      | some found =>
          rw [later] at assigned
          exact .inl (ih (later.trans assigned))
      | none =>
          rw [later, Option.none_or] at assigned
          by_cases same : Collation.weight kind.id = Collation.weight id
          · exact .inr (by simp [same])
          · simp [same] at assigned

/-- No kind of the list moves to another template. -/
def Keeping (tables : Tables) (clientID : String) (kinds : List Kind) : Prop :=
  ∀ id template, assignedTemplate id kinds = some template →
    template = kindTemplate tables id clientID

theorem templateAfter_of_keeping {tables : Tables} {clientID : String}
    {kinds : List Kind} (keeping : Keeping tables clientID kinds)
    (id : String) :
    templateAfter id kinds (kindTemplate tables id clientID) =
      kindTemplate tables id clientID := by
  rw [templateAfter_eq]
  cases assigned : assignedTemplate id kinds with
  | none => rfl
  | some template => exact keeping id template assigned

section Registered

variable {client : Client} {kinds : List Kind} {prune : Bool}
  {before after : Database}
  (registered : Registered client kinds prune before.tables after.tables)

include registered

theorem templatesKept_of_registered (unset : client.templateID = "")
    (keeping : Keeping before.tables client.id kinds) :
    TemplatesKept before.tables after.tables where
  clients row member := by
    by_cases mine : Collation.equal row.id client.id
    · obtain ⟨stored, found, settled⟩ := registered.described
      have same : stored = row := by
        rw [(lookup_clients_iff after.sound).mpr ⟨member, mine⟩] at found
        exact (Option.some.inj found).symm
      rw [← same, settled.templateID, chosen, if_pos unset, settled.id]
      rfl
    · rw [clientTemplate, ← registered.foreignClients row.id mine,
        (lookup_clients_iff after.sound).mpr
          ⟨member, Collation.equal_self _⟩]
      rfl
  kinds row member := by
    have found := (lookup_kinds_iff after.sound).mpr
      ⟨member, Collation.equal_self row.id, Collation.equal_self row.clientID⟩
    by_cases mine : Collation.equal row.clientID client.id
    · have key : Collation.key [row.id, row.clientID] =
          Collation.key [row.id, client.id] := by
        simpa using mine
      have own : kindTemplate before.tables row.id row.clientID =
          kindTemplate before.tables row.id client.id := by
        rw [kindTemplate, key, kindTemplate]
      rw [key] at found
      rw [own]
      cases last : lastOf row.id kinds with
      | none =>
          have kept := registered.missing row.id last
          cases prune with
          | true =>
              rw [found, if_pos rfl] at kept
              cases kept
          | false =>
              rw [found, if_neg (by decide)] at kept
              rw [kindTemplate, ← kept]
              rfl
      | some kind =>
          obtain ⟨stored, found', entry⟩ := registered.entry row.id kind last
          rw [found] at found'
          rw [Option.some.inj found', entry.templateID, ← Option.some.inj found']
          exact templateAfter_of_keeping keeping row.id
    · rw [kindTemplate, ← registered.foreignKinds row.id row.clientID mine,
        found]
      rfl

/-- A kind that names another template moves to it. -/
theorem keeping_of_templatesKept
    (kept : TemplatesKept before.tables after.tables) :
    Keeping before.tables client.id kinds := by
  intro id template assigned
  obtain ⟨last, found⟩ := Option.isSome_iff_exists.mp
    (lastOf_of_assigned assigned)
  obtain ⟨row, stored, entry⟩ := registered.entry id last found
  obtain ⟨member, same, own⟩ := (lookup_kinds_iff after.sound).mp stored
  have key := Collation.key_pair same own
  have moved := entry.templateID
  rw [kept.kinds row member, templateAfter_eq, assigned, kindTemplate,
    key] at moved
  exact moved.symm

end Registered

/-! ## What the handlers do -/

omit [Collation] in
theorem validatedKinds_ok {hasCriticalWrite : Bool} {client : Client}
    {kinds validated : List Kind}
    (ok : validatedKinds hasCriticalWrite client kinds = .ok validated) :
    validated = kinds.map (fun kind => { kind with clientID := client.id }) ∧
      (hasCriticalWrite = false → ∀ kind ∈ kinds, kind.critical = false) := by
  induction kinds generalizing validated with
  | nil =>
      cases ok
      simp
  | cons kind rest ih =>
      rw [validatedKinds] at ok
      split at ok
      · cases ok
      · rename_i allowed
        split at ok
        · cases ok
        · rename_i later done
          cases ok
          obtain ⟨rfl, others⟩ := ih done
          refine ⟨rfl, fun unprivileged other member => ?_⟩
          rcases List.mem_cons.mp member with rfl | inRest
          · simpa [unprivileged] using allowed
          · exact others unprivileged other inRest

omit [Collation] in
theorem validateCriticalScopes_ok {claims : Jwt.Fields}
    {kinds validated : List Kind} {client : Client}
    (ok : validateCriticalScopes claims kinds client =
      some (.ok validated)) :
    validated = kinds.map fun kind => { kind with clientID := client.id } := by
  rw [validateCriticalScopes] at ok
  split at ok
  · obtain ⟨critical, _, same⟩ := Option.bind_eq_some_iff.mp ok
    exact (validatedKinds_ok (Option.some.inj same)).1
  · cases ok

def registeredClient (clientID description : String) : Client :=
  { Table.clients.zero with id := clientID, description := description }

/-- The second half of a handler makes the calls of its transaction, and those
that begin and end one. -/
theorem executeRegistration_only {allowed : Op → Prop} {claims : Jwt.Fields}
    {description : String} {kinds : List Kind} {prune : Bool}
    (begins : allowed .begin) (commits : allowed .commit)
    (rollsBack : allowed .rollback)
    (inside : ∀ clientID validated, clientIDOf claims = some clientID →
      validateCriticalScopes claims kinds
          (registeredClient clientID description) = some (.ok validated) →
        (registration (registeredClient clientID description) validated prune
          .transaction).Only allowed) :
    (executeRegistration claims description kinds prune).Only allowed := by
  rw [executeRegistration]
  split
  · exact trivial
  · rename_i clientID own
    simp only
    split
    · exact trivial
    · exact trivial
    · rename_i validated ok
      exact Program.only_bind (inTransaction_only begins commits rollsBack
        (inside clientID validated own ok)) fun _ => trivial

/-- The second half of a handler registers the kinds or changes nothing; when
no statement fails, it registers them. -/
theorem run_executeRegistration {claims : Jwt.Fields}
    {description clientID : String} {kinds validated : List Kind}
    {prune : Bool} (client : clientIDOf claims = some clientID)
    (valid : validateCriticalScopes claims kinds
      (registeredClient clientID description) = some (.ok validated))
    (named : ∀ kind ∈ kinds, kind.id ≠ "") (environment : Environment)
    (world : World) :
    ∃ result after,
      (executeRegistration claims description kinds prune).run
        (World.handle environment) world = (result, after) ∧
      (result = some none ∧
        Registered (registeredClient clientID description) validated prune
          world.database.tables after.database.tables ∨
        result ≠ some none ∧ after.database = world.database ∧
          ¬ Faultless environment) := by
  have shape : validated =
      kinds.map (fun kind => { kind with clientID := clientID }) :=
    validateCriticalScopes_ok valid
  have own : ∀ kind ∈ validated, Collation.equal kind.clientID clientID := by
    rw [shape]
    intro kind member
    obtain ⟨_, _, rfl⟩ := List.mem_map.mp member
    exact Collation.equal_self clientID
  have named' : ∀ kind ∈ validated, kind.id ≠ "" := by
    rw [shape]
    intro kind member
    obtain ⟨original, listed, rfl⟩ := List.mem_map.mp member
    exact named original listed
  obtain ⟨result, after, ran, outcome, calm⟩ := run_inTransaction
    registration_onConn world (@registration_achieves _ environment
      .transaction (registeredClient clientID description) validated prune
      own named' world.database)
  have started : executeRegistration claims description kinds prune =
      (do
        let err ← inTransaction (registration
          (registeredClient clientID description) validated prune
          .transaction)
        pure (err.map .failed)) := by
    rw [executeRegistration, client]
    simp only
    rw [registeredClient] at valid
    rw [valid]
    rfl
  rw [started, Program.run_bind, ran]
  rcases outcome with ⟨rfl, registered, _⟩ | ⟨failed, unchanged⟩
  · exact ⟨_, after, rfl, .inl ⟨rfl, registered rfl⟩⟩
  · have faulty : ¬ Faultless environment := by
      intro faultless
      exact failed (calm faultless fun err after holds => holds.2 faultless)
    cases result with
    | none => exact ⟨_, after, rfl, .inr ⟨by simp, unchanged, faulty⟩⟩
    | some err =>
        refine ⟨_, after, rfl, .inr ⟨?_, unchanged, faulty⟩⟩
        cases err with
        | none => exact absurd rfl failed
        | some error => exact fun same => by cases same

/-- The registration endpoints, behind their authenticator. -/
inductive RegistrationRoute where
  /-- `PUT /registration` -/
  | registration
  /-- `PUT /notifications` -/
  | notifications
  deriving DecidableEq, Repr

def RegistrationRoute.serve (library : Library) (claims : Jwt.Fields)
    (body : Body) : RegistrationRoute → Prog (Option Refusal)
  | registration => authenticated ["notifications.write"] claims
      (registerNotifications library claims body)
  | notifications => authenticated ["notifications.write"] claims
      (registerClientWithNotifications library claims body)

/-- `PUT /registration` accepts a body: the kinds that it registers. -/
structure Accepted (library : Library) (claims : Jwt.Fields) (body : Body)
    (clientID : String) (kinds : List Kind) : Prop where
  authorized : (Authenticator.mk ["notifications.write"] "").containsATokenScope
    claims = some true
  client : clientIDOf claims = some clientID
  valid : ∃ parameters, newRegistration library body = .ok parameters ∧
    parameters.validate = none ∧
    validateCriticalScopes claims parameters.kinds.values
      (registeredClient clientID parameters.sourceDescription) =
        some (.ok kinds)

omit [Collation] in
theorem named_of_kindErrors {kinds : List Kind}
    (fine : Registration.kindErrors kinds = []) :
    ∀ kind ∈ kinds, kind.id ≠ "" := by
  induction kinds with
  | nil => simp
  | cons kind rest ih =>
      rw [Registration.kindErrors] at fine
      split at fine
      · rename_i none
        intro other member
        rcases List.mem_cons.mp member with rfl | inRest
        · intro empty
          have errors := (List.append_eq_nil_iff.mp none).1
          rw [Registration.idErrors, if_pos empty] at errors
          cases errors
        · exact ih fine other inRest
      · rename_i errors some
        exact absurd fine some

omit [Collation] in
theorem named_of_valid {parameters : Registration}
    (valid : parameters.validate = none) :
    ∀ kind ∈ parameters.kinds.values, kind.id ≠ "" := by
  rw [Registration.validate] at valid
  split at valid
  · rename_i fine
    exact named_of_kindErrors (List.append_eq_nil_iff.mp fine).2
  · cases valid

section Accepting

variable {library : Library} {claims : Jwt.Fields} {body : Body}
  {clientID : String} {kinds : List Kind}

theorem Accepted.serve (accepted : Accepted library claims body clientID kinds)
    (environment : Environment) (world : World) :
    ∃ description prune,
      let after := ((RegistrationRoute.registration.serve library claims
        body).run (World.handle environment) world).2
      Registered (registeredClient clientID description) kinds prune
          world.database.tables after.database.tables ∨
        after.database = world.database ∧ ¬ Faultless environment := by
  obtain ⟨parameters, parsed, valid, checked⟩ := accepted.valid
  obtain ⟨result, after, ran, outcome⟩ := @run_executeRegistration _ claims _ _
    _ _ parameters.includesKinds accepted.client checked
    (named_of_valid valid) environment world
  refine ⟨parameters.sourceDescription, parameters.includesKinds, ?_⟩
  simp only [RegistrationRoute.serve, authenticated, accepted.authorized,
    registerNotifications, parsed, valid, ran]
  exact outcome.imp And.right And.right

theorem serve_of_not_accepted
    (refused : ∀ clientID kinds,
      ¬ Accepted library claims body clientID kinds)
    (environment : Environment) (world : World) :
    ((RegistrationRoute.registration.serve library claims body).run
      (World.handle environment) world).2 = world := by
  rw [RegistrationRoute.serve, authenticated]
  split
  · rfl
  · rfl
  · rename_i authorized
    rw [registerNotifications]
    split
    · rfl
    · rename_i parameters parsed
      split
      · rfl
      · rename_i valid
        rw [executeRegistration]
        split
        · rfl
        · rename_i clientID client
          simp only
          split
          · rfl
          · rfl
          · rename_i kinds checked
            exact absurd ⟨authorized, client, parameters, parsed, valid,
              checked⟩ (refused clientID kinds)

end Accepting

/-! ## `PUT /notifications` -/

def Iterates : Op → Prop
  | .iterate _ => True
  | _ => False

theorem run_of_iterates {α : Type} {program : Prog α}
    (only : program.Only Iterates) (environment : Environment)
    (world : World) :
    (program.run (World.handle environment) world).2 = world := by
  refine Program.run_of_only _ (fun after => after = world) ?_ only rfl
  rintro state op iterates rfl
  cases op with
  | iterate keys => rfl
  | _ => cases iterates

end Collated

theorem strictNotifications_iterates (notifications : List (String × Json))
    (order : List String) :
    (strictNotifications notifications order).Only Iterates := by
  induction order with
  | nil => exact trivial
  | cons id rest ih =>
      rw [strictNotifications]
      split
      · exact trivial
      · refine Program.only_perform trivial fun order => ?_
        split
        · exact trivial
        · exact ih
      · exact trivial

theorem strictKeys_iterates (members : List (String × Json))
    (order : List String) : (strictKeys members order).Only Iterates := by
  induction order with
  | nil => exact trivial
  | cons key rest ih =>
      rw [strictKeys]
      split
      · exact ih
      · split
        · split
          · exact trivial
          · refine Program.only_perform trivial fun order => ?_
            refine Program.only_bind
              (strictNotifications_iterates _ order.1) ?_
            intro refusal
            cases refusal with
            | some refusal => exact trivial
            | none => exact ih
          · exact trivial
        · exact trivial

theorem newClientRegistration_iterates (library : Library) (body : Body) :
    (newClientRegistration library body).Only Iterates := by
  rw [newClientRegistration]
  split
  · exact trivial
  · refine Program.only_bind ?_ ?_
    · rw [strictValidateJSON]
      split
      · refine Program.only_perform trivial fun order => ?_
        exact strictKeys_iterates _ order.1
      · exact trivial
    · intro refusal
      cases refusal with
      | some refusal => exact trivial
      | none =>
          simp only
          split <;> exact trivial

theorem validate_iterates (parameters : ClientRegistration) :
    parameters.validate.Only Iterates := by
  refine Program.only_perform trivial fun order => ?_
  simp only
  split
  · exact trivial
  · split <;> exact trivial

theorem named_of_errorsOf {notifications : NotificationMap}
    {order : List String}
    (fine : ClientRegistration.errorsOf notifications order = some []) :
    ∀ id ∈ order, ∀ notification,
      notifications.lookup id = some (some notification) →
        notification.id ≠ "" := by
  induction order with
  | nil => simp
  | cons id rest ih =>
      rw [ClientRegistration.errorsOf] at fine
      split at fine
      · rename_i value found
        obtain ⟨later, rest', same⟩ := Option.bind_eq_some_iff.mp fine
        obtain ⟨none, rfl⟩ := List.append_eq_nil_iff.mp (Option.some.inj same)
        intro other member notification stored
        rcases List.mem_cons.mp member with rfl | inRest
        · rw [found] at stored
          cases stored
          intro empty
          have errors := (List.append_eq_nil_iff.mp none).1
          rw [if_pos empty] at errors
          cases errors
        · exact ih rest' other inRest notification stored
      · cases fine

section Collated

variable [Collation]

/-- The body is refused or the map of notifications is valid. -/
theorem named_of_validate {parameters : ClientRegistration}
    {environment : Environment} {world : World}
    (valid : (parameters.validate.run (World.handle environment) world).1 =
      some none) :
    ∀ id ∈ parameters.notifications.keys, ∀ notification,
      parameters.notifications.lookup id = some (some notification) →
        notification.id ≠ "" := by
  rw [ClientRegistration.validate] at valid
  simp only [Program.perform_bind, Program.run_call, World.handle] at valid
  split at valid
  · cases valid
  · rename_i later errors
    split at valid
    · rename_i fine
      obtain ⟨_, rfl⟩ := List.append_eq_nil_iff.mp fine
      intro id member
      exact named_of_errorsOf errors id
        ((environment.order _).2.mem_iff.mpr member)
    · cases valid

omit [Collation] in
theorem generatedKinds_unset {notifications : NotificationMap}
    {order : List String} {kind : Kind}
    (member : kind ∈ generatedKinds notifications order) :
    kind.templateID = "" ∧ ∃ id ∈ order, ∃ notification,
      notifications.lookup id = some (some notification) ∧
        kind.id = notification.id := by
  obtain ⟨id, inOrder, made⟩ := List.mem_filterMap.mp member
  obtain ⟨notification, found, rfl⟩ := Option.map_eq_some_iff.mp made
  exact ⟨rfl, id, inOrder, notification,
    Option.join_eq_some_iff.mp found, rfl⟩

theorem assignedTemplate_of_unset {kinds : List Kind}
    (unset : ∀ kind ∈ kinds, kind.templateID = "") (id : String) :
    assignedTemplate id kinds = none := by
  induction kinds with
  | nil => rfl
  | cons kind rest ih =>
      rw [assignedTemplate,
        ih fun other member => unset other (.tail _ member)]
      simp [unset kind (.head _)]

/-- The second half of a handler, whatever the claims are. -/
theorem executeRegistration_outcome {claims : Jwt.Fields}
    {description : String} {kinds : List Kind} {prune : Bool}
    (named : ∀ kind ∈ kinds, kind.id ≠ "") (environment : Environment)
    (world : World) :
    (((executeRegistration claims description kinds prune).run
        (World.handle environment) world).1 ≠ some none ∧
      ((executeRegistration claims description kinds prune).run
        (World.handle environment) world).2.database = world.database) ∨
      ∃ clientID, clientIDOf claims = some clientID ∧
        ((executeRegistration claims description kinds prune).run
          (World.handle environment) world).1 = some none ∧
        Registered (registeredClient clientID description)
          (kinds.map fun kind => { kind with clientID := clientID }) prune
          world.database.tables
          ((executeRegistration claims description kinds prune).run
            (World.handle environment) world).2.database.tables := by
  cases client : clientIDOf claims with
  | none =>
      rw [executeRegistration, client]
      exact .inl ⟨fun same => (by cases same), rfl⟩
  | some clientID =>
      match valid : validateCriticalScopes claims kinds
          (registeredClient clientID description) with
      | none =>
          rw [executeRegistration, client]
          simp only
          rw [registeredClient] at valid
          rw [valid]
          exact .inl ⟨fun same => (by cases same), rfl⟩
      | some (.error refusal) =>
          rw [executeRegistration, client]
          simp only
          rw [registeredClient] at valid
          rw [valid]
          exact .inl ⟨fun same => (by cases same), rfl⟩
      | some (.ok validated) =>
          obtain ⟨result, after, ran, outcome⟩ := @run_executeRegistration _
            claims _ _ _ _ prune client valid named environment world
          rw [ran]
          rcases outcome with ⟨done, registered⟩ | ⟨failed, unchanged, _⟩
          · have shape : validated =
                kinds.map fun kind => { kind with clientID := clientID } :=
              validateCriticalScopes_ok valid
            exact .inr ⟨clientID, rfl, done, shape ▸ registered⟩
          · exact .inl ⟨failed, unchanged⟩

/-- Kinds that do not name a template do not move to one. -/
theorem executeRegistration_keeps {claims : Jwt.Fields}
    {description : String} {kinds : List Kind} {prune : Bool}
    (named : ∀ kind ∈ kinds, kind.id ≠ "")
    (unset : ∀ kind ∈ kinds, kind.templateID = "")
    (environment : Environment) (world : World) :
    TemplatesKept world.database.tables
      ((executeRegistration claims description kinds prune).run
        (World.handle environment) world).2.database.tables := by
  rcases @executeRegistration_outcome _ claims description kinds prune named
    environment world with ⟨_, unchanged⟩ | ⟨clientID, _, _, registered⟩
  · rw [unchanged]
    exact templatesKept_refl world.database
  · apply templatesKept_of_registered registered rfl
    intro id template assigned
    rw [assignedTemplate_of_unset ?_ id] at assigned
    · cases assigned
    · intro kind member
      obtain ⟨original, listed, rfl⟩ := List.mem_map.mp member
      exact unset original listed

/-- Reading the body changes nothing; what counts is the rest. -/
theorem run_iterates_bind {α β : Type} {program : Prog α}
    {rest : α → Prog β} (environment : Environment) (world : World)
    (only : program.Only Iterates) :
    (program >>= rest).run (World.handle environment) world =
        (none, world) ∨
      ∃ value,
        (program.run (World.handle environment) world).1 = some value ∧
        (program >>= rest).run (World.handle environment) world =
          (rest value).run (World.handle environment) world := by
  have unchanged := run_of_iterates only environment world
  rcases ran : program.run (World.handle environment) world with
    ⟨result, after⟩
  rw [ran] at unchanged
  have same : after = world := unchanged
  subst same
  cases result with
  | none => exact .inl (Program.run_bind_none _ ran)
  | some value => exact .inr ⟨value, rfl, Program.run_bind_of _ ran⟩

/-- `PUT /notifications` changes nothing, or goes on to register the kinds of
a valid body. -/
theorem run_registerClientWithNotifications (library : Library)
    (claims : Jwt.Fields) (body : Body) (environment : Environment)
    (world : World) :
    ((registerClientWithNotifications library claims body).run
        (World.handle environment) world).2 = world ∨
      ∃ parameters : ClientRegistration,
        ((newClientRegistration library body).run (World.handle environment)
          world).1 = some (.ok parameters) ∧
        (parameters.validate.run (World.handle environment) world).1 =
          some none ∧
        (registerClientWithNotifications library claims body).run
            (World.handle environment) world =
          (executeRegistration claims parameters.sourceName
            (generatedKinds parameters.notifications
              (environment.order parameters.notifications.keys).1)
            (!parameters.notifications.keys.isEmpty)).run
              (World.handle environment) world := by
  rw [registerClientWithNotifications]
  rcases run_iterates_bind environment world
      (newClientRegistration_iterates library body) with
    panicked | ⟨parsed, read, onward⟩
  · rw [panicked]
    exact .inl rfl
  · rw [onward]
    cases parsed with
    | error refusal => exact .inl rfl
    | ok parameters =>
        dsimp only
        rcases run_iterates_bind environment world
            (validate_iterates parameters) with
          panicked | ⟨refusal, valid, onward⟩
        · rw [panicked]
          exact .inl rfl
        · rw [onward]
          cases refusal with
          | some refusal => exact .inl rfl
          | none => exact .inr ⟨parameters, read, valid, rfl⟩

theorem generatedKinds_named {parameters : ClientRegistration}
    {environment : Environment} {world : World}
    (valid : (parameters.validate.run (World.handle environment) world).1 =
      some none) :
    ∀ kind ∈ generatedKinds parameters.notifications
      (environment.order parameters.notifications.keys).1, kind.id ≠ "" := by
  intro kind member
  obtain ⟨_, id, inOrder, notification, found, same⟩ :=
    generatedKinds_unset member
  rw [same]
  exact named_of_validate valid id
    ((environment.order _).2.mem_iff.mp inOrder) notification found

theorem notifications_keeps (library : Library) (claims : Jwt.Fields)
    (body : Body) (environment : Environment) (world : World) :
    TemplatesKept world.database.tables
      ((RegistrationRoute.notifications.serve library claims body).run
        (World.handle environment) world).2.database.tables := by
  rw [RegistrationRoute.serve, authenticated]
  split
  · exact templatesKept_refl world.database
  · exact templatesKept_refl world.database
  · rcases run_registerClientWithNotifications library claims body
      environment world with unchanged | ⟨parameters, _, valid, onward⟩
    · rw [unchanged]
      exact templatesKept_refl world.database
    · rw [onward]
      apply executeRegistration_keeps (generatedKinds_named valid)
      intro kind member
      exact (generatedKinds_unset member).1

/-- Registering assigns no template exactly when every template ID in the
accepted kinds is the one that the kind has already, or the default if the kind
is new. -/
theorem registering_assigns_no_template_iff (library : Library)
    (claims : Jwt.Fields) (body : Body) (route : RegistrationRoute)
    (world : World) :
    (∀ environment, TemplatesKept world.database.tables
      ((route.serve library claims body).run (World.handle environment)
        world).2.database.tables) ↔
    (route = .registration → ∀ clientID kinds,
      Accepted library claims body clientID kinds →
        Keeping world.database.tables clientID kinds) := by
  cases route with
  | notifications =>
      constructor
      · intro _ wrong
        cases wrong
      · intro _ environment
        exact notifications_keeps library claims body environment world
  | registration =>
      constructor
      · intro kept _ clientID kinds accepted
        obtain ⟨description, prune, outcome⟩ := accepted.serve .calm world
        rcases outcome with registered | ⟨_, faulty⟩
        · exact keeping_of_templatesKept registered (kept .calm)
        · exact absurd (fun _ => rfl) faulty
      · intro keeping environment
        by_cases accepts : ∃ clientID kinds,
            Accepted library claims body clientID kinds
        · obtain ⟨clientID, kinds, accepted⟩ := accepts
          obtain ⟨description, prune, outcome⟩ :=
            accepted.serve environment world
          rcases outcome with registered | ⟨unchanged, _⟩
          · exact templatesKept_of_registered registered rfl
              (keeping rfl clientID kinds accepted)
          · rw [unchanged]
            exact templatesKept_refl world.database
        · rw [serve_of_not_accepted
            (fun clientID kinds accepted => accepts ⟨clientID, kinds, accepted⟩)]
          exact templatesKept_refl world.database

/-! ## A client that chooses its template -/

/-- A token for registrations, without `notifications.manage`. -/
def writerClaims : Jwt.Fields :=
  [("client_id", .string "client"),
    ("scope", .array [.string "notifications.write"])]

/-- `{"source_description":"S","kinds":[{"id":"kind","description":"K",
"templateid":"missing"}]}`. -/
def assigningBody : Body where
  first := some (.object [("source_description", .string "S"),
    ("kinds", .array [.object [("id", .string "kind"),
      ("description", .string "K"), ("templateid", .string "missing")]])])
  trailing := false

def anyLibrary : Library := ⟨fun _ => none, fun _ => true⟩

/-- One registered kind with the default template. -/
def defaultWorld : World :=
  .start [
    .insert .templates ⟨0, "default", "", "", "", "", "", 0, 0, false⟩,
    .insert .clients ⟨0, "client", "S", 0, "default"⟩,
    .insert .kinds ⟨0, "kind", "K", false, "client", 0, 0, "default"⟩]

end Collated

attribute [local instance] Collation.binary

theorem registration_assigns_template :
    (Authenticator.mk ["notifications.manage"] "").containsATokenScope
      writerClaims = some false ∧
    ((RegistrationRoute.registration.serve anyLibrary writerClaims
      assigningBody).run (World.handle .calm) defaultWorld).1 =
        some none ∧
    ¬ TemplatesKept defaultWorld.database.tables
      ((RegistrationRoute.registration.serve anyLibrary writerClaims
        assigningBody).run (World.handle .calm)
          defaultWorld).2.database.tables := by
  refine ⟨rfl, by decide +kernel, ?_⟩
  intro kept
  have moved := kept.kinds
    ⟨1, "kind", "K", false, "client", 0, 0, "missing"⟩ (by decide +kernel)
  revert moved
  decide +kernel

end Notifications.Web
