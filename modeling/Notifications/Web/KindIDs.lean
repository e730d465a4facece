import Notifications.Models.Holding
import Notifications.Web.Deliverable

/-!
# The format of the stored kind IDs

Eight endpoints write kinds, and three of their validators look at the format of
the IDs.  `ClientRegistration.Validate` wants a key that is not empty, and
`EmailValidator` does not look at `kind_id`, so the registrar stores what these
two let through.
-/

set_option autoImplicit false

namespace Notifications.Web

open Notifications.Lib Notifications.Models Notifications.Services
open Notifications.Postal Notifications.Strategies

/-! ## The validators of the notify endpoints -/

/-- What `formatEmail` leaves of an address without an at sign. -/
def invalidEmail : String := "<>InvalidEmail<>"

def validOrganizationRoles : List String :=
  ["OrgManager", "OrgAuditor", "BillingManager"]

def missingTextOrHTMLFields (parameters : NotifyParams) : Bool :=
  parameters.text == "" && parameters.parsedHTML.bodyContent == ""

def textOrHTMLErrors (parameters : NotifyParams) : List String :=
  if missingTextOrHTMLFields parameters then
    ["\"text\" or \"html\" fields must be supplied"]
  else []

/-- `EmailValidator.Validate`; it returns `true` without errors. -/
def EmailValidator.validate (parameters : NotifyParams) : List String :=
  (if parameters.toAddress = "" then ["\"to\" is a required field"]
  else []) ++
  (if parameters.toAddress = invalidEmail then
    ["\"to\" is improperly formatted"]
  else []) ++
  textOrHTMLErrors parameters

namespace GUIDValidator

def checkKindIDField (parameters : NotifyParams) : List String :=
  if parameters.kindID = "" then ["\"kind_id\" is a required field"]
  else if !kindIDFormat parameters.kindID then
    ["\"kind_id\" is improperly formatted"]
  else []

def invalidRoleField (roleName : String) : Bool :=
  roleName != "" && !validOrganizationRoles.contains roleName

/-- `GUIDValidator.Validate`. -/
def validate (parameters : NotifyParams) : List String :=
  checkKindIDField parameters ++ textOrHTMLErrors parameters ++
  (if invalidRoleField parameters.role then
    ["\"role\" must be \"OrgManager\", \"OrgAuditor\", \"BillingManager\" or unset"]
  else [])

end GUIDValidator

/-- The validator that the endpoint of a strategy gives to `Execute`. -/
def validatorOf : Strategy → NotifyParams → List String
  | .email => EmailValidator.validate
  | _ => GUIDValidator.validate

/-- The first lines of `Notify.Execute`: the result of `NewNotify` and of the
validator. -/
def validated (strategy : Strategy) (parsed : Except Refusal NotifyParams) :
    Except Refusal NotifyParams :=
  match parsed with
  | .error refusal => .error refusal
  | .ok parameters =>
      match validatorOf strategy parameters with
      | [] => .ok parameters
      | errors => .error (.validation errors)

/-! ## Requests that write kinds -/

/-- A notify request comes with what `NewNotify` returns for its body. -/
inductive KindRequest where
  /-- `PUT /registration` -/
  | registration (body : Body)
  /-- `PUT /notifications` -/
  | notifications (body : Body)
  /-- the `POST` endpoints -/
  | notify (strategy : Strategy) (guid : String)
      (parsed : Except Refusal NotifyParams)

def KindRequest.endpoint : KindRequest → Endpoint
  | registration body => .registration body
  | notifications body => .notifications body
  | notify strategy guid parsed =>
      .notify strategy guid (validated strategy parsed)

/-- A request with its token's claims, and what happens to its calls. -/
structure KindSession where
  claims : Jwt.Fields
  request : KindRequest
  environment : Environment

def KindSession.session (arrived : KindSession) : Session :=
  ⟨⟨arrived.claims, arrived.request.endpoint⟩, arrived.environment⟩

section Collated

variable [Collation]

def registering (setup : Setup) : Machine Server KindSession Unit where
  step server arrived := (serial setup).step server arrived.session

/-- What `NewClientRegistration` and `Validate` accept. -/
def validRegistration (library : Library) (environment : Environment)
    (world : World) (body : Body) : Option ClientRegistration :=
  match ((newClientRegistration library body).run
      (World.handle environment) world).1 with
  | some (.ok parameters) =>
      match (parameters.validate.run (World.handle environment) world).1 with
      | some none => some parameters
      | _ => none
  | _ => none

/-- The IDs that a request gets past all checks of the two endpoints that do not
look at their format. -/
def KindRequest.uncheckedIDs (setup : Setup) (environment : Environment)
    (world : World) (claims : Jwt.Fields) (clientID : String) :
    KindRequest → List String
  | .registration _ => []
  | .notifications body =>
      match validRegistration setup.library environment world body with
      | none => []
      | some parameters =>
          match validateCriticalScopes claims
              (generatedKinds parameters.notifications
                (environment.order parameters.notifications.keys).1)
              (registeredClient clientID parameters.sourceName) with
          | some (.ok kinds) => kinds.map Kind.id
          | _ => []
  | .notify .email _ parsed =>
      match validated .email parsed with
      | .error _ => []
      -- the registrar skips a kind without an ID
      | .ok parameters =>
          if parameters.kindID = "" then [] else [parameters.kindID]
  | .notify _ _ _ => []

def KindSession.uncheckedIDs (setup : Setup) (server : Server)
    (arrived : KindSession) : List String :=
  match clientIDOf arrived.claims with
  | none => []
  | some clientID =>
      arrived.request.uncheckedIDs setup arrived.environment server.enter
        arrived.claims clientID

/-- The IDs that no validator looks at are well formed. -/
def Formatted (setup : Setup) (server : Server) (arrived : KindSession) :
    Prop :=
  (Authenticator.mk [arrived.request.endpoint.scope] "").containsATokenScope
      arrived.claims = some true →
    ∀ id ∈ arrived.uncheckedIDs setup server, kindIDFormat id = true

/-- Every row of `kinds` has a well-formed ID. -/
def WellNamed (tables : Tables) : Prop :=
  ∀ kind : Kind, kind ∈ tables.rows .kinds → kindIDFormat kind.id = true

instance (setup : Setup) (server : Server) (arrived : KindSession) :
    Decidable (Formatted setup server arrived) :=
  inferInstanceAs (Decidable (_ → _))

instance (tables : Tables) : Decidable (WellNamed tables) :=
  inferInstanceAs (Decidable (∀ kind ∈ tables.rows .kinds, _))

/-! ## The rows that are written -/

/-- A call that writes no malformed ID into `kinds`. -/
def WritesFormatted : Op → Prop
  | .sql _ (.insert .kinds row) => kindIDFormat row.id = true
  | .sql _ (.update .kinds row) => kindIDFormat row.id = true
  | _ => True

/-- A row of `kinds` was there before, or the statement wrote it. -/
theorem wellNamed_execute {conn : Conn} {statement : Statement}
    {database : Database} (named : WellNamed database.tables)
    (writes : WritesFormatted (.sql conn statement)) :
    WellNamed (database.execute statement).2.tables := by
  by_cases about : statement.table = .kinds
  · intro kind member
    cases statement with
    | select table wanted => exact named kind member
    | selectPreferences userGUID => exact named kind member
    | upsertReceipt receipt => cases about
    | insert table row =>
        cases about
        simp only [Database.execute, Statement.execute] at member
        split at member
        · exact named kind member
        · simp only [Tables.insert, Tables.bump_rows, Tables.set_rows_same]
            at member
          rcases List.mem_append.mp member with old | new
          · exact named kind old
          · rw [List.mem_singleton.mp new]
            exact writes
    | update table row =>
        cases about
        simp only [Database.execute, Statement.execute] at member
        split at member
        · exact named kind member
        · simp only [Tables.update, Tables.set_rows_same] at member
          rcases mem_updateWhere.mp member with ⟨kept, _⟩ | ⟨_, _, _, rfl⟩
          · exact named kind kept
          · exact writes
    | delete table row =>
        cases about
        simp only [Database.execute, Statement.execute, Tables.delete,
          Tables.set_rows_same] at member
        exact named kind (mem_deleteWhere.mp member).1
  · have same := statement.execute_other database.tables (Ne.symm about)
    intro kind member
    exact named kind (same ▸ member)

theorem keeps_of_writes {op : Op} (writes : WritesFormatted op) :
    World.Keeps WellNamed op := by
  cases op with
  | sql conn statement =>
      intro database named
      exact wellNamed_execute named writes
  | _ => exact trivial

/-! ## `PUT /registration` and `PUT /notifications` -/

omit [Collation] in
theorem formatted_of_kindErrors {kinds : List Kind}
    (fine : Registration.kindErrors kinds = []) :
    ∀ kind ∈ kinds, kindIDFormat kind.id = true := by
  induction kinds with
  | nil => simp
  | cons kind rest ih =>
      rw [Registration.kindErrors] at fine
      split at fine
      · rename_i none
        have noID := (List.append_eq_nil_iff.mp none).1
        intro other member
        rcases List.mem_cons.mp member with rfl | later
        · by_cases formatted : kindIDFormat other.id = true
          · exact formatted
          · simp only [Registration.idErrors] at noID
            split at noID
            · cases noID
            · simp [formatted] at noID
        · exact ih fine other later
      · rename_i errors some
        exact absurd fine some

omit [Collation] in
theorem formatted_of_valid {parameters : Registration}
    (valid : parameters.validate = none) :
    ∀ kind ∈ parameters.kinds.values, kindIDFormat kind.id = true := by
  rw [Registration.validate] at valid
  split at valid
  · rename_i fine
    exact formatted_of_kindErrors (List.append_eq_nil_iff.mp fine).2
  · cases valid

section Requests

variable {setup : Setup} {claims : Jwt.Fields} {environment : Environment}
  {world : World}

theorem executeRegistration_formatted {description : String}
    {kinds : List Kind} {prune : Bool}
    (formatted : ∀ clientID validated, clientIDOf claims = some clientID →
      validateCriticalScopes claims kinds
          (registeredClient clientID description) = some (.ok validated) →
        ∀ kind ∈ validated, kindIDFormat kind.id = true) :
    (executeRegistration claims description kinds prune).Only
      WritesFormatted := by
  apply executeRegistration_only trivial trivial trivial
  intro clientID validated own ok
  have copied : ∀ kind ∈ validated, ∀ row, KindsRepo.Copies kind row →
      kindIDFormat row.id = true := by
    intro kind member row copies
    rw [copies.id]
    exact formatted clientID validated own ok kind member
  exact registration_only trivial (fun _ => trivial) copied copied
    (fun _ => trivial) (fun _ => trivial) (fun _ => trivial)
    (fun _ => trivial)

theorem registerNotifications_formatted (body : Body) :
    (registerNotifications setup.library claims body).Only
      WritesFormatted := by
  rw [registerNotifications]
  split
  · exact trivial
  · split
    · exact trivial
    · rename_i valid
      apply executeRegistration_formatted
      intro clientID validated _ ok kind member
      rw [validateCriticalScopes_ok ok] at member
      obtain ⟨original, listed, rfl⟩ := List.mem_map.mp member
      exact formatted_of_valid valid original listed

/-- `PUT /notifications` stores the keys that its checks let through. -/
theorem run_registerClientWithNotifications_holds {body : Body}
    (holds : world.Holds WellNamed)
    (formatted : ∀ parameters, validRegistration setup.library environment
        world body = some parameters →
      ∀ clientID validated, clientIDOf claims = some clientID →
        validateCriticalScopes claims (generatedKinds parameters.notifications
            (environment.order parameters.notifications.keys).1)
            (registeredClient clientID parameters.sourceName) =
              some (.ok validated) →
          ∀ kind ∈ validated, kindIDFormat kind.id = true) :
    ((registerClientWithNotifications setup.library claims body).run
      (World.handle environment) world).2.Holds WellNamed := by
  rcases run_registerClientWithNotifications setup.library claims body
    environment world with unchanged | ⟨parameters, read, valid, onward⟩
  · rw [unchanged]
    exact holds
  · have accepted : validRegistration setup.library environment world body =
        some parameters := by
      simp only [validRegistration, read, valid]
    have only := @executeRegistration_formatted _ claims _ _
      (!parameters.notifications.keys.isEmpty)
      (formatted parameters accepted)
    rw [onward]
    exact World.run_holds (only.weaken fun _ => keeps_of_writes) holds

/-! ## The notify endpoints -/

omit [Collation] in
theorem formatted_of_guidValidator {parameters : NotifyParams}
    (valid : GUIDValidator.validate parameters = []) :
    kindIDFormat parameters.kindID = true := by
  have noKindID := (List.append_eq_nil_iff.mp
    (List.append_eq_nil_iff.mp valid).1).1
  by_cases formatted : kindIDFormat parameters.kindID = true
  · exact formatted
  · simp only [GUIDValidator.checkKindIDField] at noKindID
    split at noKindID
    · cases noKindID
    · simp [formatted] at noKindID

omit [Collation] in
theorem validated_ok {strategy : Strategy}
    {parsed : Except Refusal NotifyParams} {parameters : NotifyParams}
    (ok : validated strategy parsed = .ok parameters) :
    validatorOf strategy parameters = [] := by
  unfold validated at ok
  split at ok
  · cases ok
  · split at ok
    · cases ok
      assumption
    · cases ok

/-- The registrar writes no kind without an ID, so an ID that is not empty is
all that counts. -/
theorem register_formatted {client : Client} {kind : Kind}
    (formatted : kind.id ≠ "" → kindIDFormat kind.id = true) :
    (Registrar.register .connection client [kind]).Only WritesFormatted := by
  have named : Registrar.register .connection client [kind] =
      Registrar.register .connection client
        ([kind].filter fun kind => kind.id ≠ "") := by
    simp only [Registrar.register, ← registerKinds_named]
  have copied : ∀ other ∈ [kind].filter fun kind => kind.id ≠ "", ∀ row,
      KindsRepo.Copies other row → kindIDFormat row.id = true := by
    intro other member row copies
    obtain ⟨listed, nonempty⟩ := List.mem_filter.mp member
    rw [copies.id]
    rw [List.mem_singleton.mp listed] at nonempty ⊢
    exact formatted (by simpa using nonempty)
  rw [named]
  exact register_only trivial (fun _ => trivial) copied copied
    (fun _ => trivial) (fun _ => trivial) (fun _ => trivial)

omit [Collation] in
theorem writesFormatted_of_messaging {op : Op} (messaging : Messaging op) :
    WritesFormatted op := by
  cases op with
  | sql conn statement =>
      cases statement with
      | insert table row =>
          cases messaging
          exact trivial
      | update table row =>
          cases messaging
          exact trivial
      | _ => exact trivial
  | _ => exact trivial

theorem registerAndDispatch_formatted {strategy : Strategy} {guid : String}
    {parameters : NotifyParams} {client : Client} {kind : Kind}
    {clientID : String}
    (formatted : kind.id ≠ "" → kindIDFormat kind.id = true) :
    (registerAndDispatch setup.marshal strategy guid parameters client kind
      clientID).Only WritesFormatted := by
  apply Program.only_bind (register_formatted formatted)
  intro err
  cases err with
  | some error => exact trivial
  | none =>
      apply Program.only_bind ((dispatch_messaging setup.marshal clientID guid
        _ strategy).weaken fun _ => writesFormatted_of_messaging)
      intro result
      cases result <;> exact trivial

/-- A notify request stores the ID that it names, or the kind it finds under
that ID. -/
theorem run_notify_holds {strategy : Strategy} {guid : String}
    {parsed : Except Refusal NotifyParams} (holds : world.Holds WellNamed)
    (formatted : ∀ clientID parameters, clientIDOf claims = some clientID →
      parsed = .ok parameters → parameters.kindID ≠ "" →
        kindIDFormat parameters.kindID = true) :
    ((notify setup.marshal claims strategy guid parsed).run
      (World.handle environment) world).2.Holds WellNamed := by
  unfold Web.notify
  split
  · exact holds
  · rename_i parameters
    split
    · exact holds
    · rename_i clientID own
      obtain ⟨found, _, count, ran, rfl, both, _⟩ :=
        @clientAndKind_achieves _ environment world.database clientID
          parameters.kindID world rfl
      have kept : (world.advance .connection world.database
          count).Holds WellNamed := ⟨holds.database, holds.transaction⟩
      rw [Program.run_bind_of _ ran]
      cases found with
      | error error => exact kept
      | ok found =>
          obtain ⟨client, kind⟩ := found
          have known : kind.id ≠ "" → kindIDFormat kind.id = true := by
            rcases (both client kind rfl).2 with stored | ⟨_, rfl⟩
            · exact fun _ =>
                holds.database kind (Tables.lookup_eq_some stored).1
            · exact formatted clientID parameters own rfl
          simp only
          split
          · exact kept
          · exact kept
          · exact World.run_holds ((registerAndDispatch_formatted
              known).weaken fun _ => keeps_of_writes) kept

theorem handler_holds {server : Server} {arrived : KindSession}
    (named : WellNamed server.database.tables)
    (formatted : ∀ id ∈ arrived.uncheckedIDs setup server,
      kindIDFormat id = true) :
    ((arrived.session.request.handler setup).run
      (World.handle arrived.environment) server.enter).2.Holds
        WellNamed := by
  have entered : server.enter.Holds WellNamed := ⟨named, nofun⟩
  obtain ⟨claims, request, environment⟩ := arrived
  cases request with
  | registration body =>
      exact World.run_holds ((registerNotifications_formatted
        body).weaken fun _ => keeps_of_writes) entered
  | notifications body =>
      apply run_registerClientWithNotifications_holds entered
      intro parameters valid clientID validated own ok kind member
      dsimp only [KindSession.session] at own ok
      simp only [KindSession.uncheckedIDs, own, KindRequest.uncheckedIDs,
        valid, ok] at formatted
      exact formatted kind.id (List.mem_map_of_mem member)
  | notify strategy guid parsed =>
      apply run_notify_holds entered
      intro clientID parameters own ok nonempty
      dsimp only [KindSession.session] at own
      have valid := validated_ok ok
      cases strategy with
      | email =>
          simp only [KindSession.uncheckedIDs, own, KindRequest.uncheckedIDs,
            ok, if_neg nonempty] at formatted
          exact formatted parameters.kindID (.head _)
      | _ => exact formatted_of_guidValidator valid

theorem step_wellNamed {server next : Server} {arrived : KindSession}
    {shown : List Unit} (named : WellNamed server.database.tables)
    (formatted : Formatted setup server arrived)
    (stepped : (registering setup).step server arrived =
      some (next, shown)) :
    WellNamed next.database.tables := by
  cases stepped
  simp only [leave, Request.serve, authenticated]
  split
  · exact named
  · exact named
  · rename_i passed
    exact (handler_holds named (formatted passed)).database

end Requests

/-- A run keeps the format when the requests see to the IDs that no validator
looks at. -/
theorem stored_kind_ids_formatted (setup : Setup) (server : Server)
    (named : WellNamed server.database.tables)
    (arrivals : List KindSession)
    (guarded : (registering setup).Guarded (Formatted setup) arrivals
      server) :
    (registering setup).Throughout
      (fun server => WellNamed server.database.tables) arrivals server :=
  (registering setup).throughout_of_guarded
    (fun _ _ _ _ named formatted stepped =>
      step_wellNamed named formatted stepped) named guarded

/-- `{"source_name":"S","notifications":{ID:{"description":"K"}}}`. -/
def notificationBody (id : String) : Body where
  first := some (.object [("source_name", .string "S"),
    ("notifications", .object [(id, .object
      [("description", .string "K")])])])
  trailing := false

/-- A body of `POST /emails`, as `NewNotify` returns it. -/
def emailParams (kindID : String) : NotifyParams :=
  ⟨"", "Subject", "text", ⟨"", "", "", ""⟩, kindID, "me@example.com", ""⟩

def emailClaims : Jwt.Fields :=
  [("client_id", .string "client"),
    ("scope", .array [.string "emails.write"])]

def formattedArrivals : List KindSession :=
  [ ⟨writerClaims, .notifications (notificationBody "good.id"), .calm⟩,
    ⟨writerClaims, .notify .user "user" (.ok (emailParams "other-id")),
      .calm⟩,
    ⟨emailClaims, .notify .email "" (.ok (emailParams "")), .calm⟩ ]

end Collated

attribute [local instance] Collation.binary

theorem stored_kind_ids_formatted_sample :
    WellNamed emptyServer.database.tables ∧
    (registering plainSetup).Throughout
      (fun server => WellNamed server.database.tables) formattedArrivals
        emptyServer :=
  ⟨by decide, stored_kind_ids_formatted plainSetup emptyServer (by decide)
    formattedArrivals (by decide +kernel)⟩

theorem malformed_kind_ids_stored :
    WellNamed emptyServer.database.tables ∧
    ∀ arrived ∈ [(⟨writerClaims, .notifications (notificationBody "bad id"),
        .calm⟩ : KindSession),
      ⟨emailClaims, .notify .email "" (.ok (emailParams "bad id")), .calm⟩],
      ∃ final trace,
        (registering plainSetup).run [arrived] emptyServer =
          some (final, trace) ∧
        (final.database.tables.rows .kinds).map Kind.id = ["bad id"] ∧
        ¬ WellNamed final.database.tables := by
  have stored : ∀ arrived ∈ [(⟨writerClaims,
      .notifications (notificationBody "bad id"), .calm⟩ : KindSession),
      ⟨emailClaims, .notify .email "" (.ok (emailParams "bad id")), .calm⟩],
      ((registering plainSetup).run [arrived] emptyServer).any fun after =>
        decide ((after.1.database.tables.rows .kinds).map Kind.id =
            ["bad id"] ∧ ¬ WellNamed after.1.database.tables) := by
    decide +kernel
  refine ⟨by decide, ?_⟩
  intro arrived member
  obtain ⟨⟨final, trace⟩, ran, stored⟩ :=
    (Option.any_eq_true _ _).mp (stored arrived member)
  exact ⟨final, trace, ran, of_decide_eq_true stored⟩

end Notifications.Web
