import Notifications.Postal.Utilities
import Notifications.Web.Notifying

/-!
# Failures of the Cloud Controller and of UAA

What becomes of a failure of one of the two clients during a notify request.
The error writer has a case for the translated errors, and panics for those
that are passed on: the failures that the finders of users meet.  A failure of
`cf.CloudController` never has the code 404, so that a space or an organization
that is not found is answered like a Cloud Controller that is down.
-/

set_option autoImplicit false

namespace Notifications.Web

open Notifications.Lib Notifications.Models Notifications.Services
open Notifications.Postal Notifications.Strategies

/-! ## The error writer -/

/-- The status code and the texts in the body of an answer. -/
structure Written where
  code : Nat
  errors : List String
  deriving DecidableEq, Repr

/-- `ErrorWriter.Write`; `none` is the panic of its default branch.  The 403 is
written by the authenticator itself. -/
def ErrorWriter.write : Refusal → Option Written
  | .scopes text => some ⟨422, [text]⟩
  | .templateCreate =>
      some ⟨500, ["Failed to create Template in the database"]⟩
  | .parse => some ⟨400, ["Request body could not be parsed"]⟩
  | .validation texts => some ⟨422, texts⟩
  | .schema text => some ⟨400, [text]⟩
  | .unauthorized => some ⟨403,
      ["You are not authorized to perform the requested action"]⟩
  | .decoder => none
  | .failed error =>
      match error with
      | .ccDown _ => some ⟨502, [error.text]⟩
      | .ccNotFound _ => some ⟨404, [error.text]⟩
      | .uaaDown _ => some ⟨502, [error.text]⟩
      | .uaaGeneric _ => some ⟨502, [error.text]⟩
      | .templateFind _ => some ⟨404, [error.text]⟩
      | .templateUpdate _ => some ⟨500, [error.text]⟩
      | .criticalNotification _ => some ⟨422, [error.text]⟩
      | .duplicateRecord => some ⟨409, [error.text]⟩
      | .recordNotFound _ _ => some ⟨404, [error.text]⟩
      | .defaultScope => some ⟨406, [error.text]⟩
      | .templateAssignment _ => some ⟨422, [error.text]⟩
      | _ => none

/-- The status code that a handler answers with: `ServeHTTP` gives an error to
the error writer.  `none` is a panic. -/
def statusCode : Option (Option Refusal) → Option Nat
  | none => none
  | some none => some 200
  | some (some refusal) => (ErrorWriter.write refusal).map Written.code

/-! ## Failures -/

inductive Failure where
  | cloudController (error : RainmakerError)
  | uaa (failure : UAAFailure)
  deriving DecidableEq, Repr

def Failure.status : Failure → Nat
  | cloudController (.notFound _) => 404
  | _ => 502

def failureOf {ε α : Type} (failure : ε → Failure) :
    Except ε α → Option Failure
  | .error error => some (failure error)
  | .ok _ => none

/-- The list of users that is looked up for a role. -/
def usersOfRole (client : Rainmaker) (orgGUID role token : String) :
    Except RainmakerError UsersList :=
  if role = "OrgManager" then client.listManagers orgGUID token
  else if role = "OrgAuditor" then client.listAuditors orgGUID token
  else if role = "BillingManager" then
    client.listBillingManagers orgGUID token
  else client.listUsers orgGUID token

/-- The failure of the client that a call meets, if any. -/
def failureAt (clients : Clients) : Service → Option Failure
  | .loadToken =>
      match clients.cachedToken with
      | some _ => none
      | none => failureOf .uaa clients.uaa.getClientToken
  | .userGUIDsBelongingToSpace spaceGUID token =>
      failureOf .cloudController
        ((clients.cloudController.listSpaceUsers spaceGUID token).bind
          UsersList.allUsers)
  | .userGUIDsBelongingToOrganization orgGUID role token =>
      failureOf .cloudController
        ((usersOfRole clients.cloudController orgGUID role token).bind
          UsersList.allUsers)
  | .userGUIDsBelongingToScope scope =>
      failureOf .uaa (clients.uaa.usersGUIDsByScope scope)
  | .allUserGUIDs => failureOf .uaa clients.uaa.allUsers
  | .loadSpace spaceGUID token =>
      failureOf .cloudController
        (clients.cloudController.getSpace spaceGUID token)
  | .loadOrganization organizationGUID token =>
      failureOf .cloudController
        (clients.cloudController.getOrganization organizationGUID token)
  | _ => none

def failureIn (clients : Clients) : Op → Option Failure
  | .service service => failureAt clients service
  | _ => none

/-- A notify request, run alone with these clients: every failure that one of
its calls meets is answered with its documented status. -/
def Documented [Collation] (clients : Clients) (marshal : Delivery → String)
    (claims : Jwt.Fields) (strategy : Strategy) (guid : String)
    (parsed : Except Refusal NotifyParams) (environment : Environment)
    (world : World) : Prop :=
  let request := notify marshal claims strategy guid parsed
  let handle := World.handle (environment.withClients clients)
  ∀ call ∈ request.trace handle world, ∀ failure,
    failureIn clients call.2 = some failure →
      statusCode (request.run handle world).1 = some failure.status

/-! ## When they are -/

def failing (clients : Clients) (service : Service) :
    Option (Service × Failure) :=
  (failureAt clients service).map fun failure => (service, failure)

def loadedToken (clients : Clients) : String :=
  match TokenLoader.load clients.uaa clients.cachedToken with
  | .error _ => ""
  | .ok token => token

/-- The organization of the space that is loaded. -/
def organizationOf (clients : Clients) (spaceGUID token : String) : String :=
  match clients.cloudController.getSpace spaceGUID token with
  | .error _ => ""
  | .ok space => space.organizationGUID

/-- The first call of an endpoint, in the order of the calls, that meets a
failure. -/
def firstFailing (clients : Clients) (guid role : String) :
    Strategy → Option (Service × Failure)
  | .user => none
  | .email => none
  | .space =>
      let token := loadedToken clients
      (failing clients .loadToken).or
        ((failing clients (.userGUIDsBelongingToSpace guid token)).or
          ((failing clients (.loadSpace guid token)).or
            (failing clients (.loadOrganization
              (organizationOf clients guid token) token))))
  | .organization =>
      let token := loadedToken clients
      (failing clients .loadToken).or
        ((failing clients (.loadOrganization guid token)).or
          (failing clients
            (.userGUIDsBelongingToOrganization guid role token)))
  | .everyone =>
      (failing clients .loadToken).or (failing clients .allUserGUIDs)
  | .uaaScope =>
      if Strategy.defaultScopes.contains guid then none
      else
        (failing clients .loadToken).or
          (failing clients (.userGUIDsBelongingToScope guid))

/-- A failure of the token loader, or of a loader of spaces or organizations
that is not told that there is none. -/
def Translated : Service × Failure → Prop
  | (.loadToken, _) => True
  | (.loadSpace _ _, failure) => failure.status ≠ 404
  | (.loadOrganization _ _, failure) => failure.status ≠ 404
  | _ => False

/-! ## One call -/

/-- The answer to this error is the documented one exactly if the failure is
translated. -/
def Fitting (error : Error) (entry : Service × Failure) : Prop :=
  statusCode (some (some (.failed error))) = some entry.2.status ↔
    Translated entry

section Calls

variable {clients : Clients} {failure : Failure}

theorem failureOf_error {ε α : Type} {wrap : ε → Failure}
    {answer : Except ε α} (met : failureOf wrap answer = some failure) :
    ∃ error, answer = .error error ∧ failure = wrap error := by
  cases answer with
  | error error => exact ⟨error, rfl, (Option.some.inj met).symm⟩
  | ok value => cases met

theorem failureOf_ok {ε α : Type} {wrap : ε → Failure}
    {answer : Except ε α} (fine : failureOf wrap answer = none) :
    ∃ value, answer = .ok value := by
  cases answer with
  | error error => cases fine
  | ok value => exact ⟨value, rfl⟩

theorem write_uaaErrorFor (failure : UAAFailure) :
    statusCode (some (some (.failed (uaaErrorFor failure)))) = some 502 := by
  cases failure with
  | url text => rfl
  | other text => rfl
  | failure code message =>
      rw [uaaErrorFor]
      split
      · split <;> rfl
      · rfl

theorem loadToken_error (met : failureAt clients .loadToken = some failure) :
    ∃ error, TokenLoader.load clients.uaa clients.cachedToken =
      .error error ∧ Fitting error (.loadToken, failure) := by
  rw [failureAt] at met
  cases cached : clients.cachedToken with
  | some access =>
      rw [cached] at met
      cases met
  | none =>
      rw [cached] at met
      obtain ⟨reason, failed, rfl⟩ := failureOf_error met
      refine ⟨uaaErrorFor reason, ?_, ?_⟩
      · rw [TokenLoader.load, failed]
        rfl
      · exact iff_of_true (write_uaaErrorFor reason) trivial

theorem loadToken_ok (fine : failureAt clients .loadToken = none) :
    TokenLoader.load clients.uaa clients.cachedToken =
      .ok (loadedToken clients) := by
  have loads : ∃ token, TokenLoader.load clients.uaa clients.cachedToken =
      .ok token := by
    rw [failureAt] at fine
    cases cached : clients.cachedToken with
    | some access => exact ⟨access, rfl⟩
    | none =>
        rw [cached] at fine
        obtain ⟨token, answered⟩ := failureOf_ok fine
        rw [TokenLoader.load, answered]
        exact ⟨token, rfl⟩
  obtain ⟨token, loaded⟩ := loads
  rw [loadedToken, loaded]

/-- A failure of the Cloud Controller, translated: its code is never 404. -/
theorem fitting_ccErrorFor {service : Service} (error : RainmakerError)
    (loader : Translated (service, .cloudController error) ↔
      (Failure.cloudController error).status ≠ 404) :
    Fitting (ccErrorFor (CloudController.newFailure error))
      (service, .cloudController error) := by
  rw [Fitting, loader]
  cases error with
  | notFound message => exact iff_of_false nofun (fun wrong => wrong rfl)
  | _ => exact iff_of_true rfl nofun

theorem fitting_unwritten {error : Error} {entry : Service × Failure}
    (unwritten : ErrorWriter.write (.failed error) = none)
    (finder : ¬ Translated entry) : Fitting error entry := by
  refine iff_of_false ?_ finder
  rw [statusCode, unwritten]
  simp

/-- The finders of users pass a failure of the Cloud Controller on. -/
theorem users_error {service : Service}
    {list : Except RainmakerError UsersList}
    (met : failureOf .cloudController (list.bind UsersList.allUsers) =
      some failure) (finder : ¬ Translated (service, failure)) :
    ∃ error, CloudController.users list = .error error ∧
      Fitting error (service, failure) := by
  obtain ⟨reason, failed, rfl⟩ := failureOf_error met
  refine ⟨CloudController.newFailure reason, ?_,
    fitting_unwritten rfl finder⟩
  rw [CloudController.users, failed]
  rfl

theorem users_ok {list : Except RainmakerError UsersList}
    (fine : failureOf .cloudController (list.bind UsersList.allUsers) =
      none) : ∃ guids, CloudController.users list = .ok guids := by
  obtain ⟨guids, answered⟩ := failureOf_ok fine
  rw [CloudController.users, answered]
  exact ⟨guids, rfl⟩

theorem userGUIDsBelongingToOrganization_eq (client : Rainmaker)
    (orgGUID role token : String) :
    FindsUserGUIDs.userGUIDsBelongingToOrganization client orgGUID role
        token =
      CloudController.users (usersOfRole client orgGUID role token) := by
  rw [FindsUserGUIDs.userGUIDsBelongingToOrganization, usersOfRole]
  split
  · rfl
  · split
    · rfl
    · split <;> rfl

theorem loadOrganization_error {guid token : String}
    (met : failureAt clients (.loadOrganization guid token) =
      some failure) :
    ∃ error, OrganizationLoader.load clients.cloudController guid token =
      .error error ∧ Fitting error (.loadOrganization guid token, failure) := by
  obtain ⟨reason, failed, rfl⟩ := failureOf_error met
  refine ⟨ccErrorFor (CloudController.newFailure reason), ?_,
    fitting_ccErrorFor reason Iff.rfl⟩
  rw [OrganizationLoader.load, CloudController.loadOrganization, failed]
  rfl

theorem loadOrganization_ok {guid token : String}
    (fine : failureAt clients (.loadOrganization guid token) = none) :
    ∃ organization, OrganizationLoader.load clients.cloudController guid
      token = .ok organization := by
  obtain ⟨organization, answered⟩ := failureOf_ok fine
  rw [OrganizationLoader.load, CloudController.loadOrganization, answered]
  exact ⟨organization, rfl⟩

theorem loadSpace_error {guid token : String}
    (met : failureAt clients (.loadSpace guid token) = some failure) :
    ∃ error, SpaceLoader.load clients.cloudController guid token =
      .error error ∧ Fitting error (.loadSpace guid token, failure) := by
  obtain ⟨reason, failed, rfl⟩ := failureOf_error met
  refine ⟨ccErrorFor (CloudController.newFailure reason), ?_,
    fitting_ccErrorFor reason Iff.rfl⟩
  rw [SpaceLoader.load, CloudController.loadSpace, failed]
  rfl

theorem loadSpace_ok {guid token : String}
    (fine : failureAt clients (.loadSpace guid token) = none) :
    ∃ space, SpaceLoader.load clients.cloudController guid token =
      .ok space ∧ space.organizationGUID =
        organizationOf clients guid token := by
  obtain ⟨space, answered⟩ := failureOf_ok fine
  refine ⟨space, ?_, ?_⟩
  · rw [SpaceLoader.load, CloudController.loadSpace, answered]
    rfl
  · rw [organizationOf, answered]

end Calls

/-! ## Dispatching -/

section Collated

variable [Collation]

/-- The failures that a run meets are the expected one, and it ends the run
with an error. -/
structure Ends (clients : Clients) (environment : Environment)
    (program : Prog (Except Error (List Response))) (world : World)
    (expected : Option (Service × Failure)) : Prop where
  met : ∀ failure,
    (∃ call ∈ program.trace
        (World.handle (environment.withClients clients)) world,
      failureIn clients call.2 = some failure) ↔
        expected.map Prod.snd = some failure
  answered : ∀ entry ∈ expected, ∃ error,
    (program.run (World.handle (environment.withClients clients)) world).1 =
      some (.error error) ∧ Fitting error entry

section Dispatching

variable {clients : Clients} {environment : Environment} {world : World}
  {marshal : Delivery → String}

theorem ends_of_only {program : Prog (Except Error (List Response))}
    (only : program.Only fun op => failureIn clients op = none) :
    Ends clients environment program world none := by
  constructor
  · intro failure
    constructor
    · intro found
      obtain ⟨call, member, met⟩ := found
      rw [Program.trace_of_only _ only world call member] at met
      cases met
    · intro wrong
      cases wrong
  · intro entry member
    cases member

omit [Collation] in
theorem failureIn_mailing {op : Op} (mailing : Mailing op) :
    failureIn clients op = none := by
  cases op with
  | service service =>
      cases service with
      | newGUID => rfl
      | _ => exact mailing.elim
  | _ => rfl

theorem ends_deliver (request : Strategies.Request)
    (users : List Recipient) :
    Ends clients environment (Strategy.deliver marshal request users) world
      none :=
  ends_of_only ((deliver_mailing marshal request users).weaken
    fun _ => failureIn_mailing)

theorem ends_service {service : Service}
    {rest : service.Reply → Prog (Except Error (List Response))}
    {expected : Option (Service × Failure)}
    (here : ∀ failure, failureAt clients service = some failure →
      ∀ other, ∃ error, rest (clients.serve service other) =
        pure (.error error) ∧ Fitting error (service, failure))
    (next : failureAt clients service = none → ∀ other after,
      Ends clients environment (rest (clients.serve service other)) after
        expected) :
    Ends clients environment
      (Program.perform (Op.service service) >>= rest) world
      ((failing clients service).or expected) := by
  rw [failing]
  cases met : failureAt clients service with
  | some failure =>
      obtain ⟨error, returns, fitting⟩ := here failure met
        (environment.serve world.services service)
      constructor
      · intro other
        simp only [Program.perform_bind, Program.trace, World.handle,
          Environment.withClients, returns]
        simp [failureIn, met, Program.trace]
      · intro entry member
        cases Option.some.inj member
        refine ⟨error, ?_, fitting⟩
        simp only [Program.perform_bind, Program.run_call, World.handle,
          Environment.withClients, returns]
        rfl
  | none =>
      have later := next met (environment.serve world.services service)
        { world with services := world.services + 1 }
      refine ⟨?_, later.answered⟩
      intro failure
      rw [Option.map_none, Option.none_or, ← later.met failure]
      simp only [Program.perform_bind, Program.trace, World.handle,
        List.mem_cons, exists_eq_or_imp]
      simp [failureIn, met, Environment.withClients]

theorem ends_loadToken
    {rest : Except Error String → Prog (Except Error (List Response))}
    {expected : Option (Service × Failure)}
    (failed : ∀ error, rest (.error error) = pure (.error error))
    (next : ∀ after, Ends clients environment
      (rest (.ok (loadedToken clients))) after expected) :
    Ends clients environment
      (Program.perform (Op.service .loadToken) >>= rest) world
      ((failing clients .loadToken).or expected) := by
  refine ends_service ?_ ?_
  · intro failure met other
    obtain ⟨error, loads, fitting⟩ := loadToken_error met
    refine ⟨error, ?_, fitting⟩
    rw [Clients.serve, loads]
    exact failed error
  · intro fine other after
    rw [Clients.serve, loadToken_ok fine]
    exact next after

theorem ends_loadOrganization {guid token : String}
    {rest : Except Error (String × String) →
      Prog (Except Error (List Response))}
    {expected : Option (Service × Failure)}
    (failed : ∀ error, rest (.error error) = pure (.error error))
    (next : ∀ organization after,
      Ends clients environment (rest (.ok organization)) after expected) :
    Ends clients environment
      (Program.perform (Op.service (.loadOrganization guid token)) >>= rest)
      world
      ((failing clients (.loadOrganization guid token)).or expected) := by
  refine ends_service ?_ ?_
  · intro failure met other
    obtain ⟨error, loads, fitting⟩ := loadOrganization_error met
    refine ⟨error, ?_, fitting⟩
    rw [Clients.serve, loads]
    exact failed error
  · intro fine other after
    obtain ⟨organization, loads⟩ := loadOrganization_ok fine
    rw [Clients.serve, loads]
    exact next _ after

theorem ends_dispatchSpace (clientID guid : String) (options : Options) :
    Ends clients environment
      (Strategy.dispatchSpace marshal clientID guid options) world
      (firstFailing clients guid options.role .space) := by
  refine ends_loadToken (fun _ => rfl) fun after => ends_service ?_ ?_
  · intro failure met other
    obtain ⟨error, found, fitting⟩ := @users_error _
      (.userGUIDsBelongingToSpace guid _) _ met id
    refine ⟨error, ?_, fitting⟩
    rw [Clients.serve, FindsUserGUIDs.userGUIDsBelongingToSpace,
      CloudController.getUsersBySpaceGuid, found]
  intro fine other after
  obtain ⟨guids, found⟩ := users_ok fine
  rw [Clients.serve, FindsUserGUIDs.userGUIDsBelongingToSpace,
    CloudController.getUsersBySpaceGuid, found]
  refine ends_service ?_ ?_
  · intro failure met other
    obtain ⟨error, loads, fitting⟩ := loadSpace_error met
    refine ⟨error, ?_, fitting⟩
    rw [Clients.serve, loads]
    rfl
  intro fine other after
  obtain ⟨space, loads, organization⟩ := loadSpace_ok fine
  rw [Clients.serve, loads, ← organization,
    ← @Option.or_none _ (failing clients _)]
  exact ends_loadOrganization (fun _ => rfl) fun _ _ => ends_deliver _ _

theorem ends_dispatchOrganization (clientID guid : String)
    (options : Options) :
    Ends clients environment
      (Strategy.dispatchOrganization marshal clientID guid options) world
      (firstFailing clients guid options.role .organization) := by
  refine ends_loadToken (fun _ => rfl) fun after => ?_
  refine ends_loadOrganization (fun _ => rfl) fun organization after => ?_
  rw [← @Option.or_none _ (failing clients _)]
  refine ends_service ?_ ?_
  · intro failure met other
    obtain ⟨error, found, fitting⟩ := @users_error _
      (.userGUIDsBelongingToOrganization guid options.role _) _ met id
    refine ⟨error, ?_, fitting⟩
    rw [Clients.serve, userGUIDsBelongingToOrganization_eq, found]
  · intro fine other after
    obtain ⟨guids, found⟩ := users_ok fine
    rw [Clients.serve, userGUIDsBelongingToOrganization_eq, found]
    exact ends_deliver _ _

theorem ends_dispatchEveryone (clientID guid : String) (options : Options) :
    Ends clients environment
      (Strategy.dispatchEveryone marshal clientID options) world
      (firstFailing clients guid options.role .everyone) := by
  refine ends_loadToken (fun _ => rfl) fun after => ?_
  rw [← @Option.or_none _ (failing clients _)]
  refine ends_service ?_ ?_
  · intro failure met other
    obtain ⟨reason, failed, rfl⟩ := failureOf_error met
    refine ⟨.uaa reason, ?_, fitting_unwritten rfl id⟩
    rw [Clients.serve, AllUsers.allUserGUIDs, failed]
    rfl
  · intro fine other after
    obtain ⟨users, answered⟩ := failureOf_ok fine
    rw [Clients.serve, AllUsers.allUserGUIDs, answered]
    exact ends_deliver _ _

theorem ends_dispatchUAAScope (clientID scope : String)
    (options : Options) :
    Ends clients environment
      (Strategy.dispatchUAAScope marshal clientID scope options) world
      (firstFailing clients scope options.role .uaaScope) := by
  rw [Strategy.dispatchUAAScope, firstFailing]
  split
  · exact ends_of_only trivial
  · refine ends_loadToken (fun _ => rfl) fun after => ?_
    rw [← @Option.or_none _ (failing clients _)]
    refine ends_service ?_ ?_
    · intro failure met other
      obtain ⟨reason, failed, rfl⟩ := failureOf_error met
      refine ⟨.uaa reason, ?_, fitting_unwritten rfl id⟩
      rw [Clients.serve, FindsUserGUIDs.userGUIDsBelongingToScope, failed]
      rfl
    · intro fine other after
      obtain ⟨guids, answered⟩ := failureOf_ok fine
      rw [Clients.serve, FindsUserGUIDs.userGUIDsBelongingToScope, answered]
      exact ends_deliver _ _

theorem ends_dispatch (clientID guid : String) (options : Options)
    (strategy : Strategy) :
    Ends clients environment
      (strategy.dispatch marshal clientID guid options) world
      (firstFailing clients guid options.role strategy) := by
  cases strategy with
  | user => exact ends_deliver _ _
  | email => exact ends_deliver _ _
  | space => exact ends_dispatchSpace clientID guid options
  | organization => exact ends_dispatchOrganization clientID guid options
  | everyone => exact ends_dispatchEveryone clientID guid options
  | uaaScope => exact ends_dispatchUAAScope clientID guid options

end Dispatching

/-! ## Notifying -/

def refusalOf : Except Error (List Response) → Option Refusal
  | .error error => some (.failed error)
  | .ok _ => none

def Quiet (clients : Clients) (calls : List (World × Op)) : Prop :=
  ∀ call ∈ calls, failureIn clients call.2 = none

/-- The token names a client, the kind is new and no statement fails. -/
structure Unhindered (claims : Jwt.Fields) (kindID : String)
    (environment : Environment) (world : World) : Prop where
  client : ∃ clientID, clientIDOf claims = some clientID ∧
    world.database.tables.lookup .kinds
      (Collation.key [kindID, clientID]) = none
  faultless : Faultless environment

/-- The request calls the strategy, and no call before that meets a failure. -/
structure Dispatches (clients : Clients) (marshal : Delivery → String)
    (strategy : Strategy) (guid role : String) (environment : Environment)
    (program : Prog (Option Refusal)) (world : World) : Prop where
  reached : ∃ clientID options after earlier, options.role = role ∧
    Quiet clients earlier ∧
    program.trace (World.handle (environment.withClients clients)) world =
      earlier ++ (strategy.dispatch marshal clientID guid options).trace
        (World.handle (environment.withClients clients)) after ∧
    (program.run (World.handle (environment.withClients clients)) world).1 =
      ((strategy.dispatch marshal clientID guid options).run
        (World.handle (environment.withClients clients)) after).1.map
          refusalOf

section Notify

variable {clients : Clients} {environment : Environment} {world : World}
  {marshal : Delivery → String} {claims : Jwt.Fields} {strategy : Strategy}
  {guid : String} {parameters : NotifyParams}

theorem quiet_nil : Quiet clients [] := by
  intro call member
  cases member

theorem Quiet.append {earlier later : List (World × Op)}
    (first : Quiet clients earlier) (second : Quiet clients later) :
    Quiet clients (earlier ++ later) := by
  intro call member
  rcases List.mem_append.mp member with early | late
  · exact first call early
  · exact second call late

theorem dispatches_after {α : Type} {first : Prog α}
    {rest : α → Prog (Option Refusal)} {role : String} {value : α}
    {after : World}
    (quiet : Quiet clients
      (first.trace (World.handle (environment.withClients clients)) world))
    (ran : first.run (World.handle (environment.withClients clients)) world =
      (some value, after))
    (dispatches : Dispatches clients marshal strategy guid role environment
      (rest value) after) :
    Dispatches clients marshal strategy guid role environment
      (first >>= rest) world := by
  obtain ⟨clientID, options, reached, earlier, same, calm, traced, ended⟩ :=
    dispatches.reached
  refine ⟨clientID, options, reached, _, same, quiet.append calm, ?_, ?_⟩
  · rw [Program.trace_bind_of _ ran, traced, List.append_assoc]
  · rw [Program.run_bind_of _ ran, ended]

theorem quiet_after {α : Type} {first : Prog α}
    {rest : α → Prog (Option Refusal)} {value : α} {after : World}
    (quiet : Quiet clients
      (first.trace (World.handle (environment.withClients clients)) world))
    (ran : first.run (World.handle (environment.withClients clients)) world =
      (some value, after))
    (later : Quiet clients ((rest value).trace
      (World.handle (environment.withClients clients)) after)) :
    Quiet clients ((first >>= rest).trace
      (World.handle (environment.withClients clients)) world) := by
  rw [Program.trace_bind_of _ ran]
  exact quiet.append later

theorem quiet_of_only {α : Type} {program : Prog α}
    (only : program.Only fun op => failureIn clients op = none) :
    Quiet clients (program.trace
      (World.handle (environment.withClients clients)) world) :=
  Program.trace_of_only _ only world

theorem quiet_register (client : Client) (kinds : List Kind) :
    Quiet clients ((Registrar.register .connection client kinds).trace
      (World.handle (environment.withClients clients)) world) := by
  apply quiet_of_only
  exact register_only rfl (fun _ => rfl) (fun _ _ _ _ => rfl)
    (fun _ _ _ _ => rfl) (fun _ => rfl) (fun _ => rfl) fun _ => rfl

theorem quiet_clientAndKind (clientID kindID : String) :
    Quiet clients
      ((NotificationsFinder.clientAndKind clientID kindID).trace
        (World.handle (environment.withClients clients)) world) := by
  apply quiet_of_only
  exact NotificationsFinder.clientAndKind_only _ _ fun _ _ => rfl

theorem dispatches_dispatch {clientID : String} (options : Options) :
    Dispatches clients marshal strategy guid options.role environment
      (do
        match ← strategy.dispatch marshal clientID guid options with
        | .error error => pure (some (.failed error))
        | .ok _ => pure none)
      world := by
  refine ⟨clientID, options, world, [], rfl, quiet_nil, ?_, ?_⟩
  · rw [Program.trace_bind, List.nil_append]
    split
    · rename_i result after ran
      cases result <;> exact List.append_nil _
    · exact List.append_nil _
  · rw [Program.run_bind]
    split
    · rename_i result after ran
      rw [ran]
      cases result <;> rfl
    · rename_i after ran
      rw [ran]
      rfl

theorem registerAndDispatch_quiet_or_dispatches {client : Client}
    {kind : Kind} {clientID : String}
    (own : Collation.equal kind.clientID client.id) :
    (Quiet clients ((registerAndDispatch marshal strategy guid parameters
        client kind clientID).trace
          (World.handle (environment.withClients clients)) world) ∧
      ¬ Faultless environment) ∨
    Dispatches clients marshal strategy guid parameters.role environment
      (registerAndDispatch marshal strategy guid parameters client kind
        clientID) world := by
  have owned : ∀ other ∈ [kind],
      Collation.equal other.clientID client.id := by
    intro other member
    rw [List.mem_singleton.mp member]
    exact own
  obtain ⟨err, middle, count, ran, _, calm⟩ :=
    @register_registers _ (environment.withClients clients) .connection
      world.database client [kind] owned world rfl
  have quiet := @quiet_register _ clients environment world client [kind]
  cases err with
  | some error =>
      left
      refine ⟨quiet_after quiet ran quiet_nil, ?_⟩
      intro faultless
      cases calm faultless
  | none =>
      right
      exact dispatches_after quiet ran
        (dispatches_dispatch (parameters.toOptions client kind))

theorem allowedKind_new {tables : Tables} {clientID kindID : String}
    {kind : Kind} (found : FoundKind tables clientID kindID kind)
    (new : tables.lookup .kinds (Collation.key [kindID, clientID]) = none) :
    allowedKind claims kind = some true := by
  rcases found with present | ⟨_, rfl⟩
  · rw [new] at present
    cases present
  · rfl

/-- A request that does not get to its strategy meets no failure. -/
theorem notify_quiet_or_dispatches :
    (Quiet clients ((notify marshal claims strategy guid
        (.ok parameters)).trace
          (World.handle (environment.withClients clients)) world) ∧
      ¬ Unhindered claims parameters.kindID environment world) ∨
    Dispatches clients marshal strategy guid parameters.role environment
      (notify marshal claims strategy guid (.ok parameters)) world := by
  cases client : clientIDOf claims with
  | none =>
      left
      refine ⟨?_, ?_⟩
      · rw [notify, client]
        exact quiet_nil
      · intro unhindered
        obtain ⟨clientID, named, _⟩ := unhindered.client
        rw [client] at named
        cases named
  | some clientID =>
      obtain ⟨found, _, count, ran, rfl, both, calm⟩ :=
        @clientAndKind_achieves _ (environment.withClients clients)
          world.database clientID parameters.kindID world rfl
      have quiet := @quiet_clientAndKind _ clients environment world clientID
        parameters.kindID
      simp only [notify, client]
      cases found with
      | error error =>
          left
          refine ⟨quiet_after quiet ran quiet_nil, ?_⟩
          intro unhindered
          obtain ⟨_, wrong⟩ := calm unhindered.faultless
          cases wrong
      | ok found =>
          obtain ⟨clientFound, kindFound⟩ := both found.1 found.2 rfl
          have own : Collation.equal found.2.clientID found.1.id := by
            rw [Collation.equal_iff]
            exact (Collation.equal_iff.mp kindFound.ids.2).trans
              (Collation.equal_iff.mp clientFound.id).symm
          have hindered (refused : allowedKind claims found.2 ≠ some true) :
              ¬ Unhindered claims parameters.kindID environment world := by
            intro unhindered
            obtain ⟨_, named, new⟩ := unhindered.client
            rw [client] at named
            cases named
            exact refused (allowedKind_new kindFound new)
          cases allowed : allowedKind claims found.2 with
          | none =>
              refine .inl ⟨quiet_after quiet ran ?_, hindered ?_⟩
              · simp only [allowed]
                exact quiet_nil
              · rw [allowed]
                simp
          | some allowedKind =>
              cases allowedKind with
              | false =>
                  refine .inl ⟨quiet_after quiet ran ?_, hindered ?_⟩
                  · simp only [allowed]
                    exact quiet_nil
                  · rw [allowed]
                    simp
              | true =>
                  rcases @registerAndDispatch_quiet_or_dispatches _ clients
                    environment (world.advance .connection world.database
                      count) marshal strategy guid parameters found.1
                    found.2 clientID own with ⟨calmly, faulty⟩ | dispatches
                  · refine .inl ⟨quiet_after quiet ran ?_, ?_⟩
                    · simp only [allowed]
                      exact calmly
                    · intro unhindered
                      exact faulty unhindered.faultless
                  · refine .inr (dispatches_after quiet ran ?_)
                    simp only [allowed]
                    exact dispatches

end Notify

/-! ## Every request -/

section Requests

variable {clients : Clients} {environment : Environment} {world : World}
  {marshal : Delivery → String} {claims : Jwt.Fields} {strategy : Strategy}
  {guid : String} {parameters : NotifyParams}

theorem Quiet.documented {parsed : Except Refusal NotifyParams}
    (quiet : Quiet clients ((notify marshal claims strategy guid
      parsed).trace (World.handle (environment.withClients clients)) world)) :
    Documented clients marshal claims strategy guid parsed environment
      world := by
  intro call called failure met
  rw [quiet call called] at met
  cases met

/-- For a request that calls its strategy, the first failure decides. -/
theorem Dispatches.documented_iff
    (dispatches : Dispatches clients marshal strategy guid parameters.role
      environment (notify marshal claims strategy guid (.ok parameters))
      world) :
    Documented clients marshal claims strategy guid (.ok parameters)
        environment world ↔
      ∀ entry ∈ firstFailing clients guid parameters.role strategy,
        Translated entry := by
  obtain ⟨clientID, options, after, earlier, role, quiet, traced, ended⟩ :=
    dispatches.reached
  have ends := @ends_dispatch _ clients environment after marshal clientID guid
    options strategy
  rw [role] at ends
  constructor
  · intro documented entry member
    obtain ⟨call, called, met⟩ := (ends.met entry.2).mpr
      (Option.map_eq_some_iff.mpr ⟨entry, member, rfl⟩)
    obtain ⟨error, failed, fitting⟩ := ends.answered entry member
    have answered := documented call
      (traced ▸ List.mem_append_right earlier called) entry.2 met
    rw [ended, failed] at answered
    exact fitting.mp answered
  · intro translated call called failure met
    rw [traced] at called
    rcases List.mem_append.mp called with early | late
    · rw [quiet call early] at met
      cases met
    · obtain ⟨entry, member, rfl⟩ := Option.map_eq_some_iff.mp
        ((ends.met failure).mp ⟨call, late, met⟩)
      obtain ⟨error, failed, fitting⟩ := ends.answered entry member
      rw [ended, failed]
      exact fitting.mpr (translated entry member)

end Requests

def notifierClaims : Jwt.Fields :=
  [("client_id", .string "client"),
    ("scope", .array [.string "notifications.write"])]

/-- With these clients, every failure that a request to the endpoint meets is
answered with its documented status, whatever the token, the database and the
failing statements are, exactly when the first failing call of the endpoint is
translated. -/
theorem failures_documented_iff (clients : Clients)
    (marshal : Delivery → String) (strategy : Strategy) (guid : String)
    (parsed : Except Refusal NotifyParams) :
    (∀ claims environment world,
      Documented clients marshal claims strategy guid parsed environment
        world) ↔
      ∀ parameters, parsed = .ok parameters →
        ∀ entry ∈ firstFailing clients guid parameters.role strategy,
          Translated entry := by
  constructor
  · rintro documented parameters rfl
    -- a token with a client ID and an empty database are enough
    have unhindered : Unhindered notifierClaims parameters.kindID .calm
        (.start []) :=
      ⟨⟨"client", rfl, rfl⟩, fun _ => rfl⟩
    rcases @notify_quiet_or_dispatches _ clients .calm (.start []) marshal
      notifierClaims strategy guid parameters with ⟨_, hindered⟩ | dispatches
    · exact absurd unhindered hindered
    · exact dispatches.documented_iff.mp (documented _ _ _)
  · intro translated claims environment world
    cases parsed with
    | error refusal => exact Quiet.documented quiet_nil
    | ok parameters =>
        rcases @notify_quiet_or_dispatches _ clients environment world marshal
          claims strategy guid parameters with ⟨quiet, _⟩ | dispatches
        · exact quiet.documented
        · exact dispatches.documented_iff.mpr (translated parameters rfl)

/-! ## Two failures -/

/-- A Cloud Controller with one space of one user, and a cached token. -/
def spaceClients : Clients where
  cloudController :=
    { getSpace := fun guid _ => .ok ⟨guid, "space", "org"⟩
      listSpaceUsers := fun _ _ => .ok ⟨.ok ["user"]⟩
      getOrganization := fun guid _ => .ok ⟨guid, "organization"⟩
      listUsers := fun _ _ => .ok ⟨.ok []⟩
      listManagers := fun _ _ => .ok ⟨.ok []⟩
      listAuditors := fun _ _ => .ok ⟨.ok []⟩
      listBillingManagers := fun _ _ => .ok ⟨.ok []⟩ }
  uaa :=
    { getClientToken := .ok "token"
      usersGUIDsByScope := fun _ => .ok []
      allUsers := .ok [] }
  cachedToken := some "token"

/-- The list of the space's users cannot be requested. -/
def unreachable : RainmakerError :=
  .requestHTTP "dial tcp: connection refused"

def unreachableClients : Clients :=
  { spaceClients with
    cloudController := { spaceClients.cloudController with
      listSpaceUsers := fun _ _ => .error unreachable } }

def spaceNotFound : RainmakerError := .notFound "CF-SpaceNotFound"

def notFoundClients : Clients :=
  { spaceClients with
    cloudController := { spaceClients.cloudController with
      getSpace := fun _ _ => .error spaceNotFound } }

def plainParameters : NotifyParams :=
  ⟨"", "Subject", "text", ⟨"", "", "", ""⟩, "kind", "", ""⟩

/-- `POST /spaces/space`. -/
def notifySpace : Prog (Option Refusal) :=
  notify Mailer.plainMarshal notifierClaims .space "space"
    (.ok plainParameters)

end Collated

attribute [local instance] Collation.binary

theorem space_failures_undocumented :
    statusCode ((notifySpace.run
      (World.handle (Environment.calm.withClients unreachableClients))
      (.start [])).1) = none ∧
    statusCode ((notifySpace.run
      (World.handle (Environment.calm.withClients notFoundClients))
      (.start [])).1) = some 502 ∧
    ¬ Documented unreachableClients Mailer.plainMarshal notifierClaims .space
      "space" (.ok plainParameters) .calm (.start []) ∧
    ¬ Documented notFoundClients Mailer.plainMarshal notifierClaims .space
      "space" (.ok plainParameters) .calm (.start []) := by
  have panicked : statusCode ((notifySpace.run
      (World.handle (Environment.calm.withClients unreachableClients))
      (.start [])).1) = none := by
    decide +kernel
  have down : statusCode ((notifySpace.run
      (World.handle (Environment.calm.withClients notFoundClients))
      (.start [])).1) = some 502 := by
    decide +kernel
  have unreached : (notifySpace.trace
      (World.handle (Environment.calm.withClients unreachableClients))
      (.start [])).any fun call => decide (failureIn unreachableClients
        call.2 = some (.cloudController unreachable)) := by
    decide +kernel
  have missing : (notifySpace.trace
      (World.handle (Environment.calm.withClients notFoundClients))
      (.start [])).any fun call => decide (failureIn notFoundClients
        call.2 = some (.cloudController spaceNotFound)) := by
    decide +kernel
  refine ⟨panicked, down, ?_, ?_⟩
  · intro documented
    obtain ⟨call, called, met⟩ := List.any_eq_true.mp unreached
    have answered := documented call called _ (of_decide_eq_true met)
    cases panicked.symm.trans answered
  · intro documented
    obtain ⟨call, called, met⟩ := List.any_eq_true.mp missing
    have answered := documented call called _ (of_decide_eq_true met)
    cases down.symm.trans answered

end Notifications.Web
