import Notifications.Postal.DeliveryWorker

/-!
# Loaders and finders behind a dispatch

The Cloud Controller is called through the rainmaker client, whose errors
`cf.CloudController` turns into failures, all with the code 0.  The loaders of
spaces and organizations translate a failure, the finders of users pass it on.
So do the finders with the errors of the UAA client, which the token loader
translates.

`Environment.withClients` answers the calls of the dispatches with these
functions over arbitrary answers of the two clients.
-/

set_option autoImplicit false

namespace Notifications

open Notifications.Lib

/-- `Error()`. -/
def UAAFailure.text : UAAFailure → String
  | url text => text
  | failure code message => "UAA Failure: " ++ toString code ++ " " ++ message
  | other text => text

def Error.text : Error → String
  | sql text => text
  | noRows => "sql: no rows in result set"
  | recordNotFound format arguments =>
      let message := sprintf format arguments
      if message = "" then "Record Not Found"
      else "Record Not Found: " ++ message
  | duplicateRecord => "Duplicate Record"
  | missingKindOrClient text => text
  | criticalKind text => text
  | templateAssignment text => text
  | templateFind text => text
  | templateUpdate text => text
  | criticalNotification kindID =>
      "Insufficient privileges to send notification " ++ kindID
  | defaultScope => "You cannot send a notification to a default scope"
  | uaaDown text => text
  | uaaGeneric text => text
  | uaa failure => failure.text
  | ccFailure code message =>
      "CloudController Failure (" ++ toString code ++ "): " ++ message
  | ccNotFound text => "CloudController Error: " ++ text
  | ccDown text => text
  | library text => text

end Notifications

namespace Notifications.Postal

/-! ## The Cloud Controller -/

inductive RainmakerError where
  /-- the status 401 -/
  | unauthorized (message : String)
  /-- the status 404 -/
  | notFound (message : String)
  /-- any other status but 200 -/
  | unexpectedStatus (status : Nat) (message : String)
  | responseRead (text : String)
  | requestBodyMarshal (text : String)
  | requestConfiguration (text : String)
  | requestHTTP (text : String)
  /-- the URL of a page cannot be parsed -/
  | url (text : String)
  deriving DecidableEq, Repr

def RainmakerError.text : RainmakerError → String
  | unauthorized message => "Rainmaker UnauthorizedError: " ++ message
  | notFound message => "Rainmaker NotFoundError: " ++ message
  | unexpectedStatus status message =>
      "Rainmaker UnexpectedStatusError: " ++ toString status ++ " " ++ message
  | responseRead text => "Rainmaker ResponseReadError: " ++ text
  | requestBodyMarshal text => "Rainmaker RequestBodyMarshalError: " ++ text
  | requestConfiguration text =>
      "Rainmaker RequestConfigurationError: " ++ text
  | requestHTTP text => "Rainmaker RequestHTTPError: " ++ text
  | url text => text

/-- The first page of users; the others are requested by `AllUsers`. -/
structure UsersList where
  allUsers : Except RainmakerError (List String)

/-- What the methods of `rainmaker.Client` return for a GUID and a token. -/
structure Rainmaker where
  getSpace : String → String → Except RainmakerError Space
  listSpaceUsers : String → String → Except RainmakerError UsersList
  getOrganization : String → String → Except RainmakerError Organization
  listUsers : String → String → Except RainmakerError UsersList
  listManagers : String → String → Except RainmakerError UsersList
  listAuditors : String → String → Except RainmakerError UsersList
  listBillingManagers : String → String → Except RainmakerError UsersList

namespace CloudController

/-- `NewFailure(0, err.Error())`. -/
def newFailure (error : RainmakerError) : Error := .ccFailure 0 error.text

variable (client : Rainmaker) (guid token : String)

def loadSpace : Except Error Space :=
  (client.getSpace guid token).mapError newFailure

def loadOrganization : Except Error Organization :=
  (client.getOrganization guid token).mapError newFailure

/-- All users of a list; both of its calls can fail. -/
def users (list : Except RainmakerError UsersList) :
    Except Error (List String) :=
  (list.bind UsersList.allUsers).mapError newFailure

def getUsersBySpaceGuid : Except Error (List String) :=
  users (client.listSpaceUsers guid token)

def getUsersByOrgGuid : Except Error (List String) :=
  users (client.listUsers guid token)

def getManagersByOrgGuid : Except Error (List String) :=
  users (client.listManagers guid token)

def getAuditorsByOrgGuid : Except Error (List String) :=
  users (client.listAuditors guid token)

def getBillingManagersByOrgGuid : Except Error (List String) :=
  users (client.listBillingManagers guid token)

end CloudController

def ccErrorFor : Error → Error
  | .ccFailure code message =>
      if code = 404 then .ccNotFound (Error.ccFailure code message).text
      else .ccDown (Error.ccFailure code message).text
  | error => error

def SpaceLoader.load (client : Rainmaker) (spaceGUID token : String) :
    Except Error Space :=
  (CloudController.loadSpace client spaceGUID token).mapError ccErrorFor

def OrganizationLoader.load (client : Rainmaker)
    (organizationGUID token : String) : Except Error Organization :=
  (CloudController.loadOrganization client organizationGUID token).mapError
    ccErrorFor

/-! ## UAA -/

structure UAAClient where
  /-- the access token -/
  getClientToken : Except UAAFailure String
  usersGUIDsByScope : String → Except UAAFailure (List String)
  allUsers : Except UAAFailure (List User)

/-- `TokenLoader.Load`, with the access token that is cached unless it has to
be renewed. -/
def TokenLoader.load (client : UAAClient) (cached : Option String) :
    Except Error String :=
  match cached with
  | some access => .ok access
  | none => client.getClientToken.mapError uaaErrorFor

def AllUsers.allUserGUIDs (client : UAAClient) : Except Error (List String) :=
  (client.allUsers.map fun users => users.map User.id).mapError .uaa

namespace FindsUserGUIDs

def userGUIDsBelongingToSpace (client : Rainmaker) (spaceGUID token : String) :
    Except Error (List String) :=
  CloudController.getUsersBySpaceGuid client spaceGUID token

def userGUIDsBelongingToOrganization (client : Rainmaker)
    (orgGUID role token : String) : Except Error (List String) :=
  if role = "OrgManager" then
    CloudController.getManagersByOrgGuid client orgGUID token
  else if role = "OrgAuditor" then
    CloudController.getAuditorsByOrgGuid client orgGUID token
  else if role = "BillingManager" then
    CloudController.getBillingManagersByOrgGuid client orgGUID token
  else
    CloudController.getUsersByOrgGuid client orgGUID token

def userGUIDsBelongingToScope (client : UAAClient) (scope : String) :
    Except Error (List String) :=
  (client.usersGUIDsByScope scope).mapError .uaa

end FindsUserGUIDs

/-! ## The clients of a dispatch -/

structure Clients where
  cloudController : Rainmaker
  uaa : UAAClient
  /-- the token loader's cache -/
  cachedToken : Option String

/-- The calls of a dispatch are answered from the clients, the others are
not. -/
def Clients.serve (clients : Clients) : (service : Service) →
    service.Reply → service.Reply
  | .loadToken, _ => TokenLoader.load clients.uaa clients.cachedToken
  | .userGUIDsBelongingToSpace spaceGUID token, _ =>
      FindsUserGUIDs.userGUIDsBelongingToSpace clients.cloudController
        spaceGUID token
  | .userGUIDsBelongingToOrganization orgGUID role token, _ =>
      FindsUserGUIDs.userGUIDsBelongingToOrganization clients.cloudController
        orgGUID role token
  | .userGUIDsBelongingToScope scope, _ =>
      FindsUserGUIDs.userGUIDsBelongingToScope clients.uaa scope
  | .allUserGUIDs, _ => AllUsers.allUserGUIDs clients.uaa
  | .loadSpace spaceGUID token, _ =>
      (SpaceLoader.load clients.cloudController spaceGUID token).map
        fun space => (space.guid, space.name, space.organizationGUID)
  | .loadOrganization organizationGUID token, _ =>
      (OrganizationLoader.load clients.cloudController organizationGUID
        token).map fun organization => (organization.guid, organization.name)
  | _, other => other

end Notifications.Postal

namespace Notifications

def Environment.withClients (environment : Environment)
    (clients : Postal.Clients) : Environment :=
  { environment with
    serve := fun number service =>
      clients.serve service (environment.serve number service) }

end Notifications
