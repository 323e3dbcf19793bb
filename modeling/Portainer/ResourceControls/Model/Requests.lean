import Portainer.AzureProxy.Model
import Portainer.DockerProxy.Model.Dispatch
import Portainer.Stacks.Model.Requests
/-!
# Requests — whatever writes resource controls, as one machine

Resource controls are written by their own handlers, by the handlers of
stacks, by the proxy of a Docker environment and by that of an Azure
environment. The answer of a proxy that fails is its error.
-/

/-!
## Resource controls — the handlers

Who may use a resource is said by its resource control: everybody,
administrators only, or the users and teams it lists. Administrators create
and delete resource controls; whoever may use a resource may update its
control, within `authorizedResourceControlUpdate`.
-/

namespace Portainer

namespace ResourceControls

open HandlerError (badRequest forbidden internalServerError)

/-! ## Authorization -/

/-- A user is in a team that the control lists. -/
def listsTeamOf (resourceControl : ResourceControl) (context : RestrictedRequestContext) : Bool :=
  resourceControl.teamAccesses.any fun access =>
    context.userMemberships.any fun membership => membership.teamID = access.teamID

/-- `AuthorizedResourceControlAccess`. -/
def authorizedResourceControlAccess (resourceControl : ResourceControl)
    (context : RestrictedRequestContext) : Bool :=
  if context.isAdmin || resourceControl.isPublic then true
  else listsTeamOf resourceControl context ||
    resourceControl.userAccesses.any fun access => context.userID = access.userID

/-- `AuthorizedResourceControlUpdate`. -/
def authorizedResourceControlUpdate (resourceControl : ResourceControl)
    (context : RestrictedRequestContext) : Bool :=
  let userAccessesCount := resourceControl.userAccesses.length
  let teamAccessesCount := resourceControl.teamAccesses.length
  if context.isAdmin || resourceControl.isPublic then true
  else if resourceControl.administratorsOnly then false
  else if userAccessesCount = 0 ∧ teamAccessesCount = 0 then false
  else if userAccessesCount > 1 ∨ (userAccessesCount = 1 ∧ teamAccessesCount = 1) then false
  else if userAccessesCount = 1 ∧
      resourceControl.userAccesses.head?.map UserResourceAccess.userID = some context.userID then true
  else listsTeamOf resourceControl context

/-! ## Payloads -/

/-- `resourceControlCreatePayload`. -/
structure ResourceControlCreatePayload where
  resourceID : String
  type : String
  isPublic : Bool := false
  administratorsOnly : Bool := false
  users : List UserID := []
  teams : List TeamID := []
  subResourceIDs : List String := []

/-- `resourceControlUpdatePayload`. -/
structure ResourceControlUpdatePayload where
  isPublic : Bool := false
  users : List UserID := []
  teams : List TeamID := []
  administratorsOnly : Bool := false

/-- The checks of the accesses, with the message for both flags. -/
def checkAccesses (isPublic administratorsOnly : Bool) (users : List UserID) (teams : List TeamID)
    (bothFlags : String) : Except String Unit :=
  if users.length = 0 ∧ teams.length = 0 ∧ ¬ isPublic ∧ ¬ administratorsOnly then
    .error "invalid payload: must specify Users, Teams, Public or AdministratorsOnly"
  else if isPublic ∧ administratorsOnly then .error bothFlags
  else .ok ()

/-- `resourceControlCreatePayload.Validate`. -/
def ResourceControlCreatePayload.validate (payload : ResourceControlCreatePayload) : Except String Unit :=
  if payload.resourceID = "" then .error "invalid payload: invalid resource identifier"
  else if payload.type = "" then .error "invalid payload: invalid type"
  else checkAccesses payload.isPublic payload.administratorsOnly payload.users payload.teams
    "invalid payload: cannot set both public and administrators only flags to true"

/-- `resourceControlUpdatePayload.Validate`. -/
def ResourceControlUpdatePayload.validate (payload : ResourceControlUpdatePayload) : Except String Unit :=
  checkAccesses payload.isPublic payload.administratorsOnly payload.users payload.teams
    "invalid payload: cannot set public and administrators only"

/-- The accesses that a list of users stands for. -/
def userAccessesOf (users : List UserID) : List UserResourceAccess := users.map fun v => ⟨v, .readWrite⟩

/-- The accesses that a list of teams stands for. -/
def teamAccessesOf (teams : List TeamID) : List TeamResourceAccess := teams.map fun v => ⟨v, .readWrite⟩

/-- The type that a name stands for. -/
def resourceControlTypeOf (type : String) : Option ResourceControlType :=
  if type = "container" then some .container
  else if type = "container-group" then some .containerGroup
  else if type = "service" then some .service
  else if type = "volume" then some .volume
  else if type = "network" then some .network
  else if type = "secret" then some .secret
  else if type = "stack" then some .stack
  else if type = "config" then some .config
  else none

/-! ## Handlers -/

/-- The record that a creation stores. -/
def ResourceControlCreatePayload.resourceControl (payload : ResourceControlCreatePayload)
    (resourceControlType : ResourceControlType) : ResourceControl where
  resourceID := payload.resourceID
  subResourceIDs := payload.subResourceIDs
  type := resourceControlType
  isPublic := payload.isPublic
  administratorsOnly := payload.administratorsOnly
  userAccesses := userAccessesOf payload.users
  teamAccesses := teamAccessesOf payload.teams

def invalidTypeValue : HandlerError := badRequest
  "Invalid type value. Value must be one of: container, service, volume, network, secret, stack or config"
  "Unsupported resource control type"

/-- `resourceControlCreate`. -/
def resourceControlCreate (payload : ResourceControlCreatePayload) : Handler Server ResourceControl := do
  (Action.ofExcept payload.validate).mapError (badRequest "Invalid request payload")
  let resourceControlType ← .ofExcept
    ((resourceControlTypeOf payload.type).elim (.error invalidTypeValue) .ok)
  let rc ← (Server.resourceControlByResourceIDAndType payload.resourceID resourceControlType).mapError
    (internalServerError "Unable to retrieve resource controls from the database")
  .require (rc = none) ⟨409, "A resource control is already associated to this resource",
    "A resource control is already applied on this resource"⟩
  (Server.createResourceControl (payload.resourceControl resourceControlType)).mapError
    (internalServerError "Unable to persist the resource control inside the database")

/-- `ResourceControl`, in the handlers. -/
def findResourceControl (id : ResourceControlID) : Handler Server ResourceControl :=
  (Server.resourceControl.getObject id).mapError fun err =>
    if err = errObjectNotFound then
      ⟨404, "Unable to find a resource control with the specified identifier inside the database", err⟩
    else internalServerError
      "Unable to find a resource control with with the specified identifier inside the database" err

/-- The record that an update stores. -/
def ResourceControlUpdatePayload.update (payload : ResourceControlUpdatePayload)
    (resourceControl : ResourceControl) : ResourceControl :=
  { resourceControl with
    isPublic := payload.isPublic
    administratorsOnly := payload.administratorsOnly
    userAccesses := userAccessesOf payload.users
    teamAccesses := teamAccessesOf payload.teams }

/-- `resourceControlUpdate`. -/
def resourceControlUpdate (context : RequestContext) (resourceControlID : ResourceControlID)
    (payload : ResourceControlUpdatePayload) : Handler Server ResourceControl := do
  (Action.ofExcept payload.validate).mapError (badRequest "Invalid request payload")
  let resourceControl ← findResourceControl resourceControlID
  .require (authorizedResourceControlAccess resourceControl context.restricted = true)
    (forbidden "Permission denied to access the resource control" errResourceAccessDenied)
  let resourceControl := payload.update resourceControl
  .require (authorizedResourceControlUpdate resourceControl context.restricted = true)
    (forbidden "Permission denied to update the resource control" errResourceAccessDenied)
  (Server.resourceControl.updateObject resourceControl).mapError
    (internalServerError "Unable to persist resource control changes inside the database")
  return resourceControl

/-- `resourceControlDelete`. -/
def resourceControlDelete (resourceControlID : ResourceControlID) : Handler Server Unit := do
  let _ ← findResourceControl resourceControlID
  (Server.resourceControl.deleteObject resourceControlID).mapError
    (internalServerError "Unable to remove the resource control from the database")

open Stacks (Host Services Outside onServer behind)

/-- A request of one of the kinds. -/
inductive Request
  | create (payload : ResourceControlCreatePayload)
  | update (resourceControlID : ResourceControlID) (payload : ResourceControlUpdatePayload)
  | delete (resourceControlID : ResourceControlID)
  | stack (outside : Outside) (request : Stacks.Request)
  | docker (t : DockerProxy.Transport) (request : DockerProxy.Request)
  | azure (t : AzureProxy.Transport) (request : AzureProxy.Request)

/-- What a request is answered. -/
inductive Response
  | control (resourceControl : ResourceControl)
  | empty
  | stack (response : Stacks.Response)
  | proxied (response : Except String DockerProxy.Response)

/-- A request through the proxy of a Docker environment. -/
def proxyDocker (t : DockerProxy.Transport) (request : DockerProxy.Request) :
    Fallible Server DockerProxy.Response :=
  (DockerProxy.proxyDockerRequest t request).zoom (fun s => { dataStore := s.dataStore })
    fun s p => { s with dataStore := p.dataStore }

/-- A request through the proxy of an Azure environment. -/
def proxyAzure (t : AzureProxy.Transport) (request : AzureProxy.Request) :
    Fallible Server DockerProxy.Response :=
  (AzureProxy.proxyAzureRequest t request).zoom (fun s => { dataStore := s.dataStore })
    fun s p => { s with dataStore := p.dataStore }

/-- The answer of a proxy. -/
def answer (x : Fallible Server DockerProxy.Response) : Handler Host Response := do
  let response ← (onServer x).attempt
  return .proxied response

/-- The handler of a request with a token, behind its check. A proxied
request carries the token data of its session itself. -/
def handle (services : Services) (token : Option TokenData) : Request → Handler Host Response
  | .create payload => behind (adminAccess token) .control fun _ =>
    onServer (resourceControlCreate payload)
  | .update resourceControlID payload => behind (authenticatedAccess token) .control fun context =>
    onServer (resourceControlUpdate context resourceControlID payload)
  | .delete resourceControlID => behind (adminAccess token) (fun _ => .empty) fun _ =>
    onServer (resourceControlDelete resourceControlID)
  | .stack outside request => do
    let response ← Stacks.handle services outside token request
    return .stack response
  | .docker t request => answer (proxyDocker t request)
  | .azure t request => answer (proxyAzure t request)

/-- A request with its token and the outcomes of its calls. -/
structure Attempt where
  request : Request
  token : Option TokenData := none
  faults : Callee → List (Option String) := fun _ => []

/-- What an attempt ends with. -/
def Attempt.run (services : Services) (a : Attempt) (h : Host) :
    Except HandlerError Response × Sys Callee Host :=
  (handle services a.token a.request).run ⟨h, a.faults⟩

/-- **The host under requests**, which succeed or fail. -/
def machine (services : Services) : Machine Host Attempt where
  step h a := some (a.run services h).2.store

end ResourceControls

end Portainer
