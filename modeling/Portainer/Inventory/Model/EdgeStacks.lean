import Portainer.Inventory.Model.Services
/-!
# Edge stacks — create, update, delete, and the status

The handlers of `handler/edgestacks`. A creation persists the stack and a
deletion removes it before the endpoints concerned are known, and both go
on where these cannot be computed.
-/

namespace Portainer

open Tunnel (isEdge)

namespace Inventory

open HandlerError (internalServerError ofLookup badRequest forbidden)

/-! ## The relations of a stack -/

/-- Look up the relation of an endpoint, change it and persist it. -/
def changeRelation (change : EndpointRelation → EndpointRelation) (endpointID : EndpointID) :
    Handler Server Unit := do
  let relation ← (Server.endpointRelation.getObject endpointID).mapError
    (internalServerError "Unable to find endpoint relation in database")
  (Server.endpointRelation.updateObject (change relation)).mapError
    (internalServerError "Unable to persist endpoint relation in database")

/-- The same for each endpoint of a list. -/
def changeRelations (change : EndpointRelation → EndpointRelation) (endpointIDs : List EndpointID) :
    Handler Server Unit :=
  endpointIDs.forM (changeRelation change)

/-- The relation with a stack: `relation.EdgeStacks[edgeStackID] = true`. -/
def withEdgeStack (edgeStackID : EdgeStackID) (relation : EndpointRelation) : EndpointRelation :=
  { relation with edgeStacks := insert edgeStackID relation.edgeStacks }

/-- The relation without a stack. -/
def withoutEdgeStack (edgeStackID : EdgeStackID) (relation : EndpointRelation) : EndpointRelation :=
  { relation with edgeStacks := relation.edgeStacks.erase edgeStackID }

/-- What the three handlers read before they compute the endpoints of a
stack. -/
structure Records where
  endpoints : List Endpoint
  endpointGroups : List EndpointGroup
  edgeGroups : List EdgeGroup

def readRecords : Handler Server Records := do
  let endpoints ← Server.endpoint.getAll.mapError
    (internalServerError "Unable to retrieve endpoints from database")
  let endpointGroups ← Server.endpointGroup.getAll.mapError
    (internalServerError "Unable to retrieve endpoint groups from database")
  let edgeGroups ← Server.edgeGroup.getAll.mapError
    (internalServerError "Unable to retrieve edge groups from database")
  return ⟨endpoints, endpointGroups, edgeGroups⟩

/-- The endpoints of the groups of a stack, or the error that there is a
group missing. -/
def Records.related (records : Records) (edgeGroupIDs : List EdgeGroupID) :
    Except String (List EndpointID) :=
  edgeStackRelatedEndpoints edgeGroupIDs records.endpoints records.endpointGroups records.edgeGroups

/-- The same for the callers that drop the error and go on with no
endpoints. -/
def Records.relatedOrNone (records : Records) (edgeGroupIDs : List EdgeGroupID) :
    List EndpointID :=
  match records.related edgeGroupIDs with
  | .ok relatedEndpoints => relatedEndpoints
  | .error _ => []

/-! ## Create -/

/-- The payload of a creation, by the `method` of the request. An uploaded
file is `none` where it is missing. -/
inductive SwarmStackPayload
  | string (name stackFileContent : String) (edgeGroups : List EdgeGroupID)
  | repository (name repositoryURL repositoryReferenceName : String)
      (repositoryAuthentication : Bool) (repositoryUsername repositoryPassword : String)
      (composeFilePathInRepository : String) (edgeGroups : List EdgeGroupID)
  | file (name : String) (stackFileContent : Option String) (edgeGroups : List EdgeGroupID)
  | other (method : String)
  deriving DecidableEq

namespace SwarmStackPayload

def name : SwarmStackPayload → String
  | string name .. | repository name .. | file name .. => name
  | other _ => ""

def edgeGroups : SwarmStackPayload → List EdgeGroupID
  | string _ _ edgeGroups | repository _ _ _ _ _ _ _ edgeGroups | file _ _ edgeGroups => edgeGroups
  | other _ => []

/-- `ComposeFileDefaultName`, or the path in the repository. -/
def entryPoint : SwarmStackPayload → String
  | repository _ _ _ _ _ _ path _ => if path = "" then "docker-compose.yml" else path
  | _ => "docker-compose.yml"

/-- The error of `Validate`, or of the choice of the method. -/
def validate (services : Services) : SwarmStackPayload → Option String
  | string name stackFileContent edgeGroups =>
    if name = "" then some "Invalid stack name"
    else if stackFileContent = "" then some "Invalid stack file content"
    else if edgeGroups = [] then some "Edge Groups are mandatory for an Edge stack"
    else none
  | repository name repositoryURL _ repositoryAuthentication repositoryUsername repositoryPassword _
      edgeGroups =>
    if name = "" then some "Invalid stack name"
    else if repositoryURL = "" || !services.isURL repositoryURL then
      some "Invalid repository URL. Must correspond to a valid URL format"
    else if repositoryAuthentication && (repositoryUsername = "" || repositoryPassword = "") then
      some "Invalid repository credentials. Username and password must be specified when authentication is enabled"
    else if edgeGroups = [] then some "Edge Groups are mandatory for an Edge stack"
    else none
  | file name stackFileContent edgeGroups =>
    if name = "" then some "Invalid stack name"
    else if stackFileContent = none then
      some "Invalid Compose file. Ensure that the Compose file is uploaded correctly"
    else if edgeGroups = [] then some "Edge Groups are mandatory for an Edge stack"
    else none
  | other _ =>
    some "Invalid value for query parameter: method. Value must be one of: string, repository or file"

end SwarmStackPayload

/-- `validateUniqueName`. -/
def validateUniqueName (services : Services) (name : String) : Fallible Server Unit := do
  let edgeStacks ← Server.edgeStack.getAll
  .require (edgeStacks.all (fun stack => !services.equalFold stack.name name) = true)
    "Edge stack name must be unique"

/-- The files of a new stack, written or cloned: the path of the project. -/
def storeStackFiles (services : Services) (payload : SwarmStackPayload) (stackFolder : String) :
    Fallible Server String :=
  match payload with
  | .repository .. => do
    .call .gitService id
    return services.getEdgeStackProjectPath stackFolder
  | _ => services.storeEdgeStackFile stackFolder

/-- `CreateEdgeStack`: a stack without an identifier draws one. It returns
the stack as it is persisted. -/
def persistEdgeStack (edgeStack : EdgeStack) : Fallible Server EdgeStack := do
  let next ← .get fun s => s.dataStore.edgeStack.next
  let drawn := edgeStack.id = 0
  let edgeStack := { edgeStack with id := if drawn then next else edgeStack.id }
  .call .databaseWrite (Server.edgeStack.change fun b =>
    (if drawn then b.nextSequence else b).put edgeStack)
  return edgeStack

/-- `createSwarmStack`, with the three ways to create. `now` is
`time.Now().Unix()`. -/
def createSwarmStack (services : Services) (payload : SwarmStackPayload) (now : Int) :
    Fallible Server EdgeStack := do
  match payload.validate services with
  | some err => .fail err
  | none =>
    validateUniqueName services payload.name
    let stackID ← Server.edgeStack.getNextIdentifier
    let projectPath ← storeStackFiles services payload (toString stackID)
    persistEdgeStack
      { id := stackID
        name := payload.name
        entryPoint := payload.entryPoint
        creationDate := now
        edgeGroups := payload.edgeGroups
        projectPath := projectPath
        version := 1 }

def edgeStackCreate (services : Services) (payload : SwarmStackPayload) (now : Int) :
    Handler Server EdgeStack := do
  let edgeStack ← (createSwarmStack services payload now).mapError
    (internalServerError "Unable to create Edge stack")
  let records ← readRecords
  changeRelations (withEdgeStack edgeStack.id) (records.relatedOrNone edgeStack.edgeGroups)
  return edgeStack

/-! ## Update -/

structure EdgeStackUpdatePayload where
  stackFileContent : String
  version : Option Int := none
  prune : Option Bool := none
  edgeGroups : Option (List EdgeGroupID) := none

/-- The error of `Validate`, if there is one. -/
def EdgeStackUpdatePayload.validate (payload : EdgeStackUpdatePayload) : Option String :=
  if payload.stackFileContent = "" then some "Invalid stack file content"
  else if payload.edgeGroups = some [] then some "Edge Groups are mandatory for an Edge stack"
  else none

/-- The endpoints related to the stack, for the caller that does not go on
without them. -/
def Records.relatedOrFail (records : Records) (edgeGroupIDs : List EdgeGroupID) :
    Handler Server (List EndpointID) :=
  (Action.ofExcept (records.related edgeGroupIDs)).mapError
    (internalServerError "Unable to retrieve edge stack related endpoints from database")

/-- The part of `edgeStackUpdate` about the groups: the groups the stack has
afterwards. -/
def replaceEdgeGroups (stack : EdgeStack) :
    Option (List EdgeGroupID) → Handler Server (List EdgeGroupID)
  | none => pure stack.edgeGroups
  | some edgeGroups => do
    let records ← readRecords
    let oldRelated ← records.relatedOrFail stack.edgeGroups
    let newRelated ← records.relatedOrFail edgeGroups
    let oldRelatedSet := oldRelated.toFinset
    let newRelatedSet := newRelated.toFinset
    changeRelations (withoutEdgeStack stack.id) (elements (oldRelatedSet \ newRelatedSet))
    changeRelations (withEdgeStack stack.id) (elements (newRelatedSet \ oldRelatedSet))
    return edgeGroups

def findStack : String → HandlerError :=
  ofLookup "Unable to find a stack with the specified identifier inside the database"

def persistStackChanges : String → HandlerError :=
  internalServerError "Unable to persist the stack changes inside the database"

def edgeStackUpdate (services : Services) (stackID : EdgeStackID)
    (payload : EdgeStackUpdatePayload) : Handler Server EdgeStack := do
  let stack ← (Server.edgeStack.getObject stackID).mapError findStack
  match payload.validate with
  | some err => .fail (badRequest "Invalid request payload" err)
  | none =>
    let edgeGroups ← replaceEdgeGroups stack payload.edgeGroups
    let _ ← (services.storeEdgeStackFile (toString stack.id)).mapError
      (internalServerError "Unable to persist updated Compose file on disk")
    let version := payload.version.getD stack.version
    let stack := { stack with
      edgeGroups := edgeGroups
      prune := payload.prune.getD stack.prune
      version := version
      status := if version = stack.version then stack.status else ∅ }
    (Server.edgeStack.updateObject stack).mapError persistStackChanges
    return stack

/-! ## Delete -/

def edgeStackDelete (edgeStackID : EdgeStackID) : Handler Server Unit := do
  let edgeStack ← (Server.edgeStack.getObject edgeStackID).mapError
    (ofLookup "Unable to find an edge stack with the specified identifier inside the database")
  (Server.edgeStack.deleteObject edgeStackID).mapError
    (internalServerError "Unable to remove the edge stack from the database")
  let records ← readRecords
  changeRelations (withoutEdgeStack edgeStack.id) (records.relatedOrNone edgeStack.edgeGroups)

/-! ## Status -/

structure UpdateStatusPayload where
  error : String := ""
  status : Option EdgeStackStatusType
  endpointID : Option EndpointID

/-- What `Validate` makes of the payload: its error, or the two fields that
have to be there. -/
def UpdateStatusPayload.validate (payload : UpdateStatusPayload) :
    Except String (EdgeStackStatusType × EndpointID) :=
  match payload.status, payload.endpointID with
  | none, _ => .error "Invalid status"
  | some _, none => .error "Invalid EndpointID"
  | some status, some endpointID =>
    if status = .error ∧ payload.error = "" then
      .error "Error message is mandatory when status is error"
    else .ok (status, endpointID)

/-- `AuthorizedEdgeEndpointOperation`, with the Edge identifier of the
request. -/
def authorizedEdgeEndpointOperation (edgeIdentifier : String) (endpoint : Endpoint) :
    Except String Unit :=
  if !isEdge endpoint.type then .error "Invalid endpoint type"
  else if edgeIdentifier = "" then .error "missing Edge identifier"
  else if endpoint.edgeID ≠ "" ∧ endpoint.edgeID ≠ edgeIdentifier then
    .error "invalid Edge identifier"
  else .ok ()

def edgeStackStatusUpdate (stackID : EdgeStackID) (edgeIdentifier : String)
    (payload : UpdateStatusPayload) : Handler Server EdgeStack := do
  let stack ← (Server.edgeStack.getObject stackID).mapError findStack
  let (status, endpointID) ← (Action.ofExcept payload.validate).mapError
    (badRequest "Invalid request payload")
  let endpoint ← (Server.endpoint.getObject endpointID).mapError
    (ofLookup "Unable to find an endpoint with the specified identifier inside the database")
  (Action.ofExcept (authorizedEdgeEndpointOperation edgeIdentifier endpoint)).mapError
    (forbidden "Permission denied to access endpoint")
  let stack := { stack with
    status := stack.status.insert endpointID ⟨status, payload.error, endpointID⟩ }
  (Server.edgeStack.updateObject stack).mapError persistStackChanges
  return stack

end Inventory

end Portainer
