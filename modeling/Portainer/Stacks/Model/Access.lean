import Portainer.Stacks.Model.Deployment
/-!
# Access to stacks and their names

What the handlers of stacks have in common: who may use a stack, and
whether a name is free on an environment. A stack and its resource control
are tied by the environment and the name of the stack.
-/

namespace Portainer

namespace Stacks

open HandlerError (forbidden internalServerError ofLookup)
open Inventory (authorizedEndpointOperation)

/-- `Stack`, in the handlers. -/
def findStack (id : StackID) : Handler Host Stack :=
  (onServer (Server.stack.getObject id)).mapError
    (ofLookup "Unable to find a stack with the specified identifier inside the database")

/-- `Endpoint`, with the message of the handler. -/
def findEndpoint (message : String) (id : EndpointID) : Handler Host Endpoint :=
  (onServer (Server.endpoint.getObject id)).mapError (ofLookup message)

def endpointNotFound : String :=
  "Unable to find an endpoint with the specified identifier inside the database"

def stackEndpointNotFound : String :=
  "Unable to find the endpoint associated to the stack inside the database"

/-- The environment of a request has to be open to its user. -/
def permitEndpoint (context : RequestContext) (endpoint : Endpoint) : Handler Host Unit :=
  (onServer (authorizedEndpointOperation (some context.tokenData) endpoint)).mapError
    (forbidden "Permission denied to access endpoint")

/-- The resource control of the environment and the name of a stack. -/
def findResourceControl (stack : Stack) : Handler Host (Option ResourceControl) :=
  (onServer (Server.resourceControlByResourceIDAndType
    (stackResourceControlID stack.endpointID stack.name) .stack)).mapError
      (internalServerError "Unable to retrieve a resource control associated to the stack")

/-- `userCanAccessStack`. -/
def userCanAccessStack (context : RestrictedRequestContext) (resourceControl : Option ResourceControl) :
    Fallible Host Bool := do
  let user ← onServer (Server.user.getObject context.userID)
  let userTeamIDs := context.userMemberships.map TeamMembership.teamID
  return resourceControl.any (userCanAccessResource context.userID userTeamIDs) ||
    user.role = .administrator

/-- The stack of a request has to be open to its user. -/
def permitStack (context : RequestContext) (resourceControl : Option ResourceControl) :
    Handler Host Unit := do
  let access ← (userCanAccessStack context.restricted resourceControl).mapError
    (internalServerError "Unable to verify user authorizations to validate stack access")
  .require (access = true) (forbidden "Access denied to resource" errResourceAccessDenied)

/-- `userIsAdmin`. -/
def userIsAdmin (userID : UserID) : Fallible Host Bool := do
  let user ← onServer (Server.user.getObject userID)
  return user.role = .administrator

/-! ## Names -/

/-- A stored stack of the environment has the name, up to case. -/
def nameTaken (services : Services) (existing : List Stack) (endpointID : EndpointID) (name : String)
    (stackID : StackID) : Bool :=
  existing.any fun stack => services.equalFold stack.name name &&
    (stackID = 0 || stackID ≠ stack.id) && stack.endpointID = endpointID

/-- The stacks that the services of a cluster belong to. -/
def listNamespaces (outside : Outside) (swarmMode : Bool) : Fallible Host (List String) :=
  if swarmMode then .query .dockerClient fun _ => outside.serviceNamespaces else pure []

/-- The daemon runs nothing under the name. -/
def daemonNameFree (outside : Outside) (name : String) (swarmMode : Bool) : Fallible Host Bool := do
  .query .dockerClient fun _ => ()
  let namespaces ← listNamespaces outside swarmMode
  if name ∈ namespaces then pure false
  else do
    let projects ← .query .dockerClient fun _ => outside.composeProjects
    pure (name ∉ projects)

/-- `checkUniqueName`. -/
def checkUniqueName (services : Services) (outside : Outside) (endpoint : Endpoint) (name : String)
    (stackID : StackID) (swarmMode : Bool) : Fallible Host Bool := do
  let existing ← onServer Server.stack.getAll
  if nameTaken services existing endpoint.id name stackID then pure false
  else daemonNameFree outside name swarmMode

/-- The name has to be free, or the handler answers with the message. -/
def requireUniqueName (services : Services) (outside : Outside) (endpoint : Endpoint) (name : String)
    (stackID : StackID) (swarmMode : Bool) (errorMessage : String) : Handler Host Unit := do
  let isUnique ← (checkUniqueName services outside endpoint name stackID swarmMode).mapError
    (internalServerError "Unable to check for name collision")
  .require (isUnique = true) ⟨409, errorMessage, errorMessage⟩

/-! ## The data service -/

/-- `CreateStack`: the sequence is managed by hand. -/
def createStack (stack : Stack) : Fallible Host Unit :=
  onServer (.call .databaseWrite (Server.stack.change fun b => (b.setSequence stack.id).put stack))

/-- `UpdateStack`. -/
def updateStack (stack : Stack) : Fallible Host Unit := onServer (Server.stack.updateObject stack)

end Stacks

end Portainer
