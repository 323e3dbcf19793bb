import Portainer.Stacks.Model.Create
/-!
# Operations on stacks

Update, update from Git, migrate, start, stop, associate, delete, inspect
and the stack file. Most of them ask about the environment that is stored
with the stack; the updates first replace it by the one that the query
names, zero if it names none.
-/

namespace Portainer

namespace Stacks

open HandlerError (badRequest forbidden internalServerError)

/-! ## Starting and stopping -/

/-- `stackStart`. -/
def stackStart (services : Services) (outside : Outside) (context : RequestContext)
    (stackID : StackID) : Handler Host Stack := do
  let stack ← findStack stackID
  let endpoint ← findEndpoint endpointNotFound stack.endpointID
  permitEndpoint context endpoint
  requireUniqueName services outside endpoint stack.name stack.id (stack.swarmID ≠ "")
    (alreadyRunning stack.name)
  let resourceControl ← findResourceControl stack
  permitStack context resourceControl
  .require (stack.status ≠ .active) (badRequest "Stack is already active" "Stack is already active")
  (startStack services stack endpoint).mapError (internalServerError "Unable to start stack")
  let stack := { stack with status := .active }
  (updateStack stack).mapError (internalServerError "Unable to update stack status")
  return stack

/-- `stackStop`. -/
def stackStop (services : Services) (context : RequestContext) (stackID : StackID) :
    Handler Host Stack := do
  let stack ← findStack stackID
  let endpoint ← findEndpoint endpointNotFound stack.endpointID
  permitEndpoint context endpoint
  let resourceControl ← findResourceControl stack
  permitStack context resourceControl
  .require (stack.status ≠ .inactive)
    (badRequest "Stack is already inactive" "Stack is already inactive")
  (stopStack services stack endpoint).mapError (internalServerError "Unable to stop stack")
  let stack := { stack with status := .inactive }
  (updateStack stack).mapError (internalServerError "Unable to update stack status")
  return stack

/-! ## Updates -/

def unpersistedChanges : String → HandlerError :=
  internalServerError "Unable to persist the stack changes inside the database"

/-- The stack of an update, on the environment of the query, once the user
is known to have access to both. -/
def findForUpdate (context : RequestContext) (stack : Stack) (endpointID : Option EndpointID) :
    Handler Host (Stack × Endpoint) := do
  let stack := { stack with endpointID := endpointID.getD 0 }
  let endpoint ← findEndpoint stackEndpointNotFound stack.endpointID
  permitEndpoint context endpoint
  let resourceControl ← findResourceControl stack
  permitStack context resourceControl
  return (stack, endpoint)

/-- `updateComposeStackPayload` and `updateSwarmStackPayload`. -/
structure UpdateStackPayload where
  stackFileContent : String
  env : List Pair := []
  prune : Bool := false

/-- `Validate`, of both payloads. -/
def UpdateStackPayload.validate (payload : UpdateStackPayload) : Except String Unit :=
  if isNull payload.stackFileContent then .error "Invalid stack file content" else .ok ()

/-- `updateSwarmStack` and `updateComposeStack`. Only the first knows about
pruning. -/
def updateAndDeployStack (services : Services) (outside : Outside) (context : RequestContext)
    (stack : Stack) (endpoint : Endpoint) (payload : UpdateStackPayload) : Handler Host Stack := do
  invalidPayload payload.validate
  let stack := { stack with env := payload.env }
  let _ ← (storeStackFileFromBytes services stack.id stack.entryPoint payload.stackFileContent).mapError
    (internalServerError "Unable to persist updated Compose file on disk")
  let config ← createDeployConfig context stack endpoint
    (payload.prune && stack.type = .dockerSwarm)
  let stack := { stack with
    updateDate := outside.now
    updatedBy := config.user.username
    status := .active }
  (deployAs services stack.type { config with stack := stack }).mapError
    fun err => internalServerError err err
  return stack

/-- `stackUpdate`. -/
def stackUpdate (services : Services) (outside : Outside) (context : RequestContext)
    (stackID : StackID) (endpointID : Option EndpointID) (payload : UpdateStackPayload) :
    Handler Host Stack := do
  let stack ← findStack stackID
  let (stack, endpoint) ← findForUpdate context stack endpointID
  let stack ← updateAndDeployStack services outside context stack endpoint payload
  (updateStack stack).mapError unpersistedChanges
  return stack

/-! ### From Git -/

structure UpdateStackGitPayload where
  repositoryReferenceName : String := ""
  repositoryAuthentication : Bool := false
  repositoryUsername : String := ""
  repositoryPassword : String := ""

/-- `updateStackGitPayload.Validate`. -/
def UpdateStackGitPayload.validate (payload : UpdateStackGitPayload) : Except String Unit :=
  if payload.repositoryAuthentication ∧
      (isNull payload.repositoryUsername ∨ isNull payload.repositoryPassword) then
    .error missingUsernameOrPassword
  else .ok ()

/-- `deployStack`: the stack with who updated it. -/
def deployStack (services : Services) (outside : Outside) (context : RequestContext) (stack : Stack)
    (endpoint : Endpoint) : Handler Host Stack := do
  let config ← createDeployConfig context stack endpoint false
  (deployAs services stack.type config).mapError fun err => internalServerError err err
  return { stack with
    updateDate := outside.now
    updatedBy := config.user.username
    status := .active }

/-- Where the files of a stack are kept during an update from Git. -/
def backupProjectPath (stack : Stack) : Path := stack.projectPath ++ "-old".toList

/-- Clone the repository of a stack anew. If that fails the files are moved
back, and an error of that is logged. -/
def replaceProject (outside : Outside) (stack : Stack) : Handler Host Unit :=
  Action.onError (do let _ ← (moveDirectory (backupProjectPath stack) stack.projectPath).attempt)
    ((cloneRepository stack.id stack.projectPath outside.repository).mapError
      (internalServerError "Unable to clone git repository"))

/-- Remove the files that were kept. An error is logged. -/
def removeBackup (stack : Stack) : Handler Host Unit := do
  let _ ← (removeDirectory (backupProjectPath stack)).attempt

/-- `stackUpdateGit`. -/
def stackUpdateGit (services : Services) (outside : Outside) (context : RequestContext)
    (stackID : StackID) (endpointID : Option EndpointID) (payload : UpdateStackGitPayload) :
    Handler Host Stack := do
  let stack ← findStack stackID
  let gitConfig ← .ofExcept
    (stack.gitConfig.elim (.error (badRequest "Stack is not created from git" "")) .ok)
  let (stack, endpoint) ← findForUpdate context stack endpointID
  invalidPayload payload.validate
  let stack := { stack with
    gitConfig := some { gitConfig with referenceName := payload.repositoryReferenceName } }
  (moveDirectory stack.projectPath (backupProjectPath stack)).mapError
    (internalServerError "Unable to move git repository directory")
  replaceProject outside stack
  Action.defer (removeBackup stack) do
    let stack ← deployStack services outside context stack endpoint
    (updateStack stack).mapError unpersistedChanges
    return stack

/-! ## Migration -/

structure StackMigratePayload where
  endpointID : EndpointID
  swarmID : String := ""
  name : String := ""

/-- `stackMigratePayload.Validate`. -/
def StackMigratePayload.validate (payload : StackMigratePayload) : Except String Unit :=
  if payload.endpointID = 0 then .error "Invalid endpoint identifier. Must be a positive number"
  else .ok ()

/-- The stack as it is deployed on the environment it is migrated to. -/
def StackMigratePayload.migrated (payload : StackMigratePayload) (stack : Stack) : Stack :=
  { stack with
    endpointID := payload.endpointID
    swarmID := if payload.swarmID ≠ "" then payload.swarmID else stack.swarmID
    name := if payload.name ≠ "" then payload.name else stack.name }

/-- `migrateStack`. -/
def migrateStack (services : Services) (context : RequestContext) (stack : Stack) (next : Endpoint) :
    Handler Host Unit := do
  let config ← createDeployConfig context stack next (stack.type = .dockerSwarm)
  (deployAs services stack.type config).mapError fun err => internalServerError err err

/-- `stackMigrate`. The environment of the query is overwritten by that of
the payload, and the old name is put back before the record is stored. -/
def stackMigrate (services : Services) (outside : Outside) (context : RequestContext)
    (stackID : StackID) (payload : StackMigratePayload) : Handler Host Stack := do
  invalidPayload payload.validate
  let stack ← findStack stackID
  let endpoint ← findEndpoint endpointNotFound stack.endpointID
  permitEndpoint context endpoint
  let resourceControl ← findResourceControl stack
  permitStack context resourceControl
  let targetEndpoint ← findEndpoint endpointNotFound payload.endpointID
  let migrated := payload.migrated stack
  requireUniqueName services outside targetEndpoint migrated.name migrated.id (migrated.swarmID ≠ "")
    s!"A stack with the name '{migrated.name}' is already running on endpoint '{targetEndpoint.name}'"
  migrateStack services context migrated targetEndpoint
  let migrated := { migrated with name := stack.name }
  (deleteStack services migrated endpoint).mapError fun err => internalServerError err err
  (updateStack migrated).mapError unpersistedChanges
  return migrated

/-! ## Association -/

/-- The resource control follows the stack to its new environment. -/
def moveResourceControl (stack : Stack) (endpointID : EndpointID) :
    Option ResourceControl → Handler Host Unit
  | none => pure ()
  | some rc => (onServer (Server.resourceControl.updateObject
      { rc with resourceID := stackResourceControlID endpointID stack.name })).mapError
    (internalServerError "Unable to persist resource control changes inside the database")

/-- `stackAssociate`. -/
def stackAssociate (outside : Outside) (context : RequestContext) (stackID : StackID)
    (endpointID : EndpointID) (swarmID : String) (orphanedRunning : Bool) : Handler Host Stack := do
  let user ← (onServer (Server.user.getObject context.restricted.userID)).mapError
    (internalServerError "Unable to load user information from the database")
  let stack ← findStack stackID
  let resourceControl ← findResourceControl stack
  moveResourceControl stack endpointID resourceControl
  let stack := { stack with
    endpointID := endpointID
    swarmID := swarmID
    status := if orphanedRunning then .active else .inactive
    creationDate := outside.now
    createdBy := user.username
    updateDate := 0
    updatedBy := "" }
  (updateStack stack).mapError unpersistedChanges
  return stack

/-! ## Deletion -/

/-- Delete the resource control of a stack, if there is one. -/
def deleteStackResourceControl : Option ResourceControl → Handler Host Unit
  | none => pure ()
  | some rc => (onServer (Server.resourceControl.deleteObject rc.id)).mapError
    (internalServerError "Unable to remove the associated resource control from the database")

/-- A stack on the environment of the request has to be open to its
user. -/
def permitDeletion (context : RequestContext) (endpoint : Endpoint)
    (resourceControl : Option ResourceControl) (isOrphaned : Bool) : Handler Host Unit :=
  if isOrphaned then pure ()
  else do
    permitEndpoint context endpoint
    permitStack context resourceControl

/-- `stackDelete`, of a stored stack. An administrator may name another
environment than that of the stack. -/
def stackDelete (services : Services) (context : RequestContext) (stackID : StackID)
    (endpointID : Option EndpointID) : Handler Host Unit := do
  let stack ← findStack stackID
  let isOrphaned : Bool := endpointID.getD 0 ≠ stack.endpointID
  .require (isOrphaned = false ∨ context.restricted.isAdmin = true)
    (forbidden "Permission denied to remove orphaned stack" "Permission denied to remove orphaned stack")
  let endpoint ← findEndpoint stackEndpointNotFound (endpointID.getD 0)
  let resourceControl ← findResourceControl stack
  permitDeletion context endpoint resourceControl isOrphaned
  (deleteStack services stack endpoint).mapError fun err => internalServerError err err
  (onServer (Server.stack.deleteObject stackID)).mapError
    (internalServerError "Unable to remove the stack from the database")
  deleteStackResourceControl resourceControl
  (removeDirectory stack.projectPath).mapError
    (internalServerError "Unable to remove stack files from disk")

/-- `StackByName`. -/
def stackByName (name : String) : Fallible Host (Option Stack) :=
  onServer (.query .databaseRead fun s => s.dataStore.stack.all.find? fun stack => stack.name = name)

/-- `deleteExternalStack`. -/
def deleteExternalStack (services : Services) (context : RequestContext) (stackName : String)
    (endpointID : EndpointID) : Handler Host Unit := do
  .require (context.restricted.isAdmin = true)
    ⟨401, "Permission denied to delete the stack", errUnauthorized⟩
  let found ← (stackByName stackName).mapError
    (internalServerError "Unable to check for stack existence inside the database")
  .require (found = none) (badRequest
    "A stack with this name exists inside the database. Cannot use external delete method"
    "A tag already exists with this name")
  let endpoint ← findEndpoint stackEndpointNotFound endpointID
  permitEndpoint context endpoint
  (deleteStack services
    { id := 0, name := stackName, type := .dockerSwarm, endpointID := 0, entryPoint := [] }
    endpoint).mapError (internalServerError "Unable to delete stack")

/-! ## Reading -/

/-- The endpoint of a stack that is read. An administrator reads stacks
whose endpoint is gone. -/
def findEndpointOrAdmin (context : RequestContext) (stack : Stack) : Handler Host (Option Endpoint) := do
  let endpoint ← (onServer (.query .databaseRead fun s =>
    s.dataStore.endpoint.get? stack.endpointID)).mapError (internalServerError endpointNotFound)
  .require (endpoint.isSome = true ∨ context.restricted.isAdmin = true)
    ⟨404, endpointNotFound, errObjectNotFound⟩
  return endpoint

/-- A stack that is read has to be open to its user, if its endpoint is
there. -/
def permitReading (context : RequestContext) (stack : Stack) :
    Option Endpoint → Handler Host (Option ResourceControl)
  | none => pure none
  | some endpoint => do
    permitEndpoint context endpoint
    let resourceControl ← findResourceControl stack
    permitStack context resourceControl
    return resourceControl

/-- `stackInspect`. -/
def stackInspect (context : RequestContext) (stackID : StackID) :
    Handler Host (Stack × Option ResourceControl) := do
  let stack ← findStack stackID
  let endpoint ← findEndpointOrAdmin context stack
  let resourceControl ← permitReading context stack endpoint
  return (stack, resourceControl)

/-- `stackFile`. -/
def stackFile (context : RequestContext) (stackID : StackID) : Handler Host String := do
  let stack ← findStack stackID
  let endpoint ← findEndpointOrAdmin context stack
  let _ ← permitReading context stack endpoint
  (getFileContent stack.id (stackFilePath stack)).mapError
    (internalServerError "Unable to retrieve Compose file from disk")

end Stacks

end Portainer
