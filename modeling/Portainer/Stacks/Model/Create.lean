import Portainer.Stacks.Model.Access
/-!
# Creating stacks — the routes of `stackCreate`

A stack is made from a text, an upload or a repository, for Compose, for
Swarm or for Kubernetes. The routes for Docker put the files in place,
deploy, store the record and then create the resource control; the clean-up
that they defer is switched off once the record is stored. The routes for
Kubernetes defer the same clean-up.
-/

namespace Portainer

namespace Stacks

open HandlerError (badRequest forbidden internalServerError)

/-- What a creation answers: a stack with its resource control, or what the
Kubernetes deployer printed. -/
inductive CreateResponse
  | stack (stack : Stack) (resourceControl : ResourceControl)
  | output (output : String)

/-- `ComposeFileDefaultName`. -/
def composeFileDefaultName : Path := "docker-compose.yml".toList

/-- `ManifestFileDefaultName`. -/
def manifestFileDefaultName : Path := "k8s-deployment.yml".toList

/-! ## Parts of the routes -/

/-- `cleanUp`, which logs its error. -/
def cleanUp (stack : Stack) : Handler Host Unit := do
  let _ ← (removeDirectory stack.projectPath).attempt

/-- `decorateStackResponse`: an administrator's stack is for
administrators, and any other for its user. -/
def decorateStackResponse (stack : Stack) (userID : UserID) : Handler Host CreateResponse := do
  let isAdmin ← (userIsAdmin userID).mapError
    (internalServerError "Unable to load user information from the database")
  let resourceID := stackResourceControlID stack.endpointID stack.name
  let resourceControl ← (onServer (Server.createResourceControl
    (if isAdmin then newAdministratorsOnlyResourceControl resourceID .stack
      else newPrivateResourceControl resourceID .stack userID))).mapError
    (internalServerError "Unable to persist resource control inside the database")
  return .stack stack resourceControl

/-- `cloneAndSaveConfig`. -/
def cloneAndSaveConfig (outside : Outside) (stack : Stack) (repositoryURL referenceName : String)
    (configFilePath : Path) : Fallible Host Stack := do
  (cloneRepository stack.id stack.projectPath outside.repository).mapError
    ("unable to clone git repository: " ++ ·)
  return { stack with gitConfig := some ⟨repositoryURL, referenceName, configFilePath⟩ }

/-- Deploy a stack and store its record. -/
def deployAndCreate (services : Services) (context : RequestContext) (endpoint : Endpoint)
    (stack : Stack) : Handler Host Stack := do
  let config ← createDeployConfig context stack endpoint false
  (deployAs services stack.type config).mapError fun err => internalServerError err err
  let created := { stack with createdBy := config.user.username }
  (createStack created).mapError
    (internalServerError "Unable to persist the stack inside the database")
  return created

/-! ## Docker stacks -/

/-- What the routes for Docker are given to make a stack. -/
structure DockerStack where
  type : StackType
  name : String
  swarmID : String := ""
  env : List Pair := []

/-- The record of a stack that is about to be made. -/
def DockerStack.toStack (d : DockerStack) (outside : Outside) (endpoint : Endpoint) (stackID : StackID)
    (entryPoint : Path) : Stack where
  id := stackID
  name := d.name
  type := d.type
  endpointID := endpoint.id
  swarmID := d.swarmID
  entryPoint := entryPoint
  env := d.env
  status := .active
  creationDate := outside.now

/-- The routes from a text and from an upload, once the name is free. -/
def createFromContent (services : Services) (outside : Outside) (context : RequestContext)
    (endpoint : Endpoint) (d : DockerStack) (stackFileContent : String) :
    Handler Host CreateResponse := do
  let stackID ← onServer Server.stack.getNextIdentifier
  let stack := d.toStack outside endpoint stackID composeFileDefaultName
  let projectPath ← (storeStackFileFromBytes services stackID stack.entryPoint stackFileContent).mapError
    (internalServerError "Unable to persist Compose file on disk")
  let stack := { stack with projectPath := projectPath }
  let created ← Action.onError (cleanUp stack) (deployAndCreate services context endpoint stack)
  decorateStackResponse created context.tokenData.id

/-- The routes from a repository, once the name is free. -/
def createFromRepository (services : Services) (outside : Outside) (context : RequestContext)
    (endpoint : Endpoint) (d : DockerStack) (repositoryURL referenceName : String)
    (configFilePath : Path) : Handler Host CreateResponse := do
  let stackID ← onServer Server.stack.getNextIdentifier
  let stack := { d.toStack outside endpoint stackID configFilePath with
    projectPath := services.getStackProjectPath (itoa stackID) }
  let created ← Action.onError (cleanUp stack) do
    let cloned ← (cloneAndSaveConfig outside stack repositoryURL referenceName configFilePath).mapError
      (internalServerError "Unable to clone git repository")
    deployAndCreate services context endpoint cloned
  decorateStackResponse created context.tokenData.id

def alreadyRunning (name : String) : String := s!"A stack with the name '{name}' is already running"

def alreadyExists (name : String) : String := s!"A stack with the name '{name}' already exists"

/-! ### Payloads -/

structure StackFromFileContentPayload where
  name : String
  swarmID : String := ""
  stackFileContent : String
  env : List Pair := []

/-- An upload. A value that is missing from the form is empty. -/
structure StackFromFileUploadPayload where
  name : String
  swarmID : String := ""
  stackFileContent : Option String
  env : Except String (List Pair) := .ok []

structure StackFromGitRepositoryPayload where
  name : String
  swarmID : String := ""
  repositoryURL : String
  repositoryReferenceName : String := ""
  repositoryAuthentication : Bool := false
  repositoryUsername : String := ""
  repositoryPassword : String := ""
  composeFilePathInRepository : Path := []
  env : List Pair := []

/-- The checks of a repository that the routes have in common. -/
def checkRepository (services : Services) (repositoryURL : String) (missingCredentials : Bool)
    (credentials : String) : Except String Unit :=
  if isNull repositoryURL ∨ services.isURL repositoryURL = false then
    .error "Invalid repository URL. Must correspond to a valid URL format"
  else if missingCredentials then .error credentials
  else .ok ()

def missingUsernameOrPassword : String :=
  "Invalid repository credentials. Username and password must be specified when authentication is enabled"

namespace StackFromGitRepositoryPayload

/-- The checks after those of the names. -/
def checkRepository (services : Services) (payload : StackFromGitRepositoryPayload) : Except String Unit :=
  Stacks.checkRepository services payload.repositoryURL
    (payload.repositoryAuthentication &&
      (isNull payload.repositoryUsername || isNull payload.repositoryPassword))
    missingUsernameOrPassword

/-- The path of the stack file, or the default. -/
def filePath (payload : StackFromGitRepositoryPayload) : Path :=
  if payload.composeFilePathInRepository = [] then composeFileDefaultName
  else payload.composeFilePathInRepository

end StackFromGitRepositoryPayload

def invalidPayload {α : Type} (checked : Except String α) : Handler Host α :=
  (Action.ofExcept checked).mapError (badRequest "Invalid request payload")

/-! ### Compose -/

/-- `composeStackFromFileContentPayload.Validate`. -/
def StackFromFileContentPayload.validateCompose (payload : StackFromFileContentPayload) :
    Except String Unit :=
  if isNull payload.name then .error "Invalid stack name"
  else if isNull payload.stackFileContent then .error "Invalid stack file content"
  else .ok ()

/-- `createComposeStackFromFileContent`. -/
def createComposeStackFromFileContent (services : Services) (outside : Outside)
    (context : RequestContext) (endpoint : Endpoint) (payload : StackFromFileContentPayload) :
    Handler Host CreateResponse := do
  invalidPayload payload.validateCompose
  let name := services.normalizeStackName payload.name
  requireUniqueName services outside endpoint name 0 false (alreadyRunning name)
  createFromContent services outside context endpoint
    { type := .dockerCompose, name := name, env := payload.env } payload.stackFileContent

/-- `composeStackFromGitRepositoryPayload.Validate`. -/
def StackFromGitRepositoryPayload.validateCompose (services : Services)
    (payload : StackFromGitRepositoryPayload) : Except String Unit :=
  if isNull payload.name then .error "Invalid stack name"
  else payload.checkRepository services

/-- `createComposeStackFromGitRepository`. -/
def createComposeStackFromGitRepository (services : Services) (outside : Outside)
    (context : RequestContext) (endpoint : Endpoint) (payload : StackFromGitRepositoryPayload) :
    Handler Host CreateResponse := do
  invalidPayload (payload.validateCompose services)
  let name := services.normalizeStackName payload.name
  requireUniqueName services outside endpoint name 0 false (alreadyExists name)
  createFromRepository services outside context endpoint
    { type := .dockerCompose, name := name, env := payload.env }
    payload.repositoryURL payload.repositoryReferenceName payload.filePath

/-- `decodeRequestForm`: the name, the content and the variables. -/
def StackFromFileUploadPayload.decodeRequestForm (payload : StackFromFileUploadPayload) :
    Except String (String × String × List Pair) := do
  let name ← if isNull payload.name then .error "Invalid stack name" else .ok payload.name
  let content ← payload.stackFileContent.elim
    (.error "Invalid Compose file. Ensure that the Compose file is uploaded correctly") .ok
  let env ← payload.env.mapError fun _ => "Invalid Env parameter"
  return (name, content, env)

/-- `createComposeStackFromFileUpload`. -/
def createComposeStackFromFileUpload (services : Services) (outside : Outside)
    (context : RequestContext) (endpoint : Endpoint) (payload : StackFromFileUploadPayload) :
    Handler Host CreateResponse := do
  let (formName, content, env) ← invalidPayload payload.decodeRequestForm
  let name := services.normalizeStackName formName
  requireUniqueName services outside endpoint name 0 false (alreadyExists name)
  createFromContent services outside context endpoint
    { type := .dockerCompose, name := name, env := env } content

/-! ### Swarm -/

/-- `swarmStackFromFileContentPayload.Validate`. -/
def StackFromFileContentPayload.validateSwarm (payload : StackFromFileContentPayload) :
    Except String Unit :=
  if isNull payload.name then .error "Invalid stack name"
  else if isNull payload.swarmID then .error "Invalid Swarm ID"
  else if isNull payload.stackFileContent then .error "Invalid stack file content"
  else .ok ()

/-- `createSwarmStackFromFileContent`. -/
def createSwarmStackFromFileContent (services : Services) (outside : Outside)
    (context : RequestContext) (endpoint : Endpoint) (payload : StackFromFileContentPayload) :
    Handler Host CreateResponse := do
  invalidPayload payload.validateSwarm
  requireUniqueName services outside endpoint payload.name 0 true (alreadyRunning payload.name)
  createFromContent services outside context endpoint
    { type := .dockerSwarm, name := payload.name, swarmID := payload.swarmID, env := payload.env }
    payload.stackFileContent

/-- `swarmStackFromGitRepositoryPayload.Validate`. -/
def StackFromGitRepositoryPayload.validateSwarm (services : Services)
    (payload : StackFromGitRepositoryPayload) : Except String Unit :=
  if isNull payload.name then .error "Invalid stack name"
  else if isNull payload.swarmID then .error "Invalid Swarm ID"
  else payload.checkRepository services

/-- `createSwarmStackFromGitRepository`. -/
def createSwarmStackFromGitRepository (services : Services) (outside : Outside)
    (context : RequestContext) (endpoint : Endpoint) (payload : StackFromGitRepositoryPayload) :
    Handler Host CreateResponse := do
  invalidPayload (payload.validateSwarm services)
  requireUniqueName services outside endpoint payload.name 0 true (alreadyRunning payload.name)
  createFromRepository services outside context endpoint
    { type := .dockerSwarm, name := payload.name, swarmID := payload.swarmID, env := payload.env }
    payload.repositoryURL payload.repositoryReferenceName payload.filePath

/-- `swarmStackFromFileUploadPayload.Validate`: the name, the cluster, the
content and the variables. -/
def StackFromFileUploadPayload.validateSwarm (payload : StackFromFileUploadPayload) :
    Except String (String × String × String × List Pair) := do
  let name ← if isNull payload.name then .error "Invalid stack name" else .ok payload.name
  let swarmID ← if isNull payload.swarmID then .error "Invalid Swarm ID" else .ok payload.swarmID
  let content ← payload.stackFileContent.elim
    (.error "Invalid Compose file. Ensure that the Compose file is uploaded correctly") .ok
  let env ← payload.env.mapError fun _ => "Invalid Env parameter"
  return (name, swarmID, content, env)

/-- `createSwarmStackFromFileUpload`. -/
def createSwarmStackFromFileUpload (services : Services) (outside : Outside)
    (context : RequestContext) (endpoint : Endpoint) (payload : StackFromFileUploadPayload) :
    Handler Host CreateResponse := do
  let (name, swarmID, content, env) ← invalidPayload payload.validateSwarm
  requireUniqueName services outside endpoint name 0 true (alreadyRunning name)
  createFromContent services outside context endpoint
    { type := .dockerSwarm, name := name, swarmID := swarmID, env := env } content

/-! ## Kubernetes stacks -/

/-- The record of a Kubernetes stack that is about to be made. -/
def kubernetesStack (outside : Outside) (endpoint : Endpoint) (stackID : StackID) (entryPoint : Path) :
    Stack where
  id := stackID
  type := .kubernetes
  endpointID := endpoint.id
  entryPoint := entryPoint
  status := .active
  creationDate := outside.now

structure KubernetesStringDeploymentPayload where
  composeFormat : Bool := false
  deploymentNamespace : String
  stackFileContent : String

/-- `kubernetesStringDeploymentPayload.Validate`. -/
def KubernetesStringDeploymentPayload.validate (payload : KubernetesStringDeploymentPayload) :
    Except String Unit :=
  if isNull payload.stackFileContent then .error "Invalid stack file content"
  else if isNull payload.deploymentNamespace then .error "Invalid namespace"
  else .ok ()

/-- `createKubernetesStackFromFileContent`: the clean-up it defers is never
switched off. -/
def createKubernetesStackFromFileContent (services : Services) (outside : Outside)
    (endpoint : Endpoint) (payload : KubernetesStringDeploymentPayload) :
    Handler Host CreateResponse := do
  invalidPayload payload.validate
  let stackID ← onServer Server.stack.getNextIdentifier
  let stack := kubernetesStack outside endpoint stackID manifestFileDefaultName
  let projectPath ←
    (storeStackFileFromBytes services stackID stack.entryPoint payload.stackFileContent).mapError
      (internalServerError "Unable to persist Kubernetes manifest file on disk")
  let stack := { stack with projectPath := projectPath }
  Action.defer (cleanUp stack) do
    let output ← (deployKubernetesStack outside payload.stackFileContent payload.composeFormat).mapError
      (internalServerError "Unable to deploy Kubernetes stack")
    (createStack stack).mapError
      (internalServerError "Unable to persist the Kubernetes stack inside the database")
    return .output output

structure KubernetesGitDeploymentPayload where
  composeFormat : Bool := false
  deploymentNamespace : String
  repositoryURL : String
  repositoryReferenceName : String := ""
  repositoryAuthentication : Bool := false
  repositoryUsername : String := ""
  repositoryPassword : String := ""
  filePathInRepository : Path

/-- `kubernetesGitDeploymentPayload.Validate`. -/
def KubernetesGitDeploymentPayload.validate (services : Services)
    (payload : KubernetesGitDeploymentPayload) : Except String Unit := do
  if isNull payload.deploymentNamespace then .error "Invalid namespace" else .ok ()
  checkRepository services payload.repositoryURL
    (payload.repositoryAuthentication && isNull payload.repositoryPassword)
    "Invalid repository credentials. Password must be specified when authentication is enabled"
  if payload.filePathInRepository = [] then .error "Invalid file path in repository" else .ok ()

/-- `cloneManifestContentFromGitRepo`. -/
def cloneManifestContentFromGitRepo (outside : Outside) (payload : KubernetesGitDeploymentPayload)
    (stack : Stack) : Fallible Host String := do
  cloneRepository stack.id stack.projectPath outside.repository
  getFileContent stack.id (Path.join [stack.projectPath, payload.filePathInRepository])

/-- `createKubernetesStackFromGitRepository`. -/
def createKubernetesStackFromGitRepository (services : Services) (outside : Outside)
    (endpoint : Endpoint) (payload : KubernetesGitDeploymentPayload) : Handler Host CreateResponse := do
  invalidPayload (payload.validate services)
  let stackID ← onServer Server.stack.getNextIdentifier
  let stack := { kubernetesStack outside endpoint stackID payload.filePathInRepository with
    projectPath := services.getStackProjectPath (itoa stackID) }
  Action.defer (cleanUp stack) do
    let stackFileContent ← (cloneManifestContentFromGitRepo outside payload stack).mapError
      (internalServerError "Failed to process manifest from Git repository")
    let output ← (deployKubernetesStack outside stackFileContent payload.composeFormat).mapError
      (internalServerError "Unable to deploy Kubernetes stack")
    (createStack stack).mapError
      (internalServerError "Unable to persist the stack inside the database")
    return .output output

/-! ## The entry point -/

/-- The body of a creation, for the type and the method that the query
names. -/
inductive CreateRequest
  | swarmString (payload : StackFromFileContentPayload)
  | swarmRepository (payload : StackFromGitRepositoryPayload)
  | swarmFile (payload : StackFromFileUploadPayload)
  | composeString (payload : StackFromFileContentPayload)
  | composeRepository (payload : StackFromGitRepositoryPayload)
  | composeFile (payload : StackFromFileUploadPayload)
  | kubernetesString (payload : KubernetesStringDeploymentPayload)
  | kubernetesRepository (payload : KubernetesGitDeploymentPayload)
  | otherMethod (type : StackType)
  | otherType

/-- `ErrInvalidQueryParameter`. -/
def errInvalidQueryParameter : String := "Invalid query parameter"

/-- The answer to a method that the type does not have. -/
def invalidMethod : StackType → HandlerError
  | .kubernetes => badRequest
      "Invalid value for query parameter: method. Value must be one of: string or repository"
      errInvalidQueryParameter
  | _ => badRequest
      "Invalid value for query parameter: method. Value must be one of: string, repository or file"
      errInvalidQueryParameter

/-- `createSwarmStack`, `createComposeStack` and `createKubernetesStack`. -/
def createStackFrom (services : Services) (outside : Outside) (context : RequestContext)
    (endpoint : Endpoint) : CreateRequest → Handler Host CreateResponse
  | .swarmString payload => createSwarmStackFromFileContent services outside context endpoint payload
  | .swarmRepository payload =>
    createSwarmStackFromGitRepository services outside context endpoint payload
  | .swarmFile payload => createSwarmStackFromFileUpload services outside context endpoint payload
  | .composeString payload =>
    createComposeStackFromFileContent services outside context endpoint payload
  | .composeRepository payload =>
    createComposeStackFromGitRepository services outside context endpoint payload
  | .composeFile payload => createComposeStackFromFileUpload services outside context endpoint payload
  | .kubernetesString payload => createKubernetesStackFromFileContent services outside endpoint payload
  | .kubernetesRepository payload =>
    createKubernetesStackFromGitRepository services outside endpoint payload
  | .otherMethod type => .fail (invalidMethod type)
  | .otherType => .fail (badRequest
      "Invalid value for query parameter: type. Value must be one of: 1 (Swarm stack) or 2 (Compose stack)"
      errInvalidQueryParameter)

/-- Regular users create stacks on a Docker environment only where that is
allowed. -/
def permitCreation (context : RequestContext) (endpoint : Endpoint) : Handler Host Unit :=
  if isDockerEndpoint endpoint && !endpoint.securitySettings.allowStackManagementForRegularUsers then do
    let canCreate ← (userIsAdmin context.restricted.userID).mapError (internalServerError
      "Unable to verify user authorizations to validate stack creation")
    .require (canCreate = true) (forbidden "Stack creation is disabled for non-admin users"
      "Stack creation is disabled for non-admin users")
  else pure ()

/-- `stackCreate`. -/
def stackCreate (services : Services) (outside : Outside) (context : RequestContext)
    (endpointID : EndpointID) (request : CreateRequest) : Handler Host CreateResponse := do
  let endpoint ← findEndpoint endpointNotFound endpointID
  permitCreation context endpoint
  permitEndpoint context endpoint
  createStackFrom services outside context endpoint request

end Stacks

end Portainer
