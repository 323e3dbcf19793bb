import Portainer.Stacks.Model.Host
/-!
# Deployment — from the stack file to the Docker binaries

What is checked of a stack file before it is deployed for a regular user,
and the calls of the managers that deploy a stack and take it down. A
manager reads the stack file itself, from the disk.
-/

namespace Portainer

namespace Stacks

open HandlerError (internalServerError)
open Path (join)

/-! ## The check of a stack file -/

/-- What the settings forbid a service of a stack file to have. -/
def checkService (securitySettings : EndpointSecuritySettings) (service : ComposeService) :
    Except String Unit :=
  if ¬ securitySettings.allowBindMountsForRegularUsers ∧ "bind" ∈ service.volumeTypes then
    .error "bind-mount disabled for non administrator users"
  else if ¬ securitySettings.allowPrivilegedModeForRegularUsers ∧ service.privileged then
    .error "privileged mode disabled for non administrator users"
  else if ¬ securitySettings.allowHostNamespaceForRegularUsers ∧ service.pid = "host" then
    .error "pid host disabled for non administrator users"
  else if ¬ securitySettings.allowDeviceMappingForRegularUsers ∧ service.devices.length > 0 then
    .error "device mapping disabled for non administrator users"
  else if ¬ securitySettings.allowSysctlSettingForRegularUsers ∧ service.sysctls.length > 0 then
    .error "sysctl setting disabled for non administrator users"
  else if ¬ securitySettings.allowContainerCapabilitiesForRegularUsers ∧
      (service.capAdd.length > 0 ∨ service.capDrop.length > 0) then
    .error "container capabilities disabled for non administrator users"
  else .ok ()

/-- `isValidStackFile`. -/
def isValidStackFile (services : Services) (stackFileContent : String)
    (securitySettings : EndpointSecuritySettings) : Except String Unit := do
  let composeServices ← services.loadCompose stackFileContent
  composeServices.forM (checkService securitySettings)

/-! ## The managers -/

/-- Hand a stack over to a manager, which reads the stack file. -/
def handOver (stack : Stack) (endpoint : Endpoint) (prune : Bool) : Fallible Host Unit := do
  let content ← getFileContent stack.id (stackFilePath stack)
  .modify (Host.perform (.deploy stack endpoint prune content))
  .call .stackManager id

/-- `fetchEndpointProxy`: a proxy to every environment that is not reached
through a local socket. -/
def fetchEndpointProxy (endpoint : Endpoint) : Fallible Host Unit :=
  if "unix://".toList <+: endpoint.url.toList ∨ "npipe://".toList <+: endpoint.url.toList then pure ()
  else .call .proxyManager id

/-- The line of a variable. -/
def envLine (v : Pair) : String := s!"{v.name}={v.value}\n"

/-- Write the variables, behind what the file holds. A line that cannot be
written is left out, since the error is dropped. -/
def writeEnv (stackID : StackID) (path : Path) : String → List Pair → Fallible Host Unit
  | _, [] => pure ()
  | content, v :: env => do
    let written ← (perform (.writeFile stackID path (content ++ envLine v))).attempt
    match written with
    | .ok _ => writeEnv stackID path (content ++ envLine v) env
    | .error _ => writeEnv stackID path content env

/-- `createEnvFile`. -/
def createEnvFile (stack : Stack) : Fallible Host Unit :=
  if stack.env = [] then pure ()
  else do
    let envFilePath := join [stack.projectPath, "stack.env".toList]
    perform (.openFile stack.id envFilePath)
    writeEnv stack.id envFilePath "" stack.env

/-- The file of variables that the library looks for. It may be missing. -/
def readEnvFile (stack : Stack) : Fallible Host Unit := do
  let _ ← (getFileContent stack.id (join [stack.projectPath, ".env".toList])).attempt

/-- Reach the environment: by a proxy, or by a client of the library. -/
def connect (services : Services) (endpoint : Endpoint) : Fallible Host Unit :=
  match services.composeStackManager with
  | .dockerCompose => fetchEndpointProxy endpoint
  | .libcompose => .call .stackManager id

/-- The variables of a stack, as the manager takes them. -/
def prepareEnv (services : Services) (stack : Stack) : Fallible Host Unit :=
  match services.composeStackManager with
  | .dockerCompose => createEnvFile stack
  | .libcompose => readEnvFile stack

/-- `ComposeStackManager.Up`. -/
def composeUp (services : Services) (stack : Stack) (endpoint : Endpoint) : Fallible Host Unit := do
  connect services endpoint
  prepareEnv services stack
  handOver stack endpoint false

/-- Hand a stack over to a manager to be taken down. -/
def takeDown (stack : Stack) (endpoint : Endpoint) : Fallible Host Unit := do
  .modify (Host.perform (.takeDown stack endpoint))
  .call .stackManager id

/-- `ComposeStackManager.Down`. It reads the stack file as well. -/
def composeDown (services : Services) (stack : Stack) (endpoint : Endpoint) : Fallible Host Unit := do
  connect services endpoint
  let _ ← getFileContent stack.id (stackFilePath stack)
  takeDown stack endpoint

/-- `SwarmStackManager.Deploy`. -/
def swarmDeploy (stack : Stack) (prune : Bool) (endpoint : Endpoint) : Fallible Host Unit :=
  handOver stack endpoint prune

/-- `SwarmStackManager.Remove`, by the name of the stack. -/
def swarmRemove (stack : Stack) (endpoint : Endpoint) : Fallible Host Unit := takeDown stack endpoint

/-- `SwarmStackManager.Login`, which drops the errors. -/
def login (registries : List Registry) : Fallible Host Unit :=
  (registries.filter (·.authentication)).forM fun _ => do
    let _ ← (Action.call .stackManager id).attempt

/-- `SwarmStackManager.Logout`. -/
def logout : Fallible Host Unit := .call .stackManager id

/-! ## Deploying -/

/-- `FilterRegistries`. -/
def filterRegistries (registries : List Registry) (user : User)
    (teamMemberships : List TeamMembership) (endpointID : EndpointID) : List Registry :=
  if user.role = .administrator then registries
  else registries.filter fun registry =>
    authorizedRegistryAccess registry user teamMemberships endpointID

/-- `composeStackDeploymentConfig` and `swarmStackDeploymentConfig`. -/
structure DeploymentConfig where
  stack : Stack
  endpoint : Endpoint
  registries : List Registry
  prune : Bool := false
  isAdmin : Bool
  user : User

/-- `createComposeDeployConfig` and `createSwarmDeployConfig`. -/
def createDeployConfig (context : RequestContext) (stack : Stack) (endpoint : Endpoint)
    (prune : Bool) : Handler Host DeploymentConfig := do
  let user ← (onServer (Server.user.getObject context.restricted.userID)).mapError
    (internalServerError "Unable to load user information from the database")
  let registries ← (onServer Server.registry.getAll).mapError
    (internalServerError "Unable to retrieve registries from the database")
  return {
    stack := stack
    endpoint := endpoint
    registries := filterRegistries registries user context.restricted.userMemberships endpoint.id
    prune := prune
    isAdmin := context.restricted.isAdmin
    user := user }

/-- The check of the stack file, where it is made. -/
def checkStackFile (services : Services) (checked : Bool) (config : DeploymentConfig) :
    Fallible Host Unit :=
  if checked then do
    let stackContent ← getFileContent config.stack.id (stackFilePath config.stack)
    .ofExcept (isValidStackFile services stackContent config.endpoint.securitySettings)
  else pure ()

/-- Some of what a Compose file may ask for is forbidden to regular
users. -/
def restrictsCompose (securitySettings : EndpointSecuritySettings) : Bool :=
  !securitySettings.allowBindMountsForRegularUsers ||
    !securitySettings.allowPrivilegedModeForRegularUsers ||
    !securitySettings.allowHostNamespaceForRegularUsers ||
    !securitySettings.allowDeviceMappingForRegularUsers ||
    !securitySettings.allowSysctlSettingForRegularUsers ||
    !securitySettings.allowContainerCapabilitiesForRegularUsers

/-- `deployComposeStack`. -/
def deployComposeStack (services : Services) (config : DeploymentConfig) : Fallible Host Unit := do
  checkStackFile services
    (restrictsCompose config.endpoint.securitySettings && config.user.role ≠ .administrator) config
  login config.registries
  composeUp services config.stack config.endpoint
  logout

/-- `deploySwarmStack`: it looks at one of the settings only to decide
whether to check. -/
def deploySwarmStack (services : Services) (config : DeploymentConfig) : Fallible Host Unit := do
  checkStackFile services
    (!config.endpoint.securitySettings.allowBindMountsForRegularUsers &&
      config.user.role ≠ .administrator) config
  login config.registries
  swarmDeploy config.stack config.prune config.endpoint
  logout

/-- Deploy as a Swarm stack, or as a Compose stack if it is not one. -/
def deployAs (services : Services) (type : StackType) (config : DeploymentConfig) :
    Fallible Host Unit :=
  if type = .dockerSwarm then deploySwarmStack services config else deployComposeStack services config

/-- `startStack`. -/
def startStack (services : Services) (stack : Stack) (endpoint : Endpoint) : Fallible Host Unit :=
  match stack.type with
  | .dockerCompose => composeUp services stack endpoint
  | .dockerSwarm => swarmDeploy stack true endpoint
  | .kubernetes => pure ()

/-- `stopStack`. -/
def stopStack (services : Services) (stack : Stack) (endpoint : Endpoint) : Fallible Host Unit :=
  match stack.type with
  | .dockerCompose => composeDown services stack endpoint
  | .dockerSwarm => swarmRemove stack endpoint
  | .kubernetes => pure ()

/-- `deleteStack`, of the managers. -/
def deleteStack (services : Services) (stack : Stack) (endpoint : Endpoint) : Fallible Host Unit :=
  if stack.type = .dockerSwarm then swarmRemove stack endpoint else composeDown services stack endpoint

/-- A manifest, converted if it is in the format of Compose. -/
def convertCompose (outside : Outside) (stackConfig : String) (composeFormat : Bool) :
    Fallible Host String :=
  if composeFormat then .query .kubernetesDeployer fun _ => outside.convertCompose stackConfig
  else pure stackConfig

/-- `deployKubernetesStack`. -/
def deployKubernetesStack (outside : Outside) (stackConfig : String) (composeFormat : Bool) :
    Fallible Host String := do
  let convertedConfig ← convertCompose outside stackConfig composeFormat
  .query .kubernetesDeployer fun _ => outside.deployOutput convertedConfig

end Stacks

end Portainer
