import Portainer.DockerProxy.Model.AccessControl
/-!
# The Docker proxy — the operations on each kind of resource

What is done to the answer of a list or an inspection, kind by kind, and
the requests the proxy looks into before it forwards them: creations, which
are checked against the security settings of the environment and get a
resource control, image operations, whose registry credentials are put in,
and builds.
-/

namespace Portainer

namespace DockerProxy

open Json (Object)

/-! ## Where an object has its identifier and its labels -/

/-- The labels object at the end of a path of properties, nil where one is
missing. -/
def selectLabels : List String → Object → Local (Option Object)
  | [], object => pure (some object)
  | property :: properties, object => do
    match ← getJSONObject object property with
    | none => pure none
    | some inner => selectLabels properties inner

def selectorContainerLabelsFromContainerInspectOperation := selectLabels ["Config", "Labels"]
def selectorContainerLabelsFromContainerListOperation := selectLabels ["Labels"]
def selectorServiceLabels := selectLabels ["Spec", "Labels"]
def selectorConfigLabels := selectLabels ["Spec", "Labels"]
def selectorSecretLabels := selectLabels ["Spec", "Labels"]
def selectorNetworkLabels := selectLabels ["Labels"]
def selectorVolumeLabels := selectLabels ["Labels"]
def selectorTaskLabels := selectLabels ["Spec", "ContainerSpec", "Labels"]

def containerObjectIdentifier : String := "Id"
def networkObjectIdentifier : String := "Id"
def serviceObjectIdentifier : String := "ID"
def configObjectIdentifier : String := "ID"
def secretObjectIdentifier : String := "ID"
def volumeObjectIdentifier : String := "ResourceID"
def taskServiceObjectIdentifier : String := "ServiceID"

def containerListParameters : ResourceOperationParameters :=
  ⟨containerObjectIdentifier, .container, selectorContainerLabelsFromContainerListOperation⟩
def containerInspectParameters : ResourceOperationParameters :=
  ⟨containerObjectIdentifier, .container, selectorContainerLabelsFromContainerInspectOperation⟩
def serviceParameters : ResourceOperationParameters :=
  ⟨serviceObjectIdentifier, .service, selectorServiceLabels⟩
def configParameters : ResourceOperationParameters :=
  ⟨configObjectIdentifier, .config, selectorConfigLabels⟩
def secretParameters : ResourceOperationParameters :=
  ⟨secretObjectIdentifier, .secret, selectorSecretLabels⟩
def networkParameters : ResourceOperationParameters :=
  ⟨networkObjectIdentifier, .network, selectorNetworkLabels⟩
def volumeParameters : ResourceOperationParameters :=
  ⟨volumeObjectIdentifier, .volume, selectorVolumeLabels⟩
def taskParameters : ResourceOperationParameters :=
  ⟨taskServiceObjectIdentifier, .service, selectorTaskLabels⟩

/-! ## Lists and inspections -/

/-- The answer to a list, filtered or decorated. -/
def listOperation (parameters : ResourceOperationParameters) (t : Transport) :
    RestrictedOperationRequest := fun response executor => do
  let responseArray ← getResponseAsJSONArray response
  let kept ← applyAccessControlOnResourceList t parameters responseArray executor
  pure (rewriteResponse (.arr kept) 200)

/-- The answer to an inspection, decorated or refused. -/
def inspectOperation (parameters : ResourceOperationParameters) (t : Transport) :
    RestrictedOperationRequest := fun response executor => do
  let responseObject ← getResponseAsJSONObject response
  applyAccessControlOnResource t parameters responseObject response executor

def serviceListOperation := listOperation serviceParameters
def configListOperation := listOperation configParameters
def secretListOperation := listOperation secretParameters
def networkListOperation := listOperation networkParameters
def taskListOperation := listOperation taskParameters

def containerInspectOperation := inspectOperation containerInspectParameters
def serviceInspectOperation := inspectOperation serviceParameters
def configInspectOperation := inspectOperation configParameters
def secretInspectOperation := inspectOperation secretParameters
def networkInspectOperation := inspectOperation networkParameters

/-- `containerHasBlackListedLabel`. -/
def containerHasBlackListedLabel (labelBlackList : List Pair) : Object → Local Bool
  | [] => pure false
  | (labelName, value) :: containerLabels => do
    let labelValue ← asString value
    if labelBlackList.any fun l => l.name = labelName ∧ l.value = labelValue then pure true
    else containerHasBlackListedLabel labelBlackList containerLabels

/-- One container of the list: left out if it has a black listed label. -/
def filterContainer (labelBlackList : List Pair) (container : Json) : Local (List Json) := do
  let object ← asObject container
  match ← selectorContainerLabelsFromContainerListOperation object with
  | none => pure [.obj object]
  | some containerLabels => do
    let listed ← containerHasBlackListedLabel labelBlackList containerLabels
    pure (if listed then [] else [.obj object])

/-- `filterContainersWithBlackListedLabels`, where there is a black
list. -/
def filterContainersWithBlackListedLabels (containerData : List Json) :
    Option (List Pair) → Local (List Json)
  | none => pure containerData
  | some labelBlackList => collect (filterContainer labelBlackList) containerData

def containerListOperation (t : Transport) : RestrictedOperationRequest := fun response executor => do
  let responseArray ← getResponseAsJSONArray response
  let kept ← applyAccessControlOnResourceList t containerListParameters responseArray executor
  let unlisted ← filterContainersWithBlackListedLabels kept executor.labelBlackList
  pure (rewriteResponse (.arr unlisted) 200)

/-- `decorateVolumeResponseWithResourceID`. -/
def decorateVolumeResponseWithResourceID (t : Transport) (responseObject : Object) : Local Object :=
  if (responseObject.get "Name").isNull then
    Action.fail "missing identifier in Docker resource detail response"
  else do
    let name ← asString (responseObject.get "Name")
    let resourceID ← Action.mapError (fun e => "failed fetching resource id: " ++ e)
      (getVolumeResourceID t name)
    pure (responseObject.set volumeObjectIdentifier (.str resourceID))

/-- The same, for one element of a list. -/
def decorateVolume (t : Transport) (volumeObject : Json) : Local (List Json) := do
  let volume ← asObject volumeObject
  let decorated ← Action.mapError (fun e => "failed decorating volume response: " ++ e)
    (decorateVolumeResponseWithResourceID t volume)
  pure [.obj decorated]

def volumeListOperation (t : Transport) : RestrictedOperationRequest := fun response executor => do
  let responseObject ← getResponseAsJSONObject response
  if (responseObject.get "Volumes").isNull then pure (rewriteResponse (.obj responseObject) 200)
  else do
    let volumeObjects ← asArray (responseObject.get "Volumes")
    let volumeData ← collect (decorateVolume t) volumeObjects
    let kept ← applyAccessControlOnResourceList t volumeParameters volumeData executor
    pure (rewriteResponse (.obj (responseObject.set "Volumes" (.arr kept))) 200)

def volumeInspectOperation (t : Transport) : RestrictedOperationRequest := fun response executor => do
  let responseObject ← getResponseAsJSONObject response
  let decorated ← Action.mapError (fun e => "failed decorating volume response: " ++ e)
    (decorateVolumeResponseWithResourceID t responseObject)
  applyAccessControlOnResource t volumeParameters decorated response executor

/-- `swarmInspectOperation`: the secrets of the cluster are for
administrators. -/
def swarmInspectOperation : RestrictedOperationRequest := fun response executor => do
  let responseObject ← getResponseAsJSONObject response
  pure <| if executor.operationContext.isAdmin then rewriteResponse (.obj responseObject) 200
    else rewriteResponse (.obj ((responseObject.erase "JoinTokens").erase "TLSInfo")) 200

/-! ## Forwarding with the answer rewritten -/

/-- `createOperationContext`. -/
def createOperationContext (request : Request) : Local RestrictedDockerOperationContext := do
  let tokenData ← retrieveTokenData request
  let resourceControls ← read fun db => db.resourceControl.all
  if tokenData.role = .administrator then pure ⟨true, tokenData.id, [], resourceControls⟩
  else do
    let userTeamIDs ← read fun db => db.userTeamIDs tokenData.id
    pure ⟨false, tokenData.id, userTeamIDs, resourceControls⟩

/-- `executeRequestAndRewriteResponse`. -/
def executeRequestAndRewriteResponse (t : Transport) (request : Request)
    (operation : RestrictedOperationRequest) (executor : OperationExecutor) : Proxy Response := do
  let response ← executeDockerRequest t request
  operation response executor

/-- `rewriteOperation`. -/
def rewriteOperation (t : Transport) (request : Request) (operation : RestrictedOperationRequest) :
    Proxy Response := do
  let operationContext ← createOperationContext request
  executeRequestAndRewriteResponse t request operation { operationContext := operationContext }

/-- `rewriteOperationWithLabelFiltering`. -/
def rewriteOperationWithLabelFiltering (t : Transport) (request : Request)
    (operation : RestrictedOperationRequest) : Proxy Response := do
  let operationContext ← createOperationContext request
  let settings ← read DataStore.settings
  executeRequestAndRewriteResponse t request operation
    { operationContext := operationContext, labelBlackList := settings.blackListedLabels }

/-! ## Creations -/

/-- `createPrivateResourceControl`. -/
def createPrivateResourceControl (resourceIdentifier : String) (resourceType : ResourceControlType)
    (userID : UserID) : Local ResourceControl :=
  createResourceControl (newPrivateResourceControl resourceIdentifier resourceType userID)

/-- `decorateGenericResourceCreationResponse`. -/
def decorateGenericResourceCreationResponse (response : Response)
    (resourceIdentifierAttribute : String) (resourceType : ResourceControlType)
    (userID : UserID) : Local Response := do
  let responseObject ← getResponseAsJSONObject response
  if (responseObject.get resourceIdentifierAttribute).isNull then
    Action.fail "missing identifier in Docker resource creation response"
  else do
    let resourceID ← asString (responseObject.get resourceIdentifierAttribute)
    let rc ← createPrivateResourceControl resourceID resourceType userID
    let decorated ← decorateObject responseObject rc
    pure (rewriteResponse (.obj decorated) 200)

/-- `decorateVolumeCreationResponse`. -/
def decorateVolumeCreationResponse (t : Transport) (response : Response)
    (resourceType : ResourceControlType) (userID : UserID) : Local Response := do
  let responseObject ← getResponseAsJSONObject response
  if (responseObject.get "Name").isNull then
    Action.fail "missing identifier in Docker resource creation response"
  else do
    let name ← asString (responseObject.get "Name")
    let resourceID ← Action.mapError (fun e => "failed fetching resource id: " ++ e)
      (getVolumeResourceID t name)
    let rc ← createPrivateResourceControl resourceID resourceType userID
    let decorated ← decorateObject (responseObject.set volumeObjectIdentifier (.str resourceID)) rc
    pure (rewriteResponse (.obj decorated) 200)

/-- Forward a creation, and decorate the answer if the resource was
created. -/
def executeAndDecorate (t : Transport) (request : Request) (decorate : Response → Local Response) :
    Proxy Response := do
  let response ← executeDockerRequest t request
  if response.statusCode = 201 then decorate response else pure response

/-- `decorateGenericResourceCreationOperation`. -/
def decorateGenericResourceCreationOperation (t : Transport) (request : Request)
    (resourceIdentifierAttribute : String) (resourceType : ResourceControlType) :
    Proxy Response := do
  let tokenData ← retrieveTokenData request
  executeAndDecorate t request fun response =>
    decorateGenericResourceCreationResponse response resourceIdentifierAttribute resourceType
      tokenData.id

/-- A volume that is to have a given name must not exist. -/
def checkVolumeName (t : Transport) (request : Request) : Local Unit :=
  if request.volumeName = "" then pure ()
  else do
    let client ← clientFor t request.agentTarget
    match t.daemon.inspect client .volume request.volumeName with
    | .ok _ => Action.fail "a volume with the same name already exists"
    | .error _ => pure ()

/-- `decorateVolumeResourceCreationOperation`. -/
def decorateVolumeResourceCreationOperation (t : Transport) (request : Request)
    (resourceType : ResourceControlType) : Proxy Response := do
  let tokenData ← retrieveTokenData request
  checkVolumeName t request
  executeAndDecorate t request fun response =>
    decorateVolumeCreationResponse t response resourceType tokenData.id

/-! ### Containers and services: the security settings -/

/-- The part of a container's host configuration the proxy looks at. -/
structure PartialHostConfig where
  privileged : Bool := false
  pidMode : String := ""
  devices : Json.Slice Json := {}
  sysctls : Object := []
  capAdd : Json.Slice String := {}
  capDrop : Json.Slice String := {}
  binds : Json.Slice String := {}

/-- `PartialContainer`. -/
structure PartialContainer where
  hostConfig : PartialHostConfig := {}

/-- A mount of a service, as far as the proxy looks at it. -/
structure PartialMount where
  type : String := ""

/-- `PartialService`, with the mounts of its container specification. -/
structure PartialService where
  mounts : Json.Slice PartialMount := {}

namespace Decode

open Json.Decoder

def hostConfigFields : List (String × Json.Decoder PartialHostConfig) :=
  [("Privileged", field (·.privileged) (fun c a => { c with privileged := a }) bool),
    ("PidMode", field (·.pidMode) (fun c a => { c with pidMode := a }) string),
    ("Devices", field (·.devices) (fun c a => { c with devices := a }) (slice any .null)),
    ("Sysctls", field (·.sysctls) (fun c a => { c with sysctls := a }) map),
    ("CapAdd", field (·.capAdd) (fun c a => { c with capAdd := a }) (slice string "")),
    ("CapDrop", field (·.capDrop) (fun c a => { c with capDrop := a }) (slice string "")),
    ("Binds", field (·.binds) (fun c a => { c with binds := a }) (slice string ""))]

def partialContainer : Json.Decoder PartialContainer :=
  struct [("HostConfig", field (·.hostConfig) (fun c a => { c with hostConfig := a })
    (struct hostConfigFields))]

def mount : Json.Decoder PartialMount :=
  struct [("Type", field (·.type) (fun m a => { m with type := a }) string)]

def partialService : Json.Decoder PartialService :=
  struct [("TaskTemplate", struct [("ContainerSpec",
    struct [("Mounts", field (·.mounts) (fun c a => { c with mounts := a }) (slice mount {}))])])]

/-- `postDockerfileRequest`. -/
def postDockerfileRequest : Json.Decoder String := struct [("Content", string)]

end Decode

/-- What the settings forbid a container to ask for. -/
def checkPartialContainer (securitySettings : EndpointSecuritySettings) (c : PartialContainer) :
    Local Unit := do
  Action.require (securitySettings.allowPrivilegedModeForRegularUsers ∨ ¬ c.hostConfig.privileged)
    "forbidden to use privileged mode"
  Action.require (securitySettings.allowHostNamespaceForRegularUsers ∨ c.hostConfig.pidMode ≠ "host")
    "forbidden to use pid host namespace"
  Action.require
    (securitySettings.allowDeviceMappingForRegularUsers ∨ c.hostConfig.devices.elements.length = 0)
    "forbidden to use device mapping"
  Action.require (securitySettings.allowSysctlSettingForRegularUsers ∨ c.hostConfig.sysctls.length = 0)
    "forbidden to use sysctl settings"
  Action.require (securitySettings.allowContainerCapabilitiesForRegularUsers ∨
      (c.hostConfig.capAdd.elements.length = 0 ∧ c.hostConfig.capDrop.elements.length = 0))
    "forbidden to use container capabilities"
  Action.require
    (securitySettings.allowBindMountsForRegularUsers ∨ c.hostConfig.binds.elements.length = 0)
    "forbidden to use bind mounts"

/-- What they forbid a service to ask for. -/
def checkPartialService (securitySettings : EndpointSecuritySettings) (s : PartialService) :
    Local Unit :=
  Action.require
    (securitySettings.allowBindMountsForRegularUsers ∨ ∀ m ∈ s.mounts.elements, m.type ≠ "bind")
    "forbidden to use bind mounts"

/-- The request of a regular user, once its body has been read and has
passed the check under the settings of the environment. -/
def checkedRequest {α : Type} (t : Transport) (request : Request) (d : Json.Decoder α) (zero : α)
    (check : EndpointSecuritySettings → α → Local Unit) : Local Request := do
  let admin ← isAdminOrEndpointAdmin request
  if admin then pure request
  else do
    let securitySettings ← fetchEndpointSecuritySettings t
    let body ← readBody request
    let value ← unmarshal d zero body.unmarshal
    check securitySettings value
    pure { request with body := body }

/-- `decorateContainerCreationOperation`. -/
def decorateContainerCreationOperation (t : Transport) (request : Request)
    (resourceIdentifierAttribute : String) (resourceType : ResourceControlType) :
    Proxy Response := do
  let tokenData ← retrieveTokenData request
  let checked ← checkedRequest t request Decode.partialContainer {} checkPartialContainer
  executeAndDecorate t checked fun response =>
    decorateGenericResourceCreationResponse response resourceIdentifierAttribute resourceType
      tokenData.id

/-! ### Registry credentials -/

/-- `registryAccessContext`. -/
structure RegistryAccessContext where
  isAdmin : Bool
  user : User
  endpointID : EndpointID
  teamMemberships : List TeamMembership
  registries : List Registry

/-- `createRegistryAccessContext`. -/
def createRegistryAccessContext (t : Transport) (request : Request) :
    Local RegistryAccessContext := do
  let tokenData ← retrieveTokenData request
  let user ← readObject fun db => db.user.get? tokenData.id
  let registries ← read fun db => db.registry.all
  if user.role = .administrator then pure ⟨true, user, t.endpoint.id, [], registries⟩
  else do
    let teamMemberships ← read fun db => db.teamMembershipsByUserID tokenData.id
    pure ⟨false, user, t.endpoint.id, teamMemberships, registries⟩

/-- `createRegistryAuthenticationHeader`: anonymous for Docker Hub, the
credentials of the registry if the user may use it, or else none. -/
def createRegistryAuthenticationHeader (registryID : RegistryID)
    (accessContext : RegistryAccessContext) : Option RegistryAuthenticationHeader :=
  if registryID = 0 then some { serveraddress := "docker.io" }
  else
    (accessContext.registries.find? fun registry =>
      registry.id = registryID ∧ (accessContext.isAdmin ∨
        authorizedRegistryAccess registry accessContext.user accessContext.teamMemberships
          accessContext.endpointID)).map fun registry =>
      { username := registry.username, password := registry.password, serveraddress := registry.url }

/-- The header the request is forwarded with. -/
def replacedHeader (accessContext : RegistryAccessContext) : RegistryAuth → Local RegistryAuth
  | .absent => pure .absent
  | .client registryID => do
    let id ← Action.ofExcept registryID
    pure (.docker (createRegistryAuthenticationHeader id accessContext))
  | .docker _ => pure (.docker (createRegistryAuthenticationHeader 0 accessContext))

/-- `replaceRegistryAuthenticationHeader`. -/
def replaceRegistryAuthenticationHeader (t : Transport) (request : Request) : Proxy Response := do
  let accessContext ← createRegistryAccessContext t request
  let registryAuth ← replacedHeader accessContext request.registryAuth
  decorateGenericResourceCreationOperation t { request with registryAuth := registryAuth }
    serviceObjectIdentifier .service

/-- `decorateServiceCreationOperation`. -/
def decorateServiceCreationOperation (t : Transport) (request : Request) : Proxy Response := do
  let checked ← checkedRequest t request Decode.partialService {} checkPartialService
  replaceRegistryAuthenticationHeader t checked

/-! ## Builds -/

/-- Whether one list occurs in another. -/
def containsText (t l : List Char) : Bool := l.tails.any fun s => t.isPrefixOf s

/-- The Dockerfile of a build request: its body as it is, or the content of
its payload. -/
def dockerfileContent (request : Request) : Local String := do
  let body ← readBody request
  if request.contentType = "" then pure body.text
  else unmarshal Decode.postDockerfileRequest "" body.decode

/-- `buildOperation`: a Dockerfile sent as such or in a payload is put into
a tar archive. -/
def buildOperation (request : Request) : Local Request :=
  if request.contentType ≠ "" ∧
      containsText "application/json".toList request.contentType.toList = false then pure request
  else do
    let content ← dockerfileContent request
    pure { request with body := .tar content, contentType := "application/x-tar" }

/-- `interceptAndRewriteRequest`. -/
def interceptAndRewriteRequest (t : Transport) (request : Request)
    (operation : Request → Local Request) : Proxy Response := do
  let rewritten ← operation request
  executeDockerRequest t rewritten

end DockerProxy

end Portainer
