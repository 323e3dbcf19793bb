import Portainer.Inventory.Model.Services
import Portainer.Kubernetes.Model.Access
/-!
# Endpoints — create, update, delete

The handlers of `handler/endpoints` that write endpoints. A creation and an
update persist the endpoint first, and look at the group and compute the
relation afterwards.
-/

namespace Portainer

open Kubernetes (isKubernetesEndpoint cleanNAPWithOverridePolicies)
open Tunnel (isEdge)

namespace Inventory

open HandlerError (internalServerError ofLookup badRequest)

/-! ## Create -/

/-- `endpointCreationEnum`. A number that is none of the five goes the way
of a Docker environment. -/
inductive EndpointCreationType
  | localDockerEnvironment
  | agentEnvironment
  | azureEnvironment
  | edgeAgentEnvironment
  | localKubernetesEnvironment
  | other
  deriving DecidableEq, Repr

/-- The form of a creation. A field that is missing is empty; the creation
type is `none` where it is missing, zero or no number, the tags where the
text does not decode, and of the TLS files only their presence is kept. -/
structure EndpointCreatePayload where
  name : String
  url : String := ""
  endpointCreationType : Option EndpointCreationType
  publicURL : String := ""
  groupID : EndpointGroupID := 0
  tls : Bool := false
  tlsSkipVerify : Bool := false
  tlsSkipClientVerify : Bool := false
  tlsCACertFile : Bool := false
  tlsCertFile : Bool := false
  tlsKeyFile : Bool := false
  azureApplicationID : String := ""
  azureTenantID : String := ""
  azureAuthenticationKey : String := ""
  tagIDs : Option (List TagID) := some []
  edgeCheckinInterval : Int := 0

namespace EndpointCreatePayload

variable (payload : EndpointCreatePayload)

/-- The error of the TLS part of `Validate`. -/
def validateTLS : Option String :=
  if !payload.tls then none
  else if !payload.tlsSkipVerify && !payload.tlsCACertFile then
    some "Invalid CA certificate file. Ensure that the file is uploaded correctly"
  else if !payload.tlsSkipClientVerify && !payload.tlsCertFile then
    some "Invalid certificate file. Ensure that the file is uploaded correctly"
  else if !payload.tlsSkipClientVerify && !payload.tlsKeyFile then
    some "Invalid key file. Ensure that the file is uploaded correctly"
  else none

/-- The error of the Azure part of `Validate`. -/
def validateAzure : Option String :=
  if payload.endpointCreationType ≠ some .azureEnvironment then none
  else if payload.azureApplicationID = "" then some "Invalid Azure application ID"
  else if payload.azureTenantID = "" then some "Invalid Azure tenant ID"
  else if payload.azureAuthenticationKey = "" then some "Invalid Azure authentication key"
  else none

/-- The error of `Validate`, if there is one. -/
def validate : Option String :=
  if payload.name = "" then some "Invalid endpoint name"
  else if payload.endpointCreationType = none then
    some "Invalid endpoint type value. Value must be one of: 1 (Docker environment), 2 (Agent environment), 3 (Azure environment), 4 (Edge Agent environment) or 5 (Local Kubernetes environment)"
  else if payload.tagIDs = none then some "Invalid TagIds parameter"
  else payload.validateTLS.or payload.validateAzure

/-- What `Validate` makes of the form: the defaults, and no field that was
not read. -/
def normalize : EndpointCreatePayload :=
  let azure := payload.endpointCreationType = some .azureEnvironment
  { payload with
    groupID := if payload.groupID = 0 then 1 else payload.groupID
    tlsSkipVerify := payload.tls && payload.tlsSkipVerify
    tlsSkipClientVerify := payload.tls && payload.tlsSkipClientVerify
    url := if azure then "" else payload.url
    publicURL := if azure then "" else payload.publicURL }

/-- The endpoint that all the ways of a creation start from. -/
def endpoint (id : EndpointID) (type : EndpointType) (url : String) : Endpoint :=
  { id := id
    name := payload.name
    type := type
    url := url
    groupID := payload.groupID
    tagIDs := payload.tagIDs.getD [] }

end EndpointCreatePayload

/-- The settings of a new endpoint. -/
def defaultSecuritySettings : EndpointSecuritySettings :=
  { allowVolumeBrowserForRegularUsers := false
    enableHostManagementFeatures := false
    allowSysctlSettingForRegularUsers := true
    allowBindMountsForRegularUsers := true
    allowPrivilegedModeForRegularUsers := true
    allowHostNamespaceForRegularUsers := true
    allowContainerCapabilitiesForRegularUsers := true
    allowDeviceMappingForRegularUsers := true
    allowStackManagementForRegularUsers := true }

/-- `CreateEndpoint`: the counter is set to the identifier. -/
def persistEndpoint (endpoint : Endpoint) : Fallible Server Unit :=
  .call .databaseWrite (Server.endpoint.change fun b => (b.setSequence endpoint.id).put endpoint)

def createFailed : String → HandlerError :=
  internalServerError "An error occured while trying to create the endpoint"

/-- `saveEndpointAndUpdateAuthorizations`, with the error its callers make
of its own. -/
def saveEndpointAndUpdateAuthorizations (endpoint : Endpoint) : Handler Server Endpoint := do
  let endpoint := { endpoint with securitySettings := defaultSecuritySettings }
  (persistEndpoint endpoint).mapError createFailed
  changeTags createFailed createFailed (withEndpoint endpoint.id) endpoint.tagIDs
  return endpoint

/-- The answer to a snapshot that failed. -/
def snapshotFailed (err : String) : HandlerError :=
  internalServerError "Unable to initiate communications with endpoint"
    (if "Invalid request signature".toList <:+: err.toList then
      "agent already paired with another Portainer instance"
    else err)

/-- `snapshotAndPersistEndpoint`. -/
def snapshotAndPersistEndpoint (endpoint : Endpoint) : Handler Server Endpoint := do
  (Action.call .snapshotService id).mapError snapshotFailed
  saveEndpointAndUpdateAuthorizations endpoint

/-- One file of `storeTLSFiles`, if it is wanted: its path. -/
def storeTLSFileIf (services : Services) (wanted : Bool) (folder : String) (fileType : TLSFileType)
    (message : String) : Handler Server String :=
  if wanted then (services.storeTLSFile folder fileType).mapError (internalServerError message)
  else pure ""

/-- `storeTLSFiles`. -/
def storeTLSFiles (services : Services) (endpoint : Endpoint) (payload : EndpointCreatePayload) :
    Handler Server Endpoint := do
  let folder := toString endpoint.id
  let caCertPath ← storeTLSFileIf services (!payload.tlsSkipVerify) folder .ca
    "Unable to persist TLS CA certificate file on disk"
  let certPath ← storeTLSFileIf services (!payload.tlsSkipClientVerify) folder .cert
    "Unable to persist TLS certificate file on disk"
  let keyPath ← storeTLSFileIf services (!payload.tlsSkipClientVerify) folder .key
    "Unable to persist TLS key file on disk"
  return { endpoint with tlsConfig := { endpoint.tlsConfig with
    tlsCACertPath := caCertPath, tlsCertPath := certPath, tlsKeyPath := keyPath } }

def createAzureEndpoint (payload : EndpointCreatePayload) : Handler Server Endpoint := do
  (Action.call .azureAuthentication id).mapError
    (internalServerError "Unable to authenticate against Azure")
  let endpointID ← Server.endpoint.getNextIdentifier
  saveEndpointAndUpdateAuthorizations
    { payload.endpoint endpointID .azureEnvironment "https://management.azure.com" with
      publicURL := payload.publicURL
      azureCredentials :=
        ⟨payload.azureApplicationID, payload.azureTenantID, payload.azureAuthenticationKey⟩ }

def createEdgeAgentEndpoint (services : Services) (payload : EndpointCreatePayload) :
    Handler Server Endpoint := do
  let endpointID ← Server.endpoint.getNextIdentifier
  let portainerHost ← (Action.ofExcept (services.portainerHost payload.url)).mapError
    (badRequest "Invalid endpoint URL")
  .require (portainerHost ≠ "localhost")
    (badRequest "Invalid endpoint URL" "cannot use localhost as endpoint URL")
  saveEndpointAndUpdateAuthorizations
    { payload.endpoint endpointID .edgeAgentOnDockerEnvironment portainerHost with
      edgeCheckinInterval := payload.edgeCheckinInterval }

def createUnsecuredEndpoint (services : Services) (payload : EndpointCreatePayload) :
    Handler Server Endpoint := do
  let url :=
    if payload.url ≠ "" then payload.url
    else if services.goos = "windows" then "npipe:////./pipe/docker_engine"
    else "unix:///var/run/docker.sock"
  let endpointID ← Server.endpoint.getNextIdentifier
  snapshotAndPersistEndpoint
    { payload.endpoint endpointID .dockerEnvironment url with publicURL := payload.publicURL }

def createKubernetesEndpoint (payload : EndpointCreatePayload) : Handler Server Endpoint := do
  let url := if payload.url = "" then "https://kubernetes.default.svc" else payload.url
  let endpointID ← Server.endpoint.getNextIdentifier
  snapshotAndPersistEndpoint
    { payload.endpoint endpointID .kubernetesLocalEnvironment url with
      publicURL := payload.publicURL
      tlsConfig := { tls := payload.tls, tlsSkipVerify := payload.tlsSkipVerify } }

def createTLSSecuredEndpoint (services : Services) (payload : EndpointCreatePayload)
    (endpointType : EndpointType) : Handler Server Endpoint := do
  let endpointID ← Server.endpoint.getNextIdentifier
  let endpoint ← storeTLSFiles services
    { payload.endpoint endpointID endpointType payload.url with
      publicURL := payload.publicURL
      tlsConfig := { tls := payload.tls, tlsSkipVerify := payload.tlsSkipVerify } } payload
  snapshotAndPersistEndpoint endpoint

/-- The end of `createEndpoint`. An unsecured endpoint is a Docker
environment, whatever the agent said. -/
def createDockerEndpoint (services : Services) (payload : EndpointCreatePayload)
    (endpointType : EndpointType) : Handler Server Endpoint :=
  if payload.tls then createTLSSecuredEndpoint services payload endpointType
  else createUnsecuredEndpoint services payload

/-- `strings.TrimPrefix`. -/
def trimPrefix (text start : String) : String :=
  if start.toList.isPrefixOf text.toList then String.ofList (text.toList.drop start.length) else text

/-- The part of `createEndpoint` for an agent. -/
def createAgentEndpoint (services : Services) (payload : EndpointCreatePayload) :
    Handler Server Endpoint := do
  (Action.call .agentPing id).mapError (internalServerError "Unable to get endpoint type")
  match services.agentPlatform payload.url with
  | .docker => createDockerEndpoint services payload .agentOnDockerEnvironment
  | .kubernetes =>
    let payload := { payload with url := trimPrefix payload.url "tcp://" }
    createDockerEndpoint services payload .agentOnKubernetesEnvironment
  | .other => createDockerEndpoint services payload .dockerEnvironment

def createEndpoint (services : Services) (payload : EndpointCreatePayload) :
    Handler Server Endpoint :=
  match payload.endpointCreationType with
  | some .azureEnvironment => createAzureEndpoint payload
  | some .edgeAgentEnvironment => createEdgeAgentEndpoint services payload
  | some .localKubernetesEnvironment => createKubernetesEndpoint payload
  | some .agentEnvironment => createAgentEndpoint services payload
  | _ => createDockerEndpoint services payload .dockerEnvironment

/-- The relation of a new endpoint. Only an Edge endpoint has stacks. -/
def initialRelation (endpoint : Endpoint) (endpointGroup : EndpointGroup)
    (edgeGroups : List EdgeGroup) (edgeStacks : List EdgeStack) : EndpointRelation :=
  if isEdge endpoint.type then
    recomputed { endpointID := endpoint.id } endpoint endpointGroup edgeGroups edgeStacks
  else { endpointID := endpoint.id }

/-- The part of `endpointCreate` after the endpoint has been persisted. -/
def createRelation (endpoint : Endpoint) : Handler Server Unit := do
  let endpointGroup ← (Server.endpointGroup.getObject endpoint.groupID).mapError
    (internalServerError "Unable to find an endpoint group inside the database")
  let edgeGroups ← Server.edgeGroup.getAll.mapError
    (internalServerError "Unable to retrieve edge groups from the database")
  let edgeStacks ← Server.edgeStack.getAll.mapError
    (internalServerError "Unable to retrieve edge stacks from the database")
  (Server.endpointRelation.updateObject
      (initialRelation endpoint endpointGroup edgeGroups edgeStacks)).mapError
    (internalServerError "Unable to persist the relation object inside the database")

def endpointCreate (services : Services) (payload : EndpointCreatePayload) :
    Handler Server Endpoint := do
  match payload.validate with
  | some err => .fail (badRequest "Invalid request payload" err)
  | none =>
    let endpoint ← createEndpoint services payload.normalize
    createRelation endpoint
    return endpoint

/-- The form of an Edge agent, with nothing but what is mandatory. -/
def edgeAgentPayload : EndpointCreatePayload where
  name := "edge"
  url := "https://portainer"
  endpointCreationType := some .edgeAgentEnvironment

/-! ## Update -/

/-- The body of an update. A field that is not in the body stays. -/
structure EndpointUpdatePayload where
  name : Option String := none
  url : Option String := none
  publicURL : Option String := none
  groupID : Option EndpointGroupID := none
  tls : Option Bool := none
  tlsSkipVerify : Option Bool := none
  tlsSkipClientVerify : Option Bool := none
  status : Option Int := none
  azureApplicationID : Option String := none
  azureTenantID : Option String := none
  azureAuthenticationKey : Option String := none
  tagIDs : Option (List TagID) := none
  userAccessPolicies : Option UserAccessPolicies := none
  teamAccessPolicies : Option TeamAccessPolicies := none
  edgeCheckinInterval : Option Int := none

namespace EndpointUpdatePayload

variable (payload : EndpointUpdatePayload)

/-- The fields that are set before the tags. -/
def withFields (endpoint : Endpoint) : Endpoint :=
  { endpoint with
    name := payload.name.getD endpoint.name
    url := payload.url.getD endpoint.url
    publicURL := payload.publicURL.getD endpoint.publicURL
    edgeCheckinInterval := payload.edgeCheckinInterval.getD endpoint.edgeCheckinInterval
    groupID := payload.groupID.getD endpoint.groupID }

def groupIDChanged (endpoint : Endpoint) : Bool :=
  payload.groupID.getD endpoint.groupID ≠ endpoint.groupID

/-- The policies of the body are other than those of the endpoint. -/
def updateAuthorizations (endpoint : Endpoint) : Bool :=
  payload.userAccessPolicies.getD endpoint.userAccessPolicies ≠ endpoint.userAccessPolicies ||
    payload.teamAccessPolicies.getD endpoint.teamAccessPolicies ≠ endpoint.teamAccessPolicies

/-- The policies and the status. -/
def withPoliciesAndStatus (endpoint : Endpoint) : Endpoint :=
  { endpoint with
    userAccessPolicies := payload.userAccessPolicies.getD endpoint.userAccessPolicies
    teamAccessPolicies := payload.teamAccessPolicies.getD endpoint.teamAccessPolicies
    status :=
      if payload.status = some 1 then .up
      else if payload.status = some 2 then .down
      else endpoint.status }

end EndpointUpdatePayload

/-- The Azure part of `endpointUpdate`. -/
def updateAzureCredentials (payload : EndpointUpdatePayload) (endpoint : Endpoint) :
    Handler Server Endpoint :=
  if endpoint.type = .azureEnvironment then do
    let credentials := endpoint.azureCredentials
    let credentials : AzureCredentials :=
      { applicationID := payload.azureApplicationID.getD credentials.applicationID
        tenantID := payload.azureTenantID.getD credentials.tenantID
        authenticationKey := payload.azureAuthenticationKey.getD credentials.authenticationKey }
    (Action.call .azureAuthentication id).mapError
      (internalServerError "Unable to authenticate against Azure")
    return { endpoint with azureCredentials := credentials }
  else pure endpoint

/-- The verification of the server, as the body has it. -/
def updateTLSSkipVerify (services : Services) (folder : String) (tlsConfig : TLSConfiguration) :
    Option Bool → Handler Server TLSConfiguration
  | none => pure tlsConfig
  | some false => pure { tlsConfig with
      tlsSkipVerify := false, tlsCACertPath := services.getPathForTLSFile folder .ca }
  | some true => do
    deleteTLSFile
    return { tlsConfig with tlsSkipVerify := true, tlsCACertPath := "" }

/-- The client's certificate, as the body has it. -/
def updateTLSSkipClientVerify (services : Services) (folder : String)
    (tlsConfig : TLSConfiguration) : Option Bool → Handler Server TLSConfiguration
  | none => pure tlsConfig
  | some false => pure { tlsConfig with
      tlsCertPath := services.getPathForTLSFile folder .cert
      tlsKeyPath := services.getPathForTLSFile folder .key }
  | some true => do
    deleteTLSFile
    deleteTLSFile
    return { tlsConfig with tlsCertPath := "", tlsKeyPath := "" }

/-- The configuration, before the Kubernetes agents have theirs forced. -/
def updateTLSConfig (services : Services) (payload : EndpointUpdatePayload) (folder : String)
    (tlsConfig : TLSConfiguration) (tls : Bool) : Handler Server TLSConfiguration :=
  if tls then do
    let tlsConfig ← updateTLSSkipVerify services folder { tlsConfig with tls := true }
      payload.tlsSkipVerify
    updateTLSSkipClientVerify services folder tlsConfig payload.tlsSkipClientVerify
  else do
    deleteTLSFiles.mapError (internalServerError "Unable to remove TLS files from disk")
    return {}

/-- The TLS part of `endpointUpdate`. -/
def updateTLS (services : Services) (payload : EndpointUpdatePayload) (endpoint : Endpoint) :
    Handler Server Endpoint :=
  match payload.tls with
  | none => pure endpoint
  | some tls => do
    let tlsConfig ← updateTLSConfig services payload (toString endpoint.id) endpoint.tlsConfig tls
    let forced := endpoint.type = .agentOnKubernetesEnvironment ∨
      endpoint.type = .edgeAgentOnKubernetesEnvironment
    return { endpoint with tlsConfig :=
      if forced then { tlsConfig with tls := true, tlsSkipVerify := true } else tlsConfig }

/-- `CreateAndRegisterEndpointProxy`, where the update is about the
connection. -/
def registerEndpointProxy (payload : EndpointUpdatePayload) (endpoint : Endpoint) :
    Handler Server Unit :=
  if payload.url.isSome || payload.tls.isSome || endpoint.type = .azureEnvironment then
    (Action.call .proxyManager id).mapError
      (internalServerError "Unable to register HTTP proxy for the endpoint")
  else pure ()

/-- The cleaning of `endpointUpdate`. -/
def cleanEndpoint (updateAuthorizations : Bool) (endpoint : Endpoint) : Handler Server Unit :=
  if updateAuthorizations && isKubernetesEndpoint endpoint.type then
    (cleanNAPWithOverridePolicies endpoint none).mapError
      (internalServerError "Unable to update user authorizations")
  else pure ()

/-- The end of `endpointUpdate`, for an Edge endpoint whose group or tags
have changed. -/
def refreshRelation (endpoint : Endpoint) : Handler Server Unit := do
  let relation ← (Server.endpointRelation.getObject endpoint.id).mapError
    (internalServerError "Unable to find endpoint relation inside the database")
  let endpointGroup ← (Server.endpointGroup.getObject endpoint.groupID).mapError
    (internalServerError "Unable to find endpoint group inside the database")
  let edgeGroups ← Server.edgeGroup.getAll.mapError
    (internalServerError "Unable to retrieve edge groups from the database")
  let edgeStacks ← Server.edgeStack.getAll.mapError
    (internalServerError "Unable to retrieve edge stacks from the database")
  (Server.endpointRelation.updateObject
      (recomputed relation endpoint endpointGroup edgeGroups edgeStacks)).mapError
    (internalServerError "Unable to persist endpoint relation changes inside the database")

def findEndpoint : String → HandlerError :=
  ofLookup "Unable to find an endpoint with the specified identifier inside the database"

def endpointUpdate (services : Services) (endpointID : EndpointID)
    (payload : EndpointUpdatePayload) : Handler Server Endpoint := do
  let endpoint ← (Server.endpoint.getObject endpointID).mapError findEndpoint
  let groupIDChanged := payload.groupIDChanged endpoint
  let tagsChanged := tagsChanged endpoint.tagIDs payload.tagIDs
  let updateAuthorizations := payload.updateAuthorizations endpoint
  let tagIDs ← replaceTags (withoutEndpoint endpoint.id) (withEndpoint endpoint.id)
    endpoint.tagIDs payload.tagIDs
  let endpoint := { payload.withPoliciesAndStatus (payload.withFields endpoint) with tagIDs := tagIDs }
  let endpoint ← updateAzureCredentials payload endpoint
  let endpoint ← updateTLS services payload endpoint
  registerEndpointProxy payload endpoint
  cleanEndpoint updateAuthorizations endpoint
  (Server.endpoint.updateObject endpoint).mapError
    (internalServerError "Unable to persist endpoint changes inside the database")
  if isEdge endpoint.type && (groupIDChanged || tagsChanged) then refreshRelation endpoint
  return endpoint

/-! ## Delete -/

/-- The loop over the Edge groups. -/
def dropFromEdgeGroup (endpointID : EndpointID) (edgeGroup : EdgeGroup) : Handler Server Unit :=
  if endpointID ∈ edgeGroup.endpoints then
    (Server.edgeGroup.updateObject
        { edgeGroup with endpoints := removeFirst edgeGroup.endpoints endpointID }).mapError
      (internalServerError "Unable to update edge group")
  else pure ()

/-- The loop over the Edge stacks. -/
def dropFromEdgeStack (endpointID : EndpointID) (edgeStack : EdgeStack) : Handler Server Unit :=
  if endpointID ∈ edgeStack.status then
    (Server.edgeStack.updateObject
        { edgeStack with status := edgeStack.status.erase endpointID }).mapError
      (internalServerError "Unable to update edge stack")
  else pure ()

/-- The loop over the registries. -/
def dropFromRegistry (endpointID : EndpointID) (registry : Registry) : Handler Server Unit :=
  if endpointID ∈ registry.registryAccesses then
    (Server.registry.updateObject
        { registry with registryAccesses := registry.registryAccesses.erase endpointID }).mapError
      (internalServerError "Unable to update registry accesses")
  else pure ()

/-- The TLS files of an endpoint that is deleted. -/
def removeTLSFiles (endpoint : Endpoint) : Handler Server Unit :=
  if endpoint.tlsConfig.tls then
    deleteTLSFiles.mapError (internalServerError "Unable to remove TLS files from disk")
  else pure ()

def endpointDelete (endpointID : EndpointID) : Handler Server Unit := do
  let endpoint ← (Server.endpoint.getObject endpointID).mapError findEndpoint
  removeTLSFiles endpoint
  (Server.endpoint.deleteObject endpointID).mapError
    (internalServerError "Unable to remove endpoint from the database")
  (Server.endpointRelation.deleteObject endpoint.id).mapError
    (internalServerError "Unable to remove endpoint relation from the database")
  changeTags (⟨404, "Unable to find tag inside the database", ·⟩)
    (internalServerError "Unable to persist tag relation inside the database")
    (withoutEndpoint endpoint.id) endpoint.tagIDs
  let edgeGroups ← Server.edgeGroup.getAll.mapError
    (internalServerError "Unable to retrieve edge groups from the database")
  edgeGroups.forM (dropFromEdgeGroup endpoint.id)
  let edgeStacks ← Server.edgeStack.getAll.mapError
    (internalServerError "Unable to retrieve edge stacks from the database")
  edgeStacks.forM (dropFromEdgeStack endpoint.id)
  let registries ← Server.registry.getAll.mapError
    (internalServerError "Unable to retrieve registries from the database")
  registries.forM (dropFromRegistry endpoint.id)

/-! ## The tag filter of the listing -/

/-- `endpointPartialMatchTags`. -/
def endpointPartialMatchTags (endpoint : Endpoint) (endpointGroup : EndpointGroup) (tagIDs : List TagID) :
    Bool :=
  let tagSet := tagIDs.toFinset
  endpoint.tagIDs.any (· ∈ tagSet) || endpointGroup.tagIDs.any (· ∈ tagSet)

/-- `endpointFullMatchTags`: the tags that are missing, less those that the
endpoint has, less those that its group has. -/
def endpointFullMatchTags (endpoint : Endpoint) (endpointGroup : EndpointGroup) (tagIDs : List TagID) : Bool :=
  let missingTags := tagIDs.toFinset
  let missingTags := endpoint.tagIDs.foldl Finset.erase missingTags
  let missingTags := endpointGroup.tagIDs.foldl Finset.erase missingTags
  missingTags.card = 0

/-- `filteredEndpointsByTags`. `getEndpointGroup` is the search for the
group. -/
def filteredEndpointsByTags (endpoints : List Endpoint) (tagIDs : List TagID)
    (endpointGroups : List EndpointGroup) (partialMatch : Bool) : List Endpoint :=
  endpoints.filter fun endpoint =>
    let endpointGroup := associatedGroup endpoint endpointGroups
    if partialMatch then endpointPartialMatchTags endpoint endpointGroup tagIDs
    else endpointFullMatchTags endpoint endpointGroup tagIDs

end Inventory

end Portainer
