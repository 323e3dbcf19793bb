import Portainer.Common.Rewrite
import Portainer.DockerProxy.Model.Operations
/-!
# The Docker proxy — dispatch on the path

`ProxyDockerRequest` takes API versions out of the path of a request and
hands it to the function for its collection, which picks the operation from
the path and the method.
-/

namespace Portainer

namespace DockerProxy

/-! ## The path -/

/-- The non-empty matches of `apiVersionRe`, which is
`(/v[0-9]\.[0-9]*)?`. -/
def apiVersionMatch : Path → ℕ
  | '/' :: 'v' :: d :: '.' :: rest =>
    if d.isDigit then 4 + (rest.takeWhile Char.isDigit).length else 0
  | _ => 0

/-- `apiVersionRe.ReplaceAllString(path, "")`. -/
def requestPath (path : Path) : Path := eraseMatches apiVersionMatch path

/-! ## One function for each collection -/

/-- `restrictedVolumeOperation`. -/
def restrictedVolumeOperation (t : Transport) (request : Request) : Proxy Response :=
  if request.method = "GET" then rewriteOperation t request (volumeInspectOperation t)
  else do
    let volumeName := String.ofList (Path.base request.path)
    let resourceID ← getVolumeResourceID t volumeName
    if request.method = "DELETE" then
      executeGenericResourceDeletionOperation t request resourceID volumeName .volume
    else restrictedResourceOperation t request resourceID volumeName .volume false

/-- A request for one resource, named by the base of the path: shown,
deleted or otherwise acted on. -/
def resourceRequest (t : Transport) (request : Request) (inspect : RestrictedOperationRequest)
    (resourceType : ResourceControlType) : Proxy Response :=
  let id := String.ofList (Path.base request.path)
  if request.method = "GET" then rewriteOperation t request inspect
  else if request.method = "DELETE" then
    executeGenericResourceDeletionOperation t request id id resourceType
  else restrictedResourceOperation t request id id resourceType false

def proxyConfigRequest (t : Transport) (request : Request) : Proxy Response :=
  if request.path = "/configs/create".toList then
    decorateGenericResourceCreationOperation t request configObjectIdentifier .config
  else if request.path = "/configs".toList then
    rewriteOperation t request (configListOperation t)
  else resourceRequest t request (configInspectOperation t) .config

def proxyContainerRequest (t : Transport) (request : Request) : Proxy Response :=
  if request.path = "/containers/create".toList then
    decorateContainerCreationOperation t request containerObjectIdentifier .container
  else if request.path = "/containers/prune".toList then administratorOperation t request
  else if request.path = "/containers/json".toList then
    rewriteOperationWithLabelFiltering t request (containerListOperation t)
  else if Path.match' "/containers/*/*".toList request.path then
    let containerID := String.ofList (Path.base (Path.dir request.path))
    let action := Path.base request.path
    if action = "json".toList then rewriteOperation t request (containerInspectOperation t)
    else restrictedResourceOperation t request containerID containerID .container false
  else if Path.match' "/containers/*".toList request.path then
    let containerID := String.ofList (Path.base request.path)
    if request.method = "DELETE" then
      executeGenericResourceDeletionOperation t request containerID containerID .container
    else restrictedResourceOperation t request containerID containerID .container false
  else executeDockerRequest t request

def proxyServiceRequest (t : Transport) (request : Request) : Proxy Response :=
  if request.path = "/services/create".toList then decorateServiceCreationOperation t request
  else if request.path = "/services".toList then
    rewriteOperation t request (serviceListOperation t)
  else if Path.match' "/services/*/*".toList request.path then
    let serviceID := String.ofList (Path.base (Path.dir request.path))
    restrictedResourceOperation t request serviceID serviceID .service false
  else if Path.match' "/services/*".toList request.path then
    resourceRequest t request (serviceInspectOperation t) .service
  else executeDockerRequest t request

def proxyVolumeRequest (t : Transport) (request : Request) : Proxy Response :=
  if request.path = "/volumes/create".toList then
    decorateVolumeResourceCreationOperation t request .volume
  else if request.path = "/volumes/prune".toList then administratorOperation t request
  else if request.path = "/volumes".toList then
    rewriteOperation t request (volumeListOperation t)
  else restrictedVolumeOperation t request

def proxyNetworkRequest (t : Transport) (request : Request) : Proxy Response :=
  if request.path = "/networks/create".toList then
    decorateGenericResourceCreationOperation t request networkObjectIdentifier .network
  else if request.path = "/networks".toList then
    rewriteOperation t request (networkListOperation t)
  else resourceRequest t request (networkInspectOperation t) .network

def proxySecretRequest (t : Transport) (request : Request) : Proxy Response :=
  if request.path = "/secrets/create".toList then
    decorateGenericResourceCreationOperation t request secretObjectIdentifier .secret
  else if request.path = "/secrets".toList then
    rewriteOperation t request (secretListOperation t)
  else resourceRequest t request (secretInspectOperation t) .secret

def proxyNodeRequest (t : Transport) (request : Request) : Proxy Response :=
  if Path.base request.path ≠ "nodes".toList then administratorOperation t request
  else executeDockerRequest t request

def proxySwarmRequest (t : Transport) (request : Request) : Proxy Response :=
  if request.path = "/swarm".toList then rewriteOperation t request swarmInspectOperation
  else administratorOperation t request

def proxyTaskRequest (t : Transport) (request : Request) : Proxy Response :=
  if request.path = "/tasks".toList then rewriteOperation t request (taskListOperation t)
  else executeDockerRequest t request

def proxyBuildRequest (t : Transport) (request : Request) : Proxy Response :=
  interceptAndRewriteRequest t request buildOperation

def proxyImageRequest (t : Transport) (request : Request) : Proxy Response :=
  if request.path = "/images/create".toList then replaceRegistryAuthenticationHeader t request
  else if Path.base request.path = "push".toList ∧ request.method = "POST" then
    replaceRegistryAuthenticationHeader t request
  else executeDockerRequest t request

/-! ## The agent's own API -/

/-- The registry of a Docker Hub request; zero is the anonymous one. -/
def dockerHubRegistry (registryID : RegistryID) : Local Registry :=
  if registryID = 0 then pure { type := .dockerHub }
  else Action.mapError (fun e => "failed fetching registry: " ++ e)
    (readObject fun db => db.registry.get? registryID)

/-- A Docker Hub request, `/v2/dockerhub/{registryId}`: the registry is
taken off the path and sent as the body. -/
def proxyDockerHubRequest (t : Transport) (r : Request) : Proxy Response :=
  match Path.atoi (Path.split r.path).2 with
  | none => Action.fail "missing registry id"
  | some registryID => do
    let registry ← dockerHubRegistry registryID
    Action.require (registry.type = .dockerHub) "Invalid registry type"
    executeDockerRequest t
      { r with
        path := Path.trimSuffix ['/'] (Path.split r.path).1
        method := "POST"
        body := .registry registry }

def proxyAgentRequest (t : Transport) (r : Request) : Proxy Response :=
  let requestPath := Path.trimPrefix "/v2".toList r.path
  if "/browse".toList <+: requestPath then
    match r.volumeID with
    | [] => administratorOperation t r
    | volumeName :: _ => do
      let resourceID ← getVolumeResourceID t volumeName
      restrictedResourceOperation t r resourceID volumeName .volume true
  else if "/dockerhub".toList <+: requestPath then proxyDockerHubRequest t r
  else executeDockerRequest t r

/-! ## The entry point -/

/-- The function for the collection a path begins with. -/
def proxyRequest (t : Transport) (request : Request) : Proxy Response :=
  if "/configs".toList <+: request.path then proxyConfigRequest t request
  else if "/containers".toList <+: request.path then proxyContainerRequest t request
  else if "/services".toList <+: request.path then proxyServiceRequest t request
  else if "/volumes".toList <+: request.path then proxyVolumeRequest t request
  else if "/networks".toList <+: request.path then proxyNetworkRequest t request
  else if "/secrets".toList <+: request.path then proxySecretRequest t request
  else if "/swarm".toList <+: request.path then proxySwarmRequest t request
  else if "/nodes".toList <+: request.path then proxyNodeRequest t request
  else if "/tasks".toList <+: request.path then proxyTaskRequest t request
  else if "/build".toList <+: request.path then proxyBuildRequest t request
  else if "/images".toList <+: request.path then proxyImageRequest t request
  else if "/v2".toList <+: request.path then proxyAgentRequest t request
  else executeDockerRequest t request

/-- The signature an agent asks for. -/
def signedRequest (t : Transport) (request : Request) : Local Request :=
  if t.endpoint.type = .agentOnDockerEnvironment then do
    Action.query .digitalSignature fun _ => ()
    pure { request with signed := true }
  else pure request

/-- `ProxyDockerRequest`. -/
def proxyDockerRequest (t : Transport) (request : Request) : Proxy Response := do
  let signed ← signedRequest t { request with path := requestPath request.path }
  proxyRequest t signed

end DockerProxy

end Portainer
