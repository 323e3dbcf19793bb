import Portainer.Common.Json
import Portainer.Kubernetes.Model.Access
/-!
# The Kubernetes proxy — the transport and the deletion of a namespace

A user's request to the Kubernetes API of an environment goes through a
`BaseTransport`. Most requests are forwarded as they are. Before it
forwards the deletion of a namespace, the transport takes the namespace off
the access policies of the environment and off every registry.

The cluster is a parameter, and so are the requests on secrets.
-/

namespace Portainer

open Std Server

namespace Kubernetes

/-- A request for the Kubernetes API, with the parts that are dispatched
on. -/
structure Request where
  method : String
  path : Path
  deriving DecidableEq

structure Response where
  statusCode : ℕ
  deriving DecidableEq, Repr

/-- What the cluster makes of a request: the answer, or the error of the
round trip, and whether a namespace is gone. -/
structure Answer where
  response : Except String Response
  deleted : Bool

/-- The server, and the requests that have been forwarded. -/
structure ProxyState where
  server : Server := {}
  forwarded : List Request := []

abbrev Proxy (α : Type) := Fallible ProxyState α

/-- A part that works on the server alone. -/
def onServer {α : Type} (x : Fallible Server α) : Proxy α :=
  Action.zoom ProxyState.server (fun s server => { s with server := server }) x

/-- The transport of an environment. -/
structure BaseTransport where
  endpoint : Endpoint
  httpTransport : Request → Answer
  proxySecretRequest : Request → Path → Path → Proxy Response

/-! ## The namespace, before the request is forwarded -/

/-- The access of a registry on the endpoint without the namespace. -/
def withoutNamespace (ns : String) (access : RegistryAccessPolicies) :
    RegistryAccessPolicies :=
  { access with namespaces := access.namespaces.filter (· ≠ ns) }

/-- The registry with its access on the endpoint replaced. -/
def withRegistryAccess (endpointID : EndpointID) (access : RegistryAccessPolicies)
    (registry : Registry) : Registry :=
  { registry with registryAccesses := registry.registryAccesses.insert endpointID access }

/-- One turn of the loop over the registries. The inner loop goes over the
accesses of the registry and skips those of other endpoints. -/
def dropFromRegistry (endpointID : EndpointID) (ns : String) (registry : Registry) :
    Fallible Server Unit :=
  match registry.registryAccesses[endpointID]? with
  | none => pure ()
  | some access =>
    let updated := withoutNamespace ns access
    if updated.namespaces.length ≠ access.namespaces.length then
      Server.registry.updateObject (withRegistryAccess endpointID updated registry)
    else pure ()

/-- The part of `proxyNamespaceDeleteOperation` before the request is
forwarded. -/
def dropNamespace (endpointID : EndpointID) (ns : String) : Fallible Server Unit := do
  (namespaceAccessPoliciesDeleteNamespace endpointID ns).mapError
    (s!"failed to delete a namespace [{ns}] from portainer config: " ++ ·)
  let registries ← Server.registry.getAll
  registries.forM (dropFromRegistry endpointID ns)

namespace BaseTransport

variable (transport : BaseTransport)

/-- `executeKubernetesRequest`. -/
def executeKubernetesRequest (request : Request) : Proxy Response := do
  .modify fun s => { s with forwarded := s.forwarded ++ [request] }
  .ofExcept (transport.httpTransport request).response

/-- `proxyNamespaceDeleteOperation`. -/
def proxyNamespaceDeleteOperation (request : Request) (ns : String) : Proxy Response := do
  onServer (dropNamespace transport.endpoint.id ns)
  transport.executeKubernetesRequest request

end BaseTransport

/-! ## Dispatch -/

/-- The path behind `/api/v<digit>`, with an optional `.<digit>`. -/
def afterVersion : Path → Option Path
  | '/' :: 'a' :: 'p' :: 'i' :: '/' :: 'v' :: d :: rest =>
    if d.isDigit then
      match rest with
      | '.' :: e :: rest' => if e.isDigit then some rest' else some rest
      | _ => some rest
    else none
  | _ => none

/-- `apiVersionRe.ReplaceAllString(path, "")`: the pattern is anchored, so
there is at most one match. -/
def replaceApiVersion (path : Path) : Path :=
  if "/kubernetes".toList.isPrefixOf path then
    (afterVersion (path.drop "/kubernetes".length)).getD path
  else (afterVersion path).getD path

/-- Where a request goes. -/
inductive Route
  | secret (ns requestPath : Path)
  | deleteNamespace (ns : Path)
  | forward
  deriving DecidableEq

/-- The cases of `proxyNamespacedRequest`. -/
def namespacedRoute (method : String) (fullRequestPath : Path) : Route :=
  let requestPath :=
    if "/namespaces/".toList.isPrefixOf fullRequestPath then
      fullRequestPath.drop "/namespaces/".length
    else fullRequestPath
  let ns := requestPath.takeWhile (· ≠ '/')
  let requestPath := (requestPath.dropWhile (· ≠ '/')).tail
  if "secrets".toList.isPrefixOf requestPath then .secret ns requestPath
  else if requestPath = [] ∧ method = "DELETE" then .deleteNamespace ns
  else .forward

/-- The cases of `proxyKubernetesRequest`. -/
def route (request : Request) : Route :=
  let requestPath := replaceApiVersion request.path
  if Json.foldName (String.ofList requestPath) = Json.foldName "/namespaces" then .forward
  else if "/namespaces".toList.isPrefixOf requestPath then
    namespacedRoute request.method requestPath
  else .forward

/-- `proxyKubernetesRequest`, with `proxyNamespacedRequest`. -/
def BaseTransport.proxyKubernetesRequest (transport : BaseTransport) (request : Request) :
    Proxy Response :=
  match route request with
  | .secret ns requestPath => transport.proxySecretRequest request ns requestPath
  | .deleteNamespace ns =>
    transport.proxyNamespaceDeleteOperation request (String.ofList ns)
  | .forward => transport.executeKubernetesRequest request

end Kubernetes

end Portainer
