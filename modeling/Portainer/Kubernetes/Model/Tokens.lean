import Portainer.Kubernetes.Model.Cluster
import Portainer.Users.Model.Requests
/-!
# Tokens — the cache between users and their bindings

A request of a user who is not an administrator goes to the cluster with
the token of the user's service account. The proxy of an environment has a
cache of these tokens, and only a user who is missing there is set up. A
logout takes the user out of every cache. Memberships and policies are
changed by handlers that do not know of the caches.

The machine here has the handlers of users, teams and logins, the logout,
the two operations on the stored policies, and the requests that are
proxied. What the API server makes of a proxied request comes with it.
-/

namespace Portainer

open HandlerError (internalServerError ofLookup forbidden)

namespace Kubernetes

/-! ## The cache -/

/-- `getToken`. -/
def Host.getToken (h : Host) (endpointID : EndpointID) (userID : UserID) : Option String :=
  h.tokenCaches[endpointID]?.bind fun cache => cache[userID]?

/-- `addToken`, to the cache of the environment. -/
def Host.addToken (endpointID : EndpointID) (userID : UserID) (token : String) (h : Host) : Host :=
  { h with
    tokenCaches := h.tokenCaches.insert endpointID
      ((h.tokenCaches[endpointID]?.getD ∅).insert userID token) }

/-- `RemoveUserFromCache`. -/
def Host.removeUserFromCache (userID : UserID) (h : Host) : Host :=
  { h with tokenCaches := h.tokenCaches.map fun _ cache => cache.erase userID }

/-- A part that works on the server alone. -/
def onHostServer {ε α : Type} (x : Action Callee Server ε α) : Action Callee Host ε α :=
  Action.zoom Host.server (fun h server => { h with server := server }) x

/-- The text of an error. -/
def APIError.text : APIError → String
  | .alreadyExists => "already exists"
  | .notFound => "not found"
  | .failed text => text

namespace KubeClient

variable (kcl : KubeClient)

/-- `getServiceAccountToken`. The cluster fills the secret with a token of
the account that it names; waiting for it in vain is a fault of the second
read. -/
def getServiceAccountToken (serviceAccountName : String) : API String := do
  match ← kcl.read fun c =>
      c.secrets portainerNamespace (kcl.userServiceAccountTokenSecretName serviceAccountName) with
  | none => .fail .notFound
  | some secret => do
    kcl.read fun _ => ()
    match secret.annotations.lookup "kubernetes.io/service-account.name" with
    | some token => pure token
    | none => .fail (.failed "unable to find secret token associated to user service account")

/-- `GetServiceAccountBearerToken`. -/
def getServiceAccountBearerToken (userID : UserID) : API String :=
  kcl.getServiceAccountToken (kcl.userServiceAccountName userID)

/-- The teams of a user, as the token manager collects them. -/
def teamIDs (memberships : List TeamMembership) : List TeamID := memberships.map TeamMembership.teamID

/-- The part of `getUserServiceAccountToken` for a user who is not in the
cache. -/
def newUserServiceAccountToken (userID : UserID) : Fallible Host String := do
  let memberships ← onHostServer (Server.teamMembershipsByUserID userID)
  (kcl.setupUserServiceAccount userID (teamIDs memberships)).mapError APIError.text
  let serviceAccountToken ← (kcl.getServiceAccountBearerToken userID).mapError APIError.text
  .modify (Host.addToken kcl.endpointID userID serviceAccountToken)
  return serviceAccountToken

/-- `getUserServiceAccountToken`. -/
def getUserServiceAccountToken (userID : UserID) : Fallible Host String := do
  match ← .get fun h : Host => h.getToken kcl.endpointID userID with
  | some token => pure token
  | none => kcl.newUserServiceAccountToken userID

end KubeClient

/-! ## Requests that are proxied -/

/-- What the API server makes of a request, as far as the setup of service
accounts looks at it: the namespaces and the config map that there are
afterwards. -/
structure Effect where
  namespaces : List String → List String := id
  default_mem : ∀ l, defaultNamespace ∈ l → defaultNamespace ∈ namespaces l := by exact fun _ h => h
  configMap : Option ConfigMap → Option ConfigMap := id

/-- The cluster with other namespaces. What was in one that is gone is gone
with it, and a new one is empty. -/
def Cluster.withNamespaces (effect : Effect) (c : Cluster) : Cluster :=
  { c with
    namespaces := effect.namespaces c.namespaces
    default_mem := effect.default_mem _ c.default_mem
    roleBindings := fun ns name =>
      if ns ∈ c.namespaces ∧ ns ∈ effect.namespaces c.namespaces then c.roleBindings ns name else none }

/-- The server with the config map of an environment replaced, or taken
away. -/
def replaceConfigMap (endpointID : EndpointID) (configMap : Option ConfigMap) (s : Server) : Server :=
  { s with configMaps := s.configMaps.alter endpointID fun _ => configMap }

/-- The request as the API server executes it. -/
def Host.execute (endpointID : EndpointID) (effect : Effect) (h : Host) : Host :=
  { h.alterCluster endpointID (Cluster.withNamespaces effect) with
    server := replaceConfigMap endpointID (effect.configMap h.server.configMaps[endpointID]?) h.server }

/-- The request is sent with the service account of the user. -/
def Host.record (endpointID : EndpointID) (userID : UserID) (h : Host) : Host :=
  { h with forwarded := h.forwarded ++ [⟨endpointID, userID, h.server, h.clusters⟩] }

/-- `executeKubernetesRequest`, with the token of the request. -/
def executeRequest (kcl : KubeClient) (tokenData : TokenData) (effect : Effect) : Fallible Host Unit := do
  .modify fun h => if tokenData.role = .administrator then h else h.record kcl.endpointID tokenData.id
  .call .kubernetesWrite (Host.execute kcl.endpointID effect)

/-- `getRoundTripToken`. The token of an administrator is that of Portainer
itself. -/
def getRoundTripToken (kcl : KubeClient) (tokenData : TokenData) : Fallible Host Unit :=
  if tokenData.role = .administrator then pure ()
  else do
    let _ ← kcl.getUserServiceAccountToken tokenData.id
    return ()

/-- `RoundTrip`, of the three transports: what they do between the token and
the request may fail. -/
def roundTrip (kcl : KubeClient) (tokenData : TokenData) (effect : Effect) : Fallible Host Unit := do
  getRoundTripToken kcl tokenData
  .query .digitalSignature fun _ => ()
  executeRequest kcl tokenData effect

/-- `DeleteEndpointProxy`. -/
def deleteEndpointProxy (endpointID : EndpointID) : Handler Host Unit :=
  .modify fun h => { h with tokenCaches := h.tokenCaches.erase endpointID }

/-- The part of `proxyRequestsToKubernetesAPI` for the tunnels of Edge
agents. -/
def prepareTunnel (endpoint : Endpoint) (idle : Bool) : Handler Host Unit :=
  if endpoint.type ≠ .edgeAgentOnKubernetesEnvironment then pure ()
  else do
    .require (endpoint.edgeID ≠ "")
      (internalServerError "No Edge agent registered with the endpoint" "No agent available")
    if idle then do
      deleteEndpointProxy endpoint.id
      Action.mapError (internalServerError "Unable to update tunnel status") (.query .proxyManager fun _ => ())
      let _ ← (onHostServer Server.getSettings).mapError
        (internalServerError "Unable to retrieve settings from the database")
      return ()
    else pure ()

/-- `GetEndpointProxy`, and `CreateAndRegisterEndpointProxy` where there is
none. A new proxy has an empty cache. -/
def getOrCreateProxy (endpoint : Endpoint) : Handler Host Unit := do
  if ← .get fun h : Host => h.tokenCaches.contains endpoint.id then pure ()
  else
    Action.mapError (internalServerError "Unable to create proxy")
      (.call .proxyManager fun h : Host =>
        { h with
          tokenCaches := h.tokenCaches.insert endpoint.id ∅ })

/-- `proxyRequestsToKubernetesAPI`, up to the proxy: who sends the request,
and the environment. -/
def admitRequest (token : Option TokenData) (endpointID : EndpointID) (idle : Bool) :
    Handler Host (TokenData × Endpoint) := do
  let context ← onHostServer (authenticatedAccess token)
  let endpoint ← (onHostServer (Server.endpoint.getObject endpointID)).mapError
    (ofLookup "Unable to find an endpoint with the specified identifier inside the database")
  (onHostServer (Inventory.authorizedEndpointOperation (some context.tokenData) endpoint)).mapError
    (forbidden "Permission denied to access endpoint")
  prepareTunnel endpoint idle
  getOrCreateProxy endpoint
  return (context.tokenData, endpoint)

/-- `proxyRequestsToKubernetesAPI`. The proxy of any other environment does
not know of service accounts. -/
def proxyRequestsToKubernetesAPI (instanceID : String) (token : Option TokenData)
    (endpointID : EndpointID) (idle : Bool) (effect : Effect) : Handler Host Unit := do
  let (tokenData, endpoint) ← admitRequest token endpointID idle
  if isKubernetesEndpoint endpoint.type = true then
    (roundTrip ⟨endpoint.id, instanceID⟩ tokenData effect).mapError fun err => ⟨502, "Bad Gateway", err⟩
  else pure ()

/-! ## The machine -/

/-- `logout`. -/
def logout (token : Option TokenData) : Handler Host Unit := do
  let context ← onHostServer (authenticatedAccess token)
  .modify (Host.removeUserFromCache context.tokenData.id)

namespace Tokens

/-- What can happen. -/
inductive Event
  /-- A request to the handlers of users, teams and logins. -/
  | users (request : Users.Request) (token : Option TokenData) (salt : String)
  | logout (token : Option TokenData)
  | updateNamespaceAccessPolicies (endpointID : EndpointID) (accessPolicies : NamespaceAccessPolicies)
  | namespaceAccessPoliciesDeleteNamespace (endpointID : EndpointID) (ns : String)
  /-- A request to the cluster of an environment; `idle` is what the tunnel
  service says of an Edge agent. -/
  | proxied (token : Option TokenData) (endpointID : EndpointID) (idle : Bool) (effect : Effect)

/-- An event with the outcomes of its calls. -/
structure Turn where
  event : Event
  faults : Callee → List (Option String) := fun _ => []

/-- The system a turn starts in. -/
def Turn.sys (t : Turn) (h : Host) : Sys Callee Host := ⟨h, t.faults⟩

/-- What an event does, whoever else it answers. -/
def handle (services : Users.Services) (instanceID : String) : Event → Handler Host Unit
  | .users request token salt => onHostServer (Users.handle services token salt request)
  | .logout token => logout token
  | .updateNamespaceAccessPolicies endpointID accessPolicies =>
    (onHostServer (updateNamespaceAccessPolicies endpointID accessPolicies)).mapError
      (internalServerError "")
  | .namespaceAccessPoliciesDeleteNamespace endpointID ns =>
    (onHostServer (namespaceAccessPoliciesDeleteNamespace endpointID ns)).mapError
      (internalServerError "")
  | .proxied token endpointID idle effect =>
    proxyRequestsToKubernetesAPI instanceID token endpointID idle effect

/-- **The host under events**, which succeed or fail. -/
def machine (services : Users.Services) (instanceID : String) : Machine Host Turn where
  step h t := some ((handle services instanceID t.event).run (t.sys h)).2.store

end Tokens

end Kubernetes

end Portainer
