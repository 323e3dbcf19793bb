import Portainer.Model.Server
/-!
# Namespace access policies — the client and the cleaning

Who may use the namespaces of a Kubernetes environment is kept in a config
map of its cluster, as one text for all the namespaces. The operations of
`kubernetes/cli/access.go` replace the text as a whole, and so does
`CleanNAPWithOverridePolicies`, which takes off the users and the teams
that have no access to the environment any more.

The API server refuses an update of a config map that has changed since it
was read. The two reads of a read-modify-write cycle here are apart: the
policies are computed from the first, the version comes from the second.
-/

namespace Portainer

open Std Server

namespace Kubernetes

/-- What the API server answers when the version is not the current one. -/
def errConflict : String :=
  "the object has been modified; please apply your changes to the latest version and try again"

/-- What decoding the policies ends with, when it fails. -/
def errUnmarshal : String := "invalid namespace access policies"

/-- `ConfigMaps(portainerNamespace).Get(portainerConfigMapName)`: `none` is
an answer that it is not found. -/
def getConfigMap (kcl : EndpointID) : Fallible Server (Option ConfigMap) :=
  .query .kubernetesRead fun s => s.configMaps[kcl]?

/-- `ConfigMaps(portainerNamespace).Update`, of a config map read before. -/
def updateConfigMap (kcl : EndpointID) (configMap : ConfigMap) : Fallible Server Unit := do
  let current ← .get fun s => s.configMaps[kcl]?
  .require (current.map ConfigMap.resourceVersion = some configMap.resourceVersion) errConflict
  .call .kubernetesWrite fun s =>
    { s with configMaps :=
        s.configMaps.insert kcl { configMap with resourceVersion := configMap.resourceVersion + 1 } }

/-- `json.Unmarshal`, of the text of the config map. -/
def unmarshal (configMap : ConfigMap) : Except String NamespaceAccessPolicies :=
  match configMap.accessPolicies with
  | some policies => .ok policies
  | none => .error errUnmarshal

/-- `GetNamespaceAccessPolicies`. -/
def getNamespaceAccessPolicies (kcl : EndpointID) : Fallible Server NamespaceAccessPolicies := do
  match ← getConfigMap kcl with
  | none => pure ∅
  | some configMap => .ofExcept (unmarshal configMap)

/-- `UpdateNamespaceAccessPolicies`. -/
def updateNamespaceAccessPolicies (kcl : EndpointID) (accessPolicies : NamespaceAccessPolicies) :
    Fallible Server Unit := do
  match ← getConfigMap kcl with
  | none => pure ()
  | some configMap => updateConfigMap kcl { configMap with accessPolicies := some accessPolicies }

/-- `NamespaceAccessPoliciesDeleteNamespace`. -/
def namespaceAccessPoliciesDeleteNamespace (kcl : EndpointID) (ns : String) :
    Fallible Server Unit := do
  let policies ← (getNamespaceAccessPolicies kcl).mapError ("failed to fetch access policies: " ++ ·)
  updateNamespaceAccessPolicies kcl (policies.erase ns)

/-! ## Cleaning -/

/-- `isKubernetesEndpoint`. -/
def isKubernetesEndpoint (type : EndpointType) : Bool :=
  type = .kubernetesLocalEnvironment || type = .agentOnKubernetesEnvironment ||
    type = .edgeAgentOnKubernetesEnvironment

/-- `GetKubeClient`. -/
def getKubeClient (endpoint : Endpoint) : Fallible Server EndpointID := do
  .require (isKubernetesEndpoint endpoint.type = true) "unsupported endpoint type"
  .call .kubernetesClient id
  return endpoint.id

/-- `userAccess`. -/
def userAccess (userID : UserID) (userAccessPolicies : UserAccessPolicies)
    (teamAccessPolicies : TeamAccessPolicies) (memberships : List TeamMembership) : Bool :=
  userAccessPolicies.contains userID ||
    memberships.any fun membership => teamAccessPolicies.contains membership.teamID

/-- `teamAccess`. -/
def teamAccess (teamID : TeamID) (teamAccessPolicies : TeamAccessPolicies) : Bool :=
  teamAccessPolicies.contains teamID

/-- The group an access is checked against: the one given, or else the
group of the endpoint. -/
def groupOrOwn (endpoint : Endpoint) : Option EndpointGroup → Fallible Server EndpointGroup
  | some endpointGroup => pure endpointGroup
  | none => endpointGroup.getObject endpoint.groupID

/-- `getUserEndpointAccessWithPolicies`. -/
def getUserEndpointAccessWithPolicies (userID : UserID) (endpoint : Endpoint)
    (endpointGroup : Option EndpointGroup) : Fallible Server Bool := do
  let memberships ← teamMembershipsByUserID userID
  let endpointGroup ← groupOrOwn endpoint endpointGroup
  return userAccess userID endpoint.userAccessPolicies endpoint.teamAccessPolicies memberships ||
    userAccess userID endpointGroup.userAccessPolicies endpointGroup.teamAccessPolicies memberships

/-- `getTeamEndpointAccessWithPolicies`. -/
def getTeamEndpointAccessWithPolicies (teamID : TeamID) (endpoint : Endpoint)
    (endpointGroup : Option EndpointGroup) : Fallible Server Bool := do
  let endpointGroup ← groupOrOwn endpoint endpointGroup
  return teamAccess teamID endpoint.teamAccessPolicies ||
    teamAccess teamID endpointGroup.teamAccessPolicies

/-- The loop over the keys of one map of a policy: those without access
come off, and the flag says that there was one. -/
def dropWithoutAccess (access : Int → Fallible Server Bool) :
    List Int → ExtTreeMap Int AccessPolicy × Bool →
      Fallible Server (ExtTreeMap Int AccessPolicy × Bool)
  | [], result => pure result
  | id :: ids, result => do
    if ← access id then dropWithoutAccess access ids result
    else dropWithoutAccess access ids (result.1.erase id, true)

/-- The loop over the namespaces: in each, the teams first, then the
users. -/
def cleanNamespaces (endpoint : Endpoint) (endpointGroup : Option EndpointGroup) :
    List (String × K8sNamespaceAccessPolicy) → NamespaceAccessPolicies × Bool →
      Fallible Server (NamespaceAccessPolicies × Bool)
  | [], result => pure result
  | (ns, policy) :: rest, (accessPolicies, hasChange) => do
    let (teams, hasChange) ← dropWithoutAccess
      (getTeamEndpointAccessWithPolicies · endpoint endpointGroup)
      policy.teamAccessPolicies.keys (policy.teamAccessPolicies, hasChange)
    let (users, hasChange) ← dropWithoutAccess
      (getUserEndpointAccessWithPolicies · endpoint endpointGroup)
      policy.userAccessPolicies.keys (policy.userAccessPolicies, hasChange)
    cleanNamespaces endpoint endpointGroup rest (accessPolicies.insert ns ⟨users, teams⟩, hasChange)

/-- The part of `CleanNAPWithOverridePolicies` between its read and its
write: the policies that are left, and whether any came off. -/
def cleanPolicies (endpoint : Endpoint) (endpointGroup : Option EndpointGroup)
    (accessPolicies : NamespaceAccessPolicies) : Fallible Server (NamespaceAccessPolicies × Bool) :=
  cleanNamespaces endpoint endpointGroup accessPolicies.toList (accessPolicies, false)

/-- `CleanNAPWithOverridePolicies`. -/
def cleanNAPWithOverridePolicies (endpoint : Endpoint) (endpointGroup : Option EndpointGroup) :
    Fallible Server Unit := do
  let kcl ← getKubeClient endpoint
  let accessPolicies ← getNamespaceAccessPolicies kcl
  let (accessPolicies, hasChange) ← cleanPolicies endpoint endpointGroup accessPolicies
  if hasChange then updateNamespaceAccessPolicies kcl accessPolicies

end Kubernetes

end Portainer
