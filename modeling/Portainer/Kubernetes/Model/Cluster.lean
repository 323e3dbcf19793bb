import Portainer.Kubernetes.Model.Access
/-!
# Clusters — service accounts and their bindings

What Portainer keeps in the cluster of a Kubernetes environment for a user
who is not an administrator: a service account with its token, a subject of
the cluster role binding that all users share, and a subject of the role
binding of each namespace that the user may work in. The functions are
those of `kubernetes/cli`, called through a client of the environment.

The API server refuses to create what is there, and to create anything in
a namespace that is not.
-/

namespace Portainer

open Std

namespace Kubernetes

/-- `defaultNamespace`. -/
def defaultNamespace : String := "default"

/-- `portainerNamespace`. -/
def portainerNamespace : String := "portainer"

/-- `rbacv1.Subject`. -/
structure Subject where
  kind : String
  apiGroup : String := ""
  name : String
  inNamespace : String := ""
  deriving DecidableEq, Repr

/-- `rbacv1.RoleRef`. -/
structure RoleRef where
  kind : String
  name : String
  deriving DecidableEq, Repr

/-- `rbacv1.RoleBinding` and `rbacv1.ClusterRoleBinding`. -/
structure RoleBinding where
  subjects : List Subject
  roleRef : RoleRef
  deriving DecidableEq, Repr

/-- `rbacv1.PolicyRule`. -/
structure PolicyRule where
  verbs : List String
  resources : List String
  apiGroups : List String
  deriving DecidableEq, Repr

/-- A secret, by what Portainer puts into it for a service account. -/
structure AccountSecret where
  annotations : List (String × String)
  type : String
  deriving DecidableEq, Repr

/-- The objects of one kind, by namespace and name. -/
abbrev Objects (α : Type) := String → String → Option α

/-- The objects with one more, or with one replaced. -/
def Objects.put {α : Type} (objects : Objects α) (ns name : String) (a : α) : Objects α :=
  fun ns' name' => if ns' = ns ∧ name' = name then some a else objects ns' name'

/-- A cluster. The namespace `default` cannot be deleted. -/
structure Cluster where
  namespaces : List String := [defaultNamespace, portainerNamespace]
  default_mem : defaultNamespace ∈ namespaces := by decide
  clusterRoles : String → Option (List PolicyRule) := fun _ => none
  clusterRoleBindings : String → Option RoleBinding := fun _ => none
  roleBindings : Objects RoleBinding := fun _ _ => none
  serviceAccounts : Objects Unit := fun _ _ => none
  secrets : Objects AccountSecret := fun _ _ => none

/-- What the token caches hold of a user: the service account that the
token authenticates. -/
abbrev TokenCache := ExtTreeMap UserID String

/-- A request that was sent to the cluster with the service account of a
user, and what was stored, there and in the database, when it was. -/
structure Forwarded where
  endpointID : EndpointID
  userID : UserID
  server : Server
  clusters : EndpointID → Cluster

/-- The server, the cluster of each environment, the token caches of the
proxies that have been made, and the requests forwarded so far with the
service account of a user. -/
structure Host where
  server : Server := {}
  clusters : EndpointID → Cluster := fun _ => {}
  tokenCaches : ExtTreeMap EndpointID TokenCache := ∅
  forwarded : List Forwarded := []

/-- The host with the cluster of an environment changed. -/
def Host.alterCluster (endpointID : EndpointID) (f : Cluster → Cluster) (h : Host) : Host :=
  { h with clusters := fun id => if id = endpointID then f (h.clusters id) else h.clusters id }

/-- The errors of the API server that the code tells apart. -/
inductive APIError
  | alreadyExists
  | notFound
  | failed (text : String)
  deriving DecidableEq, Repr

/-- What is done through the API of a cluster. -/
abbrev API (α : Type) := Action Callee Host APIError α

/-- `KubeClient`: the environment it talks to, and the instance of
Portainer, which is part of the names. -/
structure KubeClient where
  endpointID : EndpointID
  instanceID : String
  deriving DecidableEq, Repr

namespace KubeClient

variable (kcl : KubeClient)

/-! ## Names -/

/-- `userServiceAccountName`. -/
def userServiceAccountName (userID : UserID) : String :=
  s!"portainer-sa-user-{kcl.instanceID}-{userID}"

/-- `userServiceAccountTokenSecretName`. -/
def userServiceAccountTokenSecretName (serviceAccountName : String) : String :=
  s!"{kcl.instanceID}-{serviceAccountName}-secret"

/-- `namespaceClusterRoleBindingName`. -/
def namespaceClusterRoleBindingName (ns : String) : String :=
  s!"portainer-rb-{kcl.instanceID}-{ns}"

/-- `portainerUserCRName`. -/
def portainerUserCRName : String := "portainer-cr-user"

/-- `portainerUserCRBName`. -/
def portainerUserCRBName : String := "portainer-crb-user"

/-! ## The API -/

/-- A `Get` or a `List`. -/
def read {α : Type} (f : Cluster → α) : API α :=
  (Action.query .kubernetesRead fun h : Host => f (h.clusters kcl.endpointID)).mapError .failed

/-- A change that the API server accepts. -/
def write (f : Cluster → Cluster) : API Unit :=
  (Action.call .kubernetesWrite fun h : Host => h.alterCluster kcl.endpointID f).mapError .failed

/-- A `Create` of an object of the cluster. -/
def create {α : Type} (current : Cluster → Option α) (f : Cluster → Cluster) : API Unit := do
  let taken ← .get fun h : Host => (current (h.clusters kcl.endpointID)).isSome
  .require (taken = false) .alreadyExists
  kcl.write f

/-- A `Create` of an object in a namespace. -/
def createIn {α : Type} (ns : String) (current : Cluster → Option α) (f : Cluster → Cluster) :
    API Unit := do
  let namespaces ← .get fun h : Host => (h.clusters kcl.endpointID).namespaces
  .require (ns ∈ namespaces) .notFound
  kcl.create current f

/-- The error goes on, unless it is that the object is there. -/
def unlessExists : Except APIError Unit → API Unit
  | .error .alreadyExists => pure ()
  | .error err => .fail err
  | .ok () => pure ()

/-! ## The service account of a user -/

/-- The subject that stands for a service account. -/
def subject (serviceAccountName : String) : Subject where
  kind := "ServiceAccount"
  name := serviceAccountName
  inNamespace := portainerNamespace

/-- `getPortainerUserDefaultPolicies`. -/
def getPortainerUserDefaultPolicies : List PolicyRule :=
  [⟨["list"], ["namespaces", "nodes"], [""]⟩,
    ⟨["list"], ["storageclasses"], ["storage.k8s.io"]⟩,
    ⟨["list"], ["ingresses"], ["networking.k8s.io"]⟩]

/-- `createPortainerUserClusterRole`. -/
def createPortainerUserClusterRole : API Unit := do
  let result ← (kcl.create (fun c => c.clusterRoles portainerUserCRName) fun c =>
    { c with clusterRoles := fun name =>
        if name = portainerUserCRName then some getPortainerUserDefaultPolicies
        else c.clusterRoles name }).attempt
  unlessExists result

/-- `createUserServiceAccount`. -/
def createUserServiceAccount (ns serviceAccountName : String) : API Unit := do
  let result ← (kcl.createIn ns (fun c => c.serviceAccounts ns serviceAccountName) fun c =>
    { c with serviceAccounts := c.serviceAccounts.put ns serviceAccountName () }).attempt
  unlessExists result

/-- The secret of `createServiceAccountToken`. -/
def serviceAccountSecret (serviceAccountName : String) : AccountSecret where
  annotations := [("kubernetes.io/service-account.name", serviceAccountName)]
  type := "kubernetes.io/service-account-token"

/-- `createServiceAccountToken`. -/
def createServiceAccountToken (serviceAccountName : String) : API Unit := do
  let name := kcl.userServiceAccountTokenSecretName serviceAccountName
  let result ← (kcl.createIn portainerNamespace (fun c => c.secrets portainerNamespace name) fun c =>
    { c with secrets :=
        c.secrets.put portainerNamespace name (serviceAccountSecret serviceAccountName) }).attempt
  unlessExists result

/-- The cluster with its cluster role binding for users replaced. -/
def withUserBinding (binding : RoleBinding) (c : Cluster) : Cluster :=
  { c with clusterRoleBindings := fun name =>
      if name = portainerUserCRBName then some binding else c.clusterRoleBindings name }

/-- A binding has a subject with the name of the service account. -/
def named (serviceAccountName : String) (binding : RoleBinding) : Bool :=
  binding.subjects.any fun subject => subject.name = serviceAccountName

/-- The binding with the service account as one more subject. -/
def withSubject (serviceAccountName : String) (binding : RoleBinding) : RoleBinding :=
  { binding with subjects := binding.subjects ++ [subject serviceAccountName] }

/-- `ensureServiceAccountHasPortainerUserClusterRole`. -/
def ensureServiceAccountHasPortainerUserClusterRole (serviceAccountName : String) : API Unit := do
  match ← kcl.read fun c => c.clusterRoleBindings portainerUserCRBName with
  | none =>
    kcl.create (fun c => c.clusterRoleBindings portainerUserCRBName)
      (withUserBinding
        ⟨[subject serviceAccountName], ⟨"ClusterRole", portainerUserCRName⟩⟩)
  | some binding =>
    if named serviceAccountName binding then pure ()
    else kcl.write (withUserBinding (withSubject serviceAccountName binding))

/-! ## Namespaces -/

/-- The role binding of Portainer in a namespace. -/
def binding (c : Cluster) (ns : String) : Option RoleBinding :=
  c.roleBindings ns (kcl.namespaceClusterRoleBindingName ns)

/-- The cluster with that role binding replaced. -/
def withBinding (ns : String) (binding : RoleBinding) (c : Cluster) : Cluster :=
  { c with roleBindings := c.roleBindings.put ns (kcl.namespaceClusterRoleBindingName ns) binding }

/-- `removeNamespaceAccessForServiceAccount`. -/
def removeNamespaceAccessForServiceAccount (serviceAccountName ns : String) : API Unit := do
  match ← kcl.read fun c => kcl.binding c ns with
  | none => pure ()
  | some binding =>
    kcl.write (kcl.withBinding ns
      { binding with
        subjects := binding.subjects.filter fun subject => subject.name ≠ serviceAccountName })

/-- `ensureNamespaceAccessForServiceAccount`. -/
def ensureNamespaceAccessForServiceAccount (serviceAccountName ns : String) : API Unit := do
  match ← kcl.read fun c => kcl.binding c ns with
  | none =>
    kcl.createIn ns (fun c => kcl.binding c ns)
      (kcl.withBinding ns ⟨[subject serviceAccountName], ⟨"ClusterRole", "edit"⟩⟩)
  | some binding =>
    if named serviceAccountName binding then pure ()
    else kcl.write (kcl.withBinding ns (withSubject serviceAccountName binding))

/-- `hasUserAccessToNamespace`. -/
def hasUserAccessToNamespace (userID : UserID) (teamIDs : List TeamID)
    (policies : K8sNamespaceAccessPolicy) : Bool :=
  policies.userAccessPolicies.contains userID ||
    teamIDs.any fun teamID => policies.teamAccessPolicies.contains teamID

/-- One turn of the loop of `setupNamespaceAccesses`. -/
def setupNamespaceAccess (accessPolicies : NamespaceAccessPolicies) (userID : UserID)
    (teamIDs : List TeamID) (serviceAccountName ns : String) : API Unit :=
  if ns = defaultNamespace then pure ()
  else
    match accessPolicies[ns]? with
    | none => kcl.removeNamespaceAccessForServiceAccount serviceAccountName ns
    | some policies =>
      if hasUserAccessToNamespace userID teamIDs policies = false then
        kcl.removeNamespaceAccessForServiceAccount serviceAccountName ns
      else do
        let result ← (kcl.ensureNamespaceAccessForServiceAccount serviceAccountName ns).attempt
        unlessExists result

/-- `setupNamespaceAccesses`. -/
def setupNamespaceAccesses (userID : UserID) (teamIDs : List TeamID) (serviceAccountName : String) :
    API Unit := do
  let configMap ← (Action.zoom Host.server (fun h server => { h with server := server })
    (getConfigMap kcl.endpointID)).mapError .failed
  match configMap with
  | none => pure ()
  | some configMap => do
    let accessPolicies ← (Action.ofExcept (unmarshal configMap)).mapError .failed
    let namespaces ← kcl.read Cluster.namespaces
    namespaces.forM (kcl.setupNamespaceAccess accessPolicies userID teamIDs serviceAccountName)

/-! ## Setup -/

/-- `ensureServiceAccountForUserExists`. -/
def ensureServiceAccountForUserExists (serviceAccountName : String) : API Unit := do
  kcl.createUserServiceAccount portainerNamespace serviceAccountName
  kcl.createServiceAccountToken serviceAccountName
  kcl.ensureServiceAccountHasPortainerUserClusterRole serviceAccountName
  kcl.ensureNamespaceAccessForServiceAccount serviceAccountName defaultNamespace

/-- `SetupUserServiceAccount`. -/
def setupUserServiceAccount (userID : UserID) (teamIDs : List TeamID) : API Unit := do
  let serviceAccountName := kcl.userServiceAccountName userID
  kcl.createPortainerUserClusterRole
  kcl.ensureServiceAccountForUserExists serviceAccountName
  kcl.setupNamespaceAccesses userID teamIDs serviceAccountName

end KubeClient

end Kubernetes

end Portainer
