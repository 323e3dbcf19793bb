import Portainer.Common.Bucket
import Portainer.Common.GoPath
/-!
# The data model — the records of the database

The types of `portainer.go` with the fields the modelled functions read or
write. Identifiers are integers. A map of the source from identifiers to
`bool` that is used as a set is a `Finset`; any other map is an
`ExtTreeMap`, which iterates in the order of the keys.
-/

namespace Portainer

open Std

abbrev EdgeGroupID := Int
abbrev EdgeJobID := Int
abbrev EdgeStackID := Int
abbrev EndpointID := Int
abbrev EndpointGroupID := Int
abbrev RegistryID := Int
abbrev ResourceControlID := Int
abbrev RoleID := Int
abbrev StackID := Int
abbrev TagID := Int
abbrev TeamID := Int
abbrev TeamMembershipID := Int
abbrev UserID := Int

/-! ## Environments -/

/-- The kind of environment an endpoint stands for. -/
inductive EndpointType
  | dockerEnvironment
  | agentOnDockerEnvironment
  | azureEnvironment
  | edgeAgentOnDockerEnvironment
  | kubernetesLocalEnvironment
  | agentOnKubernetesEnvironment
  | edgeAgentOnKubernetesEnvironment
  deriving DecidableEq, Repr

/-- What regular users may do on an endpoint. -/
structure EndpointSecuritySettings where
  allowBindMountsForRegularUsers : Bool := false
  allowPrivilegedModeForRegularUsers : Bool := false
  allowVolumeBrowserForRegularUsers : Bool := false
  allowHostNamespaceForRegularUsers : Bool := false
  allowDeviceMappingForRegularUsers : Bool := false
  allowStackManagementForRegularUsers : Bool := false
  allowContainerCapabilitiesForRegularUsers : Bool := false
  allowSysctlSettingForRegularUsers : Bool := false
  enableHostManagementFeatures : Bool := false
  deriving DecidableEq, Repr

/-- The role a policy gives on an environment. -/
structure AccessPolicy where
  roleID : RoleID := 0
  deriving DecidableEq, Repr

abbrev UserAccessPolicies := ExtTreeMap UserID AccessPolicy
abbrev TeamAccessPolicies := ExtTreeMap TeamID AccessPolicy

inductive EndpointStatus
  | up
  | down
  deriving DecidableEq, Repr

/-- How an endpoint is reached over TLS. -/
structure TLSConfiguration where
  tls : Bool := false
  tlsSkipVerify : Bool := false
  tlsCACertPath : String := ""
  tlsCertPath : String := ""
  tlsKeyPath : String := ""
  deriving DecidableEq, Repr

structure AzureCredentials where
  applicationID : String := ""
  tenantID : String := ""
  authenticationKey : String := ""
  deriving DecidableEq, Repr

/-- An environment. -/
structure Endpoint where
  id : EndpointID
  name : String := ""
  type : EndpointType := .dockerEnvironment
  url : String := ""
  groupID : EndpointGroupID := 1
  publicURL : String := ""
  tlsConfig : TLSConfiguration := {}
  azureCredentials : AzureCredentials := {}
  tagIDs : List TagID := []
  status : EndpointStatus := .up
  userAccessPolicies : UserAccessPolicies := ∅
  teamAccessPolicies : TeamAccessPolicies := ∅
  edgeID : String := ""
  edgeCheckinInterval : Int := 0
  securitySettings : EndpointSecuritySettings := {}
  lastCheckInDate : Int := 0
  /-- `Snapshots` and `Kubernetes.Snapshots`, as text. -/
  dockerSnapshots : List String := []
  kubernetesSnapshots : List String := []
  deriving DecidableEq

instance : Record Endpoint := ⟨Endpoint.id⟩

/-- `IsDockerEndpoint`. -/
def isDockerEndpoint (endpoint : Endpoint) : Bool :=
  endpoint.type = .dockerEnvironment || endpoint.type = .agentOnDockerEnvironment ||
    endpoint.type = .edgeAgentOnDockerEnvironment

/-- A group of environments. -/
structure EndpointGroup where
  id : EndpointGroupID
  name : String := ""
  description : String := ""
  userAccessPolicies : UserAccessPolicies := ∅
  teamAccessPolicies : TeamAccessPolicies := ∅
  tagIDs : List TagID := []
  deriving DecidableEq

instance : Record EndpointGroup := ⟨EndpointGroup.id⟩

/-- A tag, with the endpoints and the groups that carry it. -/
structure Tag where
  id : TagID
  name : String := ""
  endpoints : Finset EndpointID := ∅
  endpointGroups : Finset EndpointGroupID := ∅
  deriving DecidableEq

instance : Record Tag := ⟨Tag.id⟩

/-! ## Edge computing -/

/-- A group of Edge environments: listed, or computed from tags. -/
structure EdgeGroup where
  id : EdgeGroupID
  name : String := ""
  dynamic : Bool := false
  tagIDs : List TagID := []
  endpoints : List EndpointID := []
  partialMatch : Bool := false
  deriving DecidableEq

instance : Record EdgeGroup := ⟨EdgeGroup.id⟩

/-- What an agent reported about an Edge stack: `StatusOk`, `StatusError`
or `StatusAcknowledged`. -/
inductive EdgeStackStatusType
  | ok
  | error
  | acknowledged
  deriving DecidableEq, Repr

structure EdgeStackStatus where
  type : EdgeStackStatusType
  error : String := ""
  endpointID : EndpointID
  deriving DecidableEq, Repr

/-- A stack deployed on every environment of its Edge groups. -/
structure EdgeStack where
  id : EdgeStackID
  name : String := ""
  status : ExtTreeMap EndpointID EdgeStackStatus := ∅
  creationDate : Int := 0
  edgeGroups : List EdgeGroupID := []
  projectPath : String := ""
  entryPoint : String := ""
  version : Int := 1
  prune : Bool := false
  deriving DecidableEq

instance : Record EdgeStack := ⟨EdgeStack.id⟩

/-- The Edge stacks an environment runs. -/
structure EndpointRelation where
  endpointID : EndpointID
  edgeStacks : Finset EdgeStackID := ∅
  deriving DecidableEq

instance : Record EndpointRelation := ⟨EndpointRelation.endpointID⟩

/-- Where the collection of a job's logs stands. -/
inductive EdgeJobLogsStatus
  | idle
  | pending
  | collected
  deriving DecidableEq, Repr

structure EdgeJobEndpointMeta where
  logsStatus : EdgeJobLogsStatus := .idle
  collectLogs : Bool := false
  deriving DecidableEq, Repr

/-- A script run on a schedule by Edge environments. -/
structure EdgeJob where
  id : EdgeJobID
  created : Int := 0
  cronExpression : String := ""
  endpoints : ExtTreeMap EndpointID EdgeJobEndpointMeta := ∅
  name : String := ""
  scriptPath : String := ""
  recurring : Bool := false
  version : Int := 0
  deriving DecidableEq

instance : Record EdgeJob := ⟨EdgeJob.id⟩

/-! ## Users and access control -/

/-- `AdministratorRole` or `StandardUserRole`. -/
inductive UserRole
  | administrator
  | standardUser
  deriving DecidableEq, Repr

/-- A user. `password` is the hash, and empty for a user of a directory. -/
structure User where
  id : UserID
  username : String := ""
  role : UserRole := .standardUser
  password : String := ""
  deriving DecidableEq, Repr

instance : Record User := ⟨User.id⟩

structure Team where
  id : TeamID
  name : String := ""
  deriving DecidableEq, Repr

instance : Record Team := ⟨Team.id⟩

/-- `TeamLeader` or `TeamMember`. -/
inductive MembershipRole
  | teamLeader
  | teamMember
  deriving DecidableEq, Repr

/-- A user's membership of a team. -/
structure TeamMembership where
  id : TeamMembershipID
  userID : UserID
  teamID : TeamID
  role : MembershipRole := .teamMember
  deriving DecidableEq, Repr

instance : Record TeamMembership := ⟨TeamMembership.id⟩

/-- What the session of a user says about them. -/
structure TokenData where
  id : UserID
  username : String := ""
  role : UserRole := .standardUser
  deriving DecidableEq, Repr

/-- The kind of resource a resource control is about. -/
inductive ResourceControlType
  | container
  | service
  | volume
  | network
  | secret
  | stack
  | config
  | customTemplate
  | containerGroup
  deriving DecidableEq, Repr

/-- `ReadWriteAccessLevel`, the only one. -/
inductive ResourceAccessLevel
  | readWrite
  deriving DecidableEq, Repr

structure UserResourceAccess where
  userID : UserID
  accessLevel : ResourceAccessLevel := .readWrite
  deriving DecidableEq, Repr

structure TeamResourceAccess where
  teamID : TeamID
  accessLevel : ResourceAccessLevel := .readWrite
  deriving DecidableEq, Repr

/-- Who may use a resource. The identifier is zero until the record is
created. -/
structure ResourceControl where
  id : ResourceControlID := 0
  resourceID : String
  subResourceIDs : List String := []
  type : ResourceControlType
  userAccesses : List UserResourceAccess := []
  teamAccesses : List TeamResourceAccess := []
  isPublic : Bool := false
  administratorsOnly : Bool := false
  system : Bool := false
  deriving DecidableEq, Repr

instance : Record ResourceControl := ⟨ResourceControl.id⟩

/-! ## Stacks -/

/-- `DockerSwarmStack`, `DockerComposeStack` or `KubernetesStack`. -/
inductive StackType
  | dockerSwarm
  | dockerCompose
  | kubernetes
  deriving DecidableEq, Repr

/-- `StackStatusActive` or `StackStatusInactive`. -/
inductive StackStatus
  | active
  | inactive
  deriving DecidableEq, Repr

structure Pair where
  name : String
  value : String
  deriving DecidableEq, Repr

/-- `gittypes.RepoConfig`. -/
structure RepoConfig where
  url : String
  referenceName : String
  configFilePath : Path
  deriving DecidableEq, Repr

/-- A stack. Its files lie in `projectPath`, the file that it is deployed
from is `entryPoint`. -/
structure Stack where
  id : StackID
  name : String := ""
  type : StackType
  endpointID : EndpointID
  swarmID : String := ""
  entryPoint : Path
  env : List Pair := []
  status : StackStatus := .active
  projectPath : Path := []
  creationDate : Int := 0
  createdBy : String := ""
  updateDate : Int := 0
  updatedBy : String := ""
  gitConfig : Option RepoConfig := none
  deriving DecidableEq, Repr

instance : Record Stack := ⟨Stack.id⟩

/-! ## Registries and settings -/

inductive RegistryType
  | quay
  | azure
  | custom
  | gitlab
  | proGet
  | dockerHub
  deriving DecidableEq, Repr

/-- Who may use a registry on one endpoint. -/
structure RegistryAccessPolicies where
  userAccessPolicies : UserAccessPolicies := ∅
  teamAccessPolicies : TeamAccessPolicies := ∅
  namespaces : List String := []
  deriving DecidableEq

structure Registry where
  id : RegistryID := 0
  type : RegistryType
  name : String := ""
  url : String := ""
  baseURL : String := ""
  authentication : Bool := false
  username : String := ""
  password : String := ""
  registryAccesses : ExtTreeMap EndpointID RegistryAccessPolicies := ∅
  deriving DecidableEq

instance : Record Registry := ⟨Registry.id⟩

/-- Who may use a namespace of a Kubernetes environment. -/
structure K8sNamespaceAccessPolicy where
  userAccessPolicies : UserAccessPolicies := ∅
  teamAccessPolicies : TeamAccessPolicies := ∅
  deriving DecidableEq

/-- The policies of an environment, by namespace. -/
abbrev NamespaceAccessPolicies := ExtTreeMap String K8sNamespaceAccessPolicy

/-- Where users are authenticated. -/
inductive AuthenticationMethod
  | internal
  | ldap
  | oauth
  deriving DecidableEq, Repr

structure LDAPSettings where
  autoCreateUsers : Bool := false
  deriving DecidableEq, Repr

structure OAuthSettings where
  oauthAutoCreateUsers : Bool := false
  defaultTeamID : TeamID := 0
  deriving DecidableEq, Repr

/-- The settings of the application. -/
structure Settings where
  blackListedLabels : Option (List Pair) := none
  authenticationMethod : AuthenticationMethod := .internal
  ldapSettings : LDAPSettings := {}
  oauthSettings : OAuthSettings := {}
  edgeAgentCheckinInterval : Int := 5
  deriving DecidableEq, Repr

end Portainer
