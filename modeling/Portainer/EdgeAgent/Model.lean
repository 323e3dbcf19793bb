import Mathlib.Data.Finset.Sort
import Portainer.Common.Location
import Portainer.Inventory.Model.EdgeStacks
/-!
# Edge agents — the four requests

An Edge agent polls the status of its environment, fetches the file of a
stack, delivers the log of a job and reports the status of a stack. The
routes are public: `AuthorizedEdgeEndpointOperation` compares the Edge
identifier of the request with the one of the environment, and an
environment without one accepts any.

The identifiers of stacks and jobs are taken from the request. A map that
is stored as `null` is read as a nil map, and an assignment to it panics.
-/

namespace Portainer

open Std HandlerError
open Tunnel (EdgeServer setMeta)

namespace EdgeAgent

variable {S : Type}

/-- Which of the stored jobs and stacks have `null` for their map. -/
structure NilMaps where
  endpoints : EdgeJobID → Bool := fun _ => false
  status : EdgeStackID → Bool := fun _ => false

/-- A panic. No answer is sent. -/
def assignmentToNilMap : HandlerError := ⟨0, "panic", "assignment to entry in nil map"⟩

/-! ## The services -/

def edgeStack (edgeStackID : EdgeStackID) : Fallible (EdgeServer S) EdgeStack :=
  .lookup .databaseRead errObjectNotFound fun s => s.dataStore.edgeStack.get? edgeStackID

def endpointRelation (endpointID : EndpointID) : Fallible (EdgeServer S) EndpointRelation :=
  .lookup .databaseRead errObjectNotFound fun s => s.dataStore.endpointRelation.get? endpointID

def updateEndpoint (endpoint : Endpoint) : Fallible (EdgeServer S) Unit :=
  .call .databaseWrite fun s =>
    { s with dataStore := { s.dataStore with endpoint := s.dataStore.endpoint.put endpoint } }

def updateEdgeStack (stack : EdgeStack) : Fallible (EdgeServer S) Unit :=
  .call .databaseWrite fun s =>
    { s with dataStore := { s.dataStore with edgeStack := s.dataStore.edgeStack.put stack } }

/-- `GetFileContent`. -/
def getFileContent (filePath : String) : Fallible (EdgeServer S) String :=
  .lookup .fileService ("open " ++ filePath ++ ": no such file or directory") fun s => s.files[filePath]?

/-- The environment a request is for, if its agent sent it. -/
def edgeEndpoint (edgeIdentifier : String) (endpointID : EndpointID) :
    Handler (EdgeServer S) Endpoint := do
  let endpoint ← (EdgeServer.endpoint endpointID).mapError
    (.ofLookup "Unable to find an endpoint with the specified identifier inside the database")
  match Tunnel.authorizedEdgeEndpointOperation edgeIdentifier endpoint with
  | some err => .fail (.forbidden "Permission denied to access endpoint" err)
  | none => pure endpoint

/-! ## The status poll -/

/-- What the poll reads of the request, and the clock. -/
structure Poll where
  edgeIdentifier : String
  agentPlatformHeader : String := ""
  now : Tunnel.Time

/-- `AgentPlatformDocker` and `AgentPlatformKubernetes`. -/
def agentPlatformDocker : Int := 1

@[inherit_doc agentPlatformDocker]
def agentPlatformKubernetes : Int := 2

/-- An environment without an Edge identifier takes that of its first
agent, and the type of the agent's platform. -/
def identified (r : Poll) (endpoint : Endpoint) : Except HandlerError Endpoint :=
  if endpoint.edgeID = "" then
    if r.agentPlatformHeader = "" then
      .error (internalServerError "Agent Platform Header is missing" "Agent Platform Header is missing")
    else
      match Path.atoi r.agentPlatformHeader.toList with
      | none => .error (internalServerError "Unable to parse agent platform header"
          ("strconv.Atoi: parsing \"" ++ r.agentPlatformHeader ++ "\""))
      | some agentPlatform => .ok { endpoint with
          edgeID := r.edgeIdentifier
          type :=
            if agentPlatform = agentPlatformDocker then .edgeAgentOnDockerEnvironment
            else if agentPlatform = agentPlatformKubernetes then .edgeAgentOnKubernetesEnvironment
            else endpoint.type }
  else .ok endpoint

structure EdgeJobResponse where
  id : EdgeJobID
  collectLogs : Bool
  cronExpression : String
  script : String
  version : Int

structure StackStatusResponse where
  id : EdgeStackID
  version : Int

structure EndpointStatusInspectResponse where
  status : Tunnel.Status
  port : ℕ
  schedules : List EdgeJobResponse
  checkinInterval : Int
  credentials : String
  edgeStacks : List StackStatusResponse

/-- `base64.RawStdEncoding.EncodeToString`. -/
def encodeToString (file : String) : String :=
  String.ofList (Tunnel.rawStdEncoding file.toUTF8.toList)

/-- The loop over the jobs of the tunnel. -/
def schedules (endpointID : EndpointID) : List EdgeJob → Handler (EdgeServer S) (List EdgeJobResponse)
  | [] => pure []
  | job :: jobs => do
    let file ← (getFileContent job.scriptPath).mapError
      (internalServerError "Unable to retrieve Edge job script file")
    let rest ← schedules endpointID jobs
    return {
      id := job.id
      collectLogs := (job.endpoints[endpointID]?.getD {}).collectLogs
      cronExpression := job.cronExpression
      script := encodeToString file
      version := job.version } :: rest

/-- The loop over the stacks of the relation. -/
def edgeStacksStatus : List EdgeStackID → Handler (EdgeServer S) (List StackStatusResponse)
  | [] => pure []
  | stackID :: stackIDs => do
    let stack ← (edgeStack stackID).mapError
      (internalServerError "Unable to retrieve edge stack from the database")
    let rest ← edgeStacksStatus stackIDs
    return ⟨stack.id, stack.version⟩ :: rest

/-- A tunnel that was required is active once its agent knows. -/
def activate (endpointID : EndpointID) (status : Tunnel.Status) (now : Tunnel.Time) :
    Handler (EdgeServer S) Unit :=
  if status = .required then .modify (EdgeServer.mapTunnels (·.setTunnelStatusToActive endpointID now))
  else pure ()

/-- The rest of the poll, once it has what to tell of the tunnel. -/
def conclude (r : Poll) (endpoint : Endpoint) (settings : Settings) (tunnel : Tunnel.TunnelDetails)
    (schedules : List EdgeJobResponse) : Handler (EdgeServer S) EndpointStatusInspectResponse := do
  activate endpoint.id tunnel.status r.now
  let relation ← (endpointRelation endpoint.id).mapError
    (internalServerError "Unable to retrieve relation object from the database")
  let edgeStacks ← edgeStacksStatus (relation.edgeStacks.sort (· ≤ ·))
  return {
    status := tunnel.status
    port := tunnel.port
    schedules := schedules
    checkinInterval :=
      if endpoint.edgeCheckinInterval ≠ 0 then endpoint.edgeCheckinInterval
      else settings.edgeAgentCheckinInterval
    credentials := tunnel.credentials
    edgeStacks := edgeStacks }

def endpointStatusInspect (r : Poll) (endpointID : EndpointID) :
    Handler (EdgeServer S) EndpointStatusInspectResponse := do
  let endpoint ← edgeEndpoint r.edgeIdentifier endpointID
  let endpoint ← Action.ofExcept (identified r endpoint)
  let endpoint := { endpoint with lastCheckInDate := r.now / Tunnel.second }
  (updateEndpoint endpoint).mapError
    (internalServerError "Unable to Unable to persist endpoint changes inside the database")
  let settings ← (Action.query .databaseRead fun s : EdgeServer S => s.dataStore.settings).mapError
    (internalServerError "Unable to retrieve settings from the database")
  let tunnel ← .get fun s => s.reverseTunnelService.getTunnelDetails endpoint.id
  let schedules ← schedules endpoint.id tunnel.jobs
  conclude r endpoint settings tunnel schedules

/-! ## The file of a stack -/

structure ConfigResponse where
  prune : Bool
  stackFileContent : String
  name : String

/-- The path of the stack's file. -/
def stackFilePath (edgeStack : EdgeStack) : String :=
  String.ofList (Path.join [edgeStack.projectPath.toList, edgeStack.entryPoint.toList])

def endpointEdgeStackInspect (edgeIdentifier : String) (endpointID : EndpointID)
    (edgeStackID : EdgeStackID) : Handler (EdgeServer S) ConfigResponse := do
  let _ ← edgeEndpoint edgeIdentifier endpointID
  let edgeStack ← (edgeStack edgeStackID).mapError
    (ofLookup "Unable to find an edge stack with the specified identifier inside the database")
  let stackFileContent ← (getFileContent (stackFilePath edgeStack)).mapError
    (internalServerError "Unable to retrieve Compose file from disk")
  return ⟨edgeStack.prune, stackFileContent, edgeStack.name⟩

/-! ## The log of a job -/

/-- The job goes to the database and to the tunnel, and to the tunnel also
if the database does not take it. -/
def deliver (endpointID : EndpointID) (edgeJob : EdgeJob) : Handler (EdgeServer S) Unit := do
  let result ← (EdgeServer.updateEdgeJob edgeJob).attempt
  EdgeServer.addEdgeJob endpointID edgeJob
  match result with
  | .error err => .fail (internalServerError "Unable to persist edge job changes to the database" err)
  | .ok _ => pure ()

/-- Where no map is `null` this is the handler of the jobs and the tunnels:
`endpointEdgeJobsLogs_eq`. -/
def endpointEdgeJobsLogs (nils : NilMaps) (edgeIdentifier : String) (endpointID : EndpointID)
    (edgeJobID : EdgeJobID) (fileContent : String) : Handler (EdgeServer S) Unit := do
  let endpoint ← edgeEndpoint edgeIdentifier endpointID
  let edgeJob ← (EdgeServer.edgeJob edgeJobID).mapError
    (ofLookup "Unable to find an edge job with the specified identifier inside the database")
  (EdgeServer.storeEdgeJobTaskLogFile (toString edgeJobID) (toString endpointID) fileContent).mapError
    (internalServerError "Unable to save task log to the filesystem")
  .require (nils.endpoints edgeJobID = false) assignmentToNilMap
  deliver endpoint.id (setMeta edgeJob endpoint.id false .collected)

/-! ## The status of a stack -/

def edgeStackStatusUpdate (nils : NilMaps) (edgeIdentifier : String) (stackID : EdgeStackID)
    (payload : Inventory.UpdateStatusPayload) : Handler (EdgeServer S) EdgeStack := do
  let stack ← (edgeStack stackID).mapError
    (ofLookup "Unable to find a stack with the specified identifier inside the database")
  let (status, endpointID) ← (Action.ofExcept payload.validate).mapError
    (badRequest "Invalid request payload")
  let _ ← edgeEndpoint edgeIdentifier endpointID
  .require (nils.status stackID = false) assignmentToNilMap
  let stack := { stack with
    status := stack.status.insert endpointID ⟨status, payload.error, endpointID⟩ }
  (updateEdgeStack stack).mapError
    (internalServerError "Unable to persist the stack changes inside the database")
  return stack

/-! ## Requests -/

/-- A request of an Edge agent. -/
inductive Request
  | statusInspect (r : Poll) (endpointID : EndpointID)
  | stackInspect (edgeIdentifier : String) (endpointID : EndpointID) (edgeStackID : EdgeStackID)
  | jobLogs (edgeIdentifier : String) (endpointID : EndpointID) (edgeJobID : EdgeJobID)
      (fileContent : String)
  | stackStatus (edgeIdentifier : String) (stackID : EdgeStackID)
      (payload : Inventory.UpdateStatusPayload)

/-- The answer to a request. -/
inductive Answer
  | status (response : EndpointStatusInspectResponse)
  | config (response : ConfigResponse)
  | null
  | stack (stack : EdgeStack)

namespace Request

/-- The environment the request is for. -/
def endpointID : Request → Option EndpointID
  | statusInspect _ endpointID => some endpointID
  | stackInspect _ endpointID _ => some endpointID
  | jobLogs _ endpointID _ _ => some endpointID
  | stackStatus _ _ payload => payload.endpointID

def handle (nils : NilMaps) : Request → Handler (EdgeServer S) Answer
  | statusInspect r endpointID => do return .status (← endpointStatusInspect r endpointID)
  | stackInspect edgeIdentifier endpointID edgeStackID => do
    return .config (← endpointEdgeStackInspect edgeIdentifier endpointID edgeStackID)
  | jobLogs edgeIdentifier endpointID edgeJobID fileContent => do
    endpointEdgeJobsLogs nils edgeIdentifier endpointID edgeJobID fileContent
    return .null
  | stackStatus edgeIdentifier stackID payload => do
    return .stack (← edgeStackStatusUpdate nils edgeIdentifier stackID payload)

end Request

end EdgeAgent

end Portainer
