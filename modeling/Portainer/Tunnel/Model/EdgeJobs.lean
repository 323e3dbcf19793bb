import Portainer.Model.DataStore
import Portainer.Tunnel.Model.Service
/-!
# Edge jobs — model

The handlers of `handler/edgejobs` and the log delivery of
`handler/endpointedge`. A job is kept twice: in the database, and in the
tunnel record of each of its endpoints, from where the agents poll it.
`loadEdgeJobs` builds the second from the first when the server starts.
-/

namespace Portainer

open Std

namespace Tunnel

/-- What the Edge job handlers work on. `files` are the contents of the
file store, by path. -/
structure EdgeServer (S : Type) where
  dataStore : DataStore := {}
  reverseTunnelService : Service S
  fileStorePath : String := "/data"
  files : ExtTreeMap String String := ∅

variable {S : Type}

/-- `EdgeAgentOnDockerEnvironment` or `EdgeAgentOnKubernetesEnvironment`. -/
def isEdge (type : EndpointType) : Bool :=
  type = .edgeAgentOnDockerEnvironment || type = .edgeAgentOnKubernetesEnvironment

/-! ## The services -/

namespace EdgeServer

def endpoint (endpointID : EndpointID) : Fallible (EdgeServer S) Endpoint :=
  .lookup .databaseRead errObjectNotFound fun s => s.dataStore.endpoint.get? endpointID

def edgeJob (edgeJobID : EdgeJobID) : Fallible (EdgeServer S) EdgeJob :=
  .lookup .databaseRead errObjectNotFound fun s => s.dataStore.edgeJob.get? edgeJobID

/-- A change of the Edge job bucket. -/
def mapEdgeJobs (f : Bucket EdgeJob → Bucket EdgeJob) (s : EdgeServer S) : EdgeServer S :=
  { s with dataStore := { s.dataStore with edgeJob := f s.dataStore.edgeJob } }

/-- A change of the tunnels. -/
def mapTunnels (f : Service S → Service S) (s : EdgeServer S) : EdgeServer S :=
  { s with reverseTunnelService := f s.reverseTunnelService }

/-- `GetNextIdentifier`: it drops the error of the draw and then returns
zero. -/
def getNextIdentifier : Handler (EdgeServer S) EdgeJobID := do
  match ← (Action.call .databaseWrite (mapEdgeJobs Bucket.nextSequence)).attempt with
  | .ok _ => .get fun s => s.dataStore.edgeJob.sequence
  | .error _ => pure 0

/-- `CreateEdgeJob`: a job without an identifier draws one. -/
def createEdgeJob (edgeJob : EdgeJob) : Fallible (EdgeServer S) Unit :=
  .call .databaseWrite <| mapEdgeJobs fun bucket =>
    if edgeJob.id = 0 then bucket.nextSequence.put { edgeJob with id := bucket.next }
    else bucket.put edgeJob

def updateEdgeJob (edgeJob : EdgeJob) : Fallible (EdgeServer S) Unit :=
  .call .databaseWrite (mapEdgeJobs (·.put edgeJob))

def deleteEdgeJob (edgeJobID : EdgeJobID) : Fallible (EdgeServer S) Unit :=
  .call .databaseWrite (mapEdgeJobs (·.delete edgeJobID))

def addEdgeJob (endpointID : EndpointID) (edgeJob : EdgeJob) : Handler (EdgeServer S) Unit :=
  .modify (mapTunnels (·.addEdgeJob endpointID edgeJob))

/-- `GetEdgeJobFolder`. -/
def getEdgeJobFolder (s : EdgeServer S) (identifier : String) : String :=
  s.fileStorePath ++ "/edge_jobs/" ++ identifier

/-- `StoreEdgeJobFileFromBytes`: the script of a job. It returns the path
of the file. -/
def storeEdgeJobFile (identifier content : String) : Fallible (EdgeServer S) String := do
  let filePath ← .get fun s => s.getEdgeJobFolder identifier ++ "/job_" ++ identifier ++ ".sh"
  .call .fileService fun s => { s with files := s.files.insert filePath content }
  return filePath

def getEdgeJobTaskLogPath (s : EdgeServer S) (edgeJobID taskID : String) : String :=
  s.getEdgeJobFolder edgeJobID ++ "/logs_" ++ taskID

/-- `ClearEdgeJobTaskLogs`: it fails if there is no log to remove. -/
def clearEdgeJobTaskLogs (edgeJobID taskID : String) : Fallible (EdgeServer S) Unit := do
  let path ← .get fun s => s.getEdgeJobTaskLogPath edgeJobID taskID
  let found ← .get fun s => s.files.contains path
  .require (found = true) ("remove " ++ path ++ ": no such file or directory")
  .call .fileService fun s => { s with files := s.files.erase path }

def storeEdgeJobTaskLogFile (edgeJobID taskID content : String) : Fallible (EdgeServer S) Unit := do
  let path ← .get fun s => s.getEdgeJobTaskLogPath edgeJobID taskID
  .call .fileService fun s => { s with files := s.files.insert path content }

/-- `RemoveDirectory`. -/
def removeDirectory (directory : String) : Fallible (EdgeServer S) Unit :=
  .call .fileService fun s =>
    { s with files := s.files.filter fun path _ => !(directory.toList ++ ['/']).isPrefixOf path.toList }

end EdgeServer

open EdgeServer

/-! ## Create -/

/-- `strings.Split` at single spaces. -/
def splitSpaces (text : String) : List String :=
  (text.toList.splitOn ' ').map String.ofList

/-- A letter or a digit of the ASCII alphabet. -/
def isAlphanumeric (c : Char) : Bool :=
  ('a' ≤ c && c ≤ 'z') || ('A' ≤ c && c ≤ 'Z') || ('0' ≤ c && c ≤ '9')

/-- `^[a-zA-Z0-9][a-zA-Z0-9_.-]*$`. -/
def matchesJobName (name : String) : Bool :=
  match name.toList with
  | [] => false
  | c :: rest => isAlphanumeric c &&
      rest.all fun c => isAlphanumeric c || c = '_' || c = '.' || c = '-'

def invalidNameFormat : String :=
  "Invalid Edge job name format. Allowed characters are: [a-zA-Z0-9_.-]"

/-- How a job is created: from a JSON body, or from a form with the script
as a file. -/
inductive CreationMethod
  | fileContent
  | file
  deriving DecidableEq, Repr

/-- The payload of a creation. An absent list of endpoints is empty. -/
structure EdgeJobCreatePayload where
  method : CreationMethod
  name : String
  cronExpression : String
  recurring : Bool
  endpoints : List EndpointID
  content : String
  /-- `time.Now().Unix()`. -/
  now : Int := 0

/-- The error of `Validate`, if there is one. The form needs a name of two
characters; the body needs an endpoint and a script. -/
def EdgeJobCreatePayload.validate (payload : EdgeJobCreatePayload) : Option String :=
  match payload.method with
  | .fileContent =>
    if payload.name = "" then some "Invalid Edge job name"
    else if !matchesJobName payload.name then some invalidNameFormat
    else if payload.cronExpression = "" then some "Invalid cron expression"
    else if payload.endpoints = [] then some "Invalid endpoints payload"
    else if payload.content = "" then some "Invalid script file content"
    else none
  | .file =>
    if payload.name = "" then some "Invalid Edge job name"
    else if !(matchesJobName payload.name && decide (2 ≤ payload.name.length)) then
      some invalidNameFormat
    else if payload.cronExpression = "" then some "Invalid cron expression"
    else none

def convertEndpointsToMetaObject (endpoints : List EndpointID) :
    ExtTreeMap EndpointID EdgeJobEndpointMeta :=
  endpoints.foldl (fun endpointsMap endpointID => endpointsMap.insert endpointID {}) ∅

/-- The cron expression without its leading seconds field. -/
def normalizeCronExpression (cronExpression : String) : String :=
  let edgeCronExpression := splitSpaces cronExpression
  let edgeCronExpression :=
    if edgeCronExpression.length = 6 then edgeCronExpression.tail else edgeCronExpression
  " ".intercalate edgeCronExpression

/-- The loop of `addAndPersistEdgeJob` that drops the endpoints that are
not Edge endpoints. -/
def dropPlainEndpoints : List EndpointID → ExtTreeMap EndpointID EdgeJobEndpointMeta →
    Fallible (EdgeServer S) (ExtTreeMap EndpointID EdgeJobEndpointMeta)
  | [], endpoints => pure endpoints
  | id :: ids, endpoints => do
    let endpoint ← EdgeServer.endpoint id
    dropPlainEndpoints ids (if isEdge endpoint.type then endpoints else endpoints.erase id)

def addAndPersistEdgeJob (edgeJob : EdgeJob) (file : String) :
    Fallible (EdgeServer S) EdgeJob := do
  let cronExpression := normalizeCronExpression edgeJob.cronExpression
  let endpoints ← dropPlainEndpoints edgeJob.endpoints.keys edgeJob.endpoints
  .require (endpoints.isEmpty = false) "Endpoints are mandatory for an Edge job"
  let scriptPath ← storeEdgeJobFile (toString edgeJob.id) file
  let edgeJob := { edgeJob with
    cronExpression := cronExpression, endpoints := endpoints, scriptPath := scriptPath }
  endpoints.keys.forM fun endpointID =>
    .modify (mapTunnels (·.addEdgeJob endpointID edgeJob))
  createEdgeJob edgeJob
  return edgeJob

def edgeJobCreate (payload : EdgeJobCreatePayload) : Handler (EdgeServer S) Unit := do
  match payload.validate with
  | some err => .fail (.badRequest "Invalid request payload" err)
  | none =>
    let id ← getNextIdentifier
    let edgeJob : EdgeJob := {
      id := id, name := payload.name, cronExpression := payload.cronExpression,
      recurring := payload.recurring, created := payload.now,
      endpoints := convertEndpointsToMetaObject payload.endpoints, version := 1 }
    let _ ← (addAndPersistEdgeJob edgeJob payload.content).mapError
      (.internalServerError "Unable to schedule Edge job")

/-! ## Update -/

/-- The payload of an update; an absent field is `none`. -/
structure EdgeJobUpdatePayload where
  name : Option String := none
  cronExpression : Option String := none
  recurring : Option Bool := none
  endpoints : Option (List EndpointID) := none
  fileContent : Option String := none

/-- The error of `Validate`, if there is one: a new name has two characters
or more. -/
def EdgeJobUpdatePayload.validate (payload : EdgeJobUpdatePayload) : Option String :=
  match payload.name with
  | some name =>
    if matchesJobName name && decide (2 ≤ name.length) then none else some invalidNameFormat
  | none => none

/-- The loop of `updateEdgeSchedule` over the listed endpoints: an endpoint
of the job keeps its data, a new one gets empty data, and one that is not an
Edge endpoint is passed over. -/
def selectEndpoints (old : ExtTreeMap EndpointID EdgeJobEndpointMeta) :
    List EndpointID → ExtTreeMap EndpointID EdgeJobEndpointMeta →
    Fallible (EdgeServer S) (ExtTreeMap EndpointID EdgeJobEndpointMeta)
  | [], endpointsMap => pure endpointsMap
  | id :: ids, endpointsMap => do
    let endpoint ← EdgeServer.endpoint id
    selectEndpoints old ids
      (if isEdge endpoint.type then endpointsMap.insert id (old[id]?.getD {}) else endpointsMap)

/-- The endpoints the job has after an update. -/
def updateEndpoints (edgeJob : EdgeJob) : Option (List EndpointID) →
    Fallible (EdgeServer S) (ExtTreeMap EndpointID EdgeJobEndpointMeta)
  | some endpoints => selectEndpoints edgeJob.endpoints endpoints ∅
  | none => pure edgeJob.endpoints

/-- The script after an update that may carry a new one. -/
def updateScript (edgeJobID : EdgeJobID) : Option String → Fallible (EdgeServer S) Unit
  | some content => do
    let _ ← storeEdgeJobFile (toString edgeJobID) content
  | none => pure ()

def updateEdgeSchedule (edgeJob : EdgeJob) (payload : EdgeJobUpdatePayload) :
    Fallible (EdgeServer S) EdgeJob := do
  let endpoints ← updateEndpoints edgeJob payload.endpoints
  updateScript edgeJob.id payload.fileContent
  let updateVersion :=
    payload.cronExpression.isSome || payload.fileContent.isSome || payload.recurring.isSome
  let edgeJob := { edgeJob with
    name := payload.name.getD edgeJob.name
    endpoints := endpoints
    cronExpression := payload.cronExpression.getD edgeJob.cronExpression
    recurring := payload.recurring.getD edgeJob.recurring
    version := if updateVersion then edgeJob.version + 1 else edgeJob.version }
  endpoints.keys.forM fun endpointID =>
    .modify (mapTunnels (·.addEdgeJob endpointID edgeJob))
  return edgeJob

def edgeJobNotFound : String :=
  "Unable to find an Edge job with the specified identifier inside the database"

def edgeJobUpdate (edgeJobID : EdgeJobID) (payload : EdgeJobUpdatePayload) :
    Handler (EdgeServer S) Unit := do
  match payload.validate with
  | some err => .fail (.badRequest "Invalid request payload" err)
  | none =>
    let edgeJob ← (EdgeServer.edgeJob edgeJobID).mapError (.ofLookup edgeJobNotFound)
    let edgeJob ← (updateEdgeSchedule edgeJob payload).mapError
      (.internalServerError "Unable to update Edge job")
    (updateEdgeJob edgeJob).mapError
      (.internalServerError "Unable to persist Edge job changes inside the database")

/-! ## Delete -/

def edgeJobDelete (edgeJobID : EdgeJobID) : Handler (EdgeServer S) Unit := do
  let edgeJob ← (EdgeServer.edgeJob edgeJobID).mapError (.ofLookup edgeJobNotFound)
  let edgeJobFolder ← .get fun s => s.getEdgeJobFolder (toString edgeJobID)
  (removeDirectory edgeJobFolder).mapError (.internalServerError
    "Unable to remove the files associated to the Edge job on the filesystem")
  .modify (mapTunnels (·.removeEdgeJob edgeJob.id))
  (deleteEdgeJob edgeJob.id).mapError
    (.internalServerError "Unable to remove the Edge job from the database")

/-! ## Logs -/

/-- The job with the log data of one endpoint set. -/
def setMeta (edgeJob : EdgeJob) (endpointID : EndpointID) (collectLogs : Bool)
    (logsStatus : EdgeJobLogsStatus) : EdgeJob :=
  { edgeJob with endpoints := edgeJob.endpoints.insert endpointID ⟨logsStatus, collectLogs⟩ }

def edgeJobTasksCollect (edgeJobID : EdgeJobID) (taskID : EndpointID) :
    Handler (EdgeServer S) Unit := do
  let edgeJob ← (EdgeServer.edgeJob edgeJobID).mapError (.ofLookup edgeJobNotFound)
  let edgeJob := setMeta edgeJob taskID true .pending
  addEdgeJob taskID edgeJob
  (updateEdgeJob edgeJob).mapError
    (.internalServerError "Unable to persist Edge job changes in the database")

def edgeJobTasksClear (edgeJobID : EdgeJobID) (taskID : EndpointID) :
    Handler (EdgeServer S) Unit := do
  let edgeJob ← (EdgeServer.edgeJob edgeJobID).mapError (.ofLookup edgeJobNotFound)
  let edgeJob := setMeta edgeJob taskID false .idle
  (clearEdgeJobTaskLogs (toString edgeJobID) (toString taskID)).mapError
    (.internalServerError "Unable to clear log file from disk")
  addEdgeJob taskID edgeJob
  (updateEdgeJob edgeJob).mapError
    (.internalServerError "Unable to persist Edge job changes in the database")

/-- `AuthorizedEdgeEndpointOperation`: the error, if the agent that sent
the identifier is not the endpoint's. -/
def authorizedEdgeEndpointOperation (edgeIdentifier : String) (endpoint : Endpoint) :
    Option String :=
  if !isEdge endpoint.type then some "Invalid endpoint type"
  else if edgeIdentifier = "" then some "missing Edge identifier"
  else if endpoint.edgeID ≠ "" ∧ endpoint.edgeID ≠ edgeIdentifier then
    some "invalid Edge identifier"
  else none

def endpointEdgeJobsLogs (edgeIdentifier : String) (endpointID : EndpointID)
    (edgeJobID : EdgeJobID) (fileContent : String) : Handler (EdgeServer S) Unit := do
  let endpoint ← (EdgeServer.endpoint endpointID).mapError
    (.ofLookup "Unable to find an endpoint with the specified identifier inside the database")
  match authorizedEdgeEndpointOperation edgeIdentifier endpoint with
  | some err => .fail (.forbidden "Permission denied to access endpoint" err)
  | none =>
    let edgeJob ← (EdgeServer.edgeJob edgeJobID).mapError
      (.ofLookup "Unable to find an edge job with the specified identifier inside the database")
    (storeEdgeJobTaskLogFile (toString edgeJobID) (toString endpointID) fileContent).mapError
      (.internalServerError "Unable to save task log to the filesystem")
    let edgeJob := setMeta edgeJob endpoint.id false .collected
    let result ← (updateEdgeJob edgeJob).attempt
    -- the tunnel is updated even when the database was not
    addEdgeJob endpoint.id edgeJob
    match result with
    | .error err =>
      .fail (.internalServerError "Unable to persist edge job changes to the database" err)
    | .ok _ => pure ()

/-! ## Restart -/

/-- The tunnels with the jobs of the database registered: what `LoadEdgeJobs`
does when the server starts. -/
def loadEdgeJobs (dataStore : DataStore) (tunnels : Service S) : Service S :=
  dataStore.edgeJob.all.foldl (fun tunnels edgeJob =>
    edgeJob.endpoints.keys.foldl (fun tunnels endpointID => tunnels.addEdgeJob endpointID edgeJob)
      tunnels) tunnels

/-! ## The machine -/

/-- A request, or a change of a tunnel, with everything it is given. -/
inductive JobOp
  | create (payload : EdgeJobCreatePayload)
  | update (edgeJobID : EdgeJobID) (payload : EdgeJobUpdatePayload)
  | delete (edgeJobID : EdgeJobID)
  | collect (edgeJobID : EdgeJobID) (taskID : EndpointID)
  | clear (edgeJobID : EdgeJobID) (taskID : EndpointID)
  | logs (edgeIdentifier : String) (endpointID : EndpointID) (edgeJobID : EdgeJobID)
      (fileContent : String)
  | required (endpointID : EndpointID) (call : RequiredCall)
  | active (endpointID : EndpointID) (now : Time)
  | idle (endpointID : EndpointID) (now : Time)
  | checkTunnels (clock : Service.Clock)

/-- The faults of the calls an operation makes. -/
abbrev Faults := Callee → List (Option String)

/-- The server after a handler, which answers with success or an error. -/
def EdgeServer.after (s : EdgeServer S) (faults : Faults) (handler : Handler (EdgeServer S) Unit) :
    EdgeServer S :=
  (handler.run ⟨s, faults⟩).2.store

/-- The server under the Edge job requests and the changes of the tunnels,
each executed atomically. -/
def jobMachine (S : Type) [ChiselServer S] : Machine (EdgeServer S) (JobOp × Faults) where
  step s
    | (.create payload, faults) => some (s.after faults (edgeJobCreate payload))
    | (.update id payload, faults) => some (s.after faults (edgeJobUpdate id payload))
    | (.delete id, faults) => some (s.after faults (edgeJobDelete id))
    | (.collect id task, faults) => some (s.after faults (edgeJobTasksCollect id task))
    | (.clear id task, faults) => some (s.after faults (edgeJobTasksClear id task))
    | (.logs edgeID e id content, faults) =>
      some (s.after faults (endpointEdgeJobsLogs edgeID e id content))
    | (.required e c, _) =>
      (s.reverseTunnelService.setTunnelStatusToRequired e c).map fun r =>
        { s with reverseTunnelService := r.2 }
    | (.active e now, _) => some (s.mapTunnels (·.setTunnelStatusToActive e now))
    | (.idle e now, _) => some (s.mapTunnels (·.setTunnelStatusToIdle e now))
    | (.checkTunnels clock, _) => some (s.mapTunnels (·.checkTunnels clock))

end Tunnel

end Portainer
