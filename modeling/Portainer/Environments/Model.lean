import Portainer.EdgeAgent.Model
import Portainer.Inventory.Model.Endpoints
/-!
# Environment records — model

Several parties read the record of an environment, work on it and write it
back whole: the update request, the snapshots and the check-in of an Edge
agent. A turn takes one of them over its next access to the record, with
whatever its other calls answer, so the turns fall between each other in
any order.

The snapshots of a single environment and of the background job read the
record again after the snapshot was taken. The one of the tunnel service
and the check-in do not. The turns of an update are the handler of the
inventory when no other party comes between them: `endpointUpdate_eq`.
-/

namespace Portainer

open HandlerError Server
open Inventory (EndpointUpdatePayload Services)

namespace Environments

/-! ## Snapshots -/

/-- `SupportDirectSnapshot`. -/
def supportDirectSnapshot (endpoint : Endpoint) : Bool :=
  match endpoint.type with
  | .edgeAgentOnDockerEnvironment | .edgeAgentOnKubernetesEnvironment | .azureEnvironment => false
  | _ => true

/-- `SnapshotEndpoint`, with the snapshot that is taken, if there is one. -/
def snapshotEndpoint (snapshot : Option String) (endpoint : Endpoint) : Fallible Server Endpoint :=
  match endpoint.type with
  | .azureEnvironment => pure endpoint
  | .kubernetesLocalEnvironment | .agentOnKubernetesEnvironment | .edgeAgentOnKubernetesEnvironment =>
    .query .snapshotService fun _ =>
      { endpoint with kubernetesSnapshots := (snapshot.map ([·])).getD endpoint.kubernetesSnapshots }
  | _ =>
    .query .snapshotService fun _ =>
      { endpoint with dockerSnapshots := (snapshot.map ([·])).getD endpoint.dockerSnapshots }

/-- The record with the status and the snapshots. -/
def withSnapshots (latestEndpointReference endpoint : Endpoint) (failed : Bool) : Endpoint :=
  { latestEndpointReference with
    status := if failed then .down else .up
    dockerSnapshots := endpoint.dockerSnapshots
    kubernetesSnapshots := endpoint.kubernetesSnapshots }

/-- A snapshot whose failure is noted: the endpoint, and whether it
failed. -/
def attemptSnapshot (snapshot : Option String) (endpoint : Endpoint) :
    Handler Server (Endpoint × Bool) := do
  match ← (snapshotEndpoint snapshot endpoint).attempt with
  | .ok endpoint => pure (endpoint, false)
  | .error _ => pure (endpoint, true)

/-! ## The update -/

/-- What an update does between its read of the record and its write. -/
def prepareUpdate (services : Services) (payload : EndpointUpdatePayload) (endpoint : Endpoint) :
    Handler Server Endpoint := do
  let tagIDs ← Inventory.replaceTags (Inventory.withoutEndpoint endpoint.id)
    (Inventory.withEndpoint endpoint.id) endpoint.tagIDs payload.tagIDs
  let updated := { payload.withPoliciesAndStatus (payload.withFields endpoint) with tagIDs := tagIDs }
  let updated ← Inventory.updateAzureCredentials payload updated
  let updated ← Inventory.updateTLS services payload updated
  Inventory.registerEndpointProxy payload updated
  Inventory.cleanEndpoint (payload.updateAuthorizations endpoint) updated
  return updated

/-- What it does after the write. -/
def finishUpdate (payload : EndpointUpdatePayload) (endpoint updated : Endpoint) : Handler Server Unit :=
  if Tunnel.isEdge updated.type &&
      (payload.groupIDChanged endpoint || Inventory.tagsChanged endpoint.tagIDs payload.tagIDs) then
    Inventory.refreshRelation updated
  else pure ()

/-! ## The parties -/

/-- A party that writes records of environments. -/
inductive Party
  | endpointUpdate (id : EndpointID) (payload : EndpointUpdatePayload)
  | snapshotEndpoints
  | endpointSnapshot (id : EndpointID)
  | snapshotEnvironment (id : EndpointID) (tunnelPort : ℕ)
  | checkIn (r : EdgeAgent.Poll) (id : EndpointID)
  | endpointDelete (id : EndpointID)

/-- Where a party stands. -/
inductive Stage
  /-- Before its first access. -/
  | ready
  /-- With the record it has read. -/
  | holding (endpoint : Endpoint)
  /-- In the loop of the background job. -/
  | looping (endpoints : List Endpoint)
  /-- With a snapshot, about to read the record again. -/
  | snapshotted (endpoint : Endpoint) (failed : Bool) (endpoints : List Endpoint)
  /-- About to write a record, made of the one it has read last. -/
  | writing (read written : Endpoint) (endpoints : List Endpoint)
  /-- An update that has written its record. -/
  | written (read written : Endpoint)
  /-- About to delete a record. -/
  | deleting
  | returned (err : Option HandlerError)

/-- The log message of the background job. -/
def backgroundError : String → HandlerError :=
  internalServerError "background schedule error (endpoint snapshot)"

def findEndpoint : String → HandlerError :=
  ofLookup "Unable to find an endpoint with the specified identifier inside the database"

def persistEndpoint : String → HandlerError :=
  internalServerError "Unable to persist endpoint changes inside the database"

/-- An error of the tunnel service, which is logged as it is. -/
def logged (err : String) : HandlerError := ⟨0, "", err⟩

/-- What becomes of an error of the write. -/
def writeError : Party → String → HandlerError
  | .snapshotEnvironment _ _ => logged
  | .checkIn _ _ => internalServerError "Unable to Unable to persist endpoint changes inside the database"
  | _ => persistEndpoint

/-- The agent of a check-in is let in. -/
def admitAgent (r : EdgeAgent.Poll) (endpoint : Endpoint) : Except HandlerError Unit :=
  match Tunnel.authorizedEdgeEndpointOperation r.edgeIdentifier endpoint with
  | some err => .error (forbidden "Permission denied to access endpoint" err)
  | none => .ok ()

/-- The record that a check-in writes. -/
def checkedIn (r : EdgeAgent.Poll) (endpoint : Endpoint) : Except HandlerError Endpoint := do
  admitAgent r endpoint
  let endpoint ← EdgeAgent.identified r endpoint
  return { endpoint with lastCheckInDate := r.now / Tunnel.second }

/-- The record that the tunnel service writes after its snapshot, which is
taken through the tunnel. -/
def snapshotThroughTunnel (snapshot : Option String) (tunnelPort : ℕ) (endpoint : Endpoint) :
    Fallible Server Endpoint := do
  let snapshotted ← snapshotEndpoint snapshot
    { endpoint with url := s!"tcp://127.0.0.1:{tunnelPort}" }
  return { snapshotted with url := endpoint.url }

/-- The record is read again. Where it is gone, the background job goes on
with the next one, and the request fails. -/
def readAgain (party : Party) (endpoint : Endpoint) (failed : Bool) (endpoints : List Endpoint) :
    Handler Server Stage := do
  match party, ← (Server.endpoint.getObject endpoint.id).attempt with
  | _, .ok latest => return .writing latest (withSnapshots latest endpoint failed) endpoints
  | .snapshotEndpoints, .error _ => return .looping endpoints
  | _, .error err =>
    .fail ⟨404, "Unable to find an endpoint with the specified identifier inside the database", err⟩

/-- The record is written. The background job goes on if that fails. -/
def writeBack (party : Party) (read written : Endpoint) (endpoints : List Endpoint) :
    Handler Server Stage :=
  match party with
  | .snapshotEndpoints => do
    let _ ← (Server.endpoint.updateObject written).attempt
    return .looping endpoints
  | .endpointUpdate _ _ => do
    (Server.endpoint.updateObject written).mapError persistEndpoint
    return .written read written
  | party => do
    (Server.endpoint.updateObject written).mapError (writeError party)
    return .returned none

/-- The first access of a party. -/
def start : Party → Handler Server Stage
  | .snapshotEndpoints => do return .looping (← Server.endpoint.getAll.mapError backgroundError)
  | .endpointSnapshot id => do
    let endpoint ← (Server.endpoint.getObject id).mapError findEndpoint
    .require (supportDirectSnapshot endpoint = true)
      (badRequest "Snapshots not supported for this endpoint" "")
    return .holding endpoint
  | .checkIn r id => do
    let endpoint ← (Server.endpoint.getObject id).mapError findEndpoint
    return .writing endpoint (← Action.ofExcept (checkedIn r endpoint)) []
  | .endpointDelete id => do
    let endpoint ← (Server.endpoint.getObject id).mapError findEndpoint
    Inventory.removeTLSFiles endpoint
    return .deleting
  | .endpointUpdate id _ => do return .holding (← (Server.endpoint.getObject id).mapError findEndpoint)
  | .snapshotEnvironment id _ => do return .holding (← (Server.endpoint.getObject id).mapError logged)

/-- What a party does with the record it has read. -/
def work (services : Services) (snapshot : Option String) (endpoint : Endpoint) :
    Party → Handler Server Stage
  | .endpointUpdate _ payload => do
    return .writing endpoint (← prepareUpdate services payload endpoint) []
  | .snapshotEnvironment _ tunnelPort => do
    return .writing endpoint
      (← (snapshotThroughTunnel snapshot tunnelPort endpoint).mapError logged) []
  | _ => do
    let (endpoint, failed) ← attemptSnapshot snapshot endpoint
    return .snapshotted endpoint failed []

/-- The next turn of the loop of the background job. -/
def nextSnapshot (snapshot : Option String) : List Endpoint → Handler Server Stage
  | [] => return .returned none
  | endpoint :: endpoints =>
    if supportDirectSnapshot endpoint then do
      let (endpoint, failed) ← attemptSnapshot snapshot endpoint
      return .snapshotted endpoint failed endpoints
    else return .looping endpoints

/-- A party over its next access. What a deletion does after it has removed
the record touches no record of an environment. -/
def advance (services : Services) (snapshot : Option String) (party : Party) :
    Stage → Handler Server Stage
  | .ready => start party
  | .holding endpoint => work services snapshot endpoint party
  | .looping endpoints => nextSnapshot snapshot endpoints
  | .snapshotted endpoint failed endpoints => readAgain party endpoint failed endpoints
  | .writing read written endpoints => writeBack party read written endpoints
  | .written read written =>
    match party with
    | .endpointUpdate _ payload => do
      finishUpdate payload read written
      return .returned none
    | _ => return .returned none
  | .deleting =>
    match party with
    | .endpointDelete id => do
      (Server.endpoint.deleteObject id).mapError
        (internalServerError "Unable to remove endpoint from the database")
      return .returned none
    | _ => return .returned none
  | .returned err => return .returned err

/-! ## Interleavings -/

/-- What has happened to the records: the updates that were written, with
the records they have written, and the records that were deleted. -/
inductive Event
  | updated (payload : EndpointUpdatePayload) (written : Endpoint)
  | removed (id : EndpointID)

/-- What happens as a party goes on from a stage. -/
def Event.of (party : Party) (stage : Stage) : List Event :=
  match party, stage with
  | .endpointUpdate _ payload, .writing _ written _ => [.updated payload written]
  | .endpointDelete id, .deleting => [.removed id]
  | _, _ => []

/-- The parties at work, and what has happened, the last event first. -/
structure Pool where
  server : Server
  threads : List (Party × Stage)
  log : List Event := []

namespace Pool

/-- The parties before any of them has started. -/
def start (server : Server) (parties : List Party) : Pool :=
  { server, threads := parties.map (·, .ready) }

/-- The pool with one party at a new stage. -/
def goTo (p : Pool) (i : ℕ) (party : Party) (stage : Stage) (server : Server) (events : List Event) :
    Pool where
  server := server
  threads := p.threads.set i (party, stage)
  log := events ++ p.log

end Pool

/-- A turn: the party it takes over its next access, the snapshot that is
taken if one is, and what the calls answer. -/
structure Turn where
  thread : ℕ
  snapshot : Option String := none
  faults : Callee → List (Option String) := fun _ => []

/-- One turn. There is none for a party that has returned. -/
def turn (services : Services) (p : Pool) (t : Turn) : Option Pool :=
  match p.threads[t.thread]? with
  | none => none
  | some (_, .returned _) => none
  | some (party, stage) =>
    match (advance services t.snapshot party stage).run ⟨p.server, t.faults⟩ with
    | (.ok stage', w) => some (p.goTo t.thread party stage' w.store (Event.of party stage))
    | (.error e, w) => some (p.goTo t.thread party (.returned (some e)) w.store [])

/-- The interleavings. -/
def interleavings (services : Services) : Machine Pool Turn := ⟨turn services⟩

end Environments

end Portainer
