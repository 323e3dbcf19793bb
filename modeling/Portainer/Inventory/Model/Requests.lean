import Portainer.Inventory.Model.EdgeGroups
import Portainer.Inventory.Model.EdgeStacks
import Portainer.Inventory.Model.EndpointGroups
import Portainer.Inventory.Model.Tags
/-!
# Requests — the handlers as one machine

A request to any of the handlers that write endpoints, groups, tags, Edge
groups or Edge stacks. An attempt is a request with the outcomes of the
calls it makes. The machine takes every attempt, and keeps what a handler
wrote before it failed.
-/

namespace Portainer

namespace Inventory

/-- A request to one of the handlers. -/
inductive Request
  | endpointCreate (payload : EndpointCreatePayload)
  | endpointUpdate (id : EndpointID) (payload : EndpointUpdatePayload)
  | endpointDelete (id : EndpointID)
  | endpointGroupCreate (payload : EndpointGroupCreatePayload)
  | endpointGroupUpdate (id : EndpointGroupID) (payload : EndpointGroupUpdatePayload)
  | endpointGroupDelete (id : EndpointGroupID)
  | endpointGroupAddEndpoint (id : EndpointGroupID) (endpointID : EndpointID)
  | endpointGroupDeleteEndpoint (id : EndpointGroupID) (endpointID : EndpointID)
  | tagCreate (name : String)
  | tagDelete (id : TagID)
  | edgeGroupCreate (payload : EdgeGroupCreatePayload)
  | edgeGroupUpdate (id : EdgeGroupID) (payload : EdgeGroupUpdatePayload)
  | edgeGroupDelete (id : EdgeGroupID)
  | edgeStackCreate (payload : SwarmStackPayload) (now : Int)
  | edgeStackUpdate (id : EdgeStackID) (payload : EdgeStackUpdatePayload)
  | edgeStackDelete (id : EdgeStackID)
  | edgeStackStatusUpdate (id : EdgeStackID) (edgeIdentifier : String)
      (payload : UpdateStatusPayload)

/-- A handler, for what it does to the store. -/
def discard {α : Type} (x : Handler Server α) : Handler Server Unit := do
  let _ ← x

/-- The handler of a request. -/
def handle (services : Services) : Request → Handler Server Unit
  | .endpointCreate payload => discard (endpointCreate services payload)
  | .endpointUpdate id payload => discard (endpointUpdate services id payload)
  | .endpointDelete id => endpointDelete id
  | .endpointGroupCreate payload => discard (endpointGroupCreate payload)
  | .endpointGroupUpdate id payload => discard (endpointGroupUpdate id payload)
  | .endpointGroupDelete id => endpointGroupDelete id
  | .endpointGroupAddEndpoint id endpointID => endpointGroupAddEndpoint id endpointID
  | .endpointGroupDeleteEndpoint id endpointID => endpointGroupDeleteEndpoint id endpointID
  | .tagCreate name => discard (tagCreate name)
  | .tagDelete id => tagDelete id
  | .edgeGroupCreate payload => discard (edgeGroupCreate payload)
  | .edgeGroupUpdate id payload => discard (edgeGroupUpdate id payload)
  | .edgeGroupDelete id => edgeGroupDelete id
  | .edgeStackCreate payload now => discard (edgeStackCreate services payload now)
  | .edgeStackUpdate id payload => discard (edgeStackUpdate services id payload)
  | .edgeStackDelete id => edgeStackDelete id
  | .edgeStackStatusUpdate id edgeIdentifier payload =>
    discard (edgeStackStatusUpdate id edgeIdentifier payload)

/-- A request with the outcomes of its calls, for each callee. -/
structure Attempt where
  request : Request
  faults : Callee → List (Option String) := fun _ => []

/-- The system an attempt starts in. -/
def Attempt.sys (a : Attempt) (s : Server) : Sys Callee Server := ⟨s, a.faults⟩

/-- **The server under requests**, which succeed or fail. -/
def machine (services : Services) : Machine Server Attempt where
  step s a := some ((handle services a.request).run (a.sys s)).2.store

/-- The server under requests that succeed. -/
def successes (services : Services) : Machine Server Attempt where
  step s a :=
    match (handle services a.request).run (a.sys s) with
    | (.ok _, w) => some w.store
    | (.error _, _) => none

end Inventory

end Portainer
