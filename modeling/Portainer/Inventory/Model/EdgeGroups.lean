import Mathlib.Data.Finset.Union
import Portainer.Inventory.Model.Services
/-!
# Edge groups — create, update, delete, and the listing

The handlers of `handler/edgegroups`. The listing computes the endpoints of
a dynamic group from the records of its tags, while the relations are
computed from the tags that endpoints and groups carry.
-/

namespace Portainer

open Tunnel (isEdge)

namespace Inventory

open HandlerError (internalServerError ofLookup badRequest forbidden)

/-! ## Create -/

structure EdgeGroupCreatePayload where
  name : String
  dynamic : Bool := false
  tagIDs : List TagID := []
  endpoints : List EndpointID := []
  partialMatch : Bool := false

/-- The error of `Validate`, which creation and update share. -/
def validateEdgeGroup (name : String) (dynamic : Bool) (tagIDs : List TagID)
    (endpoints : List EndpointID) : Option String :=
  if name = "" then some "Invalid Edge group name"
  else if dynamic && tagIDs.isEmpty then some "TagIDs is mandatory for a dynamic Edge group"
  else if !dynamic && endpoints.isEmpty then some "Endpoints is mandatory for a static Edge group"
  else none

def retrieveEdgeGroups : String → HandlerError :=
  internalServerError "Unable to retrieve Edge groups from the database"

def nameNotUnique : HandlerError :=
  badRequest "Edge group name must be unique" "Edge group name must be unique"

/-- The loop over the endpoints of a static group: the Edge endpoints among
them, in order and as often as they are listed. -/
def edgeEndpoints : List EndpointID → Handler Server (List EndpointID)
  | [] => pure []
  | endpointID :: rest => do
    let endpoint ← (Server.endpoint.getObject endpointID).mapError
      (internalServerError "Unable to retrieve endpoint from the database")
    let endpointIDs ← edgeEndpoints rest
    return if isEdge endpoint.type then endpoint.id :: endpointIDs else endpointIDs

/-- The endpoints a group is persisted with: those listed, or what it has
already where it is dynamic. -/
def groupEndpointIDs (dynamic : Bool) (current listed : List EndpointID) :
    Handler Server (List EndpointID) :=
  if dynamic then pure current else edgeEndpoints listed

def edgeGroupCreate (payload : EdgeGroupCreatePayload) : Handler Server EdgeGroup := do
  match validateEdgeGroup payload.name payload.dynamic payload.tagIDs payload.endpoints with
  | some err => .fail (badRequest "Invalid request payload" err)
  | none =>
    let edgeGroups ← Server.edgeGroup.getAll.mapError retrieveEdgeGroups
    .require (edgeGroups.all (·.name ≠ payload.name) = true) nameNotUnique
    let endpointIDs ← groupEndpointIDs payload.dynamic [] payload.endpoints
    let edgeGroup (id : EdgeGroupID) : EdgeGroup :=
      { id := id
        name := payload.name
        dynamic := payload.dynamic
        tagIDs := if payload.dynamic then payload.tagIDs else []
        endpoints := endpointIDs
        partialMatch := payload.partialMatch }
    let id ← (Server.edgeGroup.createObject edgeGroup).mapError
      (internalServerError "Unable to persist the Edge group inside the database")
    return edgeGroup id

/-! ## Update -/

structure EdgeGroupUpdatePayload where
  name : String
  dynamic : Bool := false
  tagIDs : List TagID := []
  endpoints : List EndpointID := []
  partialMatch : Option Bool := none

/-- `updateEndpoint`: everything is read anew. -/
def updateEndpoint (endpointID : EndpointID) : Fallible Server Unit := do
  let relation ← Server.endpointRelation.getObject endpointID
  let endpoint ← Server.endpoint.getObject endpointID
  let endpointGroup ← Server.endpointGroup.getObject endpoint.groupID
  let edgeGroups ← Server.edgeGroup.getAll
  let edgeStacks ← Server.edgeStack.getAll
  Server.endpointRelation.updateObject
    (recomputed relation endpoint endpointGroup edgeGroups edgeStacks)

def findEdgeGroup : String → HandlerError :=
  ofLookup "Unable to find an Edge group with the specified identifier inside the database"

def edgeGroupUpdate (edgeGroupID : EdgeGroupID) (payload : EdgeGroupUpdatePayload) :
    Handler Server EdgeGroup := do
  match validateEdgeGroup payload.name payload.dynamic payload.tagIDs payload.endpoints with
  | some err => .fail (badRequest "Invalid request payload" err)
  | none =>
    let edgeGroup ← (Server.edgeGroup.getObject edgeGroupID).mapError findEdgeGroup
    let edgeGroups ← Server.edgeGroup.getAll.mapError retrieveEdgeGroups
    .require (edgeGroups.all (fun g => g.name ≠ payload.name || g.id = edgeGroupID) = true)
      nameNotUnique
    let endpoints ← Server.endpoint.getAll.mapError
      (internalServerError "Unable to retrieve endpoints from database")
    let endpointGroups ← Server.endpointGroup.getAll.mapError
      (internalServerError "Unable to retrieve endpoint groups from database")
    let oldRelatedEndpoints := edgeGroupRelatedEndpoints edgeGroup endpoints endpointGroups
    let endpointIDs ← groupEndpointIDs payload.dynamic edgeGroup.endpoints payload.endpoints
    let edgeGroup : EdgeGroup :=
      { id := edgeGroup.id
        name := payload.name
        dynamic := payload.dynamic
        tagIDs := if payload.dynamic then payload.tagIDs else edgeGroup.tagIDs
        endpoints := endpointIDs
        partialMatch := payload.partialMatch.getD edgeGroup.partialMatch }
    (Server.edgeGroup.updateObject edgeGroup).mapError
      (internalServerError "Unable to persist Edge group changes inside the database")
    let newRelatedEndpoints := edgeGroupRelatedEndpoints edgeGroup endpoints endpointGroups
    (newRelatedEndpoints ++ oldRelatedEndpoints).forM fun endpointID =>
      (updateEndpoint endpointID).mapError
        (internalServerError "Unable to persist Endpoint relation changes inside the database")
    return edgeGroup

/-! ## Delete -/

def edgeGroupDelete (edgeGroupID : EdgeGroupID) : Handler Server Unit := do
  let _ ← (Server.edgeGroup.getObject edgeGroupID).mapError findEdgeGroup
  let edgeStacks ← Server.edgeStack.getAll.mapError
    (internalServerError "Unable to retrieve Edge stacks from the database")
  .require (edgeStacks.all (edgeGroupID ∉ ·.edgeGroups) = true)
    (forbidden "Edge group is used by an Edge stack" "Edge group is used by an Edge stack")
  (Server.edgeGroup.deleteObject edgeGroupID).mapError
    (internalServerError "Unable to remove the Edge group from the database")

/-! ## The listing -/

/-- The tags of a list, in order. -/
def tagsOf : List TagID → Fallible Server (List Tag)
  | [] => pure []
  | tagID :: rest => do
    let tag ← Server.tag.getObject tagID
    let tags ← tagsOf rest
    return tag :: tags

/-- `mapEndpointGroupToEndpoints`, at one group. -/
def groupEndpoints (endpoints : List Endpoint) (groupID : EndpointGroupID) : Finset EndpointID :=
  ((endpoints.filter (·.groupID = groupID)).map Endpoint.id).toFinset

/-- `mapTagsToEndpoints`, for one tag. -/
def tagEndpoints (endpoints : List Endpoint) (tag : Tag) : Finset EndpointID :=
  tag.endpoints ∪ tag.endpointGroups.biUnion (groupEndpoints endpoints)

/-- `setsIntersection`. -/
def setsIntersection : List (Finset EndpointID) → Finset EndpointID
  | [] => ∅
  | set :: sets => (set :: sets).foldl (fun intersectionSet set => intersectionSet.filter (· ∈ set)) set

/-- `setsUnion`. -/
def setsUnion (sets : List (Finset EndpointID)) : Finset EndpointID :=
  sets.foldl (fun unionSet set => unionSet ∪ set) ∅

/-- `getEndpointsByTags`. -/
def getEndpointsByTags (tagIDs : List TagID) (partialMatch : Bool) :
    Fallible Server (List EndpointID) :=
  if tagIDs.isEmpty then pure []
  else do
    let endpoints ← Server.endpoint.getAll
    let tags ← tagsOf tagIDs
    let setsOfEndpoints := tags.map (tagEndpoints endpoints)
    let endpointSet :=
      if partialMatch then setsUnion setsOfEndpoints else setsIntersection setsOfEndpoints
    return (endpoints.filter fun endpoint => endpoint.id ∈ endpointSet && isEdge endpoint.type).map
      Endpoint.id

/-- The endpoints of an Edge group, as it is listed. -/
def listedEndpoints (edgeGroup : EdgeGroup) : Handler Server (List EndpointID) :=
  if edgeGroup.dynamic then
    (getEndpointsByTags edgeGroup.tagIDs edgeGroup.partialMatch).mapError
      (internalServerError "Unable to retrieve endpoints and endpoint groups for Edge group")
  else pure edgeGroup.endpoints

structure DecoratedEdgeGroup where
  edgeGroup : EdgeGroup
  hasEdgeStack : Bool
  deriving DecidableEq

/-- The loop of `edgeGroupList`. -/
def decorateEdgeGroups (usedEdgeGroups : Finset EdgeGroupID) :
    List EdgeGroup → Handler Server (List DecoratedEdgeGroup)
  | [] => pure []
  | edgeGroup :: rest => do
    let endpoints ← listedEndpoints edgeGroup
    let decorated ← decorateEdgeGroups usedEdgeGroups rest
    return ⟨{ edgeGroup with endpoints := endpoints }, edgeGroup.id ∈ usedEdgeGroups⟩ :: decorated

def edgeGroupList : Handler Server (List DecoratedEdgeGroup) := do
  let edgeGroups ← Server.edgeGroup.getAll.mapError retrieveEdgeGroups
  let edgeStacks ← Server.edgeStack.getAll.mapError
    (internalServerError "Unable to retrieve Edge stacks from the database")
  decorateEdgeGroups (edgeStacks.flatMap EdgeStack.edgeGroups).toFinset edgeGroups

end Inventory

end Portainer
