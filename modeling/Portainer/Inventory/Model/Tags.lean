import Portainer.Inventory.Model.Services
/-!
# Tags — create, delete

The handlers of `handler/tags` that write. A deletion takes the tag off
the endpoints and the groups its record names, then recomputes relations,
and only then takes the tag off the Edge groups.
-/

namespace Portainer

open Tunnel (isEdge)

namespace Inventory

open HandlerError (internalServerError ofLookup badRequest)

/-- `tagCreate`, with the name of the payload. -/
def tagCreate (name : String) : Handler Server Tag := do
  .require (name ≠ "") (badRequest "Invalid request payload" "Invalid tag name")
  let tags ← Server.tag.getAll.mapError
    (internalServerError "Unable to retrieve tags from the database")
  .require (tags.all (·.name ≠ name) = true)
    ⟨409, "This name is already associated to a tag", "A tag already exists with this name"⟩
  let id ← (Server.tag.createObject fun id => { id := id, name := name }).mapError
    (internalServerError "Unable to persist the tag inside the database")
  return { id := id, name := name }

/-! ## Delete -/

/-- One turn of the loop over the endpoints of the tag. -/
def stripEndpoint (tagID : TagID) (endpointID : EndpointID) : Handler Server Unit := do
  let endpoint ← (Server.endpoint.getObject endpointID).mapError
    (internalServerError "Unable to retrieve endpoint from the database")
  if tagID ∈ endpoint.tagIDs then
    (Server.endpoint.updateObject
        { endpoint with tagIDs := removeFirst endpoint.tagIDs tagID }).mapError
      (internalServerError "Unable to update endpoint")

/-- One turn of the loop over the groups of the tag. -/
def stripEndpointGroup (tagID : TagID) (endpointGroupID : EndpointGroupID) :
    Handler Server Unit := do
  let endpointGroup ← (Server.endpointGroup.getObject endpointGroupID).mapError
    (internalServerError "Unable to retrieve endpoint group from the database")
  if tagID ∈ endpointGroup.tagIDs then
    (Server.endpointGroup.updateObject
        { endpointGroup with tagIDs := removeFirst endpointGroup.tagIDs tagID }).mapError
      (internalServerError "Unable to update endpoint group")

/-- `updateEndpointRelations` of the tag handler, with the Edge groups and
the Edge stacks it is given. -/
def refreshTagged (edgeGroups : List EdgeGroup) (edgeStacks : List EdgeStack)
    (endpoint : Endpoint) : Fallible Server Unit := do
  let endpointRelation ← Server.endpointRelation.getObject endpoint.id
  let endpointGroup ← Server.endpointGroup.getObject endpoint.groupID
  Server.endpointRelation.updateObject
    (recomputed endpointRelation endpoint endpointGroup edgeGroups edgeStacks)

/-- The relation of the endpoint is brought up to date. -/
def isTagged (tag : Tag) (endpoint : Endpoint) : Bool :=
  (endpoint.id ∈ tag.endpoints || endpoint.groupID ∈ tag.endpointGroups) && isEdge endpoint.type

/-- One turn of the loop over the endpoints. -/
def refreshIfTagged (tag : Tag) (edgeGroups : List EdgeGroup) (edgeStacks : List EdgeStack)
    (endpoint : Endpoint) : Handler Server Unit :=
  if isTagged tag endpoint then
    (refreshTagged edgeGroups edgeStacks endpoint).mapError
      (internalServerError "Unable to update endpoint relations in the database")
  else pure ()

/-- One turn of the loop over the Edge groups. -/
def stripEdgeGroup (tagID : TagID) (edgeGroup : EdgeGroup) : Handler Server Unit :=
  if tagID ∈ edgeGroup.tagIDs then
    (Server.edgeGroup.updateObject
        { edgeGroup with tagIDs := removeFirst edgeGroup.tagIDs tagID }).mapError
      (internalServerError "Unable to update endpoint group")
  else pure ()

def tagDelete (tagID : TagID) : Handler Server Unit := do
  let tag ← (Server.tag.getObject tagID).mapError
    (ofLookup "Unable to find a tag with the specified identifier inside the database")
  (elements tag.endpoints).forM (stripEndpoint tagID)
  (elements tag.endpointGroups).forM (stripEndpointGroup tagID)
  let endpoints ← Server.endpoint.getAll.mapError
    (internalServerError "Unable to retrieve endpoints from the database")
  let edgeGroups ← Server.edgeGroup.getAll.mapError
    (internalServerError "Unable to retrieve edge groups from the database")
  let edgeStacks ← Server.edgeStack.getAll.mapError
    (internalServerError "Unable to retrieve edge stacks from the database")
  endpoints.forM (refreshIfTagged tag edgeGroups edgeStacks)
  edgeGroups.forM (stripEdgeGroup tagID)
  (Server.tag.deleteObject tagID).mapError
    (internalServerError "Unable to remove the tag from the database")

end Inventory

end Portainer
