import Portainer.Inventory.Model.Endpoints
/-!
# Endpoint groups — create, update, delete, add and remove an endpoint

The handlers of `handler/endpointgroups` that write. Group 1 is the one
that endpoints without another group are in: it cannot be deleted, and the
endpoints of a deleted group go there.
-/

namespace Portainer

open Kubernetes (isKubernetesEndpoint cleanNAPWithOverridePolicies)
open Tunnel (isEdge)

namespace Inventory

open HandlerError (internalServerError ofLookup badRequest forbidden)

/-- The group that is read where `updateEndpointRelations` is given none. -/
def givenOrUnassigned : Option EndpointGroup → Fallible Server EndpointGroup
  | some endpointGroup => pure endpointGroup
  | none => Server.endpointGroup.getObject 1

/-- `updateEndpointRelations`. -/
def updateEndpointRelations (endpoint : Endpoint) (endpointGroup : Option EndpointGroup) :
    Fallible Server Unit :=
  if isEdge endpoint.type then do
    let endpointGroup ← givenOrUnassigned endpointGroup
    let endpointRelation ← Server.endpointRelation.getObject endpoint.id
    let edgeGroups ← Server.edgeGroup.getAll
    let edgeStacks ← Server.edgeStack.getAll
    Server.endpointRelation.updateObject
      (recomputed endpointRelation endpoint endpointGroup edgeGroups edgeStacks)
  else pure ()

def relationsUnpersisted : String → HandlerError :=
  internalServerError "Unable to persist endpoint relations changes inside the database"

/-- Put an endpoint in a group and bring its relation up to date, as four of
the handlers do. They differ in the message about the endpoint, and in
whether they hand the group on. -/
def moveEndpoint (unpersisted : String → HandlerError) (endpoint : Endpoint)
    (groupID : EndpointGroupID) (endpointGroup : Option EndpointGroup) : Handler Server Unit := do
  let endpoint := { endpoint with groupID := groupID }
  (Server.endpoint.updateObject endpoint).mapError unpersisted
  (updateEndpointRelations endpoint endpointGroup).mapError relationsUnpersisted

def findEndpointGroup : String → HandlerError :=
  ofLookup "Unable to find an endpoint group with the specified identifier inside the database"

def retrieveEndpoints : String → HandlerError :=
  internalServerError "Unable to retrieve endpoints from the database"

/-! ## Create -/

structure EndpointGroupCreatePayload where
  name : String
  description : String := ""
  associatedEndpoints : List EndpointID := []
  tagIDs : List TagID := []

/-- The group of a payload, under the number that is drawn for it. -/
def EndpointGroupCreatePayload.endpointGroup (payload : EndpointGroupCreatePayload)
    (id : EndpointGroupID) : EndpointGroup :=
  { id := id, name := payload.name, description := payload.description, tagIDs := payload.tagIDs }

/-- One turn of the loop over the associated endpoints. The endpoint is
taken from the list that was read before the loop. -/
def associateEndpoint (endpoints : List Endpoint) (endpointGroup : EndpointGroup)
    (id : EndpointID) : Handler Server Unit :=
  match endpoints.find? (·.id = id) with
  | none => pure ()
  | some endpoint => moveEndpoint (internalServerError "Unable to update endpoint") endpoint
      endpointGroup.id (some endpointGroup)

def endpointGroupCreate (payload : EndpointGroupCreatePayload) : Handler Server EndpointGroup := do
  .require (payload.name ≠ "") (badRequest "Invalid request payload" "Invalid endpoint group name")
  let id ← (Server.endpointGroup.createObject payload.endpointGroup).mapError
    (internalServerError "Unable to persist the endpoint group inside the database")
  let endpointGroup := payload.endpointGroup id
  let endpoints ← Server.endpoint.getAll.mapError retrieveEndpoints
  payload.associatedEndpoints.forM (associateEndpoint endpoints endpointGroup)
  changeTags (internalServerError "Unable to retrieve tag from the database") persistTag
    (withEndpointGroup endpointGroup.id) endpointGroup.tagIDs
  return endpointGroup

/-! ## Update -/

/-- The body of an update. An empty name or description stays, and so does
a field that is not in the body. -/
structure EndpointGroupUpdatePayload where
  name : String := ""
  description : String := ""
  tagIDs : Option (List TagID) := none
  userAccessPolicies : Option UserAccessPolicies := none
  teamAccessPolicies : Option TeamAccessPolicies := none

namespace EndpointGroupUpdatePayload

variable (payload : EndpointGroupUpdatePayload)

/-- The policies of the body are other than those of the group. -/
def updateAuthorizations (endpointGroup : EndpointGroup) : Bool :=
  payload.userAccessPolicies.getD endpointGroup.userAccessPolicies ≠
      endpointGroup.userAccessPolicies ||
    payload.teamAccessPolicies.getD endpointGroup.teamAccessPolicies ≠
      endpointGroup.teamAccessPolicies

/-- The group with everything but its tags as the body has it. -/
def withFields (endpointGroup : EndpointGroup) : EndpointGroup :=
  { endpointGroup with
    name := if payload.name = "" then endpointGroup.name else payload.name
    description := if payload.description = "" then endpointGroup.description else payload.description
    userAccessPolicies := payload.userAccessPolicies.getD endpointGroup.userAccessPolicies
    teamAccessPolicies := payload.teamAccessPolicies.getD endpointGroup.teamAccessPolicies }

end EndpointGroupUpdatePayload

/-- One turn of the loop that cleans. -/
def cleanMember (endpointGroup : EndpointGroup) (endpoint : Endpoint) : Handler Server Unit :=
  if endpoint.groupID = endpointGroup.id ∧ isKubernetesEndpoint endpoint.type = true then
    (cleanNAPWithOverridePolicies endpoint (some endpointGroup)).mapError
      (internalServerError "Unable to update user authorizations")
  else pure ()

/-- The cleaning of `endpointGroupUpdate`. -/
def cleanMembers (updateAuthorizations : Bool) (endpointGroup : EndpointGroup) :
    Handler Server Unit :=
  if updateAuthorizations then do
    let endpoints ← Server.endpoint.getAll.mapError retrieveEndpoints
    endpoints.forM (cleanMember endpointGroup)
  else pure ()

/-- One turn of the loop that brings the relations up to date. -/
def refreshMember (endpointGroup : EndpointGroup) (endpoint : Endpoint) : Handler Server Unit :=
  if endpoint.groupID = endpointGroup.id then
    (updateEndpointRelations endpoint (some endpointGroup)).mapError relationsUnpersisted
  else pure ()

/-- The end of `endpointGroupUpdate`. -/
def refreshMembers (tagsChanged : Bool) (endpointGroup : EndpointGroup) : Handler Server Unit :=
  if tagsChanged then do
    let endpoints ← Server.endpoint.getAll.mapError retrieveEndpoints
    endpoints.forM (refreshMember endpointGroup)
  else pure ()

def endpointGroupUpdate (endpointGroupID : EndpointGroupID) (payload : EndpointGroupUpdatePayload) :
    Handler Server EndpointGroup := do
  let endpointGroup ← (Server.endpointGroup.getObject endpointGroupID).mapError findEndpointGroup
  let tagsChanged := tagsChanged endpointGroup.tagIDs payload.tagIDs
  let updateAuthorizations := payload.updateAuthorizations endpointGroup
  let tagIDs ← replaceTags (withoutEndpointGroup endpointGroup.id)
    (withEndpointGroup endpointGroup.id) endpointGroup.tagIDs payload.tagIDs
  let endpointGroup := { payload.withFields endpointGroup with tagIDs := tagIDs }
  cleanMembers updateAuthorizations endpointGroup
  (Server.endpointGroup.updateObject endpointGroup).mapError
    (internalServerError "Unable to persist endpoint group changes inside the database")
  refreshMembers tagsChanged endpointGroup
  return endpointGroup

/-! ## Delete, add and remove -/

/-- One turn of the loop over the endpoints. -/
def unassignMember (endpointGroupID : EndpointGroupID) (endpoint : Endpoint) :
    Handler Server Unit :=
  if endpoint.groupID = endpointGroupID then
    moveEndpoint (internalServerError "Unable to update endpoint") endpoint 1 none
  else pure ()

def endpointGroupDelete (endpointGroupID : EndpointGroupID) : Handler Server Unit := do
  .require (endpointGroupID ≠ 1) (forbidden "Unable to remove the default 'Unassigned' group"
    "Cannot remove the default endpoint group")
  let endpointGroup ← (Server.endpointGroup.getObject endpointGroupID).mapError findEndpointGroup
  (Server.endpointGroup.deleteObject endpointGroupID).mapError
    (internalServerError "Unable to remove the endpoint group from the database")
  let endpoints ← Server.endpoint.getAll.mapError retrieveEndpoints
  endpoints.forM (unassignMember endpointGroupID)
  changeTags (internalServerError "Unable to retrieve tag from the database") persistTag
    (withoutEndpointGroup endpointGroup.id) endpointGroup.tagIDs

def persistEndpointChanges : String → HandlerError :=
  internalServerError "Unable to persist endpoint changes inside the database"

def endpointGroupAddEndpoint (endpointGroupID : EndpointGroupID) (endpointID : EndpointID) :
    Handler Server Unit := do
  let endpointGroup ← (Server.endpointGroup.getObject endpointGroupID).mapError findEndpointGroup
  let endpoint ← (Server.endpoint.getObject endpointID).mapError findEndpoint
  moveEndpoint persistEndpointChanges endpoint endpointGroup.id (some endpointGroup)

/-- The group has to be there, but the endpoint need not be in it. -/
def endpointGroupDeleteEndpoint (endpointGroupID : EndpointGroupID) (endpointID : EndpointID) :
    Handler Server Unit := do
  let _ ← (Server.endpointGroup.getObject endpointGroupID).mapError findEndpointGroup
  let endpoint ← (Server.endpoint.getObject endpointID).mapError findEndpoint
  moveEndpoint persistEndpointChanges endpoint 1 none

end Inventory

end Portainer
