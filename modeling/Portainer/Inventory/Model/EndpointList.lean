import Mathlib.Data.List.Infix
import Portainer.Common.Paging
import Portainer.Common.Tabulation
import Portainer.Model.Bouncer
import Portainer.Inventory.Model.Endpoints
/-!
# The list of endpoints — filters and pages

`endpoint_list.go`. The endpoints that the user may access go through up to
five filters, each there if its query parameter is, and of what is left one
page is returned.
-/

namespace Portainer

open Std
open HandlerError (internalServerError)
open Paging (wrap clamp slice)

namespace Inventory

/-- What the listing is given besides the store. -/
structure Listing where
  /-- `unicode.ToLower`. -/
  lower : Char → Char
  composeSyntaxMaxVersion : String := ""
  /-- A snapshot without its raw part. -/
  withoutRaw : String → String := id

/-- The query parameters, each as it is decoded: a number or a list that is
missing or cannot be read is `none`. -/
structure EndpointListQuery where
  start : Option Int := none
  search : String := ""
  groupID : Option Int := none
  limit : Option Int := none
  types : Option (List Int) := none
  tagIDs : Option (List TagID) := none
  tagsPartialMatch : Bool := false
  endpointIDs : Option (List EndpointID) := none

/-- An endpoint of the answer. -/
structure ListedEndpoint where
  endpoint : Endpoint
  composeSyntaxMaxVersion : String

structure EndpointListResponse where
  /-- The header `X-Total-Count`. -/
  totalCount : Int
  endpoints : List ListedEndpoint

/-- `RetrieveNumericQueryParameter` of an optional parameter, its error
ignored. -/
def retrieveNumericQueryParameter (parameter : Option Int) : Int := parameter.elim 0 clamp

/-- The number of an endpoint type. -/
def EndpointType.number : EndpointType → Int
  | .dockerEnvironment => 1
  | .agentOnDockerEnvironment => 2
  | .azureEnvironment => 3
  | .edgeAgentOnDockerEnvironment => 4
  | .kubernetesLocalEnvironment => 5
  | .agentOnKubernetesEnvironment => 6
  | .edgeAgentOnKubernetesEnvironment => 7

/-! ## Filters -/

def filteredEndpointsByIds (endpoints : List Endpoint) (ids : List EndpointID) : List Endpoint :=
  let idsSet := ids.toFinset
  endpoints.filter fun endpoint => endpoint.id ∈ idsSet

def filterEndpointsByGroupID (endpoints : List Endpoint) (endpointGroupID : EndpointGroupID) : List Endpoint :=
  endpoints.filter fun endpoint => endpoint.groupID = endpointGroupID

def filterEndpointsByTypes (endpoints : List Endpoint) (endpointTypes : List Int) : List Endpoint :=
  let typeSet := endpointTypes.toFinset
  endpoints.filter fun endpoint => EndpointType.number endpoint.type ∈ typeSet

/-- `convertTagIDsToTags`: a tag that is not there is the empty text. -/
def convertTagIDsToTags (tagsMap : ExtTreeMap TagID String) (tagIDs : List TagID) : List String :=
  tagIDs.map fun tagID => tagsMap[tagID]?.getD ""

namespace Listing

variable (listing : Listing)

/-- `strings.ToLower`. -/
def toLower (s : String) : String := s.map listing.lower

/-- `strings.Contains(strings.ToLower(s), searchCriteria)`. -/
def contains (s searchCriteria : String) : Bool :=
  searchCriteria.toList <:+: (listing.toLower s).toList

def endpointMatchSearchCriteria (endpoint : Endpoint) (tags : List String) (searchCriteria : String) : Bool :=
  listing.contains endpoint.name searchCriteria || listing.contains endpoint.url searchCriteria ||
    (endpoint.status = .up && searchCriteria = "up") ||
    (endpoint.status = .down && searchCriteria = "down") ||
    tags.any fun tag => listing.contains tag searchCriteria

def endpointGroupMatchSearchCriteria (endpoint : Endpoint) (endpointGroups : List EndpointGroup)
    (tagsMap : ExtTreeMap TagID String) (searchCriteria : String) : Bool :=
  endpointGroups.any fun group =>
    group.id = endpoint.groupID && (listing.contains group.name searchCriteria ||
      (convertTagIDsToTags tagsMap group.tagIDs).any fun tag => listing.contains tag searchCriteria)

def filterEndpointsBySearchCriteria (endpoints : List Endpoint) (endpointGroups : List EndpointGroup)
    (tagsMap : ExtTreeMap TagID String) (searchCriteria : String) : List Endpoint :=
  endpoints.filter fun endpoint =>
    listing.endpointMatchSearchCriteria endpoint (convertTagIDsToTags tagsMap endpoint.tagIDs) searchCriteria ||
      listing.endpointGroupMatchSearchCriteria endpoint endpointGroups tagsMap searchCriteria

/-- The search, which reads the tags. -/
def searchEndpoints (endpoints : List Endpoint) (endpointGroups : List EndpointGroup) (search : String) :
    Handler Server (List Endpoint) :=
  if search ≠ "" then do
    let tags ← Server.tag.getAll.mapError
      (internalServerError "Unable to retrieve tags from the database")
    let tagsMap := Loop.tabulate Tag.id (fun tag => some tag.name) tags
    return listing.filterEndpointsBySearchCriteria endpoints endpointGroups tagsMap search
  else return endpoints

/-! ## Pages -/

/-- `hideFields`. -/
def hideFields (endpoint : Endpoint) : Endpoint :=
  { endpoint with
    azureCredentials := {}
    dockerSnapshots := endpoint.dockerSnapshots.modifyHead listing.withoutRaw }

/-- An endpoint as it is returned. -/
def listed (settings : Settings) (endpoint : Endpoint) : ListedEndpoint :=
  let endpoint := listing.hideFields endpoint
  { endpoint :=
      if endpoint.edgeCheckinInterval = 0 then
        { endpoint with edgeCheckinInterval := settings.edgeAgentCheckinInterval }
      else endpoint
    composeSyntaxMaxVersion := listing.composeSyntaxMaxVersion }

end Listing

def paginateEndpoints (endpoints : List Endpoint) (start limit : Int) : Except Panic (List Endpoint) :=
  if limit = 0 then .ok endpoints
  else
    let endpointCount : Int := endpoints.length
    let start := if start > endpointCount then endpointCount else start
    let last := wrap (start + limit)
    let last := if last > endpointCount then endpointCount else last
    slice endpoints start last

/-- `endpointList`, for what the bouncer says of the user. -/
def endpointList (listing : Listing) (context : RestrictedRequestContext) (query : EndpointListQuery) :
    Handler Server (Except Panic EndpointListResponse) := do
  let start := retrieveNumericQueryParameter query.start
  let start := if start ≠ 0 then wrap (start - 1) else start
  let search := if query.search ≠ "" then listing.toLower query.search else query.search
  let groupID := retrieveNumericQueryParameter query.groupID
  let limit := retrieveNumericQueryParameter query.limit
  let endpointGroups ← Server.endpointGroup.getAll.mapError
    (internalServerError "Unable to retrieve endpoint groups from the database")
  let endpoints ← Server.endpoint.getAll.mapError
    (internalServerError "Unable to retrieve endpoints from the database")
  let settings ← Server.getSettings.mapError
    (internalServerError "Unable to retrieve settings from the database")
  match filterEndpoints endpoints endpointGroups context with
  | none => return .error .nilDereference
  | some filteredEndpoints => do
    let filteredEndpoints := query.endpointIDs.elim filteredEndpoints (filteredEndpointsByIds filteredEndpoints)
    let filteredEndpoints :=
      if groupID ≠ 0 then filterEndpointsByGroupID filteredEndpoints groupID else filteredEndpoints
    let filteredEndpoints ← listing.searchEndpoints filteredEndpoints endpointGroups search
    let filteredEndpoints := query.types.elim filteredEndpoints (filterEndpointsByTypes filteredEndpoints)
    let filteredEndpoints := query.tagIDs.elim filteredEndpoints fun tagIDs =>
      filteredEndpointsByTags filteredEndpoints tagIDs endpointGroups query.tagsPartialMatch
    let filteredEndpointCount : Int := filteredEndpoints.length
    return (paginateEndpoints filteredEndpoints start limit).map fun paginatedEndpoints =>
      { totalCount := filteredEndpointCount
        endpoints := paginatedEndpoints.map (listing.listed settings) }

end Inventory

end Portainer
