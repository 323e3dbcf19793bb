import Mathlib.Data.Finset.Card
import Mathlib.Data.List.Sort
import Portainer.Model.Server
import Portainer.Tunnel.Model.EdgeJobs
/-!
# Edge groups and Edge stacks — who belongs where

The pure functions of `internal/tag` and `internal/edge`: which endpoints
an Edge group has, which endpoints an Edge stack is deployed on, and which
Edge stacks an endpoint runs. A set of tags is a `Finset`. A loop over a
map of the source runs in no order of its own; here it runs in the order of
the keys.
-/

namespace Portainer

namespace Inventory

open Tunnel (isEdge)

/-! ## Sets of tags -/

namespace Tags

abbrev TagSet := Finset TagID

/-- `Set`. -/
def set (tagIDs : List TagID) : TagSet := tagIDs.toFinset

/-- `Intersection`, of two sets. -/
def intersection (setA setB : TagSet) : TagSet := setA.filter fun tag => tag ∈ setA ∧ tag ∈ setB

/-- `Union`, of two sets. -/
def union (setA setB : TagSet) : TagSet := setA ∪ setB

/-- `Contains`: it counts the elements of the second set that are in the
first, and compares the count with the size of the first. -/
def contains (setA setB : TagSet) : Bool := (setB.filter (· ∈ setA)).card = setA.card

/-- `Difference`. -/
def difference (setA setB : TagSet) : TagSet := setA.filter (· ∉ setB)

end Tags

/-! ## Endpoints of a group, stacks of an endpoint -/

/-- `edgeGroupRelatedToEndpoint`. -/
def edgeGroupRelatedToEndpoint (edgeGroup : EdgeGroup) (endpoint : Endpoint)
    (endpointGroup : EndpointGroup) : Bool :=
  if edgeGroup.dynamic then
    let endpointTags := Tags.union (Tags.set endpoint.tagIDs) (Tags.set endpointGroup.tagIDs)
    let edgeGroupTags := Tags.set edgeGroup.tagIDs
    if edgeGroup.partialMatch then (Tags.intersection endpointTags edgeGroupTags).card ≠ 0
    else Tags.contains edgeGroupTags endpointTags
  else decide (endpoint.id ∈ edgeGroup.endpoints)

/-- The group of an endpoint, in a list of groups. Where it is missing the
source goes on with an `EndpointGroup` that has no field set. -/
def associatedGroup (endpoint : Endpoint) (endpointGroups : List EndpointGroup) : EndpointGroup :=
  (endpointGroups.find? (endpoint.groupID = ·.id)).getD { id := 0 }

/-- `EdgeGroupRelatedEndpoints`. -/
def edgeGroupRelatedEndpoints (edgeGroup : EdgeGroup) (endpoints : List Endpoint)
    (endpointGroups : List EndpointGroup) : List EndpointID :=
  if edgeGroup.dynamic then
    (endpoints.filter fun endpoint => isEdge endpoint.type &&
      edgeGroupRelatedToEndpoint edgeGroup endpoint (associatedGroup endpoint endpointGroups)).map
        Endpoint.id
  else edgeGroup.endpoints

/-- `EdgeStackRelatedEndpoints`: it stops at the first group that is not
there. -/
def edgeStackRelatedEndpoints (edgeGroupIDs : List EdgeGroupID) (endpoints : List Endpoint)
    (endpointGroups : List EndpointGroup) (edgeGroups : List EdgeGroup) :
    Except String (List EndpointID) :=
  collect [] edgeGroupIDs
where
  collect (edgeStackEndpoints : List EndpointID) : List EdgeGroupID → Except String (List EndpointID)
    | [] => .ok edgeStackEndpoints
    | edgeGroupID :: rest =>
      match edgeGroups.find? (·.id = edgeGroupID) with
      | none => .error "Edge group was not found"
      | some edgeGroup => collect
          (edgeStackEndpoints ++ edgeGroupRelatedEndpoints edgeGroup endpoints endpointGroups) rest

/-- `EndpointRelatedEdgeStacks`. -/
def endpointRelatedEdgeStacks (endpoint : Endpoint) (endpointGroup : EndpointGroup)
    (edgeGroups : List EdgeGroup) (edgeStacks : List EdgeStack) : List EdgeStackID :=
  let relatedEdgeGroupsSet :=
    ((edgeGroups.filter (edgeGroupRelatedToEndpoint · endpoint endpointGroup)).map
      EdgeGroup.id).toFinset
  (edgeStacks.filter fun edgeStack => edgeStack.edgeGroups.any (· ∈ relatedEdgeGroupsSet)).map
    EdgeStack.id

/-! ## Reading and recomputing -/

/-- The elements of a set, in order. -/
def elements (set : Finset Int) : List Int :=
  Quot.lift (fun l => l.insertionSort (· ≤ ·)) (fun a b h =>
    (((List.perm_insertionSort _ a).trans h).trans (List.perm_insertionSort _ b).symm).eq_of_pairwise'
      (List.pairwise_insertionSort _ a) (List.pairwise_insertionSort _ b)) set.val

theorem perm_elements (set : Finset Int) : (elements set : Multiset Int) = set.val := by
  rcases set with ⟨⟨l⟩, hl⟩
  exact Quotient.sound (List.perm_insertionSort (· ≤ ·) l)

@[simp] theorem mem_elements {set : Finset Int} {i : Int} : i ∈ elements set ↔ i ∈ set := by
  rw [← Multiset.mem_coe, perm_elements]
  rfl

theorem nodup_elements (set : Finset Int) : (elements set).Nodup := by
  rw [← Multiset.coe_nodup, perm_elements]
  exact set.nodup

/-- The relation of an endpoint with its stacks computed afresh. The
handlers differ in where the endpoint and its group come from. -/
def recomputed (relation : EndpointRelation) (endpoint : Endpoint) (endpointGroup : EndpointGroup)
    (edgeGroups : List EdgeGroup) (edgeStacks : List EdgeStack) : EndpointRelation :=
  { relation with
    edgeStacks :=
      (endpointRelatedEdgeStacks endpoint endpointGroup edgeGroups edgeStacks).toFinset }

/-- `findEndpointIndex` and `findTagIndex`, with `removeElement`: the last
element takes the place of the first one that is found. Where there is none
the slice stays. -/
def removeFirst (arr : List Int) (search : Int) : List Int :=
  match arr.idxOf? search with
  | none => arr
  | some index => (arr.set index (arr.getLastD 0)).dropLast

end Inventory

end Portainer
