import Portainer.Inventory.Helpers.Endpoints
import Portainer.Inventory.Model.EdgeGroups
/-!
# The deletion of an endpoint — what still mentions it

A deletion clears the collections that mention the endpoint one by one,
each in its own way. Other entries never change (`unchanged_afterDelete`).
The endpoint itself is gone from everywhere exactly if no Edge job
mentions it, no Edge group lists it twice, and the tags that name it are
those it carries (`unmentioned_iff`): the jobs are not looked at, one
occurrence is taken off a list, and the tags are found through the
endpoint.
-/

namespace Portainer

open Std

namespace Inventory

variable {id : EndpointID} {s s' : Server}

/-- No tag, Edge group, Edge stack status, registry access, relation or
Edge job mentions the endpoint. -/
structure Unmentioned (id : EndpointID) (s : Server) : Prop where
  tag : ∀ tag ∈ s.dataStore.tag.all, id ∉ tag.endpoints
  edgeGroup : ∀ edgeGroup ∈ s.dataStore.edgeGroup.all, id ∉ edgeGroup.endpoints
  edgeStack : ∀ edgeStack ∈ s.dataStore.edgeStack.all, id ∉ edgeStack.status
  registry : ∀ registry ∈ s.dataStore.registry.all, id ∉ registry.registryAccesses
  endpointRelation : ∀ relation ∈ s.dataStore.endpointRelation.all, relation.endpointID ≠ id
  edgeJob : ∀ edgeJob ∈ s.dataStore.edgeJob.all, id ∉ edgeJob.endpoints

/-- The two groups differ in what they say about the endpoint only. The
order of the others is not kept. -/
def SameButFor (id : EndpointID) (g g' : EdgeGroup) : Prop :=
  { g with endpoints := [] } = { g' with endpoints := [] } ∧
    (g.endpoints.filter (· ≠ id)).Perm (g'.endpoints.filter (· ≠ id))

/-- Every entry of the six collections that is not about the endpoint is as
it was. -/
structure OthersUnchanged (id : EndpointID) (s s' : Server) : Prop where
  tag : ∀ i, (s'.dataStore.tag.get? i).map (withoutEndpoint id) =
    (s.dataStore.tag.get? i).map (withoutEndpoint id)
  edgeGroup : ∀ i, Option.Rel (SameButFor id) (s.dataStore.edgeGroup.get? i)
    (s'.dataStore.edgeGroup.get? i)
  edgeStack : ∀ i, (s'.dataStore.edgeStack.get? i).map (stackWithout id) =
    (s.dataStore.edgeStack.get? i).map (stackWithout id)
  registry : ∀ i, (s'.dataStore.registry.get? i).map (registryWithout id) =
    (s.dataStore.registry.get? i).map (registryWithout id)
  endpointRelation : ∀ i, i ≠ id →
    s'.dataStore.endpointRelation.get? i = s.dataStore.endpointRelation.get? i
  edgeJob : ∀ i, s'.dataStore.edgeJob.get? i = s.dataStore.edgeJob.get? i

/-- No Edge job mentions the endpoint, no Edge group lists it more than
once, and each tag that names it is one it carries. -/
structure Clearable (id : EndpointID) (s : Server) : Prop where
  edgeJob : ∀ edgeJob ∈ s.dataStore.edgeJob.all, id ∉ edgeJob.endpoints
  edgeGroup : ∀ edgeGroup ∈ s.dataStore.edgeGroup.all, edgeGroup.endpoints.count id ≤ 1
  tag : ∀ tag ∈ s.dataStore.tag.all, id ∈ tag.endpoints →
    ∃ endpoint, s.dataStore.endpoint.get? id = some endpoint ∧ tag.id ∈ endpoint.tagIDs

/-! ## The collections after a deletion -/

section AfterDelete

variable {endpoint : Endpoint} {i : Int}

theorem get?_tag_afterDelete : (afterEndpointDelete endpoint s).dataStore.tag.get? i =
    if i ∈ endpoint.tagIDs then (s.dataStore.tag.get? i).map (withoutEndpoint endpoint.id)
    else s.dataStore.tag.get? i := by
  rw [tag_afterDelete, Bucket.get?_alterAll (f := withoutEndpoint endpoint.id) fun _ => rfl]
  exact fun tag => by simp [withoutEndpoint]

theorem get?_edgeGroup_afterDelete : (afterEndpointDelete endpoint s).dataStore.edgeGroup.get? i =
    (s.dataStore.edgeGroup.get? i).map (groupWithout endpoint.id) := by
  rw [edgeGroup_afterDelete, Bucket.get?_alterWhere (f := groupWithout endpoint.id) fun _ => rfl]
  refine congrArg (Option.map · _) (funext fun g => ?_)
  by_cases h : endpoint.id ∈ g.endpoints
  · rw [if_pos (by simpa using h)]
  · rw [if_neg (by simpa using h), groupWithout, removeFirst_of_notMem h]

/-- Nothing is erased under a key that is not there. -/
theorem erase_of_notMem {β : Type} {m : ExtTreeMap Int β} {k : Int} (h : k ∉ m) : m.erase k = m := by
  refine ExtTreeMap.ext_getElem? fun j => ?_
  rw [ExtTreeMap.getElem?_erase]
  split
  · rename_i hj
    rw [← Std.compare_eq_iff_eq.mp hj, ExtTreeMap.getElem?_eq_none h]
  · rfl

theorem get?_edgeStack_afterDelete : (afterEndpointDelete endpoint s).dataStore.edgeStack.get? i =
    (s.dataStore.edgeStack.get? i).map (stackWithout endpoint.id) := by
  rw [edgeStack_afterDelete, Bucket.get?_alterWhere (f := stackWithout endpoint.id) fun _ => rfl]
  refine congrArg (Option.map · _) (funext fun stack => ?_)
  by_cases h : endpoint.id ∈ stack.status
  · rw [if_pos (by simpa using h)]
  · rw [if_neg (by simpa using h), stackWithout, erase_of_notMem h]

theorem get?_registry_afterDelete : (afterEndpointDelete endpoint s).dataStore.registry.get? i =
    (s.dataStore.registry.get? i).map (registryWithout endpoint.id) := by
  rw [registry_afterDelete, Bucket.get?_alterWhere (f := registryWithout endpoint.id) fun _ => rfl]
  refine congrArg (Option.map · _) (funext fun registry => ?_)
  by_cases h : endpoint.id ∈ registry.registryAccesses
  · rw [if_pos (by simpa using h)]
  · rw [if_neg (by simpa using h), registryWithout, erase_of_notMem h]

theorem get?_endpointRelation_afterDelete :
    (afterEndpointDelete endpoint s).dataStore.endpointRelation.get? i =
      if endpoint.id = i then none else s.dataStore.endpointRelation.get? i := by
  rw [endpointRelation_afterDelete, Bucket.get?_delete]

end AfterDelete

/-! ## What is unchanged, and what is gone -/

theorem withoutEndpoint_withoutEndpoint (id : EndpointID) (tag : Tag) :
    withoutEndpoint id (withoutEndpoint id tag) = withoutEndpoint id tag := by
  simp [withoutEndpoint]

theorem erase_erase {β : Type} {m : ExtTreeMap Int β} {k : Int} : (m.erase k).erase k = m.erase k :=
  erase_of_notMem (by simp)

theorem sameButFor_groupWithout (id : EndpointID) (g : EdgeGroup) :
    SameButFor id g (groupWithout id g) := by
  refine ⟨rfl, List.perm_iff_count.mpr fun a => ?_⟩
  by_cases ha : a = id
  · subst ha
    rw [List.count_eq_zero_of_not_mem (by simp), List.count_eq_zero_of_not_mem (by simp)]
  · rw [List.count_filter (by simpa using ha), List.count_filter (by simpa using ha), groupWithout,
      (removeFirst_perm g.endpoints id).count_eq, List.count_erase_of_ne ha]

/-- **Nothing else changes.** -/
theorem unchanged_afterDelete (endpoint : Endpoint) :
    OthersUnchanged endpoint.id s (afterEndpointDelete endpoint s) where
  tag i := by
    rw [get?_tag_afterDelete]
    split
    · cases s.dataStore.tag.get? i <;> simp [withoutEndpoint_withoutEndpoint]
    · rfl
  edgeGroup i := by
    rw [get?_edgeGroup_afterDelete]
    cases s.dataStore.edgeGroup.get? i with
    | none => exact .none
    | some g => exact .some (sameButFor_groupWithout _ g)
  edgeStack i := by
    rw [get?_edgeStack_afterDelete]
    cases s.dataStore.edgeStack.get? i <;> simp [stackWithout, erase_erase]
  registry i := by
    rw [get?_registry_afterDelete]
    cases s.dataStore.registry.get? i <;> simp [registryWithout, erase_erase]
  endpointRelation i hi := by rw [get?_endpointRelation_afterDelete, if_neg (Ne.symm hi)]
  edgeJob i := rfl

/-- A property of all records, put as one of the records under their
keys. -/
theorem forall_mem_all {α : Type} [Record α] {b : Bucket α} {P : α → Prop} :
    (∀ a ∈ b.all, P a) ↔ ∀ i a, b.get? i = some a → P a :=
  ⟨fun h _ _ hget => h _ (Bucket.mem_all_of_get? hget), fun h a ha => h _ a (Bucket.mem_all.mp ha)⟩

theorem untagged_afterDelete {endpoint : Endpoint}
    (hget : s.dataStore.endpoint.get? endpoint.id = some endpoint) :
    (∀ tag ∈ (afterEndpointDelete endpoint s).dataStore.tag.all, endpoint.id ∉ tag.endpoints) ↔
      ∀ tag ∈ s.dataStore.tag.all, endpoint.id ∈ tag.endpoints →
        ∃ e, s.dataStore.endpoint.get? endpoint.id = some e ∧ tag.id ∈ e.tagIDs := by
  rw [forall_mem_all, forall_mem_all]
  constructor
  · intro h i tag htag hmem
    refine ⟨endpoint, hget, ?_⟩
    by_contra hnot
    obtain rfl : tag.id = i := Bucket.key_of_get? htag
    exact h tag.id tag (by rw [get?_tag_afterDelete, if_neg hnot, htag]) hmem
  · intro h i tag htag hmem
    rw [get?_tag_afterDelete] at htag
    split at htag
    · obtain ⟨tag₀, -, rfl⟩ := Option.map_eq_some_iff.mp htag
      simp [withoutEndpoint] at hmem
    · rename_i hnot
      obtain ⟨e, he, hmem'⟩ := h i tag htag hmem
      obtain rfl : endpoint = e := Option.some.inj (hget.symm.trans he)
      obtain rfl : tag.id = i := Bucket.key_of_get? htag
      exact hnot hmem'

theorem unlisted_afterDelete {endpoint : Endpoint} :
    (∀ g ∈ (afterEndpointDelete endpoint s).dataStore.edgeGroup.all, endpoint.id ∉ g.endpoints) ↔
      ∀ g ∈ s.dataStore.edgeGroup.all, g.endpoints.count endpoint.id ≤ 1 := by
  rw [forall_mem_all, forall_mem_all]
  constructor
  · intro h i g hg
    rw [← notMem_removeFirst_self]
    exact h i (groupWithout endpoint.id g) (by rw [get?_edgeGroup_afterDelete, hg]; rfl)
  · intro h i g' hg'
    rw [get?_edgeGroup_afterDelete] at hg'
    obtain ⟨g, hg, rfl⟩ := Option.map_eq_some_iff.mp hg'
    exact notMem_removeFirst_self.mpr (h i g hg)

/-- **The endpoint is gone** exactly if the store was one that a deletion
clears. -/
theorem unmentioned_iff {endpoint : Endpoint}
    (hget : s.dataStore.endpoint.get? endpoint.id = some endpoint) :
    Unmentioned endpoint.id (afterEndpointDelete endpoint s) ↔ Clearable endpoint.id s := by
  constructor
  · intro h
    exact ⟨h.edgeJob, unlisted_afterDelete.mp h.edgeGroup, (untagged_afterDelete hget).mp h.tag⟩
  · intro h
    refine ⟨(untagged_afterDelete hget).mpr h.tag, unlisted_afterDelete.mpr h.edgeGroup, ?_, ?_, ?_,
      h.edgeJob⟩
    · rw [forall_mem_all]
      intro i stack' hstack'
      rw [get?_edgeStack_afterDelete] at hstack'
      obtain ⟨stack, -, rfl⟩ := Option.map_eq_some_iff.mp hstack'
      simp [stackWithout]
    · rw [forall_mem_all]
      intro i registry' hregistry'
      rw [get?_registry_afterDelete] at hregistry'
      obtain ⟨registry, -, rfl⟩ := Option.map_eq_some_iff.mp hregistry'
      simp [registryWithout]
    · rw [forall_mem_all]
      intro i relation hrelation hid
      have hkey : relation.endpointID = i := Bucket.key_of_get? hrelation
      rw [get?_endpointRelation_afterDelete, if_pos (hid.symm.trans hkey)] at hrelation
      cases hrelation

/-- **A deletion that succeeds leaves no reference** to the endpoint, and
everything else as it was, exactly if no Edge job mentions the endpoint, no
Edge group lists it more than once, and the tags that name it are those it
carries. -/
theorem endpointDelete_clears_iff {w w' : Sys Callee Server}
    (hrun : (endpointDelete id).run w = (.ok (), w')) :
    Unmentioned id w'.store ∧ OthersUnchanged id w.store w'.store ↔ Clearable id w.store := by
  obtain ⟨endpoint, hget, -, hafter⟩ := ensures_endpointDelete w () w' rfl hrun
  obtain rfl : endpoint.id = id := Bucket.key_of_get? hget
  rw [hafter, unmentioned_iff hget]
  exact and_iff_left (unchanged_afterDelete endpoint)

/-- A tagged endpoint in a static group, with its relation. -/
def servedEndpoint : Server where
  dataStore :=
    { endpoint := ({} : Bucket Endpoint).put
        { id := 4, type := .edgeAgentOnDockerEnvironment, tagIDs := [2] }
      endpointRelation := ({} : Bucket EndpointRelation).put { endpointID := 4 }
      edgeGroup := ({} : Bucket EdgeGroup).put { id := 1, endpoints := [4, 5, 6] }
      tag := ({} : Bucket Tag).put { id := 2, endpoints := {4} } }

theorem clearable_servedEndpoint : Clearable 4 servedEndpoint where
  edgeJob := by decide
  edgeGroup := by decide
  tag := by
    intro tag htag _
    have hid : ∀ tag ∈ servedEndpoint.dataStore.tag.all, tag.id ∈ [2] := by decide
    exact ⟨{ id := 4, type := .edgeAgentOnDockerEnvironment, tagIDs := [2] }, by decide, hid tag htag⟩

theorem endpointDelete_clears_served : ∃ w',
    (endpointDelete 4).run (.faultless servedEndpoint) = (.ok (), w') ∧
      Unmentioned 4 w'.store ∧ OthersUnchanged 4 servedEndpoint w'.store :=
  ⟨_, rfl, (endpointDelete_clears_iff (w := .faultless servedEndpoint) rfl).mpr
    clearable_servedEndpoint⟩

/-! ## An endpoint listed twice -/

/-- The creation of a static group keeps both occurrences of an endpoint in
its payload, and the deletion of the endpoint takes off one. -/
theorem endpointDelete_leaves_second : ∃ e g w₁ w₂ w₃,
    (endpointCreate plainServices edgeAgentPayload).run (.faultless newServer) = (.ok e, w₁) ∧
      (edgeGroupCreate { name := "group", endpoints := [e.id, e.id] }).run w₁ = (.ok g, w₂) ∧
      (endpointDelete e.id).run w₂ = (.ok (), w₃) ∧ ¬ Unmentioned e.id w₃.store :=
  ⟨_, _, _, _, _, rfl, rfl, rfl, fun h => absurd h.edgeGroup (by decide)⟩

end Inventory

end Portainer
