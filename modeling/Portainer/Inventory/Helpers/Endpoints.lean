import Portainer.Inventory.Helpers.Tables
import Portainer.Inventory.Model.Endpoints
/-!
# What the endpoint handlers leave

Each handler in closed form, where it succeeds, and what their removal
helper does to a list.
-/

namespace Portainer

open Action (Ensures Runs)

namespace Inventory

/-! ## Removing from a list -/

section Removing

variable {arr : List Int} {search i : Int}

theorem removeFirst_of_notMem (h : search ∉ arr) : removeFirst arr search = arr := by
  unfold removeFirst
  rw [List.idxOf?_eq_none_iff.mpr h]

/-- **One occurrence goes**, and the others stay, in some order. -/
theorem removeFirst_perm (arr : List Int) (search : Int) :
    (removeFirst arr search).Perm (arr.erase search) := by
  by_cases h : search ∈ arr
  · obtain ⟨l₁, l₂, rfl, hl₁⟩ := List.eq_append_cons_of_mem h
    have hidx : (l₁ ++ search :: l₂).idxOf? search = some l₁.length := by
      rw [List.idxOf?_eq_some_iff]
      refine ⟨by simp, by simp, fun j hj => ?_⟩
      rw [List.getElem_append_left hj]
      simpa using fun heq : l₁[j] = search => hl₁ (heq ▸ List.getElem_mem hj)
    have herase : (l₁ ++ search :: l₂).erase search = l₁ ++ l₂ := by
      rw [List.erase_append_right _ hl₁, List.erase_cons_head]
    simp only [removeFirst, hidx, herase]
    rw [List.set_append_right (h := Nat.le_refl _), Nat.sub_self, List.set_cons_zero]
    -- the last element takes the place of the one that goes
    rcases List.eq_nil_or_concat l₂ with rfl | ⟨l₃, y, rfl⟩
    · simp
    · simp only [List.concat_eq_append]
      have hlast : (l₁ ++ search :: (l₃ ++ [y])).getLastD 0 = y := by
        rw [← List.cons_append, ← List.append_assoc, List.getLastD_concat]
      rw [hlast, ← List.cons_append, ← List.append_assoc, List.dropLast_concat]
      exact List.Perm.append_left l₁ (List.perm_append_singleton y l₃).symm
  · rw [removeFirst_of_notMem h, List.erase_of_not_mem h]

theorem count_removeFirst_self : (removeFirst arr search).count search = arr.count search - 1 := by
  rw [(removeFirst_perm arr search).count_eq, List.count_erase_self]

/-- The element is gone exactly if it was there at most once. -/
theorem notMem_removeFirst_self : search ∉ removeFirst arr search ↔ arr.count search ≤ 1 := by
  rw [← List.count_eq_zero, count_removeFirst_self]
  omega

/-- What is left of a list that has the element at most once. -/
theorem removeFirst_perm_filter (h : arr.count search ≤ 1) :
    (removeFirst arr search).Perm (arr.filter (· ≠ search)) := by
  refine (removeFirst_perm arr search).trans (List.perm_iff_count.mpr fun a => ?_)
  by_cases ha : a = search
  · subst ha
    rw [List.count_erase_self, List.count_eq_zero_of_not_mem (l := arr.filter _) (by simp)]
    omega
  · rw [List.count_erase_of_ne ha, List.count_filter (by simpa using ha)]

end Removing

variable {services : Services} {s : Server}

/-! ## The parts of an update that leave the store as it is -/

section Parts

variable {calm : Prop} {E : Server → Prop} {payload : EndpointUpdatePayload} {e : Endpoint}

theorem runs_service {callee : Callee} {g : String → HandlerError} :
    Runs calm ((Action.call callee id).mapError g) s (fun _ s' => s' = s) E :=
  .mapError (.call rfl)

/-- Only the credentials change. -/
theorem runs_updateAzureCredentials : Runs calm (updateAzureCredentials payload e) s
    (fun e' s' => s' = s ∧ e' = { e with azureCredentials := e'.azureCredentials }) E := by
  unfold updateAzureCredentials
  split
  · exact .move_bind runs_service fun _ => .pure ⟨rfl, rfl⟩
  · exact .pure ⟨rfl, rfl⟩

theorem runs_deleteTLSFile : Runs calm deleteTLSFile s (fun _ s' => s' = s) E :=
  .move_bind (.attempt_call rfl fun _ _ => rfl) fun _ => .pure rfl

/-- Only the configuration changes. -/
theorem runs_updateTLS : Runs calm (updateTLS services payload e) s
    (fun e' s' => s' = s ∧ e' = { e with tlsConfig := e'.tlsConfig }) E := by
  have hverify : ∀ config, Runs calm
      (updateTLSSkipVerify services (toString e.id) config payload.tlsSkipVerify) s
        (fun _ s' => s' = s) E := by
    intro config
    unfold updateTLSSkipVerify
    split
    · exact .pure rfl
    · exact .pure rfl
    · exact .move_bind runs_deleteTLSFile fun _ => .pure rfl
  have hclient : ∀ config, Runs calm
      (updateTLSSkipClientVerify services (toString e.id) config payload.tlsSkipClientVerify) s
        (fun _ s' => s' = s) E := by
    intro config
    unfold updateTLSSkipClientVerify
    split
    · exact .pure rfl
    · exact .pure rfl
    · exact .move_bind runs_deleteTLSFile fun _ => .move_bind runs_deleteTLSFile fun _ => .pure rfl
  have hconfig : ∀ tls, Runs calm (updateTLSConfig services payload (toString e.id) e.tlsConfig tls) s
      (fun _ s' => s' = s) E := by
    intro tls
    unfold updateTLSConfig
    split
    · exact .move_bind (hverify _) fun _ => hclient _
    · exact .move_bind runs_service fun _ => .pure rfl
  unfold updateTLS
  split
  · exact .pure ⟨rfl, rfl⟩
  · exact .move_bind (hconfig _) fun _ => .pure ⟨rfl, rfl⟩

theorem runs_registerEndpointProxy :
    Runs calm (registerEndpointProxy payload e) s (fun _ s' => s' = s) E := by
  unfold registerEndpointProxy
  split
  · exact runs_service
  · exact .pure rfl

theorem runs_removeTLSFiles : Runs calm (removeTLSFiles e) s (fun _ s' => s' = s) E := by
  unfold removeTLSFiles
  split
  · exact runs_service
  · exact .pure rfl

end Parts

/-! ## Deletion -/

variable {id : EndpointID}

/-- The Edge group without one occurrence of the endpoint. -/
def groupWithout (id : EndpointID) (edgeGroup : EdgeGroup) : EdgeGroup :=
  { edgeGroup with endpoints := removeFirst edgeGroup.endpoints id }

/-- The Edge stack without a status of the endpoint. -/
def stackWithout (id : EndpointID) (edgeStack : EdgeStack) : EdgeStack :=
  { edgeStack with status := edgeStack.status.erase id }

/-- The registry without an access on the endpoint. -/
def registryWithout (id : EndpointID) (registry : Registry) : Registry :=
  { registry with registryAccesses := registry.registryAccesses.erase id }

/-- The server after a deletion. -/
def afterEndpointDelete (endpoint : Endpoint) (s : Server) : Server :=
  Server.registry.change (·.alterWhere (endpoint.id ∈ ·.registryAccesses) (registryWithout endpoint.id)) <|
  Server.edgeStack.change (·.alterWhere (endpoint.id ∈ ·.status) (stackWithout endpoint.id)) <|
  Server.edgeGroup.change (·.alterWhere (endpoint.id ∈ ·.endpoints) (groupWithout endpoint.id)) <|
  alterTags (withoutEndpoint endpoint.id) endpoint.tagIDs <|
  Server.endpointRelation.change (·.delete endpoint.id) <|
  Server.endpoint.change (·.delete endpoint.id) s

section Buckets

variable {endpoint : Endpoint}

theorem endpointRelation_afterDelete : (afterEndpointDelete endpoint s).dataStore.endpointRelation =
    s.dataStore.endpointRelation.delete endpoint.id := rfl

theorem tag_afterDelete : (afterEndpointDelete endpoint s).dataStore.tag =
    s.dataStore.tag.alterAll (withoutEndpoint endpoint.id) endpoint.tagIDs := rfl

theorem edgeGroup_afterDelete : (afterEndpointDelete endpoint s).dataStore.edgeGroup =
    s.dataStore.edgeGroup.alterWhere (endpoint.id ∈ ·.endpoints) (groupWithout endpoint.id) := rfl

theorem edgeStack_afterDelete : (afterEndpointDelete endpoint s).dataStore.edgeStack =
    s.dataStore.edgeStack.alterWhere (endpoint.id ∈ ·.status) (stackWithout endpoint.id) := rfl

theorem registry_afterDelete : (afterEndpointDelete endpoint s).dataStore.registry =
    s.dataStore.registry.alterWhere (endpoint.id ∈ ·.registryAccesses)
      (registryWithout endpoint.id) := rfl

end Buckets

theorem ensures_dropFromEdgeGroup (id : EndpointID) :
    Ensures ((Server.edgeGroup.bucket s.dataStore).all.forM (dropFromEdgeGroup id)) s fun _ s' =>
      s' = Server.edgeGroup.change (·.alterWhere (id ∈ ·.endpoints) (groupWithout id)) s :=
  Server.lawful_edgeGroup.ensures_forM_update fun a => by
    simp only [dropFromEdgeGroup, groupWithout, decide_eq_true_eq]
    rfl

theorem ensures_dropFromEdgeStack (id : EndpointID) :
    Ensures ((Server.edgeStack.bucket s.dataStore).all.forM (dropFromEdgeStack id)) s fun _ s' =>
      s' = Server.edgeStack.change (·.alterWhere (id ∈ ·.status) (stackWithout id)) s :=
  Server.lawful_edgeStack.ensures_forM_update fun a => by
    simp only [dropFromEdgeStack, stackWithout, decide_eq_true_eq]
    rfl

theorem ensures_dropFromRegistry (id : EndpointID) :
    Ensures ((Server.registry.bucket s.dataStore).all.forM (dropFromRegistry id)) s fun _ s' =>
      s' = Server.registry.change (·.alterWhere (id ∈ ·.registryAccesses) (registryWithout id)) s :=
  Server.lawful_registry.ensures_forM_update fun a => by
    simp only [dropFromRegistry, registryWithout, decide_eq_true_eq]
    rfl

/-- **A deletion that succeeds** has found the endpoint and its tags. -/
theorem ensures_endpointDelete : Ensures (endpointDelete id) s fun _ s' =>
    ∃ endpoint, s.dataStore.endpoint.get? id = some endpoint ∧
      (∀ i ∈ endpoint.tagIDs, (s.dataStore.tag.get? i).isSome) ∧
      s' = afterEndpointDelete endpoint s := by
  unfold endpointDelete
  refine .read_bind Table.returns_getObject_mapError fun endpoint hget => ?_
  obtain rfl : endpoint.id = id := Bucket.key_of_get? hget
  refine .move_bind (runs_removeTLSFiles (E := fun _ => True)).ensures fun _ => ?_
  refine .move_bind Table.ensures_deleteObject_mapError fun _ => ?_
  refine .move_bind Table.ensures_deleteObject_mapError fun _ => ?_
  refine .bind (ensures_changeTags (withoutEndpoint endpoint.id) (fun _ => rfl) endpoint.tagIDs) ?_
  rintro - s₁ ⟨htags, rfl⟩
  refine .read_bind Table.returns_getAll_mapError fun edgeGroups hgroups => ?_
  subst hgroups
  refine .move_bind (ensures_dropFromEdgeGroup endpoint.id) fun _ => ?_
  refine .read_bind Table.returns_getAll_mapError fun edgeStacks hstacks => ?_
  subst hstacks
  refine .move_bind (ensures_dropFromEdgeStack endpoint.id) fun _ => ?_
  refine .read_bind Table.returns_getAll_mapError fun registries hregistries => ?_
  subst hregistries
  refine (ensures_dropFromRegistry endpoint.id).conseq fun _ s' hs' => ?_
  exact ⟨endpoint, hget, htags, hs'⟩

end Inventory

end Portainer
