import Portainer.Inventory.Helpers.Tags
/-!
# Tag references — both directions, along every run

Endpoints and groups list tags, tags name endpoints and groups, and Edge
groups list tags that nothing names them back for. `KeepsTagReferences` is
what a request must bring along for the references to be sound after it:
tags that are there, and where it changes references, that it is not cut
short in between. Along such requests they are sound (`tagReferences_of_run`).
-/

namespace Portainer

open Action (Meets Keeps Frames Runs)
open Tunnel (isEdge)

namespace Inventory

open Table

variable {services : Services} {s s' : Server} {t : TagID}

/-! ## What the references are -/

/-- **Tags and what carries them refer to each other**, and every tag that is
listed exists. -/
structure TagReferences (s : Server) : Prop where
  endpoints : ∀ t tag i e, s.dataStore.tag.get? t = some tag → s.dataStore.endpoint.get? i = some e →
    (t ∈ e.tagIDs ↔ i ∈ tag.endpoints)
  endpointGroups : ∀ t tag i g, s.dataStore.tag.get? t = some tag →
    s.dataStore.endpointGroup.get? i = some g → (t ∈ g.tagIDs ↔ i ∈ tag.endpointGroups)
  endpointTags : ∀ i e, s.dataStore.endpoint.get? i = some e → ∀ t ∈ e.tagIDs, HasTag s t
  endpointGroupTags : ∀ i g, s.dataStore.endpointGroup.get? i = some g → ∀ t ∈ g.tagIDs, HasTag s t
  edgeGroupTags : ∀ i g, s.dataStore.edgeGroup.get? i = some g → ∀ t ∈ g.tagIDs, HasTag s t

theorem Tagged.edgeGroupTags {i : EdgeGroupID} {g : EdgeGroup} (hs : Tagged s)
    (h : s.dataStore.edgeGroup.get? i = some g) : ∀ t ∈ g.tagIDs, HasTag s t := by
  intro t ht
  have hlisted : (tagging s).edgeGroups i = some g.tagIDs := by simp [tagging, h]
  exact hasTag_iff_endpoints.mpr (hs.edgeGroups i _ hlisted t ht)

theorem Tagged.references (hs : Tagged s) : TagReferences s where
  endpoints := by
    intro t tag i e htag he
    have hagree := hs.endpoints i t
    rwa [Links.lists_of_listed (listed_endpoint he),
      Links.names_of_named (show (tagging s).endpoints.named t = some tag.endpoints by
        simp [tagging, htag])] at hagree
  endpointGroups := by
    intro t tag i g htag hg
    have hagree := hs.endpointGroups i t
    rwa [Links.lists_of_listed (listed_endpointGroup hg),
      Links.names_of_named (show (tagging s).endpointGroups.named t = some tag.endpointGroups by
        simp [tagging, htag])] at hagree
  endpointTags _ _ he := hs.endpointTags he
  endpointGroupTags _ _ hg := hs.endpointGroupTags hg
  edgeGroupTags _ _ hg := hs.edgeGroupTags hg

/-! ## Tags -/

theorem Tagged.createTag {name : String} (hs : Tagged s) :
    Tagged (Server.tag.change (fun b => b.nextSequence.put { id := b.next, name := name }) s) := by
  have hsame : ∀ t, ((tagging s).endpointGroups.named t).isSome =
      ((tagging s).endpoints.named t).isSome := fun t => by simp [tagging]
  refine tagged_of_eq (Tagging.Sound.withTag hs hsame) ?_
  refine Tagging.ext (Links.ext rfl (funext fun t => ?_)) (Links.ext rfl (funext fun t => ?_)) rfl rfl
    rfl rfl
  · exact Bucket.map_get?_put
  · exact Bucket.map_get?_put

theorem keeps_tagged_tagCreate {name : String} : Keeps (tagCreate name) Tagged := by
  refine .bind .require fun _ => .bind keeps_getAll fun _ => .bind .require fun _ =>
    .bind (keeps_createObject fun s id hs hid => ?_) fun _ => .pure
  subst hid
  exact hs.createTag

/-- The tag is listed at most once wherever it is. -/
structure ListedOnce (s : Server) (t : TagID) : Prop where
  endpoint : ∀ i e, s.dataStore.endpoint.get? i = some e → e.tagIDs.count t ≤ 1
  endpointGroup : ∀ i g, s.dataStore.endpointGroup.get? i = some g → g.tagIDs.count t ≤ 1
  edgeGroup : ∀ i g, s.dataStore.edgeGroup.get? i = some g → g.tagIDs.count t ≤ 1

/-- **A tag that is listed at most once** leaves no reference behind. -/
theorem Tagged.without {tag : Tag} (hs : Tagged s) (hs' : TagGone t tag s s') (h : ListedOnce s t) :
    Tagged s' := by
  have hdrop : ∀ l : List TagID, l.count t ≤ 1 → ∀ k, k ∈ removeFirst l t ↔ k ∈ l ∧ k ≠ t := by
    intro l hl k
    rw [(removeFirst_perm_filter hl).mem_iff]
    simp
  refine tagged_of_eq (Tagging.Sound.withoutTag hs t (removeFirst · t) ?_) ?_
  · rintro l (⟨i, hl⟩ | ⟨i, hl⟩ | ⟨i, hl⟩)
    · obtain ⟨e, he, rfl⟩ := Option.map_eq_some_iff.mp hl
      exact hdrop _ (h.endpoint i e he)
    · obtain ⟨g, hg, rfl⟩ := Option.map_eq_some_iff.mp hl
      exact hdrop _ (h.endpointGroup i g hg)
    · obtain ⟨g, hg, rfl⟩ := Option.map_eq_some_iff.mp hl
      exact hdrop _ (h.edgeGroup i g hg)
  · refine Tagging.ext (Links.ext (funext fun i => ?_) (funext fun k => ?_))
      (Links.ext (funext fun i => ?_) (funext fun k => ?_)) (funext fun i => ?_) hs'.sequence.1
      hs'.sequence.2 ?_
    · simp only [tagging, Tagging.withoutTag, Links.dissolve, hs'.endpoint, Option.map_map]
      rfl
    · simp only [tagging, Tagging.withoutTag, Links.dissolve, hs'.tags]
      exact Bucket.map_get?_delete
    · simp only [tagging, Tagging.withoutTag, Links.dissolve, hs'.endpointGroup, Option.map_map]
      rfl
    · simp only [tagging, Tagging.withoutTag, Links.dissolve, hs'.tags]
      exact Bucket.map_get?_delete
    · simp only [tagging, Tagging.withoutTag, hs'.edgeGroup, Option.map_map]
      rfl
    · simp only [tagging, Tagging.withoutTag, hs'.tags]
      rfl

/-- The relations that the deletion of a tag brings up to date are there. -/
def HasRelations (s : Server) (t : TagID) : Prop :=
  ∀ tag, s.dataStore.tag.get? t = some tag → ∀ e ∈ s.dataStore.endpoint.all, isTagged tag e = true →
    (s.dataStore.endpointRelation.get? e.id).isSome ∧
      (s.dataStore.endpointGroup.get? e.groupID).isSome

theorem runs_tagged_tagDelete {calm : Prop} (hs : Tagged s) (honce : ListedOnce s t)
    (hrelations : calm → HasRelations s t) : Runs calm (tagDelete t) s (fun _ => Tagged) Tagged := by
  cases htag : s.dataStore.tag.get? t with
  | none =>
    refine .read_bind (P := fun _ => False) ((runs_getObject_mapError fun _ _ => hs).conseq
      (fun tag s' h => ?_) fun _ _ he => he) nofun
    rw [show (Server.tag.bucket s.dataStore).get? t = none from htag] at h
    nomatch h.2
  | some tag =>
    exact (runs_tagDelete hs htag fun hc => hrelations hc tag htag).conseq
      (fun _ _ h => hs.without h honce) fun _ _ he => he

/-- A tag that is not there is not deleted. -/
theorem keeps_tagDelete_of_missing (h : ¬ HasTag s t) :
    Keeps (tagDelete t) (tagging · = tagging s) := by
  refine .bind_of (Q := fun _ => False) (fun R => .mapError (Keeps.lookup_of (fun s' tag hs' hget =>
    h ?_) R)) nofun
  rw [hasTag_iff_endpoints, ← hs', ← hasTag_iff_endpoints]
  exact Option.isSome_of_eq_some hget

/-! ## Edge groups -/

/-- Sound references, with these ones between endpoints and tags. -/
structure TaggedWith (L : Links EndpointID TagID) (s : Server) : Prop where
  tagged : Tagged s
  links : (tagging s).endpoints = L

variable {L : Links EndpointID TagID}

theorem TaggedWith.congr (h : TaggedWith L s) (hsame : tagging s' = tagging s) : TaggedWith L s' :=
  ⟨h.tagged.congr hsame, hsame ▸ h.links⟩

theorem TaggedWith.put_edgeGroup {g : EdgeGroup} (h : TaggedWith L s)
    (hg : ∀ t ∈ g.tagIDs, (L.named t).isSome) :
    TaggedWith L (Server.edgeGroup.change (·.put g) s) := by
  refine ⟨tagged_of_eq (h.tagged.withEdgeGroup (o := some g.tagIDs) ?_) (tagging_put_edgeGroup g), h.links⟩
  rw [h.links]
  exact hg

/-- The counter of the Edge groups is no part of the view. -/
theorem TaggedWith.create_edgeGroup {g : EdgeGroup} (h : TaggedWith L s)
    (hg : ∀ t ∈ g.tagIDs, (L.named t).isSome) :
    TaggedWith L (Server.edgeGroup.change (fun b => b.nextSequence.put g) s) :=
  (h.put_edgeGroup hg).congr
    (Tagging.ext rfl rfl (funext fun _ => Bucket.map_get?_put.trans Bucket.map_get?_put.symm) rfl rfl rfl)

/-- The tags of a dynamic group that gets past the check are there. -/
def OffersTags (s : Server) (name : String) (dynamic : Bool) (tagIDs : List TagID)
    (endpoints : List EndpointID) : Prop :=
  validateEdgeGroup name dynamic tagIDs endpoints = none → dynamic = true → ∀ t ∈ tagIDs, HasTag s t

theorem keeps_tagged_edgeGroupCreate {payload : EdgeGroupCreatePayload} (hL : (tagging s).endpoints = L)
    (h : OffersTags s payload.name payload.dynamic payload.tagIDs payload.endpoints) :
    Keeps (edgeGroupCreate payload) (TaggedWith L) := by
  unfold edgeGroupCreate
  split
  · exact .fail
  · rename_i hvalid
    refine .bind keeps_getAll fun _ => .bind .require fun _ => .bind keeps_groupEndpointIDs fun _ =>
      .bind (keeps_createObject fun s' id hs' _ => hs'.create_edgeGroup ?_) fun _ => .pure
    intro t ht
    dsimp only at ht
    split at ht
    · rename_i hdynamic
      rw [← hL, ← hasTag_iff_endpoints]
      exact h hvalid hdynamic t ht
    · nomatch ht

theorem keeps_tagged_updateEndpoint {i : EndpointID} {g : String → HandlerError} :
    Keeps ((updateEndpoint i).mapError g) (TaggedWith L) :=
  .mapError (.bind .lookup fun _ => .bind .lookup fun _ => .bind .lookup fun _ =>
    .bind .query fun _ => .bind .query fun _ => .call fun _ hs => hs.congr rfl)

theorem keeps_tagged_edgeGroupUpdate {id : EdgeGroupID} {payload : EdgeGroupUpdatePayload}
    (hL : (tagging s).endpoints = L)
    (h : OffersTags s payload.name payload.dynamic payload.tagIDs payload.endpoints) :
    Keeps (edgeGroupUpdate id payload) (TaggedWith L) := by
  unfold edgeGroupUpdate
  split
  · exact .fail
  · rename_i hvalid
    refine .bind_of (Q := fun g => ∀ t ∈ g.tagIDs, (L.named t).isSome) (fun R => .mapError
      (Keeps.lookup_of (fun s' g hs' hget t ht => ?_) R)) fun g hg => ?_
    · rw [← hs'.links, ← hasTag_iff_endpoints]
      exact hs'.tagged.edgeGroupTags hget t ht
    · refine .bind keeps_getAll fun _ => .bind .require fun _ => .bind keeps_getAll fun _ =>
        .bind keeps_getAll fun _ => .bind keeps_groupEndpointIDs fun _ =>
        .bind (keeps_updateObject fun s' hs' => hs'.put_edgeGroup fun t ht => ?_) fun _ =>
        .bind (.forM fun _ _ => keeps_tagged_updateEndpoint) fun _ => .pure
      dsimp only at ht
      split at ht
      · rename_i hdynamic
        rw [← hL, ← hasTag_iff_endpoints]
        exact h hvalid hdynamic t ht
      · exact hg t ht

theorem keeps_tagged_edgeGroupDelete {id : EdgeGroupID} : Keeps (edgeGroupDelete id) Tagged := by
  refine .bind keeps_getObject fun _ => .bind keeps_getAll fun _ => .bind .require fun _ =>
    keeps_deleteObject fun s hs => ?_
  exact tagged_of_eq (hs.withEdgeGroup (o := none) nofun) (tagging_delete_edgeGroup id)

/-! ## Runs -/

/-- The request changes references between tags and what carries them. -/
def Retags (s : Server) : Request → Prop
  | .endpointCreate _ => True
  | .endpointUpdate id payload => RetagsEndpoint s id payload
  | .endpointDelete id => CarriesTags s id
  | .endpointGroupCreate payload => payload.tagIDs ≠ []
  | .endpointGroupUpdate id payload => RetagsEndpointGroup s id payload
  | .endpointGroupDelete id => GroupCarriesTags s id
  | .tagDelete id => HasTag s id
  | _ => False

/-- What a request that changes references refers to is there: the tags of
its payload, and whatever it looks up between its first write and its
last. -/
def Refers (services : Services) (s : Server) : Request → Prop
  | .endpointCreate payload => Accepted services payload → ∀ t ∈ payload.tagIDs.getD [], HasTag s t
  | .endpointUpdate id payload => RetagsEndpoint s id payload →
      (∀ t ∈ payload.tagIDs.getD [], HasTag s t) ∧ ∀ e, s.dataStore.endpoint.get? id = some e →
        payload.updateAuthorizations e = true → Cleans s (payload.withFields e)
  | .endpointGroupCreate payload => payload.tagIDs ≠ [] →
      (∀ t ∈ payload.tagIDs, HasTag s t) ∧ ∀ e ∈ s.dataStore.endpoint.all,
        e.id ∈ payload.associatedEndpoints → isEdge e.type = true →
          (s.dataStore.endpointRelation.get? e.id).isSome
  | .endpointGroupUpdate id payload => RetagsEndpointGroup s id payload →
      (∀ t ∈ payload.tagIDs.getD [], HasTag s t) ∧ ∀ g, s.dataStore.endpointGroup.get? id = some g →
        payload.updateAuthorizations g = true → CleansMembers s id
  | .endpointGroupDelete id => GroupCarriesTags s id →
      ∀ e ∈ s.dataStore.endpoint.all, e.groupID = id → isEdge e.type = true →
        (s.dataStore.endpointRelation.get? e.id).isSome
  | .tagDelete t => ListedOnce s t ∧ HasRelations s t
  | .edgeGroupCreate payload =>
      OffersTags s payload.name payload.dynamic payload.tagIDs payload.endpoints
  | .edgeGroupUpdate _ payload =>
      OffersTags s payload.name payload.dynamic payload.tagIDs payload.endpoints
  | _ => True

/-- **The request keeps the references sound**: where it changes any, no call
fails. -/
structure KeepsTagReferences (services : Services) (s : Server) (a : Attempt) : Prop where
  reliable : Retags s a.request → ∀ k, (a.sys s).Reliable k
  refers : Refers services s a.request

theorem runs_discard {α : Type} {x : Handler Server α} {calm : Prop} {Q E : Server → Prop}
    (h : Runs calm x s (fun _ => Q) E) : Runs calm (discard x) s (fun _ => Q) E :=
  h.bind fun _ _ hs => .pure hs

/-- **One request, successful or not.** -/
theorem Tagged.step {a : Attempt} (hs : Tagged s) (hC : KeepsTagReferences services s a)
    (hstep : (machine services).step s a = some s') : Tagged s' := by
  obtain rfl := Option.some.inj hstep
  obtain ⟨request, faults⟩ := a
  obtain ⟨hreliable, hrefers⟩ := hC
  have hruns : ∀ {x : Handler Server Unit}, Retags s request →
      Runs True x s (fun _ => Tagged) Tagged → Tagged (x.run ⟨s, faults⟩).2.store :=
    fun hretags h => h.store rfl (hreliable hretags)
  have hframe : ∀ {x : Handler Server Unit}, Frames x tagging → Tagged (x.run ⟨s, faults⟩).2.store :=
    fun h => hs.congr (h.run ⟨s, faults⟩)
  have hkeeps : ∀ {x : Handler Server Unit}, Keeps x (tagging · = tagging s) →
      Tagged (x.run ⟨s, faults⟩).2.store := fun h => hs.congr (h.store rfl)
  have hmeets : ∀ {x : Handler Server Unit}, Meets (fun _ => False) (tagging · = tagging s) x
      (fun _ => Tagged) (fun _ => Tagged) → Tagged (x.run ⟨s, faults⟩).2.store := fun h => h.store rfl
  have hedge : ∀ {x : Handler Server Unit}, Keeps x (TaggedWith (tagging s).endpoints) →
      Tagged (x.run ⟨s, faults⟩).2.store := fun h => (h.store ⟨hs, rfl⟩).tagged
  cases request with
  | endpointCreate payload =>
    exact hruns trivial (runs_discard (runs_endpointCreate hs hrefers))
  | endpointUpdate id payload =>
    by_cases hretags : RetagsEndpoint s id payload
    · exact hruns hretags (runs_discard (runs_endpointUpdate hs (fun _ h => (hrefers h).1)
        fun _ h => (hrefers h).2))
    · exact hkeeps (keeps_discard (keeps_endpointUpdate hretags))
  | endpointDelete id =>
    by_cases hcarries : CarriesTags s id
    · exact hruns hcarries (runs_endpointDelete hs)
    · exact hmeets (meets_endpointDelete hs hcarries)
  | endpointGroupCreate payload =>
    by_cases htags : payload.tagIDs = []
    · exact hmeets (meets_discard (meets_tagging_endpointGroupCreate hs htags))
    · exact hruns htags (runs_discard (runs_endpointGroupCreate hs (fun _ => (hrefers htags).1)
        fun _ => (hrefers htags).2))
  | endpointGroupUpdate id payload =>
    by_cases hretags : RetagsEndpointGroup s id payload
    · exact hruns hretags (runs_discard (runs_endpointGroupUpdate hs (fun _ h => (hrefers h).1)
        fun _ h => (hrefers h).2))
    · exact hkeeps (keeps_discard (keeps_tagging_endpointGroupUpdate hretags))
  | endpointGroupDelete id =>
    by_cases hcarries : GroupCarriesTags s id
    · exact hruns hcarries (runs_endpointGroupDelete hs fun _ => hrefers hcarries)
    · exact hmeets (meets_endpointGroupDelete hs hcarries)
  | endpointGroupAddEndpoint id endpointID => exact hkeeps keeps_tagging_addEndpoint
  | endpointGroupDeleteEndpoint id endpointID => exact hkeeps keeps_tagging_deleteEndpoint
  | tagCreate name => exact (keeps_discard keeps_tagged_tagCreate).store hs
  | tagDelete t =>
    by_cases hthere : HasTag s t
    · exact hruns hthere (runs_tagged_tagDelete hs hrefers.1 fun _ => hrefers.2)
    · exact hkeeps (keeps_tagDelete_of_missing hthere)
  | edgeGroupCreate payload => exact hedge (keeps_discard (keeps_tagged_edgeGroupCreate rfl hrefers))
  | edgeGroupUpdate id payload => exact hedge (keeps_discard (keeps_tagged_edgeGroupUpdate rfl hrefers))
  | edgeGroupDelete id => exact keeps_tagged_edgeGroupDelete.store hs
  | edgeStackCreate payload now =>
    exact hframe (frames_discard (frames_edgeStackCreate.mono tagging fun _ => rfl))
  | edgeStackUpdate id payload =>
    exact hframe (frames_discard (frames_edgeStackUpdate.mono tagging fun _ => rfl))
  | edgeStackDelete id => exact hframe (frames_edgeStackDelete.mono tagging fun _ => rfl)
  | edgeStackStatusUpdate id edgeIdentifier payload =>
    exact hframe (frames_discard (frames_edgeStackStatusUpdate.mono tagging fun _ => rfl))

/-- **Tag references are bidirectional** along requests that keep them. -/
theorem tagReferences_of_run {attempts : List Attempt} (hs : Tagged s)
    (hC : (machine services).Along (KeepsTagReferences services) s attempts)
    (hrun : (machine services).run s attempts = some s') : TagReferences s' := by
  have h : Tagged s' := Machine.run_invariant (fun _ _ _ h hC hstep => Tagged.step h hC hstep) hs hC hrun
  exact h.references

/-- A new server has sound references. -/
theorem tagged_newServer : Tagged newServer := by
  have hlisted : ∀ i t, ¬ (tagging newServer).endpoints.Lists i t := by
    intro i t
    simp [Links.Lists, tagging, newServer]
  have hnamed : ∀ i t, ¬ (tagging newServer).endpoints.Names t i ∧
      ¬ (tagging newServer).endpointGroups.Names t i := by
    intro i t
    simp [Links.Names, tagging, newServer]
  have hgroup : ∀ i l, (tagging newServer).endpointGroups.listed i = some l → i = 1 ∧ l = [] := by
    intro i l hl
    simp only [tagging, newServer, Bucket.map_get?_put] at hl
    split at hl
    · rename_i hi
      exact ⟨hi.symm, (Option.some.inj hl).symm⟩
    · simp at hl
  refine ⟨fun i t => iff_of_false (hlisted i t) (hnamed i t).1, fun i t => iff_of_false ?_ (hnamed i t).2,
    fun i l hl => ?_, rfl, fun i hi => ?_, fun i hi => ?_, fun t ht => ?_⟩
  · rintro ⟨l, hl, ht⟩
    rw [(hgroup i l hl).2] at ht
    cases ht
  · simp [tagging, newServer] at hl
  · simp [tagging, newServer] at hi
  · obtain ⟨l, hl⟩ := Option.isSome_iff_exists.mp hi
    rw [(hgroup i l hl).1]
    exact Int.le_refl 1
  · simp [tagging, newServer] at ht

/-- A tag, an Edge group of it and an endpoint that carries it. -/
def taggedAttempts : List Attempt :=
  [⟨.tagCreate "blue", fun _ => []⟩,
    ⟨.edgeGroupCreate { name := "blues", dynamic := true, tagIDs := [1] }, fun _ => []⟩,
    ⟨.endpointCreate { edgeAgentPayload with tagIDs := some [1] }, fun _ => []⟩]

theorem tagReferences_of_run_tagged : ∃ s', (machine plainServices).run newServer taggedAttempts = some s' ∧
    TagReferences s' := by
  have hC : (machine plainServices).Along (KeepsTagReferences plainServices) newServer taggedAttempts := by
    refine ⟨⟨nofun, trivial⟩, fun s₁ h₁ => ?_⟩
    cases h₁
    refine ⟨⟨nofun, fun _ _ => by decide⟩, fun s₂ h₂ => ?_⟩
    cases h₂
    exact ⟨⟨fun _ _ _ ho => (List.not_mem_nil ho).elim, fun _ => by decide⟩, fun _ _ => trivial⟩
  exact ⟨_, rfl, tagReferences_of_run tagged_newServer hC rfl⟩

/-- **A tag that is listed twice** is taken off once when it is deleted, so the
endpoint lists a tag that is gone. -/
theorem not_tagReferences_of_twice : ∃ s', (successes plainServices).run newServer
      [⟨.tagCreate "blue", fun _ => []⟩,
        ⟨.endpointCreate { edgeAgentPayload with tagIDs := some [1, 1] }, fun _ => []⟩,
        ⟨.tagDelete 1, fun _ => []⟩] = some s' ∧ ¬ TagReferences s' := by
  refine ⟨_, rfl, fun h => ?_⟩
  exact absurd (h.endpointTags 1 _ rfl 1 (by decide)) (by decide)

end Inventory

end Portainer
