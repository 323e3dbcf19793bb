import Portainer.Inventory.Helpers.EdgeStacks
import Portainer.Inventory.TagReferences
/-!
# Endpoints by tags — the lists agree

The list of a dynamic Edge group is computed from the sets that the tags
keep, from the tags of each endpoint and its group, and by counting the
tags that are missing. Each way is brought to one predicate, `Matches`,
and where the references are sound the lists are the same.
`matchers_agree` has the other half as well: whether an endpoint is among those of
an Edge stack and whether the stack is among those of the endpoint.
`edgeGroupList_agrees` has the same for the listing of the groups.
-/

namespace Portainer

open Action (Returns)
open Tunnel (isEdge)

namespace Inventory

variable {s : Server} {tagIDs : List TagID} {endpoints : List Endpoint} {endpointGroups : List EndpointGroup}
variable {endpoint : Endpoint} {i : EndpointID} {t : TagID} {partialMatch : Bool}

/-- The tags of an endpoint: its own and those of its group. -/
def endpointTags (endpoint : Endpoint) (endpointGroup : EndpointGroup) : Finset TagID :=
  endpoint.tagIDs.toFinset ∪ endpointGroup.tagIDs.toFinset

/-- **What it is to match tags**: to have one of them, or all of them. -/
def Matches (tagIDs : List TagID) (partialMatch : Bool) (tags : Finset TagID) : Prop :=
  if partialMatch then ∃ t ∈ tagIDs, t ∈ tags else ∀ t ∈ tagIDs, t ∈ tags

instance {tags : Finset TagID} : Decidable (Matches tagIDs partialMatch tags) := by
  unfold Matches
  infer_instance

/-- The endpoints of the Edge that match, in the order of the store. -/
def matching (s : Server) (tagIDs : List TagID) (partialMatch : Bool) : List EndpointID :=
  (s.dataStore.endpoint.all.filter fun endpoint => isEdge endpoint.type ∧ Matches tagIDs partialMatch
    (endpointTags endpoint (associatedGroup endpoint s.dataStore.endpointGroup.all))).map Endpoint.id

/-! ## By the tags of an endpoint -/

/-- `edgeGroupRelatedToEndpoint` of a dynamic group. -/
theorem edgeGroupRelatedToEndpoint_iff {edgeGroup : EdgeGroup} {endpointGroup : EndpointGroup}
    (h : edgeGroup.dynamic = true) : edgeGroupRelatedToEndpoint edgeGroup endpoint endpointGroup = true ↔
      Matches edgeGroup.tagIDs edgeGroup.partialMatch (endpointTags endpoint endpointGroup) := by
  unfold edgeGroupRelatedToEndpoint Matches
  rw [if_pos h]
  by_cases hpartial : edgeGroup.partialMatch
  · rw [if_pos hpartial, if_pos hpartial, decide_eq_true_eq, Finset.card_ne_zero]
    constructor
    · rintro ⟨t, ht⟩
      obtain ⟨htags, -, hgroup⟩ := Finset.mem_filter.mp ht
      exact ⟨t, List.mem_toFinset.mp hgroup, htags⟩
    · rintro ⟨t, hgroup, htags⟩
      exact ⟨t, Finset.mem_filter.mpr ⟨htags, htags, List.mem_toFinset.mpr hgroup⟩⟩
  · rw [if_neg hpartial, if_neg hpartial, Tags.contains, decide_eq_true_eq]
    -- as many of the endpoint's tags are tags of the group as the group has
    have hinter : (endpointTags endpoint endpointGroup).filter (· ∈ edgeGroup.tagIDs.toFinset) ⊆
        edgeGroup.tagIDs.toFinset := fun t ht => (Finset.mem_filter.mp ht).2
    constructor
    · intro hcard t ht
      have heq := Finset.eq_of_subset_of_card_le hinter hcard.ge
      have hmem : t ∈ edgeGroup.tagIDs.toFinset := List.mem_toFinset.mpr ht
      rw [← heq] at hmem
      exact (Finset.mem_filter.mp hmem).1
    · intro hall
      refine congrArg Finset.card (hinter.antisymm fun t ht => ?_)
      exact Finset.mem_filter.mpr ⟨hall t (List.mem_toFinset.mp ht), ht⟩

theorem endpointPartialMatchTags_iff {endpointGroup : EndpointGroup} :
    endpointPartialMatchTags endpoint endpointGroup tagIDs = true ↔
      Matches tagIDs true (endpointTags endpoint endpointGroup) := by
  unfold endpointPartialMatchTags Matches endpointTags
  rw [if_pos rfl, Bool.or_eq_true, List.any_eq_true, List.any_eq_true]
  simp only [decide_eq_true_eq, List.mem_toFinset, Finset.mem_union]
  constructor
  · rintro (⟨t, hown, ht⟩ | ⟨t, hgroup, ht⟩)
    · exact ⟨t, ht, .inl hown⟩
    · exact ⟨t, ht, .inr hgroup⟩
  · rintro ⟨t, ht, hown | hgroup⟩
    · exact .inl ⟨t, hown, ht⟩
    · exact .inr ⟨t, hgroup, ht⟩

/-- Erasing the elements of a list leaves the others. -/
theorem mem_foldl_erase {l : List TagID} {missing : Finset TagID} :
    t ∈ l.foldl Finset.erase missing ↔ t ∈ missing ∧ t ∉ l := by
  induction l generalizing missing with
  | nil => simp
  | cons t' l ih =>
    rw [List.foldl_cons, ih, Finset.mem_erase, List.mem_cons, not_or]
    constructor
    · rintro ⟨⟨hne, hmem⟩, hnot⟩
      exact ⟨hmem, hne, hnot⟩
    · rintro ⟨hmem, hne, hnot⟩
      exact ⟨⟨hne, hmem⟩, hnot⟩

theorem endpointFullMatchTags_iff {endpointGroup : EndpointGroup} :
    endpointFullMatchTags endpoint endpointGroup tagIDs = true ↔
      Matches tagIDs false (endpointTags endpoint endpointGroup) := by
  unfold endpointFullMatchTags Matches endpointTags
  rw [if_neg nofun, decide_eq_true_eq, Finset.card_eq_zero, Finset.eq_empty_iff_forall_notMem]
  refine forall_congr' fun t => ?_
  rw [mem_foldl_erase, mem_foldl_erase, List.mem_toFinset, Finset.mem_union, List.mem_toFinset,
    List.mem_toFinset]
  constructor
  · intro hnot ht
    by_contra hneither
    obtain ⟨hown, hgroup⟩ := not_or.mp hneither
    exact hnot ⟨⟨ht, hown⟩, hgroup⟩
  · rintro himp ⟨⟨ht, hown⟩, hgroup⟩
    exact (himp ht).elim hown hgroup

/-- **The tag filter of the endpoint list** keeps those that match. -/
theorem filteredEndpointsByTags_eq : filteredEndpointsByTags endpoints tagIDs endpointGroups partialMatch =
    endpoints.filter fun endpoint =>
      Matches tagIDs partialMatch (endpointTags endpoint (associatedGroup endpoint endpointGroups)) := by
  refine List.filter_congr fun endpoint _ => ?_
  rw [Bool.eq_iff_iff, decide_eq_true_eq]
  cases partialMatch with
  | true => exact endpointPartialMatchTags_iff
  | false => exact endpointFullMatchTags_iff

/-- Repeated tags make no difference. -/
theorem matches_congr {tagIDs' : List TagID} {tags : Finset TagID} (h : ∀ t, t ∈ tagIDs' ↔ t ∈ tagIDs) :
    Matches tagIDs' partialMatch tags ↔ Matches tagIDs partialMatch tags := by
  unfold Matches
  simp only [h]

/-! ## By the sets of the tags -/

theorem mem_setsUnion {sets : List (Finset EndpointID)} : i ∈ setsUnion sets ↔ ∃ set ∈ sets, i ∈ set := by
  have hfold : ∀ union : Finset EndpointID, i ∈ sets.foldl (fun unionSet set => unionSet ∪ set) union ↔
      i ∈ union ∨ ∃ set ∈ sets, i ∈ set := by
    induction sets with
    | nil => simp
    | cons set sets ih =>
      intro union
      rw [List.foldl_cons, ih, Finset.mem_union, List.exists_mem_cons_iff, or_assoc]
  rw [setsUnion, hfold]
  exact or_iff_right (Finset.notMem_empty i)

theorem mem_setsIntersection {sets : List (Finset EndpointID)} (h : sets ≠ []) :
    i ∈ setsIntersection sets ↔ ∀ set ∈ sets, i ∈ set := by
  have hfold : ∀ (sets : List (Finset EndpointID)) (intersection : Finset EndpointID),
      i ∈ sets.foldl (fun intersectionSet set => intersectionSet.filter (· ∈ set)) intersection ↔
        i ∈ intersection ∧ ∀ set ∈ sets, i ∈ set := by
    intro sets
    induction sets with
    | nil => simp
    | cons set sets ih =>
      intro intersection
      rw [List.foldl_cons, ih, Finset.mem_filter, List.forall_mem_cons, and_assoc]
  rcases sets with _ | ⟨first, sets⟩
  · exact (h rfl).elim
  · rw [setsIntersection, hfold]
    exact and_iff_right_of_imp fun hall => hall first List.mem_cons_self

/-- The endpoints of a group. -/
theorem mem_groupEndpoints {g : EndpointGroupID} :
    i ∈ groupEndpoints endpoints g ↔ ∃ e ∈ endpoints, e.groupID = g ∧ e.id = i := by
  unfold groupEndpoints
  simp [and_assoc]

/-! ## The store -/

/-- **Sound references of tags**: each direction agrees with the other, and
the groups that a tag names are there. -/
structure SoundTags (s : Server) : Prop extends TagReferences s where
  groups : ∀ t tag, s.dataStore.tag.get? t = some tag → ∀ g ∈ tag.endpointGroups,
    (s.dataStore.endpointGroup.get? g).isSome

/-- The group of an endpoint, as the store has it. -/
theorem associatedGroup_eq : associatedGroup endpoint s.dataStore.endpointGroup.all =
    (s.dataStore.endpointGroup.get? endpoint.groupID).getD { id := 0 } := by
  rw [← Bucket.find?_all]
  unfold associatedGroup
  congr 2
  exact funext fun g => decide_eq_decide.mpr eq_comm

/-- **The endpoints of a tag**, with those of its groups, are the endpoints
that carry it, on their own or by their group. -/
theorem mem_tagEndpoints {tag : Tag} (hs : SoundTags s) (htag : s.dataStore.tag.get? t = some tag)
    (he : endpoint ∈ s.dataStore.endpoint.all) : endpoint.id ∈ tagEndpoints s.dataStore.endpoint.all tag ↔
      t ∈ endpointTags endpoint (associatedGroup endpoint s.dataStore.endpointGroup.all) := by
  have hstored : s.dataStore.endpoint.get? endpoint.id = some endpoint := Bucket.mem_all.mp he
  unfold tagEndpoints endpointTags
  rw [Finset.mem_union, Finset.mem_union, List.mem_toFinset, List.mem_toFinset,
    hs.endpoints t tag endpoint.id endpoint htag hstored]
  refine or_congr Iff.rfl ?_
  have hgroups : (endpoint.id ∈ tag.endpointGroups.biUnion (groupEndpoints s.dataStore.endpoint.all)) ↔
      endpoint.groupID ∈ tag.endpointGroups := by
    rw [Finset.mem_biUnion]
    constructor
    · rintro ⟨g, hg, hmem⟩
      obtain ⟨e, he', rfl, hid⟩ := mem_groupEndpoints.mp hmem
      obtain rfl : e = endpoint := Bucket.eq_of_mem_all he' he hid
      exact hg
    · exact fun hg => ⟨_, hg, mem_groupEndpoints.mpr ⟨endpoint, he, rfl, rfl⟩⟩
  rw [hgroups, associatedGroup_eq]
  cases hgroup : s.dataStore.endpointGroup.get? endpoint.groupID with
  | none =>
    -- no tag names a group that is not there
    refine iff_of_false (fun hmem => ?_) List.not_mem_nil
    have hsome := hs.groups t tag htag _ hmem
    rw [hgroup] at hsome
    cases hsome
  | some g => exact (hs.endpointGroups t tag endpoint.groupID g htag hgroup).symm

/-- The tags that are read are the ones that are stored. -/
theorem returns_tagsOf : Returns (tagsOf tagIDs) s fun tags =>
    List.Forall₂ (fun t tag => s.dataStore.tag.get? t = some tag) tagIDs tags := by
  induction tagIDs with
  | nil => exact .pure .nil
  | cons t tagIDs ih =>
    refine Returns.bind (Q := fun tag => s.dataStore.tag.get? t = some tag) (.lookup fun _ htag => htag) fun tag htag => ?_
    exact ih.bind fun tags htags => .pure (.cons htag htags)

theorem tagsOf_run_faultless (h : ∀ t ∈ tagIDs, HasTag s t) :
    ∃ tags, (tagsOf tagIDs).run (.faultless s) = (.ok tags, .faultless s) := by
  induction tagIDs with
  | nil => exact ⟨[], rfl⟩
  | cons t tagIDs ih =>
    obtain ⟨tag, htag⟩ := Option.isSome_iff_exists.mp (h t List.mem_cons_self)
    obtain ⟨tags, htags⟩ := ih fun t ht => h t (List.mem_cons_of_mem _ ht)
    have hread : (Server.tag.getObject t).run (.faultless s) = (.ok tag, .faultless s) :=
      Action.lookup_run_faultless htag
    exact ⟨tag :: tags, (Action.bind_run_of_ok hread).trans (Action.bind_run_of_ok htags)⟩

/-- The sets of tags that are stored hold the endpoints that match. -/
theorem mem_sets_iff {tags : List Tag} (hs : SoundTags s) (hne : tagIDs ≠ [])
    (htags : List.Forall₂ (fun t tag => s.dataStore.tag.get? t = some tag) tagIDs tags)
    (he : endpoint ∈ s.dataStore.endpoint.all) :
    (endpoint.id ∈ if partialMatch then setsUnion (tags.map (tagEndpoints s.dataStore.endpoint.all))
      else setsIntersection (tags.map (tagEndpoints s.dataStore.endpoint.all))) ↔
      Matches tagIDs partialMatch
        (endpointTags endpoint (associatedGroup endpoint s.dataStore.endpointGroup.all)) := by
  unfold Matches
  cases partialMatch with
  | true =>
    rw [if_pos rfl, if_pos rfl, mem_setsUnion]
    clear hne
    induction htags with
    | nil => simp
    | cons htag htags ih =>
      rw [List.map_cons, List.exists_mem_cons_iff, List.exists_mem_cons_iff, ih, mem_tagEndpoints hs htag he]
  | false =>
    rw [if_neg nofun, if_neg nofun, mem_setsIntersection]
    · clear hne
      induction htags with
      | nil => simp
      | cons htag htags ih =>
        rw [List.map_cons, List.forall_mem_cons, List.forall_mem_cons, ih, mem_tagEndpoints hs htag he]
    · cases htags with
      | nil => exact (hne rfl).elim
      | cons => exact List.cons_ne_nil _ _

/-- **The list of a dynamic group** has the Edge endpoints that match. -/
theorem returns_getEndpointsByTags (partialMatch : Bool) (hs : SoundTags s) (hne : tagIDs ≠ []) :
    Returns (getEndpointsByTags tagIDs partialMatch) s (· = matching s tagIDs partialMatch) := by
  unfold getEndpointsByTags
  rw [if_neg (by simpa using hne)]
  refine Returns.bind (Q := (· = s.dataStore.endpoint.all)) (.query rfl) ?_
  rintro _ rfl
  refine returns_tagsOf.bind fun tags htags => .pure (congrArg (List.map Endpoint.id) ?_)
  refine List.filter_congr fun endpoint he => ?_
  rw [Bool.eq_iff_iff, Bool.and_eq_true, decide_eq_true_eq, decide_eq_true_eq, mem_sets_iff hs hne htags he,
    and_comm]

theorem getEndpointsByTags_run_faultless (partialMatch : Bool) (h : ∀ t ∈ tagIDs, HasTag s t) :
    ∃ ids, (getEndpointsByTags tagIDs partialMatch).run (.faultless s) = (.ok ids, .faultless s) := by
  unfold getEndpointsByTags
  by_cases hnil : tagIDs.isEmpty
  · rw [if_pos hnil]
    exact ⟨[], rfl⟩
  · rw [if_neg hnil]
    obtain ⟨tags, htags⟩ := tagsOf_run_faultless h
    exact ⟨_, (Action.bind_run_of_ok (Action.query_run_faultless _ _)).trans (Action.bind_run_of_ok htags)⟩

/-! ## The other lists -/

/-- **The endpoints related to a dynamic group** are those that match. -/
theorem edgeGroupRelatedEndpoints_eq {edgeGroup : EdgeGroup} (h : edgeGroup.dynamic = true) :
    edgeGroupRelatedEndpoints edgeGroup s.dataStore.endpoint.all s.dataStore.endpointGroup.all =
      matching s edgeGroup.tagIDs edgeGroup.partialMatch := by
  rw [edgeGroupRelatedEndpoints, if_pos h, matching]
  refine congrArg (List.map Endpoint.id) (List.filter_congr fun endpoint _ => ?_)
  rw [Bool.eq_iff_iff, Bool.and_eq_true, edgeGroupRelatedToEndpoint_iff h, decide_eq_true_eq]

/-- **The endpoints that the listing keeps** are those that match. -/
theorem filteredEndpointsByTags_all_eq {tagIDs' : List TagID} (h : ∀ t, t ∈ tagIDs' ↔ t ∈ tagIDs) :
    ((filteredEndpointsByTags s.dataStore.endpoint.all tagIDs' s.dataStore.endpointGroup.all partialMatch).filter
      (isEdge ·.type)).map Endpoint.id = matching s tagIDs partialMatch := by
  rw [filteredEndpointsByTags_eq, List.filter_filter, matching]
  refine congrArg (List.map Endpoint.id) (List.filter_congr fun endpoint _ => ?_)
  rw [Bool.eq_iff_iff, Bool.and_eq_true, decide_eq_true_eq, decide_eq_true_eq, matches_congr h]

theorem nodup_matching : (matching s tagIDs partialMatch).Nodup :=
  (s.dataStore.endpoint.nodup_keys_all).sublist (List.filter_sublist.map Endpoint.id)

/-! ## Edge stacks -/

/-- Which endpoints a stored group brings to a stack. -/
theorem mem_edgeGroupRelatedEndpoints {edgeGroup : EdgeGroup} (he : endpoint ∈ s.dataStore.endpoint.all) :
    endpoint.id ∈ edgeGroupRelatedEndpoints edgeGroup s.dataStore.endpoint.all s.dataStore.endpointGroup.all ↔
      (edgeGroup.dynamic = true → isEdge endpoint.type = true) ∧ edgeGroupRelatedToEndpoint edgeGroup endpoint
        (associatedGroup endpoint s.dataStore.endpointGroup.all) = true := by
  unfold edgeGroupRelatedEndpoints
  by_cases hdynamic : edgeGroup.dynamic
  · rw [if_pos hdynamic, List.mem_map]
    constructor
    · rintro ⟨e, hmem, hid⟩
      obtain ⟨he', hboth⟩ := List.mem_filter.mp hmem
      obtain rfl : e = endpoint := Bucket.eq_of_mem_all he' he hid
      obtain ⟨hedge, hrelated⟩ := Bool.and_eq_true_iff.mp hboth
      exact ⟨fun _ => hedge, hrelated⟩
    · rintro ⟨hedge, hrelated⟩
      exact ⟨endpoint, List.mem_filter.mpr ⟨he, Bool.and_eq_true_iff.mpr ⟨hedge hdynamic, hrelated⟩⟩, rfl⟩
  · rw [if_neg hdynamic, edgeGroupRelatedToEndpoint, if_neg hdynamic, decide_eq_true_eq]
    exact (and_iff_right fun hyes => (hdynamic hyes).elim).symm

/-- The stacks that an endpoint runs, of what is stored. -/
def relatedEdgeStacks (s : Server) (endpoint : Endpoint) : List EdgeStackID :=
  endpointRelatedEdgeStacks endpoint (associatedGroup endpoint s.dataStore.endpointGroup.all)
    s.dataStore.edgeGroup.all s.dataStore.edgeStack.all

/-- Which stacks an endpoint runs. -/
theorem mem_relatedEdgeStacks {stack : EdgeStack} (hstack : stack ∈ s.dataStore.edgeStack.all) :
    stack.id ∈ relatedEdgeStacks s endpoint ↔ ∃ i ∈ stack.edgeGroups, ∃ g, s.dataStore.edgeGroup.get? i = some g ∧
      edgeGroupRelatedToEndpoint g endpoint (associatedGroup endpoint s.dataStore.endpointGroup.all) = true := by
  generalize hgroup : associatedGroup endpoint s.dataStore.endpointGroup.all = endpointGroup
  have hset : ∀ i, i ∈ ((s.dataStore.edgeGroup.all.filter
      (edgeGroupRelatedToEndpoint · endpoint endpointGroup)).map EdgeGroup.id).toFinset ↔
      ∃ g, s.dataStore.edgeGroup.get? i = some g ∧ edgeGroupRelatedToEndpoint g endpoint endpointGroup = true := by
    intro i
    rw [List.mem_toFinset, List.mem_map]
    constructor
    · rintro ⟨g, hg, rfl⟩
      obtain ⟨hmem, hrelated⟩ := List.mem_filter.mp hg
      exact ⟨g, Bucket.mem_all.mp hmem, hrelated⟩
    · rintro ⟨g, hget, hrelated⟩
      exact ⟨g, List.mem_filter.mpr ⟨Bucket.mem_all_of_get? hget, hrelated⟩, Bucket.key_of_get? hget⟩
  unfold relatedEdgeStacks endpointRelatedEdgeStacks
  rw [hgroup, List.mem_map]
  constructor
  · rintro ⟨stack', hmem, hid⟩
    obtain ⟨hstack', hany⟩ := List.mem_filter.mp hmem
    obtain rfl : stack' = stack := Bucket.eq_of_mem_all hstack' hstack hid
    obtain ⟨i, hi, hrelated⟩ := List.any_eq_true.mp hany
    exact ⟨i, hi, (hset i).mp (of_decide_eq_true hrelated)⟩
  · rintro ⟨i, hi, hrelated⟩
    refine ⟨stack, List.mem_filter.mpr ⟨hstack, List.any_eq_true.mpr ⟨i, hi, ?_⟩⟩, rfl⟩
    exact decide_eq_true ((hset i).mpr hrelated)

/-- Which endpoints a stack is deployed on, if its groups are there. -/
theorem mem_targets {edgeGroupIDs : List EdgeGroupID} (he : endpoint ∈ s.dataStore.endpoint.all) :
    endpoint.id ∈ targets s edgeGroupIDs ↔ ∃ i ∈ edgeGroupIDs, ∃ g, s.dataStore.edgeGroup.get? i = some g ∧
      (g.dynamic = true → isEdge endpoint.type = true) ∧ edgeGroupRelatedToEndpoint g endpoint
        (associatedGroup endpoint s.dataStore.endpointGroup.all) = true := by
  unfold targets
  rw [List.mem_flatMap]
  refine exists_congr fun i => and_congr_right fun _ => ?_
  unfold groupTargets
  cases hget : s.dataStore.edgeGroup.get? i with
  | none => simp
  | some g =>
    rw [mem_edgeGroupRelatedEndpoints he]
    constructor
    · exact fun hboth => ⟨g, rfl, hboth⟩
    · rintro ⟨g', heq, hboth⟩
      obtain rfl := Option.some.inj heq
      exact hboth

/-! ## Agreement -/

/-- **The three lists of a dynamic group are the same**, each without
repetition, and an Edge endpoint is on the list of a stack exactly if the
stack is on the list of the endpoint. An endpoint that is not of the Edge is
never on the list of a dynamic group, though a stack can be on its list. -/
theorem matchers_agree (hs : SoundTags s) :
    (∀ (edgeGroup : EdgeGroup) (tagIDs : List TagID), edgeGroup.dynamic = true → edgeGroup.tagIDs ≠ [] →
      (∀ t ∈ edgeGroup.tagIDs, HasTag s t) → (∀ t, t ∈ tagIDs ↔ t ∈ edgeGroup.tagIDs) →
      ∃ ids : List EndpointID, ids.Nodup ∧
        (getEndpointsByTags edgeGroup.tagIDs edgeGroup.partialMatch).run (.faultless s) = (.ok ids, .faultless s) ∧
        Returns (getEndpointsByTags edgeGroup.tagIDs edgeGroup.partialMatch) s (· = ids) ∧
        edgeGroupRelatedEndpoints edgeGroup s.dataStore.endpoint.all s.dataStore.endpointGroup.all = ids ∧
        ((filteredEndpointsByTags s.dataStore.endpoint.all tagIDs s.dataStore.endpointGroup.all
          edgeGroup.partialMatch).filter (isEdge ·.type)).map Endpoint.id = ids) ∧
    ∀ stack ∈ s.dataStore.edgeStack.all, AllExist s stack.edgeGroups →
      ∃ ids, edgeStackRelatedEndpoints stack.edgeGroups s.dataStore.endpoint.all s.dataStore.endpointGroup.all
          s.dataStore.edgeGroup.all = .ok ids ∧
        ∀ endpoint ∈ s.dataStore.endpoint.all,
          (endpoint.id ∈ ids → stack.id ∈ relatedEdgeStacks s endpoint) ∧
          (isEdge endpoint.type = true → stack.id ∈ relatedEdgeStacks s endpoint → endpoint.id ∈ ids) := by
  refine ⟨fun edgeGroup tagIDs hdynamic hne hexist hsame => ?_, fun stack hstack hgroups => ?_⟩
  · obtain ⟨ids, hrun⟩ := getEndpointsByTags_run_faultless edgeGroup.partialMatch hexist
    have hreturns := returns_getEndpointsByTags edgeGroup.partialMatch hs hne
    obtain ⟨-, rfl⟩ := hreturns.run_ok rfl hrun
    exact ⟨_, nodup_matching, hrun, hreturns, edgeGroupRelatedEndpoints_eq hdynamic,
      filteredEndpointsByTags_all_eq hsame⟩
  · refine ⟨targets s stack.edgeGroups, ?_, fun endpoint he => ⟨fun hmem => ?_, fun hedge hmem => ?_⟩⟩
    · rw [edgeStackRelatedEndpoints, collect_eq, if_pos hgroups, List.nil_append]
    · obtain ⟨i, hi, g, hget, -, hrelated⟩ := (mem_targets he).mp hmem
      exact (mem_relatedEdgeStacks hstack).mpr ⟨i, hi, g, hget, hrelated⟩
    · obtain ⟨i, hi, g, hget, hrelated⟩ := (mem_relatedEdgeStacks hstack).mp hmem
      exact (mem_targets he).mpr ⟨i, hi, g, hget, fun _ => hedge, hrelated⟩

/-- Sound references, looked for in the records. -/
theorem soundTags_of_all
    (hendpoints : ∀ tag ∈ s.dataStore.tag.all, ∀ e ∈ s.dataStore.endpoint.all, tag.id ∈ e.tagIDs ↔ e.id ∈ tag.endpoints)
    (hgroups : ∀ tag ∈ s.dataStore.tag.all, ∀ g ∈ s.dataStore.endpointGroup.all,
      tag.id ∈ g.tagIDs ↔ g.id ∈ tag.endpointGroups)
    (hendpointTags : ∀ e ∈ s.dataStore.endpoint.all, ∀ t ∈ e.tagIDs, HasTag s t)
    (hgroupTags : ∀ g ∈ s.dataStore.endpointGroup.all, ∀ t ∈ g.tagIDs, HasTag s t)
    (hedgeGroupTags : ∀ g ∈ s.dataStore.edgeGroup.all, ∀ t ∈ g.tagIDs, HasTag s t)
    (hnamed : ∀ tag ∈ s.dataStore.tag.all, ∀ g ∈ tag.endpointGroups, (s.dataStore.endpointGroup.get? g).isSome) :
    SoundTags s where
  endpoints t tag i e htag he := by
    obtain rfl : tag.id = t := Bucket.key_of_get? htag
    obtain rfl : e.id = i := Bucket.key_of_get? he
    exact hendpoints tag (Bucket.mem_all_of_get? htag) e (Bucket.mem_all_of_get? he)
  endpointGroups t tag i g htag hg := by
    obtain rfl : tag.id = t := Bucket.key_of_get? htag
    obtain rfl : g.id = i := Bucket.key_of_get? hg
    exact hgroups tag (Bucket.mem_all_of_get? htag) g (Bucket.mem_all_of_get? hg)
  endpointTags _ e he := hendpointTags e (Bucket.mem_all_of_get? he)
  endpointGroupTags _ g hg := hgroupTags g (Bucket.mem_all_of_get? hg)
  edgeGroupTags _ g hg := hedgeGroupTags g (Bucket.mem_all_of_get? hg)
  groups _ tag htag := hnamed tag (Bucket.mem_all_of_get? htag)

/-- Two Edge endpoints, the one with a tag and the other in a group with it,
and a Docker endpoint with the tag. A stack goes to what has the tag, and
none to the group of the second. -/
def crossServer : Server where
  dataStore := {
    endpoint := Bucket.putAll {} [{ id := 1, type := .edgeAgentOnDockerEnvironment, tagIDs := [1] },
      { id := 2, type := .edgeAgentOnDockerEnvironment, groupID := 2 }, { id := 3, tagIDs := [1] }]
    endpointGroup := Bucket.putAll {} [{ id := 1 }, { id := 2, tagIDs := [1] }]
    tag := Bucket.put {} { id := 1, endpoints := {1, 3}, endpointGroups := {2} }
    edgeGroup := Bucket.putAll {} [{ id := 1, dynamic := true, tagIDs := [1] }, { id := 2, endpoints := [2] }]
    edgeStack := Bucket.put {} { id := 1, edgeGroups := [1] } }

theorem soundTags_crossServer : SoundTags crossServer :=
  soundTags_of_all (by decide) (by decide) (by decide) (by decide) (by decide) (by decide)

/-- The two Edge endpoints are on every list. -/
theorem matchers_agree_tagged : (getEndpointsByTags [1] false).run (.faultless crossServer) =
      (.ok [1, 2], .faultless crossServer) ∧
    ∃ ids, edgeStackRelatedEndpoints [1] crossServer.dataStore.endpoint.all
      crossServer.dataStore.endpointGroup.all crossServer.dataStore.edgeGroup.all = .ok ids ∧ 1 ∈ ids ∧ 2 ∈ ids := by
  obtain ⟨hgroup, hstacks⟩ := matchers_agree soundTags_crossServer
  constructor
  · obtain ⟨ids, -, hrun, -, hrelated, -⟩ := hgroup { id := 1, dynamic := true, tagIDs := [1] } [1] rfl (by decide)
      (by decide) fun _ => Iff.rfl
    have hids : ids = [1, 2] := hrelated.symm.trans (by decide)
    exact hids ▸ hrun
  · obtain ⟨ids, hids, hagree⟩ := hstacks { id := 1, edgeGroups := [1] } (by decide) (by decide)
    refine ⟨ids, hids, ?_, ?_⟩
    · exact (hagree { id := 1, type := .edgeAgentOnDockerEnvironment, tagIDs := [1] } (by decide)).2 (by decide) (by decide)
    · exact (hagree { id := 2, type := .edgeAgentOnDockerEnvironment, groupID := 2 } (by decide)).2 (by decide) (by decide)

/-- One endpoint with a tag, and a stack for what has it. -/
def taggedServer (type : EndpointType) : Server where
  dataStore := {
    endpoint := Bucket.put {} { id := 1, type := type, tagIDs := [1] }
    endpointGroup := Bucket.put {} { id := 1 }
    tag := Bucket.put {} { id := 1, endpoints := {1} }
    edgeGroup := Bucket.put {} { id := 1, dynamic := true, tagIDs := [1] }
    edgeStack := Bucket.put {} { id := 1, edgeGroups := [1] } }

theorem soundTags_taggedServer (type : EndpointType) : SoundTags (taggedServer type) := by
  cases type <;> exact soundTags_of_all (by decide) (by decide) (by decide) (by decide) (by decide) (by decide)

/-- A Docker endpoint with the tag is on no list of the stack, though the
stack is on its list. -/
theorem not_matchers_agree : ¬ ∀ s : Server, SoundTags s → ∀ stack ∈ s.dataStore.edgeStack.all,
    ∀ endpoint ∈ s.dataStore.endpoint.all, ∀ ids, edgeStackRelatedEndpoints stack.edgeGroups
      s.dataStore.endpoint.all s.dataStore.endpointGroup.all s.dataStore.edgeGroup.all = .ok ids →
    (endpoint.id ∈ ids ↔ stack.id ∈ relatedEdgeStacks s endpoint) := by
  intro h
  have hiff := h (taggedServer .dockerEnvironment) (soundTags_taggedServer _) { id := 1, edgeGroups := [1] }
    (by decide) { id := 1, type := .dockerEnvironment, tagIDs := [1] } (by decide) [] (by rfl)
  exact absurd hiff (by decide)

/-! ## The listing -/

section Listing

variable {g : EdgeGroup} {l : List EdgeGroup} {used : Finset EdgeGroupID}

/-- The group with the endpoints that its stacks go to. -/
def withRelated (s : Server) (g : EdgeGroup) : EdgeGroup :=
  { g with endpoints := edgeGroupRelatedEndpoints g s.dataStore.endpoint.all s.dataStore.endpointGroup.all }

theorem listedEndpoints_run (hs : SoundTags s) (hg : g.dynamic = true → g.tagIDs ≠ [] ∧ ∀ t ∈ g.tagIDs, HasTag s t) :
    (listedEndpoints g).run (.faultless s) = (.ok (withRelated s g).endpoints, .faultless s) := by
  unfold listedEndpoints withRelated
  by_cases hdynamic : g.dynamic = true
  · obtain ⟨hne, hexist⟩ := hg hdynamic
    obtain ⟨ids, hrun⟩ := getEndpointsByTags_run_faultless g.partialMatch hexist
    obtain ⟨-, rfl⟩ := (returns_getEndpointsByTags g.partialMatch hs hne).run_ok rfl hrun
    rw [if_pos hdynamic, edgeGroupRelatedEndpoints_eq hdynamic]
    exact Action.mapError_run_ok.mpr hrun
  · rw [if_neg hdynamic, edgeGroupRelatedEndpoints, if_neg hdynamic]
    rfl

theorem decorateEdgeGroups_run (hs : SoundTags s)
    (hl : ∀ g ∈ l, g.dynamic = true → g.tagIDs ≠ [] ∧ ∀ t ∈ g.tagIDs, HasTag s t) :
    (decorateEdgeGroups used l).run (.faultless s) =
      (.ok (l.map fun g => ⟨withRelated s g, g.id ∈ used⟩), .faultless s) := by
  induction l with
  | nil => rfl
  | cons g l ih =>
    exact (Action.bind_run_of_ok (listedEndpoints_run hs (hl g List.mem_cons_self))).trans
      (Action.bind_run_of_ok (ih fun g' hg' => hl g' (List.mem_cons_of_mem g hg')))

theorem read_run {α : Type} {f : Server → α} {g : String → HandlerError} :
    ((Action.query Callee.databaseRead f).mapError g).run (.faultless s) = (.ok (f s), .faultless s) :=
  Action.mapError_run_ok.mpr (Action.query_run_faultless _ f)

theorem edgeStack_getAll_run {f : String → HandlerError} : (Server.edgeStack.getAll.mapError f).run (.faultless s) =
    (.ok s.dataStore.edgeStack.all, .faultless s) := read_run

/-- A group that is stored is not deleted exactly if a stack has it. -/
theorem edgeGroupDelete_error_iff (hg : g ∈ s.dataStore.edgeGroup.all) :
    (∃ err, ((edgeGroupDelete g.id).run (.faultless s)).1 = .error err) ↔
      ∃ stack ∈ s.dataStore.edgeStack.all, g.id ∈ stack.edgeGroups := by
  have hfound : ((Server.edgeGroup.getObject g.id).mapError findEdgeGroup).run (.faultless s) =
      (.ok g, .faultless s) := Action.mapError_run_ok.mpr (Action.lookup_run_faultless (Bucket.mem_all.mp hg))
  unfold edgeGroupDelete
  rw [Action.bind_run_of_ok hfound, Action.bind_run_of_ok edgeStack_getAll_run]
  by_cases hfree : (s.dataStore.edgeStack.all.all (g.id ∉ ·.edgeGroups)) = true
  · rw [Action.bind_run_of_ok (Action.require_run_of hfree)]
    refine iff_of_false ?_ (by simpa using hfree)
    rintro ⟨err, herr⟩
    cases herr
  · rw [Action.require, if_neg hfree]
    exact iff_of_true ⟨_, rfl⟩ (by simpa using hfree)

/-- **The Edge groups are listed** with the endpoints that their stacks go
to, and as used exactly if they cannot be deleted. -/
theorem edgeGroupList_agrees (hs : SoundTags s)
    (htags : ∀ g ∈ s.dataStore.edgeGroup.all, g.dynamic = true → g.tagIDs ≠ []) :
    ∃ shown, edgeGroupList.run (.faultless s) = (.ok shown, .faultless s) ∧
      shown.map DecoratedEdgeGroup.edgeGroup = s.dataStore.edgeGroup.all.map (withRelated s) ∧
      ∀ g ∈ shown, g.hasEdgeStack = true ↔
        ∃ err, ((edgeGroupDelete g.edgeGroup.id).run (.faultless s)).1 = .error err := by
  have hrun := @decorateEdgeGroups_run s _ (s.dataStore.edgeStack.all.flatMap EdgeStack.edgeGroups).toFinset
    hs fun g hg hdynamic => ⟨htags g hg hdynamic, hs.edgeGroupTags g.id g (Bucket.mem_all.mp hg)⟩
  have hgroups : (Server.edgeGroup.getAll.mapError retrieveEdgeGroups).run (.faultless s) =
      (.ok s.dataStore.edgeGroup.all, .faultless s) := read_run
  refine ⟨_, (Action.bind_run_of_ok hgroups).trans ((Action.bind_run_of_ok edgeStack_getAll_run).trans hrun),
    List.map_map, fun d hd => ?_⟩
  obtain ⟨g, hg, rfl⟩ := List.mem_map.mp hd
  refine Iff.trans ?_ (edgeGroupDelete_error_iff hg).symm
  rw [decide_eq_true_eq, List.mem_toFinset, List.mem_flatMap]

/-- The dynamic group is listed with them and cannot be deleted; the other
can. -/
theorem edgeGroupList_agrees_tagged : ∃ dynamic fixed,
    edgeGroupList.run (.faultless crossServer) = (.ok [dynamic, fixed], .faultless crossServer) ∧
    (dynamic.edgeGroup.endpoints = [1, 2] ∧ dynamic.hasEdgeStack = true) ∧
    fixed.edgeGroup.endpoints = [2] ∧ fixed.hasEdgeStack = false := by
  obtain ⟨shown, hrun, hshown, hused⟩ := edgeGroupList_agrees soundTags_crossServer (by decide)
  obtain ⟨dynamic, shown', rfl, hdynamic, hshown'⟩ := List.map_eq_cons_iff.mp hshown
  obtain ⟨fixed, rest, rfl, hfixed, hrest⟩ := List.map_eq_cons_iff.mp hshown'
  obtain rfl := List.map_eq_nil_iff.mp hrest
  refine ⟨dynamic, fixed, hrun, ⟨?_, ?_⟩, ?_, ?_⟩
  · rw [hdynamic]
    decide
  · refine (hused dynamic List.mem_cons_self).mpr ?_
    rw [hdynamic]
    exact ⟨_, rfl⟩
  · rw [hfixed]
    decide
  · refine Bool.eq_false_iff.mpr fun htrue => ?_
    obtain ⟨err, herr⟩ := (hused fixed (List.mem_cons_of_mem dynamic List.mem_cons_self)).mp htrue
    rw [hfixed] at herr
    cases herr

end Listing

end Inventory

end Portainer
