import Portainer.Inventory.Helpers.Endpoints
import Portainer.Inventory.Helpers.Frames
/-!
# Namespace policies — who is named has access

The namespace policies of a Kubernetes environment are cleaned where the
policies of an endpoint or of a group change, but not where an endpoint
moves to another group. `KeepsNamed` says that a request that moves one
takes the access from no one the policies name; along such requests the
policies name only who has access, and those keep their policies
(`respects_of_run`).
-/

namespace Portainer

open Action (Ensures Frames)
open Kubernetes (isKubernetesEndpoint policies userHasAccess teamHasAccess groupInForce restrictPolicy
  restrictPolicies)
open Tunnel (isEdge)

namespace Inventory

open Table

variable {services : Services} {s s' : Server} {e e' : Endpoint} {db : DataStore}

/-! ## The property -/

/-- **Everyone the namespace policies of the environment name has access**
to it, directly or through its group. -/
def Covered (s : Server) (e : Endpoint) : Prop :=
  ∀ p, policies e.id s = some (some p) → ∀ (ns : String) (policy : K8sNamespaceAccessPolicy),
    p[ns]? = some policy → (∀ u ∈ policy.userAccessPolicies, userHasAccess s.dataStore e none u = true) ∧
      ∀ t ∈ policy.teamAccessPolicies, teamHasAccess s.dataStore e none t = true

/-- **Those with access keep their policies**, in every namespace. -/
def Retained (s s' : Server) (e : Endpoint) : Prop :=
  ∀ p, policies e.id s = some (some p) → ∃ p', policies e.id s' = some (some p') ∧
    ∀ (ns : String) (policy : K8sNamespaceAccessPolicy), p[ns]? = some policy →
      ∃ policy' : K8sNamespaceAccessPolicy, p'[ns]? = some policy' ∧ (∀ u, userHasAccess s'.dataStore e none u = true →
        policy'.userAccessPolicies[u]? = policy.userAccessPolicies[u]?) ∧
      ∀ t, teamHasAccess s'.dataStore e none t = true →
        policy'.teamAccessPolicies[t]? = policy.teamAccessPolicies[t]?

/-- Both, for every Kubernetes environment there is after a step. -/
def Respects (s s' : Server) : Prop :=
  ∀ i e, s'.dataStore.endpoint.get? i = some e → isKubernetesEndpoint e.type = true →
    Covered s' e ∧ Retained s s' e

/-- The policies of every Kubernetes environment name only who has
access. -/
def Clean (s : Server) : Prop :=
  ∀ i e, s.dataStore.endpoint.get? i = some e → isKubernetesEndpoint e.type = true → Covered s e

theorem Respects.clean (h : Respects s s') : Clean s' := fun i e hi htype => (h i e hi htype).1

/-! ## What access depends on -/

/-- Two endpoints, the same as far as access goes. -/
structure SameAccess (e e' : Endpoint) : Prop where
  id : e'.id = e.id
  groupID : e'.groupID = e.groupID
  user : e'.userAccessPolicies = e.userAccessPolicies
  team : e'.teamAccessPolicies = e.teamAccessPolicies

/-- What a group says about access. -/
def groupPolicies (group : EndpointGroup) : UserAccessPolicies × TeamAccessPolicies :=
  (group.userAccessPolicies, group.teamAccessPolicies)

/-- Access is decided the same way by `db` with the group `g` as by `db'`
with the group of the endpoint. -/
structure SameAnswers (db : DataStore) (e : Endpoint) (g : Option EndpointGroup) (db' : DataStore)
    (e' : Endpoint) : Prop extends SameAccess e e' where
  group : (groupInForce db' e' none).map groupPolicies = (groupInForce db e g).map groupPolicies
  memberships : db'.teamMembership = db.teamMembership

variable {g : Option EndpointGroup} {db' : DataStore}

theorem SameAnswers.of_sameAccess (h : SameAccess e e') : SameAnswers db e none db e' :=
  ⟨h, by simp only [groupInForce, h.groupID], rfl⟩

theorem SameAnswers.userHasAccess (h : SameAnswers db e g db' e') (u : UserID) :
    userHasAccess db' e' none u = userHasAccess db e g u := by
  have hm : db'.teamMembershipsByUserID u = db.teamMembershipsByUserID u := by
    rw [DataStore.teamMembershipsByUserID, h.memberships, DataStore.teamMembershipsByUserID]
  have hgroup := h.group
  simp only [Kubernetes.userHasAccess, h.user, h.team, hm]
  cases hg : groupInForce db e g <;> cases hg' : groupInForce db' e' none <;>
    simp_all [groupPolicies]

theorem SameAnswers.teamHasAccess (h : SameAnswers db e g db' e') (t : TeamID) :
    teamHasAccess db' e' none t = teamHasAccess db e g t := by
  have hgroup := h.group
  simp only [Kubernetes.teamHasAccess, h.team]
  cases hg : groupInForce db e g <;> cases hg' : groupInForce db' e' none <;>
    simp_all [groupPolicies]

/-- With the same policies and the same answers, everyone named still has
access. -/
theorem Covered.congr (h : Covered s e) (hp : policies e.id s' = policies e.id s)
    (ha : SameAnswers s.dataStore e none s'.dataStore e') : Covered s' e' := by
  intro p hp' ns policy hns
  rw [ha.id, hp] at hp'
  obtain ⟨huser, hteam⟩ := h p hp' ns policy hns
  exact ⟨fun u hu => (ha.userHasAccess u).trans (huser u hu),
    fun t ht => (ha.teamHasAccess t).trans (hteam t ht)⟩

theorem retained_of_same (hp : policies e.id s' = policies e.id s) : Retained s s' e := by
  intro p hp'
  exact ⟨p, hp.trans hp', fun _ policy hns => ⟨policy, hns, fun _ _ => rfl, fun _ _ => rfl⟩⟩

/-- **After a cleaning** with the answers that hold now, everyone named has
access and nobody else has lost anything. -/
theorem settled_of_cleaned
    (hp : policies e.id s' = (policies e.id s).map (Option.map (restrictPolicies db e g)))
    (ha : SameAnswers db e g s'.dataStore e) : Covered s' e ∧ Retained s s' e := by
  constructor
  · intro p hp' ns policy hns
    rw [hp] at hp'
    obtain ⟨o, -, ho⟩ := Option.map_eq_some_iff.mp hp'
    obtain ⟨q, -, rfl⟩ := Option.map_eq_some_iff.mp ho
    rw [restrictPolicies, Std.ExtTreeMap.getElem?_map] at hns
    obtain ⟨policy₀, -, rfl⟩ := Option.map_eq_some_iff.mp hns
    refine ⟨fun u hu => ?_, fun t ht => ?_⟩
    · obtain ⟨_, hu⟩ := Std.ExtTreeMap.mem_filter.mp hu
      rw [Std.ExtTreeMap.getKey_eq] at hu
      exact (ha.userHasAccess u).trans hu
    · obtain ⟨_, ht⟩ := Std.ExtTreeMap.mem_filter.mp ht
      rw [Std.ExtTreeMap.getKey_eq] at ht
      exact (ha.teamHasAccess t).trans ht
  · intro p hp'
    refine ⟨restrictPolicies db e g p, by rw [hp, hp']; rfl, fun ns policy hns => ?_⟩
    refine ⟨restrictPolicy db e g policy, ?_, fun u hu => ?_, fun t ht => ?_⟩
    · rw [restrictPolicies, Std.ExtTreeMap.getElem?_map, hns]
      rfl
    · rw [ha.userHasAccess] at hu
      rw [restrictPolicy, Std.ExtTreeMap.getElem?_filter']
      cases policy.userAccessPolicies[u]? <;> simp [hu]
    · rw [ha.teamHasAccess] at ht
      rw [restrictPolicy, Std.ExtTreeMap.getElem?_filter']
      cases policy.teamAccessPolicies[t]? <;> simp [ht]

/-! ## One endpoint in another's place -/

/-- What access is decided on, and the policies of the clusters. -/
def accessPart (s : Server) := (s.dataStore.endpoint.get?, s.dataStore.endpointGroup.get?,
  s.dataStore.teamMembership, s.configMaps)

/-- The endpoint has been put in its place; its namespace policies aside,
access and policies are as they were. -/
structure Placed (e : Endpoint) (s s' : Server) : Prop where
  endpoint : ∀ i, s'.dataStore.endpoint.get? i =
    if e.id = i then some e else s.dataStore.endpoint.get? i
  endpointGroup : s'.dataStore.endpointGroup.get? = s.dataStore.endpointGroup.get?
  memberships : s'.dataStore.teamMembership = s.dataStore.teamMembership
  others : ∀ i, e.id ≠ i → policies i s' = policies i s

/-- Access to an endpoint is decided as it was before. -/
theorem Placed.sameAnswers (h : Placed e s s') (he : SameAccess e' e) :
    SameAnswers s.dataStore e' none s'.dataStore e :=
  ⟨he, by simp only [groupInForce, h.endpointGroup, he.groupID], h.memberships⟩

theorem SameAccess.refl : SameAccess e e := ⟨rfl, rfl, rfl, rfl⟩

/-- For the other environments nothing has changed. -/
theorem Placed.respects (h : Placed e s s') (hs : Clean s)
    (hown : isKubernetesEndpoint e.type = true → Covered s' e ∧ Retained s s' e) : Respects s s' := by
  intro i e₁ hi htype
  rw [h.endpoint] at hi
  split at hi
  · obtain rfl := Option.some.inj hi
    exact hown htype
  · rename_i hne
    have hid : e₁.id = i := Bucket.key_of_get? hi
    have hsame : policies e₁.id s' = policies e₁.id s := h.others _ (hid ▸ hne)
    have ha : SameAnswers s.dataStore e₁ none s'.dataStore e₁ :=
      ⟨.refl, by simp only [groupInForce, h.endpointGroup], h.memberships⟩
    exact ⟨(hs i e₁ hi htype).congr hsame ha, retained_of_same hsame⟩

/-- The policies of the environment are as they were, and those they name
have access to the endpoint as it is now. -/
theorem Placed.settled_of_same (h : Placed e s s') (hsame : policies e.id s' = policies e.id s)
    (hc : Covered s e) : Covered s' e ∧ Retained s s' e :=
  ⟨hc.congr hsame (h.sameAnswers .refl), retained_of_same hsame⟩

/-! ## An endpoint moves to another group -/

theorem policies_of_accessPart (h : accessPart s' = accessPart s) (i : EndpointID) :
    policies i s' = policies i s := by
  simp only [accessPart, Prod.mk.injEq] at h
  rw [policies, h.2.2.2, policies]

/-- The same from an earlier store, with the same endpoints and groups and,
but for this environment, the same policies. -/
theorem Placed.of_earlier {s₁ s₂ : Server} (h : Placed e s₂ s') (h₁ : accessPart s₁ = accessPart s)
    (hdb : s₂.dataStore = s₁.dataStore) (hothers : ∀ i, e.id ≠ i → policies i s₂ = policies i s₁) :
    Placed e s s' := by
  have hpolicies := policies_of_accessPart h₁
  simp only [accessPart, Prod.mk.injEq] at h₁
  obtain ⟨hendpoint, hgroup, hmembership, -⟩ := h₁
  refine ⟨fun i => ?_, ?_, ?_, fun i hi => ?_⟩
  · rw [h.endpoint, hdb, hendpoint]
  · rw [h.endpointGroup, hdb, hgroup]
  · rw [h.memberships, hdb, hmembership]
  · rw [h.others i hi, hothers i hi, hpolicies]

/-- The endpoint put, and then what leaves access as it is. -/
theorem placed_put (h : accessPart s' = accessPart (Server.endpoint.change (·.put e) s)) :
    Placed e s s' := by
  have hpolicies := policies_of_accessPart h
  simp only [accessPart, Prod.mk.injEq] at h
  refine ⟨fun i => ?_, h.2.1, h.2.2.1, fun i _ => hpolicies i⟩
  rw [h.1]
  exact Bucket.get?_put

theorem ensures_moveEndpoint {unpersisted : String → HandlerError} {k : EndpointGroupID} :
    Ensures (moveEndpoint unpersisted e k g) s fun _ s' =>
      accessPart s' = accessPart (Server.endpoint.change (·.put { e with groupID := k }) s) :=
  .move_bind ensures_updateObject_mapError fun _ =>
    ((frames_updateEndpointRelations.mono accessPart fun _ => rfl).ensures _).mapError

/-- A move respects the policies if it takes the access from no one they
name. -/
theorem respects_moveEndpoint {unpersisted : String → HandlerError} {k : EndpointGroupID}
    (hs : Clean s) (hc : isKubernetesEndpoint e.type = true → Covered s { e with groupID := k }) :
    Ensures (moveEndpoint unpersisted e k g) s fun _ s' => Respects s s' := by
  refine ensures_moveEndpoint.conseq fun _ s' hs' => ?_
  have hplaced := placed_put hs'
  exact hplaced.respects hs fun htype =>
    hplaced.settled_of_same (policies_of_accessPart hs' _) (hc htype)

theorem respects_addEndpoint {id : EndpointGroupID} {endpointID : EndpointID} (hs : Clean s)
    (hc : ∀ e, s.dataStore.endpoint.get? endpointID = some e → isKubernetesEndpoint e.type = true →
      Covered s { e with groupID := id }) :
    Ensures (endpointGroupAddEndpoint id endpointID) s fun _ s' => Respects s s' := by
  refine .read_bind returns_getObject_mapError fun group hgroup => ?_
  refine .read_bind returns_getObject_mapError fun e he => ?_
  have hid : group.id = id := Bucket.key_of_get? hgroup
  rw [hid]
  exact respects_moveEndpoint hs (hc e he)

theorem respects_deleteEndpoint {id : EndpointGroupID} {endpointID : EndpointID} (hs : Clean s)
    (hc : ∀ e, s.dataStore.endpoint.get? endpointID = some e → isKubernetesEndpoint e.type = true →
      Covered s { e with groupID := 1 }) :
    Ensures (endpointGroupDeleteEndpoint id endpointID) s fun _ s' => Respects s s' :=
  .read_bind returns_getObject_mapError fun _ _ => .read_bind returns_getObject_mapError fun e he =>
    respects_moveEndpoint hs (hc e he)

/-! ## An update of an endpoint -/

theorem SameAccess.trans {e'' : Endpoint} (h : SameAccess e e') (h' : SameAccess e' e'') :
    SameAccess e e'' :=
  ⟨h'.id.trans h.id, h'.groupID.trans h.groupID, h'.user.trans h.user, h'.team.trans h.team⟩

/-- The parts of an update that are about the connection change neither the
type of the endpoint nor who has access to it. -/
theorem ensures_updateAzureCredentials {payload : EndpointUpdatePayload} :
    Ensures (updateAzureCredentials payload e) s fun e' s' =>
      s' = s ∧ SameAccess e e' ∧ e'.type = e.type := by
  refine (runs_updateAzureCredentials (E := fun _ => True)).ensures.conseq fun e' s' h => ⟨h.1, ?_⟩
  rw [h.2]
  exact ⟨⟨rfl, rfl, rfl, rfl⟩, rfl⟩

theorem ensures_updateTLS {payload : EndpointUpdatePayload} :
    Ensures (updateTLS services payload e) s fun e' s' =>
      s' = s ∧ SameAccess e e' ∧ e'.type = e.type := by
  refine (runs_updateTLS (E := fun _ => True)).ensures.conseq fun e' s' h => ⟨h.1, ?_⟩
  rw [h.2]
  exact ⟨⟨rfl, rfl, rfl, rfl⟩, rfl⟩

/-- The policies of an endpoint whose policies do not change. -/
theorem policies_of_not_updateAuthorizations {payload : EndpointUpdatePayload}
    (h : payload.updateAuthorizations e = false) :
    payload.userAccessPolicies.getD e.userAccessPolicies = e.userAccessPolicies ∧
      payload.teamAccessPolicies.getD e.teamAccessPolicies = e.teamAccessPolicies := by
  simpa [EndpointUpdatePayload.updateAuthorizations] using h

/-- **An update cleans where the policies of the endpoint change**, and
respects the policies if they do or the group does not, or nobody they name
loses access with the group. -/
theorem respects_endpointUpdate {id : EndpointID} {payload : EndpointUpdatePayload} (hs : Clean s)
    (hc : ∀ e, s.dataStore.endpoint.get? id = some e → isKubernetesEndpoint e.type = true →
      payload.groupIDChanged e = true → payload.updateAuthorizations e = false →
        Covered s (payload.withFields e)) :
    Ensures (endpointUpdate services id payload) s fun _ s' => Respects s s' := by
  refine .read_bind returns_getObject_mapError fun e he => ?_
  have hreplace : Frames (replaceTags (withoutEndpoint e.id) (withEndpoint e.id) e.tagIDs payload.tagIDs)
      accessPart := frames_replaceTags.mono accessPart fun _ => rfl
  refine (hreplace.ensures s).bind fun tagIDs s₁ h₁ => ?_
  refine ensures_updateAzureCredentials.bind fun e₂ s₂ h₂ => ?_
  obtain ⟨rfl, hsame₂, htype₂⟩ := h₂
  refine ensures_updateTLS.bind fun e₃ s₃ h₃ => ?_
  obtain ⟨rfl, hsame₃, htype₃⟩ := h₃
  refine .move_bind (runs_registerEndpointProxy (E := fun _ => True)).ensures fun _ => ?_
  have hsame := hsame₂.trans hsame₃
  have htype : e₃.type = e.type := htype₃.trans htype₂
  -- what comes after the cleaning
  have hend : ∀ s₄, Ensures (do
      (Server.endpoint.updateObject e₃).mapError
        (.internalServerError "Unable to persist endpoint changes inside the database")
      if isEdge e₃.type && (payload.groupIDChanged e || tagsChanged e.tagIDs payload.tagIDs) then
        refreshRelation e₃
      return e₃) s₄ fun _ s' => accessPart s' = accessPart (Server.endpoint.change (·.put e₃) s₄) := by
    intro s₄
    refine .move_bind ensures_updateObject_mapError fun _ => ?_
    have hrefresh : Frames (refreshRelation e₃) accessPart :=
      frames_refreshRelation.mono accessPart fun _ => rfl
    split
    · exact (hrefresh.ensures _).bind fun _ s' hs' => .pure hs'
    · exact .pure rfl
  unfold cleanEndpoint
  split
  · refine Kubernetes.ensures_cleanNAP.mapError.bind fun _ s₄ h₄ => (hend s₄).conseq fun _ s' hs' => ?_
    obtain ⟨hdb, hothers, hown⟩ := h₄
    have hplaced : Placed e₃ s₄ s' := placed_put hs'
    refine (hplaced.of_earlier h₁ hdb hothers).respects hs fun _ => settled_of_cleaned (g := none) ?_
      ⟨.refl, by simp only [groupInForce, hplaced.endpointGroup, hdb], hplaced.memberships.trans
        (congrArg DataStore.teamMembership hdb)⟩
    rw [policies_of_accessPart hs', ← policies_of_accessPart h₁]
    exact hown
  · rename_i hclean
    refine .move_bind (.pure rfl) fun _ => (hend s₃).conseq fun _ s' hs' => ?_
    have hplaced : Placed e₃ s s' := (placed_put hs').of_earlier h₁ rfl fun _ _ => rfl
    refine hplaced.respects hs fun htype₃ => hplaced.settled_of_same ?_ ?_
    · rw [policies_of_accessPart hs', ← policies_of_accessPart h₁]
      rfl
    · rw [htype₃, Bool.and_true, Bool.not_eq_true] at hclean
      obtain ⟨huser, hteam⟩ := policies_of_not_updateAuthorizations hclean
      have htype' : isKubernetesEndpoint e.type = true := htype ▸ htype₃
      have hfields : SameAccess (payload.withFields e) e₃ :=
        ⟨hsame.id, hsame.groupID, hsame.user.trans huser, hsame.team.trans hteam⟩
      by_cases hgroup : payload.groupIDChanged e = true
      · exact (hc e he htype' hgroup hclean).congr rfl (.of_sameAccess hfields)
      · have hkept : payload.groupID.getD e.groupID = e.groupID := by
          simpa [EndpointUpdatePayload.groupIDChanged] using hgroup
        have hsame' : SameAccess e e₃ := ⟨hfields.id, hfields.groupID.trans hkept, hfields.user, hfields.team⟩
        exact (hs id e he htype').congr rfl (.of_sameAccess hsame')

/-! ## An update of a group -/

/-- The endpoints whose policies a cleaning of the group is about. -/
def Cleanable (group : EndpointGroup) (e : Endpoint) : Prop :=
  e.groupID = group.id ∧ isKubernetesEndpoint e.type = true

instance {group : EndpointGroup} : Decidable (Cleanable group e) :=
  inferInstanceAs (Decidable (_ ∧ _))

/-- The loop over the endpoints, with those of `l` still to come. -/
structure Cleaning (group : EndpointGroup) (s : Server) (l : List Endpoint) (s' : Server) : Prop where
  dataStore : s'.dataStore = s.dataStore
  todo : ∀ e ∈ l, s.dataStore.endpoint.get? e.id = some e
  nodup : l.Nodup
  cleaned : ∀ i e, s.dataStore.endpoint.get? i = some e → Cleanable group e → e ∉ l →
    policies i s' = (policies i s).map (Option.map (restrictPolicies s.dataStore e (some group)))
  kept : ∀ i e, s.dataStore.endpoint.get? i = some e → ¬ Cleanable group e ∨ e ∈ l →
    policies i s' = policies i s

theorem ensures_cleanMember {group : EndpointGroup} {l : List Endpoint}
    (h : Cleaning group s (e :: l) s') :
    Ensures (cleanMember group e) s' fun _ s'' => Cleaning group s l s'' := by
  obtain ⟨hnotin, hnodup⟩ := List.nodup_cons.mp h.nodup
  have htodo : ∀ e' ∈ l, s.dataStore.endpoint.get? e'.id = some e' :=
    fun e' he' => h.todo e' (List.mem_cons_of_mem _ he')
  unfold cleanMember
  split
  · rename_i hmember
    refine Kubernetes.ensures_cleanNAP.mapError.conseq fun _ s'' h'' => ?_
    obtain ⟨hdb, hothers, hown⟩ := h''
    have hget := h.todo e List.mem_cons_self
    -- another endpoint is of another environment
    have hne : ∀ i e', s.dataStore.endpoint.get? i = some e' → e' ≠ e → e.id ≠ i := by
      rintro i e' hi hne rfl
      exact hne (Option.some.inj (hi.symm.trans hget))
    refine ⟨hdb.trans h.dataStore, htodo, hnodup, fun i e' hi hc hnot => ?_, fun i e' hi hc => ?_⟩
    · by_cases heq : e' = e
      · subst heq
        obtain rfl : e'.id = i := Bucket.key_of_get? hi
        rw [hown, h.dataStore, h.kept _ e' hi (.inr List.mem_cons_self)]
      · rw [hothers i (hne i e' hi heq)]
        exact h.cleaned i e' hi hc fun hmem => (List.mem_cons.mp hmem).elim heq hnot
    · have heq : e' ≠ e := by
        rintro rfl
        exact hc.elim (fun hc => hc hmember) hnotin
      rw [hothers i (hne i e' hi heq)]
      exact h.kept i e' hi (hc.imp id (List.mem_cons_of_mem _))
  · rename_i hmember
    refine .pure ⟨h.dataStore, htodo, hnodup, fun i e' hi hc hnot => ?_, fun i e' hi hc => ?_⟩
    · have hne : e' ≠ e := fun heq => hmember (heq ▸ hc)
      exact h.cleaned i e' hi hc fun hmem => (List.mem_cons.mp hmem).elim hne hnot
    · exact h.kept i e' hi (hc.imp id (List.mem_cons_of_mem _))

/-- The cleaning of a group, if it takes place. -/
theorem ensures_cleanMembers {group : EndpointGroup} {updateAuthorizations : Bool} :
    Ensures (cleanMembers updateAuthorizations group) s fun _ s' => s'.dataStore = s.dataStore ∧
      ∀ i e, s.dataStore.endpoint.get? i = some e → policies i s' =
        if updateAuthorizations = true ∧ Cleanable group e then
          (policies i s).map (Option.map (restrictPolicies s.dataStore e (some group)))
        else policies i s := by
  unfold cleanMembers
  split
  · rename_i hyes
    refine .read_bind returns_getAll_mapError fun endpoints hall => ?_
    have hstart : Cleaning group s endpoints s := by
      rw [hall]
      refine ⟨rfl, fun e he => Bucket.mem_all.mp he, (Bucket.nodup_keys_all _).of_map, ?_, ?_⟩
      · exact fun i e hi _ hnot => absurd (Bucket.mem_all_of_get? hi) hnot
      · exact fun _ _ _ _ => rfl
    refine (Ensures.forM_todo hstart fun e l s' h => ensures_cleanMember h).conseq fun _ s' h => ?_
    refine ⟨h.dataStore, fun i e hi => ?_⟩
    by_cases hc : Cleanable group e
    · rw [if_pos ⟨hyes, hc⟩]
      exact h.cleaned i e hi hc nofun
    · rw [if_neg fun hboth => hc hboth.2]
      exact h.kept i e hi (.inl hc)
  · rename_i hno
    exact .pure ⟨rfl, fun i e _ => (if_neg fun hboth => hno hboth.1).symm⟩

/-- The group put, and then what leaves access as it is. -/
theorem group_put {group : EndpointGroup}
    (h : accessPart s' = accessPart (Server.endpointGroup.change (·.put group) s)) :
    s'.dataStore.endpoint.get? = s.dataStore.endpoint.get? ∧
      (∀ j, s'.dataStore.endpointGroup.get? j =
        if group.id = j then some group else s.dataStore.endpointGroup.get? j) ∧
      s'.dataStore.teamMembership = s.dataStore.teamMembership ∧ ∀ i, policies i s' = policies i s := by
  have hpolicies := policies_of_accessPart h
  simp only [accessPart, Prod.mk.injEq] at h
  refine ⟨h.1, fun j => ?_, h.2.2.1, hpolicies⟩
  rw [h.2.1]
  exact Bucket.get?_put

/-- **An update of a group cleans where its policies change**, for every
environment in it, and so respects the policies in any case. -/
theorem respects_endpointGroupUpdate {id : EndpointGroupID} {payload : EndpointGroupUpdatePayload}
    (hs : Clean s) : Ensures (endpointGroupUpdate id payload) s fun _ s' => Respects s s' := by
  refine .read_bind returns_getObject_mapError fun group hgroup => ?_
  have hreplace : Frames (replaceTags (withoutEndpointGroup group.id) (withEndpointGroup group.id)
      group.tagIDs payload.tagIDs) accessPart := frames_replaceTags.mono accessPart fun _ => rfl
  refine (hreplace.ensures s).bind fun tagIDs s₁ h₁ => ?_
  refine ensures_cleanMembers.bind fun _ s₂ h₂ => ?_
  obtain ⟨hdb, hpolicies⟩ := h₂
  refine .move_bind ensures_updateObject_mapError fun _ => ?_
  have hrefresh : ∀ b group, Frames (refreshMembers b group) accessPart :=
    fun b group => frames_refreshMembers.mono accessPart fun _ => rfl
  refine ((hrefresh _ _).ensures _).bind fun _ s' h' => .pure fun i e hi htype => ?_
  have hid : group.id = id := Bucket.key_of_get? hgroup
  obtain ⟨hendpoint', hgroup', hmembership', hp'⟩ := group_put h'
  have hp₁ := policies_of_accessPart h₁
  simp only [accessPart, Prod.mk.injEq] at h₁
  obtain ⟨hendpoint₁, hgroup₁, hmembership₁, -⟩ := h₁
  rw [hendpoint', hdb] at hi
  rw [hdb] at hgroup' hmembership'
  have hown := (hp' i).trans (hpolicies i e hi)
  obtain rfl : e.id = i := Bucket.key_of_get? hi
  rw [hp₁] at hown
  split at hown
  · -- its policies have been cleaned, with the group as it is now
    rename_i hc
    refine settled_of_cleaned hown ⟨.refl, ?_, hmembership'⟩
    simp only [groupInForce, hgroup', if_pos hc.2.1.symm]
  · rename_i hc
    refine ⟨(hs _ e (hendpoint₁ ▸ hi) htype).congr hown ⟨.refl, ?_, hmembership'.trans hmembership₁⟩,
      retained_of_same hown⟩
    simp only [groupInForce, hgroup', hgroup₁]
    split
    · rename_i hmember
      -- the group of this environment, whose policies are as they were
      have hsame : payload.updateAuthorizations group = false := by
        rw [← Bool.not_eq_true]
        exact fun hupdate => hc ⟨hupdate, hmember.symm, htype⟩
      have hin : s.dataStore.endpointGroup.get? e.groupID = some group := by
        rw [← hmember]
        exact hid ▸ hgroup
      obtain ⟨huser, hteam⟩ : payload.userAccessPolicies.getD group.userAccessPolicies =
          group.userAccessPolicies ∧ payload.teamAccessPolicies.getD group.teamAccessPolicies =
          group.teamAccessPolicies := by
        simpa [EndpointGroupUpdatePayload.updateAuthorizations] using hsame
      rw [hin]
      exact congrArg some (Prod.ext huser hteam)
    · rfl

/-! ## The deletion of a group -/

/-- The endpoint once the group is gone: in group 1 if it was in this one
and is not still to come. -/
def unassigned (id : EndpointGroupID) (l : List Endpoint) (e : Endpoint) : Endpoint :=
  if e.groupID = id ∧ e ∉ l then { e with groupID := 1 } else e

/-- The loop over the endpoints, with those of `l` still to come. -/
structure Unassigning (id : EndpointGroupID) (s : Server) (l : List Endpoint) (s' : Server) : Prop where
  endpoint : ∀ i, s'.dataStore.endpoint.get? i = (s.dataStore.endpoint.get? i).map (unassigned id l)
  endpointGroup : ∀ j, s'.dataStore.endpointGroup.get? j =
    if id = j then none else s.dataStore.endpointGroup.get? j
  memberships : s'.dataStore.teamMembership = s.dataStore.teamMembership
  policies : ∀ i, policies i s' = policies i s
  todo : ∀ e ∈ l, s.dataStore.endpoint.get? e.id = some e
  nodup : l.Nodup

theorem ensures_unassignMember {id : EndpointGroupID} {l : List Endpoint}
    (h : Unassigning id s (e :: l) s') :
    Ensures (unassignMember id e) s' fun _ s'' => Unassigning id s l s'' := by
  obtain ⟨hnotin, hnodup⟩ := List.nodup_cons.mp h.nodup
  have htodo : ∀ e' ∈ l, s.dataStore.endpoint.get? e'.id = some e' :=
    fun e' he' => h.todo e' (List.mem_cons_of_mem _ he')
  have hget := h.todo e List.mem_cons_self
  -- the turn changes this endpoint, if any
  have hother : ∀ e', e' ≠ e → unassigned id (e :: l) e' = unassigned id l e' := by
    intro e' hne
    simp only [unassigned, List.mem_cons, hne, false_or]
  unfold unassignMember
  split
  · rename_i hmember
    refine ensures_moveEndpoint.conseq fun _ s'' h'' => ?_
    have hplaced := placed_put h''
    refine ⟨fun i => ?_, fun j => ?_, hplaced.memberships.trans h.memberships, fun i => ?_, htodo, hnodup⟩
    · rw [hplaced.endpoint, h.endpoint]
      split
      · rename_i hi
        have hi : e.id = i := hi
        rw [← hi, hget, Option.map_some, unassigned, if_pos ⟨hmember, hnotin⟩]
      · rename_i hi
        cases hs : s.dataStore.endpoint.get? i with
        | none => rfl
        | some e' =>
          have hne : e' ≠ e := by
            rintro rfl
            exact hi (Bucket.key_of_get? hs)
          rw [Option.map_some, Option.map_some, hother e' hne]
    · rw [hplaced.endpointGroup, h.endpointGroup]
    · rw [policies_of_accessPart h'', ← h.policies]
      rfl
  · rename_i hmember
    refine .pure ⟨fun i => ?_, h.endpointGroup, h.memberships, h.policies, htodo, hnodup⟩
    rw [h.endpoint]
    refine Option.map_congr fun e' he' => ?_
    by_cases heq : e' = e
    · simp only [unassigned, heq, hmember, false_and, if_false]
    · exact hother e' heq

/-- **The deletion of a group respects the policies** if nobody they name
loses access with the group. -/
theorem respects_endpointGroupDelete {id : EndpointGroupID} (hs : Clean s)
    (hc : ∀ i e, s.dataStore.endpoint.get? i = some e → e.groupID = id →
      isKubernetesEndpoint e.type = true → Covered s { e with groupID := 1 }) :
    Ensures (endpointGroupDelete id) s fun _ s' => Respects s s' := by
  refine .require_bind fun hid => .read_bind returns_getObject_mapError fun group _ => ?_
  refine .move_bind ensures_deleteObject_mapError fun _ => ?_
  refine .read_bind returns_getAll_mapError fun endpoints hall => ?_
  have hstart : Unassigning id s endpoints (Server.endpointGroup.change (·.delete id) s) := by
    rw [hall]
    refine ⟨fun i => ?_, fun j => Bucket.get?_delete, rfl, fun _ => rfl,
      fun e he => Bucket.mem_all.mp he, (Bucket.nodup_keys_all _).of_map⟩
    cases hi : s.dataStore.endpoint.get? i with
    | none => exact hi
    | some e =>
      have hmem : e ∈ s.dataStore.endpoint.all := Bucket.mem_all_of_get? hi
      rw [Option.map_some, unassigned, if_neg fun h => h.2 hmem]
      exact hi
  refine (Ensures.forM_todo hstart fun e l s' h => ensures_unassignMember h).bind fun _ s₁ h => ?_
  have htags : Frames (changeTags (.internalServerError "Unable to retrieve tag from the database")
      persistTag (withoutEndpointGroup group.id) group.tagIDs) accessPart :=
    frames_changeTags.mono accessPart fun _ => rfl
  refine (htags.ensures s₁).conseq fun _ s' h' i e hi htype => ?_
  have hp' := policies_of_accessPart h'
  simp only [accessPart, Prod.mk.injEq] at h'
  obtain ⟨hendpoint', hgroup', hmembership', -⟩ := h'
  rw [hendpoint', h.endpoint] at hi
  obtain ⟨e₀, hi₀, rfl⟩ := Option.map_eq_some_iff.mp hi
  have hown : ∀ i, policies i s' = policies i s := fun i => (hp' i).trans (h.policies i)
  have hmembership : s'.dataStore.teamMembership = s.dataStore.teamMembership :=
    hmembership'.trans h.memberships
  by_cases hm : e₀.groupID = id
  · have hmoved : unassigned id [] e₀ = { e₀ with groupID := 1 } := if_pos ⟨hm, nofun⟩
    rw [hmoved] at htype ⊢
    refine ⟨(hc i e₀ hi₀ hm htype).congr (hown _) ⟨.refl, ?_, hmembership⟩, retained_of_same (hown _)⟩
    simp only [groupInForce, hgroup', h.endpointGroup, if_neg hid]
  · have hkept : unassigned id [] e₀ = e₀ := if_neg fun h => hm h.1
    rw [hkept] at htype ⊢
    refine ⟨(hs i e₀ hi₀ htype).congr (hown _) ⟨.refl, ?_, hmembership⟩, retained_of_same (hown _)⟩
    simp only [groupInForce, hgroup', h.endpointGroup, if_neg (Ne.symm hm)]

/-! ## Runs -/

/-- The requests that change who may access a Kubernetes environment. -/
def Request.ChangesAccess : Request → Prop
  | .endpointUpdate .. | .endpointGroupAddEndpoint .. | .endpointGroupDeleteEndpoint .. => True
  | .endpointGroupUpdate .. | .endpointGroupDelete .. => True
  | _ => False

/-- **The request takes the access from no one the policies name**, where
it moves a Kubernetes environment to another group and changes no policies
of the endpoint itself. -/
def KeepsNamed (s : Server) (a : Attempt) : Prop :=
  match a.request with
  | .endpointUpdate id payload => ∀ e, s.dataStore.endpoint.get? id = some e →
      isKubernetesEndpoint e.type = true → payload.groupIDChanged e = true →
        payload.updateAuthorizations e = false → Covered s (payload.withFields e)
  | .endpointGroupAddEndpoint id endpointID => ∀ e, s.dataStore.endpoint.get? endpointID = some e →
      isKubernetesEndpoint e.type = true → Covered s { e with groupID := id }
  | .endpointGroupDeleteEndpoint _ endpointID => ∀ e, s.dataStore.endpoint.get? endpointID = some e →
      isKubernetesEndpoint e.type = true → Covered s { e with groupID := 1 }
  | .endpointGroupDelete id => ∀ i e, s.dataStore.endpoint.get? i = some e → e.groupID = id →
      isKubernetesEndpoint e.type = true → Covered s { e with groupID := 1 }
  | _ => True

/-- A request that succeeds leaves what its handler ensures. -/
theorem of_step {a : Attempt} {Q : Server → Prop} (h : Ensures (handle services a.request) s fun _ => Q)
    (hstep : (successes services).step s a = some s') : Q s' := by
  unfold successes at hstep
  rcases hrun : (handle services a.request).run (a.sys s) with ⟨e | u, w⟩
  · simp [hrun] at hstep
  · simp only [hrun, Option.some.injEq] at hstep
    exact hstep ▸ h _ _ _ rfl hrun

/-- **One request that succeeds respects the policies.** -/
theorem respects_of_step {a : Attempt} (hs : Clean s) (hkind : a.request.ChangesAccess)
    (hC : KeepsNamed s a) (hstep : (successes services).step s a = some s') : Respects s s' := by
  refine of_step ?_ hstep
  obtain ⟨request, faults⟩ := a
  cases request
  case endpointUpdate id payload =>
    exact (respects_endpointUpdate hs hC).bind fun _ _ h => .pure h
  case endpointGroupUpdate id payload =>
    exact (respects_endpointGroupUpdate hs).bind fun _ _ h => .pure h
  case endpointGroupDelete id => exact respects_endpointGroupDelete hs hC
  case endpointGroupAddEndpoint id endpointID => exact respects_addEndpoint hs hC
  case endpointGroupDeleteEndpoint id endpointID => exact respects_deleteEndpoint hs hC
  all_goals exact hkind.elim

/-- **Namespace policies imply access** after each request of a run whose
requests change who may access an environment and take the access from no
one the policies name; and those with access keep their policies. -/
theorem respects_of_run {attempts : List Attempt} (hs : Clean s)
    (hC : (successes services).Along (fun s a => a.request.ChangesAccess ∧ KeepsNamed s a) s attempts) :
    (successes services).Along
      (fun s a => ∀ s', (successes services).step s a = some s' → Respects s s') s attempts :=
  Machine.along_of_invariant (fun _ _ _ hs hC hstep => (respects_of_step hs hC.1 hC.2 hstep).clean)
    (fun _ _ hs hC _ hstep => respects_of_step hs hC.1 hC.2 hstep) hs hC

/-- A Kubernetes environment in group 2, through which user 7 has access to
it, and a policy of user 7 in namespace dev. -/
def devEnvironment : Server where
  dataStore :=
    { endpoint := ({} : Bucket Endpoint).put
        { id := 4, type := .kubernetesLocalEnvironment, groupID := 2 }
      endpointGroup := (({} : Bucket EndpointGroup).put { id := 1 }).put
        { id := 2, userAccessPolicies := {(7, {})} } }
  configMaps := {(4, ⟨0, some {("dev", { userAccessPolicies := {(7, {})} })}⟩)}

theorem clean_devEnvironment : Clean devEnvironment := by
  intro i e hi _ p hp ns policy hns
  change (({} : Bucket Endpoint).put _).get? i = some e at hi
  rw [Bucket.get?_put] at hi
  split at hi
  · obtain rfl := Option.some.inj hi
    have hstored : policies 4 devEnvironment =
      some (some {("dev", { userAccessPolicies := {(7, {})} })}) := by decide
    obtain rfl := Option.some.inj (Option.some.inj (hstored.symm.trans hp))
    change ((∅ : NamespaceAccessPolicies).insert "dev" _)[ns]? = some policy at hns
    rw [Std.ExtTreeMap.getElem?_insert] at hns
    split at hns
    · obtain rfl := Option.some.inj hns
      refine ⟨fun u hu => ?_, fun t ht => ?_⟩
      · have hu7 : 7 = u := by
          change u ∈ (∅ : UserAccessPolicies).insert 7 _ at hu
          simpa [Std.ExtTreeMap.mem_insert] using hu
        subst hu7
        decide
      · simp at ht
    · simp at hns
  · simp at hi

theorem respects_of_run_dev :
    (successes plainServices).Along
      (fun s a => ∀ s', (successes plainServices).step s a = some s' → Respects s s') devEnvironment
      [⟨.endpointGroupUpdate 2 { userAccessPolicies := some ∅ }, fun _ => []⟩] :=
  respects_of_run clean_devEnvironment ⟨⟨trivial, trivial⟩, fun _ _ => trivial⟩

/-- **Taken out of the group**, the environment is no longer accessible to
user 7, whose policy stays. -/
theorem not_respects_of_move : Clean devEnvironment ∧ ∃ s',
    (successes plainServices).step devEnvironment
        ⟨.endpointGroupDeleteEndpoint 2 4, fun _ => []⟩ = some s' ∧ ¬ Clean s' := by
  refine ⟨clean_devEnvironment, _, rfl, fun h => ?_⟩
  have hcovered := h 4 { id := 4, type := .kubernetesLocalEnvironment, groupID := 1 } (by decide) (by decide)
  have hnamed := hcovered {("dev", { userAccessPolicies := {(7, {})} })} (by decide) "dev"
    { userAccessPolicies := {(7, {})} } (by decide)
  exact absurd (hnamed.1 7 (by decide)) (by decide)

end Inventory

end Portainer
