import Portainer.Inventory.Helpers.Endpoints
import Portainer.Inventory.Helpers.Frames
import Portainer.Model.Bouncer
/-!
# Group references — every endpoint's group exists

A creation and an update of an endpoint persist the group identifier of the
payload before they look the group up, and the deletion of a group removes
it before it moves its endpoints. `NamesGroups` says that a request does
neither with a group that is not there and not with a failure in between;
along such requests, successful or not, the group of every endpoint exists
(`grouped_of_run`), so the filter of the endpoints dereferences no missing
group and agrees with the check.
-/

namespace Portainer

open Action (Meets Ensures Keeps Frames)
open Tunnel (isEdge)

namespace Inventory

open Table

variable {services : Services} {s s' : Server} {k : EndpointGroupID}

/-! ## The invariant -/

/-- The group is there. -/
def HasGroup (s : Server) (k : EndpointGroupID) : Prop :=
  (s.dataStore.endpointGroup.get? k).isSome

instance : Decidable (HasGroup s k) := inferInstanceAs (Decidable (_ = true))

/-- **Every endpoint's group exists**, and so does the group of the
endpoints without another. -/
structure Grouped (s : Server) : Prop where
  unassigned : HasGroup s 1
  named : ∀ i endpoint, s.dataStore.endpoint.get? i = some endpoint → HasGroup s endpoint.groupID

/-- Every endpoint's group exists, and the group `k` as well. -/
structure Offers (k : EndpointGroupID) (s : Server) : Prop extends Grouped s where
  given : HasGroup s k

/-- The endpoints and the groups, by identifier. -/
def environments (s : Server) :
    (EndpointID → Option Endpoint) × (EndpointGroupID → Option EndpointGroup) :=
  (s.dataStore.endpoint.get?, s.dataStore.endpointGroup.get?)

theorem Offers.congr (hs : Offers k s) (h : environments s = environments s') : Offers k s' := by
  simp only [environments, Prod.mk.injEq] at h
  have hgroup : ∀ j, HasGroup s j → HasGroup s' j := fun j hj => by
    rwa [HasGroup, ← h.2]
  refine ⟨⟨hgroup 1 hs.unassigned, fun i endpoint hi => ?_⟩, hgroup k hs.given⟩
  rw [← h.1] at hi
  exact hgroup _ (hs.named i endpoint hi)

theorem Grouped.offers (h : Grouped s) : Offers 1 s := ⟨h, h.unassigned⟩

theorem keeps_of_frames {α ε : Type} {x : Action Callee Server ε α} (h : Frames x environments) :
    Keeps x (Offers k) :=
  h.keeps fun _ _ he hs => hs.congr he

/-- A program that keeps the groups, from where the group `k` is there. -/
theorem meets_grouped {α ε : Type} {x : Action Callee Server ε α} {R : Callee → Prop}
    {P : Server → Prop} (h : Keeps x (Offers k)) (hP : ∀ s, P s → Offers k s) :
    Meets R P x (fun _ => Grouped) fun _ => Grouped :=
  (h _).conseq hP (fun _ _ hs => hs.toGrouped) fun _ _ hs => hs.toGrouped

/-! ### Writes -/

theorem HasGroup.put (g : EndpointGroup) (h : HasGroup s k) :
    HasGroup (Server.endpointGroup.change (·.put g) s) k := by
  change ((s.dataStore.endpointGroup.put g).get? k).isSome
  rw [Bucket.get?_put]
  split
  · rfl
  · exact h

theorem Offers.put_group {g : EndpointGroup} (h : Offers k s) :
    Offers k (Server.endpointGroup.change (·.put g) s) :=
  ⟨⟨h.unassigned.put g, fun i endpoint hi => (h.named i endpoint hi).put g⟩, h.given.put g⟩

/-- A group that is put is there. -/
theorem Grouped.put_group {g : EndpointGroup} (h : Grouped s) :
    Offers g.id (Server.endpointGroup.change (·.put g) s) := by
  refine ⟨h.offers.put_group.toGrouped, ?_⟩
  change ((s.dataStore.endpointGroup.put g).get? (key g)).isSome
  rw [Bucket.get?_put_self]
  rfl

theorem Offers.put_endpoint {endpoint : Endpoint} (h : Offers k s) (hk : endpoint.groupID = k) :
    Offers k (Server.endpoint.change (·.put endpoint) s) := by
  refine ⟨⟨h.unassigned, fun i endpoint' hi => ?_⟩, h.given⟩
  change (s.dataStore.endpoint.put endpoint).get? i = some endpoint' at hi
  rw [Bucket.get?_put] at hi
  split at hi
  · obtain rfl := Option.some.inj hi
    rw [hk]
    exact h.given
  · exact h.named i endpoint' hi

theorem Offers.delete_endpoint {i : EndpointID} (h : Offers k s) :
    Offers k (Server.endpoint.change (·.delete i) s) := by
  refine ⟨⟨h.unassigned, fun j endpoint' hj => ?_⟩, h.given⟩
  change (s.dataStore.endpoint.delete i).get? j = some endpoint' at hj
  rw [Bucket.get?_delete] at hj
  split at hj
  · nomatch hj
  · exact h.named j endpoint' hj

/-! ### What does not touch endpoints and groups -/

theorem keeps_changeTags {unfound unpersisted : String → HandlerError} {change : Tag → Tag}
    {tagIDs : List TagID} : Keeps (changeTags unfound unpersisted change tagIDs) (Offers k) :=
  keeps_of_frames (frames_changeTags.mono environments fun _ => rfl)

theorem keeps_replaceTags {off on : Tag → Tag} {tagIDs : List TagID}
    {payloadTagIDs : Option (List TagID)} :
    Keeps (replaceTags off on tagIDs payloadTagIDs) (Offers k) :=
  keeps_of_frames (frames_replaceTags.mono environments fun _ => rfl)

theorem keeps_updateEndpointRelations {endpoint : Endpoint} {endpointGroup : Option EndpointGroup} :
    Keeps (updateEndpointRelations endpoint endpointGroup) (Offers k) :=
  keeps_of_frames (frames_updateEndpointRelations.mono environments fun _ => rfl)

/-! ## Endpoints -/

theorem keeps_persistEndpoint {endpoint : Endpoint} (hk : endpoint.groupID = k) :
    Keeps (persistEndpoint endpoint) (Offers k) := by
  refine .call fun s hs => (hs.put_endpoint hk).congr ?_
  refine Prod.ext (funext fun i => ?_) rfl
  exact Bucket.get?_put.trans Bucket.get?_put.symm

theorem keeps_getNextEndpointIdentifier :
    Keeps (Server.endpoint.getNextIdentifier : Action Callee Server HandlerError Int) (Offers k) :=
  keeps_getNextIdentifier fun _ hs => hs.congr rfl

theorem keeps_save {endpoint : Endpoint} (hk : endpoint.groupID = k) :
    Keeps (saveEndpointAndUpdateAuthorizations endpoint) (Offers k) := by
  refine .bind (.mapError (keeps_persistEndpoint ?_)) fun _ => .bind keeps_changeTags fun _ => .pure
  exact hk

theorem keeps_snapshotAndPersist {endpoint : Endpoint} (hk : endpoint.groupID = k) :
    Keeps (snapshotAndPersistEndpoint endpoint) (Offers k) :=
  .bind keeps_service fun _ => keeps_save hk

theorem groupID_storeTLSFiles {endpoint : Endpoint} {payload : EndpointCreatePayload} :
    Ensures (storeTLSFiles services endpoint payload) s fun endpoint' _ =>
      endpoint'.groupID = endpoint.groupID := by
  intro w endpoint' w' _ hrun
  obtain ⟨_, _, -, hrun⟩ := Action.bind_run_ok.mp hrun
  obtain ⟨_, _, -, hrun⟩ := Action.bind_run_ok.mp hrun
  obtain ⟨_, _, -, hrun⟩ := Action.bind_run_ok.mp hrun
  obtain ⟨rfl, -⟩ := Action.pure_run_ok.mp hrun
  rfl

/-- Every way of a creation persists the endpoint with the group of the
payload. -/
theorem keeps_createEndpoint {payload : EndpointCreatePayload} :
    Keeps (createEndpoint services payload) (Offers payload.groupID) := by
  have hdocker : ∀ (payload' : EndpointCreatePayload) endpointType,
      payload'.groupID = payload.groupID →
        Keeps (createDockerEndpoint services payload' endpointType) (Offers payload.groupID) := by
    intro payload' endpointType hk
    refine .ite (fun _ => ?_) fun _ => ?_
    · refine .bind keeps_getNextEndpointIdentifier fun _ => ?_
      refine .bind_of (keeps_storeTLSFiles.returning fun _ => groupID_storeTLSFiles) fun _ hk' => ?_
      exact keeps_snapshotAndPersist (hk'.trans hk)
    · exact .bind keeps_getNextEndpointIdentifier fun _ => keeps_snapshotAndPersist hk
  unfold createEndpoint
  split
  · exact .bind keeps_service fun _ => .bind keeps_getNextEndpointIdentifier fun _ => keeps_save rfl
  · exact .bind keeps_getNextEndpointIdentifier fun _ => .bind (.mapError .ofExcept) fun _ =>
      .bind .require fun _ => keeps_save rfl
  · exact .bind keeps_getNextEndpointIdentifier fun _ => keeps_snapshotAndPersist rfl
  · refine .bind keeps_service fun _ => ?_
    cases services.agentPlatform payload.url with
    | docker => exact hdocker payload _ rfl
    | kubernetes => exact hdocker _ _ rfl
    | other => exact hdocker payload _ rfl
  · exact hdocker payload _ rfl

/-- The payload passes the checks that come before the endpoint is
persisted. -/
def Accepted (services : Services) (payload : EndpointCreatePayload) : Prop :=
  payload.validate = none ∧ (payload.endpointCreationType = some .edgeAgentEnvironment →
    ∃ host, services.portainerHost payload.url = .ok host ∧ host ≠ "localhost")

/-- An Edge endpoint with a URL that is refused is not persisted. -/
theorem keeps_createEdgeAgent_of_refused {payload : EndpointCreatePayload}
    (h : ¬ ∃ host, services.portainerHost payload.url = .ok host ∧ host ≠ "localhost") :
    Keeps (createEdgeAgentEndpoint services payload) (Offers k) := by
  refine .bind keeps_getNextEndpointIdentifier fun _ => ?_
  cases hhost : services.portainerHost payload.url with
  | error e => exact .bind_of (Q := fun _ => False) (fun _ => .mapError (.fail fun _ hs => hs)) nofun
  | ok host =>
    have hlocal : host = "localhost" := by
      by_contra hne
      exact h ⟨host, hhost, hne⟩
    subst hlocal
    refine .bind_of (Q := (· = "localhost")) (fun _ => .mapError (.pure fun _ hs => ⟨hs, rfl⟩))
      fun host hhost => ?_
    subst hhost
    exact .bind_of (Q := fun _ => False) (fun _ => .require (fun _ _ hne => absurd rfl hne)
      fun _ hs _ => hs) nofun

theorem meets_endpointCreate {payload : EndpointCreatePayload} : Meets (fun _ => False)
    (fun s => Grouped s ∧ (Accepted services payload → HasGroup s payload.normalize.groupID))
    (endpointCreate services payload) (fun _ => Grouped) fun _ => Grouped := by
  unfold endpointCreate
  cases hvalid : payload.validate with
  | some err => exact .fail fun _ hs => hs.1
  | none =>
    have hrest : ∀ k endpoint, Keeps (do createRelation endpoint; return endpoint) (Offers k) :=
      fun k endpoint => .bind (keeps_of_frames (frames_createRelation.mono environments fun _ => rfl))
        fun _ => .pure
    by_cases hedge : payload.endpointCreationType = some .edgeAgentEnvironment →
        ∃ host, services.portainerHost payload.url = .ok host ∧ host ≠ "localhost"
    · exact meets_grouped (keeps_createEndpoint.bind (hrest _)) fun s hs =>
        ⟨hs.1, hs.2 ⟨hvalid, hedge⟩⟩
    · obtain ⟨htype, hrefused⟩ := Classical.not_imp.mp hedge
      have hurl : payload.normalize.url = payload.url := by
        simp [EndpointCreatePayload.normalize, htype]
      have hcreate : Keeps (createEndpoint services payload.normalize) (Offers 1) := by
        have htype' : payload.normalize.endpointCreationType = some .edgeAgentEnvironment := htype
        unfold createEndpoint
        rw [htype']
        exact keeps_createEdgeAgent_of_refused (by rwa [hurl])
      exact meets_grouped (hcreate.bind (hrest _)) fun s hs => hs.1.offers

theorem groupID_updateAzureCredentials {payload : EndpointUpdatePayload} {endpoint : Endpoint} :
    Ensures (updateAzureCredentials payload endpoint) s fun endpoint' _ =>
      endpoint'.groupID = endpoint.groupID :=
  (runs_updateAzureCredentials (E := fun _ => True)).ensures.conseq fun _ _ h => by rw [h.2]

theorem groupID_updateTLS {payload : EndpointUpdatePayload} {endpoint : Endpoint} :
    Ensures (updateTLS services payload endpoint) s fun endpoint' _ =>
      endpoint'.groupID = endpoint.groupID :=
  (runs_updateTLS (E := fun _ => True)).ensures.conseq fun _ _ h => by rw [h.2]

/-- An update persists the endpoint with the group of the payload, or else
with the one it has. -/
theorem meets_endpointUpdate {id : EndpointID} {payload : EndpointUpdatePayload} :
    Meets (fun _ => False)
      (fun s => Grouped s ∧ ∀ endpoint, s.dataStore.endpoint.get? id = some endpoint →
        HasGroup s (payload.groupID.getD endpoint.groupID))
      (endpointUpdate services id payload) (fun _ => Grouped) fun _ => Grouped := by
  refine .bind (M := fun endpoint => Offers (payload.groupID.getD endpoint.groupID))
    (.mapError (.lookup (fun s endpoint hs hget => ⟨hs.1, hs.2 endpoint hget⟩) (fun _ hs _ => hs.1)
      fun _ _ _ hs => hs.1)) fun endpoint => ?_
  refine meets_grouped ?_ fun _ hs => hs
  refine Keeps.bind keeps_replaceTags fun tagIDs => ?_
  refine Keeps.bind_of (keeps_updateAzureCredentials.returning fun _ => groupID_updateAzureCredentials)
    fun endpoint₁ h₁ => ?_
  refine Keeps.bind_of (keeps_updateTLS.returning fun _ => groupID_updateTLS) fun endpoint₂ h₂ => ?_
  have hk : endpoint₂.groupID = payload.groupID.getD endpoint.groupID := h₂.trans h₁
  refine Keeps.bind (.ite (fun _ => keeps_service) fun _ => .pure) fun _ => ?_
  refine Keeps.bind (.ite (fun _ => .mapError ?_) fun _ => .pure) fun _ => ?_
  · exact keeps_of_frames (frames_cleanNAP.mono (fun db => (db.endpoint.get?, db.endpointGroup.get?))
      fun _ => rfl)
  · refine Keeps.bind (keeps_updateObject fun _ hs => hs.put_endpoint hk) fun _ => ?_
    refine Keeps.ite (fun _ => .bind ?_ fun _ => .pure) fun _ => .pure
    exact keeps_of_frames (frames_refreshRelation.mono environments fun _ => rfl)

theorem keeps_endpointDelete {id : EndpointID} : Keeps (endpointDelete id) (Offers k) := by
  refine .bind keeps_getObject fun endpoint => .bind (.ite (fun _ => keeps_service) fun _ => .pure)
    fun _ => .bind (keeps_deleteObject fun _ hs => hs.delete_endpoint) fun _ => ?_
  refine .bind (keeps_deleteObject fun _ hs => hs.congr rfl) fun _ => .bind keeps_changeTags fun _ => ?_
  refine .bind keeps_getAll fun _ => .bind (.forM fun _ _ => ?_) fun _ => .bind keeps_getAll fun _ =>
    .bind (.forM fun _ _ => ?_) fun _ => .bind keeps_getAll fun _ => .forM fun _ _ => ?_
  all_goals exact .ite (fun _ => keeps_updateObject fun _ hs => hs.congr rfl) fun _ => .pure

/-! ## Endpoint groups -/

theorem keeps_moveEndpoint {unpersisted : String → HandlerError} {endpoint : Endpoint}
    {endpointGroup : Option EndpointGroup} :
    Keeps (moveEndpoint unpersisted endpoint k endpointGroup) (Offers k) :=
  .bind (keeps_updateObject fun _ hs => hs.put_endpoint rfl) fun _ =>
    keeps_updateEndpointRelations.mapError

theorem meets_endpointGroupCreate {payload : EndpointGroupCreatePayload} : Meets (fun _ => False)
    Grouped (endpointGroupCreate payload) (fun _ => Grouped) fun _ => Grouped := by
  refine .bind (M := fun _ => Grouped) (.require (fun _ hs _ => hs) fun _ hs _ => hs) fun _ => ?_
  refine .bind (M := fun id => Offers id) (.mapError ?_) fun id => ?_
  · unfold createObject
    refine .bind (M := fun _ => Grouped) (.get fun _ hs => hs) fun id => ?_
    refine .bind (M := fun _ => Offers id) (.call (fun s hs => ?_) fun _ _ _ hs => hs) fun _ =>
      .pure fun _ hs => hs
    have hput : Offers id (Server.endpointGroup.change (·.put (payload.endpointGroup id)) s) :=
      hs.put_group (g := payload.endpointGroup id)
    refine hput.congr (Prod.ext rfl (funext fun i => ?_))
    exact Bucket.get?_put.trans Bucket.get?_put.symm
  · refine meets_grouped ?_ fun _ hs => hs
    refine Keeps.bind keeps_getAll fun endpoints => .bind (.forM fun i _ => ?_) fun _ =>
      .bind keeps_changeTags fun _ => .pure
    unfold associateEndpoint
    split
    · exact .pure
    · exact keeps_moveEndpoint

theorem keeps_endpointGroupUpdate {id : EndpointGroupID} {payload : EndpointGroupUpdatePayload} :
    Keeps (endpointGroupUpdate id payload) (Offers k) := by
  refine .bind keeps_getObject fun endpointGroup => .bind keeps_replaceTags fun _ => .bind ?_ fun _ =>
    .bind (keeps_updateObject fun _ hs => hs.put_group) fun _ => .bind ?_ fun _ => .pure
  · refine .ite (fun _ => .bind keeps_getAll fun _ => .forM fun _ _ => ?_) fun _ => .pure
    refine .ite (fun _ => .mapError ?_) fun _ => .pure
    exact keeps_of_frames (frames_cleanNAP.mono (fun db => (db.endpoint.get?, db.endpointGroup.get?))
      fun _ => rfl)
  · refine .ite (fun _ => .bind keeps_getAll fun _ => .forM fun _ _ => ?_) fun _ => .pure
    exact .ite (fun _ => keeps_updateEndpointRelations.mapError) fun _ => .pure

theorem meets_endpointGroupAddEndpoint {id : EndpointGroupID} {endpointID : EndpointID} :
    Meets (fun _ => False) Grouped (endpointGroupAddEndpoint id endpointID) (fun _ => Grouped)
      fun _ => Grouped := by
  refine .bind (M := fun endpointGroup => Offers endpointGroup.id) (.mapError (.lookup
    (fun s endpointGroup hs hget => ⟨hs, ?_⟩) (fun _ hs _ => hs) fun _ _ _ hs => hs))
    fun endpointGroup => ?_
  · have hid : endpointGroup.id = id := Bucket.key_of_get? hget
    change (s.dataStore.endpointGroup.get? endpointGroup.id).isSome
    rw [hid]
    exact Option.isSome_of_eq_some hget
  · exact meets_grouped (Keeps.bind keeps_getObject fun _ => keeps_moveEndpoint) fun _ hs => hs

theorem keeps_endpointGroupDeleteEndpoint {id : EndpointGroupID} {endpointID : EndpointID} :
    Keeps (endpointGroupDeleteEndpoint id endpointID) (Offers 1) :=
  .bind keeps_getObject fun _ => .bind keeps_getObject fun _ => keeps_moveEndpoint

/-! ## The deletion of a group -/

/-- The endpoints of a group, in the order of the database. -/
def members (id : EndpointGroupID) (s : Server) : List Endpoint :=
  s.dataStore.endpoint.all.filter (·.groupID = id)

/-- How many of the endpoints have a relation to bring up to date. -/
def edgeCount (endpoints : List Endpoint) : ℕ := endpoints.countP (isEdge ·.type)

/-- **If the group gets removed, its endpoints get moved**: the relations of
the Edge endpoints are there, and no call fails until the last endpoint has
been written. It takes two reads and two writes, one more write for each
endpoint but the last, and four reads and a write more for each Edge
endpoint but the last. -/
def MovesMembers (id : EndpointGroupID) (w : Sys Callee Server) : Prop :=
  let others := (members id w.store).dropLast
  id ≠ 1 → HasGroup w.store id → w.fault .databaseRead = none → w.fault .databaseWrite = none →
    members id w.store ≠ [] →
      (∀ endpoint ∈ others, isEdge endpoint.type = true →
        (w.store.dataStore.endpointRelation.get? endpoint.id).isSome) ∧
      w.Clear .databaseRead (4 * edgeCount others + 2) ∧
      w.Clear .databaseWrite (others.length + edgeCount others + 2)

/-- Every endpoint's group exists, but for those that are still to be
moved. -/
structure Pending (l : List Endpoint) (s : Server) : Prop where
  unassigned : HasGroup s 1
  named : ∀ i endpoint, s.dataStore.endpoint.get? i = some endpoint →
    HasGroup s endpoint.groupID ∨ endpoint ∈ l

theorem Pending.grouped (h : Pending [] s) : Grouped s :=
  ⟨h.unassigned, fun i endpoint hi => (h.named i endpoint hi).resolve_right nofun⟩

/-- The first endpoint has been moved. -/
theorem Pending.move {endpoint : Endpoint} {l : List Endpoint} (h : Pending (endpoint :: l) s)
    (he : environments s' =
      environments (Server.endpoint.change (·.put { endpoint with groupID := 1 }) s)) :
    Pending l s' := by
  simp only [environments, Prod.mk.injEq] at he
  have hgroup : ∀ j, HasGroup s j → HasGroup s' j := fun j hj => by
    rw [HasGroup, he.2]
    exact hj
  refine ⟨hgroup 1 h.unassigned, fun i endpoint' hi => ?_⟩
  rw [he.1] at hi
  change (s.dataStore.endpoint.put { endpoint with groupID := 1 }).get? i = some endpoint' at hi
  rw [Bucket.get?_put] at hi
  split at hi
  · obtain rfl := Option.some.inj hi
    exact .inl (hgroup 1 h.unassigned)
  · rename_i hne
    rcases h.named i endpoint' hi with hj | hmem
    · exact .inl (hgroup _ hj)
    · rcases List.mem_cons.mp hmem with rfl | hmem
      · exact absurd (Bucket.key_of_get? hi) hne
      · exact .inr hmem

/-- The relation of an Edge endpoint is brought up to date where its calls
go through. -/
theorem updateEndpointRelations_run_ok (endpoint : Endpoint) (w : Sys Callee Server)
    (hedge : isEdge endpoint.type = true) (hone : HasGroup w.store 1)
    (hrelation : (w.store.dataStore.endpointRelation.get? endpoint.id).isSome)
    (hread : w.Clear .databaseRead 4) (hwrite : w.fault .databaseWrite = none) :
    ∃ relation, (updateEndpointRelations endpoint none).run w = (.ok (),
      { ((((w.spend .databaseRead).spend .databaseRead).spend .databaseRead).spend
          .databaseRead).spend .databaseWrite with
        store := Server.endpointRelation.change (·.put relation) w.store }) := by
  obtain ⟨group, hgroup⟩ := Option.isSome_iff_exists.mp hone
  obtain ⟨relation, hrel⟩ := Option.isSome_iff_exists.mp hrelation
  simp only [Sys.clear_succ, Sys.clear_zero, and_true] at hread
  obtain ⟨hr₁, hr₂, hr₃, hr₄⟩ := hread
  have hw : ((((w.spend .databaseRead).spend .databaseRead).spend .databaseRead).spend
      .databaseRead).fault .databaseWrite = none := by
    rw [Sys.fault_spend_of_ne (by decide), Sys.fault_spend_of_ne (by decide),
      Sys.fault_spend_of_ne (by decide), Sys.fault_spend_of_ne (by decide), hwrite]
  unfold updateEndpointRelations givenOrUnassigned
  rw [if_pos hedge]
  exact ⟨_, Action.bind_run_ok.mpr ⟨group, _, Action.lookup_run_ok_iff.mpr ⟨hr₁, hgroup, rfl⟩,
    Action.bind_run_ok.mpr ⟨relation, _, Action.lookup_run_ok_iff.mpr ⟨hr₂, hrel, rfl⟩,
    Action.bind_run_ok.mpr ⟨_, _, Action.query_run_ok_iff.mpr ⟨hr₃, rfl, rfl⟩,
    Action.bind_run_ok.mpr ⟨_, _, Action.query_run_ok_iff.mpr ⟨hr₄, rfl, rfl⟩,
    Action.call_run_ok_iff.mpr ⟨hw, rfl⟩⟩⟩⟩⟩⟩

/-- One endpoint is moved where its calls go through. What was clear beyond
these calls still is. -/
theorem moveEndpoint_run_ok {unpersisted : String → HandlerError} {endpoint : Endpoint}
    {w : Sys Callee Server} {n m : ℕ} (hone : HasGroup w.store 1)
    (hrelation : isEdge endpoint.type = true →
      (w.store.dataStore.endpointRelation.get? endpoint.id).isSome)
    (hread : w.Clear .databaseRead (n + 4 * edgeCount [endpoint]))
    (hwrite : w.Clear .databaseWrite (m + edgeCount [endpoint] + 1)) :
    ∃ w', (moveEndpoint unpersisted endpoint 1 none).run w = (.ok (), w') ∧
      w'.Clear .databaseRead n ∧ w'.Clear .databaseWrite m ∧
      environments w'.store =
        environments (Server.endpoint.change (·.put { endpoint with groupID := 1 }) w.store) ∧
      ∀ i, (w.store.dataStore.endpointRelation.get? i).isSome →
        (w'.store.dataStore.endpointRelation.get? i).isSome := by
  let moved := { endpoint with groupID := 1 }
  let w₁ : Sys Callee Server :=
    { w.spend .databaseWrite with store := Server.endpoint.change (·.put moved) w.store }
  obtain ⟨hfault, hwrite⟩ := Sys.clear_succ.mp hwrite
  have hread : (w.spend .databaseWrite).Clear .databaseRead (n + 4 * edgeCount [endpoint]) :=
    (Sys.clear_spend_of_ne (by decide)).mpr hread
  have hput : (Server.endpoint.updateObject moved).run w = (.ok (), w₁) :=
    Action.call_run_ok_iff.mpr ⟨hfault, rfl⟩
  unfold moveEndpoint
  rw [Action.bind_run_of_ok (Action.mapError_run_ok.mpr hput)]
  by_cases hedge : isEdge endpoint.type = true
  · have hcount : edgeCount [endpoint] = 1 := by simp [edgeCount, hedge]
    rw [hcount] at hread hwrite
    obtain ⟨hfault₁, hwrite⟩ := Sys.clear_succ.mp hwrite
    obtain ⟨relation, hrun⟩ := updateEndpointRelations_run_ok moved w₁ hedge hone (hrelation hedge)
      (Sys.Clear.mono hread (by omega)) hfault₁
    refine ⟨_, Action.mapError_run_ok.mpr hrun, ?_, ?_, rfl, fun i hi => ?_⟩
    · simp only [Nat.mul_one, Sys.clear_succ] at hread
      obtain ⟨-, -, -, -, hread⟩ := hread
      exact (Sys.clear_spend_of_ne (show Callee.databaseRead ≠ .databaseWrite by decide)).mpr hread
    · rw [Sys.clear_withStore]
      simpa [w₁, Sys.Clear, Sys.spend] using hwrite
    · change ((w.store.dataStore.endpointRelation.put relation).get? i).isSome
      rw [Bucket.get?_put]
      split
      · rfl
      · exact hi
  · have hcount : edgeCount [endpoint] = 0 := by simp [edgeCount, hedge]
    rw [hcount] at hread hwrite
    refine ⟨w₁, ?_, hread, hwrite, rfl, fun i hi => hi⟩
    unfold updateEndpointRelations
    rw [if_neg hedge]
    rfl

/-- **The loop over the members** moves them all, or stops at the last, which
it has moved. -/
theorem grouped_moveMembers {unpersisted : String → HandlerError} (l : List Endpoint)
    (w : Sys Callee Server) (hpending : Pending l w.store)
    (hrelations : ∀ endpoint ∈ l.dropLast, isEdge endpoint.type = true →
      (w.store.dataStore.endpointRelation.get? endpoint.id).isSome)
    (hread : w.Clear .databaseRead (4 * edgeCount l.dropLast))
    (hwrite : w.Clear .databaseWrite (l.dropLast.length + edgeCount l.dropLast + 1)) :
    Grouped ((l.forM (moveEndpoint unpersisted · 1 none)).run w).2.store := by
  induction l generalizing w with
  | nil => exact hpending.grouped
  | cons endpoint l ih =>
    rw [Action.forM_cons]
    rcases l with _ | ⟨endpoint', l⟩
    · -- the last one: whatever comes after its write keeps the groups
      have hput : (Server.endpoint.updateObject { endpoint with groupID := 1 }).run w = (.ok (),
          { w.spend .databaseWrite with
            store := Server.endpoint.change (·.put { endpoint with groupID := 1 }) w.store }) :=
        Action.call_run_ok_iff.mpr ⟨(Sys.clear_succ.mp hwrite).1, rfl⟩
      have hgrouped := (hpending.move rfl).grouped
      have hmove : (moveEndpoint unpersisted endpoint 1 none).run w =
          ((updateEndpointRelations { endpoint with groupID := 1 } none).mapError
            relationsUnpersisted).run { w.spend .databaseWrite with
              store := Server.endpoint.change (·.put { endpoint with groupID := 1 }) w.store } := by
        unfold moveEndpoint
        exact Action.bind_run_of_ok (Action.mapError_run_ok.mpr hput)
      refine Keeps.store_bind ?_ fun _ => .pure
      rw [hmove]
      exact (keeps_updateEndpointRelations.mapError.store hgrouped.offers).toGrouped
    · rw [List.dropLast_cons_cons] at hrelations hread hwrite
      have hcount : edgeCount (endpoint :: (endpoint' :: l).dropLast) =
          edgeCount [endpoint] + edgeCount (endpoint' :: l).dropLast := by
        simp [edgeCount, List.countP_cons, Nat.add_comm]
      rw [hcount] at hread hwrite
      obtain ⟨w', hrun, hread', hwrite', hmoved, hsame⟩ := moveEndpoint_run_ok
        (n := 4 * edgeCount (endpoint' :: l).dropLast)
        (m := (endpoint' :: l).dropLast.length + edgeCount (endpoint' :: l).dropLast + 1)
        hpending.unassigned (hrelations endpoint List.mem_cons_self) (hread.mono (by omega))
        (hwrite.mono (by rw [List.length_cons]; omega))
      rw [Action.bind_run_of_ok hrun]
      exact ih w' (hpending.move hmoved)
        (fun e he hedge => hsame _ (hrelations e (List.mem_cons_of_mem _ he) hedge)) hread' hwrite'

/-- Without the group, its endpoints are to be moved. -/
theorem Grouped.pending_delete {id : EndpointGroupID} (h : Grouped s) (hid : id ≠ 1) :
    Pending (members id s) (Server.endpointGroup.change (·.delete id) s) := by
  have hgroup : ∀ j, id ≠ j → HasGroup s j → HasGroup (Server.endpointGroup.change (·.delete id) s) j := by
    intro j hj hhas
    change ((s.dataStore.endpointGroup.delete id).get? j).isSome
    rwa [Bucket.get?_delete_of_ne hj]
  refine ⟨hgroup 1 hid h.unassigned, fun i endpoint hi => ?_⟩
  by_cases hmember : endpoint.groupID = id
  · exact .inr (List.mem_filter.mpr ⟨Bucket.mem_all_of_get? hi, by simpa using hmember⟩)
  · exact .inl (hgroup _ (Ne.symm hmember) (h.named i endpoint hi))

/-- **The deletion of a group** leaves no endpoint in it, if the endpoints get
moved. -/
theorem grouped_endpointGroupDelete {id : EndpointGroupID} {w : Sys Callee Server}
    (hs : Grouped w.store) (hmoves : MovesMembers id w) :
    Grouped ((endpointGroupDelete id).run w).2.store := by
  unfold endpointGroupDelete
  by_cases hid : id ≠ 1
  · rw [Action.bind_run_of_ok (Action.require_run_of hid)]
    rcases hlookup : ((Server.endpointGroup.getObject id).mapError findEndpointGroup).run w with
      ⟨e | endpointGroup, w₁⟩
    · rw [Action.bind_run_of_error hlookup]
      have hstore : w₁.store = w.store := returns_getObject_mapError.run_error rfl hlookup
      exact hstore ▸ hs
    · rw [Action.bind_run_of_ok hlookup]
      obtain ⟨hread, hget, rfl⟩ := Action.lookup_run_ok_iff.mp (Action.mapError_run_ok.mp hlookup)
      have hfault : (w.spend .databaseRead).fault .databaseWrite = w.fault .databaseWrite :=
        Sys.fault_spend_of_ne (by decide)
      let s₁ := Server.endpointGroup.change (·.delete id) w.store
      cases hwrite : w.fault .databaseWrite with
      | some text =>
        have hdelete : (Server.endpointGroup.deleteObject id).run (w.spend .databaseRead) =
            (.error text, (w.spend .databaseRead).spend .databaseWrite) :=
          Action.call_run_of_some (hfault.trans hwrite)
        rw [Action.bind_run_of_error (Action.mapError_run_of_error hdelete)]
        exact hs
      | none =>
        have hdelete : (Server.endpointGroup.deleteObject id).run (w.spend .databaseRead) =
            (.ok (), { (w.spend .databaseRead).spend .databaseWrite with store := s₁ }) :=
          Action.call_run_of_none (hfault.trans hwrite)
        rw [Action.bind_run_of_ok (Action.mapError_run_ok.mpr hdelete)]
        have hpending : Pending (members id w.store) s₁ := hs.pending_delete hid
        by_cases hmembers : members id w.store = []
        · rw [hmembers] at hpending
          refine (Keeps.store (.bind keeps_getAll fun _ => .bind (.forM fun _ _ => ?_) fun _ =>
            keeps_changeTags) hpending.grouped.offers).toGrouped
          exact .ite (fun _ => keeps_moveEndpoint) fun _ => .pure
        · have hhas : HasGroup w.store id := Option.isSome_of_eq_some hget
          obtain ⟨hrelations, hreads, hwrites⟩ := hmoves hid hhas hread hwrite hmembers
          obtain ⟨-, hreads⟩ := Sys.clear_succ.mp hreads
          obtain ⟨hread₂, hreads⟩ := Sys.clear_succ.mp hreads
          obtain ⟨-, hwrites⟩ := Sys.clear_succ.mp hwrites
          let w₂ : Sys Callee Server := { (w.spend .databaseRead).spend .databaseWrite with store := s₁ }
          have hfault₂ : w₂.fault .databaseRead = none :=
            (Sys.fault_spend_of_ne (show Callee.databaseRead ≠ .databaseWrite by decide)).trans hread₂
          have hall : Server.endpoint.getAll.run w₂ =
              (.ok w.store.dataStore.endpoint.all, w₂.spend .databaseRead) :=
            Action.query_run_of_none hfault₂
          have hloop : w.store.dataStore.endpoint.all.forM (unassignMember id) =
              (members id w.store).forM
                (moveEndpoint (.internalServerError "Unable to update endpoint") · 1 none) :=
            Action.forM_filter _
          rw [Action.bind_run_of_ok (Action.mapError_run_ok.mpr hall), hloop]
          refine Keeps.store_bind ?_ fun _ _ => meets_grouped keeps_changeTags fun _ hs => hs.offers
          refine grouped_moveMembers _ _ hpending hrelations ?_ ?_
          · simpa [w₂, Sys.Clear, Sys.spend] using hreads
          · simpa [w₂, Sys.Clear, Sys.spend] using hwrites
  · unfold Action.require
    rw [if_neg hid]
    exact hs

/-! ## Tags -/

/-- An endpoint that is read and written keeps its group. -/
theorem keeps_stripEndpoint {tagID : TagID} {i : EndpointID} : Keeps (stripEndpoint tagID i) Grouped := by
  refine fun _ => Meets.bind (M := fun endpoint => Offers endpoint.groupID) (.mapError (.lookup
    (fun s endpoint hs hget => ⟨hs, hs.named i endpoint hget⟩) (fun _ hs _ => hs) fun _ _ _ hs => hs))
    fun endpoint => meets_grouped ?_ fun _ hs => hs
  exact .ite (fun _ => keeps_updateObject fun _ hs => hs.put_endpoint rfl) fun _ => .pure

theorem keeps_tagDelete {id : TagID} : Keeps (tagDelete id) Grouped := by
  refine .bind keeps_getObject fun tag => .bind (.forM fun _ _ => keeps_stripEndpoint) fun _ =>
    .bind (.forM fun _ _ => ?_) fun _ => ?_
  · refine .bind keeps_getObject fun _ => .ite (fun _ => ?_) fun _ => .pure
    exact keeps_updateObject fun _ hs => hs.put_group.toGrouped
  · refine fun _ => meets_grouped (k := 1) ?_ fun _ hs => hs.offers
    refine Keeps.bind keeps_getAll fun _ => .bind keeps_getAll fun _ => .bind keeps_getAll fun _ =>
      .bind (.forM fun _ _ => ?_) fun _ => .bind (.forM fun _ _ => ?_) fun _ =>
      keeps_deleteObject fun _ hs => hs.congr rfl
    · refine .ite (fun _ => .mapError ?_) fun _ => .pure
      exact .bind .lookup fun _ => .bind .lookup fun _ => .call fun _ hs => hs.congr rfl
    · exact .ite (fun _ => keeps_updateObject fun _ hs => hs.congr rfl) fun _ => .pure
/-! ## The filter and the check -/

/-- The check lets the user through to the endpoint. -/
def Admits (s : Server) (user : TokenData) (endpoint : Endpoint) : Bool :=
  ((authorizedEndpointOperation (some user) endpoint).run (.faultless s)).1.isOk

/-- **The filter returns the endpoints the check lets the user through to**,
in order, and the check finds the group of every endpoint. -/
structure FiltersAuthorized (user : TokenData) (s : Server) : Prop where
  filtered : ∃ context,
    (newRestrictedContextRequest user.id user.role).run (.faultless s) = (.ok context, .faultless s) ∧
      filterEndpoints s.dataStore.endpoint.all s.dataStore.endpointGroup.all context =
        some (s.dataStore.endpoint.all.filter (Admits s user))
  checked : ∀ endpoint ∈ s.dataStore.endpoint.all,
    ((authorizedEndpointOperation (some user) endpoint).run (.faultless s)).1 =
      if Admits s user endpoint then .ok () else .error errEndpointAccessDenied

theorem retrieveTokenData_run {user : TokenData} :
    (Action.ofExcept (retrieveTokenData (some user)) : Fallible Server TokenData).run (.faultless s) =
      (.ok user, .faultless s) := rfl

theorem teamMembershipsByUserID_run {userID : UserID} :
    (Server.teamMembershipsByUserID userID).run (.faultless s) =
      (.ok (s.dataStore.teamMembershipsByUserID userID), .faultless s) :=
  Action.query_run_faultless _ _

/-- The check, on an endpoint whose group is there. -/
theorem authorizedEndpointOperation_run {user : TokenData} {endpoint : Endpoint}
    {group : EndpointGroup} (hrole : user.role ≠ .administrator)
    (hgroup : s.dataStore.endpointGroup.get? endpoint.groupID = some group) :
    ((authorizedEndpointOperation (some user) endpoint).run (.faultless s)).1 =
      if authorizedEndpointAccess endpoint group user.id (s.dataStore.teamMembershipsByUserID user.id)
      then .ok () else .error errEndpointAccessDenied := by
  have hget : (Server.endpointGroup.getObject endpoint.groupID).run (.faultless s) =
      (.ok group, .faultless s) := Action.lookup_run_faultless hgroup
  unfold authorizedEndpointOperation
  rw [Action.bind_run_of_ok retrieveTokenData_run, if_neg hrole,
    Action.bind_run_of_ok teamMembershipsByUserID_run, Action.bind_run_of_ok hget]
  unfold Action.require
  split <;> rfl

theorem authorizedEndpointOperation_run_of_admin {user : TokenData} (endpoint : Endpoint)
    (hrole : user.role = .administrator) :
    (authorizedEndpointOperation (some user) endpoint).run (.faultless s) = (.ok (), .faultless s) := by
  unfold authorizedEndpointOperation
  rw [Action.bind_run_of_ok retrieveTokenData_run, if_pos hrole]
  rfl

/-- The loop of the filter, over endpoints whose groups are there. -/
theorem filterAuthorized_eq {groups : List EndpointGroup} {context : RestrictedRequestContext}
    {p : Endpoint → Bool} (l : List Endpoint)
    (h : ∀ endpoint ∈ l, ∃ group, getAssociatedGroup endpoint groups = some group ∧
      p endpoint = authorizedEndpointAccess endpoint group context.userID context.userMemberships) :
    filterAuthorized groups context l = some (l.filter p) := by
  induction l with
  | nil => rfl
  | cons endpoint l ih =>
    obtain ⟨group, hgroup, hp⟩ := h endpoint List.mem_cons_self
    have hrest := ih fun e he => h e (List.mem_cons_of_mem _ he)
    simp only [filterAuthorized, hgroup, hrest, Option.map_some, ← hp, List.filter_cons]

/-- **Where every endpoint's group exists**, the filter and the check
agree. -/
theorem filtersAuthorized_of_grouped (hs : Grouped s) (user : TokenData) :
    FiltersAuthorized user s := by
  by_cases hrole : user.role = .administrator
  · have hadmits : ∀ endpoint, Admits s user endpoint = true := fun endpoint => by
      rw [Admits, authorizedEndpointOperation_run_of_admin endpoint hrole]
      rfl
    refine ⟨⟨{ isAdmin := true, userID := user.id }, ?_, ?_⟩, fun endpoint _ => ?_⟩
    · rw [newRestrictedContextRequest, if_pos hrole]
      rfl
    · rw [List.filter_eq_self.mpr fun endpoint _ => hadmits endpoint]
      rfl
    · rw [authorizedEndpointOperation_run_of_admin endpoint hrole, hadmits]
      rfl
  · have hcheck : ∀ endpoint ∈ s.dataStore.endpoint.all, ∃ group,
        s.dataStore.endpointGroup.get? endpoint.groupID = some group ∧
          Admits s user endpoint = authorizedEndpointAccess endpoint group user.id
            (s.dataStore.teamMembershipsByUserID user.id) := by
      intro endpoint hmem
      obtain ⟨group, hgroup⟩ :=
        Option.isSome_iff_exists.mp (hs.named _ endpoint (Bucket.mem_all.mp hmem))
      refine ⟨group, hgroup, ?_⟩
      rw [Admits, authorizedEndpointOperation_run hrole hgroup]
      split
      · rename_i h; rw [h]; rfl
      · rename_i h; simp only [Bool.not_eq_true] at h; rw [h]; rfl
    let memberships := s.dataStore.teamMembershipsByUserID user.id
    refine ⟨⟨⟨false, user.id, memberships, memberships.any fun m => m.role = .teamLeader⟩, ?_, ?_⟩,
      fun endpoint hmem => ?_⟩
    · rw [newRestrictedContextRequest, if_neg hrole,
        Action.bind_run_of_ok teamMembershipsByUserID_run]
      rfl
    · refine filterAuthorized_eq _ fun endpoint hmem => ?_
      obtain ⟨group, hgroup, hadmits⟩ := hcheck endpoint hmem
      refine ⟨group, ?_, hadmits⟩
      rw [getAssociatedGroup, ← hgroup]
      exact Bucket.find?_all
    · obtain ⟨group, hgroup, hadmits⟩ := hcheck endpoint hmem
      rw [authorizedEndpointOperation_run hrole hgroup, hadmits]

/-! ## Runs -/

/-- **The request refers to groups that are there**: a creation that gets as
far as persisting the endpoint and an update name one, and a deletion moves
the endpoints of the group. -/
def NamesGroups (services : Services) (s : Server) (a : Attempt) : Prop :=
  match a.request with
  | .endpointCreate payload => Accepted services payload → HasGroup s payload.normalize.groupID
  | .endpointUpdate id payload => ∀ endpoint, s.dataStore.endpoint.get? id = some endpoint →
      HasGroup s (payload.groupID.getD endpoint.groupID)
  | .endpointGroupDelete id => MovesMembers id (a.sys s)
  | _ => True

/-- **One request, successful or not, keeps the references.** -/
theorem Grouped.step {a : Attempt} (hs : Grouped s) (hC : NamesGroups services s a)
    (hstep : (machine services).step s a = some s') : Grouped s' := by
  obtain rfl := Option.some.inj hstep
  obtain ⟨request, faults⟩ := a
  have hframe : ∀ {x : Handler Server Unit}, Frames x environments → Grouped (x.run ⟨s, faults⟩).2.store :=
    fun h => ((keeps_of_frames h).store hs.offers).toGrouped
  have hkeeps : ∀ {x : Handler Server Unit}, Keeps x (Offers 1) → Grouped (x.run ⟨s, faults⟩).2.store :=
    fun h => (h.store hs.offers).toGrouped
  cases request with
  | endpointCreate payload => exact (meets_discard meets_endpointCreate).store ⟨hs, hC⟩
  | endpointUpdate id payload => exact (meets_discard meets_endpointUpdate).store ⟨hs, hC⟩
  | endpointDelete id => exact hkeeps keeps_endpointDelete
  | endpointGroupCreate payload => exact (meets_discard meets_endpointGroupCreate).store hs
  | endpointGroupUpdate id payload => exact hkeeps (keeps_discard keeps_endpointGroupUpdate)
  | endpointGroupDelete id => exact grouped_endpointGroupDelete hs hC
  | endpointGroupAddEndpoint id endpointID => exact meets_endpointGroupAddEndpoint.store hs
  | endpointGroupDeleteEndpoint id endpointID => exact hkeeps keeps_endpointGroupDeleteEndpoint
  | tagCreate name => exact hframe (frames_discard (frames_tagCreate.mono environments fun _ => rfl))
  | tagDelete id => exact keeps_tagDelete.store hs
  | edgeGroupCreate payload =>
    exact hframe (frames_discard (frames_edgeGroupCreate.mono environments fun _ => rfl))
  | edgeGroupUpdate id payload =>
    exact hframe (frames_discard (frames_edgeGroupUpdate.mono environments fun _ => rfl))
  | edgeGroupDelete id => exact hframe (frames_edgeGroupDelete.mono environments fun _ => rfl)
  | edgeStackCreate payload now =>
    exact hframe (frames_discard (frames_edgeStackCreate.mono environments fun _ => rfl))
  | edgeStackUpdate id payload =>
    exact hframe (frames_discard (frames_edgeStackUpdate.mono environments fun _ => rfl))
  | edgeStackDelete id => exact hframe (frames_edgeStackDelete.mono environments fun _ => rfl)
  | edgeStackStatusUpdate id edgeIdentifier payload =>
    exact hframe (frames_discard (frames_edgeStackStatusUpdate.mono environments fun _ => rfl))

/-- **Group references never dangle** along requests that refer to groups
that are there; so for every user the filter dereferences no missing group
and returns what the check lets them through to. -/
theorem grouped_of_run {attempts : List Attempt} (hs : Grouped s)
    (hC : (machine services).Along (NamesGroups services) s attempts)
    (hrun : (machine services).run s attempts = some s') :
    Grouped s' ∧ ∀ user, FiltersAuthorized user s' := by
  have h : Grouped s' := Machine.run_invariant (fun _ _ _ h hC hstep => Grouped.step h hC hstep) hs hC hrun
  exact ⟨h, filtersAuthorized_of_grouped h⟩

theorem grouped_newServer : Grouped newServer := by
  refine ⟨by decide, fun i endpoint hi => ?_⟩
  simp [newServer] at hi

/-- A group, an endpoint in it, and the deletion of the group. -/
def stagingAttempts : List Attempt :=
  [⟨.endpointGroupCreate { name := "staging" }, fun _ => []⟩,
    ⟨.endpointCreate { edgeAgentPayload with groupID := 2 }, fun _ => []⟩,
    ⟨.endpointGroupDelete 2, fun _ => []⟩]

theorem grouped_of_run_staging : ∃ s', (machine plainServices).run newServer stagingAttempts = some s' ∧
    Grouped s' ∧ ∀ user, FiltersAuthorized user s' := by
  have hC : (machine plainServices).Along (NamesGroups plainServices) newServer stagingAttempts := by
    refine ⟨trivial, fun s₁ h₁ => ?_⟩
    cases h₁
    refine ⟨fun _ => by decide, fun s₂ h₂ => ?_⟩
    cases h₂
    refine ⟨fun _ _ _ _ _ => ⟨by decide, ?_, ?_⟩, fun _ _ => trivial⟩
    · exact Sys.clear_faultless _ _ _
    · exact Sys.clear_faultless _ _ _
  exact ⟨_, rfl, grouped_of_run grouped_newServer hC rfl⟩

/-- **A creation in a group that is not there** fails, but the endpoint stays,
and the filter finds no group for it. -/
theorem not_grouped_of_create : ∃ s', (machine plainServices).run newServer
      [⟨.endpointCreate { edgeAgentPayload with groupID := 9 }, fun _ => []⟩] = some s' ∧
    ¬ Grouped s' ∧ filterEndpoints s'.dataStore.endpoint.all s'.dataStore.endpointGroup.all
      { isAdmin := false, userID := 2 } = none := by
  refine ⟨_, rfl, fun h => ?_, by decide⟩
  exact absurd (h.named 1 _ rfl) (by decide)

end Inventory

end Portainer
