import Portainer.Inventory.Helpers.Tables
import Portainer.Inventory.Model.Requests
import Portainer.Kubernetes.Helpers.Access
/-!
# Which handler writes what

The tables a handler does not write are the same after it, whether it
succeeds or fails. What several handlers do with tags, with relations and
with the policies of a cluster is stated for any invariant that the writes
to that table keep.
-/

namespace Portainer

open Std
open Action (Keeps Frames)

/-! ## Data services -/

namespace Table

variable {α : Type} [Record α] {t : Table α} {I : Server → Prop} {ε : Type} {g : String → ε}

theorem keeps_getObject {id : Int} : Keeps ((t.getObject id).mapError g) I := Keeps.lookup.mapError

theorem keeps_getAll : Keeps (t.getAll.mapError g) I := Keeps.query.mapError

/-- What is true of every record in the bucket is true of those that are
read. -/
theorem keeps_getAll_of {Q : α → Prop} (h : ∀ s, I s → ∀ a ∈ (t.bucket s.dataStore).all, Q a)
    (R : Callee → Prop) : Action.Meets R I (t.getAll.mapError g) (fun l s => I s ∧ ∀ a ∈ l, Q a)
      fun _ => I :=
  .mapError (Keeps.query_of h R)

theorem keeps_updateObject {a : α} (h : ∀ s, I s → I (t.change (·.put a) s)) :
    Keeps ((t.updateObject a).mapError g) I :=
  (Keeps.call h).mapError

theorem keeps_deleteObject {id : Int} (h : ∀ s, I s → I (t.change (·.delete id) s)) :
    Keeps ((t.deleteObject id).mapError g) I :=
  (Keeps.call h).mapError

theorem keeps_createObject {a : Int → α}
    (h : ∀ s id, I s → id = (t.bucket s.dataStore).next →
      I (t.change (fun b => b.nextSequence.put (a id)) s)) :
    Keeps ((t.createObject a).mapError g) I := by
  unfold createObject
  refine fun R => .mapError (Action.Meets.bind (M := fun id s => I s ∧ id = (t.bucket s.dataStore).next)
    (.get fun _ hs => ⟨hs, rfl⟩) fun id => ?_)
  refine .bind (M := fun _ => I) (.call (fun s hs => h s id hs.1 hs.2) fun _ _ _ hs => hs.1) fun _ => ?_
  exact .pure fun _ hs => hs

theorem keeps_getNextIdentifier (h : ∀ s, I s → I (t.change Bucket.nextSequence s)) :
    Keeps (t.getNextIdentifier : Action Callee Server ε Int) I := by
  unfold getNextIdentifier
  refine .bind (.attempt (.call h)) fun r => ?_
  cases r with
  | ok _ => exact .get
  | error _ => exact .pure

end Table

namespace Inventory

open Table

theorem meets_discard {α : Type} {x : Handler Server α} {R : Callee → Prop} {P I : Server → Prop}
    (h : Action.Meets R P x (fun _ => I) fun _ => I) :
    Action.Meets R P (discard x) (fun _ => I) fun _ => I :=
  h.bind fun _ => .pure fun _ hs => hs

theorem keeps_discard {α : Type} {x : Handler Server α} {I : Server → Prop} (h : Keeps x I) :
    Keeps (discard x) I :=
  h.bind fun _ => .pure

theorem frames_discard {α τ : Type} {x : Handler Server α} {part : Server → τ} (h : Frames x part) :
    Frames (discard x) part :=
  fun c => keeps_discard (h c)

/-! ## The store without a table -/

def besidesTags (s : Server) : Server := Server.tag.change (fun _ => {}) s

def besidesRelations (s : Server) : Server := Server.endpointRelation.change (fun _ => {}) s

def besidesEdgeGroups (s : Server) : Server :=
  besidesRelations (Server.edgeGroup.change (fun _ => {}) s)

def besidesEdgeStacks (s : Server) : Server :=
  besidesRelations (Server.edgeStack.change (fun _ => {}) s)

variable {services : Services} {I : Server → Prop}

/-! ## Tags, relations, policies, files -/

theorem frames_changeTags {unfound unpersisted : String → HandlerError} {change : Tag → Tag}
    {tagIDs : List TagID} : Frames (changeTags unfound unpersisted change tagIDs) besidesTags :=
  fun _ => .forM fun _ _ => .bind keeps_getObject fun _ => keeps_updateObject fun _ hs => hs

theorem frames_replaceTags {off on : Tag → Tag} {tagIDs : List TagID}
    {payloadTagIDs : Option (List TagID)} :
    Frames (replaceTags off on tagIDs payloadTagIDs) besidesTags := by
  intro c
  cases payloadTagIDs with
  | none => exact .pure
  | some payloadTagIDs =>
    refine .ite (fun _ => ?_) fun _ => .pure
    exact .bind (frames_changeTags c) fun _ => .bind (frames_changeTags c) fun _ => .pure

theorem frames_updateEndpointRelations {endpoint : Endpoint} {endpointGroup : Option EndpointGroup} :
    Frames (updateEndpointRelations endpoint endpointGroup) besidesRelations := by
  intro c
  refine .ite (fun _ => ?_) fun _ => .pure
  refine .bind ?_ fun _ => .bind .lookup fun _ => .bind .query fun _ => .bind .query fun _ =>
    .call fun _ hs => hs
  cases endpointGroup with
  | some endpointGroup => exact .pure
  | none => exact .lookup

theorem frames_refreshMembers {tagsChanged : Bool} {endpointGroup : EndpointGroup} :
    Frames (refreshMembers tagsChanged endpointGroup) besidesRelations :=
  fun c => .ite (fun _ => .bind keeps_getAll fun _ => .forM fun _ _ =>
    .ite (fun _ => .mapError (frames_updateEndpointRelations c)) fun _ => .pure) fun _ => .pure

theorem frames_refreshRelation {endpoint : Endpoint} :
    Frames (refreshRelation endpoint) besidesRelations :=
  fun _ => .bind keeps_getObject fun _ => .bind keeps_getObject fun _ => .bind keeps_getAll fun _ =>
    .bind keeps_getAll fun _ => keeps_updateObject fun _ hs => hs

theorem frames_createRelation {endpoint : Endpoint} :
    Frames (createRelation endpoint) besidesRelations :=
  fun _ => .bind keeps_getObject fun _ => .bind keeps_getAll fun _ => .bind keeps_getAll fun _ =>
    keeps_updateObject fun _ hs => hs

theorem frames_changeRelations {change : EndpointRelation → EndpointRelation}
    {endpointIDs : List EndpointID} : Frames (changeRelations change endpointIDs) besidesRelations :=
  fun _ => .forM fun _ _ => .bind keeps_getObject fun _ => keeps_updateObject fun _ hs => hs

theorem keeps_readRecords : Keeps readRecords I :=
  .bind keeps_getAll fun _ => .bind keeps_getAll fun _ => .bind keeps_getAll fun _ => .pure

theorem keeps_dropWithoutAccess {access : Int → Fallible Server Bool}
    (h : ∀ i, Keeps (access i) I) (ids : List Int)
    (result : ExtTreeMap Int AccessPolicy × Bool) :
    Keeps (Kubernetes.dropWithoutAccess access ids result) I := by
  induction ids generalizing result with
  | nil => exact .pure
  | cons i ids ih => exact .bind (h i) fun _ => .ite (fun _ => ih _) fun _ => ih _

theorem keeps_cleanPolicies {endpoint : Endpoint}
    {endpointGroup : Option EndpointGroup} {accessPolicies : NamespaceAccessPolicies} :
    Keeps (Kubernetes.cleanPolicies endpoint endpointGroup accessPolicies) I := by
  have hgroup : Keeps (Kubernetes.groupOrOwn endpoint endpointGroup) I := by
    cases endpointGroup with
    | some endpointGroup => exact .pure
    | none => exact .lookup
  suffices hloop : ∀ (l : List (String × K8sNamespaceAccessPolicy)) result,
      Keeps (Kubernetes.cleanNamespaces endpoint endpointGroup l result) I from hloop _ _
  intro l
  induction l with
  | nil => exact fun _ => .pure
  | cons p l ih =>
    intro result
    refine .bind (keeps_dropWithoutAccess (fun _ => ?_) _ _) fun _ =>
      .bind (keeps_dropWithoutAccess (fun _ => ?_) _ _) fun _ => ih _
    · exact .bind hgroup fun _ => .pure
    · exact .bind .query fun _ => .bind hgroup fun _ => .pure

theorem keeps_getNamespaceAccessPolicies {kcl : EndpointID} :
    Keeps (Kubernetes.getNamespaceAccessPolicies kcl) I := by
  refine .bind .query fun o => ?_
  cases o with
  | none => exact .pure
  | some configMap => exact .ofExcept

/-- The cleaning writes to the cluster only. -/
theorem frames_cleanNAP {endpoint : Endpoint} {endpointGroup : Option EndpointGroup} :
    Frames (Kubernetes.cleanNAPWithOverridePolicies endpoint endpointGroup) Server.dataStore := by
  intro c
  refine .bind (.bind .require fun _ => .bind (.call fun _ hs => hs) fun _ => .pure) fun kcl => ?_
  refine .bind keeps_getNamespaceAccessPolicies fun _ => .bind keeps_cleanPolicies fun r => ?_
  refine .ite (fun _ => ?_) fun _ => .pure
  refine .bind .query fun o => ?_
  cases o with
  | none => exact .pure
  | some configMap => exact .bind .get fun _ => .bind .require fun _ => .call fun _ hs => hs

/-! ## Services and files -/

theorem keeps_service {callee : Callee} {g : String → HandlerError} :
    Keeps ((Action.call callee id).mapError g) I :=
  .mapError (.call fun _ hs => hs)

theorem keeps_storeTLSFileIf {wanted : Bool} {folder message : String} {fileType : TLSFileType} :
    Keeps (storeTLSFileIf services wanted folder fileType message) I :=
  .ite (fun _ => .mapError (.bind (.call fun _ hs => hs) fun _ => .pure)) fun _ => .pure

theorem keeps_storeTLSFiles {endpoint : Endpoint} {payload : EndpointCreatePayload} :
    Keeps (storeTLSFiles services endpoint payload) I :=
  .bind keeps_storeTLSFileIf fun _ => .bind keeps_storeTLSFileIf fun _ =>
    .bind keeps_storeTLSFileIf fun _ => .pure

theorem keeps_deleteTLSFile : Keeps deleteTLSFile I :=
  .bind (.attempt (.call fun _ hs => hs)) fun _ => .pure

theorem keeps_updateAzureCredentials {payload : EndpointUpdatePayload} {endpoint : Endpoint} :
    Keeps (updateAzureCredentials payload endpoint) I :=
  .ite (fun _ => .bind keeps_service fun _ => .pure) fun _ => .pure

theorem keeps_updateTLS {payload : EndpointUpdatePayload} {endpoint : Endpoint} :
    Keeps (updateTLS services payload endpoint) I := by
  unfold updateTLS
  split
  · exact .pure
  · refine .bind (.ite (fun _ => .bind ?_ fun _ => ?_) fun _ => ?_) fun _ => .pure
    · unfold updateTLSSkipVerify
      split
      · exact .pure
      · exact .pure
      · exact .bind keeps_deleteTLSFile fun _ => .pure
    · unfold updateTLSSkipClientVerify
      split
      · exact .pure
      · exact .pure
      · exact .bind keeps_deleteTLSFile fun _ => .bind keeps_deleteTLSFile fun _ => .pure
    · exact .bind keeps_service fun _ => .pure

theorem keeps_registerEndpointProxy {payload : EndpointUpdatePayload} {endpoint : Endpoint} :
    Keeps (registerEndpointProxy payload endpoint) I :=
  .ite (fun _ => keeps_service) fun _ => .pure

theorem keeps_storeEdgeStackFile {folder : String} :
    Keeps (services.storeEdgeStackFile folder) I :=
  .bind (.call fun _ hs => hs) fun _ => .pure

/-! ## Tags, Edge groups and Edge stacks -/

theorem frames_tagCreate {name : String} : Frames (tagCreate name) besidesTags :=
  fun _ => .bind .require fun _ => .bind keeps_getAll fun _ => .bind .require fun _ =>
    .bind (keeps_createObject fun _ _ hs _ => hs) fun _ => .pure

theorem keeps_groupEndpointIDs {dynamic : Bool} {current listed : List EndpointID} :
    Keeps (groupEndpointIDs dynamic current listed) I := by
  refine .ite (fun _ => .pure) fun _ => ?_
  induction listed with
  | nil => exact .pure
  | cons endpointID rest ih => exact .bind keeps_getObject fun _ => .bind ih fun _ => .pure

theorem frames_edgeGroupCreate {payload : EdgeGroupCreatePayload} :
    Frames (edgeGroupCreate payload) besidesEdgeGroups := by
  intro c
  unfold edgeGroupCreate
  split
  · exact .fail
  · exact .bind keeps_getAll fun _ => .bind .require fun _ => .bind keeps_groupEndpointIDs fun _ =>
      .bind (keeps_createObject fun _ _ hs _ => hs) fun _ => .pure

theorem frames_edgeGroupUpdate {id : EdgeGroupID} {payload : EdgeGroupUpdatePayload} :
    Frames (edgeGroupUpdate id payload) besidesEdgeGroups := by
  intro c
  unfold edgeGroupUpdate
  split
  · exact .fail
  · refine .bind keeps_getObject fun _ => .bind keeps_getAll fun _ => .bind .require fun _ =>
      .bind keeps_getAll fun _ => .bind keeps_getAll fun _ => .bind keeps_groupEndpointIDs fun _ =>
      .bind (keeps_updateObject fun _ hs => hs) fun _ => .bind (.forM fun _ _ => ?_) fun _ => .pure
    exact .mapError (.bind .lookup fun _ => .bind .lookup fun _ => .bind .lookup fun _ =>
      .bind .query fun _ => .bind .query fun _ => .call fun _ hs => hs)

theorem frames_edgeGroupDelete {id : EdgeGroupID} : Frames (edgeGroupDelete id) besidesEdgeGroups :=
  fun _ => .bind keeps_getObject fun _ => .bind keeps_getAll fun _ => .bind .require fun _ =>
    keeps_deleteObject fun _ hs => hs

theorem frames_changeRelations_edgeStacks {change : EndpointRelation → EndpointRelation}
    {endpointIDs : List EndpointID} : Frames (changeRelations change endpointIDs) besidesEdgeStacks :=
  frames_changeRelations.mono besidesEdgeStacks fun _ => rfl

theorem frames_edgeStackCreate {payload : SwarmStackPayload} {now : Int} :
    Frames (edgeStackCreate services payload now) besidesEdgeStacks := by
  intro c
  refine .bind (.mapError ?_) fun _ => .bind keeps_readRecords fun _ =>
    .bind (frames_changeRelations_edgeStacks c) fun _ => .pure
  unfold createSwarmStack
  split
  · exact .fail
  · refine .bind (.bind .query fun _ => .require) fun _ =>
      .bind (keeps_getNextIdentifier fun _ hs => hs) fun _ => .bind ?_ fun _ =>
      .bind .get fun _ => .bind (.call fun _ hs => hs) fun _ => .pure
    unfold storeStackFiles
    split
    · exact .bind (.call fun _ hs => hs) fun _ => .pure
    · exact keeps_storeEdgeStackFile

theorem frames_replaceEdgeGroups {stack : EdgeStack} {edgeGroups : Option (List EdgeGroupID)} :
    Frames (replaceEdgeGroups stack edgeGroups) besidesEdgeStacks := by
  intro c
  cases edgeGroups with
  | none => exact .pure
  | some edgeGroups =>
    exact .bind keeps_readRecords fun _ => .bind (.mapError .ofExcept) fun _ =>
      .bind (.mapError .ofExcept) fun _ => .bind (frames_changeRelations_edgeStacks c) fun _ =>
      .bind (frames_changeRelations_edgeStacks c) fun _ => .pure

theorem frames_edgeStackUpdate {id : EdgeStackID} {payload : EdgeStackUpdatePayload} :
    Frames (edgeStackUpdate services id payload) besidesEdgeStacks := by
  refine fun c => .bind keeps_getObject fun stack => ?_
  split
  · exact .fail
  · exact .bind (frames_replaceEdgeGroups c) fun _ => .bind keeps_storeEdgeStackFile.mapError fun _ =>
      .bind (keeps_updateObject fun _ hs => hs) fun _ => .pure

theorem frames_edgeStackDelete {id : EdgeStackID} : Frames (edgeStackDelete id) besidesEdgeStacks :=
  fun c => .bind keeps_getObject fun _ => .bind (keeps_deleteObject fun _ hs => hs) fun _ =>
    .bind keeps_readRecords fun _ => frames_changeRelations_edgeStacks c

theorem frames_edgeStackStatusUpdate {id : EdgeStackID} {edgeIdentifier : String}
    {payload : UpdateStatusPayload} :
    Frames (edgeStackStatusUpdate id edgeIdentifier payload) besidesEdgeStacks :=
  fun _ => .bind keeps_getObject fun _ => .bind (.mapError .ofExcept) fun _ =>
    .bind keeps_getObject fun _ => .bind (.mapError .ofExcept) fun _ =>
    .bind (keeps_updateObject fun _ hs => hs) fun _ => .pure

end Inventory

end Portainer
