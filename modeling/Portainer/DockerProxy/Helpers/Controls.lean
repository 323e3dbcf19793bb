import Portainer.Common.Keeps
import Portainer.DockerProxy.Model.Dispatch
/-!
# What the Docker proxy does to resource controls

Whatever is asked of it, the proxy writes to the database in two ways: it
creates a resource control that is not for administrators only, and it
deletes the resource control of a resource that is gone. An invariant that
survives both is kept by every request (`keeps_proxyDockerRequest`).
-/

namespace Portainer

namespace DockerProxy

open Json (Object)

/-- The invariant survives what the proxy does to resource controls. -/
structure ControlInvariant (I : DataStore → Prop) : Prop where
  create : ∀ db rc, rc.administratorsOnly = false → I db → I (db.createResourceControl rc)
  delete : ∀ db id, I db → I { db with resourceControl := db.resourceControl.delete id }

variable {I : DataStore → Prop} {t : Transport} {request : Request}

/-! ## Reading an answer -/

section Reading

theorem keeps_asString {v : Json} : (asString v).Keeps I := by
  cases v <;> first | exact .pure | exact .fail

theorem keeps_asObject {v : Json} : (asObject v).Keeps I := by
  cases v <;> first | exact .pure | exact .fail

theorem keeps_asArray {v : Json} : (asArray v).Keeps I := by
  cases v <;> first | exact .pure | exact .fail

theorem keeps_map {α β : Type} {f : α → β} {x : Local α} (hx : x.Keeps I) : (f <$> x).Keeps I :=
  .bind hx fun _ => .pure

theorem keeps_getJSONObject {o : Object} {property : String} : (getJSONObject o property).Keeps I :=
  .ite (fun _ => .pure) fun _ => keeps_map keeps_asObject

theorem keeps_getResponseAsJSONObject {response : Response} :
    (getResponseAsJSONObject response).Keeps I :=
  .bind .ofExcept fun _ => keeps_asObject

theorem keeps_getResponseAsJSONArray {response : Response} :
    (getResponseAsJSONArray response).Keeps I := by
  refine .bind .ofExcept fun v => ?_
  cases v with
  | arr l => exact .pure
  | obj o => exact .ite (fun _ => .fail) fun _ => .bind keeps_asString fun _ => .fail
  | null => exact .fail
  | bool b => exact .fail
  | num n => exact .fail
  | str s => exact .fail

theorem keeps_selectLabels {properties : List String} {object : Object} :
    (selectLabels properties object).Keeps I := by
  induction properties generalizing object with
  | nil => exact .pure
  | cons property properties ih =>
    refine .bind keeps_getJSONObject fun inner => ?_
    cases inner with
    | none => exact .pure
    | some inner => exact ih

theorem keeps_retrieveTokenData : (retrieveTokenData request).Keeps I := by
  unfold retrieveTokenData
  split
  · exact .fail
  · exact .pure

theorem keeps_clientFor {nodeName : String} : (clientFor t nodeName).Keeps I :=
  .ite (fun _ => .pure) fun _ => .bind .ofExcept fun _ => .pure

theorem keeps_getVolumeResourceID {volumeName : String} : (getVolumeResourceID t volumeName).Keeps I := by
  refine .bind (.mapError ?_) fun _ => .pure
  unfold getDockerID
  split
  · exact .pure
  · exact .ofExcept

theorem keeps_decorateObject {object : Object} {rc : ResourceControl} :
    (decorateObject object rc).Keeps I := by
  unfold decorateObject
  split
  · exact .pure
  · exact .bind keeps_asObject fun _ => .pure

theorem keeps_decorateObjectWith {object : Object} {rc : Option ResourceControl} :
    (decorateObjectWith object rc).Keeps I := by
  cases rc with
  | none => exact .pure
  | some rc => exact keeps_decorateObject

theorem keeps_systemResourceControl {parameters : ResourceOperationParameters} {object : Object} :
    (systemResourceControl parameters object).Keeps I := by
  refine .ite (fun _ => ?_) fun _ => .pure
  exact .ite (fun _ => .pure) fun _ => .bind keeps_asString fun _ => .bind keeps_asString fun _ => .pure

theorem keeps_decideOnResource {object : Object} {context : RestrictedDockerOperationContext}
    {rc : Option ResourceControl} : (decideOnResource object context rc).Keeps I := by
  cases rc with
  | none => exact .ite (fun _ => .pure) fun _ => .pure
  | some rc => exact .ite (fun _ => .bind keeps_decorateObject fun _ => .pure) fun _ => .pure

theorem keeps_decorateVolumeResponseWithResourceID {object : Object} :
    (decorateVolumeResponseWithResourceID t object).Keeps I :=
  .ite (fun _ => .fail) fun _ => .bind keeps_asString fun _ =>
    .bind (.mapError keeps_getVolumeResourceID) fun _ => .pure

theorem keeps_collect {f : Json → Local (List Json)} {l : List Json} (hf : ∀ v, (f v).Keeps I) :
    (collect f l).Keeps I := by
  induction l with
  | nil => exact .pure
  | cons v l ih => exact .bind (hf v) fun _ => .bind ih fun _ => .pure

theorem keeps_containerHasBlackListedLabel {blackList : List Pair} {labels : Object} :
    (containerHasBlackListedLabel blackList labels).Keeps I := by
  induction labels with
  | nil => exact .pure
  | cons label labels ih =>
    exact .bind keeps_asString fun _ => .ite (fun _ => .pure) fun _ => ih

theorem keeps_filterContainersWithBlackListedLabels {data : List Json} {blackList : Option (List Pair)} :
    (filterContainersWithBlackListedLabels data blackList).Keeps I := by
  cases blackList with
  | none => exact .pure
  | some blackList =>
    refine keeps_collect fun v => .bind keeps_asObject fun _ => .bind keeps_selectLabels fun labels => ?_
    cases labels with
    | none => exact .pure
    | some labels => exact .bind keeps_containerHasBlackListedLabel fun _ => .pure

end Reading

/-! ## Finding a resource control, and creating one -/

section Finding

theorem keeps_knownIDs {α : Type} {byName : DataStore → String → Option α} {id : α → Int}
    {names : List String} : (knownIDs byName id names).Keeps I := by
  induction names with
  | nil => exact .pure
  | cons name names ih =>
    refine .bind (.attempt .lookup) fun found => .bind ih fun ids => ?_
    cases found with
    | error e => exact .pure
    | ok a => exact .pure

theorem keeps_labelNames {labels : Object} {label : String} : (labelNames labels label).Keeps I :=
  .ite (fun _ => .pure) fun _ => keeps_map keeps_asString

theorem keeps_createResourceControl (hI : ControlInvariant I) {rc : ResourceControl}
    (hrc : rc.administratorsOnly = false) : (createResourceControl rc).Keeps I :=
  .bind .get fun _ => .bind (.call fun db hdb => hI.create db rc hrc hdb) fun _ => .pure

theorem keeps_newResourceControlFromPortainerLabels (hI : ControlInvariant I) {labels : Object}
    {resourceID : String} {resourceType : ResourceControlType} :
    (newResourceControlFromPortainerLabels t labels resourceID resourceType).Keeps I := by
  refine .ite (fun _ => keeps_map (keeps_createResourceControl hI rfl)) fun _ => ?_
  refine .bind keeps_labelNames fun _ => .bind keeps_labelNames fun _ => .ite (fun _ => ?_) fun _ => .pure
  exact .bind keeps_knownIDs fun _ => .bind keeps_knownIDs fun _ =>
    keeps_map (keeps_createResourceControl hI rfl)

theorem keeps_resourceControlOfLabel {labels : Object} {label : String} {toID : String → String}
    {resourceType : ResourceControlType} {rcs : List ResourceControl} :
    (resourceControlOfLabel labels label toID resourceType rcs).Keeps I :=
  .ite (fun _ => .pure) fun _ => .bind keeps_asString fun _ => .pure

theorem keeps_orElse {x y : Local (Option ResourceControl)} (hx : x.Keeps I) (hy : y.Keeps I) :
    (orElse x y).Keeps I := by
  refine .bind hx fun rc => ?_
  cases rc with
  | none => exact hy
  | some rc => exact .pure

theorem keeps_findResourceControl (hI : ControlInvariant I) {resourceID : String}
    {resourceType : ResourceControlType} {labels : Option Object} {rcs : List ResourceControl} :
    (findResourceControl t resourceID resourceType labels rcs).Keeps I := by
  unfold findResourceControl
  split
  · exact .pure
  · cases labels with
    | none => exact .pure
    | some labels =>
      exact keeps_orElse keeps_resourceControlOfLabel <| keeps_orElse keeps_resourceControlOfLabel <|
        keeps_orElse keeps_resourceControlOfLabel <| keeps_newResourceControlFromPortainerLabels hI

/-- Where the labels of an object are is only read. -/
def LabelsRead (I : DataStore → Prop) (parameters : ResourceOperationParameters) : Prop :=
  ∀ object, (parameters.labelsObjectSelector object).Keeps I

variable {parameters : ResourceOperationParameters}

theorem keeps_applyAccessControlOnResource (hI : ControlInvariant I) (hread : LabelsRead I parameters)
    {object : Object} {response : Response} {executor : OperationExecutor} :
    (applyAccessControlOnResource t parameters object response executor).Keeps I := by
  refine .ite (fun _ => .pure) fun _ => .bind keeps_systemResourceControl fun rc => ?_
  cases rc with
  | none =>
    exact .bind keeps_asString fun _ => .bind (hread object) fun _ =>
      .bind (keeps_findResourceControl hI) fun _ => keeps_decideOnResource
  | some rc => exact .bind keeps_decorateObject fun _ => .pure

theorem keeps_decorateResource (hI : ControlInvariant I) (hread : LabelsRead I parameters)
    {rcs : List ResourceControl} {v : Json} : (decorateResource t parameters rcs v).Keeps I := by
  refine .bind keeps_asObject fun object => .ite (fun _ => .pure) fun _ =>
    .bind keeps_systemResourceControl fun rc => ?_
  cases rc with
  | none =>
    exact .bind keeps_asString fun _ => .bind (hread object) fun _ =>
      .bind (keeps_findResourceControl hI) fun _ => .bind keeps_decorateObjectWith fun _ => .pure
  | some rc => exact .bind keeps_decorateObject fun _ => .pure

theorem keeps_filterResource (hI : ControlInvariant I) (hread : LabelsRead I parameters)
    {context : RestrictedDockerOperationContext} {v : Json} :
    (filterResource t parameters context v).Keeps I := by
  refine .bind keeps_asObject fun object => .ite (fun _ => .pure) fun _ => .bind keeps_asString fun _ =>
    .bind (hread object) fun _ => .bind keeps_systemResourceControl fun rc => ?_
  cases rc with
  | some rc => exact .bind keeps_decorateObject fun _ => .pure
  | none =>
    refine .bind (keeps_findResourceControl hI) fun found => ?_
    cases found with
    | none => exact .pure
    | some rc => exact .ite (fun _ => .bind keeps_decorateObject fun _ => .pure) fun _ => .pure

theorem keeps_applyAccessControlOnResourceList (hI : ControlInvariant I)
    (hread : LabelsRead I parameters) {data : List Json} {executor : OperationExecutor} :
    (applyAccessControlOnResourceList t parameters data executor).Keeps I :=
  .ite (fun _ => keeps_collect fun _ => keeps_decorateResource hI hread) fun _ =>
    keeps_collect fun _ => keeps_filterResource hI hread

end Finding

/-! ## Operations on answers -/

/-- What an operation does to an answer keeps the invariant. -/
def OperationKeeps (I : DataStore → Prop) (operation : RestrictedOperationRequest) : Prop :=
  ∀ response executor, (operation response executor).Keeps I

section Operations

variable {parameters : ResourceOperationParameters}

theorem operationKeeps_list (hI : ControlInvariant I) (hread : LabelsRead I parameters) :
    OperationKeeps I (listOperation parameters t) := fun _ _ =>
  .bind keeps_getResponseAsJSONArray fun _ =>
    .bind (keeps_applyAccessControlOnResourceList hI hread) fun _ => .pure

theorem operationKeeps_inspect (hI : ControlInvariant I) (hread : LabelsRead I parameters) :
    OperationKeeps I (inspectOperation parameters t) := fun _ _ =>
  .bind keeps_getResponseAsJSONObject fun _ => keeps_applyAccessControlOnResource hI hread

theorem operationKeeps_containerList (hI : ControlInvariant I) :
    OperationKeeps I (containerListOperation t) := fun _ _ =>
  .bind keeps_getResponseAsJSONArray fun _ =>
    .bind (keeps_applyAccessControlOnResourceList hI fun _ => keeps_selectLabels) fun _ =>
      .bind keeps_filterContainersWithBlackListedLabels fun _ => .pure

theorem operationKeeps_volumeList (hI : ControlInvariant I) :
    OperationKeeps I (volumeListOperation t) := by
  refine fun _ _ => .bind keeps_getResponseAsJSONObject fun _ => .ite (fun _ => .pure) fun _ =>
    .bind keeps_asArray fun _ => .bind (keeps_collect fun _ => .bind keeps_asObject fun _ => ?_) fun _ =>
      .bind (keeps_applyAccessControlOnResourceList hI fun _ => keeps_selectLabels) fun _ => .pure
  exact .bind (.mapError keeps_decorateVolumeResponseWithResourceID) fun _ => .pure

theorem operationKeeps_volumeInspect (hI : ControlInvariant I) :
    OperationKeeps I (volumeInspectOperation t) := fun _ _ =>
  .bind keeps_getResponseAsJSONObject fun _ =>
    .bind (.mapError keeps_decorateVolumeResponseWithResourceID) fun _ =>
      keeps_applyAccessControlOnResource hI fun _ => keeps_selectLabels

theorem operationKeeps_swarmInspect : OperationKeeps I swarmInspectOperation := fun _ _ =>
  .bind keeps_getResponseAsJSONObject fun _ => .pure

end Operations

/-! ## Requests -/

section Requests

variable {resourceID dockerResourceID : String} {resourceType : ResourceControlType}

theorem keeps_inheritedFromLabels
    {choose : EndpointID → Labels → List ResourceControl → Option ResourceControl}
    {kind : ResourceControlType} {client : String} {rcs : List ResourceControl} :
    (inheritedFromLabels choose kind t client resourceID rcs).Keeps I :=
  .bind .ofExcept fun _ => .pure

theorem keeps_effectiveResourceControl {rcs : List ResourceControl} :
    (effectiveResourceControl t request resourceID dockerResourceID resourceType rcs).Keeps I := by
  unfold effectiveResourceControl
  split
  · exact .pure
  · refine .bind keeps_clientFor fun client => ?_
    cases resourceType <;> first | exact keeps_inheritedFromLabels | exact .pure

theorem keeps_fetchEndpointSecuritySettings : (fetchEndpointSecuritySettings t).Keeps I :=
  .bind .lookup fun _ => .pure

theorem keeps_regularUserAllowed {tokenData : TokenData} {check : Bool} :
    (regularUserAllowed t request tokenData resourceID dockerResourceID resourceType check).Keeps I := by
  refine .bind (.ite (fun _ => .bind keeps_fetchEndpointSecuritySettings fun _ => .pure) fun _ => .pure)
    fun allowed => .ite (fun _ => .pure) fun _ => ?_
  exact .bind .query fun _ => .bind .query fun _ => .bind keeps_effectiveResourceControl fun _ => .pure

/-- The same invariant, within the proxy. -/
def OnStore (I : DataStore → Prop) (s : ProxyState) : Prop := I s.dataStore

theorem keeps_lift {α : Type} {x : Local α} (hx : x.Keeps I) : (liftM x : Proxy α).Keeps (OnStore I) := by
  have hzoom : (Action.zoom ProxyState.dataStore (fun s db => { s with dataStore := db }) x).Keeps
      (OnStore I) := .zoom hx (fun _ hs => hs) fun _ _ _ hs => hs
  exact hzoom

theorem keeps_executeDockerRequest : (executeDockerRequest t request).Keeps (OnStore I) := by
  refine .bind (fun _ => .modify fun _ hs => hs) fun _ => .bind ?_ fun _ => .ofExcept
  exact .ite (fun _ => .pure) fun _ _ => .modify fun _ hs => hs

theorem keeps_restrictedResourceOperation {check : Bool} :
    (restrictedResourceOperation t request resourceID dockerResourceID resourceType check).Keeps
      (OnStore I) := by
  refine .bind (keeps_lift keeps_retrieveTokenData) fun tokenData =>
    .ite (fun _ => keeps_executeDockerRequest) fun _ => .bind (keeps_lift keeps_regularUserAllowed) fun _ =>
      .ite (fun _ => keeps_executeDockerRequest) fun _ => .pure

theorem keeps_administratorOperation : (administratorOperation t request).Keeps (OnStore I) :=
  .bind (keeps_lift keeps_retrieveTokenData) fun _ => .ite (fun _ => .pure) fun _ =>
    keeps_executeDockerRequest

theorem keeps_executeGenericResourceDeletionOperation
    (hdelete : ∀ db id, I db → I { db with resourceControl := db.resourceControl.delete id }) :
    (executeGenericResourceDeletionOperation t request resourceID dockerResourceID resourceType).Keeps
      (OnStore I) := by
  refine .bind keeps_restrictedResourceOperation fun response => .ite (fun _ => ?_) fun _ => .pure
  refine .bind (keeps_lift (.bind .query fun rc => ?_)) fun _ => .pure
  cases rc with
  | none => exact .pure
  | some rc => exact .call fun db hdb => hdelete db rc.id hdb

/-! ### Answers rewritten -/

theorem keeps_createOperationContext : (createOperationContext request).Keeps I :=
  .bind keeps_retrieveTokenData fun _ => .bind .query fun _ => .ite (fun _ => .pure) fun _ =>
    .bind .query fun _ => .pure

theorem keeps_executeRequestAndRewriteResponse {operation : RestrictedOperationRequest}
    {executor : OperationExecutor} (ho : OperationKeeps I operation) :
    (executeRequestAndRewriteResponse t request operation executor).Keeps (OnStore I) :=
  .bind keeps_executeDockerRequest fun response => keeps_lift (ho response executor)

theorem keeps_rewriteOperation {operation : RestrictedOperationRequest} (ho : OperationKeeps I operation) :
    (rewriteOperation t request operation).Keeps (OnStore I) :=
  .bind (keeps_lift keeps_createOperationContext) fun _ => keeps_executeRequestAndRewriteResponse ho

theorem keeps_rewriteOperationWithLabelFiltering {operation : RestrictedOperationRequest}
    (ho : OperationKeeps I operation) :
    (rewriteOperationWithLabelFiltering t request operation).Keeps (OnStore I) :=
  .bind (keeps_lift keeps_createOperationContext) fun _ => .bind (keeps_lift .query) fun _ =>
    keeps_executeRequestAndRewriteResponse ho

/-! ### Creations -/

theorem keeps_executeAndDecorate {decorate : Response → Local Response}
    (hd : ∀ response, (decorate response).Keeps I) :
    (executeAndDecorate t request decorate).Keeps (OnStore I) :=
  .bind keeps_executeDockerRequest fun response =>
    .ite (fun _ => keeps_lift (hd response)) fun _ => .pure

theorem keeps_decorateGenericResourceCreationResponse (hI : ControlInvariant I) {response : Response}
    {attr : String} {userID : UserID} :
    (decorateGenericResourceCreationResponse response attr resourceType userID).Keeps I :=
  .bind keeps_getResponseAsJSONObject fun _ => .ite (fun _ => .fail) fun _ =>
    .bind keeps_asString fun _ => .bind (keeps_createResourceControl hI rfl) fun _ =>
      .bind keeps_decorateObject fun _ => .pure

theorem keeps_decorateVolumeCreationResponse (hI : ControlInvariant I) {response : Response}
    {userID : UserID} : (decorateVolumeCreationResponse t response resourceType userID).Keeps I :=
  .bind keeps_getResponseAsJSONObject fun _ => .ite (fun _ => .fail) fun _ =>
    .bind keeps_asString fun _ => .bind (.mapError keeps_getVolumeResourceID) fun _ =>
      .bind (keeps_createResourceControl hI rfl) fun _ => .bind keeps_decorateObject fun _ => .pure

theorem keeps_decorateGenericResourceCreationOperation (hI : ControlInvariant I) {attr : String} :
    (decorateGenericResourceCreationOperation t request attr resourceType).Keeps (OnStore I) :=
  .bind (keeps_lift keeps_retrieveTokenData) fun _ =>
    keeps_executeAndDecorate fun _ => keeps_decorateGenericResourceCreationResponse hI

theorem keeps_checkVolumeName : (checkVolumeName t request).Keeps I := by
  refine .ite (fun _ => .pure) fun _ => .bind keeps_clientFor fun client => ?_
  split
  · exact .fail
  · exact .pure

theorem keeps_decorateVolumeResourceCreationOperation (hI : ControlInvariant I) :
    (decorateVolumeResourceCreationOperation t request resourceType).Keeps (OnStore I) :=
  .bind (keeps_lift keeps_retrieveTokenData) fun _ => .bind (keeps_lift keeps_checkVolumeName) fun _ =>
    keeps_executeAndDecorate fun _ => keeps_decorateVolumeCreationResponse hI

theorem keeps_unmarshal {α : Type} {d : Json.Decoder α} {zero : α} {value : Option Json} :
    (unmarshal d zero value).Keeps I := by
  unfold unmarshal
  split
  · exact .fail
  · exact .pure

theorem keeps_checkedRequest {α : Type} {d : Json.Decoder α} {zero : α}
    {check : EndpointSecuritySettings → α → Local Unit} (hcheck : ∀ settings a, (check settings a).Keeps I) :
    (checkedRequest t request d zero check).Keeps I := by
  refine .bind (.bind keeps_retrieveTokenData fun _ => .pure) fun admin => .ite (fun _ => .pure) fun _ => ?_
  exact .bind keeps_fetchEndpointSecuritySettings fun settings => .bind .query fun body =>
    .bind keeps_unmarshal fun a => .bind (hcheck settings a) fun _ => .pure

theorem keeps_checkPartialContainer {settings : EndpointSecuritySettings} {c : PartialContainer} :
    (checkPartialContainer settings c).Keeps I :=
  .bind .require fun _ => .bind .require fun _ => .bind .require fun _ => .bind .require fun _ =>
    .bind .require fun _ => .require

theorem keeps_decorateContainerCreationOperation (hI : ControlInvariant I) {attr : String} :
    (decorateContainerCreationOperation t request attr resourceType).Keeps (OnStore I) :=
  .bind (keeps_lift keeps_retrieveTokenData) fun _ =>
    .bind (keeps_lift (keeps_checkedRequest fun _ _ => keeps_checkPartialContainer)) fun _ =>
      keeps_executeAndDecorate fun _ => keeps_decorateGenericResourceCreationResponse hI

theorem keeps_replacedHeader {accessContext : RegistryAccessContext} {registryAuth : RegistryAuth} :
    (replacedHeader accessContext registryAuth).Keeps I := by
  cases registryAuth with
  | absent => exact .pure
  | client registryID => exact .bind .ofExcept fun _ => .pure
  | docker header => exact .pure

theorem keeps_createRegistryAccessContext : (createRegistryAccessContext t request).Keeps I :=
  .bind keeps_retrieveTokenData fun _ => .bind .lookup fun _ => .bind .query fun _ =>
    .ite (fun _ => .pure) fun _ => .bind .query fun _ => .pure

theorem keeps_replaceRegistryAuthenticationHeader (hI : ControlInvariant I) :
    (replaceRegistryAuthenticationHeader t request).Keeps (OnStore I) :=
  .bind (keeps_lift keeps_createRegistryAccessContext) fun _ => .bind (keeps_lift keeps_replacedHeader) fun _ =>
    keeps_decorateGenericResourceCreationOperation hI

theorem keeps_decorateServiceCreationOperation (hI : ControlInvariant I) :
    (decorateServiceCreationOperation t request).Keeps (OnStore I) :=
  .bind (keeps_lift (keeps_checkedRequest fun _ _ => .require)) fun _ =>
    keeps_replaceRegistryAuthenticationHeader hI

theorem keeps_buildOperation : (buildOperation request).Keeps I := by
  refine .ite (fun _ => .pure) fun _ => .bind (.bind .query fun body => ?_) fun _ => .pure
  exact .ite (fun _ => .pure) fun _ => keeps_unmarshal

/-! ### Dispatch -/

theorem keeps_resourceRequest (hI : ControlInvariant I) {inspect : RestrictedOperationRequest}
    (ho : OperationKeeps I inspect) : (resourceRequest t request inspect resourceType).Keeps (OnStore I) :=
  .ite (fun _ => keeps_rewriteOperation ho) fun _ =>
    .ite (fun _ => keeps_executeGenericResourceDeletionOperation hI.delete) fun _ =>
      keeps_restrictedResourceOperation

/-- A collection whose requests are a creation, a list, or about one
resource. -/
theorem keeps_collection {create list other : Proxy Response} {c c' : Prop} [Decidable c] [Decidable c']
    (hcreate : create.Keeps (OnStore I)) (hlist : list.Keeps (OnStore I))
    (hother : other.Keeps (OnStore I)) :
    (if c then create else if c' then list else other).Keeps (OnStore I) :=
  .ite (fun _ => hcreate) fun _ => .ite (fun _ => hlist) fun _ => hother

theorem keeps_proxyContainerRequest (hI : ControlInvariant I) :
    (proxyContainerRequest t request).Keeps (OnStore I) := by
  refine keeps_collection (keeps_decorateContainerCreationOperation hI) keeps_administratorOperation ?_
  refine keeps_collection (keeps_rewriteOperationWithLabelFiltering (operationKeeps_containerList hI)) ?_ ?_
  · exact .ite (fun _ => keeps_rewriteOperation (operationKeeps_inspect hI fun _ => keeps_selectLabels))
      fun _ => keeps_restrictedResourceOperation
  · refine .ite (fun _ => .ite (fun _ => ?_) fun _ => keeps_restrictedResourceOperation) fun _ =>
      keeps_executeDockerRequest
    exact keeps_executeGenericResourceDeletionOperation hI.delete

theorem keeps_proxyServiceRequest (hI : ControlInvariant I) :
    (proxyServiceRequest t request).Keeps (OnStore I) := by
  refine keeps_collection (keeps_decorateServiceCreationOperation hI)
    (keeps_rewriteOperation (operationKeeps_list hI fun _ => keeps_selectLabels)) ?_
  exact keeps_collection keeps_restrictedResourceOperation
    (keeps_resourceRequest hI (operationKeeps_inspect hI fun _ => keeps_selectLabels))
      keeps_executeDockerRequest

theorem keeps_proxyVolumeRequest (hI : ControlInvariant I) :
    (proxyVolumeRequest t request).Keeps (OnStore I) := by
  refine keeps_collection (keeps_decorateVolumeResourceCreationOperation hI)
    keeps_administratorOperation ?_
  refine .ite (fun _ => keeps_rewriteOperation (operationKeeps_volumeList hI)) fun _ => ?_
  refine .ite (fun _ => keeps_rewriteOperation (operationKeeps_volumeInspect hI)) fun _ => ?_
  exact .bind (keeps_lift keeps_getVolumeResourceID) fun _ =>
    .ite (fun _ => keeps_executeGenericResourceDeletionOperation hI.delete) fun _ =>
      keeps_restrictedResourceOperation

theorem keeps_proxyAgentRequest : (proxyAgentRequest t request).Keeps (OnStore I) := by
  unfold proxyAgentRequest
  refine .ite (fun _ => ?_) fun _ => .ite (fun _ => ?_) fun _ => keeps_executeDockerRequest
  · split
    · exact keeps_administratorOperation
    · exact .bind (keeps_lift keeps_getVolumeResourceID) fun _ => keeps_restrictedResourceOperation
  · unfold proxyDockerHubRequest
    split
    · exact .fail
    · refine .bind (keeps_lift ?_) fun _ => .bind .require fun _ => keeps_executeDockerRequest
      exact .ite (fun _ => .pure) fun _ => .mapError .lookup

theorem keeps_proxyRequest (hI : ControlInvariant I) : (proxyRequest t request).Keeps (OnStore I) := by
  have hlist : ∀ {parameters : ResourceOperationParameters}, LabelsRead I parameters →
      (rewriteOperation t request (listOperation parameters t)).Keeps (OnStore I) :=
    fun hread => keeps_rewriteOperation (operationKeeps_list hI hread)
  have hone : ∀ {parameters : ResourceOperationParameters} {kind : ResourceControlType},
      LabelsRead I parameters →
        (resourceRequest t request (inspectOperation parameters t) kind).Keeps (OnStore I) :=
    fun hread => keeps_resourceRequest hI (operationKeeps_inspect hI hread)
  unfold proxyRequest
  refine .ite (fun _ => ?_) fun _ => .ite (fun _ => keeps_proxyContainerRequest hI) fun _ =>
    .ite (fun _ => keeps_proxyServiceRequest hI) fun _ =>
      .ite (fun _ => keeps_proxyVolumeRequest hI) fun _ => .ite (fun _ => ?_) fun _ =>
        .ite (fun _ => ?_) fun _ => .ite (fun _ => ?_) fun _ => .ite (fun _ => ?_) fun _ =>
          .ite (fun _ => ?_) fun _ => .ite (fun _ => ?_) fun _ => .ite (fun _ => ?_) fun _ =>
            .ite (fun _ => keeps_proxyAgentRequest) fun _ => keeps_executeDockerRequest
  · exact keeps_collection (keeps_decorateGenericResourceCreationOperation hI)
      (hlist fun _ => keeps_selectLabels) (hone fun _ => keeps_selectLabels)
  · exact keeps_collection (keeps_decorateGenericResourceCreationOperation hI)
      (hlist fun _ => keeps_selectLabels) (hone fun _ => keeps_selectLabels)
  · exact keeps_collection (keeps_decorateGenericResourceCreationOperation hI)
      (hlist fun _ => keeps_selectLabels) (hone fun _ => keeps_selectLabels)
  · exact .ite (fun _ => keeps_rewriteOperation operationKeeps_swarmInspect) fun _ =>
      keeps_administratorOperation
  · exact .ite (fun _ => keeps_administratorOperation) fun _ => keeps_executeDockerRequest
  · exact .ite (fun _ => hlist fun _ => keeps_selectLabels) fun _ => keeps_executeDockerRequest
  · exact .bind (keeps_lift keeps_buildOperation) fun _ => keeps_executeDockerRequest
  · exact keeps_collection (keeps_replaceRegistryAuthenticationHeader hI)
      (keeps_replaceRegistryAuthenticationHeader hI) keeps_executeDockerRequest

/-- **A proxied request keeps what survives the two writes.** -/
theorem keeps_proxyDockerRequest (hI : ControlInvariant I) :
    (proxyDockerRequest t request).Keeps (OnStore I) := by
  refine .bind (keeps_lift ?_) fun _ => keeps_proxyRequest hI
  exact .ite (fun _ => .bind .query fun _ => .pure) fun _ => .pure

end Requests

end DockerProxy

end Portainer
