import Portainer.Common.Collections
/-!
# Applications — the history of revisions

`helpers/history`. The revisions of a workload are picked out of those of its
namespace, by their selector and their owner, and sorted: replica sets by a
revision that is a text, controller revisions by one that is a number.
`getRevisions_iff` says when the history is complete, in order, and shows the
current revision.
-/

namespace Portainer

namespace Applications

variable {σ : Type} [DecidableEq σ]

/-! ## Objects of the cluster -/

/-- The pairs of an object with texts, of which no two have one key. -/
abbrev Labels := List (String × String)

structure SelectorRequirement where
  key : String
  operator : String
  values : Option (List String)

structure LabelSelector where
  matchLabels : Option Labels
  matchExpressions : Option (List SelectorRequirement)

structure OwnerReference where
  uid : String
  controller : Bool := false

structure ObjectMeta where
  uid : String
  name : String
  creationTimestamp : String
  labels : Option Labels := none
  annotations : Option Labels := none
  ownerReferences : List OwnerReference := []

/-- A pod template: its labels, and all the rest. -/
structure PodTemplate (σ : Type) where
  labels : Labels
  rest : σ

structure ReplicaSet (σ : Type) where
  metadata : ObjectMeta
  selector : LabelSelector
  template : PodTemplate σ

structure ControllerRevision where
  metadata : ObjectMeta
  revision : ℤ

structure Deployment (σ : Type) where
  metadata : ObjectMeta
  selector : LabelSelector
  template : PodTemplate σ

/-- A daemon set or a stateful set. -/
structure Workload where
  metadata : ObjectMeta
  selector : LabelSelector

/-- `KubernetesSystem_DefaultDeploymentUniqueLabelKey`. -/
def defaultDeploymentUniqueLabelKey : String := "pod-template-hash"

/-- `KubernetesSystem_RevisionAnnotation`. -/
def revisionAnnotationKey : String := "deployment.kubernetes.io/revision"

/-! ## Comparing -/

/-- A property of the source that the other has to match, if it is there. -/
def matchOptional {α β : Type} (p : α → β → Bool) : Option α → Option β → Bool
  | none, _ => true
  | some a, some b => p a b
  | some _, none => false

def matchLabels (source other : Labels) : Bool := source.all (other.contains ·)

/-- Each element of the source matches one of the list, and no two the same:
the first that is left. -/
def matchElements {α β : Type} (p : α → β → Bool) : List α → List β → Bool
  | [], _ => true
  | a :: source, other =>
    match other.findIdx? (p a) with
    | none => false
    | some i => matchElements p source (other.eraseIdx i)

def SelectorRequirement.isMatch (source other : SelectorRequirement) : Bool :=
  source.key = other.key && source.operator = other.operator &&
    matchOptional (matchElements fun v w => v = w) source.values other.values

/-- The partial comparison of `_.filter` with a property. -/
def LabelSelector.isMatch (source other : LabelSelector) : Bool :=
  matchOptional Applications.matchLabels source.matchLabels other.matchLabels &&
    matchOptional (matchElements SelectorRequirement.isMatch) source.matchExpressions other.matchExpressions

/-- `_.isEqual`. -/
def PodTemplate.isEqual (t u : PodTemplate σ) : Bool :=
  t.labels.length = u.labels.length && Applications.matchLabels t.labels u.labels && t.rest = u.rest

/-- `_isControlledBy`. -/
def isControlledBy (owner item : ObjectMeta) : Bool := item.ownerReferences.any (·.uid = owner.uid)

def ObjectMeta.annotation (metadata : ObjectMeta) (key : String) : Option (Option String) :=
  metadata.annotations.map fun annotations => (annotations.find? (·.1 = key)).map Prod.snd

/-! ## Deployments -/

/-- A replica set with its revision. -/
structure VersionedReplicaSet (σ : Type) where
  replicaSet : ReplicaSet σ
  revision : String

/-- The replica set of the current revision; its revision may be undefined. -/
structure CurrentReplicaSet (σ : Type) where
  replicaSet : ReplicaSet σ
  revision : Option String

namespace Deployment

/-- The test of `filterOwnedRevisions`. -/
def owns (deployment : Deployment σ) (rs : ReplicaSet σ) : Bool :=
  deployment.selector.isMatch rs.selector && isControlledBy deployment.metadata rs.metadata

/-- The key that replica sets are sorted by. -/
def age (rs : ReplicaSet σ) : String ×ₗ String := toLex (rs.metadata.creationTimestamp, rs.metadata.name)

/-- `filterOwnedRevisions`. -/
def filterOwnedRevisions (rsList : List (ReplicaSet σ)) (deployment : Deployment σ) : List (ReplicaSet σ) :=
  sortBy age (rsList.filter deployment.owns)

/-- The replica set without the label of its hash. -/
def withoutHash (rs : ReplicaSet σ) : ReplicaSet σ :=
  { rs with template := { rs.template with
      labels := rs.template.labels.filter (·.1 ≠ defaultDeploymentUniqueLabelKey) } }

/-- The replica set has the template of the deployment. -/
def targets (deployment : Deployment σ) (rs : ReplicaSet σ) : Bool :=
  deployment.template.isEqual (withoutHash rs).template

/-- `getCurrentRevision`. -/
def getCurrentRevision (rsList : List (ReplicaSet σ)) (deployment : Deployment σ) :
    Option (CurrentReplicaSet σ) := do
  let current ← rsList.find? deployment.targets
  let revision ← current.metadata.annotation revisionAnnotationKey
  return { replicaSet := withoutHash current, revision := revision }

/-- A replica set that has been a revision of a deployment. -/
def versioned (rs : ReplicaSet σ) : Option (VersionedReplicaSet σ) :=
  (rs.metadata.annotation revisionAnnotationKey).join.map fun revision => { replicaSet := rs, revision := revision }

/-- `filterVersionedRevisions`, which looks at the annotations of all. -/
def filterVersionedRevisions (rsList : List (ReplicaSet σ)) : Option (List (VersionedReplicaSet σ)) :=
  if rsList.all (·.metadata.annotations.isSome) then some (rsList.filterMap versioned) else none

/-- `_getDeploymentRevisions`. -/
def getRevisions (rsList : List (ReplicaSet σ)) (deployment : Deployment σ) :
    Option (CurrentReplicaSet σ × List (VersionedReplicaSet σ)) := do
  let appRS := filterOwnedRevisions rsList deployment
  let currentRS ← getCurrentRevision appRS deployment
  let versionedRS ← filterVersionedRevisions appRS
  return (currentRS, versionedRS)

end Deployment

/-! ## Daemon sets and stateful sets -/

namespace Workload

/-- The test of `filterOwnedRevisions`. Without labels to match none do. -/
def owns (workload : Workload) (cr : ControllerRevision) : Bool :=
  (match workload.selector.matchLabels, cr.metadata.labels with
    | some source, some labels => Applications.matchLabels source labels
    | _, _ => false) && isControlledBy workload.metadata cr.metadata

/-- `filterOwnedRevisions`, of the helpers of daemon sets and of stateful
sets. -/
def filterOwnedRevisions (crList : List ControllerRevision) (workload : Workload) : List ControllerRevision :=
  sortBy (fun cr => toLex (cr.revision, cr.metadata.creationTimestamp)) (crList.filter workload.owns)

/-- `getCurrentRevision`. -/
def getCurrentRevision (crList : List ControllerRevision) : Option ControllerRevision := crList.getLast?

/-- `_getDaemonSetRevisions` and `_getStatefulSetRevisions`. -/
def getRevisions (crList : List ControllerRevision) (workload : Workload) :
    Option ControllerRevision × List ControllerRevision :=
  let appCR := filterOwnedRevisions crList workload
  (getCurrentRevision appCR, appCR)

end Workload

/-! ## The history -/

/-- A workload, with the revisions of its namespace. -/
inductive History (σ : Type)
  | deployment (rsList : List (ReplicaSet σ)) (deployment : Deployment σ)
  | daemonSet (crList : List ControllerRevision) (daemonSet : Workload)
  | statefulSet (crList : List ControllerRevision) (statefulSet : Workload)

/-- The current revision, and the list of all. -/
inductive Revisions (σ : Type)
  | replicaSets (current : CurrentReplicaSet σ) (list : List (VersionedReplicaSet σ))
  | controllerRevisions (current : Option ControllerRevision) (list : List ControllerRevision)

/-- `getRevisions`. -/
def getRevisions : History σ → Option (Revisions σ)
  | .deployment rsList deployment => do
    let (currentRevision, revisionsList) ← deployment.getRevisions rsList
    return .replicaSets currentRevision (sortBy VersionedReplicaSet.revision revisionsList)
  | .daemonSet crList workload | .statefulSet crList workload =>
    let (currentRevision, revisionsList) := workload.getRevisions crList
    some (.controllerRevisions currentRevision (sortBy ControllerRevision.revision revisionsList))

/-! ## A complete history -/

/-- The controller of the item is the owner. -/
def Controls (owner item : ObjectMeta) : Prop :=
  ∃ ref ∈ item.ownerReferences, ref.uid = owner.uid ∧ ref.controller = true

instance (owner item : ObjectMeta) : Decidable (Controls owner item) :=
  inferInstanceAs (Decidable (∃ ref ∈ item.ownerReferences, ref.uid = owner.uid ∧ ref.controller = true))

/-- The number that a revision stands for. -/
def revisionNumber (revision : String) : ℕ := Nat.ofDigitChars 10 revision.toList 0

/-- The replica sets that a deployment controls and that have a revision. -/
def Deployment.controlled (deployment : Deployment σ) (rsList : List (ReplicaSet σ)) :
    List (VersionedReplicaSet σ) :=
  (rsList.filter fun rs => decide (Controls deployment.metadata rs.metadata)).filterMap versioned

/-- **The history of a deployment is complete**: each replica set it controls
is there once, in the order of the numbers, and the current one among them has
the template of the deployment. -/
def Deployment.Complete (deployment : Deployment σ) (rsList : List (ReplicaSet σ)) : Prop :=
  ∃ current list, Applications.getRevisions (.deployment rsList deployment) = some (.replicaSets current list) ∧
    list.Perm (deployment.controlled rsList) ∧
    list.Pairwise (fun a b => revisionNumber a.revision ≤ revisionNumber b.revision) ∧
    (∃ item ∈ list, withoutHash item.replicaSet = current.replicaSet ∧ current.revision = some item.revision) ∧
    deployment.template.isEqual current.replicaSet.template = true

/-- **The history of a daemon set or a stateful set is complete**: the current
revision has the highest number. -/
def Workload.Complete (workload : Workload) (crList : List ControllerRevision) (revisions : Option (Revisions σ)) :
    Prop :=
  ∃ current list, revisions = some (.controllerRevisions (some current) list) ∧
    list.Perm (crList.filter fun cr => decide (Controls workload.metadata cr.metadata)) ∧
    list.Pairwise (fun a b => a.revision ≤ b.revision) ∧
    current ∈ list ∧ ∀ cr ∈ list, cr.revision ≤ current.revision

namespace History

def Complete : History σ → Prop
  | .deployment rsList d => d.Complete rsList
  | .daemonSet crList w => w.Complete crList (getRevisions (.daemonSet crList w : History σ))
  | .statefulSet crList w => w.Complete crList (getRevisions (.statefulSet crList w : History σ))

/-- The objects of a namespace have different names. -/
def Named : History σ → Prop
  | .deployment rsList _ => (rsList.map (·.metadata.name)).Nodup
  | .daemonSet crList _ | .statefulSet crList _ => (crList.map (·.metadata.name)).Nodup

/-- There is a revision that the workload controls. -/
def Begun : History σ → Prop
  | .deployment rsList d => ∃ rs ∈ rsList, Controls d.metadata rs.metadata
  | .daemonSet crList w | .statefulSet crList w => ∃ cr ∈ crList, Controls w.metadata cr.metadata

end History

/-- **What the history of a deployment needs**: the replica sets that are
picked out are those it controls, all of them with annotations; the oldest that
has its template has been a revision; and the texts of the revisions are in the
order of their numbers. -/
structure Deployment.Traceable (deployment : Deployment σ) (rsList : List (ReplicaSet σ)) : Prop where
  owned : ∀ rs ∈ rsList, (versioned rs).isSome →
    (deployment.owns rs = true ↔ Controls deployment.metadata rs.metadata)
  annotated : ∀ rs ∈ rsList, deployment.owns rs = true → rs.metadata.annotations.isSome
  current : ∃ rs ∈ rsList, deployment.owns rs = true ∧ deployment.targets rs = true ∧ (versioned rs).isSome ∧
    ∀ rs' ∈ rsList, deployment.owns rs' = true → deployment.targets rs' = true → age rs ≤ age rs'
  ordered : ∀ rs ∈ (rsList.filter deployment.owns).filterMap versioned,
    ∀ rs' ∈ (rsList.filter deployment.owns).filterMap versioned, rs.revision < rs'.revision →
      revisionNumber rs.revision ≤ revisionNumber rs'.revision

/-- The controller revisions that are picked out are those that the workload
controls. -/
def Workload.Traceable (workload : Workload) (crList : List ControllerRevision) : Prop :=
  ∀ cr ∈ crList, workload.owns cr = true ↔ Controls workload.metadata cr.metadata

def History.Traceable : History σ → Prop
  | .deployment rsList d => d.Traceable rsList
  | .daemonSet crList w | .statefulSet crList w => w.Traceable crList

/-! ## Deployments -/

namespace Deployment

variable {rsList : List (ReplicaSet σ)} {deployment : Deployment σ} {rs : ReplicaSet σ}
  {item : VersionedReplicaSet σ}

theorem versioned_eq_some : versioned rs = some item ↔
    rs = item.replicaSet ∧ rs.metadata.annotation revisionAnnotationKey = some (some item.revision) := by
  rw [versioned, Option.map_eq_some_iff]
  constructor
  · rintro ⟨revision, hrevision, rfl⟩
    exact ⟨rfl, Option.join_eq_some_iff.mp hrevision⟩
  · rintro ⟨rfl, hrevision⟩
    exact ⟨item.revision, Option.join_eq_some_iff.mpr hrevision, rfl⟩

/-- What is picked out and has a revision. -/
theorem mem_versioned {l : List (ReplicaSet σ)} : item ∈ l.filterMap versioned ↔
    item.replicaSet ∈ l ∧ versioned item.replicaSet = some item := by
  rw [List.mem_filterMap]
  constructor
  · rintro ⟨rs, hrs, hitem⟩
    obtain ⟨rfl, -⟩ := versioned_eq_some.mp hitem
    exact ⟨hrs, hitem⟩
  · rintro ⟨hrs, hitem⟩
    exact ⟨_, hrs, hitem⟩

/-- **What is returned for a deployment.** -/
theorem getRevisions_deployment {current : CurrentReplicaSet σ} {list : List (VersionedReplicaSet σ)} :
    Applications.getRevisions (.deployment rsList deployment) = some (.replicaSets current list) ↔
      ∃ rs revision, (deployment.filterOwnedRevisions rsList).find? deployment.targets = some rs ∧
        rs.metadata.annotation revisionAnnotationKey = some revision ∧
        current = ⟨withoutHash rs, revision⟩ ∧
        (∀ rs ∈ rsList, deployment.owns rs = true → rs.metadata.annotations.isSome) ∧
        list = sortBy VersionedReplicaSet.revision
          ((deployment.filterOwnedRevisions rsList).filterMap versioned) := by
  have hall : (deployment.filterOwnedRevisions rsList).all (·.metadata.annotations.isSome) = true ↔
      ∀ rs ∈ rsList, deployment.owns rs = true → rs.metadata.annotations.isSome := by
    rw [List.all_eq_true]
    refine forall_congr' fun rs => ?_
    rw [filterOwnedRevisions, mem_sortBy, List.mem_filter, and_imp]
  unfold Applications.getRevisions Deployment.getRevisions getCurrentRevision filterVersionedRevisions
  constructor
  · intro h
    obtain ⟨⟨current', list'⟩, hrevisions, h⟩ := Option.bind_eq_some_iff.mp h
    obtain ⟨currentRS, hcurrent, hrevisions⟩ := Option.bind_eq_some_iff.mp hrevisions
    obtain ⟨rs, hfound, hcurrent⟩ := Option.bind_eq_some_iff.mp hcurrent
    obtain ⟨revision, hrevision, hcurrent⟩ := Option.bind_eq_some_iff.mp hcurrent
    obtain ⟨versionedRS, hversioned, hrevisions⟩ := Option.bind_eq_some_iff.mp hrevisions
    by_cases hannotated : (deployment.filterOwnedRevisions rsList).all (·.metadata.annotations.isSome) = true
    · rw [if_pos hannotated] at hversioned
      cases hcurrent
      cases hversioned
      cases hrevisions
      cases h
      exact ⟨rs, revision, hfound, hrevision, rfl, hall.mp hannotated, rfl⟩
    · rw [if_neg hannotated] at hversioned
      nomatch hversioned
  · rintro ⟨rs, revision, hfound, hrevision, rfl, hannotated, rfl⟩
    simp only [bind, pure, hfound, hrevision, Option.bind_some, if_pos (hall.mpr hannotated)]

/-- The replica sets that are returned are those that are picked out. -/
theorem perm_filterMap_versioned : ((deployment.filterOwnedRevisions rsList).filterMap versioned).Perm
    ((rsList.filter deployment.owns).filterMap versioned) :=
  (sortBy_perm age _).filterMap versioned

/-- **The list is complete** exactly if what is picked out is what the
deployment controls. -/
theorem perm_controlled_iff :
    ((rsList.filter deployment.owns).filterMap versioned).Perm (deployment.controlled rsList) ↔
      ∀ rs ∈ rsList, (versioned rs).isSome →
        (deployment.owns rs = true ↔ Controls deployment.metadata rs.metadata) := by
  constructor
  · intro hperm rs hrs hversioned
    obtain ⟨item, hitem⟩ := Option.isSome_iff_exists.mp hversioned
    obtain ⟨rfl, -⟩ := versioned_eq_some.mp hitem
    have hiff := hperm.mem_iff (a := item)
    rw [controlled, mem_versioned, mem_versioned, List.mem_filter, List.mem_filter] at hiff
    constructor
    · intro howns
      exact of_decide_eq_true (hiff.mp ⟨⟨hrs, howns⟩, hitem⟩).1.2
    · intro hcontrols
      exact (hiff.mpr ⟨⟨hrs, decide_eq_true hcontrols⟩, hitem⟩).1.2
  · intro howned
    refine .of_eq ?_
    rw [controlled, List.filterMap_filter, List.filterMap_filter]
    refine List.filterMap_congr fun rs hrs => ?_
    cases hversioned : versioned rs with
    | none => rw [ite_self, ite_self]
    | some item =>
      have hiff := howned rs hrs (by rw [hversioned]; rfl)
      by_cases howns : deployment.owns rs = true
      · rw [if_pos howns, if_pos (decide_eq_true (hiff.mp howns))]
      · rw [if_neg howns, if_neg]
        rw [decide_eq_true_iff]
        exact fun hcontrols => howns (hiff.mpr hcontrols)

/-- Of replica sets with different names no two are of one age. -/
theorem eq_of_age {rs' : ReplicaSet σ} (hnamed : (rsList.map (·.metadata.name)).Nodup) (hrs : rs ∈ rsList)
    (hrs' : rs' ∈ rsList) (hage : age rs = age rs') : rs = rs' := by
  have hname : rs.metadata.name = rs'.metadata.name := congrArg (fun key => (ofLex key).2) hage
  exact List.inj_on_of_nodup_map hnamed hrs hrs' hname

/-- **The history of a deployment is complete** exactly if it is
traceable. -/
theorem complete_iff (hnamed : (rsList.map (·.metadata.name)).Nodup) :
    deployment.Complete rsList ↔ deployment.Traceable rsList := by
  have howned : ∀ rs, rs ∈ deployment.filterOwnedRevisions rsList ↔ rs ∈ rsList ∧ deployment.owns rs = true :=
    fun rs => mem_sortBy.trans List.mem_filter
  have hordered : (sortBy VersionedReplicaSet.revision
        ((deployment.filterOwnedRevisions rsList).filterMap versioned)).Pairwise
      (fun a b => revisionNumber a.revision ≤ revisionNumber b.revision) ↔
      ∀ rs ∈ (rsList.filter deployment.owns).filterMap versioned,
      ∀ rs' ∈ (rsList.filter deployment.owns).filterMap versioned, rs.revision < rs'.revision →
        revisionNumber rs.revision ≤ revisionNumber rs'.revision := by
    refine (pairwise_sortBy_iff fun a _ b _ heq => (congrArg revisionNumber heq).le).trans ?_
    simp only [perm_filterMap_versioned.mem_iff]
  have hlist := (sortBy_perm VersionedReplicaSet.revision
    ((deployment.filterOwnedRevisions rsList).filterMap versioned)).trans perm_filterMap_versioned
  constructor
  · rintro ⟨current, list, hrevisions, hperm, hpairwise, ⟨item, hitem, -, hrevision⟩, htemplate⟩
    obtain ⟨rs, revision, hfound, hannotation, rfl, hannotated, rfl⟩ := getRevisions_deployment.mp hrevisions
    obtain ⟨hrs, howns⟩ := (howned rs).mp (List.mem_of_find?_eq_some hfound)
    dsimp only at hrevision
    subst hrevision
    refine ⟨perm_controlled_iff.mp (hlist.symm.trans hperm), hannotated, ?_, hordered.mp hpairwise⟩
    refine ⟨rs, hrs, howns, List.find?_some hfound, ?_, ?_⟩
    · rw [versioned, hannotation]
      rfl
    · intro rs' hrs' howns' htargets'
      exact le_of_find?_sortBy hfound rs' (List.mem_filter.mpr ⟨hrs', howns'⟩) htargets'
  · rintro ⟨hcontrolled, hannotated, ⟨rs, hrs, howns, htargets, hversioned, holdest⟩, htexts⟩
    obtain ⟨found, hfound⟩ :
        ∃ found, (deployment.filterOwnedRevisions rsList).find? deployment.targets = some found :=
      Option.isSome_iff_exists.mp (List.find?_isSome.mpr ⟨rs, (howned rs).mpr ⟨hrs, howns⟩, htargets⟩)
    have hmem := (howned found).mp (List.mem_of_find?_eq_some hfound)
    -- the first of that template is the oldest
    obtain rfl : found = rs := by
      refine eq_of_age hnamed hmem.1 hrs (le_antisymm ?_ ?_)
      · exact le_of_find?_sortBy hfound rs (List.mem_filter.mpr ⟨hrs, howns⟩) htargets
      · exact holdest found hmem.1 hmem.2 (List.find?_some hfound)
    obtain ⟨item, hitem⟩ := Option.isSome_iff_exists.mp hversioned
    obtain ⟨rfl, hannotation⟩ := versioned_eq_some.mp hitem
    refine ⟨_, _, getRevisions_deployment.mpr ⟨_, _, hfound, hannotation, rfl, hannotated, rfl⟩,
      hlist.trans (perm_controlled_iff.mpr hcontrolled), hordered.mpr htexts, ⟨item, ?_, rfl, rfl⟩, htargets⟩
    rw [hlist.mem_iff, mem_versioned, List.mem_filter]
    exact ⟨⟨hrs, howns⟩, hitem⟩

end Deployment

/-! ## Daemon sets and stateful sets -/

namespace Workload

variable {crList : List ControllerRevision} {workload : Workload}

/-- The revisions of the helper are sorted once more, by the number alone. -/
theorem perm_revisions : (sortBy ControllerRevision.revision (workload.filterOwnedRevisions crList)).Perm
    (crList.filter workload.owns) :=
  (sortBy_perm _ _).trans (sortBy_perm _ _)

theorem perm_controls_iff : (crList.filter workload.owns).Perm
    (crList.filter fun cr => decide (Controls workload.metadata cr.metadata)) ↔ workload.Traceable crList := by
  constructor
  · intro hperm cr hcr
    have hiff := hperm.mem_iff (a := cr)
    rw [List.mem_filter, List.mem_filter, decide_eq_true_iff] at hiff
    exact ⟨fun howns => (hiff.mp ⟨hcr, howns⟩).2, fun hcontrols => (hiff.mpr ⟨hcr, hcontrols⟩).2⟩
  · intro htraceable
    refine .of_eq (List.filter_congr fun cr hcr => ?_)
    rw [Bool.eq_iff_iff, htraceable cr hcr, decide_eq_true_iff]

/-- The last of the sorted revisions has the highest number. -/
theorem le_getLast? {current : ControllerRevision}
    (h : (workload.filterOwnedRevisions crList).getLast? = some current) :
    ∀ cr ∈ crList.filter workload.owns, cr.revision ≤ current.revision := by
  intro cr hcr
  obtain ⟨before, hsplit⟩ := List.getLast?_eq_some_iff.mp h
  have hsorted := pairwise_sortBy (fun cr : ControllerRevision => toLex (cr.revision, cr.metadata.creationTimestamp))
    (crList.filter workload.owns)
  have hmem : cr ∈ workload.filterOwnedRevisions crList := mem_sortBy.mpr hcr
  unfold filterOwnedRevisions at hsplit hmem
  rw [hsplit] at hsorted hmem
  obtain hmem | hmem := List.mem_append.mp hmem
  · have hle := (List.pairwise_append.mp hsorted).2.2 cr hmem current List.mem_cons_self
    exact (Prod.Lex.le_iff.mp hle).elim le_of_lt fun h => h.1.le
  · rw [List.mem_singleton.mp hmem]

/-- **The history of a daemon set or a stateful set is complete** exactly if it
is traceable. -/
theorem complete_iff (hbegun : ∃ cr ∈ crList, Controls workload.metadata cr.metadata) :
    workload.Complete crList (some (.controllerRevisions (workload.filterOwnedRevisions crList).getLast?
        (sortBy ControllerRevision.revision (workload.filterOwnedRevisions crList))) : Option (Revisions σ)) ↔
      workload.Traceable crList := by
  constructor
  · rintro ⟨current, list, hrevisions, hperm, -⟩
    obtain ⟨-, rfl⟩ := Revisions.controllerRevisions.inj (Option.some.inj hrevisions)
    exact perm_controls_iff.mp (perm_revisions.symm.trans hperm)
  · intro htraceable
    obtain ⟨cr, hcr, hcontrols⟩ := hbegun
    have hmem : cr ∈ workload.filterOwnedRevisions crList :=
      mem_sortBy.mpr (List.mem_filter.mpr ⟨hcr, (htraceable cr hcr).mpr hcontrols⟩)
    have hlast := List.getLast?_eq_some_getLast (List.ne_nil_of_mem hmem)
    refine ⟨_, _, by rw [hlast], perm_revisions.trans (perm_controls_iff.mpr htraceable),
      pairwise_sortBy _ _, ?_, ?_⟩
    · exact mem_sortBy.mpr (List.mem_of_getLast? hlast)
    · intro cr hcr
      exact le_getLast? hlast cr (perm_revisions.mem_iff.mp hcr)

end Workload

/-! ## The law -/

/-- **A history is complete** exactly if it is traceable: for every workload
that controls a revision, and every list of revisions of a namespace. -/
theorem getRevisions_iff (history : History σ) (hnamed : history.Named) (hbegun : history.Begun) :
    history.Complete ↔ history.Traceable := by
  cases history with
  | deployment rsList d => exact Deployment.complete_iff hnamed
  | daemonSet crList w => exact Workload.complete_iff hbegun
  | statefulSet crList w => exact Workload.complete_iff hbegun

/-! ## Ten revisions -/

/-- The selector of the application `web`. -/
def webSelector (hash : Labels) : LabelSelector where
  matchLabels := some (("app", "web") :: hash)
  matchExpressions := none

/-- A deployment, with an image as the rest of its template. -/
def web (image : String) : Deployment String where
  metadata := { uid := "u", name := "web", creationTimestamp := "2021-01-01T00:00:00Z" }
  selector := webSelector []
  template := { labels := [("app", "web")], rest := image }

/-- A replica set of the deployment. -/
def webReplicaSet (name time revision image : String) : ReplicaSet String where
  metadata := {
    uid := name
    name := name
    creationTimestamp := time
    annotations := some [(revisionAnnotationKey, revision)]
    ownerReferences := [{ uid := "u", controller := true }] }
  selector := webSelector [(defaultDeploymentUniqueLabelKey, name)]
  template := { labels := [("app", "web"), (defaultDeploymentUniqueLabelKey, name)], rest := image }

theorem owns_web (image name time revision image' : String) :
    (web image).owns (webReplicaSet name time revision image') = true := by
  simp [web, webReplicaSet, webSelector, Deployment.owns, LabelSelector.isMatch, matchOptional, matchLabels,
    isControlledBy]

theorem controls_web (image name time revision image' : String) :
    Controls (web image).metadata (webReplicaSet name time revision image').metadata :=
  ⟨_, List.mem_cons_self, rfl, rfl⟩

/-- Two replica sets of the deployment, picked out with their revisions. -/
theorem versioned_web (image n n' t t' r r' i i' : String) :
    ([webReplicaSet n t r i, webReplicaSet n' t' r' i'].filter (web image).owns).filterMap Deployment.versioned =
      [⟨webReplicaSet n t r i, r⟩, ⟨webReplicaSet n' t' r' i', r'⟩] := by
  rw [List.filter_cons_of_pos (owns_web image n t r i), List.filter_cons_of_pos (owns_web image n' t' r' i')]
  rfl

/-- **The tenth revision comes before the ninth.** -/
theorem tenth_before_ninth : ¬ History.Complete (.deployment
    [webReplicaSet "web-9" "2021-01-09T00:00:00Z" "9" "web:9",
      webReplicaSet "web-10" "2021-01-10T00:00:00Z" "10" "web:10"] (web "web:10")) := by
  intro hcomplete
  have htraceable := (Deployment.complete_iff (by decide)).mp hcomplete
  have hordered := htraceable.ordered
  rw [versioned_web] at hordered
  have htenth := hordered _ (List.mem_cons_of_mem _ List.mem_cons_self) _ List.mem_cons_self (by decide)
  exact absurd htenth (by decide)

/-- Two revisions, of which the second is the current one. -/
theorem getRevisions_iff_two : History.Complete (.deployment
    [webReplicaSet "web-1" "2021-01-01T00:00:00Z" "1" "web:1",
      webReplicaSet "web-2" "2021-01-02T00:00:00Z" "2" "web:2"] (web "web:2")) := by
  let history : History String := .deployment [webReplicaSet "web-1" "2021-01-01T00:00:00Z" "1" "web:1",
    webReplicaSet "web-2" "2021-01-02T00:00:00Z" "2" "web:2"] (web "web:2")
  have hnamed : history.Named := show ["web-1", "web-2"].Nodup by decide
  have hbegun : history.Begun := ⟨_, List.mem_cons_self, controls_web _ _ _ _ _⟩
  refine (getRevisions_iff history hnamed hbegun).mpr ⟨?_, ?_, ?_, ?_⟩
  · simp only [List.forall_mem_cons]
    refine ⟨fun _ => ?_, fun _ => ?_, fun _ h => nomatch h⟩
    · exact ⟨fun _ => controls_web _ _ _ _ _, fun _ => owns_web _ _ _ _ _⟩
    · exact ⟨fun _ => controls_web _ _ _ _ _, fun _ => owns_web _ _ _ _ _⟩
  · simp only [List.forall_mem_cons]
    exact ⟨fun _ => rfl, fun _ => rfl, fun _ h => nomatch h⟩
  · refine ⟨_, List.mem_cons_of_mem _ List.mem_cons_self, owns_web _ _ _ _ _, by decide, rfl, ?_⟩
    simp only [List.forall_mem_cons]
    exact ⟨fun _ h => absurd h (by decide), fun _ _ => le_rfl, fun _ h => nomatch h⟩
  · rw [versioned_web]
    simp only [List.forall_mem_cons]
    exact ⟨⟨fun _ => by decide, fun _ => by decide, fun _ h => nomatch h⟩,
      ⟨fun h => absurd h (by decide), fun _ => by decide, fun _ h => nomatch h⟩, fun _ h => nomatch h⟩

end Applications

end Portainer
