import Portainer.Common.Collections
import Portainer.Common.Traverse
/-!
# Applications — placement rules

`helpers/application`. The placement rules of a form become a node affinity:
one term that is required, or one that is preferred, with an expression for
each rule. A rule with a value asks for it, a rule without asks for the label
only, and the reader of the affinity does not expect the latter.
`placements_iff` says when the rules come back, when an affinity is read, and
when it is written as it was.
-/

namespace Portainer

namespace Applications

/-! ## Labels of nodes -/

/-- A node, of which the labels are read: the properties of an object. -/
structure Node where
  labels : List (String × String)

/-- A label of the nodes, with its values. -/
structure NodeLabel where
  key : String
  values : List String

/-- `generateNodeLabelsFromNodes`. -/
def generateNodeLabelsFromNodes (nodes : List Node) : List NodeLabel :=
  (groupBy Prod.fst (nodes.flatMap Node.labels)).map fun group =>
    { key := group.1, values := (group.2.map Prod.snd).eraseDups }

/-! ## The form -/

/-- `KubernetesApplicationPlacementTypes`. -/
inductive PlacementType
  | preferred
  | mandatory
  deriving DecidableEq, Repr

/-- `KubernetesApplicationDeploymentTypes`. -/
inductive DeploymentType
  | replicated
  | global
  deriving DecidableEq, Repr

/-- `KubernetesApplicationPlacementFormValue`. -/
structure PlacementFormValue where
  label : Option NodeLabel
  value : Option String := some ""
  needsDeletion : Bool := false
  isNew : Bool := true

/-- `KubernetesApplicationFormValues`, as far as the rules go. -/
structure PlacementFormValues where
  deploymentType : DeploymentType := .replicated
  placementType : PlacementType := .preferred
  placements : List PlacementFormValue := []

/-! ## Affinities -/

/-- `KubernetesPodNodeAffinityNodeSelectorRequirementOperators`. -/
inductive RequirementOperator
  | isIn
  | notIn
  | exist
  | doesNotExist
  | greaterThan
  | lowerThan
  deriving DecidableEq, Repr

/-- `KubernetesNodeSelectorRequirementPayload`. -/
structure NodeSelectorRequirement where
  key : String
  operator : RequirementOperator
  values : Option (List String)
  deriving DecidableEq, Repr

/-- `KubernetesNodeSelectorTermPayload`. -/
structure NodeSelectorTerm where
  matchExpressions : List NodeSelectorRequirement := []
  deriving DecidableEq, Repr

/-- `KubernetesPreferredSchedulingTermPayload`. -/
structure PreferredSchedulingTerm where
  weight : ℕ := 1
  preference : NodeSelectorTerm
  deriving DecidableEq, Repr

/-- `KubernetesPodNodeAffinityPayload`. -/
structure NodeAffinity where
  requiredDuringScheduling : Option (List NodeSelectorTerm) := none
  preferredDuringScheduling : Option (List PreferredSchedulingTerm) := none
  deriving DecidableEq, Repr

/-- `KubernetesPodAffinity`. -/
structure PodAffinity where
  nodeAffinity : Option NodeAffinity := some {}
  deriving DecidableEq, Repr

/-- `computeAffinity` of the converter of pods. -/
def computeAffinity (affinity : Option PodAffinity) : PodAffinity :=
  { nodeAffinity := some ((affinity.bind PodAffinity.nodeAffinity).getD {}) }

/-! ## Writing -/

/-- The rules that are not marked for deletion. -/
def kept (placements : List PlacementFormValue) : List PlacementFormValue := placements.filter (!·.needsDeletion)

/-- The value of a rule, where there is one. -/
def PlacementFormValue.filled (p : PlacementFormValue) : Option String := p.value.filter (· ≠ "")

/-- The expression for a label and a value, or for the label only. -/
def requirement (key : String) : Option String → NodeSelectorRequirement
  | some value => { key := key, operator := .isIn, values := some [value] }
  | none => { key := key, operator := .exist, values := none }

/-- The expression of a rule; a rule has to have a label. -/
def PlacementFormValue.expression (p : PlacementFormValue) : Option NodeSelectorRequirement :=
  p.label.map fun label => requirement label.key p.filled

/-- The affinity of the expressions: one term, of either type. -/
def PlacementType.affinity (type : PlacementType) (expressions : List NodeSelectorRequirement) : NodeAffinity :=
  match type with
  | .mandatory => { requiredDuringScheduling := some [{ matchExpressions := expressions }] }
  | .preferred => { preferredDuringScheduling := some [{ preference := { matchExpressions := expressions } }] }

/-- `generateAffinityFromPlacements`: the affinity of the workload. -/
def generateAffinityFromPlacements (formValues : PlacementFormValues) : Option (Option PodAffinity) :=
  if formValues.deploymentType = .replicated then do
    let expressions ← (kept formValues.placements).mapM PlacementFormValue.expression
    if expressions.isEmpty then return none
    else return some { nodeAffinity := some (formValues.placementType.affinity expressions) }
  else some none

/-! ## Reading -/

/-- The rule of an expression; the expression has to have values. -/
def NodeSelectorRequirement.placement (nodesLabels : List NodeLabel) (exp : NodeSelectorRequirement) :
    Option PlacementFormValue :=
  exp.values.map fun values =>
    { label := nodesLabels.find? (·.key = exp.key), value := values.head?, isNew := false }

/-- The expressions that are read, and the type they are read as: those that
are required go first. -/
def NodeAffinity.expressions (affinity : NodeAffinity) : Option (PlacementType × List NodeSelectorRequirement) :=
  match affinity.requiredDuringScheduling, affinity.preferredDuringScheduling with
  | some terms, _ => some (.mandatory, terms.flatMap NodeSelectorTerm.matchExpressions)
  | none, some terms => some (.preferred, terms.flatMap fun term => term.preference.matchExpressions)
  | none, none => none

/-- `generatePlacementsFormValuesFromAffinity`. -/
def generatePlacementsFormValuesFromAffinity (formValues : PlacementFormValues) (podAffinity : PodAffinity)
    (nodesLabels : List NodeLabel) : Option PlacementFormValues :=
  match podAffinity.nodeAffinity.bind NodeAffinity.expressions with
  | none => some formValues
  | some (type, expressions) => do
    let placements ← expressions.mapM (NodeSelectorRequirement.placement nodesLabels)
    return { formValues with placementType := type, placements := formValues.placements ++ placements }

/-! ## What has to hold -/

/-- The rules of a form, as far as they say something. -/
def PlacementFormValue.rule (p : PlacementFormValue) : Option NodeLabel × Option String := (p.label, p.value)

/-- **The rules come back**: the affinity is written and read, with the type
and the rules that were kept. -/
def RulesReturn (nodes : List Node) (formValues : PlacementFormValues) : Prop :=
  ∃ affinity read, generateAffinityFromPlacements formValues = some affinity ∧
    generatePlacementsFormValuesFromAffinity {} (computeAffinity affinity) (generateNodeLabelsFromNodes nodes) =
      some read ∧
    read.placementType = formValues.placementType ∧
    read.placements.map PlacementFormValue.rule = (kept formValues.placements).map PlacementFormValue.rule

/-- The reader does not fail. -/
def IsRead (nodes : List Node) (affinity : Option PodAffinity) : Prop :=
  (generatePlacementsFormValuesFromAffinity {} (computeAffinity affinity)
    (generateNodeLabelsFromNodes nodes)).isSome

/-- An expression as it is written. -/
inductive Writable : NodeSelectorRequirement → Prop
  | value (key : String) {value : String} (h : value ≠ "") : Writable ⟨key, .isIn, some [value]⟩
  | existence (key : String) : Writable ⟨key, .exist, none⟩

/-- **The shape of an affinity that is written here**: one term of either
type. -/
inductive Shaped : NodeAffinity → Prop
  | intro (type : PlacementType) {expressions : List NodeSelectorRequirement} (hne : expressions ≠ [])
      (h : ∀ exp ∈ expressions, Writable exp) : Shaped (type.affinity expressions)

/-- **The affinity is written as it was read.** -/
def WritesBack (nodes : List Node) (affinity : NodeAffinity) : Prop :=
  ∃ read, generatePlacementsFormValuesFromAffinity {} (computeAffinity (some ⟨some affinity⟩))
      (generateNodeLabelsFromNodes nodes) = some read ∧
    generateAffinityFromPlacements read = some (some ⟨some affinity⟩)

/-- The expressions that an affinity is read from. -/
def readExpressions (affinity : Option PodAffinity) : List NodeSelectorRequirement :=
  (((computeAffinity affinity).nodeAffinity.bind NodeAffinity.expressions).map Prod.snd).getD []

/-! ## Labels -/

section Labels

variable {nodes : List Node} {label : NodeLabel} {key : String}

/-- Each label has an entry of its own. -/
theorem nodup_generateNodeLabelsFromNodes : ((generateNodeLabelsFromNodes nodes).map NodeLabel.key).Nodup := by
  have hkeys : (generateNodeLabelsFromNodes nodes).map NodeLabel.key =
      groupNames Prod.fst (nodes.flatMap Node.labels) := by
    rw [generateNodeLabelsFromNodes, groupBy, List.map_map, List.map_map]
    exact List.map_id _
  rw [hkeys]
  exact nodup_groupNames

/-- A label of a node has an entry. -/
theorem exists_nodeLabel {node : Node} {value : String} (hnode : node ∈ nodes)
    (hlabel : (key, value) ∈ node.labels) : ∃ label ∈ generateNodeLabelsFromNodes nodes, label.key = key := by
  have hname : key ∈ groupNames Prod.fst (nodes.flatMap Node.labels) :=
    mem_groupNames.mpr ⟨(key, value), List.mem_flatMap.mpr ⟨node, hnode, hlabel⟩, rfl⟩
  exact ⟨_, List.mem_map_of_mem (List.mem_map_of_mem hname), rfl⟩

end Labels

/-! ## Writing and reading -/

section Rules

variable {nodes : List Node} {formValues : PlacementFormValues} {nodesLabels : List NodeLabel}
  {type : PlacementType} {expressions : List NodeSelectorRequirement} {p : PlacementFormValue}

/-- The expression of a rule that has a label. -/
def PlacementFormValue.written (p : PlacementFormValue) : NodeSelectorRequirement :=
  requirement ((p.label.map NodeLabel.key).getD "") p.filled

theorem expression_eq {label : NodeLabel} (h : p.label = some label) : p.expression = some p.written := by
  rw [PlacementFormValue.expression, PlacementFormValue.written, h]
  rfl

/-- An expression has values exactly if its rule has one. -/
theorem isSome_values_written : p.written.values.isSome ↔ p.filled.isSome := by
  unfold PlacementFormValue.written requirement
  cases p.filled <;> exact Iff.rfl

theorem eq_of_filled {value : String} (h : p.filled = some value) : p.value = some value ∧ value ≠ "" := by
  obtain ⟨hvalue, hne⟩ := Option.filter_eq_some_iff.mp h
  exact ⟨hvalue, of_decide_eq_true hne⟩

/-- **What the writer does** with rules that have labels. -/
theorem generateAffinity_eq (hreplicated : formValues.deploymentType = .replicated)
    (hlabels : ∀ p ∈ kept formValues.placements, ∃ label, p.label = some label) :
    generateAffinityFromPlacements formValues = some
      (if kept formValues.placements = [] then none
      else some ⟨some (formValues.placementType.affinity
        ((kept formValues.placements).map PlacementFormValue.written))⟩) := by
  have hexpressions : (kept formValues.placements).mapM PlacementFormValue.expression =
      some ((kept formValues.placements).map PlacementFormValue.written) := by
    refine Traverse.mapM_eq_some fun p hp => ?_
    obtain ⟨label, hlabel⟩ := hlabels p hp
    exact expression_eq hlabel
  unfold generateAffinityFromPlacements
  rw [if_pos hreplicated, hexpressions]
  cases kept formValues.placements <;> rfl

/-- The affinity of expressions is read as these. -/
theorem expressions_affinity : (type.affinity expressions).expressions = some (type, expressions) := by
  cases type <;> simp [PlacementType.affinity, NodeAffinity.expressions]

/-- **What the reader does** with an affinity that is written here. -/
theorem generatePlacements_affinity :
    generatePlacementsFormValuesFromAffinity {} (computeAffinity (some ⟨some (type.affinity expressions)⟩))
      nodesLabels =
    (expressions.mapM (NodeSelectorRequirement.placement nodesLabels)).map fun placements =>
      { placementType := type, placements := placements } := by
  unfold generatePlacementsFormValuesFromAffinity
  have hread : (computeAffinity (some ⟨some (type.affinity expressions)⟩)).nodeAffinity.bind
      NodeAffinity.expressions = some (type, expressions) := expressions_affinity
  rw [hread]
  dsimp only
  cases expressions.mapM (NodeSelectorRequirement.placement nodesLabels) <;> rfl

theorem readExpressions_affinity : readExpressions (some ⟨some (type.affinity expressions)⟩) = expressions := by
  have hread : (computeAffinity (some ⟨some (type.affinity expressions)⟩)).nodeAffinity.bind
      NodeAffinity.expressions = some (type, expressions) := expressions_affinity
  rw [readExpressions, hread]
  rfl

/-- Without an affinity the form stays as it is. -/
theorem generatePlacements_none :
    generatePlacementsFormValuesFromAffinity formValues (computeAffinity none) nodesLabels = some formValues :=
  rfl

/-- A rule with a label of the nodes and a value is read back. -/
theorem placement_written {label : NodeLabel} {value : String}
    (hlabel : label ∈ generateNodeLabelsFromNodes nodes) (hp : p.label = some label)
    (hvalue : p.filled = some value) :
    p.written.placement (generateNodeLabelsFromNodes nodes) =
      some { label := p.label, value := p.value, isNew := false } := by
  have hfound : (generateNodeLabelsFromNodes nodes).find? (fun l => decide (l.key = label.key)) = some label :=
    find?_key nodup_generateNodeLabelsFromNodes hlabel
  rw [PlacementFormValue.written, hp, hvalue, (eq_of_filled hvalue).1]
  unfold NodeSelectorRequirement.placement requirement
  dsimp only [Option.map_some, Option.getD_some]
  rw [hfound]
  rfl

/-- **The rules come back** exactly if each has a value, and the type with
them if there is a rule to carry it. -/
theorem rulesReturn_iff (hreplicated : formValues.deploymentType = .replicated)
    (hlabels : ∀ p ∈ kept formValues.placements,
      ∃ label ∈ generateNodeLabelsFromNodes nodes, p.label = some label) :
    RulesReturn nodes formValues ↔
      (∀ p ∈ kept formValues.placements, p.filled.isSome) ∧
        (kept formValues.placements ≠ [] ∨ formValues.placementType = .preferred) := by
  have hwritten := generateAffinity_eq hreplicated fun p hp => (hlabels p hp).imp fun _ h => h.2
  unfold RulesReturn
  rw [hwritten]
  by_cases hnone : kept formValues.placements = []
  · -- nothing is written, and the form that is loaded has its default type
    rw [if_pos hnone, hnone]
    constructor
    · rintro ⟨affinity, read, haffinity, hread, htype, -⟩
      obtain rfl := Option.some.inj haffinity
      rw [generatePlacements_none] at hread
      obtain rfl := Option.some.inj hread
      exact ⟨fun p hp => absurd hp List.not_mem_nil, .inr htype.symm⟩
    · rintro ⟨-, htype⟩
      exact ⟨none, {}, rfl, generatePlacements_none, (htype.resolve_left (fun h => h rfl)).symm, rfl⟩
  · rw [if_neg hnone]
    constructor
    · rintro ⟨affinity, read, haffinity, hread, -⟩
      obtain rfl := Option.some.inj haffinity
      rw [generatePlacements_affinity] at hread
      obtain ⟨placements, hplacements, -⟩ := Option.map_eq_some_iff.mp hread
      refine ⟨fun p hp => ?_, .inl hnone⟩
      have hplaced := Traverse.isSome_of_mapM hplacements p.written (List.mem_map_of_mem hp)
      rw [NodeSelectorRequirement.placement, Option.isSome_map] at hplaced
      exact isSome_values_written.mp hplaced
    · rintro ⟨hfilled, -⟩
      have hplacements : ((kept formValues.placements).map PlacementFormValue.written).mapM
          (NodeSelectorRequirement.placement (generateNodeLabelsFromNodes nodes)) =
          some ((kept formValues.placements).map fun p =>
            { label := p.label, value := p.value, isNew := false }) := by
        rw [List.mapM_map]
        refine Traverse.mapM_eq_some fun p hp => ?_
        obtain ⟨label, hlabel, hp'⟩ := hlabels p hp
        obtain ⟨value, hvalue⟩ := Option.isSome_iff_exists.mp (hfilled p hp)
        exact placement_written hlabel hp' hvalue
      have hread := @generatePlacements_affinity (generateNodeLabelsFromNodes nodes) formValues.placementType
        ((kept formValues.placements).map PlacementFormValue.written)
      rw [hplacements, Option.map_some] at hread
      exact ⟨_, _, rfl, hread, rfl, List.map_map⟩

/-- **An affinity is read** exactly if every expression has values. -/
theorem isRead_iff (affinity : Option PodAffinity) :
    IsRead nodes affinity ↔ ∀ exp ∈ readExpressions affinity, exp.values.isSome := by
  unfold IsRead generatePlacementsFormValuesFromAffinity readExpressions
  cases (computeAffinity affinity).nodeAffinity.bind NodeAffinity.expressions with
  | none => exact ⟨fun _ exp hexp => absurd hexp List.not_mem_nil, fun _ => rfl⟩
  | some read =>
    obtain ⟨type, expressions⟩ := read
    have hplacement : ∀ exp : NodeSelectorRequirement,
        (exp.placement (generateNodeLabelsFromNodes nodes)).isSome ↔ exp.values.isSome := by
      intro exp
      rw [NodeSelectorRequirement.placement, Option.isSome_map]
    have hall := Traverse.isSome_mapM_iff (f := NodeSelectorRequirement.placement (generateNodeLabelsFromNodes nodes))
      (l := expressions)
    simp only [hplacement] at hall
    refine Iff.trans ?_ hall
    dsimp only
    cases expressions.mapM (NodeSelectorRequirement.placement (generateNodeLabelsFromNodes nodes)) <;> exact Iff.rfl

/-- The rule that an expression with values is read as. -/
def NodeSelectorRequirement.rule (nodesLabels : List NodeLabel) (exp : NodeSelectorRequirement) :
    PlacementFormValue :=
  { label := nodesLabels.find? (·.key = exp.key), value := (exp.values.getD []).head?, isNew := false }

theorem mapM_placement (h : ∀ exp ∈ expressions, exp.values.isSome) :
    expressions.mapM (NodeSelectorRequirement.placement nodesLabels) =
      some (expressions.map (NodeSelectorRequirement.rule nodesLabels)) := by
  refine Traverse.mapM_eq_some fun exp hexp => ?_
  obtain ⟨values, hvalues⟩ := Option.isSome_iff_exists.mp (h exp hexp)
  rw [NodeSelectorRequirement.placement, NodeSelectorRequirement.rule, hvalues]
  rfl

/-- The rules that are read are kept. -/
theorem kept_rules : kept (expressions.map (NodeSelectorRequirement.rule nodesLabels)) =
    expressions.map (NodeSelectorRequirement.rule nodesLabels) := by
  refine List.filter_eq_self.mpr fun p hp => ?_
  obtain ⟨exp, -, rfl⟩ := List.mem_map.mp hp
  rfl

/-- An expression that was written, and whose label some node has, is written
again. -/
theorem expression_rule {exp : NodeSelectorRequirement} (hwritable : Writable exp) (hvalues : exp.values.isSome)
    (hlabel : ∃ label ∈ nodesLabels, label.key = exp.key) : (exp.rule nodesLabels).expression = some exp := by
  obtain ⟨label, -, hfound, hkey⟩ := exists_find?_key hlabel
  cases hwritable with
  | existence key => nomatch hvalues
  | value key hvalue =>
    rename_i value
    have hfilled : (NodeSelectorRequirement.rule nodesLabels ⟨key, .isIn, some [value]⟩).filled = some value :=
      Option.filter_eq_some_iff.mpr ⟨rfl, decide_eq_true hvalue⟩
    rw [PlacementFormValue.expression, hfilled, NodeSelectorRequirement.rule, hfound, Option.map_some, hkey]
    rfl

/-- **An affinity of the shape is written as it was read** exactly if each
expression has a value and a label that some node has. -/
theorem writesBack_iff {affinity : NodeAffinity} (h : Shaped affinity) :
    WritesBack nodes affinity ↔ ∀ exp ∈ readExpressions (some ⟨some affinity⟩),
      exp.values.isSome ∧ ∃ label ∈ generateNodeLabelsFromNodes nodes, label.key = exp.key := by
  obtain ⟨type, hne, hwritable⟩ := h
  rename_i expressions
  rw [readExpressions_affinity]
  unfold WritesBack
  rw [generatePlacements_affinity]
  constructor
  · rintro ⟨read, hread, hback⟩
    obtain ⟨placements, hplacements, rfl⟩ := Option.map_eq_some_iff.mp hread
    have hvalues : ∀ exp ∈ expressions, exp.values.isSome := by
      intro exp hexp
      have hread := Traverse.isSome_of_mapM hplacements exp hexp
      rwa [NodeSelectorRequirement.placement, Option.isSome_map] at hread
    obtain rfl := Option.some.inj (hplacements.symm.trans (mapM_placement hvalues))
    unfold generateAffinityFromPlacements at hback
    rw [if_pos rfl, kept_rules] at hback
    obtain ⟨written, hwritten, -⟩ := Option.bind_eq_some_iff.mp hback
    intro exp hexp
    have hlabel := Traverse.isSome_of_mapM hwritten _ (List.mem_map_of_mem hexp)
    rw [PlacementFormValue.expression, Option.isSome_map] at hlabel
    obtain ⟨label, hfound⟩ := Option.isSome_iff_exists.mp hlabel
    exact ⟨hvalues exp hexp, label, List.mem_of_find?_eq_some hfound, by simpa using List.find?_some hfound⟩
  · intro hall
    refine ⟨_, Option.map_eq_some_iff.mpr ⟨_, mapM_placement fun exp hexp => (hall exp hexp).1, rfl⟩, ?_⟩
    have hwritten : (expressions.map (NodeSelectorRequirement.rule (generateNodeLabelsFromNodes nodes))).mapM
        PlacementFormValue.expression = some expressions := by
      rw [List.mapM_map]
      refine (Traverse.mapM_eq_some (h := id) fun exp hexp => ?_).trans (by rw [List.map_id])
      exact expression_rule (hwritable exp hexp) (hall exp hexp).1 (hall exp hexp).2
    unfold generateAffinityFromPlacements
    rw [if_pos rfl, kept_rules, hwritten]
    cases expressions with
    | nil => exact absurd rfl hne
    | cons exp expressions => rfl

/-! ## The law -/

/-- **Placement rules and affinities.** The rules of a replicated application
whose labels some node has come back exactly if each has a value, and the type
with them if there is a rule or the type is the default; an affinity is read
exactly if each of its expressions has values; and one of the shape that is
written here is written as it was read exactly if each expression has a value
and a label that some node has. -/
theorem placements_iff (nodes : List Node) :
    (∀ formValues : PlacementFormValues, formValues.deploymentType = .replicated →
      (∀ p ∈ kept formValues.placements, ∃ label ∈ generateNodeLabelsFromNodes nodes, p.label = some label) →
      (RulesReturn nodes formValues ↔ (∀ p ∈ kept formValues.placements, p.filled.isSome) ∧
        (kept formValues.placements ≠ [] ∨ formValues.placementType = .preferred))) ∧
    (∀ affinity : Option PodAffinity,
      IsRead nodes affinity ↔ ∀ exp ∈ readExpressions affinity, exp.values.isSome) ∧
    ∀ affinity : NodeAffinity, Shaped affinity →
      (WritesBack nodes affinity ↔ ∀ exp ∈ readExpressions (some ⟨some affinity⟩),
        exp.values.isSome ∧ ∃ label ∈ generateNodeLabelsFromNodes nodes, label.key = exp.key) :=
  ⟨fun _ => rulesReturn_iff, isRead_iff, fun _ => writesBack_iff⟩

/-- A node with an SSD. -/
def ssd : Node := { labels := [("disk", "ssd")] }

/-- **A rule without a value is lost**: the label has to exist, whatever its
value is, and the affinity that says so is not read. -/
theorem placement_existence_fails : (∃ label ∈ generateNodeLabelsFromNodes [ssd], label.key = "disk" ∧
    ¬ RulesReturn [ssd] { placementType := .mandatory, placements := [{ label := some label, value := some "" }] }) ∧
    ¬ IsRead [ssd] (some ⟨some (PlacementType.affinity .mandatory [⟨"disk", .exist, none⟩])⟩) := by
  obtain ⟨label, hlabel, hkey⟩ : ∃ label ∈ generateNodeLabelsFromNodes [ssd], label.key = "disk" :=
    exists_nodeLabel List.mem_cons_self List.mem_cons_self
  refine ⟨⟨label, hlabel, hkey, ?_⟩, ?_⟩
  · rw [rulesReturn_iff rfl fun p hp => ⟨label, hlabel, by rw [List.mem_singleton.mp hp]⟩]
    rintro ⟨hfilled, -⟩
    nomatch hfilled _ List.mem_cons_self
  · rw [isRead_iff, readExpressions_affinity]
    intro hvalues
    nomatch hvalues _ List.mem_cons_self

/-- The same rule with a value. -/
theorem placements_iff_value : ∃ label ∈ generateNodeLabelsFromNodes [ssd], label.key = "disk" ∧
    RulesReturn [ssd] { placementType := .mandatory, placements := [{ label := some label, value := some "ssd" }] } ∧
    WritesBack [ssd] (PlacementType.affinity .mandatory [⟨"disk", .isIn, some ["ssd"]⟩]) := by
  obtain ⟨hrules, -, hback⟩ := placements_iff [ssd]
  obtain ⟨label, hlabel, hkey⟩ : ∃ label ∈ generateNodeLabelsFromNodes [ssd], label.key = "disk" :=
    exists_nodeLabel List.mem_cons_self List.mem_cons_self
  refine ⟨label, hlabel, hkey, ?_, ?_⟩
  · refine (hrules _ rfl fun p hp => ⟨label, hlabel, by rw [List.mem_singleton.mp hp]⟩).mpr
      ⟨fun p hp => ?_, .inl ?_⟩
    · rw [List.mem_singleton.mp hp]
      rfl
    · exact List.cons_ne_nil _ _
  · refine (hback _ (.intro _ (List.cons_ne_nil _ _) fun exp hexp => ?_)).mpr fun exp hexp => ?_
    · rw [List.mem_singleton.mp hexp]
      exact .value "disk" (by decide)
    · rw [readExpressions_affinity] at hexp
      rw [List.mem_singleton.mp hexp]
      exact ⟨rfl, label, hlabel, hkey⟩

end Rules

end Applications

end Portainer
