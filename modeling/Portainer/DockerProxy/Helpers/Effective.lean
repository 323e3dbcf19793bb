import Portainer.Common.Selection
import Portainer.DockerProxy.Mediation
/-!
# Effective resource controls — what an object in a list is shown under

The kinds of lists, and what decides on an object in one: `effectiveControl`
is its own resource control, or one it inherits through its labels, or one
its labels ask for. `findResourceControl` makes the last kind on the way and
stores it. `finds_findResourceControl` says that it gives the access the
effective control gives, whatever else is made, and less only where a read
of the database fails.
-/

namespace Portainer

namespace DockerProxy

open Json (Object)

/-! ## The lists -/

/-- The kinds of lists. -/
inductive Listed
  | container
  | service
  | volume
  | network
  | secret
  | config
  | task
  deriving DecidableEq, Repr

namespace Listed

/-- How the proxy looks at the objects of a list. -/
def parameters : Listed → ResourceOperationParameters
  | container => containerListParameters
  | service => serviceParameters
  | volume => volumeParameters
  | network => networkParameters
  | secret => secretParameters
  | config => configParameters
  | task => taskParameters

/-- What the proxy does to the answer. -/
def operation : Listed → Transport → RestrictedOperationRequest
  | container => containerListOperation
  | service => serviceListOperation
  | volume => volumeListOperation
  | network => networkListOperation
  | secret => secretListOperation
  | config => configListOperation
  | task => taskListOperation

/-- Where the objects have their labels. -/
def labelsPath : Listed → List String
  | container | volume | network => ["Labels"]
  | service | secret | config => ["Spec", "Labels"]
  | task => ["Spec", "ContainerSpec", "Labels"]

/-- The list in the body of an answer. -/
def list (K : Listed) (response : Response) : Option (List Json) :=
  match K, response.body with
  | volume, .ok (.obj o) =>
    match Object.get o "Volumes" with
    | .null => some []
    | .arr l => some l
    | _ => none
  | volume, _ => none
  | _, .ok (.arr l) => some l
  | _, _ => none

/-- The members of an object the proxy sets. -/
def added : Listed → List String
  | volume => ["Portainer", "ResourceID"]
  | _ => ["Portainer"]

end Listed

/-! ## The effective resource control of an object -/

/-- The text at a key. -/
def textAt (object : Object) (key : String) : Option String :=
  match object.get key with
  | .str text => some text
  | _ => none

/-- The stored resource control a label of an object leads to. -/
def textControl (labels : Object) (label : String) (toID : String → String)
    (kind : ResourceControlType) (rcs : List ResourceControl) : Option ResourceControl :=
  (textAt labels label).bind fun text =>
    getResourceControlByResourceIDAndType (toID text) kind rcs

/-- The identifiers of those of the names that are known. -/
def known {α : Type} (byName : String → Option α) (id : α → Int) (names : List String) : List Int :=
  (names.filterMap byName).map id

/-- The names in a label. -/
def namesIn (labels : Object) (label : String) : List String :=
  ((textAt labels label).map getUniqueElements).getD []

/-- `TeamByName`. -/
def teamByName (t : Transport) (db : DataStore) (name : String) : Option Team :=
  db.team.all.find? fun team => t.equalFold team.name name

/-- `UserByUsername`. -/
def userByUsername (t : Transport) (db : DataStore) (name : String) : Option User :=
  db.user.all.find? fun user => t.equalFold user.username name

/-- The resource control Portainer's own labels ask for: a public one, or
one for the teams and users they name. -/
def requestedControl (t : Transport) (db : DataStore) (labels : Object) (resourceID : String)
    (kind : ResourceControlType) : Option ResourceControl :=
  let teamNames := namesIn labels resourceLabelForPortainerTeamResourceControl
  let userNames := namesIn labels resourceLabelForPortainerUserResourceControl
  if !(labels.get resourceLabelForPortainerPublicResourceControl).isNull then
    some (newPublicResourceControl resourceID kind)
  else if teamNames = [] ∧ userNames = [] then none
  else some (newRestrictedResourceControl resourceID kind
    (known (userByUsername t db) User.id userNames) (known (teamByName t db) Team.id teamNames))

/-- **The effective resource control** of an object: its own, or else that
of the service, the Swarm stack or the Compose project in its labels, or
else the one its labels ask for. -/
def effectiveControl (t : Transport) (db : DataStore) (rcs : List ResourceControl)
    (resourceID : String) (kind : ResourceControlType) (labels : Option Object) :
    Option ResourceControl :=
  let toStack := stackResourceControlID t.endpoint.id
  (getResourceControlByResourceIDAndType resourceID kind rcs).or <| labels.bind fun l =>
    (textControl l resourceLabelForDockerServiceID id .service rcs).or <|
    (textControl l resourceLabelForDockerSwarmStackName toStack .stack rcs).or <|
    (textControl l resourceLabelForDockerComposeStackName toStack .stack rcs).or <|
    requestedControl t db l resourceID kind

/-! ## What is shown -/

/-- An object has a label of the black list. -/
def BlackListed (labelBlackList : Option (List Pair)) (object : Object) : Prop :=
  ∃ pairs labels, labelBlackList = some pairs ∧ objectAt ["Labels"] object = some labels ∧
    ∃ p ∈ labels, ∃ l ∈ pairs, l.name = p.1 ∧ p.2 = .str l.value

/-- The members of an object without those of some keys. -/
def without (keys : List String) (object : Object) : Object := object.filter fun p => p.1 ∉ keys

/-- An object, and the same object with other members at some keys. -/
def SameBut (keys : List String) (v v' : Json) : Prop :=
  ∃ o o', v = .obj o ∧ v' = .obj o' ∧ without keys o' = without keys o

namespace Listed

variable (K : Listed)

/-- The identifier resource controls have for an object: for a volume, its
name with the identifier of the daemon. -/
def identifier (t : Transport) (object : Object) : Option String :=
  match K with
  | volume => (textAt object "Name").bind (resourceIDOf t .volume)
  | _ => textAt object K.parameters.resourceIdentifierAttribute

/-- **Access control lets the object through** to the user. -/
def Granted (t : Transport) (db : DataStore) (context : RestrictedDockerOperationContext)
    (object : Object) (resourceID : String) : Prop :=
  context.isAdmin ∨ SystemNetwork K.parameters.resourceType object ∨
    (effectiveControl t db context.resourceControls resourceID K.parameters.resourceType
      (objectAt K.labelsPath object)).any (mayAccess context)

/-- **What the user is shown**: what has an identifier, is granted, and is
no container with a black listed label. -/
def Shown (t : Transport) (db : DataStore) (executor : OperationExecutor) (v : Json) : Prop :=
  ∃ object resourceID, v = .obj object ∧ K.identifier t object = some resourceID ∧
    K.Granted t db executor.operationContext object resourceID ∧
    ¬ (K = container ∧ BlackListed executor.labelBlackList object)

end Listed

/-! ## Finding, whatever is made on the way -/

variable {α β : Type} {reliable : Prop} {db : DataStore}

/-- The teams and users of a store. -/
def Named (db s : DataStore) : Prop := s.team = db.team ∧ s.user = db.user

/-- A local part leaves the teams and users as they are, and where it
succeeds it returns such a result, which may depend on whether reads
succeed. -/
def Finds (reliable : Prop) (db : DataStore) (Q : α → Prop) (x : Local α) : Prop :=
  Action.Meets (fun k => reliable ∧ k = .databaseRead) (Named db) x (fun a s => Named db s ∧ Q a)
    fun _ _ => True

section Finds

variable {Q : α → Prop} {R : β → Prop}

theorem finds_pure {a : α} (h : Q a) : Finds reliable db Q (pure a) :=
  Action.Meets.pure fun _ hs => ⟨hs, h⟩

theorem finds_fail {e : String} : Finds reliable db Q (Action.fail e) :=
  Action.Meets.fail fun _ _ => trivial

theorem finds_bind {x : Local α} {f : α → Local β} (hx : Finds reliable db Q x)
    (hf : ∀ a, Q a → Finds reliable db R (f a)) : Finds reliable db R (x >>= f) :=
  Action.Meets.bind hx fun a w hR hw => hf a hw.2 w hR hw.1

theorem Finds.mono {Q' : α → Prop} {x : Local α} (hx : Finds reliable db Q x)
    (h : ∀ a, Q a → Q' a) : Finds reliable db Q' x :=
  Action.Meets.conseq hx (fun _ hs => hs) (fun a _ ha => ⟨ha.1, h a ha.2⟩) fun _ _ he => he

theorem finds_map {g : α → β} {x : Local α} (hx : Finds reliable db (fun a => R (g a)) x) :
    Finds reliable db R (g <$> x) :=
  finds_bind (f := fun a => pure (g a)) hx fun _ ha => finds_pure ha

theorem finds_mapError {g : String → String} {x : Local α} (hx : Finds reliable db Q x) :
    Finds reliable db Q (Action.mapError g x) :=
  Action.Meets.mapError hx

theorem finds_ofExcept {r : Except String α} (h : ∀ a, r = .ok a → Q a) :
    Finds reliable db Q (Action.ofExcept r) := by
  cases r with
  | error e => exact finds_fail
  | ok a => exact finds_pure (h a rfl)

theorem finds_asString {v : Json} : Finds reliable db (fun s => v = .str s) (asString v) := by
  cases v with
  | str s => exact finds_pure rfl
  | null => exact finds_fail
  | bool b => exact finds_fail
  | num l => exact finds_fail
  | arr l => exact finds_fail
  | obj o => exact finds_fail

theorem finds_asObject {v : Json} : Finds reliable db (fun o => v = .obj o) (asObject v) := by
  cases v with
  | obj o => exact finds_pure rfl
  | null => exact finds_fail
  | bool b => exact finds_fail
  | num l => exact finds_fail
  | arr l => exact finds_fail
  | str s => exact finds_fail

theorem finds_asArray {v : Json} : Finds reliable db (fun l => v = .arr l) (asArray v) := by
  cases v with
  | arr l => exact finds_pure rfl
  | null => exact finds_fail
  | bool b => exact finds_fail
  | num l => exact finds_fail
  | str s => exact finds_fail
  | obj o => exact finds_fail

theorem eq_null_of_isNull {v : Json} (h : v.isNull) : v = .null := by
  cases v with
  | null => rfl
  | _ => nomatch h

theorem finds_selectLabels {properties : List String} {object : Object} :
    Finds reliable db (fun labels => labels = objectAt properties object)
      (selectLabels properties object) := by
  induction properties generalizing object with
  | nil => exact finds_pure rfl
  | cons property properties ih =>
    unfold selectLabels getJSONObject objectAt
    by_cases hnull : (object.get property).isNull
    · rw [if_pos hnull, eq_null_of_isNull hnull]
      exact finds_pure rfl
    · rw [if_neg hnull]
      refine finds_bind (Q := fun inner => ∃ o, object.get property = .obj o ∧ inner = some o)
        (finds_map (finds_asObject.mono fun o ho => ⟨o, ho, rfl⟩)) ?_
      rintro _ ⟨o, ho, rfl⟩
      rw [ho]
      exact ih

/-- **A pass over a list** selects what its turns keep. -/
theorem finds_collect {f : Json → Local (List Json)} {must may : Json → Prop}
    {r : Json → Json → Prop} {l : List Json}
    (h : ∀ v ∈ l, Finds reliable db (Turn (must v) (may v) (r v)) (f v)) :
    Finds reliable db (Selects must may r l) (collect f l) := by
  induction l with
  | nil => exact finds_pure .nil
  | cons v l ih =>
    refine finds_bind (h v List.mem_cons_self) fun kept hkept => ?_
    refine finds_bind (ih fun v' hv' => h v' (List.mem_cons_of_mem v hv')) fun rest hrest => ?_
    exact finds_pure (.cons hkept hrest)

end Finds

/-! ## The control that is found -/

section Control

variable {t : Transport} {rcs : List ResourceControl} {labels : Object} {resourceID : String}
variable {kind : ResourceControlType}

/-- A search by name that only looks at the teams and users. Where a read
fails the name counts as unknown. -/
theorem finds_knownIDs (byName : DataStore → String → Option α) {id : α → Int}
    {names : List String} (hnamed : ∀ s, Named db s → byName s = byName db) :
    Finds reliable db (fun ids => ids.Sublist (known (byName db) id names) ∧
      (reliable → ids = known (byName db) id names)) (knownIDs byName id names) := by
  induction names with
  | nil => exact finds_pure ⟨List.Sublist.refl _, fun _ => rfl⟩
  | cons name names ih =>
    have hfound : Finds reliable db (fun found : Except String α => match found with
        | .ok a => byName db name = some a
        | .error _ => reliable → byName db name = none)
        (Action.attempt (readObject fun db => byName db name)) := by
      refine Action.Meets.attempt ?_
      refine Action.Meets.lookup (fun s a hs h => ⟨hs, ?_⟩) (fun s hs h => ⟨hs, fun _ => ?_⟩)
        fun hno s text hs => ⟨hs, fun h => ?_⟩
      · rw [← hnamed s hs]
        exact h
      · rw [← hnamed s hs]
        exact h
      · exact absurd ⟨h, rfl⟩ hno
    refine finds_bind hfound fun found h => finds_bind ih fun ids hids => ?_
    obtain ⟨hsub, hall⟩ := hids
    unfold known at hsub hall ⊢
    cases found with
    | error e =>
      refine finds_pure ⟨?_, fun hr => ?_⟩
      · rw [List.filterMap_cons]
        cases byName db name with
        | none => exact hsub
        | some a => exact hsub.cons _
      · rw [List.filterMap_cons, h hr]
        exact hall hr
    | ok a =>
      rw [List.filterMap_cons, h]
      exact finds_pure ⟨hsub.cons_cons _, fun hr => by rw [hall hr]; rfl⟩

theorem finds_createResourceControl {rc : ResourceControl} :
    Finds reliable db (fun made => ∃ i, made = { rc with id := i }) (createResourceControl rc) := by
  have hnext : Finds reliable db (fun _ : Int => True)
      (Action.get fun db : DataStore => db.resourceControl.next) :=
    Action.Meets.get fun s hs => ⟨hs, trivial⟩
  refine finds_bind hnext fun i _ => ?_
  refine finds_bind (Q := fun _ => True)
    (Action.Meets.call (fun s hs => ⟨hs, trivial⟩) fun _ _ _ _ => trivial) fun _ _ => ?_
  exact finds_pure ⟨i, rfl⟩

theorem textAt_of_str {label : String} {text : String} (h : labels.get label = .str text) :
    textAt labels label = some text := by
  unfold textAt
  rw [h]

/-- The names in a label. -/
theorem finds_labelNames {label : String} :
    Finds reliable db (fun names => names = namesIn labels label) (labelNames labels label) := by
  unfold labelNames namesIn
  by_cases hnull : (labels.get label).isNull
  · rw [if_pos hnull]
    refine finds_pure ?_
    unfold textAt
    rw [eq_null_of_isNull hnull]
    rfl
  · rw [if_neg hnull]
    refine finds_map (finds_asString.mono fun text htext => ?_)
    rw [textAt_of_str htext]
    rfl

/-- The control a label leads to. -/
theorem finds_resourceControlOfLabel {label : String} {toID : String → String}
    {kind' : ResourceControlType} :
    Finds reliable db (fun found => found = textControl labels label toID kind' rcs)
      (resourceControlOfLabel labels label toID kind' rcs) := by
  unfold resourceControlOfLabel textControl
  by_cases hnull : (labels.get label).isNull
  · rw [if_pos hnull]
    refine finds_pure ?_
    unfold textAt
    rw [eq_null_of_isNull hnull]
    rfl
  · rw [if_neg hnull]
    refine finds_bind finds_asString fun text htext => finds_pure ?_
    rw [textAt_of_str htext]
    rfl

/-- A control that is found gives no access the effective one does not
give, and all of it where reads succeed. -/
def Concludes (reliable : Prop) (userID : UserID) (teams : List TeamID)
    (effective found : Option ResourceControl) : Prop :=
  (found.any (userCanAccessResource userID teams) →
    effective.any (userCanAccessResource userID teams)) ∧
  (reliable → effective.any (userCanAccessResource userID teams) →
    found.any (userCanAccessResource userID teams))

variable {userID : UserID} {teams : List TeamID}

theorem Concludes.refl {found : Option ResourceControl} :
    Concludes reliable userID teams found found :=
  ⟨fun h => h, fun _ h => h⟩

/-- A restricted control for fewer users and teams gives less access. -/
theorem userCanAccess_of_sublist {userIDs userIDs' : List UserID} {teamIDs teamIDs' : List TeamID}
    (hu : userIDs'.Sublist userIDs) (ht : teamIDs'.Sublist teamIDs)
    (h : userCanAccessResource userID teams
      (newRestrictedResourceControl resourceID kind userIDs' teamIDs')) :
    userCanAccessResource userID teams
      (newRestrictedResourceControl resourceID kind userIDs teamIDs) := by
  unfold userCanAccessResource newRestrictedResourceControl at h ⊢
  simp only [List.any_map, Bool.or_eq_true, List.any_eq_true, Function.comp_apply] at h ⊢
  obtain (⟨u, hmem, hsame⟩ | ⟨i, hmem, hteam⟩) | hpublic := h
  · exact .inl (.inl ⟨u, hu.subset hmem, hsame⟩)
  · exact .inl (.inr ⟨i, ht.subset hmem, hteam⟩)
  · nomatch hpublic

/-- **The control the labels ask for**, with a number of its own. -/
theorem finds_newResourceControlFromPortainerLabels :
    Finds reliable db (Concludes reliable userID teams (requestedControl t db labels resourceID kind))
      (newResourceControlFromPortainerLabels t labels resourceID kind) := by
  unfold newResourceControlFromPortainerLabels requestedControl
  dsimp only
  by_cases hpublic : !(labels.get resourceLabelForPortainerPublicResourceControl).isNull
  · rw [if_pos hpublic, if_pos hpublic]
    refine finds_map (finds_createResourceControl.mono ?_)
    rintro _ ⟨i, rfl⟩
    exact Concludes.refl
  · rw [if_neg hpublic, if_neg hpublic]
    refine finds_bind finds_labelNames fun teamNames hteams => ?_
    refine finds_bind finds_labelNames fun userNames husers => ?_
    rw [← hteams, ← husers]
    by_cases hnone : teamNames = [] ∧ userNames = []
    · rw [if_pos hnone, if_neg (by simp [hnone.1, hnone.2])]
      exact finds_pure .refl
    · have hsome : teamNames.length > 0 ∨ userNames.length > 0 :=
        (not_and_or.mp hnone).imp List.length_pos_iff.mpr List.length_pos_iff.mpr
      rw [if_pos hsome, if_neg hnone]
      refine finds_bind (finds_knownIDs (teamByName t) fun s hs => by
        unfold teamByName; rw [hs.1]) fun teamIDs hteamIDs => ?_
      refine finds_bind (finds_knownIDs (userByUsername t) fun s hs => by
        unfold userByUsername; rw [hs.2]) fun userIDs huserIDs => ?_
      refine finds_map (finds_createResourceControl.mono ?_)
      rintro _ ⟨i, rfl⟩
      refine ⟨fun h => userCanAccess_of_sublist huserIDs.1 hteamIDs.1 h, fun hr h => ?_⟩
      rw [huserIDs.2 hr, hteamIDs.2 hr]
      exact h

/-- The first that finds something decides. -/
theorem finds_orElse {x y : Local (Option ResourceControl)}
    {found effective : Option ResourceControl} (hx : Finds reliable db (fun rc => rc = found) x)
    (hy : Finds reliable db (Concludes reliable userID teams effective) y) :
    Finds reliable db (Concludes reliable userID teams (found.or effective)) (orElse x y) := by
  refine finds_bind hx fun rc hrc => ?_
  rw [← hrc]
  cases rc with
  | some rc => exact finds_pure .refl
  | none => exact hy

/-- **`findResourceControl` finds the effective control.** -/
theorem finds_findResourceControl (userID : UserID) (teams : List TeamID) {labels : Option Object} :
    Finds reliable db
      (Concludes reliable userID teams (effectiveControl t db rcs resourceID kind labels))
      (findResourceControl t resourceID kind labels rcs) := by
  unfold findResourceControl effectiveControl
  dsimp only
  cases getResourceControlByResourceIDAndType resourceID kind rcs with
  | some rc => exact finds_pure .refl
  | none =>
    cases labels with
    | none => exact finds_pure .refl
    | some l =>
      rw [Option.none_or, Option.bind_some]
      exact finds_orElse finds_resourceControlOfLabel <|
        finds_orElse finds_resourceControlOfLabel <|
        finds_orElse finds_resourceControlOfLabel finds_newResourceControlFromPortainerLabels

end Control

end DockerProxy

end Portainer
