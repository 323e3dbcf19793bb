import Portainer.DockerProxy.Helpers.Controls
import Portainer.DockerProxy.Helpers.Selecting
/-!
# Making resource controls — which identifiers get one

The proxy makes a resource control for a resource that it creates, and for
an object of an answer whose labels ask for one, if there is none that the
object has or inherits. It looks at the controls as they were before the
answer, so each object of a list is looked at by itself.

`unifies_proxyDockerRequest` says when a request leaves each identifier with
one control: no two objects of a list may get one under the same
identifier, and the identifier of what is created must have none.
-/

namespace Portainer

open Action (Keeps Meets Ensures)

namespace DockerProxy

open Json (Object)

/-! ## One control for each identifier -/

/-- The control bears the identifier, for resources of the type. -/
def Bears (id : String) (type : ResourceControlType) (rc : ResourceControl) : Prop :=
  rc.type = type ∧ (rc.resourceID = id ∨ id ∈ rc.subResourceIDs)

/-- Two controls bear one identifier. -/
def Overlap (rc rc' : ResourceControl) : Prop := ∃ id type, Bears id type rc ∧ Bears id type rc'

/-- **Each identifier has one control of a type at most**, whether it is the
identifier of the control or one of its sub-resources. -/
def UniqueControls (db : DataStore) : Prop := db.resourceControl.Unique Overlap

/-- No stored control bears the identifier. -/
def Unborne (db : DataStore) (type : ResourceControlType) (id : String) : Prop :=
  ∀ rc ∈ db.resourceControl.all, ¬ Bears id type rc

variable {db : DataStore} {rc : ResourceControl} {kind : ResourceControlType} {resourceID : String}

theorem Overlap.symm {rc rc' : ResourceControl} (h : Overlap rc rc') : Overlap rc' rc := by
  obtain ⟨id, type, hrc, hrc'⟩ := h
  exact ⟨id, type, hrc', hrc⟩

/-- In particular each pair of a resource and a type has one control. -/
theorem UniqueControls.pair {id id' : ResourceControlID} {rc rc' : ResourceControl} (h : UniqueControls db)
    (hrc : db.resourceControl.get? id = some rc) (hrc' : db.resourceControl.get? id' = some rc')
    (hresource : rc.resourceID = rc'.resourceID) (htype : rc.type = rc'.type) : id = id' :=
  h id id' rc rc' hrc hrc' ⟨rc.resourceID, rc.type, ⟨rfl, .inl rfl⟩, ⟨htype.symm, .inl hresource.symm⟩⟩

theorem UniqueControls.create (h : UniqueControls db)
    (hrc : ∀ id, Bears id rc.type rc → Unborne db rc.type id) : UniqueControls (db.createResourceControl rc) := by
  refine Bucket.Unique.create h (fun _ _ => Overlap.symm) fun rc' hrc' hoverlap => ?_
  obtain ⟨id, type, hbears, hbears'⟩ := hoverlap
  obtain rfl : rc.type = type := hbears.1
  exact hrc id hbears rc' hrc' hbears'

/-- What the search does not find, no control bears. -/
theorem unborne_of_none (h : getResourceControlByResourceIDAndType resourceID kind db.resourceControl.all = none) :
    Unborne db kind resourceID := by
  intro rc hrc hbears
  have hnot := List.find?_eq_none.mp h rc hrc
  rw [decide_eq_true_eq, not_or] at hnot
  obtain ⟨htype, hid | hsub⟩ := hbears
  · exact hnot.1 ⟨hid.symm, htype.symm⟩
  · exact hnot.2 hsub

theorem bears_iff_of_plain (hsub : rc.subResourceIDs = []) {id : String} {type : ResourceControlType} :
    Bears id type rc ↔ rc.type = type ∧ rc.resourceID = id := by
  rw [Bears, hsub, or_iff_left List.not_mem_nil]

/-- **Some identifiers are free**: each identifier has one control, and
these have none. -/
def Free (kind : ResourceControlType) (W : String → Prop) (db : DataStore) : Prop :=
  UniqueControls db ∧ ∀ id, W id → Unborne db kind id

variable {W W' : String → Prop}

theorem Free.mono (h : Free kind W db) (hW : ∀ id, W' id → W id) : Free kind W' db :=
  ⟨h.1, fun id hid => h.2 id (hW id hid)⟩

/-- A control takes its identifier. -/
theorem Free.create (h : Free kind W db) (htype : rc.type = kind) (hsub : rc.subResourceIDs = [])
    (hW : W rc.resourceID) :
    Free kind (fun id => W id ∧ id ≠ rc.resourceID) (db.createResourceControl rc) := by
  obtain ⟨hunique, hfree⟩ := h
  refine ⟨hunique.create fun id hbears => ?_, fun id hid rc' hrc' hbears => ?_⟩
  · obtain ⟨-, rfl⟩ := (bears_iff_of_plain hsub).mp hbears
    rw [htype]
    exact hfree _ hW
  · have hget := Bucket.mem_all.mp hrc'
    have hput : ((db.resourceControl.nextSequence.put { rc with id := db.resourceControl.next }).get?
        (Record.key rc')) = some rc' := hget
    rw [Bucket.get?_put] at hput
    split at hput
    · -- the new control has another identifier
      obtain rfl := Option.some.inj hput
      exact hid.2 ((bears_iff_of_plain hsub).mp hbears).2.symm
    · exact hfree id hid.1 rc' (Bucket.mem_all.mpr hput) hbears

/-! ## Reading -/

section Reading

variable {σ α β : Type} {R : Callee → Prop}

/-- A part that changes nothing, and what follows it. -/
theorem meets_read_bind {P E : σ → Prop} {x : Fallible σ α} {f : α → Fallible σ β} {M : α → Prop}
    {Q : β → σ → Prop} (hx : x.Keeps P) (hM : ∀ s, Ensures x s fun a _ => M a) (hE : ∀ s, P s → E s)
    (hf : ∀ a, M a → Meets R P (f a) Q fun _ => E) : Meets R P (x >>= f) Q fun _ => E := by
  refine .bind (M := fun a s => P s ∧ M a) ?_ fun a w hR hw => hf a hw.2 w hR hw.1
  exact (hx.returning hM R).conseq (fun _ hs => hs) (fun _ _ ha => ha) fun _ s hs => hE s hs

/-- What is found whatever the store. -/
theorem ensures_of_finds {Q : α → Prop} {x : Local α} (h : ∀ db, Finds False db Q x) (s : DataStore) :
    Ensures x s fun a _ => Q a := by
  intro w a w' hw hrun
  have hends := (h s w (fun _ hk => hk.1.elim) (by rw [hw]; exact ⟨rfl, rfl⟩)).1
  rw [hrun] at hends
  exact hends.2

/-- A part that makes no control leaves fewer identifiers free as well. -/
theorem meets_of_keeps {Q : String → Prop} {x : Local α} (h : x.Keeps (Free kind W)) (hW : ∀ id, Q id → W id) :
    Meets R (Free kind W) x (fun _ => Free kind Q) fun _ => UniqueControls :=
  (h R).conseq (fun _ hs => hs) (fun _ _ hs => hs.mono hW) fun _ _ hs => hs.1

end Reading

/-! ## One object -/

section Object

variable {t : Transport} {rcs : List ResourceControl} {labels : Object} {R : Callee → Prop}

/-- Portainer's labels ask for a control. -/
def Asks (labels : Object) : Prop :=
  (labels.get resourceLabelForPortainerPublicResourceControl).isNull = false ∨
    namesIn labels resourceLabelForPortainerTeamResourceControl ≠ [] ∨
      namesIn labels resourceLabelForPortainerUserResourceControl ≠ []

/-- The labels lead to no stored control. -/
def LeadsNowhere (t : Transport) (rcs : List ResourceControl) (labels : Object) : Prop :=
  textControl labels resourceLabelForDockerServiceID id .service rcs = none ∧
    textControl labels resourceLabelForDockerSwarmStackName (stackResourceControlID t.endpoint.id) .stack rcs = none ∧
      textControl labels resourceLabelForDockerComposeStackName (stackResourceControlID t.endpoint.id) .stack rcs = none

/-- **An object gets a control** if there is none that it has or inherits,
and its labels ask for one. -/
def Gets (t : Transport) (rcs : List ResourceControl) (kind : ResourceControlType) (resourceID : String)
    (labels : Option Object) : Prop :=
  getResourceControlByResourceIDAndType resourceID kind rcs = none ∧
    ∃ l, labels = some l ∧ LeadsNowhere t rcs l ∧ Asks l

theorem meets_createResourceControl (htype : rc.type = kind) (hsub : rc.subResourceIDs = [])
    (hW : W rc.resourceID) :
    Meets R (Free kind W) (createResourceControl rc) (fun _ => Free kind fun id => W id ∧ id ≠ rc.resourceID)
      fun _ => UniqueControls := by
  refine .bind (M := fun _ => Free kind W) (.get fun _ hs => hs) fun _ => ?_
  refine .bind (M := fun _ => Free kind fun id => W id ∧ id ≠ rc.resourceID) ?_ fun _ => .pure fun _ hs => hs
  exact .call (fun _ hs => hs.create htype hsub hW) fun _ _ _ hs => hs.1

theorem meets_map {σ α β : Type} {P : σ → Prop} {f : α → β} {x : Fallible σ α} {Q : σ → Prop} {E : σ → Prop}
    (h : Meets R P x (fun _ => Q) fun _ => E) : Meets R P (f <$> x) (fun _ => Q) fun _ => E :=
  .bind h fun _ => .pure fun _ hs => hs

/-- What the labels ask for. -/
theorem meets_newResourceControlFromPortainerLabels (hW : Asks labels → W resourceID) :
    Meets R (Free kind W) (newResourceControlFromPortainerLabels t labels resourceID kind)
      (fun _ => Free kind fun id => W id ∧ ¬ (Asks labels ∧ id = resourceID)) fun _ => UniqueControls := by
  have hmade : ∀ {α : Type} {x : Local α}, Asks labels → Meets R (Free kind W) x
      (fun _ => Free kind fun id => W id ∧ id ≠ resourceID) (fun _ => UniqueControls) →
      Meets R (Free kind W) x (fun _ => Free kind fun id => W id ∧ ¬ (Asks labels ∧ id = resourceID))
        fun _ => UniqueControls := by
    intro α x hasks hx
    refine hx.conseq (fun _ hs => hs) (fun _ _ hs => hs.mono fun id hid => ⟨hid.1, fun heq => ?_⟩) fun _ _ hs => hs
    exact hid.2 ⟨hasks, heq⟩
  unfold newResourceControlFromPortainerLabels
  by_cases hpublic : (labels.get resourceLabelForPortainerPublicResourceControl).isNull
  · rw [if_neg (by rw [hpublic]; decide)]
    refine meets_read_bind keeps_labelNames (ensures_of_finds fun _ => finds_labelNames) (fun _ hs => hs.1) ?_
    rintro teamNames rfl
    refine meets_read_bind keeps_labelNames (ensures_of_finds fun _ => finds_labelNames) (fun _ hs => hs.1) ?_
    rintro userNames rfl
    by_cases hnames : (namesIn labels resourceLabelForPortainerTeamResourceControl).length > 0 ∨
        (namesIn labels resourceLabelForPortainerUserResourceControl).length > 0
    · rw [if_pos hnames]
      have hasks : Asks labels := .inr (hnames.imp List.length_pos_iff.mp List.length_pos_iff.mp)
      refine hmade hasks (.bind (M := fun _ => Free kind W) ?_ fun teamIDs => ?_)
      · exact (keeps_knownIDs R).conseq (fun _ hs => hs) (fun _ _ hs => hs) fun _ _ hs => hs.1
      refine .bind (M := fun _ => Free kind W) ?_ fun userIDs => ?_
      · exact (keeps_knownIDs R).conseq (fun _ hs => hs) (fun _ _ hs => hs) fun _ _ hs => hs.1
      exact meets_map (meets_createResourceControl rfl rfl (hW hasks))
    · rw [if_neg hnames]
      exact meets_of_keeps .pure fun _ hid => hid.1
  · rw [if_pos (by rw [Bool.not_eq_true] at hpublic; rw [hpublic]; rfl)]
    have hasks : Asks labels := .inl (by rw [Bool.not_eq_true] at hpublic; exact hpublic)
    exact hmade hasks (meets_map (meets_createResourceControl rfl rfl (hW hasks)))

/-- The first that leads to a control decides. -/
theorem meets_orElse {label : String} {toID : String → String} {kind' : ResourceControlType} {W' : String → Prop}
    {y : Local (Option ResourceControl)} (hW : ∀ id, W' id → W id)
    (hy : textControl labels label toID kind' rcs = none →
      Meets R (Free kind W) y (fun _ => Free kind W') fun _ => UniqueControls) :
    Meets R (Free kind W) (orElse (resourceControlOfLabel labels label toID kind' rcs) y)
      (fun _ => Free kind W') fun _ => UniqueControls := by
  refine meets_read_bind keeps_resourceControlOfLabel (ensures_of_finds fun _ => finds_resourceControlOfLabel)
    (fun _ hs => hs.1) ?_
  rintro found rfl
  cases hfound : textControl labels label toID kind' rcs with
  | none => exact hy hfound
  | some rc => exact meets_of_keeps .pure hW

/-- **`findResourceControl` makes a control** for an object that gets one. -/
theorem meets_findResourceControl {labels : Option Object} (hW : Gets t rcs kind resourceID labels → W resourceID) :
    Meets R (Free kind W) (findResourceControl t resourceID kind labels rcs)
      (fun _ => Free kind fun id => W id ∧ ¬ (Gets t rcs kind resourceID labels ∧ id = resourceID))
      fun _ => UniqueControls := by
  unfold findResourceControl
  cases hown : getResourceControlByResourceIDAndType resourceID kind rcs with
  | some rc => exact meets_of_keeps .pure fun _ hid => hid.1
  | none =>
    cases labels with
    | none => exact meets_of_keeps .pure fun _ hid => hid.1
    | some l =>
      refine meets_orElse (fun _ hid => hid.1) fun hservice => meets_orElse (fun _ hid => hid.1) fun hswarm =>
        meets_orElse (fun _ hid => hid.1) fun hcompose => ?_
      have hgets : Asks l → Gets t rcs kind resourceID (some l) :=
        fun hasks => ⟨hown, l, rfl, ⟨hservice, hswarm, hcompose⟩, hasks⟩
      have hasks : Gets t rcs kind resourceID (some l) → Asks l := by
        rintro ⟨-, l', hl', -, hasks⟩
        rw [Option.some.inj hl']
        exact hasks
      refine (meets_newResourceControlFromPortainerLabels fun h => hW (hgets h)).conseq (fun _ hs => hs)
        (fun _ _ hs => hs.mono fun id hid => ⟨hid.1, fun h => hid.2 ⟨hgets h.1, h.2⟩⟩) fun _ _ hs => hs

end Object

/-! ## Objects of an answer -/

section Answer

variable {t : Transport} {rcs : List ResourceControl} {R : Callee → Prop} {attr : String}
variable {properties : List String} {v : Json} {object : Object}

/-- **The value makes the proxy store a control** for the identifier. -/
def Makes (t : Transport) (rcs : List ResourceControl) (attr : String) (kind : ResourceControlType)
    (properties : List String) (v : Json) (id : String) : Prop :=
  ∃ object, v = .obj object ∧ textAt object attr = some id ∧ ¬ SystemNetwork kind object ∧
    Gets t rcs kind id (objectAt properties object)

theorem Makes.not_stored {id : String} (h : Makes t rcs attr kind properties v id) :
    getResourceControlByResourceIDAndType id kind rcs = none := by
  obtain ⟨object, -, -, -, hown, -⟩ := h
  exact hown

/-- What is not stored yet is free. -/
theorem free_of_unique (h : UniqueControls db) (hrcs : rcs = db.resourceControl.all)
    (hW : ∀ id, W id → getResourceControlByResourceIDAndType id kind rcs = none) : Free kind W db := by
  refine ⟨h, fun id hid => ?_⟩
  have hnone := hW id hid
  rw [hrcs] at hnone
  exact unborne_of_none hnone

/-- The control of one object is found, the object being no system
network. -/
theorem meets_findControl_bind {β : Type} {f : Option ResourceControl → Local β}
    (hid : textAt object attr = some resourceID)
    (hsystem : ¬ SystemNetwork kind object) (hW : ∀ id, Makes t rcs attr kind properties (.obj object) id → W id)
    (hf : ∀ rc (W : String → Prop), (f rc).Keeps (Free kind W)) :
    Meets R (Free kind W) (findResourceControl t resourceID kind (objectAt properties object) rcs >>= f)
      (fun _ => Free kind fun id => W id ∧ ¬ Makes t rcs attr kind properties (.obj object) id)
      fun _ => UniqueControls := by
  have hmakes : Gets t rcs kind resourceID (objectAt properties object) →
      Makes t rcs attr kind properties (.obj object) resourceID := fun h => ⟨object, rfl, hid, hsystem, h⟩
  refine .bind (meets_findResourceControl fun h => hW _ (hmakes h)) fun rc => meets_of_keeps (hf rc _) ?_
  rintro id ⟨hfree, hnot⟩
  refine ⟨hfree, fun h => hnot ?_⟩
  rw [h.2]
  exact hmakes h.1

/-- The network that is found is one of the system, and only then. -/
theorem ensures_systemResourceControl {parameters : ResourceOperationParameters} (db : DataStore) :
    Ensures (systemResourceControl parameters object) db
      fun found _ => found ≠ none ↔ SystemNetwork parameters.resourceType object :=
  ensures_of_finds (fun _ => finds_systemResourceControl.mono fun _ h => h.1) db

/-- One element of the list, for an administrator. -/
theorem meets_decorateResource (hW : ∀ id, Makes t rcs attr kind properties v id → W id) :
    Meets R (Free kind W) (decorateResource t ⟨attr, kind, selectLabels properties⟩ rcs v)
      (fun _ => Free kind fun id => W id ∧ ¬ Makes t rcs attr kind properties v id) fun _ => UniqueControls := by
  refine meets_read_bind keeps_asObject (ensures_of_finds fun _ => finds_asObject) (fun _ hs => hs.1) ?_
  rintro object rfl
  by_cases hnull : (Object.get object attr).isNull
  · rw [if_pos hnull]
    exact meets_of_keeps .pure fun _ hid => hid.1
  rw [if_neg hnull]
  refine meets_read_bind keeps_systemResourceControl ensures_systemResourceControl (fun _ hs => hs.1)
    fun found hfound => ?_
  cases found with
  | some rc => exact meets_of_keeps (.bind keeps_decorateObject fun _ => .pure) fun _ hid => hid.1
  | none =>
    have hsystem : ¬ SystemNetwork kind object := fun h => hfound.mpr h rfl
    refine meets_read_bind keeps_asString (ensures_of_finds fun _ => finds_asString) (fun _ hs => hs.1)
      fun resourceID hid => ?_
    refine meets_read_bind keeps_selectLabels (ensures_of_finds fun _ => finds_selectLabels) (fun _ hs => hs.1) ?_
    rintro labels rfl
    exact meets_findControl_bind (textAt_of_str hid) hsystem hW fun rc W =>
      .bind keeps_decorateObjectWith fun _ => .pure

/-- One element of the list, for a regular user. -/
theorem meets_filterResource {context : RestrictedDockerOperationContext} (hrcs : context.resourceControls = rcs)
    (hW : ∀ id, Makes t rcs attr kind properties v id → W id) :
    Meets R (Free kind W) (filterResource t ⟨attr, kind, selectLabels properties⟩ context v)
      (fun _ => Free kind fun id => W id ∧ ¬ Makes t rcs attr kind properties v id) fun _ => UniqueControls := by
  subst hrcs
  refine meets_read_bind keeps_asObject (ensures_of_finds fun _ => finds_asObject) (fun _ hs => hs.1) ?_
  rintro object rfl
  by_cases hnull : (Object.get object attr).isNull
  · rw [if_pos hnull]
    exact meets_of_keeps .pure fun _ hid => hid.1
  rw [if_neg hnull]
  refine meets_read_bind keeps_asString (ensures_of_finds fun _ => finds_asString) (fun _ hs => hs.1)
    fun resourceID hid => ?_
  refine meets_read_bind keeps_selectLabels (ensures_of_finds fun _ => finds_selectLabels) (fun _ hs => hs.1) ?_
  rintro labels rfl
  refine meets_read_bind keeps_systemResourceControl ensures_systemResourceControl (fun _ hs => hs.1)
    fun found hfound => ?_
  cases found with
  | some rc => exact meets_of_keeps (.bind keeps_decorateObject fun _ => .pure) fun _ hid => hid.1
  | none =>
    have hsystem : ¬ SystemNetwork kind object := fun h => hfound.mpr h rfl
    refine meets_findControl_bind (textAt_of_str hid) hsystem hW fun rc W => ?_
    cases rc with
    | none => exact .pure
    | some rc => exact .ite (fun _ => .bind keeps_decorateObject fun _ => .pure) fun _ => .pure

/-- Two values do not make a control for one identifier. -/
def Apart (t : Transport) (rcs : List ResourceControl) (attr : String) (kind : ResourceControlType)
    (properties : List String) (v v' : Json) : Prop :=
  ∀ id, Makes t rcs attr kind properties v id → ¬ Makes t rcs attr kind properties v' id

/-- **A pass over a list** makes controls for different identifiers. -/
theorem meets_collect {f : Json → Local (List Json)} {data : List Json}
    (hdata : data.Pairwise (Apart t rcs attr kind properties))
    (hf : ∀ v (W : String → Prop), (∀ id, Makes t rcs attr kind properties v id → W id) →
      Meets R (Free kind W) (f v) (fun _ => Free kind fun id => W id ∧ ¬ Makes t rcs attr kind properties v id)
        fun _ => UniqueControls) :
    Meets R (Free kind fun id => ∃ v ∈ data, Makes t rcs attr kind properties v id) (collect f data)
      (fun _ => UniqueControls) fun _ => UniqueControls := by
  induction data with
  | nil => exact .pure fun _ hs => hs.1
  | cons v data ih =>
    obtain ⟨hapart, hrest⟩ := List.pairwise_cons.mp hdata
    refine .bind (hf v _ fun id hid => ⟨v, List.mem_cons_self, hid⟩) fun kept => ?_
    refine .bind (M := fun _ => UniqueControls) ?_ fun rest => .pure fun _ hs => hs
    -- what is still to be made is not what the first made
    refine (ih hrest).conseq (fun _ hs => hs.mono ?_) (fun _ _ hs => hs) fun _ _ hs => hs
    rintro id ⟨v', hv', hid⟩
    exact ⟨⟨v', List.mem_cons_of_mem v hv', hid⟩, fun h => hapart v' hv' id h hid⟩

theorem meets_applyAccessControlOnResourceList {data : List Json} {executor : OperationExecutor}
    (hdata : data.Pairwise (Apart t executor.operationContext.resourceControls attr kind properties)) :
    Meets R (fun db => UniqueControls db ∧ executor.operationContext.resourceControls = db.resourceControl.all)
      (applyAccessControlOnResourceList t ⟨attr, kind, selectLabels properties⟩ data executor)
      (fun _ => UniqueControls) fun _ => UniqueControls := by
  have hfree : ∀ db : DataStore, UniqueControls db ∧
      executor.operationContext.resourceControls = db.resourceControl.all → Free kind (fun id => ∃ v ∈ data,
        Makes t executor.operationContext.resourceControls attr kind properties v id) db := by
    rintro db ⟨hunique, hrcs⟩
    refine free_of_unique hunique hrcs ?_
    rintro id ⟨v, -, hid⟩
    exact hid.not_stored
  unfold applyAccessControlOnResourceList
  split
  · exact (meets_collect hdata fun v W hW => meets_decorateResource hW).conseq hfree (fun _ _ hs => hs) fun _ _ hs => hs
  · exact (meets_collect hdata fun v W hW => meets_filterResource rfl hW).conseq hfree (fun _ _ hs => hs)
      fun _ _ hs => hs

/-- An answer with one object makes one control at most. -/
theorem meets_applyAccessControlOnResource {response : Response} {executor : OperationExecutor} :
    Meets R (fun db => UniqueControls db ∧ executor.operationContext.resourceControls = db.resourceControl.all)
      (applyAccessControlOnResource t ⟨attr, kind, selectLabels properties⟩ object response executor)
      (fun _ => UniqueControls) fun _ => UniqueControls := by
  let W : String → Prop := fun id =>
    Makes t executor.operationContext.resourceControls attr kind properties (.obj object) id
  have hfree : Meets R (Free kind W)
      (applyAccessControlOnResource t ⟨attr, kind, selectLabels properties⟩ object response executor)
      (fun _ => UniqueControls) fun _ => UniqueControls := by
    have hdone : ∀ {x : Local Response}, x.Keeps (Free kind W) →
        Meets R (Free kind W) x (fun _ => UniqueControls) fun _ => UniqueControls :=
      fun hx => (hx R).conseq (fun _ hs => hs) (fun _ _ hs => hs.1) fun _ _ hs => hs.1
    unfold applyAccessControlOnResource
    split
    · exact hdone .pure
    refine meets_read_bind keeps_systemResourceControl ensures_systemResourceControl (fun _ hs => hs.1)
      fun found hfound => ?_
    cases found with
    | some rc => exact hdone (.bind keeps_decorateObject fun _ => .pure)
    | none =>
      have hsystem : ¬ SystemNetwork kind object := fun h => hfound.mpr h rfl
      refine meets_read_bind keeps_asString (ensures_of_finds fun _ => finds_asString) (fun _ hs => hs.1)
        fun resourceID hid => ?_
      refine meets_read_bind keeps_selectLabels (ensures_of_finds fun _ => finds_selectLabels) (fun _ hs => hs.1) ?_
      rintro labels rfl
      exact (meets_findControl_bind (textAt_of_str hid) hsystem (fun _ h => h) fun rc W =>
        keeps_decideOnResource).conseq (fun _ hs => hs) (fun _ _ hs => hs.1) fun _ _ hs => hs
  refine hfree.conseq ?_ (fun _ _ hs => hs) fun _ _ hs => hs
  rintro db ⟨hunique, hrcs⟩
  exact free_of_unique hunique hrcs fun id hid => hid.not_stored

end Answer

/-! ## Operations on answers -/

namespace Listed

/-- The path that a list is asked for under. -/
def path : Listed → Path
  | container => "/containers/json".toList
  | service => "/services".toList
  | volume => "/volumes".toList
  | network => "/networks".toList
  | secret => "/secrets".toList
  | config => "/configs".toList
  | task => "/tasks".toList

variable (K : Listed)

/-- **The element of a list makes the proxy store a control** for the
identifier. -/
def Makes (t : Transport) (rcs : List ResourceControl) (v : Json) (id : String) : Prop :=
  ∃ object, v = .obj object ∧ K.identifier t object = some id ∧ ¬ SystemNetwork K.parameters.resourceType object ∧
    Gets t rcs K.parameters.resourceType id (objectAt K.labelsPath object)

/-- Two elements do not make a control for one identifier. -/
def Apart (t : Transport) (rcs : List ResourceControl) (v v' : Json) : Prop :=
  ∀ id, K.Makes t rcs v id → ¬ K.Makes t rcs v' id

end Listed

section Operations

variable {t : Transport} {R : Callee → Prop} {attr : String} {properties : List String} {response : Response}
variable {executor : OperationExecutor}

/-- **What is done with an answer** leaves each identifier with one control,
if the controls are those of the store. -/
def AnswerMeets (R : Callee → Prop) (executor : OperationExecutor) (x : Local Response) : Prop :=
  Meets R (fun db => UniqueControls db ∧ executor.operationContext.resourceControls = db.resourceControl.all) x
    (fun _ => UniqueControls) fun _ => UniqueControls

theorem answerMeets_read_bind {α : Type} {x : Local α} {f : α → Local Response} {M : α → Prop}
    (hx : ∀ I : DataStore → Prop, x.Keeps I) (hM : ∀ db, Finds False db M x)
    (hf : ∀ a, M a → AnswerMeets R executor (f a)) : AnswerMeets R executor (x >>= f) :=
  meets_read_bind (hx _) (ensures_of_finds hM) (fun _ hs => hs.1) hf

/-- What follows the access control makes no control. -/
theorem answerMeets_bind {α : Type} {x : Local α} {f : α → Local Response}
    (hx : Meets R (fun db => UniqueControls db ∧
      executor.operationContext.resourceControls = db.resourceControl.all) x (fun _ => UniqueControls)
        fun _ => UniqueControls)
    (hf : ∀ a, (f a).Keeps UniqueControls) : AnswerMeets R executor (x >>= f) :=
  .bind hx fun a => hf a R

theorem finds_getResponseAsJSONObject {reliable : Prop} :
    Finds reliable db (fun object => response.body = .ok (.obj object)) (getResponseAsJSONObject response) := by
  refine finds_bind (finds_ofExcept fun _ h => h) fun body hbody => ?_
  refine finds_asObject.mono fun object hobject => ?_
  rw [hbody, hobject]

theorem answerMeets_listOperation (hdata : ∀ data, response.body = .ok (.arr data) →
      data.Pairwise (Apart t executor.operationContext.resourceControls attr kind properties)) :
    AnswerMeets R executor (listOperation ⟨attr, kind, selectLabels properties⟩ t response executor) :=
  answerMeets_read_bind (fun _ => keeps_getResponseAsJSONArray) (fun _ => finds_getResponseAsJSONArray)
    fun data hbody => answerMeets_bind (meets_applyAccessControlOnResourceList (hdata data hbody)) fun _ => .pure

theorem answerMeets_inspectOperation :
    AnswerMeets R executor (inspectOperation ⟨attr, kind, selectLabels properties⟩ t response executor) :=
  answerMeets_read_bind (fun _ => keeps_getResponseAsJSONObject) (fun _ => finds_getResponseAsJSONObject)
    fun _ _ => meets_applyAccessControlOnResource

theorem answerMeets_containerListOperation (hdata : ∀ data, response.body = .ok (.arr data) →
      data.Pairwise (Apart t executor.operationContext.resourceControls containerObjectIdentifier .container
        ["Labels"])) :
    AnswerMeets R executor (containerListOperation t response executor) :=
  answerMeets_read_bind (fun _ => keeps_getResponseAsJSONArray) (fun _ => finds_getResponseAsJSONArray)
    fun data hbody => answerMeets_bind (meets_applyAccessControlOnResourceList (hdata data hbody)) fun _ =>
      .bind keeps_filterContainersWithBlackListedLabels fun _ => .pure

/-- A volume with its identifier put in makes what the volume makes. -/
theorem makes_of_identified {rcs : List ResourceControl} {v v' : Json} (h : Identified t v v') {id : String}
    (hmakes : Makes t rcs volumeObjectIdentifier .volume ["Labels"] v' id) : Listed.volume.Makes t rcs v id := by
  obtain ⟨o, name, resourceID, rfl, hname, hid, rfl⟩ := h
  obtain ⟨o', ho', htext, -, hgets⟩ := hmakes
  obtain rfl := Json.obj.inj ho'
  have hlabels : objectAt ["Labels"] (Object.set o volumeObjectIdentifier (.str resourceID)) =
      objectAt ["Labels"] o := by
    unfold objectAt
    rw [Object.get_set_of_ne (by decide)]
  have hsame : resourceID = id :=
    Option.some.inj ((textAt_of_str (Object.get_set_self _ _ _)).symm.trans htext)
  refine ⟨o, rfl, ?_, fun hsystem => absurd hsystem.1 (by decide), hlabels ▸ hgets⟩
  show (textAt o "Name").bind (resourceIDOf t .volume) = some id
  rw [textAt_of_str hname, Option.bind_some, hid, hsame]

/-- What is kept of a list that is apart is apart. -/
theorem pairwise_of_selects {α β : Type} {must may : α → Prop} {r : α → β → Prop} {l : List α} {m : List β}
    {S : α → α → Prop} {S' : β → β → Prop} (h : Selects must may r l m) (hl : l.Pairwise S)
    (hS : ∀ a a' b b', r a b → r a' b' → S a a' → S' b b') : m.Pairwise S' := by
  induction h with
  | nil => exact List.Pairwise.nil
  | @keep a b l m ha hb rest ih =>
    obtain ⟨hhead, htail⟩ := List.pairwise_cons.mp hl
    refine List.pairwise_cons.mpr ⟨fun b' hb' => ?_, ih htail⟩
    obtain ⟨a', ha', -, hr⟩ := rest.mem hb'
    exact hS a a' b b' hb hr (hhead a' ha')
  | @drop a l m ha rest ih => exact ih (List.pairwise_cons.mp hl).2

theorem keeps_decorateVolume {I : DataStore → Prop} {v : Json} : (decorateVolume t v).Keeps I :=
  .bind keeps_asObject fun _ => .bind (.mapError keeps_decorateVolumeResponseWithResourceID) fun _ => .pure

theorem answerMeets_volumeListOperation (hdata : ∀ data, Listed.volume.list response = some data →
      data.Pairwise (Listed.volume.Apart t executor.operationContext.resourceControls)) :
    AnswerMeets R executor (volumeListOperation t response executor) := by
  refine answerMeets_read_bind (fun _ => keeps_getResponseAsJSONObject) (fun _ => finds_getResponseAsJSONObject)
    fun object hbody => ?_
  by_cases hnull : (Object.get object "Volumes").isNull
  · rw [if_pos hnull]
    exact .pure fun _ hs => hs.1
  rw [if_neg hnull]
  refine answerMeets_read_bind (fun _ => keeps_asArray) (fun _ => finds_asArray) fun data harray => ?_
  refine answerMeets_read_bind (fun _ => keeps_collect fun _ => keeps_decorateVolume)
    (fun _ => finds_collect fun v _ => finds_decorateVolume) fun volumes hvolumes => ?_
  refine answerMeets_bind (meets_applyAccessControlOnResourceList ?_) fun _ => .pure
  have hlist : Listed.volume.list response = some data := by
    obtain ⟨status, body⟩ := response
    obtain rfl : body = .ok (.obj object) := hbody
    unfold Listed.list
    dsimp only
    rw [harray]
  refine pairwise_of_selects hvolumes (hdata data hlist) fun v v' w w' hw hw' hapart id hmakes hmakes' => ?_
  exact hapart id (makes_of_identified hw hmakes) (makes_of_identified hw' hmakes')

theorem finds_decorateVolumeResponseWithResourceID {object : Object} :
    Finds False db (fun _ => True) (decorateVolumeResponseWithResourceID t object) := by
  unfold decorateVolumeResponseWithResourceID
  split
  · exact finds_fail
  · refine finds_bind (finds_asString.mono fun _ _ => trivial) fun name _ => ?_
    have hresourceID : Finds False db (fun resourceID => resourceIDOf t .volume name = some resourceID)
        (getVolumeResourceID t name) :=
      finds_bind (finds_mapError finds_getDockerID) fun dockerID hid => finds_pure hid
    exact finds_bind (finds_mapError hresourceID) fun _ _ => finds_pure trivial

theorem answerMeets_volumeInspectOperation : AnswerMeets R executor (volumeInspectOperation t response executor) :=
  answerMeets_read_bind (fun _ => keeps_getResponseAsJSONObject) (fun _ => finds_getResponseAsJSONObject)
    fun _ _ => answerMeets_read_bind (fun _ => .mapError keeps_decorateVolumeResponseWithResourceID)
      (fun _ => finds_mapError finds_decorateVolumeResponseWithResourceID) fun _ _ =>
        meets_applyAccessControlOnResource

/-- **Every list.** -/
theorem answerMeets_operation (K : Listed) (hdata : ∀ data, K.list response = some data →
      data.Pairwise (K.Apart t executor.operationContext.resourceControls)) :
    AnswerMeets R executor (K.operation t response executor) := by
  have hlist : ∀ {K : Listed}, (∀ status l, K.list ⟨status, .ok (.arr l)⟩ = some l) →
      (∀ data, K.list response = some data →
        data.Pairwise (K.Apart t executor.operationContext.resourceControls)) →
      ∀ data, response.body = .ok (.arr data) →
        data.Pairwise (K.Apart t executor.operationContext.resourceControls) := by
    intro K hK hdata data hbody
    obtain ⟨status, body⟩ := response
    obtain rfl : body = .ok (.arr data) := hbody
    exact hdata data (hK status data)
  cases K with
  | container => exact answerMeets_containerListOperation (hlist (fun _ _ => rfl) hdata)
  | volume => exact answerMeets_volumeListOperation hdata
  | service => exact answerMeets_listOperation (hlist (fun _ _ => rfl) hdata)
  | network => exact answerMeets_listOperation (hlist (fun _ _ => rfl) hdata)
  | secret => exact answerMeets_listOperation (hlist (fun _ _ => rfl) hdata)
  | config => exact answerMeets_listOperation (hlist (fun _ _ => rfl) hdata)
  | task => exact answerMeets_listOperation (hlist (fun _ _ => rfl) hdata)

end Operations

/-! ## Requests -/

/-- The requests that make a resource of the kind, as the proxy sees it. -/
def Creates (method : String) (path : Path) : Listed → Prop
  | .config => path = "/configs/create".toList
  | .container => path = "/containers/create".toList
  | .service => path = "/services/create".toList ∨ path = "/images/create".toList ∨
      (Path.base path = "push".toList ∧ method = "POST")
  | .volume => path = "/volumes/create".toList
  | .network => path = "/networks/create".toList
  | .secret => path = "/secrets/create".toList
  | .task => False

namespace Listed

variable (K : Listed)

/-- **The list that answers the request** has no two elements that make a
control for one identifier. -/
def ListsApart (t : Transport) (db : DataStore) (request : Request) : Prop :=
  ∀ response data, t.daemon.roundTrip request = .ok response → K.list response = some data →
    data.Pairwise (K.Apart t db.resourceControl.all)

/-- **What the request creates** has no control yet. -/
def CreatesUnborne (t : Transport) (db : DataStore) (request : Request) : Prop :=
  ∀ response object id, t.daemon.roundTrip request = .ok response → response.statusCode = 201 →
    response.body = .ok (.obj object) → K.identifier t object = some id →
      Unborne db K.parameters.resourceType id

end Listed

/-- **The daemon's answer asks for no second control**: a list not by its
labels, a creation not by the identifier it answers with, whatever registry
header is put in. -/
structure AnswersApart (t : Transport) (db : DataStore) (request : Request) : Prop where
  list : ∀ K : Listed, request.path = K.path → K.ListsApart t db request
  creation : ∀ K : Listed, Creates request.method request.path K → ∀ registryAuth,
    K.CreatesUnborne t db { request with registryAuth := registryAuth }

section Requests

variable {α β : Type} {t : Transport} {request : Request} {R : Callee → Prop}

/-- The store is the one the request came to. -/
abbrev At (db s : DataStore) : Prop := UniqueControls s ∧ s = db

/-- **The part leaves each identifier with one control** from that store. -/
def Unifies (R : Callee → Prop) (db : DataStore) (x : Proxy α) : Prop :=
  Meets R (OnStore (At db)) x (fun _ => OnStore UniqueControls) fun _ => OnStore UniqueControls

/-- A local part, within the proxy. -/
theorem meets_lift {x : Local α} {P : DataStore → Prop} {Q : α → DataStore → Prop} {E : String → DataStore → Prop}
    (hx : Meets R P x Q E) :
    Meets R (OnStore P) (liftM x : Proxy α) (fun a => OnStore (Q a)) fun e => OnStore (E e) := by
  intro w hR hw
  obtain ⟨hend, hrel⟩ := hx ⟨w.store.dataStore, w.faults⟩ hR hw
  rw [onDataStore_run]
  rcases hrun : x.run ⟨w.store.dataStore, w.faults⟩ with ⟨e | a, w'⟩ <;> rw [hrun] at hend hrel <;>
    exact ⟨hend, hrel⟩

theorem meets_executeDockerRequest {P : DataStore → Prop} :
    Meets R (OnStore P) (executeDockerRequest t request)
      (fun response s => OnStore P s ∧ t.daemon.roundTrip request = .ok response) fun _ => OnStore P := by
  intro w hR hw
  obtain ⟨w', hrun, -, hstore, hfaults⟩ := executeDockerRequest_run (w := w) t request
  have hend : OnStore P w'.store := by
    unfold OnStore
    rw [hstore]
    exact hw
  rw [hrun]
  refine ⟨?_, fun k hk => ?_⟩
  · cases hanswer : t.daemon.roundTrip request with
    | error e => exact hend
    | ok response => exact ⟨hend, rfl⟩
  · have hrel := hR k hk
    unfold Sys.Reliable at hrel ⊢
    rw [hfaults]
    exact hrel

theorem unifies_of_keeps {x : Proxy α} (hx : x.Keeps (OnStore UniqueControls)) : Unifies R db x :=
  (hx R).conseq (fun _ hs => hs.1) (fun _ _ hs => hs) fun _ _ hs => hs

theorem unifies_ite {c : Prop} [Decidable c] {x y : Proxy α} (hx : c → Unifies R db x)
    (hy : ¬ c → Unifies R db y) : Unifies R db (if c then x else y) := by
  split
  · rename_i h; exact hx h
  · rename_i h; exact hy h

/-- A local part, and what follows it. -/
theorem unifies_local_bind {x : Local α} {f : α → Proxy β} {M : α → Prop}
    (hx : Meets R (At db) x (fun a s => At db s ∧ M a) fun _ => UniqueControls)
    (hf : ∀ a, M a → Unifies R db (f a)) : Unifies R db ((liftM x : Proxy α) >>= f) :=
  .bind (meets_lift hx) fun a w hR hw => hf a hw.2 w hR hw.1

/-- A read, and what follows it. -/
theorem unifies_read_bind {x : Local α} {f : α → Proxy β} (hx : x.Keeps (At db))
    (hf : ∀ a, Unifies R db (f a)) : Unifies R db ((liftM x : Proxy α) >>= f) := by
  refine unifies_local_bind (M := fun _ => True) ?_ fun a _ => hf a
  exact (hx R).conseq (fun _ hs => hs) (fun _ _ hs => ⟨hs, trivial⟩) fun _ _ hs => hs.1

theorem unifies_execute_bind {f : Response → Proxy β}
    (hf : ∀ response, t.daemon.roundTrip request = .ok response → Unifies R db (f response)) :
    Unifies R db (executeDockerRequest t request >>= f) := by
  refine .bind (meets_executeDockerRequest.conseq (fun _ hs => hs) (fun _ _ hs => hs) fun _ _ hs => hs.1) ?_
  exact fun response w hR hw => hf response hw.2 w hR hw.1

/-! ### Answers rewritten -/

theorem meets_createOperationContext : Meets R (At db) (createOperationContext request)
    (fun context s => At db s ∧ context.resourceControls = db.resourceControl.all) fun _ => UniqueControls := by
  refine .bind (M := fun _ => At db) ?_ fun tokenData => ?_
  · exact (keeps_retrieveTokenData R).conseq (fun _ hs => hs) (fun _ _ hs => hs) fun _ _ hs => hs.1
  refine .bind (M := fun rcs s => At db s ∧ rcs = db.resourceControl.all) ?_ fun rcs => ?_
  · exact .query (fun s hs => ⟨hs, by rw [hs.2]⟩) fun _ _ _ hs => hs.1
  by_cases hadmin : tokenData.role = .administrator
  · rw [if_pos hadmin]
    exact .pure fun _ hs => hs
  · rw [if_neg hadmin]
    refine .bind (M := fun _ s => At db s ∧ rcs = db.resourceControl.all) ?_ fun _ => .pure fun _ hs => hs
    exact .query (fun _ hs => hs) fun _ _ _ hs => hs.1.1

section Rewritten

variable {operation : RestrictedOperationRequest}

/-- What is done with the answer of the daemon leaves each identifier with
one control. -/
def OperationUnifies (R : Callee → Prop) (t : Transport) (db : DataStore) (request : Request)
    (operation : RestrictedOperationRequest) : Prop :=
  ∀ response executor, t.daemon.roundTrip request = .ok response →
    executor.operationContext.resourceControls = db.resourceControl.all →
      AnswerMeets R executor (operation response executor)

theorem unifies_executeRequestAndRewriteResponse (ho : OperationUnifies R t db request operation)
    {executor : OperationExecutor} (hrcs : executor.operationContext.resourceControls = db.resourceControl.all) :
    Unifies R db (executeRequestAndRewriteResponse t request operation executor) := by
  refine unifies_execute_bind fun response hanswer => ?_
  refine (meets_lift (ho response executor hanswer hrcs)).conseq ?_ (fun _ _ hs => hs) fun _ _ hs => hs
  rintro s ⟨hunique, hdb⟩
  exact ⟨hunique, hdb ▸ hrcs⟩

theorem unifies_rewriteOperation (ho : OperationUnifies R t db request operation) :
    Unifies R db (rewriteOperation t request operation) :=
  unifies_local_bind meets_createOperationContext fun _ hrcs => unifies_executeRequestAndRewriteResponse ho hrcs

theorem unifies_rewriteOperationWithLabelFiltering (ho : OperationUnifies R t db request operation) :
    Unifies R db (rewriteOperationWithLabelFiltering t request operation) :=
  unifies_local_bind meets_createOperationContext fun _ hrcs => unifies_read_bind .query fun _ =>
    unifies_executeRequestAndRewriteResponse ho hrcs

theorem operationUnifies_list {K : Listed} (hlist : K.ListsApart t db request) :
    OperationUnifies R t db request (K.operation t) := by
  intro response executor hanswer hrcs
  refine answerMeets_operation K fun data hdata => ?_
  rw [hrcs]
  exact hlist response data hanswer hdata

theorem operationUnifies_inspect {attr : String} {kind : ResourceControlType} {properties : List String} :
    OperationUnifies R t db request (inspectOperation ⟨attr, kind, selectLabels properties⟩ t) :=
  fun _ _ _ _ => answerMeets_inspectOperation

theorem unifies_swarmInspect : Unifies R db (rewriteOperation t request swarmInspectOperation) :=
  unifies_of_keeps (keeps_rewriteOperation operationKeeps_swarmInspect)

end Rewritten

/-! ### Creations -/

section Creations

variable {attr : String} {userID : UserID} {response : Response}

/-- What is created gets a control of its own. -/
theorem meets_createPrivateResourceControl {P : DataStore → Prop}
    (hP : ∀ s, P s → UniqueControls s ∧ Unborne s kind resourceID) :
    Meets R P (createPrivateResourceControl resourceID kind userID) (fun _ => UniqueControls)
      fun _ => UniqueControls := by
  refine (meets_createResourceControl (W := (· = resourceID)) rfl rfl rfl).conseq (fun s hs => ?_)
    (fun _ _ hs => hs.1) fun _ _ hs => hs
  obtain ⟨hunique, hfree⟩ := hP s hs
  refine ⟨hunique, ?_⟩
  rintro id rfl
  exact hfree

theorem meets_decorateGenericResourceCreationResponse (hfree : ∀ object id, response.body = .ok (.obj object) →
      textAt object attr = some id → Unborne db kind id) :
    Meets R (At db) (decorateGenericResourceCreationResponse response attr kind userID) (fun _ => UniqueControls)
      fun _ => UniqueControls := by
  refine meets_read_bind keeps_getResponseAsJSONObject (ensures_of_finds fun _ => finds_getResponseAsJSONObject)
    (fun _ hs => hs.1) fun object hbody => ?_
  by_cases hnull : (Object.get object attr).isNull
  · rw [if_pos hnull]
    exact .fail fun _ hs => hs.1
  rw [if_neg hnull]
  refine meets_read_bind keeps_asString (ensures_of_finds fun _ => finds_asString) (fun _ hs => hs.1) fun id hid => ?_
  refine .bind (M := fun _ => UniqueControls) (meets_createPrivateResourceControl fun s hs => ?_) fun rc =>
    (Keeps.bind keeps_decorateObject fun _ => .pure) R
  exact ⟨hs.1, hs.2 ▸ hfree object id hbody (textAt_of_str hid)⟩

theorem meets_decorateVolumeCreationResponse (hfree : ∀ object id, response.body = .ok (.obj object) →
      Listed.volume.identifier t object = some id → Unborne db .volume id) :
    Meets R (At db) (decorateVolumeCreationResponse t response .volume userID) (fun _ => UniqueControls)
      fun _ => UniqueControls := by
  refine meets_read_bind keeps_getResponseAsJSONObject (ensures_of_finds fun _ => finds_getResponseAsJSONObject)
    (fun _ hs => hs.1) fun object hbody => ?_
  by_cases hnull : (Object.get object "Name").isNull
  · rw [if_pos hnull]
    exact .fail fun _ hs => hs.1
  rw [if_neg hnull]
  refine meets_read_bind keeps_asString (ensures_of_finds fun _ => finds_asString) (fun _ hs => hs.1)
    fun name hname => ?_
  have hresourceID : ∀ db, Finds False db (fun id => resourceIDOf t .volume name = some id)
      (getVolumeResourceID t name) :=
    fun _ => finds_bind (finds_mapError finds_getDockerID) fun dockerID hid => finds_pure hid
  refine meets_read_bind (.mapError keeps_getVolumeResourceID)
    (ensures_of_finds fun db => finds_mapError (hresourceID db)) (fun _ hs => hs.1) fun id hid => ?_
  have htext : Listed.volume.identifier t object = some id := by
    show (textAt object "Name").bind (resourceIDOf t .volume) = some id
    rw [textAt_of_str hname, Option.bind_some, hid]
  refine .bind (M := fun _ => UniqueControls) (meets_createPrivateResourceControl fun s hs => ?_) fun rc =>
    (Keeps.bind keeps_decorateObject fun _ => .pure) R
  exact ⟨hs.1, hs.2 ▸ hfree object id hbody htext⟩

theorem unifies_executeAndDecorate {decorate : Response → Local Response}
    (hd : ∀ response, t.daemon.roundTrip request = .ok response → response.statusCode = 201 →
      Meets R (At db) (decorate response) (fun _ => UniqueControls) fun _ => UniqueControls) :
    Unifies R db (executeAndDecorate t request decorate) := by
  refine unifies_execute_bind fun response hanswer => ?_
  by_cases hcreated : response.statusCode = 201
  · rw [if_pos hcreated]
    exact meets_lift (hd response hanswer hcreated)
  · rw [if_neg hcreated]
    exact unifies_of_keeps .pure

/-- A resource whose identifier is in the answer. -/
theorem unifies_executeAndDecorateGeneric {K : Listed} (hid : ∀ object, K.identifier t object = textAt object attr)
    (hfresh : K.CreatesUnborne t db request) :
    Unifies R db (executeAndDecorate t request fun response =>
      decorateGenericResourceCreationResponse response attr K.parameters.resourceType userID) := by
  refine unifies_executeAndDecorate fun response hanswer hcreated => ?_
  refine meets_decorateGenericResourceCreationResponse fun object id hbody htext => ?_
  exact hfresh response object id hanswer hcreated hbody ((hid object).trans htext)

theorem unifies_decorateGenericResourceCreationOperation {K : Listed}
    (hid : ∀ object, K.identifier t object = textAt object attr) (hfresh : K.CreatesUnborne t db request) :
    Unifies R db (decorateGenericResourceCreationOperation t request attr K.parameters.resourceType) :=
  unifies_read_bind keeps_retrieveTokenData fun _ => unifies_executeAndDecorateGeneric hid hfresh

theorem unifies_decorateVolumeResourceCreationOperation (hfresh : Listed.volume.CreatesUnborne t db request) :
    Unifies R db (decorateVolumeResourceCreationOperation t request .volume) := by
  refine unifies_read_bind keeps_retrieveTokenData fun _ => unifies_read_bind keeps_checkVolumeName fun _ => ?_
  refine unifies_executeAndDecorate fun response hanswer hcreated => ?_
  exact meets_decorateVolumeCreationResponse fun object id hbody htext =>
    hfresh response object id hanswer hcreated hbody htext

/-- The settings check leaves the request as it is. -/
theorem unifies_checkedRequest_bind {d : Json.Decoder α} {zero : α} {check : EndpointSecuritySettings → α → Local Unit}
    {f : Request → Proxy β} (hcheck : ∀ settings a, (check settings a).Keeps (At db)) (hf : Unifies R db (f request)) :
    Unifies R db ((liftM (checkedRequest t request d zero check) : Proxy Request) >>= f) := by
  refine unifies_local_bind (M := (· = request)) ?_ fun checked hchecked => hchecked ▸ hf
  exact ((keeps_checkedRequest hcheck).returning (fun s w a w' _ hrun => returns_checkedRequest w a w' hrun) R).conseq
    (fun _ hs => hs) (fun _ _ hs => hs) fun _ _ hs => hs.1

theorem unifies_decorateContainerCreationOperation (hfresh : Listed.container.CreatesUnborne t db request) :
    Unifies R db (decorateContainerCreationOperation t request containerObjectIdentifier .container) :=
  unifies_read_bind keeps_retrieveTokenData fun _ =>
    unifies_checkedRequest_bind (fun _ _ => keeps_checkPartialContainer)
      (unifies_executeAndDecorateGeneric (K := .container) (fun _ => rfl) hfresh)

theorem unifies_replaceRegistryAuthenticationHeader
    (hfresh : ∀ registryAuth, Listed.service.CreatesUnborne t db { request with registryAuth := registryAuth }) :
    Unifies R db (replaceRegistryAuthenticationHeader t request) := by
  refine unifies_read_bind ?_ fun _ => unifies_read_bind keeps_replacedHeader fun registryAuth =>
    unifies_decorateGenericResourceCreationOperation (K := .service) (fun _ => rfl) (hfresh registryAuth)
  exact keeps_createRegistryAccessContext

theorem unifies_decorateServiceCreationOperation
    (hfresh : ∀ registryAuth, Listed.service.CreatesUnborne t db { request with registryAuth := registryAuth }) :
    Unifies R db (decorateServiceCreationOperation t request) :=
  unifies_checkedRequest_bind (fun _ _ => .require) (unifies_replaceRegistryAuthenticationHeader hfresh)

end Creations

/-! ### Dispatch -/

section Dispatch

variable {c c' : Prop} [Decidable c] [Decidable c']

theorem unifies_deletion {resourceID dockerResourceID : String} :
    Unifies R db (executeGenericResourceDeletionOperation t request resourceID dockerResourceID kind) :=
  unifies_of_keeps (keeps_executeGenericResourceDeletionOperation fun _ _ hs => Bucket.Unique.delete hs)

theorem unifies_resourceRequest {attr : String} {properties : List String} :
    Unifies R db (resourceRequest t request (inspectOperation ⟨attr, kind, selectLabels properties⟩ t) kind) :=
  unifies_ite (fun _ => unifies_rewriteOperation operationUnifies_inspect) fun _ =>
    unifies_ite (fun _ => unifies_deletion) fun _ => unifies_of_keeps keeps_restrictedResourceOperation

/-- A collection with a generic creation. -/
theorem unifies_collection (h : AnswersApart t db request) (K : Listed) {attr : String} {properties : List String}
    (hid : ∀ object, K.identifier t object = textAt object attr)
    (hcreate : c → Creates request.method request.path K) (hlist : c' → request.path = K.path) :
    Unifies R db (if c then decorateGenericResourceCreationOperation t request attr K.parameters.resourceType
      else if c' then rewriteOperation t request (K.operation t)
      else resourceRequest t request (inspectOperation ⟨attr, K.parameters.resourceType, selectLabels properties⟩ t)
        K.parameters.resourceType) :=
  unifies_ite (fun hc => unifies_decorateGenericResourceCreationOperation hid
    (h.creation K (hcreate hc) request.registryAuth)) fun _ =>
      unifies_ite (fun hc => unifies_rewriteOperation (operationUnifies_list (h.list K (hlist hc)))) fun _ =>
        unifies_resourceRequest

theorem unifies_proxyContainerRequest (h : AnswersApart t db request) :
    Unifies R db (proxyContainerRequest t request) := by
  refine unifies_ite (fun hpath => unifies_decorateContainerCreationOperation
    (h.creation .container hpath request.registryAuth)) fun _ => ?_
  refine unifies_ite (fun _ => unifies_of_keeps keeps_administratorOperation) fun _ => ?_
  refine unifies_ite (fun hpath => unifies_rewriteOperationWithLabelFiltering
    (operationUnifies_list (K := .container) (h.list .container hpath))) fun _ => ?_
  refine unifies_ite (fun _ => ?_) fun _ => unifies_ite (fun _ => ?_) fun _ =>
    unifies_of_keeps keeps_executeDockerRequest
  · exact unifies_ite (fun _ => unifies_rewriteOperation operationUnifies_inspect) fun _ =>
      unifies_of_keeps keeps_restrictedResourceOperation
  · exact unifies_ite (fun _ => unifies_deletion) fun _ => unifies_of_keeps keeps_restrictedResourceOperation

theorem unifies_proxyServiceRequest (h : AnswersApart t db request) :
    Unifies R db (proxyServiceRequest t request) := by
  refine unifies_ite (fun hpath => unifies_decorateServiceCreationOperation
    (h.creation .service (.inl hpath))) fun _ => ?_
  refine unifies_ite (fun hpath => unifies_rewriteOperation
    (operationUnifies_list (K := .service) (h.list .service hpath))) fun _ => ?_
  exact unifies_ite (fun _ => unifies_of_keeps keeps_restrictedResourceOperation) fun _ =>
    unifies_ite (fun _ => unifies_resourceRequest) fun _ => unifies_of_keeps keeps_executeDockerRequest

theorem unifies_proxyVolumeRequest (h : AnswersApart t db request) :
    Unifies R db (proxyVolumeRequest t request) := by
  refine unifies_ite (fun hpath => unifies_decorateVolumeResourceCreationOperation
    (h.creation .volume hpath request.registryAuth)) fun _ => ?_
  refine unifies_ite (fun _ => unifies_of_keeps keeps_administratorOperation) fun _ => ?_
  refine unifies_ite (fun hpath => unifies_rewriteOperation
    (operationUnifies_list (K := .volume) (h.list .volume hpath))) fun _ => ?_
  refine unifies_ite (fun _ => unifies_rewriteOperation fun _ _ _ _ => answerMeets_volumeInspectOperation) fun _ => ?_
  exact unifies_read_bind keeps_getVolumeResourceID fun _ => unifies_ite (fun _ => unifies_deletion) fun _ =>
    unifies_of_keeps keeps_restrictedResourceOperation

theorem unifies_proxyImageRequest (h : AnswersApart t db request) : Unifies R db (proxyImageRequest t request) :=
  unifies_ite (fun hpath => unifies_replaceRegistryAuthenticationHeader
    (h.creation .service (.inr (.inl hpath)))) fun _ =>
      unifies_ite (fun hpush => unifies_replaceRegistryAuthenticationHeader
        (h.creation .service (.inr (.inr hpush)))) fun _ => unifies_of_keeps keeps_executeDockerRequest

theorem unifies_proxyRequest (h : AnswersApart t db request) : Unifies R db (proxyRequest t request) := by
  refine unifies_ite (fun _ => unifies_collection h .config (fun _ => rfl) id id) fun _ => ?_
  refine unifies_ite (fun _ => unifies_proxyContainerRequest h) fun _ => ?_
  refine unifies_ite (fun _ => unifies_proxyServiceRequest h) fun _ => ?_
  refine unifies_ite (fun _ => unifies_proxyVolumeRequest h) fun _ => ?_
  refine unifies_ite (fun _ => unifies_collection h .network (fun _ => rfl) id id) fun _ => ?_
  refine unifies_ite (fun _ => unifies_collection h .secret (fun _ => rfl) id id) fun _ => ?_
  refine unifies_ite (fun _ => ?_) fun _ => unifies_ite (fun _ => ?_) fun _ => unifies_ite (fun _ => ?_) fun _ =>
    unifies_ite (fun _ => ?_) fun _ => unifies_ite (fun _ => unifies_proxyImageRequest h) fun _ =>
      unifies_ite (fun _ => unifies_of_keeps keeps_proxyAgentRequest) fun _ =>
        unifies_of_keeps keeps_executeDockerRequest
  · exact unifies_ite (fun _ => unifies_swarmInspect) fun _ => unifies_of_keeps keeps_administratorOperation
  · exact unifies_ite (fun _ => unifies_of_keeps keeps_administratorOperation) fun _ =>
      unifies_of_keeps keeps_executeDockerRequest
  · exact unifies_ite (fun hpath => unifies_rewriteOperation
      (operationUnifies_list (K := .task) (h.list .task hpath))) fun _ => unifies_of_keeps keeps_executeDockerRequest
  · exact unifies_read_bind keeps_buildOperation fun _ => unifies_of_keeps keeps_executeDockerRequest

/-- The request as it is dispatched. -/
def dispatched (t : Transport) (request : Request) : Request :=
  { request with
    path := requestPath request.path
    signed := request.signed || decide (t.endpoint.type = .agentOnDockerEnvironment) }

/-- **A proxied request leaves each identifier with one control** if the
answer of the daemon asks for no second one. -/
theorem unifies_proxyDockerRequest (h : AnswersApart t db (dispatched t request)) :
    Unifies R db (proxyDockerRequest t request) := by
  refine unifies_local_bind (M := (· = dispatched t request)) ?_ fun signed hsigned => ?_
  · unfold signedRequest
    by_cases hagent : t.endpoint.type = .agentOnDockerEnvironment
    · have hsame : dispatched t request = { request with path := requestPath request.path, signed := true } := by
        unfold dispatched
        rw [decide_eq_true hagent, Bool.or_true]
      rw [if_pos hagent]
      exact .bind (M := fun _ => At db) (.query (fun _ hs => hs) fun _ _ _ hs => hs.1) fun _ =>
        .pure fun _ hs => ⟨hs, hsame.symm⟩
    · have hsame : dispatched t request = { request with path := requestPath request.path } := by
        unfold dispatched
        rw [decide_eq_false hagent, Bool.or_false]
      rw [if_neg hagent]
      exact .pure fun _ hs => ⟨hs, hsame.symm⟩
  · rw [hsigned]
    exact unifies_proxyRequest h

end Dispatch

end Requests

end DockerProxy

end Portainer
