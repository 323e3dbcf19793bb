import Portainer.DockerProxy.Helpers.Effective
/-!
# Selecting — one pass over a list, and all of them

One element is kept if access control lets it through (`finds_filterResource`,
`finds_decorateResource`), so a whole list is a selection, and with the
passes before and after it still is one (`Listed.finds_operation`).
-/

namespace Portainer

namespace DockerProxy

open Json (Object)

variable {reliable : Prop} {db : DataStore}

/-! ## One object -/

section Object

variable {t : Transport} {object : Object} {keys : List String} {k : String}

theorem without_set {v : Json} (h : k ∈ keys) : without keys (object.set k v) = without keys object := by
  have hfilter : (object.filter fun p => p.1 ≠ k).filter (fun p => p.1 ∉ keys) =
      object.filter fun p => p.1 ∉ keys := by
    rw [List.filter_filter]
    refine List.filter_congr fun p _ => ?_
    by_cases hp : p.1 = k
    · simp [hp, h]
    · simp [hp]
  unfold without Object.set
  rw [List.filter_append, hfilter]
  simp [h]

/-- What is at another key is the same. -/
theorem get_without (h : k ∉ keys) : Object.get (without keys object) k = object.get k := by
  have hfind : ((object.filter fun p => p.1 ∉ keys).reverse.find? fun p => p.1 = k) =
      object.reverse.find? fun p => p.1 = k := by
    rw [← List.filter_reverse, List.find?_filter]
    congr 1
    funext p
    by_cases hp : p.1 = k
    · simp [hp, h]
    · simp [hp]
  unfold Object.get lastOf without
  rw [hfind]

theorem get_of_without {object' : Object} (h : without keys object' = without keys object)
    (hk : k ∉ keys) : object'.get k = object.get k := by
  rw [← get_without hk, h, get_without hk]

theorem SameBut.refl : SameBut keys (.obj object) (.obj object) := ⟨_, _, rfl, rfl, rfl⟩

theorem SameBut.trans {v v' v'' : Json} (h : SameBut keys v v') (h' : SameBut keys v' v'') :
    SameBut keys v v'' := by
  obtain ⟨o, o', rfl, rfl, hsame⟩ := h
  obtain ⟨_, o'', heq, rfl, hsame'⟩ := h'
  obtain rfl := Json.obj.inj heq
  exact ⟨o, o'', rfl, rfl, hsame'.trans hsame⟩

theorem finds_decorateObject {rc : ResourceControl} (h : "Portainer" ∈ keys) :
    Finds reliable db (fun decorated => SameBut keys (.obj object) (.obj decorated))
      (decorateObject object rc) := by
  unfold decorateObject
  split
  · exact finds_pure ⟨_, _, rfl, rfl, without_set h⟩
  · exact finds_bind finds_asObject fun metadata _ => finds_pure ⟨_, _, rfl, rfl, without_set h⟩

/-- A system network has a name of Docker's and an identifier. -/
theorem finds_systemResourceControl {parameters : ResourceOperationParameters} :
    Finds reliable db (fun found => (found ≠ none ↔ SystemNetwork parameters.resourceType object) ∧
        (found ≠ none → parameters.resourceType = .network ∧ ∃ id, object.get "Id" = .str id))
      (systemResourceControl parameters object) := by
  unfold systemResourceControl findSystemNetworkResourceControl SystemNetwork
  by_cases hkind : parameters.resourceType = .network
  · rw [if_pos hkind]
    by_cases hnull : (object.get "Name").isNull
    · rw [if_pos hnull, eq_null_of_isNull hnull]
      exact finds_pure ⟨⟨fun h => absurd rfl h, fun ⟨_, _, h, _⟩ => nomatch h⟩, fun h => absurd rfl h⟩
    · rw [if_neg hnull]
      refine finds_bind finds_asString fun networkID hid => ?_
      refine finds_bind finds_asString fun networkName hname => finds_pure ?_
      rw [hname]
      refine ⟨?_, fun _ => ⟨hkind, networkID, hid⟩⟩
      by_cases hsystem : networkName = "bridge" ∨ networkName = "host" ∨ networkName = "none"
      · rw [if_pos hsystem]
        exact ⟨fun _ => ⟨hkind, networkName, rfl, hsystem⟩, fun _ h => nomatch h⟩
      · rw [if_neg hsystem]
        refine ⟨fun h => absurd rfl h, ?_⟩
        rintro ⟨-, name, hsame, hname'⟩
        obtain rfl := Json.str.inj hsame
        exact absurd hname' hsystem
  · rw [if_neg hkind]
    exact finds_pure ⟨⟨fun h => absurd rfl h, fun h => absurd h.1 hkind⟩, fun h => absurd rfl h⟩

end Object

/-! ## One element of a list -/

section Element

variable {t : Transport} {attr : String} {kind : ResourceControlType} {properties : List String}
variable {context : RestrictedDockerOperationContext} {keys : List String} {v : Json}

/-- The element has an identifier under the attribute, and access control
lets it through. -/
def LetThrough (t : Transport) (db : DataStore) (context : RestrictedDockerOperationContext)
    (attr : String) (kind : ResourceControlType) (properties : List String) (v : Json) : Prop :=
  ∃ object resourceID, v = .obj object ∧ textAt object attr = some resourceID ∧
    (context.isAdmin ∨ SystemNetwork kind object ∨
      (effectiveControl t db context.resourceControls resourceID kind
        (objectAt properties object)).any (mayAccess context))

theorem not_letThrough_of_null {object : Object} (h : (object.get attr).isNull) :
    ¬ LetThrough t db context attr kind properties (.obj object) := by
  rintro ⟨_, resourceID, hsame, htext, -⟩
  obtain rfl := Json.obj.inj hsame
  unfold textAt at htext
  rw [eq_null_of_isNull h] at htext
  nomatch htext

/-- For an administrator every element with an identifier stays. -/
theorem finds_decorateResource (hadm : context.isAdmin)
    (hattr : kind = .network → attr = "Id") (hkeys : "Portainer" ∈ keys) :
    Finds reliable db (Turn (LetThrough t db context attr kind properties v)
        (LetThrough t db context attr kind properties v) (SameBut keys v))
      (decorateResource t ⟨attr, kind, selectLabels properties⟩ context.resourceControls v) := by
  unfold decorateResource
  refine finds_bind finds_asObject ?_
  rintro object rfl
  by_cases hnull : (Object.get object attr).isNull
  · rw [if_pos hnull]
    exact finds_pure (.inl ⟨rfl, not_letThrough_of_null hnull⟩)
  · rw [if_neg hnull]
    have hthrough : ∀ {resourceID}, object.get attr = .str resourceID →
        LetThrough t db context attr kind properties (.obj object) :=
      fun h => ⟨object, _, rfl, textAt_of_str h, .inl hadm⟩
    refine finds_bind finds_systemResourceControl ?_
    rintro (_ | rc) ⟨-, hsystem⟩
    · refine finds_bind finds_asString fun resourceID hid => ?_
      refine finds_bind finds_selectLabels fun labels _ => ?_
      refine finds_bind (finds_findResourceControl 0 []) fun found _ => ?_
      refine finds_bind (Q := fun decorated => SameBut keys (.obj object) (.obj decorated)) ?_
        fun decorated hsame => finds_pure (.inr ⟨_, rfl, hthrough hid, hsame⟩)
      cases found with
      | none => exact finds_pure .refl
      | some rc => exact finds_decorateObject hkeys
    · obtain ⟨hkind, id, hid⟩ := hsystem nofun
      refine finds_bind (finds_decorateObject hkeys) fun decorated hsame => ?_
      exact finds_pure (.inr ⟨_, rfl, hthrough (hattr hkind ▸ hid), hsame⟩)

/-- **For a regular user an element stays if access control lets it
through.** Where reads fail it may be left out. -/
theorem finds_filterResource (hkeys : "Portainer" ∈ keys) :
    Finds reliable db (Turn (reliable ∧ LetThrough t db context attr kind properties v)
        (LetThrough t db context attr kind properties v) (SameBut keys v))
      (filterResource t ⟨attr, kind, selectLabels properties⟩ context v) := by
  unfold filterResource
  refine finds_bind finds_asObject ?_
  rintro object rfl
  by_cases hnull : (Object.get object attr).isNull
  · rw [if_pos hnull]
    exact finds_pure (.inl ⟨rfl, fun h => not_letThrough_of_null hnull h.2⟩)
  · rw [if_neg hnull]
    refine finds_bind finds_asString fun resourceID hid => ?_
    refine finds_bind finds_selectLabels fun labels hlabels => ?_
    have hthrough : LetThrough t db context attr kind properties (.obj object) ↔
        context.isAdmin ∨ SystemNetwork kind object ∨
          (effectiveControl t db context.resourceControls resourceID kind labels).any
            (mayAccess context) := by
      constructor
      · rintro ⟨_, id, hsame, htext, h⟩
        obtain rfl := Json.obj.inj hsame
        obtain rfl : resourceID = id := Option.some.inj ((textAt_of_str hid).symm.trans htext)
        rw [hlabels]
        exact h
      · intro h
        rw [hlabels] at h
        exact ⟨object, resourceID, rfl, textAt_of_str hid, h⟩
    refine finds_bind finds_systemResourceControl ?_
    rintro (_ | rc) ⟨hsystem, -⟩
    · have hregular : ¬ SystemNetwork kind object := fun h => hsystem.mpr h rfl
      refine finds_bind (finds_findResourceControl context.userID context.userTeamIDs) fun found hfound => ?_
      obtain ⟨hgives, hall⟩ := hfound
      cases found with
      | none =>
        by_cases hadm : context.isAdmin
        · dsimp only
          rw [if_pos hadm]
          exact finds_pure (.inr ⟨_, rfl, hthrough.mpr (.inl hadm), .refl⟩)
        · dsimp only
          rw [if_neg hadm]
          refine finds_pure (.inl ⟨rfl, fun h => ?_⟩)
          obtain hadmin | hsystem' | hcan := hthrough.mp h.2
          · exact hadm hadmin
          · exact hregular hsystem'
          · exact nomatch hall h.1 hcan
      | some rc =>
        dsimp only
        by_cases hcan : context.isAdmin || mayAccess context rc
        · rw [if_pos hcan]
          refine finds_bind (finds_decorateObject hkeys) fun decorated hsame => ?_
          refine finds_pure (.inr ⟨_, rfl, hthrough.mpr ?_, hsame⟩)
          obtain hadmin | haccess := Bool.or_eq_true_iff.mp hcan
          · exact .inl hadmin
          · exact .inr (.inr (hgives haccess))
        · rw [if_neg hcan]
          refine finds_pure (.inl ⟨rfl, fun h => ?_⟩)
          rw [Bool.or_eq_true, not_or] at hcan
          obtain hadmin | hsystem' | heffective := hthrough.mp h.2
          · exact hcan.1 hadmin
          · exact hregular hsystem'
          · exact hcan.2 (hall h.1 heffective)
    · have hthrough' := hthrough.mpr (.inr (.inl (hsystem.mp nofun)))
      refine finds_bind (finds_decorateObject hkeys) fun decorated hsame => ?_
      exact finds_pure (.inr ⟨_, rfl, hthrough', hsame⟩)

end Element

/-! ## The passes after and before -/

section Passes

variable {t : Transport} {keys : List String} {v : Json} {labelBlackList : List Pair}

theorem finds_containerHasBlackListedLabel {labels : Object} :
    Finds reliable db (fun listed => listed = true ↔
        ∃ p ∈ labels, ∃ l ∈ labelBlackList, l.name = p.1 ∧ p.2 = .str l.value)
      (containerHasBlackListedLabel labelBlackList labels) := by
  induction labels with
  | nil => exact finds_pure (by simp)
  | cons p labels ih =>
    obtain ⟨labelName, value⟩ := p
    unfold containerHasBlackListedLabel
    refine finds_bind finds_asString ?_
    rintro labelValue rfl
    have hhead : (labelBlackList.any fun l => l.name = labelName ∧ l.value = labelValue) ↔
        ∃ l ∈ labelBlackList, l.name = labelName ∧ Json.str labelValue = .str l.value := by
      simp only [List.any_eq_true, decide_eq_true_eq, Json.str.injEq]
      refine exists_congr fun l => and_congr_right fun _ => and_congr_right fun _ => ?_
      exact eq_comm
    by_cases hlisted : labelBlackList.any fun l => l.name = labelName ∧ l.value = labelValue
    · rw [if_pos hlisted]
      exact finds_pure ⟨fun _ => ⟨_, List.mem_cons_self, hhead.mp hlisted⟩, fun _ => rfl⟩
    · rw [if_neg hlisted]
      refine ih.mono fun listed h => h.trans ⟨?_, ?_⟩
      · rintro ⟨p, hp, hl⟩
        exact ⟨p, List.mem_cons_of_mem _ hp, hl⟩
      · rintro ⟨p, hp, hl⟩
        obtain rfl | hp := List.mem_cons.mp hp
        · exact absurd (hhead.mpr hl) hlisted
        · exact ⟨p, hp, hl⟩

/-- A container is left out if it has a black listed label. -/
theorem finds_filterContainer :
    Finds reliable db (Turn (∀ o, v = .obj o → ¬ BlackListed (some labelBlackList) o)
        (∀ o, v = .obj o → ¬ BlackListed (some labelBlackList) o) (v = ·))
      (filterContainer labelBlackList v) := by
  unfold filterContainer
  refine finds_bind finds_asObject ?_
  rintro object rfl
  refine finds_bind finds_selectLabels fun labels hlabels => ?_
  have hiff : (∀ o, Json.obj object = .obj o → ¬ BlackListed (some labelBlackList) o) ↔
      ¬ BlackListed (some labelBlackList) object :=
    ⟨fun h => h object rfl, fun h o ho => Json.obj.inj ho ▸ h⟩
  rw [hiff]
  cases labels with
  | none =>
    refine finds_pure (.inr ⟨_, rfl, ?_, rfl⟩)
    rintro ⟨_, labels, -, hsome, -⟩
    exact nomatch hlabels.trans hsome
  | some labels =>
    refine finds_bind finds_containerHasBlackListedLabel fun listed hlisted => finds_pure ?_
    have hblack : BlackListed (some labelBlackList) object ↔ listed = true := by
      rw [hlisted]
      constructor
      · rintro ⟨_, labels', hpairs, hsome, h⟩
        obtain rfl := Option.some.inj hpairs
        obtain rfl := Option.some.inj (hlabels.trans hsome)
        exact h
      · intro h
        exact ⟨_, labels, rfl, hlabels.symm, h⟩
    rw [hblack]
    cases listed with
    | true => exact .inl ⟨rfl, fun h => h rfl⟩
    | false => exact .inr ⟨_, rfl, nofun, rfl⟩

/-- A volume with its identifier put in. -/
def Identified (t : Transport) (v v' : Json) : Prop :=
  ∃ o name resourceID, v = .obj o ∧ Object.get o "Name" = .str name ∧
    resourceIDOf t .volume name = some resourceID ∧
    v' = .obj (Object.set o volumeObjectIdentifier (.str resourceID))

theorem finds_getDockerID {name : String} :
    Finds reliable db (fun dockerID => resourceIDOf t .volume name = some s!"{name}_{dockerID}")
      (getDockerID t) := by
  unfold getDockerID resourceIDOf
  cases t.snapshotDockerID with
  | some dockerID => exact finds_pure rfl
  | none =>
    refine finds_ofExcept fun dockerID h => ?_
    rw [h]
    rfl

theorem finds_decorateVolume :
    Finds reliable db (Turn True True (Identified t v)) (decorateVolume t v) := by
  unfold decorateVolume
  refine finds_bind finds_asObject ?_
  rintro object rfl
  refine finds_bind (Q := fun decorated => Identified t (.obj object) (.obj decorated)) ?_
    fun decorated h => finds_pure (.inr ⟨_, rfl, trivial, h⟩)
  refine finds_mapError ?_
  unfold decorateVolumeResponseWithResourceID
  split
  · exact finds_fail
  · refine finds_bind finds_asString fun name hname => ?_
    have hresourceID : Finds reliable db
        (fun resourceID => resourceIDOf t .volume name = some resourceID)
        (getVolumeResourceID t name) :=
      finds_bind (finds_mapError finds_getDockerID) fun dockerID hid => finds_pure hid
    refine finds_bind (finds_mapError hresourceID) fun resourceID hid => ?_
    exact finds_pure ⟨object, name, resourceID, rfl, hname, hid, rfl⟩

end Passes

/-! ## The whole answer -/

section Answer

variable {t : Transport} {executor : OperationExecutor} {attr : String} {kind : ResourceControlType}
variable {properties keys : List String} {data : List Json} {response : Response}

/-- **Access control selects** what it lets through. -/
theorem finds_applyAccessControlOnResourceList (attr : String) (kind : ResourceControlType)
    (properties keys : List String) (hattr : kind = .network → attr = "Id")
    (hkeys : "Portainer" ∈ keys) :
    Finds reliable db
      (Selects
        (fun v => (executor.operationContext.isAdmin ∨ reliable) ∧
          LetThrough t db executor.operationContext attr kind properties v)
        (LetThrough t db executor.operationContext attr kind properties) (SameBut keys) data)
      (applyAccessControlOnResourceList t ⟨attr, kind, selectLabels properties⟩ data executor) := by
  unfold applyAccessControlOnResourceList
  by_cases hadm : executor.operationContext.isAdmin
  · rw [if_pos hadm]
    refine finds_collect fun v _ => (finds_decorateResource hadm hattr hkeys).mono fun kept h => ?_
    exact h.mono (fun hmust => hmust.2) fun hmay => hmay
  · rw [if_neg hadm]
    refine finds_collect fun v _ => (finds_filterResource hkeys).mono fun kept h => ?_
    exact h.mono (fun hmust => ⟨hmust.1.resolve_left hadm, hmust.2⟩) fun hmay => hmay

theorem finds_getResponseAsJSONArray :
    Finds reliable db (fun data => response.body = .ok (.arr data))
      (getResponseAsJSONArray response) := by
  unfold getResponseAsJSONArray
  refine finds_bind (finds_ofExcept fun _ h => h) fun body hbody => ?_
  rw [hbody]
  cases body with
  | arr l => exact finds_pure rfl
  | obj o =>
    dsimp only [jsonArray]
    split
    · exact finds_fail
    · exact finds_bind finds_asString fun _ _ => finds_fail
  | null => exact finds_fail
  | bool b => exact finds_fail
  | num l => exact finds_fail
  | str s => exact finds_fail

namespace Listed

variable {K : Listed}

/-- What the list in an answer has become: of what is shown nothing is left
out for an administrator, nor for a regular user unless a read fails. -/
def Selected (K : Listed) (t : Transport) (db : DataStore) (reliable : Prop)
    (executor : OperationExecutor) (response answer : Response) : Prop :=
  ∃ data kept, K.list response = some data ∧ K.list answer = some kept ∧
    Selects
      (fun v => (executor.operationContext.isAdmin ∨ reliable) ∧ K.Shown t db executor v)
      (K.Shown t db executor) (SameBut K.added) data kept

/-- Away from the containers, what access control lets through is shown. -/
theorem shown_iff {attr : String} {kind : ResourceControlType} {properties : List String} {v : Json}
    (hparameters : K.parameters = ⟨attr, kind, selectLabels properties⟩)
    (hpath : K.labelsPath = properties) (hid : ∀ o, K.identifier t o = textAt o attr) :
    K.Shown t db executor v ↔
      LetThrough t db executor.operationContext attr kind properties v ∧
        ∀ o, v = .obj o → ¬ (K = container ∧ BlackListed executor.labelBlackList o) := by
  unfold Shown Granted LetThrough
  rw [hparameters, hpath]
  simp only [hid]
  constructor
  · rintro ⟨o, resourceID, rfl, htext, hgranted, hblack⟩
    exact ⟨⟨o, resourceID, rfl, htext, hgranted⟩, fun o' ho' => Json.obj.inj ho' ▸ hblack⟩
  · rintro ⟨⟨o, resourceID, rfl, htext, hgranted⟩, hblack⟩
    exact ⟨o, resourceID, rfl, htext, hgranted, hblack o rfl⟩

/-- The lists with nothing before or after access control. -/
theorem finds_listOperation (hlist : ∀ status l, K.list ⟨status, .ok (.arr l)⟩ = some l)
    (hparameters : K.parameters = ⟨attr, kind, selectLabels properties⟩)
    (hpath : K.labelsPath = properties) (hid : ∀ o, K.identifier t o = textAt o attr)
    (hattr : kind = .network → attr = "Id") (hadded : "Portainer" ∈ K.added)
    (hK : K ≠ container) :
    Finds reliable db (K.Selected t db reliable executor response)
      (listOperation ⟨attr, kind, selectLabels properties⟩ t response executor) := by
  unfold listOperation
  refine finds_bind finds_getResponseAsJSONArray fun data hdata => ?_
  refine finds_bind (finds_applyAccessControlOnResourceList attr kind properties K.added hattr hadded) fun kept hkept => ?_
  refine finds_pure ⟨data, kept, ?_, hlist _ _, ?_⟩
  · obtain ⟨status, body⟩ := response
    obtain rfl : body = .ok (.arr data) := hdata
    exact hlist _ _
  · have hshown : K.Shown t db executor =
        LetThrough t db executor.operationContext attr kind properties := by
      funext v
      rw [shown_iff hparameters hpath hid]
      exact propext (and_iff_left fun o _ h => hK h.1)
    rw [hshown]
    exact hkept

/-- Where the labels of a container are, the proxy changes nothing. -/
theorem blackListed_of_sameBut {labelBlackList : Option (List Pair)} {o o' : Object}
    (h : without ["Portainer"] o' = without ["Portainer"] o) :
    BlackListed labelBlackList o' ↔ BlackListed labelBlackList o := by
  have hlabels : objectAt ["Labels"] o' = objectAt ["Labels"] o := by
    unfold objectAt
    rw [get_of_without h (by decide)]
  unfold BlackListed
  rw [hlabels]

/-- **Containers**, less those with a black listed label. -/
theorem finds_containerListOperation :
    Finds reliable db (container.Selected t db reliable executor response)
      (containerListOperation t response executor) := by
  unfold containerListOperation
  refine finds_bind finds_getResponseAsJSONArray fun data hdata => ?_
  refine finds_bind (finds_applyAccessControlOnResourceList containerObjectIdentifier .container
    ["Labels"] ["Portainer"] nofun (by decide))
    fun kept hkept => ?_
  have hshown : ∀ v, container.Shown t db executor v ↔ _ :=
    fun v => shown_iff (K := container) rfl rfl fun _ => rfl
  -- the second pass leaves out what has a label of the black list
  have hunlisted : Finds reliable db
      (Selects (fun v => ∀ o, v = .obj o → ¬ BlackListed executor.labelBlackList o)
        (fun v => ∀ o, v = .obj o → ¬ BlackListed executor.labelBlackList o) (· = ·) kept)
      (filterContainersWithBlackListedLabels kept executor.labelBlackList) := by
    cases hlist : executor.labelBlackList with
    | none =>
      refine finds_pure (.refl (fun v o _ h => ?_) fun _ => rfl)
      obtain ⟨_, _, hnone, -⟩ := h
      nomatch hnone
    | some labelBlackList => exact finds_collect fun v _ => finds_filterContainer
  refine finds_bind hunlisted fun unlisted hunlisted => finds_pure ⟨data, unlisted, ?_, rfl, ?_⟩
  · obtain ⟨status, body⟩ := response
    obtain rfl : body = .ok (.arr data) := hdata
    rfl
  · refine hkept.trans hunlisted ?_ ?_ ?_
    · rintro v hno ⟨hmust, hv⟩
      exact hno ⟨hmust, ((hshown v).mp hv).1⟩
    · rintro v v' ⟨o, o', rfl, rfl, hsame⟩ hlisted ⟨-, hv⟩
      refine hlisted fun o₁ ho₁ hblack => ?_
      obtain rfl := Json.obj.inj ho₁
      exact ((hshown _).mp hv).2 o rfl ⟨rfl, (blackListed_of_sameBut hsame).mp hblack⟩
    · rintro v _ v' hmay ⟨o, o', rfl, rfl, hsame⟩ hlisted rfl
      refine ⟨(hshown _).mpr ⟨hmay, fun o₁ ho₁ h => ?_⟩, o, o', rfl, rfl, hsame⟩
      obtain rfl := Json.obj.inj ho₁
      exact hlisted o' rfl ((blackListed_of_sameBut hsame).mpr h.2)

/-- A volume with its identifier put in is let through if the volume is
shown. -/
theorem letThrough_iff_of_identified {v v' : Json} (h : Identified t v v') :
    LetThrough t db executor.operationContext volumeObjectIdentifier .volume ["Labels"] v' ↔
      volume.Shown t db executor v := by
  obtain ⟨o, name, resourceID, rfl, hname, hid, rfl⟩ := h
  have hlabels : objectAt ["Labels"] (Object.set o volumeObjectIdentifier (.str resourceID)) =
      objectAt ["Labels"] o := by
    unfold objectAt
    rw [Object.get_set_of_ne (by decide)]
  have htext : textAt (Object.set o volumeObjectIdentifier (.str resourceID))
      volumeObjectIdentifier = some resourceID := textAt_of_str (Object.get_set_self _ _ _)
  have hvolume : volume.identifier t o = some resourceID := by
    unfold identifier
    dsimp only
    rw [textAt_of_str hname, Option.bind_some, hid]
  have hsystem : ∀ object, ¬ SystemNetwork .volume object := fun _ hs => absurd hs.1 (by decide)
  constructor
  · rintro ⟨o', resourceID', ho', htext', hgranted⟩
    obtain rfl := Json.obj.inj ho'
    obtain rfl := Option.some.inj (htext.symm.trans htext')
    refine ⟨o, resourceID, rfl, hvolume, ?_, fun h => absurd h.1 (by decide)⟩
    rw [hlabels] at hgranted
    exact hgranted.imp_right (.imp_left fun hs => absurd hs (hsystem _))
  · rintro ⟨o', resourceID', ho', hid', hgranted, -⟩
    obtain rfl := Json.obj.inj ho'
    obtain rfl := Option.some.inj (hvolume.symm.trans hid')
    refine ⟨_, resourceID, rfl, htext, ?_⟩
    rw [hlabels]
    exact hgranted.imp_right (.imp_left fun hs => absurd hs (hsystem _))

/-- **Volumes**, each of which gets its identifier first. -/
theorem finds_volumeListOperation :
    Finds reliable db (volume.Selected t db reliable executor response)
      (volumeListOperation t response executor) := by
  unfold volumeListOperation getResponseAsJSONObject
  obtain ⟨status, body⟩ := response
  refine finds_bind (Q := fun o => body = .ok (.obj o)) ?_ fun o ho => ?_
  · refine finds_bind (finds_ofExcept fun _ h => h) fun b hb => ?_
    refine finds_asObject.mono fun o ho => ?_
    obtain rfl : b = .obj o := ho
    exact hb
  subst ho
  by_cases hnull : (Object.get o "Volumes").isNull
  · rw [if_pos hnull]
    have hlist : ∀ status, volume.list ⟨status, .ok (.obj o)⟩ = some [] := by
      intro status
      unfold list
      dsimp only
      rw [eq_null_of_isNull hnull]
    exact finds_pure ⟨[], [], hlist _, hlist _, .nil⟩
  · rw [if_neg hnull]
    refine finds_bind finds_asArray fun data hdata => ?_
    refine finds_bind (finds_collect fun v _ => finds_decorateVolume) fun volumes hvolumes => ?_
    refine finds_bind (finds_applyAccessControlOnResourceList volumeObjectIdentifier .volume
      ["Labels"] volume.added nofun (by decide))
      fun kept hkept => finds_pure ⟨data, kept, ?_, ?_, ?_⟩
    · unfold list
      dsimp only
      rw [hdata]
    · unfold list rewriteResponse
      dsimp only
      rw [Object.get_set_self]
    · refine Selects.trans (r := Identified t) hvolumes hkept ?_ ?_ ?_
      · exact fun v hno => absurd trivial hno
      · rintro v v' hid hno ⟨hmust, hv⟩
        exact hno ⟨hmust, (letThrough_iff_of_identified hid).mpr hv⟩
      · intro v v' v'' _ hid hmay hsame
        refine ⟨(letThrough_iff_of_identified hid).mp hmay, ?_⟩
        obtain ⟨o, name, resourceID, rfl, -, -, rfl⟩ := hid
        exact SameBut.trans ⟨_, _, rfl, rfl, without_set (by decide)⟩ hsame

/-- **Every list.** -/
theorem finds_operation (K : Listed) :
    Finds reliable db (K.Selected t db reliable executor response)
      (K.operation t response executor) := by
  cases K with
  | container => exact finds_containerListOperation
  | volume => exact finds_volumeListOperation
  | network =>
    exact finds_listOperation (fun _ _ => rfl) rfl rfl (fun _ => rfl) (fun _ => rfl) (by decide)
      nofun
  | service =>
    exact finds_listOperation (fun _ _ => rfl) rfl rfl (fun _ => rfl) nofun (by decide) nofun
  | secret =>
    exact finds_listOperation (fun _ _ => rfl) rfl rfl (fun _ => rfl) nofun (by decide) nofun
  | config =>
    exact finds_listOperation (fun _ _ => rfl) rfl rfl (fun _ => rfl) nofun (by decide) nofun
  | task =>
    exact finds_listOperation (fun _ _ => rfl) rfl rfl (fun _ => rfl) nofun (by decide) nofun

end Listed

end Answer

end DockerProxy

end Portainer
