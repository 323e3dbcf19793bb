import Portainer.DockerProxy.Helpers.Encoding
import Portainer.DockerProxy.Visibility
/-!
# Filtering — what is left of a list

The answer to a list of containers, services, volumes, networks, secrets,
configs or tasks is filtered for a regular user and decorated for an
administrator, and containers with a black listed label are left out.
`filtersExactly` says what the answer holds: of the resources that have an
identifier, in their order and each once, those that are system networks or
whose effective resource control gives the user access. A list as Docker
sends it is answered (`Listed.completes_operation`). Numbers go through a
`float64` on the way.
-/

namespace Portainer

namespace DockerProxy

open Json (Object)

/-! ## Lists that are answered -/

section Answered

variable {t : Transport} {executor : OperationExecutor} {parameters : ResourceOperationParameters}
variable {properties : List String} {object : Object}

/-- All the labels are texts. -/
def Texts (labels : Object) : Prop := ∀ p ∈ labels, ∃ text, p.2 = Json.str text

/-- At the end of a path of properties there are labels, or a property is
missing. -/
def HoldsLabels : List String → Object → Prop
  | [], object => Texts object
  | property :: properties, object =>
    object.get property = .null ∨
      ∃ inner, object.get property = .obj inner ∧ HoldsLabels properties inner

/-- **An object as Docker sends it**: what the proxy reads in it has the
type it takes it to have. -/
structure Listed.Readable (K : Listed) (t : Transport) (object : Object) : Prop where
  identified : K = .volume → ∃ name resourceID, object.get "Name" = .str name ∧
    resourceIDOf t .volume name = some resourceID
  identifier : K ≠ .volume → object.get K.parameters.resourceIdentifierAttribute = .null ∨
    ∃ resourceID, object.get K.parameters.resourceIdentifierAttribute = .str resourceID
  name : K = .network → ∃ name, object.get "Name" = .str name
  labels : HoldsLabels K.labelsPath object
  plain : object.get "Portainer" = .null

theorem Texts.exists_labels (h : Texts object) :
    ∃ labels : Labels, object = labels.map fun p => (p.1, Json.str p.2) := by
  induction object with
  | nil => exact ⟨[], rfl⟩
  | cons p object ih =>
    obtain ⟨labels, rfl⟩ := ih fun q hq => h q (List.mem_cons_of_mem p hq)
    obtain ⟨text, htext⟩ := h p List.mem_cons_self
    exact ⟨(p.1, text) :: labels, by rw [List.map_cons, ← htext]⟩

theorem HoldsLabels.exists_shows (h : HoldsLabels properties object) :
    ∃ labels, ShowsLabels properties object labels := by
  induction properties generalizing object with
  | nil =>
    obtain ⟨labels, rfl⟩ := Texts.exists_labels h
    exact ⟨labels, showsLabels_map labels⟩
  | cons property properties ih =>
    obtain hnull | ⟨inner, hinner, hlabels⟩ := h
    · exact ⟨[], .inl ⟨hnull, rfl⟩⟩
    · obtain ⟨labels, hshows⟩ := ih hlabels
      exact ⟨labels, .inr ⟨inner, hinner, hshows⟩⟩

theorem yields_mapError {α : Type} {x : Local α} {a : α} {g : String → String} (hx : Yields x a) :
    Yields (Action.mapError g x) a := by
  intro w
  rw [Action.mapError_run, hx w]

theorem completes_of_finds {α : Type} {Q : α → Prop} {x : Local α}
    (hx : Completes (fun _ => True) x) (h : ∀ db, Finds False db Q x) : Completes Q x := by
  intro db
  obtain ⟨a, db', hrun, -⟩ := hx db
  have hends := (h db (.faultless db) (fun _ hk => hk.1.elim) ⟨rfl, rfl⟩).1
  rw [hrun] at hends
  exact ⟨a, db', hrun, hends.2⟩

theorem completes_collect {f : Json → Local (List Json)} {l : List Json}
    (h : ∀ v ∈ l, Completes (fun _ => True) (f v)) : Completes (fun _ => True) (collect f l) := by
  induction l with
  | nil => exact completes_pure trivial
  | cons v l ih =>
    refine completes_bind (h v List.mem_cons_self) fun kept _ => ?_
    refine completes_bind (ih fun v' hv' => h v' (List.mem_cons_of_mem v hv')) fun rest _ => ?_
    exact completes_pure trivial

/-- An element without the identifier, or one that displays a resource. -/
def Legible (parameters : ResourceOperationParameters) (properties : List String) (v : Json) : Prop :=
  ∃ object, v = .obj object ∧ ((Object.get object parameters.resourceIdentifierAttribute).isNull ∨
    ∃ r, Displays parameters properties r object)

theorem completes_decorateResource {rcs : List ResourceControl} {v : Json}
    (h : Legible parameters properties v) (hfits : Fits parameters parameters.resourceType) :
    Completes (fun _ => True) (decorateResource t parameters rcs v) := by
  obtain ⟨object, rfl, h⟩ := h
  refine completes_yields_bind (a := object) yields_pure ?_
  by_cases hnull : (Object.get object parameters.resourceIdentifierAttribute).isNull
  · rw [if_pos hnull]
    exact completes_pure trivial
  · rw [if_neg hnull]
    obtain ⟨r, hr⟩ := h.resolve_left hnull
    obtain ⟨found, hselect, hcontrol⟩ := completes_resolution t rcs hr
    refine completes_yields_bind
      (yields_systemResourceControl hr fun hk => hfits.network (hr.kind.trans hk)) ?_
    by_cases hs : r.System
    · rw [if_pos hs]
      obtain ⟨shown, hshown, -⟩ :=
        yields_decorateObject (newSystemResourceControl r.resourceID .network) hr.plain
      exact completes_yields_bind hshown (completes_pure trivial)
    · rw [if_neg hs]
      refine completes_yields_bind (yields_asString hr.identifier) ?_
      refine completes_yields_bind hselect (completes_bind hcontrol fun rc _ => ?_)
      cases rc with
      | none => exact completes_yields_bind (a := object) yields_pure (completes_pure trivial)
      | some rc =>
        obtain ⟨shown, hshown, -⟩ := yields_decorateObject rc hr.plain
        exact completes_yields_bind hshown (completes_pure trivial)

theorem completes_filterElement {context : RestrictedDockerOperationContext} {v : Json}
    (h : Legible parameters properties v) (hfits : Fits parameters parameters.resourceType)
    (hadm : ¬ context.isAdmin) :
    Completes (fun _ => True) (filterResource t parameters context v) := by
  obtain ⟨object, rfl, h⟩ := h
  obtain ⟨isAdmin, userID, teams, rcs⟩ := context
  obtain rfl : isAdmin = false := Bool.eq_false_iff.mpr hadm
  by_cases hnull : (Object.get object parameters.resourceIdentifierAttribute).isNull
  · refine completes_yields_bind (a := object) yields_pure ?_
    rw [if_pos hnull]
    exact completes_pure trivial
  · obtain ⟨r, hr⟩ := h.resolve_left hnull
    exact (completes_filterResource t rcs userID teams hr (hr.kind ▸ hfits)).mono fun _ _ => trivial

/-- **Access control answers** when it can read each element. -/
theorem completes_applyAccessControlOnResourceList (properties : List String) {data : List Json}
    (h : ∀ v ∈ data, Legible parameters properties v)
    (hfits : Fits parameters parameters.resourceType) :
    Completes (fun _ => True) (applyAccessControlOnResourceList t parameters data executor) := by
  unfold applyAccessControlOnResourceList
  by_cases hadm : executor.operationContext.isAdmin
  · rw [if_pos hadm]
    exact completes_collect fun v hv => completes_decorateResource (h v hv) hfits
  · rw [if_neg hadm]
    exact completes_collect fun v hv => completes_filterElement (h v hv) hfits hadm

namespace Listed

variable {K : Listed} {data : List Json} {response : Response}

theorem fits (K : Listed) : Fits K.parameters K.parameters.resourceType := by
  cases K with
  | network => exact ⟨fun _ => rfl, by decide⟩
  | container => exact ⟨nofun, by decide⟩
  | service => exact ⟨nofun, by decide⟩
  | volume => exact ⟨nofun, by decide⟩
  | secret => exact ⟨nofun, by decide⟩
  | config => exact ⟨nofun, by decide⟩
  | task => exact ⟨nofun, by decide⟩

theorem selector_eq (K : Listed) : K.parameters.labelsObjectSelector = selectLabels K.labelsPath := by
  cases K <;> rfl

theorem network_of_resourceType (h : K.parameters.resourceType = .network) : K = network := by
  cases K with
  | network => rfl
  | _ => nomatch h

theorem Readable.legible (h : K.Readable t object) (hK : K ≠ volume) :
    Legible K.parameters K.labelsPath (.obj object) := by
  refine ⟨object, rfl, ?_⟩
  obtain hnull | ⟨resourceID, hid⟩ := h.identifier hK
  · exact .inl (by rw [hnull]; rfl)
  · obtain ⟨labels, hlabels⟩ := h.labels.exists_shows
    obtain ⟨name, hname⟩ : ∃ name, K = network → object.get "Name" = .str name := by
      by_cases hnetwork : K = network
      · obtain ⟨name, hname⟩ := h.name hnetwork
        exact ⟨name, fun _ => hname⟩
      · exact ⟨"", fun h => absurd h hnetwork⟩
    exact .inr ⟨⟨K.parameters.resourceType, resourceID, resourceID, name, labels⟩,
      K.selector_eq, rfl, hid, fun hn => hname (network_of_resourceType hn), hlabels, h.plain⟩

/-- The lists with nothing before or after access control. -/
theorem completes_listOperation (hdata : response.body = .ok (.arr data))
    (h : ∀ v ∈ data, Legible K.parameters K.labelsPath v) :
    Completes (fun _ => True) (listOperation K.parameters t response executor) := by
  have harray : Yields (getResponseAsJSONArray response) data := by
    intro w
    unfold getResponseAsJSONArray
    rw [hdata]
    rfl
  refine completes_yields_bind harray ?_
  refine completes_bind (completes_applyAccessControlOnResourceList K.labelsPath h K.fits) fun kept _ => ?_
  exact completes_pure trivial

theorem completes_containerHasBlackListedLabel {labelBlackList : List Pair} {labels : Object}
    (h : Texts labels) :
    Completes (fun _ => True) (containerHasBlackListedLabel labelBlackList labels) := by
  induction labels with
  | nil => exact completes_pure trivial
  | cons p labels ih =>
    obtain ⟨text, htext⟩ := h p List.mem_cons_self
    refine completes_yields_bind (yields_asString htext) ?_
    split
    · exact completes_pure trivial
    · exact ih fun q hq => h q (List.mem_cons_of_mem p hq)

theorem completes_filterContainer {labelBlackList : List Pair} (h : HoldsLabels ["Labels"] object) :
    Completes (fun _ => True) (filterContainer labelBlackList (.obj object)) := by
  refine completes_yields_bind (a := object) yields_pure ?_
  obtain hnull | ⟨labels, hlabels, htexts⟩ := h
  · have hselect : Yields (selectorContainerLabelsFromContainerListOperation object) none := by
      intro w
      unfold selectorContainerLabelsFromContainerListOperation selectLabels getJSONObject
      rw [hnull]
      rfl
    exact completes_yields_bind hselect (completes_pure trivial)
  · have hselect : Yields (selectorContainerLabelsFromContainerListOperation object)
        (some labels) := by
      intro w
      unfold selectorContainerLabelsFromContainerListOperation selectLabels getJSONObject
      rw [hlabels]
      rfl
    refine completes_yields_bind hselect ?_
    exact completes_bind (completes_containerHasBlackListedLabel htexts) fun _ _ =>
      completes_pure trivial

theorem completes_containerListOperation (hdata : response.body = .ok (.arr data))
    (h : ∀ v ∈ data, ∃ o, v = .obj o ∧ container.Readable t o) :
    Completes (fun _ => True) (containerListOperation t response executor) := by
  have harray : Yields (getResponseAsJSONArray response) data := by
    intro w
    unfold getResponseAsJSONArray
    rw [hdata]
    rfl
  have haccess : Completes (fun kept => ∀ v' ∈ kept, ∃ v ∈ data, SameBut ["Portainer"] v v')
      (applyAccessControlOnResourceList t containerListParameters data executor) := by
    refine completes_of_finds (completes_applyAccessControlOnResourceList
      container.labelsPath (fun v hv => ?_) container.fits) fun db => ?_
    · obtain ⟨o, rfl, hreadable⟩ := h v hv
      exact hreadable.legible nofun
    · refine (finds_applyAccessControlOnResourceList containerObjectIdentifier .container
        ["Labels"] ["Portainer"] nofun (by decide)).mono fun kept hkept => ?_
      intro v' hv'
      obtain ⟨v, hv, -, hsame⟩ := hkept.mem hv'
      exact ⟨v, hv, hsame⟩
  refine completes_yields_bind harray (completes_bind haccess fun kept hkept => ?_)
  have hunlisted : Completes (fun _ => True)
      (filterContainersWithBlackListedLabels kept executor.labelBlackList) := by
    cases executor.labelBlackList with
    | none => exact completes_pure trivial
    | some labelBlackList =>
      refine completes_collect fun v' hv' => ?_
      obtain ⟨v, hv, o, o', rfl, rfl, hsame⟩ := hkept v' hv'
      obtain ⟨o₁, ho₁, hreadable⟩ := h _ hv
      obtain rfl := Json.obj.inj ho₁
      refine completes_filterContainer ?_
      have hlabels : HoldsLabels ["Labels"] o := hreadable.labels
      unfold HoldsLabels at hlabels ⊢
      rw [get_of_without hsame (by decide)]
      exact hlabels
  exact completes_bind hunlisted fun _ _ => completes_pure trivial

/-- Each volume gets its identifier. -/
theorem completes_decorateVolume (h : volume.Readable t object) :
    Completes (fun _ => True) (decorateVolume t (.obj object)) := by
  obtain ⟨name, resourceID, hname, hid⟩ := h.identified rfl
  have hdockerID : ∃ dockerID, Yields (getDockerID t) dockerID := by
    unfold getDockerID
    unfold resourceIDOf at hid
    cases hs : t.snapshotDockerID with
    | some dockerID => exact ⟨dockerID, yields_pure⟩
    | none =>
      rw [hs] at hid
      cases hi : t.daemon.info with
      | ok dockerID => exact ⟨dockerID, yields_pure⟩
      | error e =>
        rw [hi] at hid
        nomatch hid
  obtain ⟨dockerID, hyields⟩ := hdockerID
  have hresourceID : Yields (getVolumeResourceID t name) s!"{name}_{dockerID}" :=
    yields_bind (yields_mapError hyields) yields_pure
  have hdecorated : ∃ decorated, Yields (decorateVolumeResponseWithResourceID t object) decorated := by
    unfold decorateVolumeResponseWithResourceID
    rw [hname, if_neg (by simp [Json.isNull])]
    exact ⟨_, yields_bind (yields_asString rfl)
      (yields_bind (yields_mapError hresourceID) yields_pure)⟩
  obtain ⟨decorated, hd⟩ := hdecorated
  refine completes_yields_bind (a := object) yields_pure ?_
  exact completes_yields_bind (yields_mapError hd) (completes_pure trivial)

theorem legible_of_identified {v v' : Json} (h : Identified t v v')
    (hreadable : ∀ o, v = .obj o → volume.Readable t o) :
    Legible volumeParameters ["Labels"] v' := by
  obtain ⟨o, name, resourceID, rfl, hname, hid, rfl⟩ := h
  have hr := hreadable o rfl
  obtain ⟨labels, hlabels⟩ := hr.labels.exists_shows
  refine ⟨_, rfl, .inr ⟨⟨.volume, resourceID, name, name, labels⟩, rfl, rfl,
    Object.get_set_self _ _ _, nofun, ?_, ?_⟩⟩
  · have hlabels' : ShowsLabels ["Labels"] o labels := hlabels
    unfold ShowsLabels at hlabels' ⊢
    rw [Object.get_set_of_ne (by decide)]
    exact hlabels'
  · rw [Object.get_set_of_ne (by decide)]
    exact hr.plain

theorem completes_volumeListOperation {o : Object} (hbody : response.body = .ok (.obj o))
    (hdata : o.get "Volumes" = .null ∨ o.get "Volumes" = .arr data)
    (h : ∀ v ∈ data, ∃ o, v = .obj o ∧ volume.Readable t o) :
    Completes (fun _ => True) (volumeListOperation t response executor) := by
  have hobject : Yields (getResponseAsJSONObject response) o := by
    intro w
    unfold getResponseAsJSONObject
    rw [hbody]
    rfl
  refine completes_yields_bind hobject ?_
  obtain hnull | hdata := hdata
  · rw [hnull, if_pos (by rfl)]
    exact completes_pure trivial
  · rw [hdata, if_neg (by simp [Json.isNull])]
    refine completes_yields_bind (a := data) yields_pure ?_
    have hvolumes : Completes (fun volumes => ∀ v' ∈ volumes, ∃ v ∈ data, Identified t v v')
        (collect (decorateVolume t) data) := by
      refine completes_of_finds (completes_collect fun v hv => ?_) fun db => ?_
      · obtain ⟨o, rfl, hreadable⟩ := h v hv
        exact completes_decorateVolume hreadable
      · refine (finds_collect fun v _ => finds_decorateVolume).mono fun volumes hvolumes v' hv' => ?_
        obtain ⟨v, hv, -, hid⟩ := Selects.mem (r := Identified t) hvolumes hv'
        exact ⟨v, hv, hid⟩
    refine completes_bind hvolumes fun volumes hvolumes => ?_
    refine completes_bind (completes_applyAccessControlOnResourceList ["Labels"]
      (fun v' hv' => ?_) volume.fits) fun kept _ => completes_pure trivial
    obtain ⟨v, hv, hid⟩ := hvolumes v' hv'
    refine legible_of_identified hid fun o ho => ?_
    obtain ⟨o', rfl, hreadable⟩ := h v hv
    exact Json.obj.inj ho ▸ hreadable

/-- **A list as Docker sends it is answered**, when no call fails. -/
theorem completes_operation (hlist : K.list response = some data)
    (h : ∀ v ∈ data, ∃ o, v = .obj o ∧ K.Readable t o) :
    Completes (fun _ => True) (K.operation t response executor) := by
  have hlegible : K ≠ volume → ∀ v ∈ data, Legible K.parameters K.labelsPath v := by
    intro hK v hv
    obtain ⟨o, rfl, hreadable⟩ := h v hv
    exact hreadable.legible hK
  have harray : K ≠ volume → response.body = .ok (.arr data) := by
    intro hK
    unfold list at hlist
    split at hlist
    · exact absurd rfl hK
    · exact absurd rfl hK
    · rename_i hbody
      obtain rfl := Option.some.inj hlist
      exact hbody
    · nomatch hlist
  cases K with
  | container => exact completes_containerListOperation (harray nofun) h
  | service => exact completes_listOperation (K := service) (harray nofun) (hlegible nofun)
  | network => exact completes_listOperation (K := network) (harray nofun) (hlegible nofun)
  | secret => exact completes_listOperation (K := secret) (harray nofun) (hlegible nofun)
  | config => exact completes_listOperation (K := config) (harray nofun) (hlegible nofun)
  | task => exact completes_listOperation (K := task) (harray nofun) (hlegible nofun)
  | volume =>
    obtain ⟨status, body⟩ := response
    unfold list at hlist
    dsimp only at hlist
    split at hlist
    · rename_i o ho
      refine completes_volumeListOperation (o := o) rfl ?_ h
      split at hlist
      · rename_i hnull
        exact .inl hnull
      · rename_i l harr
        obtain rfl := Option.some.inj hlist
        exact .inr harr
      · nomatch hlist
    · nomatch hlist
    · rename_i hne
      exact absurd rfl hne
    · nomatch hlist

end Listed

end Answered

/-! ## Filtering is exact -/

/-- **The lists the proxy answers with are exact**, of what it is sent. -/
structure FiltersExactly (K : Listed) (t : Transport) (executor : OperationExecutor)
    (sent : Response) : Prop where
  /-- A list as Docker sends it is answered, when no number in it is out of
  range and no call fails. -/
  answered : ∀ db data, K.list sent = some data → sent.InRange →
    (∀ v ∈ data, ∃ object, v.asInterface = .obj object ∧ K.Readable t object) →
      ∃ answer w', (K.operation t sent.received executor).run (.faultless db) = (.ok answer, w')
  /-- An answer has nothing but what the user is shown, in its order and
  each once, as it was read but for what the proxy adds; and all of it,
  unless a read of the database failed that a regular user's access depended
  on. -/
  selected : ∀ w answer w', (K.operation t sent.received executor).run w = (.ok answer, w') →
    K.Returned t w.store (w.Reliable .databaseRead) executor sent answer.returned

/-- **Filtering is exact**, for every kind of list. -/
theorem filtersExactly (K : Listed) (t : Transport) (executor : OperationExecutor)
    (sent : Response) : FiltersExactly K t executor sent where
  answered := by
    intro db data hlist hrange hreadable
    have hcompletes : Completes (fun _ => True) (K.operation t sent.received executor) := by
      refine Listed.completes_operation (Listed.list_received_of_inRange hrange hlist) fun v hv => ?_
      obtain ⟨raw, hraw, rfl⟩ := List.mem_map.mp hv
      exact hreadable raw hraw
    obtain ⟨answer, db', hrun, -⟩ := hcompletes db
    exact ⟨answer, _, hrun⟩
  selected := by
    intro w answer w' hrun
    have hfinds : Finds (w.Reliable .databaseRead) w.store
        (K.Selected t w.store (w.Reliable .databaseRead) executor sent.received)
        (K.operation t sent.received executor) := Listed.finds_operation K
    have hends := hfinds.ends (w := w) (fun k hk => hk.2 ▸ hk.1) ⟨rfl, rfl⟩
    rw [hrun] at hends
    exact hends.2.returned

/-- A task that belongs to no service. -/
def attachmentTask : Json :=
  .obj [("ID", .str "x7"), ("Spec", .obj [("NetworkAttachmentSpec", .obj [])])]

/-- The answer with that task alone. -/
def attachmentTasks : Response := rewriteResponse (.arr [attachmentTask]) 200

/-- **A counterexample**: without an identifier a resource is left out also
for an administrator. -/
theorem not_keepsEveryResource :
    ¬ ∀ (K : Listed) (t : Transport) (userID : UserID) (rcs : List ResourceControl)
        (sent answer : Response) (w w' : Sys Callee DataStore) (data : List Json),
      (K.operation t sent.received ⟨⟨true, userID, [], rcs⟩, none⟩).run w = (.ok answer, w') →
        K.list sent = some data →
          ∃ kept, K.list answer.returned = some kept ∧
            List.Forall₂ (SameBut ["Portainer"]) data kept := by
  intro h
  have hrun : (taskListOperation (labelled []) attachmentTasks.received ⟨⟨true, 1, [], []⟩, none⟩).run
      (.faultless {}) = (.ok (rewriteResponse (.arr []) 200), .faultless {}) := rfl
  obtain ⟨kept, hkept, hall⟩ := h .task (labelled []) 1 [] attachmentTasks _ (.faultless {}) _
    [attachmentTask] hrun rfl
  obtain rfl : [] = kept := Option.some.inj hkept
  cases hall

end DockerProxy

end Portainer
