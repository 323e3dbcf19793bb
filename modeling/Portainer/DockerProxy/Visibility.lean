import Portainer.DockerProxy.Helpers.Open
/-!
# Visibility — what a user sees and what they may act on

Which resource control an object in an answer is shown under is found in
the object's labels by `findResourceControl`; which one lets a request pass
is found by `effectiveResourceControl` in the labels the daemon reports.
The two go through the labels differently. `visibility_iff` says on which
resources they lead to the same decision.
-/

namespace Portainer

namespace DockerProxy

open Json (Object)

/-! ## A resource, as the daemon shows it -/

/-- What the proxy goes by for a resource: its kind, the identifier its
resource control has, the one Docker has, its name and its labels. -/
structure Resource where
  kind : ResourceControlType
  resourceID : String
  dockerID : String
  name : String
  labels : Labels

/-- The kinds of resources the proxy handles. -/
def handledKinds : List ResourceControlType :=
  [.container, .service, .volume, .network, .secret, .config]

/-- The objects of a list of resources. -/
def listParameters : ResourceControlType → ResourceOperationParameters
  | .container => containerListParameters
  | .service => serviceParameters
  | .volume => volumeParameters
  | .network => networkParameters
  | .secret => secretParameters
  | _ => configParameters

/-- The object of an inspection. -/
def inspectParameters : ResourceControlType → ResourceOperationParameters
  | .container => containerInspectParameters
  | kind => listParameters kind

/-- An object has these labels at the end of a path of properties. Where a
property is missing there are none. -/
def ShowsLabels : List String → Object → Labels → Prop
  | [], object, labels => ∀ k, object.get k = ((lastOf labels k).map Json.str).getD .null
  | property :: properties, object, labels =>
    (object.get property = .null ∧ labels = []) ∨
      ∃ inner, object.get property = .obj inner ∧ ShowsLabels properties inner labels

/-- The daemon shows a resource as this object, with its labels where the
parameters look for them. -/
structure Displays (parameters : ResourceOperationParameters) (properties : List String)
    (r : Resource) (object : Object) : Prop where
  selector : parameters.labelsObjectSelector = selectLabels properties
  kind : parameters.resourceType = r.kind
  identifier : object.get parameters.resourceIdentifierAttribute = .str r.resourceID
  name : r.kind = .network → object.get "Name" = .str r.name
  labelled : ShowsLabels properties object r.labels
  plain : object.get "Portainer" = .null

/-- The object of a resource in a list. -/
def Lists (r : Resource) : Object → Prop :=
  Displays (listParameters r.kind) (if r.kind ∈ [.container, .volume, .network] then ["Labels"]
    else ["Spec", "Labels"]) r

/-- The object of a resource in an inspection. -/
def Shows (r : Resource) : Object → Prop :=
  Displays (inspectParameters r.kind) (if r.kind = .container then ["Config", "Labels"]
    else if r.kind ∈ [.volume, .network] then ["Labels"] else ["Spec", "Labels"]) r

/-- The labels say nothing about access. -/
def NoAccessLabels (labels : Labels) : Prop :=
  ∀ k ∈ [resourceLabelForPortainerPublicResourceControl,
    resourceLabelForPortainerTeamResourceControl, resourceLabelForPortainerUserResourceControl],
    lastOf labels k = none

/-- A list of the daemon that has the resource in it. Its objects are
resources of the kind, and no other has the identifier. -/
structure Listing (r : Resource) (objects : List Object) : Prop where
  member : ∃ object ∈ objects, Lists r object
  objects : ∀ object ∈ objects, ∃ r', r'.kind = r.kind ∧ Lists r' object ∧
    (r'.resourceID = r.resourceID → r' = r)

/-- The Docker client of the node a request is for finds the resource. -/
structure Reported (t : Transport) (node : String) (r : Resource) : Prop where
  client : node ≠ "" → t.daemon.createClient node = .ok ()
  identifier : r.dockerID ≠ ""
  labels : t.daemon.inspect node r.kind r.dockerID = .ok r.labels

/-! ## Seeing and acting -/

/-- The user finds the resource in the filtered list. -/
def VisibleInList (t : Transport) (db : DataStore) (userID : UserID) (r : Resource)
    (objects : List Object) : Prop :=
  ∃ kept w, (applyAccessControlOnResourceList t (listParameters r.kind) (objects.map .obj)
      { operationContext := regularContext userID (db.userTeamIDs userID) db.resourceControl.all
        }).run (.faultless db) = (.ok kept, w) ∧
    ∃ object, .obj object ∈ kept ∧
      Object.get object (listParameters r.kind).resourceIdentifierAttribute = .str r.resourceID

/-- The user is shown the resource. -/
def VisibleInInspection (t : Transport) (db : DataStore) (userID : UserID) (r : Resource)
    (object : Object) (response : Response) : Prop :=
  ∃ shown w, (applyAccessControlOnResource t (inspectParameters r.kind) object response
      { operationContext := regularContext userID (db.userTeamIDs userID) db.resourceControl.all
        }).run (.faultless db) = (.ok (rewriteResponse (.obj shown) 200), w)

/-- A request of the user on the resource is forwarded. -/
def MayAct (t : Transport) (db : DataStore) (request : Request) (r : Resource) : Prop :=
  ((restrictedResourceOperation t request r.resourceID r.dockerID r.kind false).run
    (.faultless { dataStore := db })).2.store.forwarded = [request]

/-! ## The two resolutions -/

/-- The stored resource control a label leads to. -/
def labelControl (labels : Labels) (label : String) (toID : String → String)
    (kind : ResourceControlType) (rcs : List ResourceControl) : Option ResourceControl :=
  (lastOf labels label).bind fun name =>
    getResourceControlByResourceIDAndType (toID name) kind rcs

section Resolutions

variable (endpointID : EndpointID) (rcs : List ResourceControl) (r : Resource)

def ownControl : Option ResourceControl :=
  getResourceControlByResourceIDAndType r.resourceID r.kind rcs

def serviceControl : Option ResourceControl :=
  labelControl r.labels resourceLabelForDockerServiceID id .service rcs

def swarmStackControl : Option ResourceControl :=
  labelControl r.labels resourceLabelForDockerSwarmStackName (stackResourceControlID endpointID)
    .stack rcs

def composeStackControl : Option ResourceControl :=
  labelControl r.labels resourceLabelForDockerComposeStackName (stackResourceControlID endpointID)
    .stack rcs

/-- A network that comes with Docker. -/
def Resource.System : Prop :=
  r.kind = .network ∧ (r.name = "bridge" ∨ r.name = "host" ∨ r.name = "none")

instance : Decidable r.System := by
  unfold Resource.System
  infer_instance

/-- What an answer goes by. -/
def shownControl : Option ResourceControl :=
  (ownControl rcs r).or <| (serviceControl rcs r).or <|
    (swarmStackControl endpointID rcs r).or (composeStackControl endpointID rcs r)

/-- What a request goes by. -/
def actedControl : Option ResourceControl :=
  (ownControl rcs r).or (inheritedResourceControl r.kind endpointID r.labels rcs)

/-- **The two resolutions agree** for a user, case by case in the order an
answer looks: the first control it finds is one a request finds as well, or
gives the same access as the control of the stack, which is the only other
one a request may find. -/
def Agrees (can : ResourceControl → Bool) : Prop :=
  let stack := (stackResourceControl endpointID r.labels rcs).any can
  match ownControl rcs r with
  | some rc => r.System → can rc
  | none =>
    if r.System then stack = true
    else match serviceControl rcs r with
      | some rc =>
        (r.kind = .container ∧ r.labels.get resourceLabelForDockerServiceID ≠ "") ∨ can rc = stack
      | none =>
        match swarmStackControl endpointID rcs r with
        | some rc => r.labels.get resourceLabelForDockerSwarmStackName ≠ "" ∨ can rc = stack
        | none =>
          match composeStackControl endpointID rcs r with
          | some rc =>
            (r.labels.get resourceLabelForDockerSwarmStackName = "" ∧
              r.labels.get resourceLabelForDockerComposeStackName ≠ "") ∨ can rc = false
          | none => True

end Resolutions

/-! ## Runs in which no call fails -/

/-- A local part that makes no call has one result in every run. -/
def Yields {α : Type} (x : Local α) (a : α) : Prop := ∀ w, x.run w = (.ok a, w)

/-- A local part succeeds when no call fails, with such a result. -/
def Completes {α : Type} (P : α → Prop) (x : Local α) : Prop :=
  ∀ db, ∃ a db', x.run (.faultless db) = (.ok a, .faultless db') ∧ P a

section Yields

variable {α β : Type} {P : α → Prop} {Q : β → Prop}

theorem yields_pure {a : α} : Yields (pure a) a := fun _ => rfl

theorem yields_bind {x : Local α} {f : α → Local β} {a : α} {b : β} (hx : Yields x a)
    (hf : Yields (f a) b) : Yields (x >>= f) b := by
  intro w
  rw [Action.bind_run_of_ok (hx w)]
  exact hf w

theorem Yields.completes {x : Local α} {a : α} (hx : Yields x a) (h : P a) : Completes P x :=
  fun db => ⟨a, db, hx _, h⟩

theorem completes_pure {a : α} (h : P a) : Completes P (pure a) := yields_pure.completes h

theorem completes_bind {x : Local α} {f : α → Local β} (hx : Completes P x)
    (hf : ∀ a, P a → Completes Q (f a)) : Completes Q (x >>= f) := by
  intro db
  obtain ⟨a, db₁, hrun, ha⟩ := hx db
  obtain ⟨b, db₂, hrun', hb⟩ := hf a ha db₁
  exact ⟨b, db₂, by rw [Action.bind_run_of_ok hrun]; exact hrun', hb⟩

theorem completes_yields_bind {x : Local α} {f : α → Local β} {a : α} (hx : Yields x a)
    (hf : Completes Q (f a)) : Completes Q (x >>= f) := by
  refine completes_bind (hx.completes rfl) fun b hb => ?_
  obtain rfl : a = b := hb
  exact hf

theorem Completes.mono {P' : α → Prop} {x : Local α} (hx : Completes P x) (h : ∀ a, P a → P' a) :
    Completes P' x := by
  intro db
  obtain ⟨a, db', hrun, ha⟩ := hx db
  exact ⟨a, db', hrun, h a ha⟩

/-- A read of one object, whose error is passed over. -/
theorem completes_attempt_readObject {f : DataStore → Option α} :
    Completes (fun _ => True) (Action.attempt (readObject f)) := by
  intro db
  have hread : ∃ r, (readObject f).run (.faultless db) = (r, .faultless db) := by
    unfold readObject Action.lookup
    rw [Action.bind_run_of_ok (Action.query_run_faultless _ _)]
    cases f db with
    | none => exact ⟨_, rfl⟩
    | some a => exact ⟨_, rfl⟩
  obtain ⟨r, hr⟩ := hread
  refine ⟨r, db, ?_, trivial⟩
  rw [Action.attempt_run, hr]

theorem yields_asString {v : Json} {s : String} (h : v = .str s) : Yields (asString v) s := by
  rw [h]
  exact yields_pure

end Yields

/-! ## What an answer goes by -/

section Answer

variable {t : Transport} {rcs : List ResourceControl} {labels : Labels} {object : Object}

/-- The labels object has the labels. -/
def HasLabels (labels : Labels) : Option Object → Prop
  | none => labels = []
  | some object => ShowsLabels [] object labels

theorem yields_selectLabels {properties : List String} (h : ShowsLabels properties object labels) :
    ∃ found, Yields (selectLabels properties object) found ∧ HasLabels labels found := by
  induction properties generalizing object with
  | nil => exact ⟨some object, yields_pure, h⟩
  | cons property properties ih =>
    obtain ⟨hnull, hnone⟩ | ⟨inner, hinner, hlabels⟩ := h
    · refine ⟨none, ?_, hnone⟩
      unfold selectLabels getJSONObject
      rw [hnull]
      exact yields_pure
    · obtain ⟨found, hyields, hfound⟩ := ih hlabels
      refine ⟨found, ?_, hfound⟩
      unfold selectLabels getJSONObject
      rw [hinner]
      exact yields_bind (a := some inner) yields_pure hyields

theorem yields_resourceControlOfLabel {label : String} {toID : String → String}
    {kind : ResourceControlType} (h : ShowsLabels [] object labels) :
    Yields (resourceControlOfLabel object label toID kind rcs)
      (labelControl labels label toID kind rcs) := by
  have hlabel := h label
  unfold resourceControlOfLabel labelControl
  rw [hlabel]
  cases lastOf labels label with
  | none => exact yields_pure
  | some name => exact yields_pure

theorem completes_orElse {x y : Local (Option ResourceControl)}
    {found found' : Option ResourceControl} {C : Prop} (hx : Yields x found)
    (hy : Completes (fun rc => C → rc = found') y) :
    Completes (fun rc => C → rc = found.or found') (orElse x y) := by
  refine completes_yields_bind hx ?_
  cases found with
  | none => exact hy
  | some rc => exact completes_pure fun _ => rfl

theorem completes_knownIDs {α : Type} {byName : DataStore → String → Option α} {id : α → Int}
    {names : List String} : Completes (fun _ => True) (knownIDs byName id names) := by
  induction names with
  | nil => exact completes_pure trivial
  | cons name names ih =>
    refine completes_bind completes_attempt_readObject fun found _ => ?_
    refine completes_bind ih fun ids _ => ?_
    cases found with
    | error e => exact completes_pure trivial
    | ok a => exact completes_pure trivial

theorem completes_createResourceControl {rc : ResourceControl} :
    Completes (fun _ => True) (createResourceControl rc) := by
  intro db
  have hwrite : (write fun db => db.createResourceControl rc).run (.faultless db) =
      (.ok (), .faultless (db.createResourceControl rc)) := Action.call_run_faultless _ _
  have hnext : (Action.get fun db : DataStore => db.resourceControl.next : Local _).run
      (.faultless db) = (.ok db.resourceControl.next, .faultless db) := rfl
  refine ⟨{ rc with id := db.resourceControl.next }, db.createResourceControl rc, ?_, trivial⟩
  unfold createResourceControl
  rw [Action.bind_run_of_ok hnext, Action.bind_run_of_ok hwrite]
  rfl

theorem completes_some {x : Local ResourceControl} (hx : Completes (fun _ => True) x) :
    Completes (fun _ => True) (some <$> x) := by
  exact completes_bind (f := fun rc => pure (some rc)) hx fun _ _ => completes_pure trivial

/-- The names in a label. -/
theorem completes_labelNames {label : String} (h : ShowsLabels [] object labels) :
    Completes (fun names => lastOf labels label = none → names = []) (labelNames object label) := by
  have hlabel := h label
  unfold labelNames
  rw [hlabel]
  cases lastOf labels label with
  | none => exact completes_pure fun _ => rfl
  | some name => exact completes_pure fun h => nomatch h

/-- Without labels about access no resource control is made. -/
theorem completes_newResourceControlFromPortainerLabels {resourceID : String}
    {kind : ResourceControlType} (h : ShowsLabels [] object labels) :
    Completes (fun found => NoAccessLabels labels → found = none)
      (newResourceControlFromPortainerLabels t object resourceID kind) := by
  unfold newResourceControlFromPortainerLabels
  by_cases hpublic : (object.get resourceLabelForPortainerPublicResourceControl).isNull
  · rw [if_neg (by simp [hpublic])]
    refine completes_bind (completes_labelNames h) fun teamNames hteams => ?_
    refine completes_bind (completes_labelNames h) fun userNames husers => ?_
    by_cases hnames : teamNames.length > 0 ∨ userNames.length > 0
    · rw [if_pos hnames]
      refine completes_bind completes_knownIDs fun teamIDs _ => ?_
      refine completes_bind completes_knownIDs fun userIDs _ => ?_
      refine (completes_some completes_createResourceControl).mono fun found _ hno => ?_
      have hnoTeams := hteams (hno _ (by simp))
      have hnoUsers := husers (hno _ (by simp))
      rw [hnoTeams, hnoUsers] at hnames
      exact absurd hnames (by simp)
    · rw [if_neg hnames]
      exact completes_pure fun _ => rfl
  · rw [if_pos (by simp [hpublic])]
    refine (completes_some completes_createResourceControl).mono fun found _ hno => ?_
    refine absurd ?_ hpublic
    have hnone := hno _ List.mem_cons_self
    rw [h, hnone]
    rfl

/-- **What an object is shown under.** -/
theorem completes_findResourceControl {r : Resource} {found : Option Object}
    (h : HasLabels r.labels found) :
    Completes (fun rc => NoAccessLabels r.labels → rc = shownControl t.endpoint.id rcs r)
      (findResourceControl t r.resourceID r.kind found rcs) := by
  unfold findResourceControl shownControl
  cases hown : getResourceControlByResourceIDAndType r.resourceID r.kind rcs with
  | some rc =>
    rw [show ownControl rcs r = some rc from hown]
    exact completes_pure fun _ => rfl
  | none =>
    rw [show ownControl rcs r = none from hown, Option.none_or]
    cases found with
    | none =>
      have hlabels : r.labels = [] := h
      unfold serviceControl swarmStackControl composeStackControl
      rw [hlabels]
      exact completes_pure fun _ => rfl
    | some labels =>
      have hlast : composeStackControl t.endpoint.id rcs r =
          (composeStackControl t.endpoint.id rcs r).or none := by simp
      rw [hlast]
      exact completes_orElse (yields_resourceControlOfLabel h) <|
        completes_orElse (yields_resourceControlOfLabel h) <|
        completes_orElse (yields_resourceControlOfLabel h)
          (completes_newResourceControlFromPortainerLabels h)

/-- A system network, or none. -/
theorem yields_systemResourceControl {parameters : ResourceOperationParameters}
    {properties : List String} {r : Resource} (h : Displays parameters properties r object)
    (hid : r.kind = .network → parameters.resourceIdentifierAttribute = "Id") :
    Yields (systemResourceControl parameters object)
      (if r.System then some (newSystemResourceControl r.resourceID .network) else none) := by
  unfold systemResourceControl
  rw [h.kind]
  by_cases hkind : r.kind = .network
  · have hname := h.name hkind
    have hidentifier : object.get "Id" = .str r.resourceID := hid hkind ▸ h.identifier
    have hsystem : r.System ↔ r.name = "bridge" ∨ r.name = "host" ∨ r.name = "none" :=
      ⟨fun hs => hs.2, fun hs => ⟨hkind, hs⟩⟩
    unfold findSystemNetworkResourceControl
    rw [if_pos hkind, hname, hidentifier, if_neg (by simp [Json.isNull])]
    simp only [hsystem]
    exact yields_bind (yields_asString rfl) (yields_bind (yields_asString rfl) yields_pure)
  · have hsystem : ¬ r.System := fun hs => hkind hs.1
    rw [if_neg hkind, if_neg hsystem]
    exact yields_pure

theorem yields_decorateObject (rc : ResourceControl) (h : object.get "Portainer" = .null) :
    ∃ shown, Yields (decorateObject object rc) shown ∧
      ∀ k, k ≠ "Portainer" → Object.get shown k = object.get k := by
  refine ⟨_, ?_, fun k hk => Object.get_set_of_ne (v := .obj (Object.set []
    "ResourceControl" (resourceControlJSON rc))) hk.symm⟩
  unfold decorateObject
  rw [h]
  exact yields_bind (a := []) yields_pure yields_pure

/-- The user sees the resource. -/
def Visible (endpointID : EndpointID) (rcs : List ResourceControl) (r : Resource)
    (can : ResourceControl → Bool) : Prop :=
  r.System ∨ (shownControl endpointID rcs r).any can

variable {userID : UserID} {teams : List TeamID} {parameters : ResourceOperationParameters}
variable {properties : List String} {r : Resource}

/-- The parameters of an answer are those of the resource's kind: networks
go by their `Id`, and nothing by the member the proxy adds. -/
structure Fits (parameters : ResourceOperationParameters) (kind : ResourceControlType) : Prop where
  network : kind = .network → parameters.resourceIdentifierAttribute = "Id"
  attr : parameters.resourceIdentifierAttribute ≠ "Portainer"

/-- The labels of an object and the resource control it is shown under. -/
theorem completes_resolution (t : Transport) (rcs : List ResourceControl)
    (h : Displays parameters properties r object) :
    ∃ found, Yields (parameters.labelsObjectSelector object) found ∧
      Completes (fun rc => NoAccessLabels r.labels → rc = shownControl t.endpoint.id rcs r)
        (findResourceControl t r.resourceID parameters.resourceType found rcs) := by
  obtain ⟨found, hselected, hfound⟩ := yields_selectLabels h.labelled
  refine ⟨found, ?_, ?_⟩
  · rw [h.selector]
    exact hselected
  · rw [h.kind]
    exact completes_findResourceControl hfound

theorem Displays.present (h : Displays parameters properties r object) :
    ¬ (object.get parameters.resourceIdentifierAttribute).isNull := by
  rw [h.identifier]
  simp [Json.isNull]

/-- What is kept of one element of a list: the resource or nothing, and
which of the two is known if the labels say nothing about access. -/
def Kept (endpointID : EndpointID) (rcs : List ResourceControl) (can : ResourceControl → Bool)
    (attr : String) (r : Resource) (kept : List Json) : Prop :=
  (kept = [] ∧ (NoAccessLabels r.labels → ¬ Visible endpointID rcs r can)) ∨
    ((∃ shown, kept = [.obj shown] ∧ Object.get shown attr = .str r.resourceID) ∧
      (NoAccessLabels r.labels → Visible endpointID rcs r can))

/-- **One element of a list** is kept if the user sees the resource. -/
theorem completes_filterResource (t : Transport) (rcs : List ResourceControl) (userID : UserID)
    (teams : List TeamID) (h : Displays parameters properties r object)
    (hfits : Fits parameters r.kind) :
    Completes (Kept t.endpoint.id rcs (userCanAccessResource userID teams)
        parameters.resourceIdentifierAttribute r)
      (filterResource t parameters (regularContext userID teams rcs) (.obj object)) := by
  obtain ⟨found, hselect, hcontrol⟩ := completes_resolution t rcs h
  have hsystem := yields_systemResourceControl h hfits.network
  -- the identifier, the labels and the system network come first
  refine completes_yields_bind (a := object) yields_pure ?_
  rw [if_neg h.present]
  refine completes_yields_bind (yields_asString h.identifier) (completes_yields_bind hselect ?_)
  refine completes_yields_bind hsystem ?_
  by_cases hs : r.System
  · rw [if_pos hs]
    obtain ⟨shown, hshown, hget⟩ :=
      yields_decorateObject (newSystemResourceControl r.resourceID .network) h.plain
    refine completes_yields_bind hshown (completes_pure (.inr ⟨⟨shown, rfl, ?_⟩, fun _ => .inl hs⟩))
    exact (hget _ hfits.attr).trans h.identifier
  · rw [if_neg hs]
    refine completes_bind hcontrol fun rc hrc => ?_
    have hvisible : NoAccessLabels r.labels → (Visible t.endpoint.id rcs r
        (userCanAccessResource userID teams) ↔ rc.any (userCanAccessResource userID teams)) := by
      intro hno
      rw [hrc hno]
      exact ⟨fun hv => hv.resolve_left hs, .inr⟩
    cases rc with
    | none => exact completes_pure (.inl ⟨rfl, fun hno hv => nomatch (hvisible hno).mp hv⟩)
    | some rc =>
      by_cases hcan : userCanAccessResource userID teams rc
      · obtain ⟨shown, hshown, hget⟩ := yields_decorateObject rc h.plain
        show Completes _ (if userCanAccessResource userID teams rc then _ else _)
        rw [if_pos hcan]
        refine completes_yields_bind hshown (completes_pure (.inr ⟨⟨shown, rfl, ?_⟩, fun hno => ?_⟩))
        · exact (hget _ hfits.attr).trans h.identifier
        · exact (hvisible hno).mpr hcan
      · show Completes _ (if userCanAccessResource userID teams rc then _ else _)
        rw [if_neg hcan]
        exact completes_pure (.inl ⟨rfl, fun hno hv => hcan ((hvisible hno).mp hv)⟩)

theorem completes_decideOnResource (userID : UserID) (teams : List TeamID)
    (rcs : List ResourceControl) (found : Option ResourceControl)
    (h : object.get "Portainer" = .null) :
    Completes (fun answer => (∃ shown, answer = rewriteResponse (.obj shown) 200) ↔
        found.any (userCanAccessResource userID teams))
      (decideOnResource object (regularContext userID teams rcs) found) := by
  have hdenied : ¬ ∃ shown, accessDeniedResponse = rewriteResponse (.obj shown) 200 := by
    rintro ⟨shown, hshown⟩
    have hstatus : (403 : ℕ) = 200 := congrArg Response.statusCode hshown
    omega
  cases found with
  | none => exact completes_pure ⟨fun h => absurd h hdenied, fun h => nomatch h⟩
  | some rc =>
    by_cases hcan : userCanAccessResource userID teams rc
    · obtain ⟨shown, hshown, -⟩ := yields_decorateObject rc h
      show Completes _ (if userCanAccessResource userID teams rc then _ else _)
      rw [if_pos hcan]
      exact completes_yields_bind hshown (completes_pure ⟨fun _ => hcan, fun _ => ⟨shown, rfl⟩⟩)
    · show Completes _ (if userCanAccessResource userID teams rc then _ else _)
      rw [if_neg hcan]
      exact completes_pure ⟨fun h => absurd h hdenied, fun h => absurd h hcan⟩

/-- **An inspection** shows the resource if the user sees it. -/
theorem completes_applyAccessControlOnResource (t : Transport) (rcs : List ResourceControl)
    (userID : UserID) (teams : List TeamID) (response : Response)
    (h : Displays parameters properties r object) (hfits : Fits parameters r.kind)
    (hno : NoAccessLabels r.labels) :
    Completes (fun answer => (∃ shown, answer = rewriteResponse (.obj shown) 200) ↔
        Visible t.endpoint.id rcs r (userCanAccessResource userID teams))
      (applyAccessControlOnResource t parameters object response
        ⟨regularContext userID teams rcs, none⟩) := by
  obtain ⟨found, hselect, hcontrol⟩ := completes_resolution t rcs h
  have hsystem := yields_systemResourceControl h hfits.network
  unfold applyAccessControlOnResource
  rw [if_neg h.present]
  refine completes_yields_bind hsystem ?_
  by_cases hs : r.System
  · rw [if_pos hs]
    obtain ⟨shown, hshown, -⟩ :=
      yields_decorateObject (newSystemResourceControl r.resourceID .network) h.plain
    exact completes_yields_bind hshown (completes_pure ⟨fun _ => .inl hs, fun _ => ⟨shown, rfl⟩⟩)
  · rw [if_neg hs]
    refine completes_yields_bind (yields_asString h.identifier) (completes_yields_bind hselect ?_)
    refine completes_bind hcontrol fun rc hrc => ?_
    refine (completes_decideOnResource userID teams rcs rc h.plain).mono fun answer hanswer => ?_
    rw [hanswer, hrc hno]
    exact ⟨.inr, fun hv => hv.resolve_left hs⟩

/-- **A list** has the resource if the user sees it: by induction on the
objects, of which one displays it. -/
theorem completes_filterResourceList (t : Transport) (rcs : List ResourceControl) (userID : UserID)
    (teams : List TeamID) {objects : List Object} (hfits : Fits parameters r.kind)
    (hno : NoAccessLabels r.labels)
    (h : ∀ object ∈ objects, ∃ r', r'.kind = r.kind ∧ Displays parameters properties r' object ∧
      (r'.resourceID = r.resourceID → r' = r)) :
    Completes (fun kept => (∃ shown, .obj shown ∈ kept ∧
          Object.get shown parameters.resourceIdentifierAttribute = .str r.resourceID) ↔
        Visible t.endpoint.id rcs r (userCanAccessResource userID teams) ∧
          ∃ object ∈ objects, Displays parameters properties r object)
      (filterResourceList t parameters (objects.map .obj) (regularContext userID teams rcs)) := by
  induction objects with
  | nil => exact completes_pure (by simp)
  | cons object objects ih =>
    obtain ⟨r', hkind, hdisplays, hunique⟩ := h object List.mem_cons_self
    refine completes_bind (completes_filterResource t rcs userID teams hdisplays (hkind ▸ hfits))
      fun kept hkept => ?_
    refine completes_bind (ih fun o ho => h o (List.mem_cons_of_mem _ ho)) fun rest hrest => ?_
    refine completes_pure ?_
    have hsame : Displays parameters properties r object → r' = r := by
      intro hr
      have hids : Json.str r'.resourceID = .str r.resourceID :=
        hdisplays.identifier.symm.trans hr.identifier
      exact hunique (by simpa using hids)
    have hone : (∃ shown, .obj shown ∈ kept ∧
        Object.get shown parameters.resourceIdentifierAttribute = .str r.resourceID) ↔
        Visible t.endpoint.id rcs r (userCanAccessResource userID teams) ∧
          Displays parameters properties r object := by
      obtain ⟨rfl, hinvisible⟩ | ⟨⟨shown, rfl, hshown⟩, hvisible⟩ := hkept
      · constructor
        · rintro ⟨shown', hmem, -⟩
          nomatch hmem
        · rintro ⟨hvisible, hr⟩
          obtain rfl := hsame hr
          exact absurd hvisible (hinvisible hno)
      · constructor
        · rintro ⟨shown', hmem, hid⟩
          obtain rfl : shown' = shown := by simpa using hmem
          have hids : Json.str r'.resourceID = .str r.resourceID := hshown.symm.trans hid
          obtain rfl := hunique (by simpa using hids)
          exact ⟨hvisible hno, hdisplays⟩
        · rintro ⟨-, hr⟩
          obtain rfl := hsame hr
          exact ⟨shown, List.mem_singleton_self _, hshown⟩
    simp only [List.mem_append, or_and_right, exists_or, List.mem_cons, exists_eq_left, and_or_left]
    rw [hone, hrest]

end Answer

/-! ## What a request goes by -/

section Acting

variable {t : Transport} {db : DataStore} {request : Request} {tokenData : TokenData}
variable {r : Resource}

theorem clientFor_run {node : String} (h : node ≠ "" → t.daemon.createClient node = .ok ()) :
    Yields (clientFor t node) node := by
  unfold clientFor
  split
  · rename_i hnode
    rw [hnode]
    exact yields_pure
  · rename_i hnode
    rw [h hnode]
    exact yields_bind (a := ()) yields_pure yields_pure

/-- **What lets a request pass.** -/
theorem yields_effectiveResourceControl {rcs : List ResourceControl}
    (h : Reported t request.agentTarget r) :
    Yields (effectiveResourceControl t request r.resourceID r.dockerID r.kind rcs)
      (actedControl t.endpoint.id rcs r) := by
  have hinherited : Yields (inheritedFromLabels (inheritedResourceControl r.kind) r.kind t
      request.agentTarget r.dockerID rcs)
      (inheritedResourceControl r.kind t.endpoint.id r.labels rcs) := by
    unfold inheritedFromLabels
    rw [h.labels]
    exact yields_bind (a := r.labels) yields_pure yields_pure
  unfold effectiveResourceControl actedControl
  cases hown : getResourceControlByResourceIDAndType r.resourceID r.kind rcs with
  | some rc =>
    rw [show ownControl rcs r = some rc from hown]
    exact yields_pure
  | none =>
    rw [show ownControl rcs r = none from hown, if_neg h.identifier, Option.none_or]
    refine yields_bind (clientFor_run h.client) ?_
    revert hinherited
    cases r.kind with
    | container => exact id
    | service => exact id
    | volume => exact id
    | network => exact id
    | secret => exact id
    | config => exact id
    | stack => exact fun _ => yields_pure
    | customTemplate => exact fun _ => yields_pure
    | containerGroup => exact fun _ => yields_pure

/-- **Which requests are forwarded.** -/
theorem mayAct_iff (htoken : request.token = some tokenData)
    (hrole : tokenData.role ≠ .administrator) (h : Reported t request.agentTarget r) :
    MayAct t db request r ↔ (actedControl t.endpoint.id db.resourceControl.all r).any
      (userCanAccessResource tokenData.id (db.userTeamIDs tokenData.id)) := by
  have hallowed : (regularUserAllowed t request tokenData r.resourceID r.dockerID r.kind false).run
      (.faultless db) = (.ok ((actedControl t.endpoint.id db.resourceControl.all r).any
        (userCanAccessResource tokenData.id (db.userTeamIDs tokenData.id))), .faultless db) := by
    unfold regularUserAllowed allowsVolumeBrowser read
    rw [if_neg (by decide), Action.bind_run_of_ok (yields_pure (a := true) _), if_neg (by decide),
      Action.bind_run_of_ok (Action.query_run_faultless _ _),
      Action.bind_run_of_ok (Action.query_run_faultless _ _),
      Action.bind_run_of_ok (yields_effectiveResourceControl h _)]
    rfl
  have hretrieve : (retrieveTokenData request).run (.faultless db) =
      (.ok tokenData, .faultless db) := by
    unfold retrieveTokenData
    rw [htoken]
    rfl
  have hstate : ∀ {α : Type} {x : Local α} {a : α}, x.run (.faultless db) = (.ok a, .faultless db) →
      (liftM x : Proxy α).run (.faultless { dataStore := db }) =
        (.ok a, .faultless { dataStore := db }) :=
    fun hx => onDataStore_run_faultless hx
  unfold MayAct restrictedResourceOperation
  rw [Action.bind_run_of_ok (hstate hretrieve), if_neg hrole,
    Action.bind_run_of_ok (hstate hallowed)]
  split
  · rename_i hcan
    obtain ⟨w', hrun, hf, -⟩ :=
      executeDockerRequest_run (w := .faultless { dataStore := db }) t request
    rw [hrun, hf]
    simp [ProxyState.forwarded, hcan]
  · rename_i hcan
    simp [ProxyState.forwarded, hcan]

end Acting

/-! ## Agreement -/

section Agreement

variable {t : Transport} {db : DataStore} {request : Request} {tokenData : TokenData}
variable {r : Resource} {objects : List Object} {object : Object} {response : Response}

theorem Displays.handled {parameters : ResourceOperationParameters} {properties : List String}
    (h : Displays parameters properties r object)
    (hparameters : parameters.resourceType ∈ handledKinds) : r.kind ∈ handledKinds := by
  rw [← h.kind]
  exact hparameters

theorem fits_listParameters {kind : ResourceControlType} : Fits (listParameters kind) kind := by
  constructor
  · rintro rfl
    rfl
  · cases kind <;> decide

theorem fits_inspectParameters {kind : ResourceControlType} : Fits (inspectParameters kind) kind := by
  constructor
  · rintro rfl
    rfl
  · cases kind <;> decide

theorem visibleInList_iff {userID : UserID} (h : Listing r objects)
    (hno : NoAccessLabels r.labels) :
    VisibleInList t db userID r objects ↔ Visible t.endpoint.id db.resourceControl.all r
      (userCanAccessResource userID (db.userTeamIDs userID)) := by
  have hcompletes := completes_filterResourceList t db.resourceControl.all userID
    (db.userTeamIDs userID) fits_listParameters hno fun o ho => by
      obtain ⟨r', hsame, hlists, hunique⟩ := h.objects o ho
      unfold Lists at hlists
      rw [hsame] at hlists
      exact ⟨r', hsame, hlists, hunique⟩
  obtain ⟨kept, db', hkept, hiff⟩ := hcompletes db
  constructor
  · rintro ⟨kept', w, hrun, hshown⟩
    obtain ⟨hsame, -⟩ := Prod.mk.inj (hkept.symm.trans hrun)
    obtain rfl := Except.ok.inj hsame
    exact (hiff.mp hshown).1
  · intro hvisible
    exact ⟨kept, _, hkept, hiff.mpr ⟨hvisible, h.member⟩⟩

theorem visibleInInspection_iff {userID : UserID} (h : Shows r object)
    (hno : NoAccessLabels r.labels) :
    VisibleInInspection t db userID r object response ↔
      Visible t.endpoint.id db.resourceControl.all r
        (userCanAccessResource userID (db.userTeamIDs userID)) := by
  obtain ⟨answer, db', hanswer, hiff⟩ := completes_applyAccessControlOnResource t
    db.resourceControl.all userID (db.userTeamIDs userID) response h fits_inspectParameters hno db
  rw [← hiff]
  constructor
  · rintro ⟨shown, w, hrun⟩
    obtain ⟨hsame, -⟩ := Prod.mk.inj (hanswer.symm.trans hrun)
    exact ⟨shown, Except.ok.inj hsame⟩
  · rintro ⟨shown, rfl⟩
    exact ⟨shown, _, hanswer⟩

/-- A label that is set and not empty. -/
theorem labelControl_of_ne {labels : Labels} {label : String} {toID : String → String}
    {kind : ResourceControlType} {rcs : List ResourceControl} (h : labels.get label ≠ "") :
    labelControl labels label toID kind rcs =
      getResourceControlByResourceIDAndType (toID (labels.get label)) kind rcs := by
  unfold labelControl
  unfold Labels.get at h ⊢
  cases hlast : lastOf labels label with
  | none => exact absurd (by rw [hlast]; rfl) h
  | some name => rfl

theorem stackResourceControlID_ne {endpointID : EndpointID} {name : String} :
    stackResourceControlID endpointID name ≠ "" := by
  intro h
  have hlength := congrArg String.length h
  simp only [stackResourceControlID, String.length_append] at hlength
  have hunderscore : (toString "_").length = 1 := rfl
  have hempty : ("" : String).length = 0 := rfl
  omega

variable {endpointID : EndpointID} {rcs : List ResourceControl}

/-- A Swarm stack comes before a Compose project, whether or not it has a
resource control. -/
theorem stackResourceControl_eq : stackResourceControl endpointID r.labels rcs =
    if r.labels.get resourceLabelForDockerSwarmStackName ≠ "" then
      swarmStackControl endpointID rcs r
    else if r.labels.get resourceLabelForDockerComposeStackName ≠ "" then
      composeStackControl endpointID rcs r
    else none := by
  unfold stackResourceControl getStackResourceIDFromLabels
  dsimp only
  by_cases hswarm : r.labels.get resourceLabelForDockerSwarmStackName ≠ ""
  · rw [if_pos hswarm, if_pos hswarm, if_pos stackResourceControlID_ne]
    exact (labelControl_of_ne hswarm).symm
  · rw [if_neg hswarm, if_neg hswarm]
    by_cases hcompose : r.labels.get resourceLabelForDockerComposeStackName ≠ ""
    · rw [if_pos hcompose, if_pos hcompose, if_pos stackResourceControlID_ne]
      exact (labelControl_of_ne hcompose).symm
    · rw [if_neg hcompose, if_neg hcompose, if_neg (by simp)]

/-- Only a container inherits from its service. -/
theorem inheritedResourceControl_eq (hkind : r.kind ∈ handledKinds) :
    inheritedResourceControl r.kind endpointID r.labels rcs =
      if r.kind = .container ∧ r.labels.get resourceLabelForDockerServiceID ≠ "" then
        (serviceControl rcs r).or (stackResourceControl endpointID r.labels rcs)
      else stackResourceControl endpointID r.labels rcs := by
  by_cases hcontainer : r.kind = .container
  · have hinherited : inheritedResourceControl r.kind endpointID r.labels rcs =
        containerResourceControl endpointID r.labels rcs := by
      rw [hcontainer]
      rfl
    rw [hinherited]
    unfold containerResourceControl
    by_cases hservice : r.labels.get resourceLabelForDockerServiceID ≠ ""
    · rw [if_pos ⟨hcontainer, hservice⟩]
      dsimp only
      rw [if_pos hservice]
      have hlabel : serviceControl rcs r = _ := labelControl_of_ne hservice
      rw [hlabel]
      rfl
    · rw [if_neg fun h => hservice h.2]
      dsimp only
      rw [if_neg hservice, Option.none_or]
  · rw [if_neg fun h => hcontainer h.1]
    revert hkind hcontainer
    cases r.kind <;> simp [handledKinds, inheritedResourceControl]

/-- **Both resolutions, case by case.** -/
theorem visible_iff_acted_iff {can : ResourceControl → Bool} (hkind : r.kind ∈ handledKinds) :
    (Visible endpointID rcs r can ↔ (actedControl endpointID rcs r).any can) ↔
      Agrees endpointID rcs r can := by
  unfold Visible Agrees actedControl shownControl
  dsimp only
  cases hown : ownControl rcs r with
  | some rc => simp
  | none =>
    rw [Option.none_or, Option.none_or, inheritedResourceControl_eq hkind]
    dsimp only
    by_cases hs : r.System
    · have hcontainer : ¬ (r.kind = .container ∧
          r.labels.get resourceLabelForDockerServiceID ≠ "") := by
        rintro ⟨hc, -⟩
        rw [hs.1] at hc
        nomatch hc
      rw [if_pos hs, if_neg hcontainer]
      simp [hs]
    · rw [if_neg hs]
      cases hservice : serviceControl rcs r with
      | some rc =>
        by_cases hcontainer : r.kind = .container ∧
            r.labels.get resourceLabelForDockerServiceID ≠ ""
        · rw [if_pos hcontainer]
          simp [hs, hcontainer]
        · rw [if_neg hcontainer]
          simp only [hs, hcontainer, false_or, Option.some_or, Option.any_some]
          exact Bool.coe_iff_coe
      | none =>
        rw [Option.none_or, Option.none_or, ite_self, stackResourceControl_eq]
        cases hswarm : swarmStackControl endpointID rcs r with
        | some rc =>
          by_cases hlabel : r.labels.get resourceLabelForDockerSwarmStackName ≠ ""
          · simp [hs, hlabel]
          · simp only [hs, hlabel, false_or, Option.some_or, Option.any_some]
            exact Bool.coe_iff_coe
        | none =>
          cases hcompose : composeStackControl endpointID rcs r with
          | none => simp [hs]
          | some rc =>
            by_cases hlabel : r.labels.get resourceLabelForDockerSwarmStackName ≠ ""
            · simp [hs, hlabel]
            · have hempty := not_not.mp hlabel
              by_cases hlabel' : r.labels.get resourceLabelForDockerComposeStackName ≠ ""
              · simp [hs, hempty, hlabel']
              · simp [hs, hempty, hlabel']

/-- Where the Swarm stack's control is the first that is found, a request
finds it too. -/
theorem agrees_of_swarmStack {can : ResourceControl → Bool} {rc : ResourceControl}
    (hown : ownControl rcs r = none) (hsystem : ¬ r.System) (hservice : serviceControl rcs r = none)
    (hswarm : swarmStackControl endpointID rcs r = some rc)
    (hlabel : r.labels.get resourceLabelForDockerSwarmStackName ≠ "") :
    Agrees endpointID rcs r can := by
  unfold Agrees
  dsimp only
  rw [hown, hservice, hswarm]
  dsimp only
  rw [if_neg hsystem]
  exact .inl hlabel

/-- **Seeing and acting agree** on a resource exactly when the two
resolutions do. -/
theorem visibility_iff (htoken : request.token = some tokenData)
    (hrole : tokenData.role ≠ .administrator)
    (hno : NoAccessLabels r.labels) (hlisting : Listing r objects) (hshows : Shows r object)
    (hreported : Reported t request.agentTarget r) :
    ((VisibleInList t db tokenData.id r objects ↔ MayAct t db request r) ∧
        (VisibleInInspection t db tokenData.id r object response ↔ MayAct t db request r)) ↔
      Agrees t.endpoint.id db.resourceControl.all r
        (userCanAccessResource tokenData.id (db.userTeamIDs tokenData.id)) := by
  have hkind : r.kind ∈ handledKinds := hshows.handled (by cases r.kind <;> decide)
  rw [visibleInList_iff hlisting hno, visibleInInspection_iff hshows hno,
    mayAct_iff htoken hrole hreported, and_self, visible_iff_acted_iff hkind]

end Agreement

/-! ### A volume of a stack -/

theorem showsLabels_map (labels : Labels) :
    ShowsLabels [] (labels.map fun p => (p.1, Json.str p.2)) labels := by
  intro k
  unfold Object.get
  rw [lastOf_map]

/-- An environment whose daemon reports these labels. -/
def labelled (labels : Labels) : Transport where
  endpoint := { id := 1 }
  daemon :=
    { roundTrip := fun _ => .ok {}
      inspect := fun _ _ _ => .ok labels }

/-- A volume of a Swarm stack, of which no one is in control, that names a
Compose project as well. -/
def volumeOfStack : Resource where
  kind := .volume
  resourceID := "data_node"
  dockerID := "data"
  name := "data"
  labels := [("com.docker.stack.namespace", "web"), ("com.docker.compose.project", "app")]

def volumeObject : Object :=
  [("ResourceID", .str "data_node"), ("Name", .str "data"),
    ("Labels", .obj (volumeOfStack.labels.map fun p => (p.1, .str p.2)))]

theorem displays_volumeObject :
    Displays volumeParameters ["Labels"] volumeOfStack volumeObject where
  selector := rfl
  kind := rfl
  identifier := rfl
  name := fun h => nomatch h
  labelled := .inr ⟨_, rfl, showsLabels_map _⟩
  plain := rfl

theorem listing_volumeObject : Listing volumeOfStack [volumeObject] where
  member := ⟨_, List.mem_singleton_self _, displays_volumeObject⟩
  objects := by
    intro object hobject
    obtain rfl := List.mem_singleton.mp hobject
    exact ⟨_, rfl, displays_volumeObject, fun _ => rfl⟩

theorem reported_volume : Reported (labelled volumeOfStack.labels) "" volumeOfStack :=
  ⟨fun h => absurd rfl h, by decide, rfl⟩

theorem noAccessLabels_volume : NoAccessLabels volumeOfStack.labels := by
  unfold NoAccessLabels
  decide

theorem ownControl_volume {other : String} {kind : ResourceControlType} (h : "data_node" ≠ other) :
    ownControl (controlled other kind).all volumeOfStack = none :=
  get_controlled_of_ne h

theorem serviceControl_volume {rcs : List ResourceControl} :
    serviceControl rcs volumeOfStack = none := rfl

theorem swarmStackControl_volume {rcs : List ResourceControl} :
    swarmStackControl 1 rcs volumeOfStack =
      getResourceControlByResourceIDAndType "1_web" .stack rcs := rfl

theorem composeStackControl_volume {rcs : List ResourceControl} :
    composeStackControl 1 rcs volumeOfStack =
      getResourceControlByResourceIDAndType "1_app" .stack rcs := rfl

/-- With a control on the Swarm stack, seeing and acting agree. -/
theorem visibility_swarmStack :
    (VisibleInList (labelled volumeOfStack.labels) (openStore (controlled "1_web" .stack)) 1
        volumeOfStack [volumeObject] ↔
      MayAct (labelled volumeOfStack.labels) (openStore (controlled "1_web" .stack))
        (plainRequest "DELETE" "/volumes/data".toList) volumeOfStack) ∧
    (VisibleInInspection (labelled volumeOfStack.labels) (openStore (controlled "1_web" .stack)) 1
        volumeOfStack volumeObject {} ↔
      MayAct (labelled volumeOfStack.labels) (openStore (controlled "1_web" .stack))
        (plainRequest "DELETE" "/volumes/data".toList) volumeOfStack) := by
  have htoken : (plainRequest "DELETE" "/volumes/data".toList).token = some { id := 1 } := rfl
  refine (visibility_iff htoken (by decide) noAccessLabels_volume listing_volumeObject
    displays_volumeObject reported_volume).mpr ?_
  obtain ⟨rc, hrc, -⟩ := get_controlled {} "1_web" .stack
  exact agrees_of_swarmStack (ownControl_volume (by decide)) (by decide) serviceControl_volume hrc
    (by decide)

/-- **A counterexample**: with a control on the project alone, the user sees
the volume and may not act on it. -/
theorem not_visibility_composeStack :
    VisibleInList (labelled volumeOfStack.labels) (openStore (controlled "1_app" .stack)) 1
        volumeOfStack [volumeObject] ∧
    VisibleInInspection (labelled volumeOfStack.labels) (openStore (controlled "1_app" .stack)) 1
        volumeOfStack volumeObject {} ∧
    ¬ MayAct (labelled volumeOfStack.labels) (openStore (controlled "1_app" .stack))
        (plainRequest "DELETE" "/volumes/data".toList) volumeOfStack := by
  have htoken : (plainRequest "DELETE" "/volumes/data".toList).token = some { id := 1 } := rfl
  have hshows : Shows volumeOfStack volumeObject := displays_volumeObject
  obtain ⟨rc, hrc, hcan⟩ := get_controlled {} "1_app" .stack
  have hswarm : getResourceControlByResourceIDAndType "1_web" .stack
      (controlled "1_app" .stack).all = none := get_controlled_of_ne (by decide)
  have hown : ownControl (controlled "1_app" .stack).all volumeOfStack = none :=
    ownControl_volume (by decide)
  have hvisible : Visible 1 (controlled "1_app" .stack).all volumeOfStack
      (userCanAccessResource 1 ((openStore (controlled "1_app" .stack)).userTeamIDs 1)) := by
    refine .inr ?_
    unfold shownControl
    rw [hown, serviceControl_volume, swarmStackControl_volume, composeStackControl_volume, hswarm,
      hrc]
    exact hcan
  refine ⟨(visibleInList_iff listing_volumeObject noAccessLabels_volume).mpr hvisible,
    (visibleInInspection_iff hshows noAccessLabels_volume).mpr hvisible, ?_⟩
  rw [mayAct_iff htoken (by decide) reported_volume]
  have hacted : actedControl 1 (controlled "1_app" .stack).all volumeOfStack = none := by
    unfold actedControl
    rw [hown]
    exact hswarm
  show ¬ (actedControl 1 (controlled "1_app" .stack).all volumeOfStack).any _ = true
  rw [hacted]
  simp

end DockerProxy

end Portainer
