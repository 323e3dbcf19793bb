import Portainer.DockerProxy.Helpers.Access
/-!
# Inspection — the check on an answer that shows a resource

An inspection is forwarded first, and the answer is checked: `Covers` says
which resource controls the check may find for the object in it, and
`guardsShown_rewrite` that the user gets the object only if one of
them gives access.
-/

namespace Portainer

namespace DockerProxy

open Json (Object)

variable {α β : Type}

/-! ## Results of local parts -/

section Returns

variable {M : α → Prop} {N : β → Prop}

theorem returns_pure {a : α} (h : M a) : Returns M (pure a) := by
  intro w b w' hr
  obtain ⟨rfl, -⟩ := Action.pure_run_ok.mp hr
  exact h

theorem returns_fail {e : String} : Returns M (Action.fail e) :=
  fun _ _ _ h => absurd h Action.fail_run_ok

theorem returns_bind {x : Local α} {f : α → Local β} (hx : Returns M x)
    (hf : ∀ a, M a → Returns N (f a)) : Returns N (x >>= f) := by
  intro w b w' h
  obtain ⟨a, w₁, h₁, h₂⟩ := Action.bind_run_ok.mp h
  exact hf a (hx _ _ _ h₁) _ _ _ h₂

theorem returns_mapError {x : Local α} {g : String → String} (hx : Returns M x) :
    Returns M (Action.mapError g x) :=
  fun w a w' hr => hx w a w' (Action.mapError_run_ok.mp hr)

theorem returns_any {x : Local α} : Returns (fun _ => True) x := fun _ _ _ _ => trivial

theorem Returns.mono {M' : α → Prop} {x : Local α} (hx : Returns M x) (h : ∀ a, M a → M' a) :
    Returns M' x :=
  fun w a w' hr => h a (hx w a w' hr)

theorem returns_asString {v : Json} : Returns (fun s => v = .str s) (asString v) := by
  cases v with
  | str s => exact returns_pure rfl
  | null => exact returns_fail
  | bool b => exact returns_fail
  | num l => exact returns_fail
  | arr l => exact returns_fail
  | obj o => exact returns_fail

theorem returns_asObject {v : Json} : Returns (fun o => v = .obj o) (asObject v) := by
  cases v with
  | obj o => exact returns_pure rfl
  | null => exact returns_fail
  | bool b => exact returns_fail
  | num l => exact returns_fail
  | arr l => exact returns_fail
  | str s => exact returns_fail

end Returns

/-! ## Where the labels are -/

/-- The object at the end of a path of properties. -/
def objectAt : List String → Object → Option Object
  | [], object => some object
  | property :: properties, object =>
    match object.get property with
    | .obj inner => objectAt properties inner
    | _ => none

theorem returns_selectLabels {properties : List String} {object : Object} :
    Returns (fun labels => labels = objectAt properties object)
      (selectLabels properties object) := by
  induction properties generalizing object with
  | nil => exact returns_pure rfl
  | cons property properties ih =>
    unfold selectLabels getJSONObject objectAt
    refine returns_bind (M := fun inner => object.get property = .null ∧ inner = none ∨
      ∃ o, object.get property = .obj o ∧ inner = some o) ?_ ?_
    · split
      · rename_i h
        refine returns_pure (.inl ⟨?_, rfl⟩)
        cases hv : object.get property with
        | null => rfl
        | _ => rw [hv] at h; nomatch h
      · exact returns_bind returns_asObject fun o ho => returns_pure (.inr ⟨o, ho, rfl⟩)
    · rintro _ (⟨hnull, rfl⟩ | ⟨o, ho, rfl⟩)
      · rw [hnull]
        exact returns_pure rfl
      · rw [ho]
        exact ih

/-! ## Which resource controls an answer leads to -/

/-- The resource controls the check may find for a resource, given its
labels. -/
inductive Covers (t : Transport) (rcs : List ResourceControl) (kind : ResourceControlType)
    (resourceID : String) (labels : Option Object) : ResourceControl → Prop
  | own {rc : ResourceControl}
      (h : getResourceControlByResourceIDAndType resourceID kind rcs = some rc) :
      Covers t rcs kind resourceID labels rc
  | service {rc : ResourceControl} {l : Object} {name : String} (hl : labels = some l)
      (hname : l.get resourceLabelForDockerServiceID = .str name)
      (h : getResourceControlByResourceIDAndType name .service rcs = some rc) :
      Covers t rcs kind resourceID labels rc
  | stack {rc : ResourceControl} {l : Object} {label name : String} (hl : labels = some l)
      (hlabel : label = resourceLabelForDockerSwarmStackName ∨
        label = resourceLabelForDockerComposeStackName)
      (hname : l.get label = .str name)
      (h : getResourceControlByResourceIDAndType (stackResourceControlID t.endpoint.id name) .stack
        rcs = some rc) :
      Covers t rcs kind resourceID labels rc
  | portainerLabels {rc : ResourceControl} {l : Object} {w w' : Sys Callee DataStore}
      (hl : labels = some l)
      (h : (newResourceControlFromPortainerLabels t l resourceID kind).run w = (.ok (some rc), w')) :
      Covers t rcs kind resourceID labels rc

/-- A network that comes with Docker, which everyone sees. -/
def SystemNetwork (kind : ResourceControlType) (object : Object) : Prop :=
  kind = .network ∧
    ∃ name, object.get "Name" = .str name ∧ (name = "bridge" ∨ name = "host" ∨ name = "none")

section Find

variable {t : Transport} {kind : ResourceControlType} {rcs : List ResourceControl}
variable {resourceID : String}

theorem returns_resourceControlOfLabel {labels : Object} {label : String} {toID : String → String}
    {kind' : ResourceControlType} :
    Returns (fun found => ∀ rc, found = some rc → ∃ name, labels.get label = .str name ∧
        getResourceControlByResourceIDAndType (toID name) kind' rcs = some rc)
      (resourceControlOfLabel labels label toID kind' rcs) := by
  unfold resourceControlOfLabel
  split
  · exact returns_pure fun _ h => nomatch h
  · exact returns_bind returns_asString fun name hname => returns_pure fun rc h => ⟨name, hname, h⟩

theorem returns_orElse {x y : Local (Option ResourceControl)} {P : ResourceControl → Prop}
    (hx : Returns (fun found => ∀ rc, found = some rc → P rc) x)
    (hy : Returns (fun found => ∀ rc, found = some rc → P rc) y) :
    Returns (fun found => ∀ rc, found = some rc → P rc) (orElse x y) := by
  refine returns_bind hx fun found h => ?_
  cases found with
  | some rc => exact returns_pure h
  | none => exact hy

/-- **What `findResourceControl` finds covers the resource.** -/
theorem returns_findResourceControl {labels : Option Object} :
    Returns (fun found => ∀ rc, found = some rc → Covers t rcs kind resourceID labels rc)
      (findResourceControl t resourceID kind labels rcs) := by
  unfold findResourceControl
  split
  · rename_i rc hown
    refine returns_pure fun rc' h => ?_
    obtain rfl := Option.some.inj h
    exact .own hown
  · split
    · exact returns_pure fun _ h => nomatch h
    · rename_i l
      refine returns_orElse (returns_resourceControlOfLabel.mono fun found h rc hrc => ?_) ?_
      · obtain ⟨name, hname, hget⟩ := h rc hrc
        exact .service rfl hname hget
      refine returns_orElse (returns_resourceControlOfLabel.mono fun found h rc hrc => ?_) ?_
      · obtain ⟨name, hname, hget⟩ := h rc hrc
        exact .stack rfl (.inl rfl) hname hget
      refine returns_orElse (returns_resourceControlOfLabel.mono fun found h rc hrc => ?_) ?_
      · obtain ⟨name, hname, hget⟩ := h rc hrc
        exact .stack rfl (.inr rfl) hname hget
      intro w found w' h rc hrc
      exact .portainerLabels rfl (hrc ▸ h)

end Find

/-! ## The check of an answer -/

section Answer

variable {t : Transport} {rcs : List ResourceControl} {userID : UserID} {teams : List TeamID}

/-- The context of a regular user. -/
abbrev regularContext (userID : UserID) (teams : List TeamID) (rcs : List ResourceControl) :
    RestrictedDockerOperationContext := ⟨false, userID, teams, rcs⟩

theorem returns_systemResourceControl {parameters : ResourceOperationParameters} {object : Object} :
    Returns (fun found => ∀ rc, found = some rc → SystemNetwork parameters.resourceType object)
      (systemResourceControl parameters object) := by
  unfold systemResourceControl findSystemNetworkResourceControl
  split
  · rename_i hkind
    split
    · exact returns_pure fun _ h => nomatch h
    · refine returns_bind returns_any fun networkID _ =>
        returns_bind returns_asString fun name hname => returns_pure fun rc h => ?_
      split at h
      · rename_i hsystem
        exact ⟨hkind, name, hname, hsystem⟩
      · nomatch h
  · exact returns_pure fun _ h => nomatch h

/-- **A regular user sees a resource only if a control that covers it gives
access**, or if it is a system network. -/
theorem returns_applyAccessControlOnResource {properties : List String} {attr resourceID : String}
    {kind : ResourceControlType} {object : Object} {response : Response}
    {labelBlackList : Option (List Pair)} (hid : object.get attr = .str resourceID) :
    Returns (fun shown => shown = accessDeniedResponse ∨ SystemNetwork kind object ∨
        ∃ rc, Covers t rcs kind resourceID (objectAt properties object) rc ∧
          userCanAccessResource userID teams rc)
      (applyAccessControlOnResource t ⟨attr, kind, selectLabels properties⟩ object response
        ⟨regularContext userID teams rcs, labelBlackList⟩) := by
  unfold applyAccessControlOnResource
  dsimp only
  rw [hid, if_neg (by simp [Json.isNull])]
  refine returns_bind returns_systemResourceControl fun system hsystem => ?_
  cases system with
  | some rc =>
    exact returns_bind returns_any fun _ _ => returns_pure (.inr (.inl (hsystem rc rfl)))
  | none =>
    refine returns_bind returns_asString fun identifier hidentifier => ?_
    obtain rfl : resourceID = identifier := by simpa using hidentifier
    refine returns_bind returns_selectLabels fun labels hlabels => ?_
    refine returns_bind returns_findResourceControl fun found hfound => ?_
    cases found with
    | none => exact returns_pure (.inl rfl)
    | some rc =>
      show Returns _ (if false || mayAccess (regularContext userID teams rcs) rc then _ else _)
      split
      · rename_i hcan
        exact returns_bind returns_any fun _ _ =>
          returns_pure (.inr (.inr ⟨rc, hlabels ▸ hfound rc rfl, by simpa [mayAccess] using hcan⟩))
      · exact returns_pure (.inl rfl)

end Answer

/-! ## The whole inspection -/

/-- **A guard on an inspection.** If it succeeds, it forwards nothing and
answers 403, or it forwards one request, and when the daemon answers that
with the object of the identifier, the user gets 403 or `G` holds. -/
def GuardsShown (t : Transport) (attr identifier : String) (G : DataStore → Object → Prop)
    (x : Proxy Response) : Prop :=
  ∀ w response w', x.run w = (.ok response, w') →
    (w'.store.forwarded = w.store.forwarded ∧ response = accessDeniedResponse) ∨
      ∃ r answer, w'.store.forwarded = w.store.forwarded ++ [r] ∧
        t.daemon.roundTrip r = .ok answer ∧
        ∀ o, answer.body = .ok (.obj o) → Object.get o attr = .str identifier →
          response = accessDeniedResponse ∨ G w.store.dataStore o

section Inspection

variable {t : Transport} {request : Request} {tokenData : TokenData} {attr identifier : String}
variable {G : DataStore → Object → Prop}

theorem reads_createOperationContext (htoken : request.token = some tokenData)
    (hrole : tokenData.role ≠ .administrator) :
    Reads (fun db context =>
        context = regularContext tokenData.id (db.userTeamIDs tokenData.id) db.resourceControl.all)
      (createOperationContext request) := by
  refine reads_bind reads_retrieveTokenData fun tokenData' => ?_
  refine reads_bind (M := fun db rcs => rcs = db.resourceControl.all) (reads_read fun _ => rfl)
    fun rcs => ?_
  by_cases hsame : tokenData' = tokenData
  · subst hsame
    rw [if_neg hrole]
    refine reads_bind (M := fun db teams => teams = db.userTeamIDs tokenData'.id)
      (reads_read fun _ => rfl) fun teams => ?_
    exact reads_pure fun _ hteams hrcs _ => by rw [hteams, hrcs]
  · split
    · exact reads_pure fun _ _ h => absurd (Option.some.inj (htoken.symm.trans h)).symm hsame
    · refine reads_bind (M := fun _ _ => True) (reads_read fun _ => trivial) fun teams => ?_
      exact reads_pure fun _ _ _ h =>
        absurd (Option.some.inj (htoken.symm.trans h)).symm hsame

/-- Rewriting the answer is a guard when the operation on it is one. -/
theorem guardsShown_rewrite {operation : RestrictedOperationRequest}
    (htoken : request.token = some tokenData) (hrole : tokenData.role ≠ .administrator)
    (hop : ∀ (db : DataStore) answer o, answer.body = .ok (.obj o) →
      Object.get o attr = .str identifier →
      Returns (fun shown => shown = accessDeniedResponse ∨ G db o)
        (operation answer ⟨regularContext tokenData.id (db.userTeamIDs tokenData.id)
          db.resourceControl.all, none⟩)) :
    GuardsShown t attr identifier G (rewriteOperation t request operation) := by
  intro w response w' h
  obtain ⟨context, w₁, h₁, h⟩ := Action.bind_run_ok.mp h
  obtain ⟨d₁, hd₁, hdb₁, -, hf₁⟩ := onDataStore_run_ok h₁
  obtain ⟨hstore, rfl⟩ := reads_createOperationContext htoken hrole _ _ _ hd₁
  obtain ⟨answer, w₂, h₂, h₃⟩ := Action.bind_run_ok.mp h
  obtain ⟨w₂', hrun, hf, hdb₂, -⟩ := executeDockerRequest_run (w := w₁) t request
  rw [hrun] at h₂
  obtain ⟨hanswer, rfl⟩ := Prod.mk.inj h₂
  obtain ⟨d₃, hd₃, -, -, hf₃⟩ := onDataStore_run_ok h₃
  refine .inr ⟨request, answer, ?_, hanswer, fun o ho hid => ?_⟩
  · rw [hf₃, hf, hf₁]
  · exact hop w.store.dataStore answer o ho hid _ _ _ hd₃

/-- A part that is denied to everyone guards inspections too. -/
theorem guardsShown_of_guards {x : Proxy Response} (h : Guards (fun _ => False) x) :
    GuardsShown t attr identifier G x := by
  intro w response w' hr
  obtain ⟨hf, hresp⟩ | hfalse := h w
  · rw [hr] at hf hresp
    exact .inl ⟨hf, hresp response rfl⟩
  · exact hfalse.elim

theorem guardsShown_bind {α : Type} {M : DataStore → α → Prop} {y : Local α}
    {f : α → Proxy Response} (hy : Reads M y)
    (hf : ∀ a, (∃ db, M db a) → GuardsShown t attr identifier G (f a)) :
    GuardsShown t attr identifier G ((liftM y : Proxy α) >>= f) := by
  intro w response w' h
  obtain ⟨a, w₁, h₁, h₂⟩ := Action.bind_run_ok.mp h
  obtain ⟨d₁, hd₁, hdb₁, -, hf₁⟩ := onDataStore_run_ok h₁
  obtain ⟨hstore, hM⟩ := hy _ _ _ hd₁
  have hsame : w₁.store.dataStore = w.store.dataStore := hdb₁.trans hstore
  have := hf a ⟨_, hM⟩ w₁ response w' h₂
  rwa [hf₁, hsame] at this

end Inspection

end DockerProxy

end Portainer
