import Portainer.DockerProxy.Helpers.Forwarding
/-!
# Access — the check on a request, and what it guards

`AccessGranted` says when a regular user may act on a resource: the
resource control that decides, its own or the inherited one, gives them
access. `Guards G x` says that `x` forwards nothing and answers 403, or
fails, unless `G` holds of the database it starts from;
`guards_restricted` is that statement for the operation every guarded
branch of the proxy goes through.
-/

namespace Portainer

namespace DockerProxy

/-! ## The decision -/

/-- The resource control a resource of a kind inherits through its
labels. -/
def inheritedResourceControl : ResourceControlType → EndpointID → Labels → List ResourceControl →
    Option ResourceControl
  | .container => containerResourceControl
  | .service | .volume | .network | .secret | .config => stackResourceControl
  | _ => fun _ _ _ => none

/-- The resource control that decides on a request for a resource: its own,
or, if the Docker client of the node reaches it, the one its labels lead
to. -/
inductive Decides (t : Transport) (rcs : List ResourceControl) (node : String)
    (kind : ResourceControlType) (resourceID dockerResourceID : String) : ResourceControl → Prop
  | own {rc : ResourceControl}
      (h : getResourceControlByResourceIDAndType resourceID kind rcs = some rc) :
      Decides t rcs node kind resourceID dockerResourceID rc
  | inherited {rc : ResourceControl} {labels : Labels}
      (hown : getResourceControlByResourceIDAndType resourceID kind rcs = none)
      (hlabels : t.daemon.inspect node kind dockerResourceID = .ok labels)
      (h : inheritedResourceControl kind t.endpoint.id labels rcs = some rc) :
      Decides t rcs node kind resourceID dockerResourceID rc

/-- **The access check on a request succeeds** for a user. -/
def AccessGranted (t : Transport) (db : DataStore) (tokenData : TokenData) (node : String)
    (kind : ResourceControlType) (resourceID dockerResourceID : String) : Prop :=
  ∃ rc, Decides t db.resourceControl.all node kind resourceID dockerResourceID rc ∧
    userCanAccessResource tokenData.id (db.userTeamIDs tokenData.id) rc

/-! ## Parts that only read -/

variable {α β : Type} {w w' : Sys Callee ProxyState}

/-- A successful run leaves the database as it is, and returns what it
should. -/
def Reads (M : DataStore → α → Prop) (x : Local α) : Prop :=
  ∀ w a w', x.run w = (.ok a, w') → w'.store = w.store ∧ M w.store a

section Reads

variable {M : DataStore → α → Prop} {N : DataStore → β → Prop}

theorem reads_pure {a : α} (h : ∀ db, M db a) : Reads M (pure a) := by
  intro w b w' hr
  obtain ⟨rfl, rfl⟩ := Action.pure_run_ok.mp hr
  exact ⟨rfl, h _⟩

theorem reads_fail {e : String} : Reads M (Action.fail e) :=
  fun _ _ _ h => absurd h Action.fail_run_ok

theorem reads_ofExcept {r : Except String α} (h : ∀ db a, r = .ok a → M db a) :
    Reads M (Action.ofExcept r) := by
  cases r with
  | error e => exact reads_fail
  | ok a => exact reads_pure fun db => h db a rfl

theorem reads_query {callee : Callee} {f : DataStore → α} (h : ∀ db, M db (f db)) :
    Reads M (Action.query callee f) := by
  intro w a w' hr
  obtain ⟨rfl, hw⟩ := Action.query_run_ok hr
  exact ⟨hw, h _⟩

theorem reads_read {f : DataStore → α} (h : ∀ db, M db (f db)) : Reads M (read f) := reads_query h

theorem reads_readObject {f : DataStore → Option α} (h : ∀ db a, f db = some a → M db a) :
    Reads M (readObject f) := by
  intro w a w' hr
  obtain ⟨hf, hw⟩ := Action.lookup_run_ok hr
  exact ⟨hw, h _ _ hf⟩

/-- In sequence, the second part reads the database the first has read. -/
theorem reads_bind {x : Local α} {f : α → Local β} (hx : Reads M x)
    (hf : ∀ a, Reads (fun db b => M db a → N db b) (f a)) : Reads N (x >>= f) := by
  intro w b w' h
  obtain ⟨a, w₁, h₁, h₂⟩ := Action.bind_run_ok.mp h
  obtain ⟨hw₁, hM⟩ := hx _ _ _ h₁
  obtain ⟨hw', hN⟩ := hf a _ _ _ h₂
  exact ⟨hw'.trans hw₁, hw₁ ▸ hN (hw₁ ▸ hM)⟩

theorem Reads.mono {M' : DataStore → α → Prop} {x : Local α} (hx : Reads M x)
    (h : ∀ db a, M db a → M' db a) : Reads M' x :=
  fun w a w' hr => ⟨(hx w a w' hr).1, h _ _ (hx w a w' hr).2⟩

theorem reads_retrieveTokenData {request : Request} :
    Reads (fun _ tokenData => request.token = some tokenData) (retrieveTokenData request) := by
  unfold retrieveTokenData
  split
  · exact reads_fail
  · rename_i h
    exact reads_pure fun _ => h

/-- The signature is all that is added to a request. -/
theorem reads_signedRequest {t : Transport} {request : Request} :
    Reads (fun _ r => ∃ signed, r = { request with signed := signed }) (signedRequest t request) := by
  unfold signedRequest
  split
  · exact reads_bind (M := fun _ _ => True) (reads_query fun _ => trivial)
      fun _ => reads_pure fun _ _ => ⟨true, rfl⟩
  · exact reads_pure fun _ => ⟨request.signed, rfl⟩

end Reads

/-! ## The check of a request -/

section Check

variable {t : Transport} {request : Request} {tokenData : TokenData}
variable {resourceID dockerResourceID : String} {kind : ResourceControlType} {browse : Bool}

theorem reads_clientFor {node : String} :
    Reads (fun _ client => client = node) (clientFor t node) := by
  unfold clientFor
  split
  · rename_i h
    exact reads_pure fun _ => h.symm
  · exact reads_bind (M := fun _ _ => True) (reads_ofExcept fun _ _ _ => trivial)
      fun _ => reads_pure fun _ _ => rfl

/-- The six inspections differ in the kind alone, and for containers in the
labels they go by. -/
theorem reads_inherited {node : String} {rcs : List ResourceControl} :
    Reads (fun _ found => ∀ rc, found = some rc → ∃ labels,
        t.daemon.inspect node kind resourceID = .ok labels ∧
          inheritedResourceControl kind t.endpoint.id labels rcs = some rc)
      (getInheritedResourceControlFromServiceOrStack t resourceID node kind rcs) := by
  have hinspect : ∀ client, Reads (fun _ found => client = node → ∀ rc, found = some rc →
      ∃ labels, t.daemon.inspect node kind resourceID = .ok labels ∧
        inheritedResourceControl kind t.endpoint.id labels rcs = some rc)
      (inheritedFromLabels (inheritedResourceControl kind) kind t client resourceID rcs) := by
    intro client
    refine reads_bind (reads_ofExcept fun _ labels h => h) fun labels => ?_
    refine reads_pure fun _ h hclient rc hrc => ⟨labels, ?_, hrc⟩
    exact hclient ▸ h
  refine reads_bind reads_clientFor fun client => ?_
  cases kind with
  | container => exact hinspect client
  | service => exact hinspect client
  | volume => exact hinspect client
  | network => exact hinspect client
  | secret => exact hinspect client
  | config => exact hinspect client
  | stack => exact reads_pure fun _ _ rc hrc => nomatch hrc
  | customTemplate => exact reads_pure fun _ _ rc hrc => nomatch hrc
  | containerGroup => exact reads_pure fun _ _ rc hrc => nomatch hrc

theorem reads_effectiveResourceControl {rcs : List ResourceControl} (hid : dockerResourceID ≠ "") :
    Reads (fun _ found => ∀ rc, found = some rc →
        Decides t rcs request.agentTarget kind resourceID dockerResourceID rc)
      (effectiveResourceControl t request resourceID dockerResourceID kind rcs) := by
  unfold effectiveResourceControl
  split
  · rename_i rc hown
    refine reads_pure fun _ rc' hrc => ?_
    obtain rfl := Option.some.inj hrc
    exact .own hown
  · rename_i hown
    rw [if_neg hid]
    refine reads_inherited.mono fun _ found h rc hrc => ?_
    obtain ⟨labels, hlabels, hinh⟩ := h rc hrc
    exact .inherited hown hlabels hinh

/-- **The checks for a regular user let a request pass only if the access
check succeeds.** -/
theorem reads_regularUserAllowed (hid : dockerResourceID ≠ "") :
    Reads (fun db allowed => allowed = true →
        AccessGranted t db tokenData request.agentTarget kind resourceID dockerResourceID)
      (regularUserAllowed t request tokenData resourceID dockerResourceID kind browse) := by
  have hbrowse : Reads (fun _ _ => True) (allowsVolumeBrowser t browse) := by
    unfold allowsVolumeBrowser
    split
    · exact reads_bind (M := fun _ _ => True)
        (reads_bind (M := fun _ _ => True) (reads_readObject fun _ _ _ => trivial)
          fun _ => reads_pure fun _ _ => trivial)
        fun _ => reads_pure fun _ _ => trivial
    · exact reads_pure fun _ => trivial
  refine reads_bind hbrowse fun allowed => ?_
  split
  · exact reads_pure fun _ _ h => nomatch h
  · refine reads_bind (M := fun db teams => teams = db.userTeamIDs tokenData.id)
      (reads_read fun _ => rfl) fun teams => ?_
    refine reads_bind (M := fun db rcs => rcs = db.resourceControl.all)
      (reads_read fun _ => rfl) fun rcs => ?_
    refine reads_bind (reads_effectiveResourceControl hid) fun found => ?_
    refine reads_pure fun db hdec hrcs hteams _ hany => ?_
    cases found with
    | none => nomatch hany
    | some rc => exact ⟨rc, hrcs ▸ hdec rc rfl, hteams ▸ hany⟩

end Check

/-! ## Guards -/

/-- Nothing is forwarded, and the answer, if there is one, is 403. -/
def Denied (w : Sys Callee ProxyState) (out : Except String Response × Sys Callee ProxyState) :
    Prop :=
  out.2.store.forwarded = w.store.forwarded ∧
    ∀ response, out.1 = .ok response → response = accessDeniedResponse

/-- **A guard**: the request is denied, or `G` holds of the database. -/
def Guards (G : DataStore → Prop) (x : Proxy Response) : Prop :=
  ∀ w, Denied w (x.run w) ∨ G w.store.dataStore

section Guards

variable {G : DataStore → Prop} {x : Proxy Response}

theorem guards_of_forall (h : ∀ db, G db) : Guards G x := fun w => .inr (h w.store.dataStore)

theorem guards_denied : Guards G (pure accessDeniedResponse) :=
  fun _ => .inl ⟨rfl, fun _ h => (Except.ok.inj h).symm⟩

/-- What has been read is known of the database where the guard stands. -/
theorem guards_bind {M : DataStore → α → Prop} {y : Local α} {f : α → Proxy Response}
    (hy : Reads M y) (hf : ∀ a, Guards (fun db => M db a → G db) (f a)) :
    Guards G ((liftM y : Proxy α) >>= f) := by
  intro w
  rw [Action.bind_run]
  have hquiet : ((liftM y : Proxy α).run w).2.store.forwarded = w.store.forwarded := rfl
  rcases hr : (liftM y : Proxy α).run w with ⟨e | a, w₁⟩
  · rw [hr] at hquiet
    exact .inl ⟨hquiet, fun _ h => nomatch h⟩
  · obtain ⟨d, hd, hdb, -, hw₁⟩ := onDataStore_run_ok hr
    obtain ⟨hstore, hM⟩ := hy _ _ _ hd
    have hsame : w₁.store.dataStore = w.store.dataStore := hdb.trans hstore
    obtain ⟨hf₁, hresp⟩ | hG := hf a w₁
    · exact .inl ⟨hf₁.trans hw₁, hresp⟩
    · exact .inr (hsame ▸ hG (hsame ▸ hM))

/-- A denial passes through what is done to answers that succeeded. -/
theorem guards_deletion_bind {g : Response → Local Unit} (hx : Guards G x) :
    Guards G (x >>= fun response =>
      if response.statusCode = 204 ∨ response.statusCode = 200 then do
        (liftM (g response) : Proxy Unit)
        pure response
      else pure response) := by
  intro w
  rw [Action.bind_run]
  obtain ⟨hf, hresp⟩ | hG := hx w
  · rcases hr : x.run w with ⟨e | response, w₁⟩
    · rw [hr] at hf
      exact .inl ⟨hf, fun _ h => nomatch h⟩
    · rw [hr] at hf hresp
      obtain rfl := hresp response rfl
      exact .inl ⟨hf, fun _ h => (Except.ok.inj h).symm⟩
  · exact .inr hG

end Guards

section Operations

variable {t : Transport} {request : Request} {tokenData : TokenData}
variable {resourceID dockerResourceID : String} {kind : ResourceControlType} {browse : Bool}

/-- **The access check guards every restricted operation** of a regular
user. -/
theorem guards_restricted (htoken : request.token = some tokenData)
    (hrole : tokenData.role ≠ .administrator) (hid : dockerResourceID ≠ "") :
    Guards (fun db =>
        AccessGranted t db tokenData request.agentTarget kind resourceID dockerResourceID)
      (restrictedResourceOperation t request resourceID dockerResourceID kind browse) := by
  refine guards_bind reads_retrieveTokenData fun tokenData' => ?_
  by_cases hsame : tokenData' = tokenData
  · subst hsame
    rw [if_neg hrole]
    refine guards_bind (reads_regularUserAllowed hid) fun allowed => ?_
    split
    · rename_i h
      exact guards_of_forall fun _ hgranted _ => hgranted h
    · exact guards_denied
  · refine guards_of_forall fun _ h => absurd ?_ hsame
    rw [htoken] at h
    exact (Option.some.inj h).symm

/-- Deletions go through the same check. -/
theorem guards_deletion (htoken : request.token = some tokenData)
    (hrole : tokenData.role ≠ .administrator) (hid : dockerResourceID ≠ "") :
    Guards (fun db =>
        AccessGranted t db tokenData request.agentTarget kind resourceID dockerResourceID)
      (executeGenericResourceDeletionOperation t request resourceID dockerResourceID kind) :=
  guards_deletion_bind (guards_restricted htoken hrole hid)

/-- Operations for administrators are denied to everyone else. -/
theorem guards_administrator {G : DataStore → Prop} (htoken : request.token = some tokenData)
    (hrole : tokenData.role ≠ .administrator) : Guards G (administratorOperation t request) := by
  refine guards_bind reads_retrieveTokenData fun tokenData' => ?_
  split
  · exact guards_denied
  · rename_i h
    refine guards_of_forall fun _ h' => absurd ?_ hrole
    rw [htoken] at h'
    exact Option.some.inj h' ▸ not_not.mp h

end Operations

end DockerProxy

end Portainer
