import Portainer.DockerProxy.Helpers.Inspection
/-!
# The open environment — where nothing stands in the way

An environment, a database and a request of a regular user: the daemon
gives one answer to everything, and no call fails. What an operation
forwards there is what its own checks let pass. `openStore` has everything
switched off, and `plainRequest` asks for nothing.
-/

namespace Portainer

namespace DockerProxy

def openTransport (answer : Response) : Transport where
  endpoint := { id := 1 }
  daemon := { roundTrip := fun _ => .ok answer }
  snapshotDockerID := some ""

def openStoreWith (settings : EndpointSecuritySettings)
    (resourceControls : Bucket ResourceControl) : DataStore where
  endpoint := Bucket.put {} { id := 1, securitySettings := settings }
  user := Bucket.put {} { id := 1 }
  resourceControl := resourceControls

abbrev openStore (resourceControls : Bucket ResourceControl) : DataStore :=
  openStoreWith {} resourceControls

def requestWith (method : String) (path : Path) (body : Body) : Request where
  method := method
  path := path
  body := body
  token := some { id := 1 }

abbrev plainRequest (method : String) (path : Path) : Request :=
  requestWith method path (.client "{}" (some (.obj [])) false)

/-- A part forwards something. -/
def Sends (x : Proxy Response) (db : DataStore) : Prop :=
  (x.run (.faultless { dataStore := db })).2.store.forwarded ≠ []

/-- A part forwards one request, and its result is the daemon's answer. -/
def Passes (x : Proxy Response) (answer : Response) (db : DataStore) : Prop :=
  ∃ r w', x.run (.faultless { dataStore := db }) = (.ok answer, w') ∧ w'.store.forwarded = [r]

/-- What has been forwarded stays forwarded. -/
def Keeps {α : Type} (x : Proxy α) : Prop :=
  ∀ w, w.store.forwarded ≠ [] → (x.run w).2.store.forwarded ≠ []

section Open

variable {answer : Response} {db : DataStore} {r : Request} {x : Proxy Response} {α : Type}

theorem keeps_local {y : Local α} : Keeps (liftM y : Proxy α) := fun _ h => h

theorem keeps_pure {a : α} : Keeps (pure a : Proxy α) := fun _ h => h

theorem keeps_bind_pure {y : Proxy α} {a : Response} (hy : Keeps y) :
    Keeps (y >>= fun _ => pure a) := by
  intro w hw
  have h := hy w hw
  rw [Action.bind_run]
  rcases hr : y.run w with ⟨e | b, w'⟩ <;> rw [hr] at h <;> exact h

theorem Passes.sends (h : Passes x answer db) : Sends x db := by
  obtain ⟨r, w', hrun, hf⟩ := h
  unfold Sends
  rw [hrun, hf]
  simp

theorem passes_execute : Passes (executeDockerRequest (openTransport answer) r) answer db := by
  obtain ⟨w', hrun, hf, -⟩ :=
    executeDockerRequest_run (w := .faultless { dataStore := db }) (openTransport answer) r
  exact ⟨r, w', hrun, by simpa [ProxyState.forwarded] using hf⟩

theorem passes_bind {y : Local α} {f : α → Proxy Response} {a : α}
    (hy : y.run (.faultless db) = (.ok a, .faultless db)) (hf : Passes (f a) answer db) :
    Passes ((liftM y : Proxy α) >>= f) answer db := by
  obtain ⟨r, w', hrun, hw'⟩ := hf
  exact ⟨r, w', by rw [Action.bind_run_of_ok (onDataStore_run_faultless hy)]; exact hrun, hw'⟩

theorem sends_bind {y : Local α} {f : α → Proxy Response} {a : α}
    (hy : y.run (.faultless db) = (.ok a, .faultless db)) (hf : Sends (f a) db) :
    Sends ((liftM y : Proxy α) >>= f) db := by
  unfold Sends
  rw [Action.bind_run_of_ok (onDataStore_run_faultless hy)]
  exact hf

theorem sends_then {f : Response → Proxy Response} (hx : Sends x db) (hf : ∀ a, Keeps (f a)) :
    Sends (x >>= f) db := by
  unfold Sends at hx ⊢
  rw [Action.bind_run]
  rcases hr : x.run (.faultless { dataStore := db }) with ⟨e | a, w'⟩
  · rw [hr] at hx
    exact hx
  · rw [hr] at hx
    exact hf a w' hx

/-- What is not created needs no decoration. -/
theorem passes_executeAndDecorate {decorate : Response → Local Response}
    (h : answer.statusCode ≠ 201) :
    Passes (executeAndDecorate (openTransport answer) r decorate) answer db := by
  obtain ⟨r', w', hrun, hf⟩ : Passes (executeDockerRequest (openTransport answer) r) answer db :=
    passes_execute
  refine ⟨r', w', ?_, hf⟩
  unfold executeAndDecorate
  rw [Action.bind_run_of_ok hrun, if_neg h]
  rfl

variable {rcs : Bucket ResourceControl} {settings : EndpointSecuritySettings}
variable {method : String} {path : Path} {body : Body}

theorem retrieveTokenData_run :
    (retrieveTokenData (requestWith method path body)).run (.faultless db) =
      (.ok { id := 1 }, .faultless db) := rfl

theorem createOperationContext_run : (createOperationContext (requestWith method path body)).run
    (.faultless db) =
      (.ok (regularContext 1 (db.userTeamIDs 1) db.resourceControl.all), .faultless db) := by
  unfold createOperationContext read
  rw [Action.bind_run_of_ok retrieveTokenData_run,
    Action.bind_run_of_ok (Action.query_run_faultless _ _), if_neg (by decide),
    Action.bind_run_of_ok (Action.query_run_faultless _ _)]
  rfl

theorem sends_rewrite {operation : RestrictedOperationRequest} :
    Sends (rewriteOperation (openTransport answer) (requestWith method path body) operation) db :=
  sends_bind createOperationContext_run (sends_then passes_execute.sends fun _ => keeps_local)

theorem sends_rewriteWithLabelFiltering {operation : RestrictedOperationRequest} :
    Sends (rewriteOperationWithLabelFiltering (openTransport answer) (requestWith method path body)
      operation) db :=
  sends_bind createOperationContext_run (sends_bind (Action.query_run_faultless _ _)
    (sends_then passes_execute.sends fun _ => keeps_local))

theorem passes_genericCreation {attr : String} {kind : ResourceControlType}
    (h : answer.statusCode ≠ 201) :
    Passes (decorateGenericResourceCreationOperation (openTransport answer)
      (requestWith method path body) attr kind) answer db :=
  passes_bind retrieveTokenData_run (passes_executeAndDecorate h)

theorem passes_volumeCreation (h : answer.statusCode ≠ 201) :
    Passes (decorateVolumeResourceCreationOperation (openTransport answer)
      (requestWith method path body) .volume) answer db :=
  passes_bind retrieveTokenData_run (passes_bind (a := ()) rfl (passes_executeAndDecorate h))

/-- A body that can be read, and asks for nothing the check is against. -/
theorem checkedRequest_run {d : Json.Decoder α} {zero a : α}
    {check : EndpointSecuritySettings → α → Local Unit} (hd : body.unmarshal.bind (d zero) = some a)
    (hcheck : (check settings a).run (.faultless (openStoreWith settings rcs)) =
      (.ok (), .faultless (openStoreWith settings rcs))) :
    (checkedRequest (openTransport answer) (requestWith method path body) d zero check).run
        (.faultless (openStoreWith settings rcs)) =
      (.ok (requestWith method path body), .faultless (openStoreWith settings rcs)) := by
  have hsettings : (fetchEndpointSecuritySettings (openTransport answer)).run
      (.faultless (openStoreWith settings rcs)) = (.ok settings, .faultless (openStoreWith settings rcs)) := by
    have hread : (readObject fun db => db.endpoint.get? 1).run (.faultless (openStoreWith settings rcs)) =
        (.ok { id := 1, securitySettings := settings }, .faultless (openStoreWith settings rcs)) :=
      Action.lookup_run_faultless Bucket.get?_put_self
    exact Action.bind_run_of_ok hread
  have hvalue : (unmarshal d zero (requestWith method path body).body.unmarshal).run
      (.faultless (openStoreWith settings rcs)) = (.ok a, .faultless (openStoreWith settings rcs)) := by
    have hbind : (requestWith method path body).body.unmarshal.bind (d zero) = some a := hd
    unfold unmarshal
    rw [hbind]
    rfl
  have hadmin : (isAdminOrEndpointAdmin (requestWith method path body)).run
      (.faultless (openStoreWith settings rcs)) = (.ok false, .faultless (openStoreWith settings rcs)) := rfl
  unfold checkedRequest readBody
  rw [Action.bind_run_of_ok hadmin, if_neg (by decide), Action.bind_run_of_ok hsettings,
    Action.bind_run_of_ok (Action.query_run_faultless _ _), Action.bind_run_of_ok hvalue,
    Action.bind_run_of_ok hcheck]
  rfl

theorem passes_containerCreation {c : PartialContainer} (h : answer.statusCode ≠ 201)
    (hd : body.unmarshal.bind (Decode.partialContainer {}) = some c)
    (hcheck : (checkPartialContainer settings c).run (.faultless (openStoreWith settings rcs)) =
      (.ok (), .faultless (openStoreWith settings rcs))) :
    Passes (decorateContainerCreationOperation (openTransport answer) (requestWith method path body)
      containerObjectIdentifier .container) answer (openStoreWith settings rcs) :=
  passes_bind retrieveTokenData_run
    (passes_bind (checkedRequest_run hd hcheck) (passes_executeAndDecorate h))

theorem passes_serviceCreation {c : PartialService} (h : answer.statusCode ≠ 201)
    (hd : body.unmarshal.bind (Decode.partialService {}) = some c)
    (hcheck : (checkPartialService settings c).run (.faultless (openStoreWith settings rcs)) =
      (.ok (), .faultless (openStoreWith settings rcs))) :
    Passes (decorateServiceCreationOperation (openTransport answer) (requestWith method path body))
      answer (openStoreWith settings rcs) := by
  have hcontext : ∃ context, (createRegistryAccessContext (openTransport answer)
      (requestWith method path body)).run (.faultless (openStoreWith settings rcs)) =
        (.ok context, .faultless (openStoreWith settings rcs)) := by
    have huser : (readObject fun db => db.user.get? 1).run (.faultless (openStoreWith settings rcs)) =
        (.ok { id := 1 }, .faultless (openStoreWith settings rcs)) :=
      Action.lookup_run_faultless Bucket.get?_put_self
    refine ⟨⟨false, { id := 1 }, 1, (openStoreWith settings rcs).teamMembershipsByUserID 1,
      (openStoreWith settings rcs).registry.all⟩, ?_⟩
    unfold createRegistryAccessContext read
    rw [Action.bind_run_of_ok retrieveTokenData_run, Action.bind_run_of_ok huser,
      Action.bind_run_of_ok (Action.query_run_faultless _ _), if_neg (by decide),
      Action.bind_run_of_ok (Action.query_run_faultless _ _)]
    rfl
  obtain ⟨context, hcontext⟩ := hcontext
  refine passes_bind (checkedRequest_run hd hcheck) (passes_bind hcontext ?_)
  exact passes_bind (a := .absent) rfl (passes_genericCreation h)

/-- The user's own resource control lets a request pass. -/
theorem sends_restricted {resourceID dockerResourceID : String} {kind : ResourceControlType}
    {rc : ResourceControl}
    (hrc : getResourceControlByResourceIDAndType resourceID kind db.resourceControl.all = some rc)
    (hcan : userCanAccessResource 1 (db.userTeamIDs 1) rc) :
    Sends (restrictedResourceOperation (openTransport answer) (requestWith method path body) resourceID
      dockerResourceID kind false) db := by
  have hallowed : (regularUserAllowed (openTransport answer) (requestWith method path body) { id := 1 }
      resourceID dockerResourceID kind false).run (.faultless db) = (.ok true, .faultless db) := by
    have hrc' : (effectiveResourceControl (openTransport answer) (requestWith method path body)
        resourceID dockerResourceID kind db.resourceControl.all).run (.faultless db) =
          (.ok (some rc), .faultless db) := by
      unfold effectiveResourceControl
      rw [hrc]
      rfl
    have hbrowse : (allowsVolumeBrowser (openTransport answer) false).run (.faultless db) =
        (.ok true, .faultless db) := rfl
    unfold regularUserAllowed read
    rw [Action.bind_run_of_ok hbrowse, if_neg (by decide),
      Action.bind_run_of_ok (Action.query_run_faultless _ _),
      Action.bind_run_of_ok (Action.query_run_faultless _ _), Action.bind_run_of_ok hrc']
    simp [hcan]
  refine sends_bind retrieveTokenData_run ?_
  rw [if_neg (by decide)]
  refine sends_bind hallowed ?_
  rw [if_pos rfl]
  exact passes_execute.sends

theorem sends_deletion {resourceID dockerResourceID : String} {kind : ResourceControlType}
    {rc : ResourceControl}
    (hrc : getResourceControlByResourceIDAndType resourceID kind db.resourceControl.all = some rc)
    (hcan : userCanAccessResource 1 (db.userTeamIDs 1) rc) :
    Sends (executeGenericResourceDeletionOperation (openTransport answer)
      (requestWith method path body) resourceID dockerResourceID kind) db := by
  refine sends_then (sends_restricted hrc hcan) fun response => ?_
  split
  · exact keeps_bind_pure keeps_local
  · exact keeps_pure

/-! ### Without a resource control -/

/-- A database with one resource control, for the user, on a resource. -/
def controlled (resourceID : String) (kind : ResourceControlType) : Bucket ResourceControl :=
  Bucket.put {} { newPrivateResourceControl resourceID kind 1 with id := 1 }

theorem mem_controlled {resourceID : String} {kind : ResourceControlType} {rc : ResourceControl} :
    rc ∈ (controlled resourceID kind).all ↔
      rc = { newPrivateResourceControl resourceID kind 1 with id := 1 } := by
  rw [Bucket.mem_all, controlled, Bucket.get?_put]
  constructor
  · intro h
    split at h
    · exact (Option.some.inj h).symm
    · simp at h
  · rintro rfl
    rfl

theorem get_controlled (settings : EndpointSecuritySettings) (resourceID : String)
    (kind : ResourceControlType) :
    ∃ rc, getResourceControlByResourceIDAndType resourceID kind (controlled resourceID kind).all =
      some rc ∧ userCanAccessResource 1 ((openStoreWith settings (controlled resourceID kind)).userTeamIDs 1)
        rc := by
  have hsome : (getResourceControlByResourceIDAndType resourceID kind
      (controlled resourceID kind).all).isSome := by
    unfold getResourceControlByResourceIDAndType
    rw [List.find?_isSome]
    exact ⟨_, mem_controlled.mpr rfl, by simp [newPrivateResourceControl]⟩
  obtain ⟨rc, hrc⟩ := Option.isSome_iff_exists.mp hsome
  have hmem := mem_controlled.mp (List.mem_of_find?_eq_some hrc)
  exact ⟨rc, hrc, by rw [hmem]; simp [newPrivateResourceControl, userCanAccessResource]⟩

/-- A resource has no control if another has the only one. -/
theorem get_controlled_of_ne {resourceID other : String} {kind kind' : ResourceControlType}
    (h : resourceID ≠ other) :
    getResourceControlByResourceIDAndType resourceID kind' (controlled other kind).all = none := by
  unfold getResourceControlByResourceIDAndType
  rw [List.find?_eq_none]
  intro rc hrc
  rw [mem_controlled.mp hrc]
  simp [newPrivateResourceControl, h]

end Open

end DockerProxy

end Portainer
