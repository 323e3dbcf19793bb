import Portainer.DockerProxy.Model.Dispatch
/-!
# Forwarding — which requests a part of the proxy hands to the daemon

`executeDockerRequest` is the one step that forwards, and a local part
cannot: it has no access to what has happened. `Forwards ok x` says that
every request `x` forwards satisfies `ok`; the rules below follow the
proxy's own structure, down to `forwards_proxyRequest`.
-/

namespace Portainer

namespace DockerProxy

/-- The requests handed to the daemon so far. -/
def ProxyState.forwarded (s : ProxyState) : List Request :=
  s.events.filterMap fun
    | .roundTrip request => some request
    | _ => none

variable {α β : Type} {w w' : Sys Callee ProxyState}

/-! ## Runs of the two kinds of part -/

/-- A local part works on the database, and on the faults of its calls. -/
theorem onDataStore_run (x : Local α) : (liftM x : Proxy α).run w =
    ((x.run ⟨w.store.dataStore, w.faults⟩).1,
      ⟨{ w.store with dataStore := (x.run ⟨w.store.dataStore, w.faults⟩).2.store },
        (x.run ⟨w.store.dataStore, w.faults⟩).2.faults⟩) := rfl

/-- A local part that succeeds. -/
theorem onDataStore_run_ok {x : Local α} {a : α} (h : (liftM x : Proxy α).run w = (.ok a, w')) :
    ∃ d, x.run ⟨w.store.dataStore, w.faults⟩ = (.ok a, d) ∧ w'.store.dataStore = d.store ∧
      w'.faults = d.faults ∧ w'.store.forwarded = w.store.forwarded := by
  rw [onDataStore_run] at h
  obtain ⟨hr, rfl⟩ := Prod.mk.inj h
  exact ⟨_, Prod.ext hr rfl, rfl, rfl, rfl⟩

/-- A local part in which no call fails. -/
theorem onDataStore_run_faultless {x : Local α} {a : α} {s : ProxyState} {db : DataStore}
    (h : x.run (.faultless s.dataStore) = (.ok a, .faultless db)) :
    (liftM x : Proxy α).run (.faultless s) = (.ok a, .faultless { s with dataStore := db }) := by
  have : (⟨s.dataStore, (Sys.faultless s : Sys Callee ProxyState).faults⟩ : Sys Callee DataStore)
      = .faultless s.dataStore := rfl
  rw [onDataStore_run, Sys.faultless_store, this, h]
  rfl

/-- **The daemon's answer is the result of forwarding**, and the database is
not involved. -/
theorem executeDockerRequest_run (t : Transport) (request : Request) :
    ∃ w', (executeDockerRequest t request).run w = (t.daemon.roundTrip request, w') ∧
      w'.store.forwarded = w.store.forwarded ++ [request] ∧
      w'.store.dataStore = w.store.dataStore ∧ w'.faults = w.faults := by
  unfold executeDockerRequest reportTunnel
  cases hr : t.daemon.roundTrip request with
  | ok response =>
    split
    · exact ⟨_, rfl, by simp [ProxyState.record, ProxyState.forwarded], rfl, rfl⟩
    · exact ⟨_, rfl, by simp [ProxyState.record, ProxyState.forwarded], rfl, rfl⟩
  | error e =>
    split
    · exact ⟨_, rfl, by simp [ProxyState.record, ProxyState.forwarded], rfl, rfl⟩
    · exact ⟨_, rfl, by simp [ProxyState.record, ProxyState.forwarded], rfl, rfl⟩

/-! ## What a part forwards -/

/-- Every request the part forwards is as it should be. -/
def Forwards (ok : Request → Prop) (x : Proxy α) : Prop :=
  ∀ w, (∀ r ∈ w.store.forwarded, ok r) → ∀ r ∈ (x.run w).2.store.forwarded, ok r

/-- What every successful run of a local part returns. -/
def Returns (M : α → Prop) (x : Local α) : Prop := ∀ w a w', x.run w = (.ok a, w') → M a

variable {ok : Request → Prop} {x : Proxy α} {f : α → Proxy β}

theorem forwards_pure {a : α} : Forwards ok (pure a) := fun _ hw => hw

theorem forwards_fail {e : String} : Forwards ok (Action.fail e : Proxy α) := fun _ hw => hw

/-- **A local part forwards nothing.** -/
theorem forwards_local {x : Local α} : Forwards ok (liftM x : Proxy α) := fun _ hw => hw

theorem forwards_ite {c : Prop} [Decidable c] {y : Proxy α} (hx : c → Forwards ok x)
    (hy : ¬ c → Forwards ok y) : Forwards ok (if c then x else y) := by
  split
  · exact hx ‹c›
  · exact hy ‹¬ c›

theorem forwards_bind (hx : Forwards ok x) (hf : ∀ a, Forwards ok (f a)) :
    Forwards ok (x >>= f) := by
  intro w hw
  have h₁ := hx w hw
  rw [Action.bind_run]
  rcases hr : x.run w with ⟨_ | a, w₁⟩
  · rw [hr] at h₁
    exact h₁
  · rw [hr] at h₁
    exact hf a w₁ h₁

/-- A local part decides what is forwarded after it. -/
theorem forwards_local_bind {x : Local α} {M : α → Prop} (hx : Returns M x)
    (hf : ∀ a, M a → Forwards ok (f a)) : Forwards ok ((liftM x : Proxy α) >>= f) := by
  intro w hw
  rw [Action.bind_run]
  rcases hr : (liftM x : Proxy α).run w with ⟨_ | a, w₁⟩
  · have := forwards_local (x := x) w hw
    rw [hr] at this
    exact this
  · have h₁ := forwards_local (x := x) w hw
    obtain ⟨d, hd, -⟩ := onDataStore_run_ok hr
    rw [hr] at h₁
    exact hf a (hx _ _ _ hd) w₁ h₁

theorem forwards_execute {t : Transport} {request : Request} (h : ok request) :
    Forwards ok (executeDockerRequest t request) := by
  intro w hw r hr
  obtain ⟨w', hrun, hf, -⟩ := executeDockerRequest_run (w := w) t request
  rw [hrun, hf, List.mem_append, List.mem_singleton] at hr
  obtain hr | rfl := hr
  · exact hw r hr
  · exact h

/-! ## The operations -/

section Operations

variable {t : Transport} {request : Request} {id did : String} {kind : ResourceControlType}
variable {browse : Bool} {operation : RestrictedOperationRequest}

theorem forwards_restricted (h : ok request) :
    Forwards ok (restrictedResourceOperation t request id did kind browse) := by
  refine forwards_bind forwards_local fun tokenData => ?_
  split
  · exact forwards_execute h
  · refine forwards_bind forwards_local fun allowed => ?_
    split
    · exact forwards_execute h
    · exact forwards_pure

theorem forwards_administrator (h : ok request) :
    Forwards ok (administratorOperation t request) := by
  refine forwards_bind forwards_local fun tokenData => ?_
  split
  · exact forwards_pure
  · exact forwards_execute h

theorem forwards_deletion (h : ok request) :
    Forwards ok (executeGenericResourceDeletionOperation t request id did kind) := by
  refine forwards_bind (forwards_restricted h) fun response => ?_
  split
  · exact forwards_bind forwards_local fun _ => forwards_pure
  · exact forwards_pure

theorem forwards_rewrite (h : ok request) :
    Forwards ok (rewriteOperation t request operation) :=
  forwards_bind forwards_local fun _ =>
    forwards_bind (forwards_execute h) fun _ => forwards_local

theorem forwards_rewriteWithLabelFiltering (h : ok request) :
    Forwards ok (rewriteOperationWithLabelFiltering t request operation) :=
  forwards_bind forwards_local fun _ => forwards_bind forwards_local fun _ =>
    forwards_bind (forwards_execute h) fun _ => forwards_local

theorem forwards_executeAndDecorate {decorate : Response → Local Response} (h : ok request) :
    Forwards ok (executeAndDecorate t request decorate) := by
  refine forwards_bind (forwards_execute h) fun response => ?_
  split
  · exact forwards_local
  · exact forwards_pure

theorem forwards_genericCreation {idAttribute : String} (h : ok request) :
    Forwards ok (decorateGenericResourceCreationOperation t request idAttribute kind) :=
  forwards_bind forwards_local fun _ => forwards_executeAndDecorate h

theorem forwards_volumeCreation (h : ok request) :
    Forwards ok (decorateVolumeResourceCreationOperation t request kind) :=
  forwards_bind forwards_local fun _ => forwards_bind forwards_local fun _ =>
    forwards_executeAndDecorate h

/-- **The settings check leaves the request as it is**, its body
included. -/
theorem returns_checkedRequest {d : Json.Decoder α} {zero : α}
    {check : EndpointSecuritySettings → α → Local Unit} :
    Returns (fun r => r = request) (checkedRequest t request d zero check) := by
  intro w r w' h
  obtain ⟨admin, w₁, -, h⟩ := Action.bind_run_ok.mp h
  split at h
  · obtain ⟨rfl, -⟩ := Action.pure_run_ok.mp h
    rfl
  · obtain ⟨s, w₂, -, h⟩ := Action.bind_run_ok.mp h
    obtain ⟨body, w₃, hbody, h⟩ := Action.bind_run_ok.mp h
    obtain ⟨value, w₄, -, h⟩ := Action.bind_run_ok.mp h
    obtain ⟨u, w₅, -, h⟩ := Action.bind_run_ok.mp h
    obtain ⟨rfl, -⟩ := Action.pure_run_ok.mp h
    obtain ⟨rfl, -⟩ := Action.query_run_ok hbody
    rfl

theorem forwards_containerCreation {idAttribute : String} (h : ok request) :
    Forwards ok (decorateContainerCreationOperation t request idAttribute kind) := by
  refine forwards_bind forwards_local fun tokenData => ?_
  refine forwards_local_bind returns_checkedRequest fun checked hc => ?_
  subst hc
  exact forwards_executeAndDecorate h

theorem forwards_registryAuthentication
    (h : ∀ registryAuth, ok { request with registryAuth := registryAuth }) :
    Forwards ok (replaceRegistryAuthenticationHeader t request) :=
  forwards_bind forwards_local fun _ => forwards_bind forwards_local fun registryAuth =>
    forwards_genericCreation (h registryAuth)

theorem forwards_serviceCreation
    (h : ∀ registryAuth, ok { request with registryAuth := registryAuth }) :
    Forwards ok (decorateServiceCreationOperation t request) := by
  refine forwards_local_bind returns_checkedRequest fun checked hc => ?_
  subst hc
  exact forwards_registryAuthentication h

theorem returns_buildOperation :
    Returns (fun r => r.path = request.path) (buildOperation request) := by
  intro w r w' h
  unfold buildOperation at h
  split at h
  · obtain ⟨rfl, -⟩ := Action.pure_run_ok.mp h
    rfl
  · obtain ⟨content, w₁, -, h⟩ := Action.bind_run_ok.mp h
    obtain ⟨rfl, -⟩ := Action.pure_run_ok.mp h
    rfl

theorem returns_signedRequest :
    Returns (fun r => ∃ signed, r = { request with signed := signed }) (signedRequest t request) := by
  intro w r w' h
  unfold signedRequest at h
  split at h
  · obtain ⟨u, w₁, -, h⟩ := Action.bind_run_ok.mp h
    obtain ⟨rfl, -⟩ := Action.pure_run_ok.mp h
    exact ⟨true, rfl⟩
  · obtain ⟨rfl, -⟩ := Action.pure_run_ok.mp h
    exact ⟨request.signed, rfl⟩

end Operations

/-! ## The path of what is forwarded -/

/-- A Docker Hub request of the agent's own API: the last segment of its
path is the registry, for the proxy alone. -/
def NamesRegistry (path : Path) : Prop :=
  "/v2".toList <+: path ∧ "/dockerhub".toList <+: Path.trimPrefix "/v2".toList path ∧
    (Path.atoi (Path.split path).2).isSome

section Paths

variable {t : Transport} {request : Request}

/-- The path is the one a request came with. -/
abbrev OnPath (path : Path) (r : Request) : Prop := r.path = path

theorem forwards_resourceRequest {inspect : RestrictedOperationRequest}
    {kind : ResourceControlType} :
    Forwards (OnPath request.path) (resourceRequest t request inspect kind) := by
  unfold resourceRequest
  dsimp only
  split
  · exact forwards_rewrite rfl
  · split
    · exact forwards_deletion rfl
    · exact forwards_restricted rfl

theorem forwards_proxyConfigRequest :
    Forwards (OnPath request.path) (proxyConfigRequest t request) := by
  unfold proxyConfigRequest
  split
  · exact forwards_genericCreation rfl
  · split
    · exact forwards_rewrite rfl
    · exact forwards_resourceRequest

theorem forwards_proxyNetworkRequest :
    Forwards (OnPath request.path) (proxyNetworkRequest t request) := by
  unfold proxyNetworkRequest
  split
  · exact forwards_genericCreation rfl
  · split
    · exact forwards_rewrite rfl
    · exact forwards_resourceRequest

theorem forwards_proxySecretRequest :
    Forwards (OnPath request.path) (proxySecretRequest t request) := by
  unfold proxySecretRequest
  split
  · exact forwards_genericCreation rfl
  · split
    · exact forwards_rewrite rfl
    · exact forwards_resourceRequest

theorem forwards_proxyContainerRequest :
    Forwards (OnPath request.path) (proxyContainerRequest t request) := by
  unfold proxyContainerRequest
  dsimp only
  split
  · exact forwards_containerCreation rfl
  split
  · exact forwards_administrator rfl
  split
  · exact forwards_rewriteWithLabelFiltering rfl
  split
  · split
    · exact forwards_rewrite rfl
    · exact forwards_restricted rfl
  split
  · split
    · exact forwards_deletion rfl
    · exact forwards_restricted rfl
  · exact forwards_execute rfl

theorem forwards_proxyServiceRequest :
    Forwards (OnPath request.path) (proxyServiceRequest t request) := by
  unfold proxyServiceRequest
  dsimp only
  split
  · exact forwards_serviceCreation fun _ => rfl
  split
  · exact forwards_rewrite rfl
  split
  · exact forwards_restricted rfl
  split
  · exact forwards_resourceRequest
  · exact forwards_execute rfl

theorem forwards_proxyVolumeRequest :
    Forwards (OnPath request.path) (proxyVolumeRequest t request) := by
  unfold proxyVolumeRequest restrictedVolumeOperation
  split
  · exact forwards_volumeCreation rfl
  split
  · exact forwards_administrator rfl
  split
  · exact forwards_rewrite rfl
  split
  · exact forwards_rewrite rfl
  refine forwards_bind forwards_local fun resourceID => ?_
  split
  · exact forwards_deletion rfl
  · exact forwards_restricted rfl

theorem forwards_proxySwarmRequest :
    Forwards (OnPath request.path) (proxySwarmRequest t request) :=
  forwards_ite (fun _ => forwards_rewrite rfl) fun _ => forwards_administrator rfl

theorem forwards_proxyNodeRequest :
    Forwards (OnPath request.path) (proxyNodeRequest t request) :=
  forwards_ite (fun _ => forwards_administrator rfl) fun _ => forwards_execute rfl

theorem forwards_proxyTaskRequest :
    Forwards (OnPath request.path) (proxyTaskRequest t request) :=
  forwards_ite (fun _ => forwards_rewrite rfl) fun _ => forwards_execute rfl

theorem forwards_proxyImageRequest :
    Forwards (OnPath request.path) (proxyImageRequest t request) := by
  unfold proxyImageRequest
  split
  · exact forwards_registryAuthentication fun _ => rfl
  split
  · exact forwards_registryAuthentication fun _ => rfl
  · exact forwards_execute rfl

theorem forwards_proxyBuildRequest :
    Forwards (OnPath request.path) (proxyBuildRequest t request) :=
  forwards_local_bind returns_buildOperation fun _ h => forwards_execute h

theorem forwards_proxyAgentRequest (hv2 : "/v2".toList <+: request.path)
    (h : ¬ NamesRegistry request.path) :
    Forwards (OnPath request.path) (proxyAgentRequest t request) := by
  unfold proxyAgentRequest
  dsimp only
  split
  · split
    · exact forwards_administrator rfl
    · exact forwards_bind forwards_local fun _ => forwards_restricted rfl
  split
  · rename_i hhub
    unfold proxyDockerHubRequest
    split
    · exact forwards_fail
    · rename_i registryID hid
      exact absurd ⟨hv2, hhub, by rw [hid]; rfl⟩ h
  · exact forwards_execute rfl

/-- **What is forwarded goes to the path that was dispatched on**, unless
the path names a registry of the agent's own API. -/
theorem forwards_proxyRequest (h : ¬ NamesRegistry request.path) :
    Forwards (OnPath request.path) (proxyRequest t request) := by
  refine forwards_ite (fun _ => forwards_proxyConfigRequest) fun _ => ?_
  refine forwards_ite (fun _ => forwards_proxyContainerRequest) fun _ => ?_
  refine forwards_ite (fun _ => forwards_proxyServiceRequest) fun _ => ?_
  refine forwards_ite (fun _ => forwards_proxyVolumeRequest) fun _ => ?_
  refine forwards_ite (fun _ => forwards_proxyNetworkRequest) fun _ => ?_
  refine forwards_ite (fun _ => forwards_proxySecretRequest) fun _ => ?_
  refine forwards_ite (fun _ => forwards_proxySwarmRequest) fun _ => ?_
  refine forwards_ite (fun _ => forwards_proxyNodeRequest) fun _ => ?_
  refine forwards_ite (fun _ => forwards_proxyTaskRequest) fun _ => ?_
  refine forwards_ite (fun _ => forwards_proxyBuildRequest) fun _ => ?_
  refine forwards_ite (fun _ => forwards_proxyImageRequest) fun _ => ?_
  exact forwards_ite (fun hv2 => forwards_proxyAgentRequest hv2 h) fun _ => forwards_execute rfl

/-- The same, from the request as it came. -/
theorem forwards_proxyDockerRequest (h : ¬ NamesRegistry (requestPath request.path)) :
    Forwards (OnPath (requestPath request.path)) (proxyDockerRequest t request) := by
  refine forwards_local_bind returns_signedRequest fun signed hs => ?_
  obtain ⟨b, rfl⟩ := hs
  have hnames :
      ¬ NamesRegistry { request with path := requestPath request.path, signed := b }.path := h
  exact forwards_proxyRequest hnames

end Paths

end DockerProxy

end Portainer
