import Portainer.DockerProxy.Helpers.Forwarding
/-!
# API versions — the path the proxy decides on and the path Docker sees

Docker takes one leading version segment off a path before it looks at the
rest. The proxy takes out every match of `apiVersionRe`, which is not
anchored. The two agree on a path exactly when nothing behind the leading
version segment matches (`faithfullyNormalised_iff`); a volume called
`v1.0` is one of the paths on which they do not.
-/

namespace Portainer

namespace DockerProxy

/-- The length of a leading version segment: `/v<digit>.<digits>`, up to a
slash or the end of the path. -/
def leadingVersion : Path → ℕ
  | '/' :: 'v' :: d :: '.' :: rest =>
    let digits := rest.takeWhile Char.isDigit
    if d.isDigit ∧ digits ≠ [] ∧ (rest.drop digits.length).head?.all (· = '/') then
      4 + digits.length
    else 0
  | _ => 0

/-- What Docker looks at. -/
def removeLeadingVersion (p : Path) : Path := p.drop (leadingVersion p)

/-- **Faithful normalisation** of a path: the proxy dispatches on it less a
leading version segment, twice is as good as once, and whatever is
forwarded, in any run, goes to that path, which is also the one Docker
sees. -/
structure FaithfullyNormalised (p : Path) : Prop where
  dispatched : requestPath p = removeLeadingVersion p
  unversioned : leadingVersion p = 0 → requestPath p = p
  idempotent : requestPath (requestPath p) = requestPath p
  forwarded : ∀ (t : Transport) (request : Request) (w : Sys Callee ProxyState),
    request.path = p → w.store.forwarded = [] →
      ∀ r ∈ ((proxyDockerRequest t request).run w).2.store.forwarded,
        r.path = removeLeadingVersion p ∧ removeLeadingVersion r.path = requestPath p

variable {p : Path}

/-! ## The pattern and the segment -/

/-- A leading version segment is a match of the pattern, and no longer one
starts there. -/
theorem apiVersionMatch_of_leadingVersion (h : leadingVersion p ≠ 0) :
    apiVersionMatch p = leadingVersion p := by
  unfold leadingVersion apiVersionMatch at *
  split at h
  · rename_i d rest
    dsimp only at h ⊢
    split at h
    · rename_i hc
      rw [if_pos hc]
      exact if_pos hc.1
    · exact absurd rfl h
  · exact absurd rfl h

/-- Behind the leading version segment the scan starts afresh. -/
theorem requestPath_removeLeadingVersion :
    requestPath (removeLeadingVersion p) = requestPath p := by
  unfold removeLeadingVersion requestPath
  by_cases h : leadingVersion p = 0
  · rw [h, List.drop_zero]
  · have hm := apiVersionMatch_of_leadingVersion h
    cases p with
    | nil => rfl
    | cons c p =>
      rw [eraseMatches_cons_of_ne_zero (hm ▸ h), hm]

/-- The proxy takes off what Docker takes off, and no more, exactly when
nothing matches behind it. -/
theorem requestPath_eq_iff :
    requestPath p = removeLeadingVersion p ↔
      Unmatched apiVersionMatch (removeLeadingVersion p) := by
  rw [← requestPath_removeLeadingVersion]
  exact eraseMatches_eq_self_iff

/-- Where nothing matches there is no leading version segment. -/
theorem leadingVersion_eq_zero (h : Unmatched apiVersionMatch p) : leadingVersion p = 0 := by
  by_contra hne
  have hm := apiVersionMatch_of_leadingVersion hne
  cases p with
  | nil => exact hne rfl
  | cons c p => exact hne (hm ▸ h.1)

/-! ## The agent's own API -/

/-- Such a path is dispatched to the Docker Hub function. -/
theorem proxyRequest_of_namesRegistry {t : Transport} {request : Request}
    (h : NamesRegistry request.path) : proxyRequest t request = proxyDockerHubRequest t request := by
  obtain ⟨⟨rest, hrest⟩, ⟨tail, htail⟩, -⟩ := h
  have hagent : proxyRequest t request = proxyAgentRequest t request := by
    simp only [proxyRequest, ← hrest]
    simp [List.cons_prefix_cons]
  have hbrowse : ¬ "/browse".toList <+: Path.trimPrefix "/v2".toList request.path := by
    rw [← htail]
    simp [List.cons_prefix_cons]
  rw [hagent]
  unfold proxyAgentRequest
  dsimp only
  rw [if_neg hbrowse, if_pos ⟨tail, htail⟩]

/-- A registry the database has is found, if it is one of Docker Hub. -/
theorem dockerHubRegistry_run {db : DataStore} {registryID : RegistryID} {registry : Registry}
    (h : db.registry.get? registryID = some registry) (hhub : registry.type = .dockerHub) :
    ∃ r, (dockerHubRegistry registryID).run (.faultless db) = (.ok r, .faultless db) ∧
      r.type = .dockerHub := by
  unfold dockerHubRegistry
  split
  · exact ⟨_, rfl, rfl⟩
  · refine ⟨registry, ?_, hhub⟩
    have hread : (readObject fun db => db.registry.get? registryID).run (.faultless db) =
        (.ok registry, .faultless db) := Action.lookup_run_faultless h
    rw [Action.mapError_run, hread]

/-- A path that names a registry is forwarded without it, given a database
that has the registry. -/
theorem exists_forwarded_of_namesRegistry {q : Path} (h : NamesRegistry q)
    (hq : requestPath p = q) :
    ∃ (t : Transport) (request : Request) (w : Sys Callee ProxyState),
      request.path = p ∧ w.store.forwarded = [] ∧
        ∃ r ∈ ((proxyDockerRequest t request).run w).2.store.forwarded,
          r.path = Path.trimSuffix ['/'] (Path.split q).1 := by
  obtain ⟨registryID, hid⟩ := Option.isSome_iff_exists.mp h.2.2
  let t : Transport := { endpoint := { id := 1 }, daemon := { roundTrip := fun _ => .ok {} } }
  let request : Request := { method := "GET", path := p, token := none }
  let db : DataStore :=
    { registry := ({} : Bucket Registry).put { id := registryID, type := .dockerHub } }
  refine ⟨t, request, .faultless { dataStore := db }, rfl, rfl, ?_⟩
  have hget : db.registry.get? registryID = some { id := registryID, type := .dockerHub } :=
    Bucket.get?_put_self
  obtain ⟨registry, hregistry, hhub⟩ := dockerHubRegistry_run hget rfl
  have hsigned : proxyDockerRequest t request = proxyRequest t { request with path := q } := by
    rw [← hq]
    rfl
  have hnames : NamesRegistry { request with path := q }.path := h
  rw [hsigned, proxyRequest_of_namesRegistry hnames]
  unfold proxyDockerHubRequest
  dsimp only
  rw [hid]
  dsimp only
  rw [Action.bind_run_of_ok (onDataStore_run_faultless hregistry),
    Action.bind_run_of_ok (Action.require_run_of hhub)]
  let sent : Request :=
    { request with
      path := Path.trimSuffix ['/'] (Path.split q).1
      method := "POST"
      body := .registry registry }
  obtain ⟨w', hrun, hf, -⟩ := executeDockerRequest_run (w := .faultless { dataStore := db }) t sent
  refine ⟨sent, ?_, rfl⟩
  rw [hrun, hf]
  exact List.mem_append_right _ (List.mem_singleton_self _)

/-- What is left of such a path is shorter. -/
theorem trimSuffix_ne_of_namesRegistry {q : Path} (h : NamesRegistry q) :
    Path.trimSuffix ['/'] (Path.split q).1 ≠ q := by
  have hsplit : (Path.split q).1 ++ (Path.split q).2 = q :=
    List.rdropWhile_append_rtakeWhile
  have hlen : (Path.trimSuffix ['/'] (Path.split q).1).length ≤ (Path.split q).1.length := by
    unfold Path.trimSuffix
    split
    · simp [List.rdrop]
    · exact Nat.le_refl _
  have hne : (Path.split q).2 ≠ [] := by
    intro hnil
    have := h.2.2
    rw [hnil] at this
    exact absurd this (by decide)
  intro heq
  have := congrArg List.length hsplit
  rw [heq] at hlen
  rw [List.length_append] at this
  have := List.length_pos_iff.mpr hne
  omega

/-! ## The law and where it holds -/

/-- **The proxy is faithful to a path exactly when nothing behind its
leading version segment matches the pattern**, and the path does not name a
registry, which the proxy takes off. -/
theorem faithfullyNormalised_iff (p : Path) : FaithfullyNormalised p ↔
    Unmatched apiVersionMatch (removeLeadingVersion p) ∧
      ¬ NamesRegistry (removeLeadingVersion p) := by
  constructor
  · intro h
    refine ⟨requestPath_eq_iff.mp h.dispatched, fun hreg => ?_⟩
    obtain ⟨t, request, w, hp, hw, r, hr, hpath⟩ :=
      exists_forwarded_of_namesRegistry hreg h.dispatched
    have hforwarded := (h.forwarded t request w hp hw r hr).1
    rw [hpath] at hforwarded
    exact trimSuffix_ne_of_namesRegistry hreg hforwarded
  · rintro ⟨hun, hreg⟩
    have heq : requestPath p = removeLeadingVersion p := requestPath_eq_iff.mpr hun
    have hzero : leadingVersion (removeLeadingVersion p) = 0 := leadingVersion_eq_zero hun
    have hrest : removeLeadingVersion (removeLeadingVersion p) = removeLeadingVersion p := by
      rw [removeLeadingVersion, hzero, List.drop_zero]
    refine ⟨heq, fun h0 => ?_, ?_, ?_⟩
    · rw [heq, removeLeadingVersion, h0, List.drop_zero]
    · rw [heq, requestPath_removeLeadingVersion, heq]
    · intro t request w hp hw r hr
      have hpath : r.path = requestPath request.path := by
        refine forwards_proxyDockerRequest ?_ w (by simp [hw]) r hr
        rw [hp, heq]
        exact hreg
      rw [hpath, hp, heq]
      exact ⟨rfl, hrest⟩

/-- The volume called `v1.0`: the proxy takes its name for a version. -/
theorem not_faithfullyNormalised_volume : ¬ FaithfullyNormalised "/volumes/v1.0".toList := by
  intro h
  have hpath : requestPath "/volumes/v1.0".toList = "/volumes/v1.0".toList := h.unversioned rfl
  exact absurd hpath (by decide)

end DockerProxy

end Portainer
