import Portainer.DockerProxy.Versions
/-!
# Routing — what the proxy reads in the path of a resource

For a path `/<collection>/<id><rest>` the functions of the collections are
restated by what `rest` is: nothing, one segment, or more.
-/

namespace Portainer

namespace DockerProxy

/-- The collections whose resources are under access control. -/
def collection : ResourceControlType → Option Path
  | .container => some "/containers".toList
  | .service => some "/services".toList
  | .volume => some "/volumes".toList
  | .network => some "/networks".toList
  | .config => some "/configs".toList
  | .secret => some "/secrets".toList
  | _ => none

/-- The function for the collection of a kind. -/
def collectionRequest (t : Transport) (request : Request) : ResourceControlType → Proxy Response
  | .container => proxyContainerRequest t request
  | .service => proxyServiceRequest t request
  | .volume => proxyVolumeRequest t request
  | .network => proxyNetworkRequest t request
  | .config => proxyConfigRequest t request
  | .secret => proxySecretRequest t request
  | _ => executeDockerRequest t request

/-- One segment, which may be empty. -/
def OneSegment (rest : Path) : Prop := rest.head? = some '/' ∧ '/' ∉ rest.tail

instance (rest : Path) : Decidable (OneSegment rest) := by
  unfold OneSegment
  infer_instance

/-! ## Reading the path -/

section Paths

variable {c rest : Path}

theorem oneSegment_iff : OneSegment rest ↔ ∃ s, rest = '/' :: s ∧ '/' ∉ s := by
  cases rest with
  | nil => simp [OneSegment]
  | cons x s => simp [OneSegment]

theorem not_oneSegment_nil : ¬ OneSegment [] := by simp [OneSegment]

/-- A segment and what is behind it make one segment only if nothing is
behind it. -/
theorem append_eq_segment {s : Path} (hs : '/' ∉ s) (hrest : rest = [] ∨ ∃ tail, rest = '/' :: tail) :
    c ++ rest = s ↔ rest = [] ∧ c = s := by
  constructor
  · intro h
    obtain rfl | ⟨tail, rfl⟩ := hrest
    · exact ⟨rfl, by simpa using h⟩
    · exact absurd (h ▸ List.mem_append_right c List.mem_cons_self) hs
  · rintro ⟨rfl, rfl⟩
    exact List.append_nil c

/-- A path of the proxy's own addresses a resource of that name. -/
theorem path_eq_iff (coll : Path) {s : Path} (hs : '/' ∉ s) (hrest : rest = [] ∨ ∃ tail, rest = '/' :: tail) :
    coll ++ '/' :: c ++ rest = coll ++ '/' :: s ↔ rest = [] ∧ c = s := by
  rw [← append_eq_segment hs hrest, List.append_assoc, List.append_cancel_left_eq,
    List.cons_append, List.cons.injEq]
  simp

/-- The pattern of a resource with an action. -/
theorem match_action (coll : Path) (hstar : '*' ∉ coll) (hc : '/' ∉ c)
    (hrest : rest = [] ∨ ∃ tail, rest = '/' :: tail) :
    Path.match' (coll ++ "/*/*".toList) (coll ++ '/' :: c ++ rest) = true ↔ OneSegment rest := by
  have hpattern : coll ++ "/*/*".toList = (coll ++ ['/']) ++ '*' :: (['/'] ++ ['*']) := by simp
  rw [hpattern, Path.match_text (by simp [hstar]), oneSegment_iff]
  simp only [Path.match_star, Path.match_text (t := ['/']) (by simp), Path.match_nil]
  constructor
  · rintro ⟨tail, htail, a, b, rfl, ha, d, rfl, e, f, rfl, he, rfl⟩
    have hcr : c ++ rest = a ++ ('/' :: e) := by simpa using htail
    obtain rfl | ⟨tail, rfl⟩ := hrest
    · refine absurd ?_ hc
      rw [List.append_nil] at hcr
      exact hcr ▸ List.mem_append_right a List.mem_cons_self
    · obtain ⟨-, rfl⟩ := Path.append_slash_inj hc ha hcr
      exact ⟨tail, rfl, he⟩
  · rintro ⟨s, rfl, hs⟩
    exact ⟨c ++ '/' :: s, by simp, c, '/' :: s, rfl, hc, s, rfl, s, [], by simp, hs, rfl⟩

/-- The pattern of a resource alone. -/
theorem match_resource (coll : Path) (hstar : '*' ∉ coll) (hc : '/' ∉ c)
    (hrest : rest = [] ∨ ∃ tail, rest = '/' :: tail) :
    Path.match' (coll ++ "/*".toList) (coll ++ '/' :: c ++ rest) = true ↔ rest = [] := by
  have hpattern : coll ++ "/*".toList = (coll ++ ['/']) ++ '*' :: [] := by simp
  rw [hpattern, Path.match_text (by simp [hstar])]
  simp only [Path.match_star, Path.match_nil]
  constructor
  · rintro ⟨tail, htail, a, b, rfl, ha, rfl⟩
    have hcr : c ++ rest = a := by simpa using htail
    exact ((append_eq_segment ha hrest).mp hcr).1
  · rintro rfl
    exact ⟨c, by simp, c, [], by simp, hc, rfl⟩

end Paths

/-! ## What the proxy reads in the path of a resource -/

section Routing

variable {t : Transport} {request : Request} {c rest : Path}

/-- The directory of a path with one segment behind the resource ends in
the resource. -/
theorem base_dir {coll : Path} (hcoll : Path.Segment coll) (hseg : Path.Segment c)
    (hone : OneSegment rest) (hpath : request.path = '/' :: coll ++ '/' :: c ++ rest) :
    Path.base (Path.dir request.path) = c := by
  obtain ⟨s, rfl, hs⟩ := oneSegment_iff.mp hone
  rw [hpath, Path.dir_snoc hcoll hseg hs]
  exact Path.base_snoc hseg.nonempty hseg.slash

theorem base_alone {p coll : Path} (hseg : Path.Segment c) (hnil : rest = [])
    (hp : p = coll ++ '/' :: c ++ rest) : Path.base p = c := by
  rw [hp, hnil, List.append_nil]
  exact Path.base_snoc hseg.nonempty hseg.slash

/-- **Containers.** -/
theorem proxyContainerRequest_eq (hseg : Path.Segment c)
    (hbehind : rest = [] ∨ ∃ tail, rest = '/' :: tail)
    (hpath : request.path = "/containers".toList ++ '/' :: c ++ rest) :
    proxyContainerRequest t request =
      if rest = [] then
        if c = "create".toList then
          decorateContainerCreationOperation t request containerObjectIdentifier .container
        else if c = "prune".toList then administratorOperation t request
        else if c = "json".toList then
          rewriteOperationWithLabelFiltering t request (containerListOperation t)
        else if request.method = "DELETE" then
          executeGenericResourceDeletionOperation t request (String.ofList c) (String.ofList c)
            .container
        else restrictedResourceOperation t request (String.ofList c) (String.ofList c) .container
          false
      else if OneSegment rest then
        if Path.base request.path = "json".toList then
          rewriteOperation t request (containerInspectOperation t)
        else restrictedResourceOperation t request (String.ofList c) (String.ofList c) .container
          false
      else executeDockerRequest t request := by
  have hfixed : ∀ s : Path, '/' ∉ s → (request.path = "/containers".toList ++ '/' :: s ↔
      rest = [] ∧ c = s) := fun s hs => by rw [hpath]; exact path_eq_iff _ hs hbehind
  have hcreate : request.path = "/containers/create".toList ↔ _ :=
    hfixed "create".toList (by decide)
  have hprune : request.path = "/containers/prune".toList ↔ _ :=
    hfixed "prune".toList (by decide)
  have hjson : request.path = "/containers/json".toList ↔ _ := hfixed "json".toList (by decide)
  have haction : Path.match' "/containers/*/*".toList request.path = true ↔ OneSegment rest := by
    rw [hpath]
    exact match_action "/containers".toList (by decide) hseg.slash hbehind
  have hresource : Path.match' "/containers/*".toList request.path = true ↔ rest = [] := by
    rw [hpath]
    exact match_resource "/containers".toList (by decide) hseg.slash hbehind
  have hcontainers : Path.Segment "containers".toList := ⟨by decide, by decide, by decide, by decide⟩
  unfold proxyContainerRequest
  dsimp only
  simp only [hcreate, hprune, hjson, haction, hresource]
  by_cases hnil : rest = []
  · have hb := base_alone hseg hnil hpath
    subst hnil
    simp only [true_and, if_true, not_oneSegment_nil, if_false, hb]
  · simp only [hnil, false_and, if_false]
    by_cases hone : OneSegment rest
    · rw [base_dir hcontainers hseg hone hpath]
    · simp only [hone, if_false]

/-- **Services.** -/
theorem proxyServiceRequest_eq (hseg : Path.Segment c)
    (hbehind : rest = [] ∨ ∃ tail, rest = '/' :: tail)
    (hpath : request.path = "/services".toList ++ '/' :: c ++ rest) :
    proxyServiceRequest t request =
      if rest = [] then
        if c = "create".toList then decorateServiceCreationOperation t request
        else resourceRequest t request (serviceInspectOperation t) .service
      else if OneSegment rest then
        restrictedResourceOperation t request (String.ofList c) (String.ofList c) .service false
      else executeDockerRequest t request := by
  have hcreate : request.path = "/services/create".toList ↔ rest = [] ∧ c = "create".toList := by
    rw [hpath]
    exact path_eq_iff "/services".toList (by decide) hbehind
  have hlist : request.path ≠ "/services".toList := by simp [hpath]
  have haction : Path.match' "/services/*/*".toList request.path = true ↔ OneSegment rest := by
    rw [hpath]
    exact match_action "/services".toList (by decide) hseg.slash hbehind
  have hresource : Path.match' "/services/*".toList request.path = true ↔ rest = [] := by
    rw [hpath]
    exact match_resource "/services".toList (by decide) hseg.slash hbehind
  have hservices : Path.Segment "services".toList := ⟨by decide, by decide, by decide, by decide⟩
  unfold proxyServiceRequest
  dsimp only
  rw [if_neg hlist]
  simp only [hcreate, haction, hresource]
  by_cases hnil : rest = []
  · subst hnil
    simp only [true_and, if_true, not_oneSegment_nil, if_false]
  · simp only [hnil, false_and, if_false]
    by_cases hone : OneSegment rest
    · rw [base_dir hservices hseg hone hpath]
    · simp only [hone, if_false]

/-- **Volumes.** -/
theorem proxyVolumeRequest_eq (hbehind : rest = [] ∨ ∃ tail, rest = '/' :: tail)
    (hpath : request.path = "/volumes".toList ++ '/' :: c ++ rest) :
    proxyVolumeRequest t request =
      if rest = [] ∧ c = "create".toList then
        decorateVolumeResourceCreationOperation t request .volume
      else if rest = [] ∧ c = "prune".toList then administratorOperation t request
      else restrictedVolumeOperation t request := by
  have hfixed : ∀ s : Path, '/' ∉ s → (request.path = "/volumes".toList ++ '/' :: s ↔
      rest = [] ∧ c = s) := fun s hs => by rw [hpath]; exact path_eq_iff _ hs hbehind
  have hcreate : request.path = "/volumes/create".toList ↔ _ := hfixed "create".toList (by decide)
  have hprune : request.path = "/volumes/prune".toList ↔ _ := hfixed "prune".toList (by decide)
  have hlist : request.path ≠ "/volumes".toList := by simp [hpath]
  unfold proxyVolumeRequest
  rw [if_neg hlist]
  simp only [hcreate, hprune]

/-- **Networks, secrets and configs** differ in the collection alone. -/
theorem resourceRequest_eq {coll : Path} {create list : Proxy Response}
    {inspect : RestrictedOperationRequest} {kind : ResourceControlType}
    (hbehind : rest = [] ∨ ∃ tail, rest = '/' :: tail)
    (hpath : request.path = coll ++ '/' :: c ++ rest) :
    (if request.path = coll ++ "/create".toList then create
      else if request.path = coll then list
      else resourceRequest t request inspect kind) =
      if rest = [] ∧ c = "create".toList then create
      else resourceRequest t request inspect kind := by
  have hcreate : request.path = coll ++ "/create".toList ↔ rest = [] ∧ c = "create".toList := by
    rw [hpath]
    exact path_eq_iff coll (show '/' ∉ "create".toList by decide) hbehind
  have hlist : request.path ≠ coll := by
    intro h
    have := congrArg List.length (h.symm.trans hpath)
    simp only [List.length_append, List.length_cons] at this
    omega
  rw [if_neg hlist]
  simp only [hcreate]

theorem proxyNetworkRequest_eq (hbehind : rest = [] ∨ ∃ tail, rest = '/' :: tail)
    (hpath : request.path = "/networks".toList ++ '/' :: c ++ rest) :
    proxyNetworkRequest t request =
      if rest = [] ∧ c = "create".toList then
        decorateGenericResourceCreationOperation t request networkObjectIdentifier .network
      else resourceRequest t request (networkInspectOperation t) .network :=
  resourceRequest_eq hbehind hpath

theorem proxySecretRequest_eq (hbehind : rest = [] ∨ ∃ tail, rest = '/' :: tail)
    (hpath : request.path = "/secrets".toList ++ '/' :: c ++ rest) :
    proxySecretRequest t request =
      if rest = [] ∧ c = "create".toList then
        decorateGenericResourceCreationOperation t request secretObjectIdentifier .secret
      else resourceRequest t request (secretInspectOperation t) .secret :=
  resourceRequest_eq hbehind hpath

theorem proxyConfigRequest_eq (hbehind : rest = [] ∨ ∃ tail, rest = '/' :: tail)
    (hpath : request.path = "/configs".toList ++ '/' :: c ++ rest) :
    proxyConfigRequest t request =
      if rest = [] ∧ c = "create".toList then
        decorateGenericResourceCreationOperation t request configObjectIdentifier .config
      else resourceRequest t request (configInspectOperation t) .config :=
  resourceRequest_eq hbehind hpath

/-- A path of a collection goes to the function for it. -/
theorem proxyRequest_of_collection {kind : ResourceControlType} {coll : Path}
    (hcoll : collection kind = some coll) (hpath : request.path = coll ++ '/' :: c ++ rest) :
    proxyRequest t request = collectionRequest t request kind := by
  cases kind with
  | stack => nomatch hcoll
  | customTemplate => nomatch hcoll
  | containerGroup => nomatch hcoll
  | _ =>
    obtain rfl := Option.some.inj hcoll
    simp [proxyRequest, collectionRequest, hpath, List.cons_prefix_cons]

/-- With a version segment left at the front, no collection is found. -/
theorem proxyRequest_of_leadingVersion {t : Transport} {request : Request}
    (h : leadingVersion request.path ≠ 0) :
    proxyRequest t request = executeDockerRequest t request := by
  obtain ⟨d, rest, hpath, hd⟩ : ∃ d rest, request.path = '/' :: 'v' :: d :: '.' :: rest ∧
      d.isDigit := by
    unfold leadingVersion at h
    split at h
    · rename_i d rest hpath
      dsimp only at h
      split at h
      · rename_i hc
        exact ⟨d, rest, hpath, hc.1⟩
      · exact absurd rfl h
    · exact absurd rfl h
  have ho : 'o' ≠ d := by
    rintro rfl
    exact absurd hd (by decide)
  by_cases h2 : '2' = d
  · subst h2
    simp [proxyRequest, proxyAgentRequest, Path.trimPrefix, hpath, List.cons_prefix_cons]
  · simp [proxyRequest, hpath, List.cons_prefix_cons, ho, h2]

end Routing

end DockerProxy

end Portainer
