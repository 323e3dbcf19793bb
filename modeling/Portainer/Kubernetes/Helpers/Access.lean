import Portainer.Common.Runs
import Portainer.Kubernetes.Model.Access
/-!
# What the operations on the policies do

Each operation in closed form, for a server on which no call fails, and
what cleaning leaves of the policies: in every namespace exactly the users
and the teams that have access to the environment.
-/

namespace Portainer

open Std Server
open Action (Ensures Returns Runs Observes)

namespace Kubernetes

variable {kcl : EndpointID} {s : Server}

/-! ## The config map -/

/-- The policies as they are stored: `none` without a config map, and
`some none` where its text does not decode. -/
def policies (kcl : EndpointID) (s : Server) : Option (Option NamespaceAccessPolicies) :=
  s.configMaps[kcl]?.map ConfigMap.accessPolicies

/-- The server with the config map replaced. -/
def withConfigMap (kcl : EndpointID) (configMap : ConfigMap) (s : Server) : Server :=
  { s with configMaps := s.configMaps.insert kcl configMap }

@[simp] theorem getElem?_withConfigMap {configMap : ConfigMap} {i : EndpointID} :
    (withConfigMap kcl configMap s).configMaps[i]? =
      if kcl = i then some configMap else s.configMaps[i]? := by
  simp [withConfigMap, ExtTreeMap.getElem?_insert]

@[simp] theorem policies_withConfigMap {configMap : ConfigMap} :
    policies kcl (withConfigMap kcl configMap s) = some configMap.accessPolicies := by
  simp [policies]

/-- A write of the whole value, as the server is after it. -/
def withPolicies (kcl : EndpointID) (accessPolicies : NamespaceAccessPolicies) (s : Server) :
    Server :=
  match s.configMaps[kcl]? with
  | none => s
  | some configMap =>
    withConfigMap kcl ⟨configMap.resourceVersion + 1, some accessPolicies⟩ s

@[simp] theorem withPolicies_dataStore {p : NamespaceAccessPolicies} :
    (withPolicies kcl p s).dataStore = s.dataStore := by
  unfold withPolicies
  split <;> rfl

theorem policies_withPolicies {p : NamespaceAccessPolicies} :
    policies kcl (withPolicies kcl p s) = (policies kcl s).map fun _ => some p := by
  unfold withPolicies
  split
  · rename_i h
    simp [policies, h]
  · rename_i configMap h
    have hp : policies kcl s = some configMap.accessPolicies := by simp [policies, h]
    rw [policies_withConfigMap, hp]
    rfl

theorem getElem?_withPolicies_of_ne {p : NamespaceAccessPolicies} {i : EndpointID} (h : kcl ≠ i) :
    (withPolicies kcl p s).configMaps[i]? = s.configMaps[i]? := by
  unfold withPolicies
  split
  · rfl
  · rw [getElem?_withConfigMap, if_neg h]

/-- The policies stored mention the namespace. -/
def Mentions (kcl : EndpointID) (s : Server) (ns : String) : Prop :=
  ∃ q, policies kcl s = some (some q) ∧ ns ∈ q

/-! ## The operations, when no call fails -/

theorem getConfigMap_run_faultless :
    (getConfigMap kcl).run (.faultless s) = (.ok s.configMaps[kcl]?, .faultless s) :=
  Action.query_run_faultless _ _

theorem updateConfigMap_run_faultless {cur configMap : ConfigMap}
    (hcur : s.configMaps[kcl]? = some cur) (hv : cur.resourceVersion = configMap.resourceVersion) :
    (updateConfigMap kcl configMap).run (.faultless s) = (.ok (), .faultless
      (withConfigMap kcl { configMap with resourceVersion := configMap.resourceVersion + 1 } s)) := by
  unfold updateConfigMap
  rw [Action.bind_run_of_ok rfl, Action.bind_run_of_ok (Action.require_run_of _),
    Action.call_run_faultless]
  · rfl
  · simp [hcur, hv]

theorem updateNamespaceAccessPolicies_run_faultless {p : NamespaceAccessPolicies} :
    (updateNamespaceAccessPolicies kcl p).run (.faultless s) =
      (.ok (), .faultless (withPolicies kcl p s)) := by
  unfold updateNamespaceAccessPolicies
  rw [Action.bind_run_of_ok getConfigMap_run_faultless]
  cases h : s.configMaps[kcl]? with
  | none =>
    have hs : withPolicies kcl p s = s := by simp [withPolicies, h]
    rw [hs]
    rfl
  | some configMap =>
    have hs : withPolicies kcl p s =
        withConfigMap kcl ⟨configMap.resourceVersion + 1, some p⟩ s := by simp [withPolicies, h]
    rw [hs]
    exact updateConfigMap_run_faultless h rfl

theorem getKubeClient_run_faultless {endpoint : Endpoint}
    (htype : isKubernetesEndpoint endpoint.type = true) (own : endpoint.id = kcl) :
    (getKubeClient endpoint).run (.faultless s) = (.ok kcl, .faultless s) := by
  unfold getKubeClient
  rw [Action.bind_run_of_ok (Action.require_run_of htype),
    Action.bind_run_of_ok (Action.call_run_faultless _ _), own]
  rfl

theorem getNamespaceAccessPolicies_run_faultless :
    (getNamespaceAccessPolicies kcl).run (.faultless s) =
      (match policies kcl s with
      | none => .ok ∅
      | some (some p) => .ok p
      | some none => .error errUnmarshal, .faultless s) := by
  unfold getNamespaceAccessPolicies
  rw [Action.bind_run_of_ok getConfigMap_run_faultless]
  rcases h : s.configMaps[kcl]? with _ | ⟨version, _ | p⟩ <;> simp [policies, h, unmarshal]

/-! ## Cleaning -/

/-- The group in force: the one given, or the endpoint's own. -/
def groupInForce (db : DataStore) (endpoint : Endpoint) : Option EndpointGroup → Option EndpointGroup
  | some endpointGroup => some endpointGroup
  | none => db.endpointGroup.get? endpoint.groupID

/-- The team has access to the environment, directly or through the group
in force. -/
def teamHasAccess (db : DataStore) (endpoint : Endpoint) (endpointGroup : Option EndpointGroup)
    (teamID : TeamID) : Bool :=
  match groupInForce db endpoint endpointGroup with
  | some group => teamAccess teamID endpoint.teamAccessPolicies ||
      teamAccess teamID group.teamAccessPolicies
  | none => false

/-- The user has access to the environment, in person or as a member of a
team, directly or through the group in force. -/
def userHasAccess (db : DataStore) (endpoint : Endpoint) (endpointGroup : Option EndpointGroup)
    (userID : UserID) : Bool :=
  let memberships := db.teamMembershipsByUserID userID
  match groupInForce db endpoint endpointGroup with
  | some group =>
    userAccess userID endpoint.userAccessPolicies endpoint.teamAccessPolicies memberships ||
      userAccess userID group.userAccessPolicies group.teamAccessPolicies memberships
  | none => false

/-- What is left of a policy. -/
def restrictPolicy (db : DataStore) (endpoint : Endpoint) (endpointGroup : Option EndpointGroup)
    (policy : K8sNamespaceAccessPolicy) : K8sNamespaceAccessPolicy where
  userAccessPolicies :=
    policy.userAccessPolicies.filter fun userID _ => userHasAccess db endpoint endpointGroup userID
  teamAccessPolicies :=
    policy.teamAccessPolicies.filter fun teamID _ => teamHasAccess db endpoint endpointGroup teamID

/-- What is left of the policies. -/
def restrictPolicies (db : DataStore) (endpoint : Endpoint) (endpointGroup : Option EndpointGroup)
    (p : NamespaceAccessPolicies) : NamespaceAccessPolicies :=
  p.map fun _ => restrictPolicy db endpoint endpointGroup

variable {endpoint : Endpoint} {endpointGroup : Option EndpointGroup}

/-! ### What cleaning looks at -/

theorem observes_groupOrOwn : Observes Server.dataStore (groupOrOwn endpoint endpointGroup) := by
  cases endpointGroup with
  | some group => exact .pure
  | none => exact .lookup (fun db => db.endpointGroup.get? endpoint.groupID) fun _ => rfl

theorem observes_teamAccess {teamID : TeamID} : Observes Server.dataStore
    (getTeamEndpointAccessWithPolicies teamID endpoint endpointGroup) :=
  observes_groupOrOwn.bind fun _ => .pure

theorem observes_userAccess {userID : UserID} : Observes Server.dataStore
    (getUserEndpointAccessWithPolicies userID endpoint endpointGroup) :=
  .bind (.query (fun db => db.teamMembershipsByUserID userID) fun _ => rfl) fun _ =>
    observes_groupOrOwn.bind fun _ => .pure

theorem observes_dropWithoutAccess {access : Int → Fallible Server Bool}
    (h : ∀ id, Observes Server.dataStore (access id)) (ids : List Int)
    (r : ExtTreeMap Int AccessPolicy × Bool) :
    Observes Server.dataStore (dropWithoutAccess access ids r) := by
  induction ids generalizing r with
  | nil => exact .pure
  | cons id ids ih =>
    refine (h id).bind fun a => ?_
    cases a
    · exact ih _
    · exact ih _

/-- **Cleaning looks at the database only**, not at the config map. -/
theorem observes_cleanPolicies (p : NamespaceAccessPolicies) :
    Observes Server.dataStore (cleanPolicies endpoint endpointGroup p) := by
  unfold cleanPolicies
  generalize p.toList = l
  generalize (p, false) = r
  induction l generalizing r with
  | nil => exact .pure
  | cons e l ih =>
    refine (observes_dropWithoutAccess (fun _ => observes_teamAccess) _ _).bind fun teams => ?_
    refine (observes_dropWithoutAccess (fun _ => observes_userAccess) _ _).bind fun users => ?_
    exact ih _

theorem observes_getNamespaceAccessPolicies :
    Observes Server.configMaps (getNamespaceAccessPolicies kcl) := by
  refine .bind (.query (fun configMaps => configMaps[kcl]?) fun _ => rfl) fun o => ?_
  cases o with
  | none => exact .pure
  | some configMap => exact .ofExcept

/-! ### What cleaning returns -/

theorem returns_getConfigMap : Returns (getConfigMap kcl) s (s.configMaps[kcl]? = ·) :=
  .query rfl

theorem returns_getNamespaceAccessPolicies :
    Returns (getNamespaceAccessPolicies kcl) s fun _ => True := by
  refine returns_getConfigMap.bind fun o _ => ?_
  cases o with
  | none => exact .pure trivial
  | some configMap => exact .ofExcept fun _ _ => trivial

theorem returns_groupOrOwn : Returns (groupOrOwn endpoint endpointGroup) s
    (groupInForce s.dataStore endpoint endpointGroup = some ·) := by
  cases endpointGroup with
  | some group => exact Returns.pure rfl
  | none => exact Returns.lookup fun _ h => h

theorem returns_teamAccess {teamID : TeamID} :
    Returns (getTeamEndpointAccessWithPolicies teamID endpoint endpointGroup) s
      (teamHasAccess s.dataStore endpoint endpointGroup teamID = ·) := by
  refine returns_groupOrOwn.bind fun group hgroup => Returns.pure ?_
  simp [teamHasAccess, hgroup]

theorem returns_userAccess {userID : UserID} :
    Returns (getUserEndpointAccessWithPolicies userID endpoint endpointGroup) s
      (userHasAccess s.dataStore endpoint endpointGroup userID = ·) := by
  refine Returns.bind (Returns.query (Q := (s.dataStore.teamMembershipsByUserID userID = ·)) rfl)
    fun memberships hm => ?_
  refine returns_groupOrOwn.bind fun group hgroup => Returns.pure ?_
  simp [userHasAccess, hgroup, hm]

theorem returns_dropWithoutAccess {access : Int → Fallible Server Bool} {acc : Int → Bool}
    (h : ∀ id, Returns (access id) s (acc id = ·)) (ids : List Int)
    (m : ExtTreeMap Int AccessPolicy) (b : Bool) :
    Returns (dropWithoutAccess access ids (m, b)) s fun r =>
      r.1 = m.filter (fun i _ => decide (i ∈ ids → acc i)) ∧ r.2 = (b || ids.any (!acc ·)) := by
  induction ids generalizing m b with
  | nil => exact Returns.pure ⟨(ExtTreeMap.filter_eq_self_iff.mpr (by simp)).symm, by simp⟩
  | cons id ids ih =>
    refine (h id).bind fun a ha => ?_
    subst ha
    cases hacc : acc id with
    | true =>
      refine (ih m b).conseq fun r hr => ⟨?_, ?_⟩
      · rw [hr.1]
        congr 1
        funext i _
        simp only [List.mem_cons, decide_eq_decide]
        constructor
        · rintro hi (rfl | hi')
          · exact hacc
          · exact hi hi'
        · exact fun hi hi' => hi (.inr hi')
      · simp [hr.2, hacc]
    | false =>
      refine (ih (m.erase id) true).conseq fun r hr => ⟨?_, ?_⟩
      · rw [hr.1]
        refine ExtTreeMap.ext_getElem? fun i => ?_
        simp only [ExtTreeMap.getElem?_filter', ExtTreeMap.getElem?_erase, List.mem_cons]
        by_cases hi : id = i
        · subst hi
          cases m[id]? <;> simp [hacc, Option.filter]
        · simp [hi, Ne.symm hi]
      · simp [hr.2, hacc]

/-- Entry by entry: a loop that overwrites the entries of a list of
distinct keys. -/
theorem getElem?_foldl_insert {f : K8sNamespaceAccessPolicy → K8sNamespaceAccessPolicy}
    {l : List (String × K8sNamespaceAccessPolicy)} (hl : (l.map Prod.fst).Nodup)
    (p : NamespaceAccessPolicies) (ns : String) :
    (l.foldl (fun m e => m.insert e.1 (f e.2)) p)[ns]? =
      match l.find? (·.1 = ns) with
      | some e => some (f e.2)
      | none => p[ns]? := by
  induction l generalizing p with
  | nil => rfl
  | cons e l ih =>
    rw [List.map_cons, List.nodup_cons] at hl
    rw [List.foldl_cons, ih hl.2, List.find?_cons]
    by_cases he : e.1 = ns
    · have hnone : l.find? (·.1 = ns) = none := by
        rw [List.find?_eq_none]
        intro e' he'
        simp only [decide_eq_true_eq]
        rintro rfl
        exact hl.1 (List.mem_map.mpr ⟨e', he', he.symm⟩)
      simp [hnone, he]
    · have hget : (p.insert e.1 (f e.2))[ns]? = p[ns]? := by
        rw [ExtTreeMap.getElem?_insert, if_neg (by simpa using he)]
      simp [he, hget]

/-- Nothing comes off a map whose keys all have access. -/
theorem filter_of_any_eq_false {acc : Int → Bool} {m : ExtTreeMap Int AccessPolicy}
    (h : m.keys.any (!acc ·) = false) : m.filter (fun i _ => acc i) = m := by
  rw [ExtTreeMap.filter_eq_self_iff]
  intro i hi
  rw [List.any_eq_false] at h
  simpa [ExtTreeMap.getKey_eq] using h i (ExtTreeMap.mem_keys.mpr hi)

/-- The loop of one map, run over all its keys. -/
theorem returns_dropWithoutAccess_keys {access : Int → Fallible Server Bool} {acc : Int → Bool}
    (h : ∀ id, Returns (access id) s (acc id = ·)) (m : ExtTreeMap Int AccessPolicy) (b : Bool) :
    Returns (dropWithoutAccess access m.keys (m, b)) s fun r =>
      r.1 = m.filter (fun i _ => acc i) ∧ (r.2 = false → b = false ∧ r.1 = m) := by
  refine (returns_dropWithoutAccess h m.keys m b).conseq fun r hr => ?_
  have hfilter : m.filter (fun i _ => decide (i ∈ m.keys → acc i = true)) =
      m.filter fun i _ => acc i := by
    refine ExtTreeMap.ext_getElem? fun i => ?_
    simp only [ExtTreeMap.getElem?_filter']
    cases hi : m[i]? with
    | none => rfl
    | some a =>
      have hmem : i ∈ m.keys := by
        rw [ExtTreeMap.mem_keys, ExtTreeMap.mem_iff_isSome_getElem?, hi]
        rfl
      simp [hmem]
  rw [hfilter] at hr
  refine ⟨hr.1, fun hflag => ?_⟩
  rw [hr.2, Bool.or_eq_false_iff] at hflag
  exact ⟨hflag.1, hr.1.trans (filter_of_any_eq_false hflag.2)⟩

theorem returns_cleanNamespaces (l : List (String × K8sNamespaceAccessPolicy))
    (p : NamespaceAccessPolicies) (b : Bool) :
    Returns (cleanNamespaces endpoint endpointGroup l (p, b)) s fun r =>
      r.1 = l.foldl (fun m e =>
        m.insert e.1 (restrictPolicy s.dataStore endpoint endpointGroup e.2)) p ∧
      (r.2 = false →
        b = false ∧ ∀ e ∈ l, restrictPolicy s.dataStore endpoint endpointGroup e.2 = e.2) := by
  induction l generalizing p b with
  | nil => exact Returns.pure ⟨rfl, fun hb => ⟨hb, nofun⟩⟩
  | cons e l ih =>
    obtain ⟨ns, policy⟩ := e
    refine (returns_dropWithoutAccess_keys (fun _ => returns_teamAccess) _ b).bind ?_
    rintro ⟨teams, b₁⟩ ⟨hteams, hb₁⟩
    refine (returns_dropWithoutAccess_keys (fun _ => returns_userAccess) _ b₁).bind ?_
    rintro ⟨users, b₂⟩ ⟨husers, hb₂⟩
    refine (ih _ b₂).conseq fun r hr => ?_
    have hpolicy : (⟨users, teams⟩ : K8sNamespaceAccessPolicy) =
        restrictPolicy s.dataStore endpoint endpointGroup policy := by
      rw [restrictPolicy, ← husers, ← hteams]
    rw [hpolicy] at hr
    refine ⟨hr.1, fun hflag => ?_⟩
    obtain ⟨h₂, hrest⟩ := hr.2 hflag
    obtain ⟨h₁, rfl⟩ := hb₂ h₂
    obtain ⟨hb, rfl⟩ := hb₁ h₁
    refine ⟨hb, fun e he => ?_⟩
    rcases List.mem_cons.mp he with rfl | he
    · exact hpolicy.symm
    · exact hrest e he

/-- **What cleaning computes**: the policies restricted to those with
access; if nothing came off, these are the policies as they were. -/
theorem returns_cleanPolicies (p : NamespaceAccessPolicies) :
    Returns (cleanPolicies endpoint endpointGroup p) s fun r =>
      r.1 = restrictPolicies s.dataStore endpoint endpointGroup p ∧ (r.2 = false → r.1 = p) := by
  refine (returns_cleanNamespaces p.toList p false).conseq fun r hr => ?_
  have hnodup : (p.toList.map Prod.fst).Nodup := by
    rw [ExtTreeMap.map_fst_toList_eq_keys]
    exact ExtTreeMap.nodup_keys
  have hget : ∀ ns : String, r.1[ns]? =
      (p[ns]?).map (restrictPolicy s.dataStore endpoint endpointGroup) := by
    intro ns
    rw [hr.1, getElem?_foldl_insert hnodup]
    cases hf : p.toList.find? (·.1 = ns) with
    | none =>
      cases hp : p[ns]? with
      | none => rfl
      | some policy =>
        have hmem := ExtTreeMap.mem_toList_iff_getElem?_eq_some.mpr hp
        simpa using List.find?_eq_none.mp hf _ hmem
    | some e =>
      have hns : e.1 = ns := by simpa using List.find?_some hf
      have hmem := ExtTreeMap.mem_toList_iff_getElem?_eq_some.mp (List.mem_of_find?_eq_some hf)
      rw [← hns, hmem]
      rfl
  refine ⟨ExtTreeMap.ext_getElem? fun ns => ?_, fun hflag => ExtTreeMap.ext_getElem? fun ns => ?_⟩
  · rw [hget, restrictPolicies, ExtTreeMap.getElem?_map]
  · rw [hget]
    cases hp : p[ns]? with
    | none => rfl
    | some policy =>
      have hmem := ExtTreeMap.mem_toList_iff_getElem?_eq_some.mpr hp
      exact congrArg some ((hr.2 hflag).2 _ hmem)

/-! ### What a cleaning leaves -/

theorem ensures_updateNamespaceAccessPolicies {p : NamespaceAccessPolicies} :
    Ensures (updateNamespaceAccessPolicies kcl p) s fun _ s' => s' = withPolicies kcl p s := by
  refine .read_bind returns_getConfigMap fun o ho => ?_
  cases o with
  | none =>
    refine .pure ?_
    rw [withPolicies, ho]
  | some configMap =>
    unfold updateConfigMap
    refine .read_bind (.get (Q := (· = s.configMaps[kcl]?)) rfl) fun current _ => .require_bind fun _ => ?_
    refine Ensures.call.conseq fun _ s' hs' => ?_
    rw [hs', withPolicies, ho]
    rfl

/-- **A cleaning that succeeds** changes the policies of the environment it
is about to those of the users and the teams with access, and nothing
else. -/
theorem ensures_cleanNAP : Ensures (cleanNAPWithOverridePolicies endpoint endpointGroup) s fun _ s' =>
    s'.dataStore = s.dataStore ∧
      (∀ i, endpoint.id ≠ i → policies i s' = policies i s) ∧
      policies endpoint.id s' =
        (policies endpoint.id s).map (Option.map (restrictPolicies s.dataStore endpoint endpointGroup)) := by
  have hkcl : Ensures (getKubeClient endpoint) s fun kcl s' => s' = s ∧ kcl = endpoint.id := by
    refine .require_bind fun _ => ?_
    exact Ensures.call.bind fun _ s' hs' => .pure ⟨hs', rfl⟩
  refine hkcl.bind fun kcl s₁ h => ?_
  obtain ⟨rfl, rfl⟩ := h
  refine Ensures.read_bind (P := fun p => (policies endpoint.id s₁).getD (some ∅) = some p) ?_
    fun p hp => ?_
  · refine returns_getConfigMap.bind fun o ho => ?_
    cases o with
    | none => exact .pure (by simp [policies, ho])
    | some configMap =>
      refine .ofExcept fun p hp => ?_
      rw [unmarshal] at hp
      split at hp
      · rename_i q hq
        obtain rfl := Except.ok.inj hp
        simp [policies, ho, hq]
      · nomatch hp
  · refine .read_bind (returns_cleanPolicies p) fun r hr => ?_
    obtain ⟨accessPolicies, hasChange⟩ := r
    obtain ⟨rfl, hkept⟩ := hr
    cases hasChange with
    | false =>
      refine .pure ⟨rfl, fun _ _ => rfl, ?_⟩
      cases hpolicies : policies endpoint.id s₁ with
      | none => rfl
      | some o =>
        obtain rfl : o = some p := by simpa [hpolicies] using hp
        have hsame : restrictPolicies s₁.dataStore endpoint endpointGroup p = p := hkept rfl
        rw [Option.map_some, Option.map_some, hsame]
    | true =>
      refine ensures_updateNamespaceAccessPolicies.conseq fun _ s' hs' => ?_
      rw [hs']
      refine ⟨withPolicies_dataStore, fun i hi => ?_, ?_⟩
      · rw [policies, getElem?_withPolicies_of_ne hi, policies]
      · rw [policies_withPolicies]
        cases hpolicies : policies endpoint.id s₁ with
        | none => rfl
        | some o =>
          obtain rfl : o = some p := by simpa [hpolicies] using hp
          rfl

/-! ## Cleaning where no call fails -/

/-- The config map of the environment decodes, if there is one. -/
def Decodes (s : Server) (kcl : EndpointID) : Prop :=
  ∀ configMap, s.configMaps[kcl]? = some configMap → configMap.accessPolicies.isSome

section Calm

variable {calm : Prop} {E : Server → Prop}

theorem runs_groupOrOwn (hgroup : calm → (groupInForce s.dataStore endpoint endpointGroup).isSome) :
    Runs calm (groupOrOwn endpoint endpointGroup) s (fun _ s' => s' = s) E := by
  cases endpointGroup with
  | some group => exact .pure rfl
  | none =>
    refine .lookup (fun _ _ => rfl) fun hnone hc => ?_
    have hsome := hgroup hc
    rw [groupInForce, show s.dataStore.endpointGroup.get? endpoint.groupID = none from hnone] at hsome
    nomatch hsome

theorem runs_dropWithoutAccess {access : Int → Fallible Server Bool}
    (h : ∀ i, Runs calm (access i) s (fun _ s' => s' = s) E) (ids : List Int)
    (result : ExtTreeMap Int AccessPolicy × Bool) :
    Runs calm (dropWithoutAccess access ids result) s (fun _ s' => s' = s) E := by
  induction ids generalizing result with
  | nil => exact .pure rfl
  | cons i ids ih =>
    refine .move_bind (h i) fun hasAccess => ?_
    cases hasAccess with
    | true => exact ih _
    | false => exact ih _

theorem runs_cleanNamespaces (hgroup : calm → (groupInForce s.dataStore endpoint endpointGroup).isSome)
    (l : List (String × K8sNamespaceAccessPolicy)) (result : NamespaceAccessPolicies × Bool) :
    Runs calm (cleanNamespaces endpoint endpointGroup l result) s (fun _ s' => s' = s) E := by
  induction l generalizing result with
  | nil => exact .pure rfl
  | cons p l ih =>
    refine .move_bind (runs_dropWithoutAccess (fun i => ?_) _ _) fun _ =>
      .move_bind (runs_dropWithoutAccess (fun i => ?_) _ _) fun _ => ih _
    · exact .move_bind (runs_groupOrOwn hgroup) fun _ => .pure rfl
    · exact .move_bind (.query rfl) fun _ => .move_bind (runs_groupOrOwn hgroup) fun _ => .pure rfl

/-- **A cleaning fails only** at a config map that does not decode, or at a
group that is not there, if no call fails. It leaves the database, and the
config maps that decode go on doing so. -/
theorem runs_cleanNAP (htype : calm → isKubernetesEndpoint endpoint.type = true)
    (hdecodes : calm → Decodes s endpoint.id)
    (hgroup : calm → (groupInForce s.dataStore endpoint endpointGroup).isSome) :
    Runs calm (cleanNAPWithOverridePolicies endpoint endpointGroup) s (fun _ s' =>
      s'.dataStore = s.dataStore ∧ ∀ i, Decodes s i → Decodes s' i) E := by
  have hkcl : Runs calm (getKubeClient endpoint) s (fun kcl s' => s' = s ∧ kcl = endpoint.id) E := by
    refine .require_bind (fun hn hc => absurd (htype hc) hn) fun _ => ?_
    exact .move_bind (.call rfl) fun _ => .pure ⟨rfl, rfl⟩
  have hread : Runs calm (getNamespaceAccessPolicies endpoint.id) s (fun _ s' => s' = s) E := by
    refine .read_bind (P := (s.configMaps[endpoint.id]? = ·)) (.query ⟨rfl, rfl⟩) fun o ho => ?_
    cases o with
    | none => exact .pure rfl
    | some configMap =>
      refine .ofExcept (fun _ _ => rfl) fun e he hc => ?_
      obtain ⟨p, hp⟩ := Option.isSome_iff_exists.mp (hdecodes hc configMap ho)
      rw [unmarshal, hp] at he
      nomatch he
  refine hkcl.read_bind fun kcl hk => ?_
  subst hk
  refine .move_bind hread fun p => .move_bind (runs_cleanNamespaces hgroup _ _) fun r => ?_
  obtain ⟨accessPolicies, hasChange⟩ := r
  cases hasChange with
  | false => exact .pure ⟨rfl, fun _ h => h⟩
  | true =>
    refine .read_bind (P := (s.configMaps[endpoint.id]? = ·)) (.query ⟨rfl, rfl⟩) fun o ho => ?_
    cases o with
    | none => exact .pure ⟨rfl, fun _ h => h⟩
    | some configMap =>
      refine .read_bind (P := (· = s.configMaps[endpoint.id]?)) (.get ⟨rfl, rfl⟩) fun current hcurrent => ?_
      refine .require_bind (fun hn _ => absurd ?_ hn) fun _ => .call ⟨rfl, fun i hi c hget => ?_⟩
      · -- nothing has been written between the two reads
        rw [hcurrent, ho]
        rfl
      · rw [ExtTreeMap.getElem?_insert] at hget
        split at hget
        · obtain rfl := Option.some.inj hget
          rfl
        · exact hi c hget

end Calm

end Kubernetes

end Portainer
