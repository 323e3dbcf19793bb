import Portainer.Kubernetes.Helpers.Bindings
/-!
# Service accounts — the bindings follow the policies

`SetupUserServiceAccount` goes over the namespaces of a cluster and binds
the service account of a user, or unbinds it. There is no setting that
restricts the namespace `default`, so that one is open to everybody.

Two things come in between. Subjects are told apart by their names alone,
so a user or a group that is called like the service account counts as the
service account. And where there is no config map, the loop is left out, so
what was bound before stays bound. `followsPolicies_iff` says exactly when
the bindings follow the policies all the same.
-/

namespace Portainer

open Action (Returns Runs)

namespace Kubernetes

namespace KubeClient

variable {kcl : KubeClient} {userID : UserID} {teamIDs : List TeamID} {h : Host}

/-- The subjects of a binding, none if it is not there. -/
def subjectsOf : Option RoleBinding → List Subject
  | none => []
  | some binding => binding.subjects

/-- The service account of the user is a subject of the role binding of
Portainer in the namespace. -/
def Bound (kcl : KubeClient) (userID : UserID) (h : Host) (ns : String) : Prop :=
  subject (kcl.userServiceAccountName userID) ∈
    subjectsOf (kcl.binding (h.clusters kcl.endpointID) ns)

instance {ns : String} : Decidable (kcl.Bound userID h ns) := inferInstanceAs (Decidable (_ ∈ _))

/-- The computed policy grants the namespace to the user: it is the default
one, or its policy names the user or one of the teams. -/
def Grants (kcl : KubeClient) (userID : UserID) (teamIDs : List TeamID) (h : Host) (ns : String) : Prop :=
  ns = defaultNamespace ∨
    ∃ p, kcl.storedPolicies h = some p ∧ granted p userID teamIDs ns = true

/-- The subjects of a binding without the service account. -/
def othersOf (sa : String) (o : Option RoleBinding) : List Subject :=
  (subjectsOf o).filter (· ≠ subject sa)

/-- No binding has lost or gained any other subject. -/
def OthersKept (kcl : KubeClient) (userID : UserID) (c c' : Cluster) : Prop :=
  (∀ ns name, othersOf (kcl.userServiceAccountName userID) (c'.roleBindings ns name) =
    othersOf (kcl.userServiceAccountName userID) (c.roleBindings ns name)) ∧
  ∀ name, othersOf (kcl.userServiceAccountName userID) (c'.clusterRoleBindings name) =
    othersOf (kcl.userServiceAccountName userID) (c.clusterRoleBindings name)

/-- **The bindings follow the policies**: after a setup that succeeds, in
whichever way calls have failed before it, the service account is bound
exactly where the computed policy grants the namespace, nobody else is
affected, and another setup, successful or not, changes nothing. -/
def FollowsPolicies (kcl : KubeClient) (userID : UserID) (teamIDs : List TeamID) (h : Host) : Prop :=
  ∀ w w', w.store = h → (kcl.setupUserServiceAccount userID teamIDs).run w = (.ok (), w') →
    (∀ ns ∈ (h.clusters kcl.endpointID).namespaces,
      kcl.Bound userID w'.store ns ↔ kcl.Grants userID teamIDs h ns) ∧
    kcl.OthersKept userID (h.clusters kcl.endpointID) (w'.store.clusters kcl.endpointID) ∧
    ∀ v : Sys Callee Host, v.store = w'.store →
      ((kcl.setupUserServiceAccount userID teamIDs).run v).2.store = w'.store

/-- What the setup relies on, in one namespace. Where the namespace is
granted, a subject of the name is the service account. Where it is not, and
there are policies, every subject of the name is. Without a config map the
service account must not be bound already. -/
def Unmistaken (kcl : KubeClient) (userID : UserID) (teamIDs : List TeamID) (h : Host) (ns : String) :
    Prop :=
  let subjects := subjectsOf (kcl.binding (h.clusters kcl.endpointID) ns)
  let sa := kcl.userServiceAccountName userID
  (kcl.Grants userID teamIDs h ns → subject sa ∈ subjects ∨ ∀ s ∈ subjects, s.name ≠ sa) ∧
  (¬ kcl.Grants userID teamIDs h ns → kcl.storedPolicies h ≠ none →
    ∀ s ∈ subjects, s.name = sa → s = subject sa) ∧
  (¬ kcl.Grants userID teamIDs h ns → kcl.storedPolicies h = none → subject sa ∉ subjects)

/-! ## One binding -/

section Binding

variable {sa : String} {o : Option RoleBinding} {roleRef : RoleRef}

theorem not_named_iff {b : RoleBinding} : named sa b = false ↔ ∀ s ∈ b.subjects, s.name ≠ sa := by
  simp [named]

/-- A binding that was ensured has the service account, unless another
subject stood in its place. -/
theorem mem_ensured : subject sa ∈ subjectsOf (some (ensured roleRef sa o)) ↔
    subject sa ∈ subjectsOf o ∨ ∀ s ∈ subjectsOf o, s.name ≠ sa := by
  cases o with
  | none => simp [ensured, subjectsOf]
  | some b =>
    cases hnamed : named sa b with
    | false =>
      have hfree := not_named_iff.mp hnamed
      simp only [ensured, hnamed, withSubject, subjectsOf, Bool.false_eq_true, if_false]
      exact ⟨fun _ => .inr hfree, fun _ => by simp⟩
    | true =>
      rw [ensured_of_named hnamed]
      refine ⟨.inl, fun hor => hor.elim id fun hfree => ?_⟩
      rw [not_named_iff.mpr hfree] at hnamed
      cases hnamed

/-- It has lost and gained nobody else. -/
theorem othersOf_ensured : othersOf sa (some (ensured roleRef sa o)) = othersOf sa o := by
  cases o with
  | none => simp [othersOf, subjectsOf, ensured]
  | some b =>
    cases hnamed : named sa b with
    | false => simp [othersOf, subjectsOf, ensured, hnamed, withSubject]
    | true => rw [ensured_of_named hnamed]

theorem subject_not_mem_removed : subject sa ∉ subjectsOf (o.map (removed sa)) := by
  cases o with
  | none => simp [subjectsOf]
  | some b => simp [subjectsOf, removed, subject]

/-- A binding without the subjects of a name has lost nobody else exactly
where only the service account has the name. -/
theorem othersOf_removed : othersOf sa (o.map (removed sa)) = othersOf sa o ↔
    ∀ s ∈ subjectsOf o, s.name = sa → s = subject sa := by
  have hremoved : subjectsOf (o.map (removed sa)) = (subjectsOf o).filter fun s => s.name ≠ sa := by
    cases o <;> rfl
  unfold othersOf
  rw [hremoved, List.filter_filter]
  constructor
  · intro heq s hs hname
    by_contra hne
    have hmem : s ∈ (subjectsOf o).filter (· ≠ subject sa) := by simp [hs, hne]
    rw [← heq] at hmem
    simp [hname] at hmem
  · intro hown
    refine List.filter_congr fun s hs => ?_
    by_cases hname : s.name = sa
    · simp [hown s hs hname]
    · simp [hname]

end Binding

/-! ## The cluster afterwards -/

/-- **Where the service account is bound afterwards.** -/
theorem bound_setUp {ns : String} (hcan : kcl.CanSetUp h)
    (hns : ns ∈ (h.clusters kcl.endpointID).namespaces) :
    (kcl.Bound userID (h.alterCluster kcl.endpointID
        (kcl.setUp (kcl.storedPolicies h) userID teamIDs)) ns ↔ kcl.Grants userID teamIDs h ns) ∧
      othersOf (kcl.userServiceAccountName userID) (kcl.binding
          (kcl.setUp (kcl.storedPolicies h) userID teamIDs (h.clusters kcl.endpointID)) ns) =
        othersOf (kcl.userServiceAccountName userID) (kcl.binding (h.clusters kcl.endpointID) ns) ↔
      kcl.Unmistaken userID teamIDs h ns := by
  unfold Bound Unmistaken
  rw [Host.alterCluster_self, binding_setUp]
  by_cases hdefault : ns = defaultNamespace
  · have hgrants : kcl.Grants userID teamIDs h ns := .inl hdefault
    rw [if_pos hdefault]
    simp only [settled, if_true, mem_ensured, othersOf_ensured, hgrants, not_true, false_imp_iff,
      iff_true, and_true, true_imp_iff]
  · rw [if_neg hdefault, if_pos hns]
    cases hstored : kcl.storedPolicies h with
    | none =>
      have hgrants : ¬ kcl.Grants userID teamIDs h ns := by
        rintro (hns' | ⟨p, hp, -⟩)
        · exact hdefault hns'
        · rw [hstored] at hp
          cases hp
      simp [hgrants]
    | some p =>
      have hgranted : kcl.Grants userID teamIDs h ns ↔ granted p userID teamIDs ns = true := by
        unfold Grants
        simp [hdefault, hstored]
      cases hg : granted p userID teamIDs ns with
      | true => simp [settled, mem_ensured, othersOf_ensured, hgranted, hg]
      | false => simp [settled, subject_not_mem_removed, othersOf_removed, hgranted, hg]

/-- A role binding of another name is as it was. -/
theorem roleBindings_setUp {p : Option NamespaceAccessPolicies} {c : Cluster} {ns name : String}
    (hname : name ≠ kcl.namespaceClusterRoleBindingName ns) :
    (kcl.setUp p userID teamIDs c).roleBindings ns name = c.roleBindings ns name := by
  have haccount : (kcl.setUpAccount userID c).roleBindings ns name = c.roleBindings ns name := by
    refine setUpAccount_roleBindings fun h => hname ?_
    rw [h.1]
    exact h.2
  cases p with
  | none => exact haccount
  | some p =>
    rw [setUp, setUpNamespaces, roleBindings_foldl hname]
    exact haccount

theorem clusterRoleBindings_setUp {p : Option NamespaceAccessPolicies} {c : Cluster} :
    (kcl.setUp p userID teamIDs c).clusterRoleBindings = (kcl.setUpAccount userID c).clusterRoleBindings := by
  cases p with
  | none => rfl
  | some p =>
    obtain ⟨roleBindings, heq⟩ := setUpNamespaces_eq kcl p userID teamIDs
      (kcl.setUpAccount userID c) (kcl.setUpAccount userID c).namespaces
    rw [setUp, setUpNamespaces, heq]

/-- **Other subjects can be lost in the bindings of the namespaces only.** -/
theorem othersKept_setUp {p : Option NamespaceAccessPolicies} {c : Cluster} :
    kcl.OthersKept userID c (kcl.setUp p userID teamIDs c) ↔ ∀ ns ∈ c.namespaces,
      othersOf (kcl.userServiceAccountName userID) (kcl.binding (kcl.setUp p userID teamIDs c) ns) =
        othersOf (kcl.userServiceAccountName userID) (kcl.binding c ns) := by
  refine ⟨fun hkept ns _ => hkept.1 ns _, fun hkept => ⟨fun ns name => ?_, fun name => ?_⟩⟩
  · by_cases hname : name = kcl.namespaceClusterRoleBindingName ns
    · subst hname
      by_cases hns : ns ∈ c.namespaces
      · exact hkept ns hns
      · have hdefault : ns ≠ defaultNamespace := fun heq => hns (heq ▸ c.default_mem)
        show othersOf _ (kcl.binding _ ns) = othersOf _ (kcl.binding c ns)
        rw [binding_setUp, if_neg hdefault, if_neg hns]
    · rw [roleBindings_setUp hname]
  · rw [clusterRoleBindings_setUp, setUpAccount_clusterRoleBindings]
    by_cases hname : name = portainerUserCRBName
    · rw [if_pos hname, othersOf_ensured, hname]
    · rw [if_neg hname]

/-! ## The second time -/

section Second

variable {accessPolicies : Option NamespaceAccessPolicies}

/-- **A setup of what is settled changes nothing**, however it ends. -/
theorem returns_setup (hcan : kcl.CanSetUp h) (hstored : kcl.storedPolicies h = accessPolicies)
    (hs : kcl.Settled accessPolicies userID teamIDs (h.clusters kcl.endpointID)) :
    Returns (kcl.setupUserServiceAccount userID teamIDs) h fun _ => True := by
  have hrole : Returns kcl.createPortainerUserClusterRole h fun _ => True :=
    Performs.returns Performs.once hs.clusterRole
  have haccount : Returns (kcl.createUserServiceAccount portainerNamespace
      (kcl.userServiceAccountName userID)) h fun _ => True :=
    Performs.returns (Performs.onceIn hcan.1) hs.account
  have htoken : Returns (kcl.createServiceAccountToken (kcl.userServiceAccountName userID)) h
      fun _ => True := Performs.returns (Performs.onceIn hcan.1) hs.token
  have huser : Returns (kcl.ensureServiceAccountHasPortainerUserClusterRole
      (kcl.userServiceAccountName userID)) h fun _ => True :=
    Performs.returns performs_ensureClusterRole hs.userSubject
  have hdefault : Returns (kcl.ensureNamespaceAccessForServiceAccount
      (kcl.userServiceAccountName userID) defaultNamespace) h fun _ => True :=
    Performs.returns (performs_ensure (Cluster.default_mem _)) hs.default
  refine hrole.bind fun _ _ => Returns.bind (Q := fun _ => True) ?_ fun _ _ => ?_
  · exact haccount.bind fun _ _ => htoken.bind fun _ _ => huser.bind fun _ _ => hdefault
  have hget : Returns ((Action.zoom Host.server (fun h server => { h with server := server })
      (getConfigMap kcl.endpointID)).mapError APIError.failed : API (Option ConfigMap)) h
      fun configMap => configMap = h.server.configMaps[kcl.endpointID]? :=
    Returns.mapError (Returns.zoom (Returns.query rfl) rfl)
  refine hget.bind fun configMap hconfigMap => ?_
  cases configMap with
  | none => exact Returns.pure trivial
  | some configMap =>
    refine (Returns.mapError (Returns.ofExcept fun p hp => hp)).bind fun p hp => ?_
    have hdecoded : accessPolicies = some p := by
      rw [← hstored, storedPolicies, policies, ← hconfigMap]
      cases hpolicies : configMap.accessPolicies with
      | none => simp [unmarshal, hpolicies] at hp
      | some q =>
        simp only [unmarshal, hpolicies, Except.ok.injEq] at hp
        simp [hpolicies, hp]
    have hread : Returns (kcl.read Cluster.namespaces) h
        fun namespaces => namespaces = (h.clusters kcl.endpointID).namespaces :=
      Returns.mapError (Returns.query rfl)
    refine hread.bind fun namespaces hnamespaces => ?_
    subst hnamespaces
    exact Returns.forM fun ns hns =>
      Performs.returns (performs_setupNamespaceAccess hns) (hs.namespaces p hdecoded ns hns)

end Second

theorem CanSetUp.alterCluster {f : Cluster → Cluster} (hcan : kcl.CanSetUp h)
    (hf : (f (h.clusters kcl.endpointID)).namespaces = (h.clusters kcl.endpointID).namespaces) :
    kcl.CanSetUp (h.alterCluster kcl.endpointID f) := by
  refine ⟨?_, hcan.2⟩
  rw [Host.alterCluster_self, hf]
  exact hcan.1

/-! ## The two together -/

/-- **The bindings follow the policies exactly where no subject is
mistaken** in any namespace of the cluster, or no setup can succeed. -/
theorem followsPolicies_iff (kcl : KubeClient) (userID : UserID) (teamIDs : List TeamID) (h : Host) :
    kcl.FollowsPolicies userID teamIDs h ↔
      (kcl.CanSetUp h → ∀ ns ∈ (h.clusters kcl.endpointID).namespaces,
        kcl.Unmistaken userID teamIDs h ns) := by
  let h' : Host := h.alterCluster kcl.endpointID (kcl.setUp (kcl.storedPolicies h) userID teamIDs)
  constructor
  · -- without faults the setup succeeds where it can
    intro hfollows hcan ns hns
    have hrun := runs_setupUserServiceAccount kcl True userID teamIDs h (.faultless h) (fun k _ o ho => by simp at ho) rfl
    rcases hsetup : (kcl.setupUserServiceAccount userID teamIDs).run (.faultless h) with ⟨e | u, w'⟩
    · rw [hsetup] at hrun
      exact absurd hcan (hrun.1 trivial)
    · rw [hsetup] at hrun
      have hstore : w'.store = h' := hrun.1.2
      obtain ⟨hbound, hkept, -⟩ := hfollows (.faultless h) w' rfl hsetup
      rw [hstore] at hbound hkept
      refine (bound_setUp hcan hns).mp ⟨hbound ns hns, ?_⟩
      have hcluster : h'.clusters kcl.endpointID =
        kcl.setUp (kcl.storedPolicies h) userID teamIDs (h.clusters kcl.endpointID) :=
        Host.alterCluster_self
      rw [hcluster] at hkept
      exact othersKept_setUp.mp hkept ns hns
  · intro hunmistaken w w' hw hrun
    have hends := Runs.ensures (runs_setupUserServiceAccount kcl False userID teamIDs h) w () w' hw hrun
    obtain ⟨hcan, hstore⟩ := hends
    have hparts := fun ns hns => (bound_setUp hcan hns).mpr (hunmistaken hcan ns hns)
    rw [hstore]
    refine ⟨fun ns hns => (hparts ns hns).1, ?_, fun v hv => ?_⟩
    · rw [Host.alterCluster_self]
      exact othersKept_setUp.mpr fun ns hns => (hparts ns hns).2
    · have hsettled : kcl.Settled (kcl.storedPolicies h) userID teamIDs (h'.clusters kcl.endpointID) := by
        rw [show h'.clusters kcl.endpointID = _ from Host.alterCluster_self]
        exact settled_setUp _
      have hcan' : kcl.CanSetUp h' := hcan.alterCluster (setUp_namespaces _)
      have hreturns := returns_setup hcan' rfl hsettled
      rcases hv' : (kcl.setupUserServiceAccount userID teamIDs).run v with ⟨e | u, v'⟩
      · exact hreturns.run_error hv hv'
      · exact (hreturns.run_ok hv hv').1

theorem default_mem_dev : defaultNamespace ∈ [defaultNamespace, portainerNamespace, "dev"] := List.mem_cons_self

/-- An environment with a namespace `dev` that user 2 was bound to. The
config map has been deleted since. -/
def leftBehind : Host where
  clusters := fun _ =>
    { namespaces := [defaultNamespace, portainerNamespace, "dev"]
      default_mem := default_mem_dev
      roleBindings := fun ns name =>
        if ns = "dev" ∧ name = "portainer-rb-p-dev" then
          some ⟨[subject "portainer-sa-user-p-2"], ⟨"ClusterRole", "edit"⟩⟩
        else none }

/-- **The bindings do not follow the policies without a config map**: no
policy grants the namespace, and the service account stays bound there. -/
theorem not_followsPolicies : ¬ KubeClient.FollowsPolicies ⟨1, "p"⟩ 2 [] leftBehind := by
  intro hfollows
  have hrun : ∃ w', (setupUserServiceAccount ⟨1, "p"⟩ 2 []).run (.faultless leftBehind) = (.ok (), w') ∧
      Bound ⟨1, "p"⟩ 2 w'.store "dev" := ⟨_, rfl, by decide⟩
  obtain ⟨w', hrun, hbound⟩ := hrun
  have hgrants := ((hfollows _ w' rfl hrun).1 "dev" (by decide)).mp hbound
  rcases hgrants with hdefault | ⟨p, hp, -⟩
  · exact absurd hdefault (by decide)
  · cases hp

end KubeClient

end Kubernetes

end Portainer
