import Portainer.Kubernetes.Helpers.Access
import Portainer.Kubernetes.Model.Cluster
/-!
# What the setup of a service account does to a cluster

Each operation makes one change of the cluster or none, so the setup of a
service account is a chain of changes. Each change is idempotent: where it
has been made it is the identity, and a cluster on which they have all been
made is left as it is.
-/

namespace Portainer

open Action (Returns Runs Meets)

namespace Kubernetes

/-! ## Objects and clusters -/

namespace Objects

variable {α : Type} {objects : Objects α} {ns name : String} {a : α}

@[simp] theorem put_self : objects.put ns name a ns name = some a := by
  simp [put]

/-- Replacing an object by itself changes nothing. -/
theorem put_eq_self (h : objects ns name = some a) : objects.put ns name a = objects := by
  funext ns' name'
  unfold put
  split
  · rename_i heq
    rw [heq.1, heq.2, h]
  · rfl

end Objects

namespace Host

variable {id : EndpointID} {h : Host}

@[simp] theorem alterCluster_self {f : Cluster → Cluster} :
    (h.alterCluster id f).clusters id = f (h.clusters id) := by
  simp [alterCluster]

theorem alterCluster_of_ne {f : Cluster → Cluster} {j : EndpointID} (hj : j ≠ id) :
    (h.alterCluster id f).clusters j = h.clusters j := by
  simp [alterCluster, hj]

@[simp] theorem alterCluster_server {f : Cluster → Cluster} :
    (h.alterCluster id f).server = h.server := rfl

theorem alterCluster_alterCluster {f g : Cluster → Cluster} :
    (h.alterCluster id f).alterCluster id g = h.alterCluster id fun c => g (f c) := by
  unfold alterCluster
  congr 1
  funext j
  by_cases hj : j = id <;> simp [hj]

/-- Changes in a row are one change. -/
theorem foldl_alterCluster {α : Type} {f : α → Cluster → Cluster} {l : List α} :
    l.foldl (fun h a => h.alterCluster id (f a)) h =
      h.alterCluster id fun c => l.foldl (fun c a => f a c) c := by
  induction l generalizing h with
  | nil =>
    unfold alterCluster
    simp
  | cons a l ih => rw [List.foldl_cons, ih, alterCluster_alterCluster]; rfl

/-- A change that is none. -/
theorem alterCluster_eq_self {f : Cluster → Cluster} (hf : f (h.clusters id) = h.clusters id) :
    h.alterCluster id f = h := by
  have hclusters : (fun j => if j = id then f (h.clusters j) else h.clusters j) = h.clusters := by
    funext j
    by_cases hj : j = id
    · rw [if_pos hj, hj, hf]
    · rw [if_neg hj]
  unfold alterCluster
  rw [hclusters]

end Host

namespace KubeClient

variable {kcl : KubeClient} {h : Host} {calm : Prop} {sa ns : String}

/-! ## One change -/

/-- **The program makes one change of the cluster**, or it fails and leaves
everything as it was. It fails only where a call does, and never by saying
that an object is there. -/
def Performs (kcl : KubeClient) (calm : Prop) (x : API Unit) (h : Host) (g : Cluster → Cluster) : Prop :=
  Meets (fun _ => calm) (· = h) x (fun _ h' => h' = h.alterCluster kcl.endpointID g)
    fun err h' => h' = h ∧ ¬ calm ∧ err ≠ .alreadyExists

namespace Performs

variable {x : API Unit} {g g' : Cluster → Cluster}

theorem of_eq (hx : Performs kcl calm x h g)
    (heq : g (h.clusters kcl.endpointID) = g' (h.clusters kcl.endpointID)) :
    Performs kcl calm x h g' := by
  have halter : h.alterCluster kcl.endpointID g = h.alterCluster kcl.endpointID g' := by
    unfold Host.alterCluster
    congr 1
    funext j
    by_cases hj : j = kcl.endpointID
    · rw [if_pos hj, if_pos hj, hj, heq]
    · rw [if_neg hj, if_neg hj]
  unfold Performs at *
  rwa [← halter]

/-- Doing nothing, where there is nothing to do. -/
theorem pure_of_eq (hg : g (h.clusters kcl.endpointID) = h.clusters kcl.endpointID) :
    Performs kcl calm (pure ()) h g :=
  Meets.pure fun _ hs => hs.trans (Host.alterCluster_eq_self hg).symm

theorem write : Performs kcl calm (kcl.write g) h g := by
  refine Meets.mapError (Meets.call (fun s hs => by subst hs; rfl) fun hk s text hs => ?_)
  exact ⟨hs, hk, by simp⟩

/-- What is read, and a change that depends on it. -/
theorem read_bind {α : Type} {f : Cluster → α} {k : α → API Unit}
    (hk : Performs kcl calm (k (f (h.clusters kcl.endpointID))) h g) :
    Performs kcl calm (kcl.read f >>= k) h g := by
  have hread : Meets (fun _ => calm) (· = h) (kcl.read f)
      (fun a h' => h' = h ∧ a = f (h.clusters kcl.endpointID))
      fun err h' => h' = h ∧ ¬ calm ∧ err ≠ .alreadyExists := by
    refine Meets.mapError (Meets.query (fun s hs => ?_) fun hk s text hs => ⟨hs, hk, by simp⟩)
    subst hs
    exact ⟨rfl, rfl⟩
  refine hread.bind fun a => ?_
  intro w hR hw
  obtain ⟨hstore, rfl⟩ := hw
  exact hk w hR hstore

theorem create {α : Type} {current : Cluster → Option α}
    (hfree : current (h.clusters kcl.endpointID) = none) :
    Performs kcl calm (kcl.create current g) h g := by
  refine Meets.bind (M := fun taken h' => h' = h ∧ taken = false) (Meets.get fun s hs => ?_) fun taken => ?_
  · subst hs
    simp [hfree]
  · intro w hR hw
    obtain ⟨hstore, rfl⟩ := hw
    exact write w hR hstore

theorem createIn {α : Type} {current : Cluster → Option α}
    (hns : ns ∈ (h.clusters kcl.endpointID).namespaces)
    (hfree : current (h.clusters kcl.endpointID) = none) :
    Performs kcl calm (kcl.createIn ns current g) h g := by
  refine Meets.bind (M := fun namespaces h' => h' = h ∧ ns ∈ namespaces) (Meets.get fun s hs => ?_)
    fun namespaces => ?_
  · subst hs
    exact ⟨rfl, hns⟩
  · intro w hR hw
    obtain ⟨hstore, hmem⟩ := hw
    simp only [Action.require, if_pos hmem]
    exact create hfree w hR hstore

/-- An error that would be passed over does not occur. -/
theorem attempt (hx : Performs kcl calm x h g) :
    Performs kcl calm (do let result ← x.attempt; unlessExists result) h g := by
  have hattempt : Meets (fun _ => calm) (· = h) (x.attempt : API (Except APIError Unit))
      (fun result h' => match result with
        | .ok _ => h' = h.alterCluster kcl.endpointID g
        | .error err => h' = h ∧ ¬ calm ∧ err ≠ .alreadyExists)
      fun err h' => h' = h ∧ ¬ calm ∧ err ≠ .alreadyExists := Meets.attempt hx
  refine hattempt.bind fun result => ?_
  rcases result with err | u
  · intro w hR hw
    have hfail : unlessExists (.error err) = Action.fail err := by
      cases err with
      | alreadyExists => exact absurd rfl hw.2.2
      | notFound => rfl
      | failed text => rfl
    rw [hfail]
    exact ⟨hw, hR⟩
  · exact Meets.pure fun _ hs => hs

theorem runs {E : Host → Prop} (hx : Performs kcl calm x h g) :
    Runs calm x h (fun _ h' => h' = h.alterCluster kcl.endpointID g) E :=
  hx.conseq (fun _ hs => hs) (fun _ _ hs => hs) fun _ _ he hc => absurd hc he.2.1

/-- A change that is none leaves everything as it is, however it ends. -/
theorem returns (hx : Performs kcl False x h g)
    (hg : g (h.clusters kcl.endpointID) = h.clusters kcl.endpointID) :
    Returns x h fun _ => True :=
  hx.conseq (fun _ hs => hs) (fun _ _ hs => ⟨hs.trans (Host.alterCluster_eq_self hg), trivial⟩)
    fun _ _ he => he.1

end Performs

/-! ## The changes -/

/-- What a creation leaves, where the object may be there already. -/
def once {α : Type} (current : Cluster → Option α) (f : Cluster → Cluster) (c : Cluster) : Cluster :=
  if (current c).isSome then c else f c

theorem isSome_once {α : Type} (current : Cluster → Option α) {f : Cluster → Cluster} {c : Cluster}
    (hf : (current (f c)).isSome = true) : (current (once current f c)).isSome = true := by
  unfold once
  split
  · assumption
  · exact hf

theorem once_eq_self {α : Type} {current : Cluster → Option α} {f : Cluster → Cluster} {c : Cluster}
    (hc : (current c).isSome = true) : once current f c = c := by
  rw [once, if_pos hc]

/-- What the creation leaves alone. -/
theorem once_field {α β : Type} {current : Cluster → Option α} {f : Cluster → Cluster} {c : Cluster}
    {p : Cluster → β} (hf : p (f c) = p c) : p (once current f c) = p c := by
  unfold once
  split
  · rfl
  · exact hf

/-- A creation whose caller passes over that the object is there. -/
theorem Performs.once {α : Type} {current : Cluster → Option α} {g : Cluster → Cluster} :
    Performs kcl calm (do let result ← (kcl.create current g).attempt; unlessExists result) h
      (once current g) := by
  cases hc : current (h.clusters kcl.endpointID) with
  | none => exact (create hc).attempt.of_eq (by simp [KubeClient.once, hc])
  | some a =>
    intro w hR hw
    have hend : h.alterCluster kcl.endpointID (KubeClient.once current g) = h :=
      Host.alterCluster_eq_self (by simp [KubeClient.once, hc])
    have hrun : (do let result ← (kcl.create current g).attempt; unlessExists result : API Unit).run w =
        (.ok (), w) := by
      simp [Action.bind_run, Action.attempt_run, KubeClient.create, Action.get, Action.require, hw, hc,
        unlessExists]
    rw [hrun]
    exact ⟨hw.trans hend.symm, hR⟩

/-- The same in a namespace that is there. -/
theorem Performs.onceIn {α : Type} {current : Cluster → Option α} {g : Cluster → Cluster}
    (hns : ns ∈ (h.clusters kcl.endpointID).namespaces) :
    Performs kcl calm (do let result ← (kcl.createIn ns current g).attempt; unlessExists result) h
      (KubeClient.once current g) := by
  have hcreate : ∀ w : Sys Callee Host, w.store = h →
      (kcl.createIn ns current g).run w = (kcl.create current g).run w := by
    intro w hw
    simp [KubeClient.createIn, Action.bind_run, Action.get, Action.require, hw, hns]
  intro w hR hw
  have hrun : (do let result ← (kcl.createIn ns current g).attempt; unlessExists result : API Unit).run w =
      (do let result ← (kcl.create current g).attempt; unlessExists result : API Unit).run w := by
    simp only [Action.bind_run, Action.attempt_run, hcreate w hw]
  rw [hrun]
  exact Performs.once w hR hw

/-- `createPortainerUserClusterRole`, as a change. -/
def withClusterRole : Cluster → Cluster :=
  once (fun c => c.clusterRoles portainerUserCRName) fun c =>
    { c with clusterRoles := fun name =>
        if name = portainerUserCRName then some getPortainerUserDefaultPolicies
        else c.clusterRoles name }

/-- `createUserServiceAccount`, as a change. -/
def withAccount (sa : String) : Cluster → Cluster :=
  once (fun c => c.serviceAccounts portainerNamespace sa) fun c =>
    { c with serviceAccounts := c.serviceAccounts.put portainerNamespace sa () }

/-- `createServiceAccountToken`, as a change. -/
def withToken (kcl : KubeClient) (sa : String) : Cluster → Cluster :=
  once (fun c => c.secrets portainerNamespace (kcl.userServiceAccountTokenSecretName sa)) fun c =>
    { c with
      secrets := c.secrets.put portainerNamespace (kcl.userServiceAccountTokenSecretName sa)
        (serviceAccountSecret sa) }

/-- A binding that is ensured to have a service account: nothing happens
where a subject has its name. -/
def ensured (roleRef : RoleRef) (sa : String) : Option RoleBinding → RoleBinding
  | none => ⟨[subject sa], roleRef⟩
  | some binding => if named sa binding then binding else withSubject sa binding

/-- A binding without the subjects of the name. -/
def removed (sa : String) (binding : RoleBinding) : RoleBinding :=
  { binding with subjects := binding.subjects.filter fun subject => subject.name ≠ sa }

/-- `ensureServiceAccountHasPortainerUserClusterRole`, as a change. -/
def withUserSubject (sa : String) (c : Cluster) : Cluster :=
  withUserBinding
    (ensured ⟨"ClusterRole", portainerUserCRName⟩ sa (c.clusterRoleBindings portainerUserCRBName)) c

/-- What becomes of the binding of a namespace. -/
def settled (sa : String) (grants : Bool) (o : Option RoleBinding) : Option RoleBinding :=
  if grants then some (ensured ⟨"ClusterRole", "edit"⟩ sa o) else o.map (removed sa)

/-- A namespace whose access has been set up, as a change. -/
def settle (kcl : KubeClient) (sa : String) (grants : Bool) (ns : String) (c : Cluster) : Cluster :=
  match settled sa grants (kcl.binding c ns) with
  | none => c
  | some binding => kcl.withBinding ns binding c

/-! ## Their parts -/

section Settle

variable {c : Cluster} {grants : Bool} {roleRef : RoleRef} {o : Option RoleBinding}

@[simp] theorem withBinding_namespaces {b : RoleBinding} :
    (kcl.withBinding ns b c).namespaces = c.namespaces := rfl

@[simp] theorem settle_namespaces : (kcl.settle sa grants ns c).namespaces = c.namespaces := by
  unfold settle
  split <;> rfl

@[simp] theorem binding_withBinding {b : RoleBinding} :
    kcl.binding (kcl.withBinding ns b c) ns = some b := by
  simp [binding, withBinding]

theorem roleBindings_withBinding {b : RoleBinding} {ns' name : String}
    (hne : ¬ (ns' = ns ∧ name = kcl.namespaceClusterRoleBindingName ns)) :
    (kcl.withBinding ns b c).roleBindings ns' name = c.roleBindings ns' name := by
  simp [withBinding, Objects.put, hne]

/-- Replacing a binding by itself changes nothing. -/
theorem withBinding_eq_self {b : RoleBinding} (hb : kcl.binding c ns = some b) :
    kcl.withBinding ns b c = c := by
  unfold withBinding
  rw [Objects.put_eq_self hb]

/-- The binding of the namespace is settled, -/
theorem binding_settle : kcl.binding (kcl.settle sa grants ns c) ns =
    settled sa grants (kcl.binding c ns) := by
  unfold settle
  split
  · rename_i hnone
    rw [hnone]
    cases grants with
    | true => simp [settled] at hnone
    | false =>
      cases hb : kcl.binding c ns with
      | none => rfl
      | some b => rw [hb] at hnone; simp [settled] at hnone
  · rename_i hsome
    rw [hsome]
    exact binding_withBinding

/-- and no other is touched. -/
theorem roleBindings_settle {ns' name : String}
    (hne : ¬ (ns' = ns ∧ name = kcl.namespaceClusterRoleBindingName ns)) :
    (kcl.settle sa grants ns c).roleBindings ns' name = c.roleBindings ns' name := by
  unfold settle
  split
  · rfl
  · exact roleBindings_withBinding hne

@[simp] theorem settle_clusterRoleBindings :
    (kcl.settle sa grants ns c).clusterRoleBindings = c.clusterRoleBindings := by
  unfold settle
  split <;> rfl

/-- A subject of the name is in a binding that was ensured. -/
theorem named_ensured : named sa (ensured roleRef sa o) = true := by
  unfold ensured
  split
  · simp [named, subject]
  · split
    · assumption
    · simp [named, withSubject, subject]

theorem ensured_of_named {b : RoleBinding} (hb : named sa b = true) :
    ensured roleRef sa (some b) = b := by
  simp [ensured, hb]

theorem removed_removed {b : RoleBinding} : removed sa (removed sa b) = removed sa b := by
  simp [removed, List.filter_filter]

/-- **Settling is idempotent.** -/
theorem settled_settled : settled sa grants (settled sa grants o) = settled sa grants o := by
  cases grants with
  | true =>
    simp only [settled, if_true]
    rw [ensured_of_named named_ensured]
  | false =>
    cases o with
    | none => rfl
    | some b => simp [settled, removed_removed]

theorem settle_eq_self (hb : settled sa grants (kcl.binding c ns) = kcl.binding c ns) :
    kcl.settle sa grants ns c = c := by
  unfold settle
  rw [hb]
  split
  · rfl
  · rename_i hsome
    exact withBinding_eq_self hsome

end Settle

/-! ## The operations -/

theorem performs_ensureClusterRole : Performs kcl calm
    (kcl.ensureServiceAccountHasPortainerUserClusterRole sa) h (withUserSubject sa) := by
  refine Performs.read_bind ?_
  cases hb : (h.clusters kcl.endpointID).clusterRoleBindings portainerUserCRBName with
  | none =>
    refine (Performs.create hb).of_eq ?_
    rw [withUserSubject, hb]
    rfl
  | some b =>
    show Performs kcl calm (if named sa b then pure () else kcl.write _) h _
    by_cases hnamed : named sa b = true
    · rw [if_pos hnamed]
      refine Performs.pure_of_eq ?_
      rw [withUserSubject, hb, ensured_of_named hnamed, withUserBinding]
      congr 1
      funext name
      by_cases hname : name = portainerUserCRBName
      · rw [if_pos hname, hname, hb]
      · rw [if_neg hname]
    · rw [if_neg hnamed]
      refine Performs.write.of_eq ?_
      rw [withUserSubject, hb, ensured, if_neg hnamed]

theorem performs_ensure (hns : ns ∈ (h.clusters kcl.endpointID).namespaces) : Performs kcl calm
    (kcl.ensureNamespaceAccessForServiceAccount sa ns) h (kcl.settle sa true ns) := by
  refine Performs.read_bind ?_
  cases hb : kcl.binding (h.clusters kcl.endpointID) ns with
  | none =>
    refine (Performs.createIn hns hb).of_eq ?_
    simp [settle, hb, settled, ensured]
  | some b =>
    show Performs kcl calm (if named sa b then pure () else kcl.write _) h _
    by_cases hnamed : named sa b = true
    · rw [if_pos hnamed]
      refine Performs.pure_of_eq (settle_eq_self ?_)
      rw [hb, settled, if_pos rfl, ensured_of_named hnamed]
    · rw [if_neg hnamed]
      refine Performs.write.of_eq ?_
      simp [settle, hb, settled, ensured, hnamed]

theorem performs_remove : Performs kcl calm
    (kcl.removeNamespaceAccessForServiceAccount sa ns) h (kcl.settle sa false ns) := by
  refine Performs.read_bind ?_
  cases hb : kcl.binding (h.clusters kcl.endpointID) ns with
  | none => exact Performs.pure_of_eq (settle_eq_self (by rw [hb]; rfl))
  | some b =>
    refine Performs.write.of_eq ?_
    simp [settle, hb, settled, removed]

/-! ## The namespaces -/

/-- The policies let the user, or a team of the user, into the
namespace. -/
def granted (accessPolicies : NamespaceAccessPolicies) (userID : UserID) (teamIDs : List TeamID)
    (ns : String) : Bool :=
  (accessPolicies[ns]?).any (hasUserAccessToNamespace userID teamIDs)

/-- One turn of the loop, as a change. -/
def setUpNamespace (kcl : KubeClient) (accessPolicies : NamespaceAccessPolicies) (userID : UserID)
    (teamIDs : List TeamID) (ns : String) (c : Cluster) : Cluster :=
  if ns = defaultNamespace then c
  else kcl.settle (kcl.userServiceAccountName userID) (granted accessPolicies userID teamIDs ns) ns c

/-- The loop, as a change. -/
def setUpNamespaces (kcl : KubeClient) (accessPolicies : NamespaceAccessPolicies) (userID : UserID)
    (teamIDs : List TeamID) (c : Cluster) : Cluster :=
  c.namespaces.foldl (fun c ns => kcl.setUpNamespace accessPolicies userID teamIDs ns c) c

/-- The changes before the loop. -/
def setUpAccount (kcl : KubeClient) (userID : UserID) (c : Cluster) : Cluster :=
  kcl.settle (kcl.userServiceAccountName userID) true defaultNamespace
    (withUserSubject (kcl.userServiceAccountName userID)
      (kcl.withToken (kcl.userServiceAccountName userID)
        (withAccount (kcl.userServiceAccountName userID) (withClusterRole c))))

/-- `SetupUserServiceAccount`, as a change. Without policies there is no
loop. -/
def setUp (kcl : KubeClient) (accessPolicies : Option NamespaceAccessPolicies) (userID : UserID)
    (teamIDs : List TeamID) (c : Cluster) : Cluster :=
  match accessPolicies with
  | none => kcl.setUpAccount userID c
  | some accessPolicies =>
    kcl.setUpNamespaces accessPolicies userID teamIDs (kcl.setUpAccount userID c)

section Loop

variable {accessPolicies : NamespaceAccessPolicies} {userID : UserID} {teamIDs : List TeamID}
variable {c : Cluster}

@[simp] theorem setUpNamespace_namespaces :
    (kcl.setUpNamespace accessPolicies userID teamIDs ns c).namespaces = c.namespaces := by
  unfold setUpNamespace
  split
  · rfl
  · exact settle_namespaces

@[simp] theorem withClusterRole_namespaces : (withClusterRole c).namespaces = c.namespaces :=
  once_field (p := Cluster.namespaces) rfl

@[simp] theorem withAccount_namespaces : (withAccount sa c).namespaces = c.namespaces :=
  once_field (p := Cluster.namespaces) rfl

@[simp] theorem withToken_namespaces : (kcl.withToken sa c).namespaces = c.namespaces :=
  once_field (p := Cluster.namespaces) rfl

@[simp] theorem withUserSubject_namespaces : (withUserSubject sa c).namespaces = c.namespaces := rfl

@[simp] theorem setUpAccount_namespaces : (kcl.setUpAccount userID c).namespaces = c.namespaces := by
  simp [setUpAccount]

theorem performs_setupNamespaceAccess (hns : ns ∈ (h.clusters kcl.endpointID).namespaces) :
    Performs kcl calm (kcl.setupNamespaceAccess accessPolicies userID teamIDs
        (kcl.userServiceAccountName userID) ns) h
      (kcl.setUpNamespace accessPolicies userID teamIDs ns) := by
  unfold setupNamespaceAccess
  by_cases hdefault : ns = defaultNamespace
  · rw [if_pos hdefault]
    exact Performs.pure_of_eq (by rw [setUpNamespace, if_pos hdefault])
  · rw [if_neg hdefault]
    have hturn : ∀ grants, granted accessPolicies userID teamIDs ns = grants →
        kcl.settle (kcl.userServiceAccountName userID) grants ns =
          kcl.setUpNamespace accessPolicies userID teamIDs ns := by
      rintro grants rfl
      funext c
      rw [setUpNamespace, if_neg hdefault]
    cases hpolicy : accessPolicies[ns]? with
    | none =>
      have hgrants : granted accessPolicies userID teamIDs ns = false := by rw [granted, hpolicy]; rfl
      rw [← hturn false hgrants]
      exact performs_remove
    | some policy =>
      have hgrants : granted accessPolicies userID teamIDs ns =
          hasUserAccessToNamespace userID teamIDs policy := by rw [granted, hpolicy]; rfl
      show Performs kcl calm (if hasUserAccessToNamespace userID teamIDs policy = false then _ else _) h _
      by_cases haccess : hasUserAccessToNamespace userID teamIDs policy = false
      · rw [if_pos haccess, ← hturn false (hgrants.trans haccess)]
        exact performs_remove
      · have hpass : hasUserAccessToNamespace userID teamIDs policy = true := by simpa using haccess
        rw [if_neg haccess, ← hturn true (hgrants.trans hpass)]
        exact (performs_ensure hns).attempt

/-- **The loop makes its turns.** -/
theorem runs_setupNamespaces {E : Host → Prop} :
    Runs calm ((h.clusters kcl.endpointID).namespaces.forM (kcl.setupNamespaceAccess accessPolicies
        userID teamIDs (kcl.userServiceAccountName userID))) h
      (fun _ h' => h' = h.alterCluster kcl.endpointID
        (kcl.setUpNamespaces accessPolicies userID teamIDs)) E := by
  let I : Host → Prop := fun h' =>
    (h'.clusters kcl.endpointID).namespaces = (h.clusters kcl.endpointID).namespaces
  let g : Host → String → Host := fun h' ns =>
    h'.alterCluster kcl.endpointID (kcl.setUpNamespace accessPolicies userID teamIDs ns)
  have hloop : Runs calm ((h.clusters kcl.endpointID).namespaces.forM (kcl.setupNamespaceAccess
      accessPolicies userID teamIDs (kcl.userServiceAccountName userID))) h
      (fun _ h' => h' = (h.clusters kcl.endpointID).namespaces.foldl g h) E := by
    refine Runs.forM_foldl (I := I) rfl (fun ns h' hI => ?_) fun ns hns h' hI => ?_
    · show ((h'.alterCluster _ _).clusters _).namespaces = _
      rw [Host.alterCluster_self, setUpNamespace_namespaces]
      exact hI
    · exact (performs_setupNamespaceAccess (by rw [show (h'.clusters _).namespaces = _ from hI]; exact hns)).runs
  refine hloop.conseq (fun _ h' hh' => ?_) fun _ _ he => he
  rw [hh', Host.foldl_alterCluster]
  unfold Host.alterCluster
  congr 1
  funext j
  by_cases hj : j = kcl.endpointID
  · rw [if_pos hj, if_pos hj, hj]
    rfl
  · rw [if_neg hj, if_neg hj]

end Loop

/-! ## The whole -/

/-- The setup can succeed: there is a namespace for Portainer, and the
policies decode if there are any. -/
def CanSetUp (kcl : KubeClient) (h : Host) : Prop :=
  portainerNamespace ∈ (h.clusters kcl.endpointID).namespaces ∧
    policies kcl.endpointID h.server ≠ some none

/-- The policies that are stored, where they decode. -/
def storedPolicies (kcl : KubeClient) (h : Host) : Option NamespaceAccessPolicies :=
  (policies kcl.endpointID h.server).join

section Setup

variable {userID : UserID} {teamIDs : List TeamID} {E : Host → Prop}

/-- Where there is no namespace for Portainer, no service account can be
created. -/
theorem runs_createUserServiceAccount_of_not_mem {Q : Unit → Host → Prop}
    (hns : ¬ portainerNamespace ∈ (h.clusters kcl.endpointID).namespaces) (hE : E h) :
    Runs calm (kcl.createUserServiceAccount portainerNamespace sa) h Q E := by
  intro w hR hw
  have hrun : (kcl.createUserServiceAccount portainerNamespace sa).run w = (.error .notFound, w) := by
    simp [createUserServiceAccount, createIn, Action.bind_run, Action.attempt_run, Action.get,
      Action.require, hw, hns, unlessExists]
  rw [hrun]
  exact ⟨fun _ => hw ▸ hE, hR⟩

/-- The part before the namespaces. -/
theorem runs_ensureServiceAccountForUserExists
    (hns : portainerNamespace ∈ (h.clusters kcl.endpointID).namespaces) :
    Runs calm (kcl.ensureServiceAccountForUserExists sa) h (fun _ h' => h' =
      h.alterCluster kcl.endpointID fun c => kcl.settle sa true defaultNamespace
        (withUserSubject sa (kcl.withToken sa (withAccount sa c)))) E := by
  have haccount : Performs kcl calm (kcl.createUserServiceAccount portainerNamespace sa) h
      (withAccount sa) := Performs.onceIn hns
  refine haccount.runs.move_bind fun _ => ?_
  have htoken : Performs kcl calm (kcl.createServiceAccountToken sa)
      (h.alterCluster kcl.endpointID (withAccount sa)) (kcl.withToken sa) :=
    Performs.onceIn (by rw [Host.alterCluster_self, withAccount_namespaces]; exact hns)
  refine htoken.runs.move_bind fun _ => ?_
  rw [Host.alterCluster_alterCluster]
  refine (performs_ensureClusterRole.runs).move_bind fun _ => ?_
  rw [Host.alterCluster_alterCluster]
  refine (performs_ensure (Cluster.default_mem _)).runs.conseq (fun _ h' hh' => ?_) fun _ _ he => he
  rw [hh', Host.alterCluster_alterCluster]

/-- **What the setup does**: it succeeds exactly where it can, unless a call
fails, and then it has made its changes. -/
theorem runs_setupUserServiceAccount (kcl : KubeClient) (calm : Prop) (userID : UserID)
    (teamIDs : List TeamID) (h : Host) : Runs calm (kcl.setupUserServiceAccount userID teamIDs) h
    (fun _ h' => kcl.CanSetUp h ∧ h' = h.alterCluster kcl.endpointID
      (kcl.setUp (kcl.storedPolicies h) userID teamIDs)) fun _ => ¬ kcl.CanSetUp h := by
  have hrole : Performs kcl calm kcl.createPortainerUserClusterRole h withClusterRole := Performs.once
  refine hrole.runs.move_bind fun _ => ?_
  by_cases hns : portainerNamespace ∈ (h.clusters kcl.endpointID).namespaces
  swap
  · unfold ensureServiceAccountForUserExists
    refine Runs.bind (M := fun _ _ => False) (Runs.bind (M := fun _ _ => False)
      (runs_createUserServiceAccount_of_not_mem ?_ fun hcan => hns hcan.1) ?_) ?_
    · rw [Host.alterCluster_self, withClusterRole_namespaces]
      exact hns
    · exact fun _ _ hfalse => hfalse.elim
    · exact fun _ _ hfalse => hfalse.elim
  refine (runs_ensureServiceAccountForUserExists (by
    rw [Host.alterCluster_self, withClusterRole_namespaces]; exact hns)).move_bind fun _ => ?_
  rw [Host.alterCluster_alterCluster]
  show Runs calm (kcl.setupNamespaceAccesses userID teamIDs _)
    (h.alterCluster kcl.endpointID (kcl.setUpAccount userID)) _ _
  have hget : Runs calm ((Action.zoom Host.server (fun h server => { h with server := server })
      (getConfigMap kcl.endpointID)).mapError APIError.failed : API (Option ConfigMap))
      (h.alterCluster kcl.endpointID (kcl.setUpAccount userID))
      (fun configMap h' => h' = h.alterCluster kcl.endpointID (kcl.setUpAccount userID) ∧
        configMap = h.server.configMaps[kcl.endpointID]?) fun _ => ¬ kcl.CanSetUp h := by
    refine Runs.mapError ?_
    exact Runs.zoom (Runs.query ⟨rfl, rfl⟩)
  refine hget.read_bind fun configMap hconfigMap => ?_
  cases configMap with
  | none =>
    refine Runs.pure ⟨⟨hns, ?_⟩, ?_⟩
    · simp [policies, ← hconfigMap]
    · rw [show kcl.storedPolicies h = none by simp [storedPolicies, policies, ← hconfigMap]]
      rfl
  | some configMap =>
    have hpolicies : policies kcl.endpointID h.server = some configMap.accessPolicies := by
      rw [policies, ← hconfigMap]
      rfl
    cases hdecoded : configMap.accessPolicies with
    | none =>
      simp only [unmarshal, hdecoded]
      refine Runs.bind (M := fun _ _ => False) (Runs.fail fun _ hcan => hcan.2 ?_) fun _ _ hfalse => hfalse.elim
      rw [hpolicies, hdecoded]
    | some accessPolicies =>
      have hstored : kcl.storedPolicies h = some accessPolicies := by
        rw [storedPolicies, hpolicies, hdecoded]
        rfl
      simp only [unmarshal, hdecoded]
      show Runs calm (kcl.read Cluster.namespaces >>= _) _ _ _
      have hread : Runs calm (kcl.read Cluster.namespaces)
          (h.alterCluster kcl.endpointID (kcl.setUpAccount userID))
          (fun namespaces h' => h' = h.alterCluster kcl.endpointID (kcl.setUpAccount userID) ∧
            namespaces = ((h.alterCluster kcl.endpointID
              (kcl.setUpAccount userID)).clusters kcl.endpointID).namespaces) fun _ => ¬ kcl.CanSetUp h :=
        Runs.mapError (Runs.query ⟨rfl, rfl⟩)
      refine hread.read_bind fun namespaces hnamespaces => ?_
      rw [hnamespaces]
      refine runs_setupNamespaces.conseq (fun _ h' hh' => ⟨⟨hns, ?_⟩, ?_⟩) fun _ _ he => he
      · rw [hpolicies, hdecoded]
        simp
      · rw [hh', hstored, Host.alterCluster_alterCluster]
        rfl

end Setup

/-! ## What is left -/

section Outcome

variable {userID : UserID} {teamIDs : List TeamID} {accessPolicies : NamespaceAccessPolicies}
variable {c : Cluster} {grants : Bool}

/-- Only role bindings change in a namespace. -/
theorem settle_eq (kcl : KubeClient) (sa : String) (grants : Bool) (ns : String) (c : Cluster) :
    ∃ roleBindings, kcl.settle sa grants ns c = { c with roleBindings := roleBindings } := by
  unfold settle
  split
  · exact ⟨c.roleBindings, rfl⟩
  · exact ⟨_, rfl⟩

theorem setUpNamespaces_eq (kcl : KubeClient) (accessPolicies : NamespaceAccessPolicies) (userID : UserID)
    (teamIDs : List TeamID) (c : Cluster) (l : List String) : ∃ roleBindings,
    l.foldl (fun c ns => kcl.setUpNamespace accessPolicies userID teamIDs ns c) c =
      { c with roleBindings := roleBindings } := by
  induction l generalizing c with
  | nil => exact ⟨c.roleBindings, rfl⟩
  | cons a l ih =>
    rw [List.foldl_cons, setUpNamespace]
    split
    · exact ih _
    · obtain ⟨roleBindings, heq⟩ := settle_eq kcl (kcl.userServiceAccountName userID)
        (granted accessPolicies userID teamIDs a) a c
      rw [heq]
      exact ih _

/-- The binding of a namespace after one turn. -/
theorem binding_setUpNamespace {a : String} :
    kcl.binding (kcl.setUpNamespace accessPolicies userID teamIDs a c) ns =
      if ns = a ∧ ns ≠ defaultNamespace then
        settled (kcl.userServiceAccountName userID) (granted accessPolicies userID teamIDs ns)
          (kcl.binding c ns)
      else kcl.binding c ns := by
  unfold setUpNamespace
  by_cases hdefault : a = defaultNamespace
  · rw [if_pos hdefault, if_neg fun hns => hns.2 (hns.1.trans hdefault)]
  · rw [if_neg hdefault]
    by_cases hns : ns = a
    · subst hns
      rw [if_pos ⟨rfl, hdefault⟩, binding_settle]
    · rw [if_neg fun h => hns h.1]
      exact roleBindings_settle fun h => hns h.1

/-- **The binding of a namespace after the loop**: it is settled once, if
its namespace is in the list. -/
theorem binding_foldl (l : List String) :
    kcl.binding (l.foldl (fun c ns => kcl.setUpNamespace accessPolicies userID teamIDs ns c) c) ns =
      if ns ∈ l ∧ ns ≠ defaultNamespace then
        settled (kcl.userServiceAccountName userID) (granted accessPolicies userID teamIDs ns)
          (kcl.binding c ns)
      else kcl.binding c ns := by
  induction l generalizing c with
  | nil => simp
  | cons a l ih =>
    rw [List.foldl_cons, ih, binding_setUpNamespace]
    by_cases hdefault : ns = defaultNamespace
    · simp [hdefault]
    · by_cases hns : ns = a
      · subst hns
        by_cases hl : ns ∈ l <;> simp [hl, hdefault, settled_settled]
      · by_cases hl : ns ∈ l <;> simp [hl, hns]

/-- No other binding is touched by the loop. -/
theorem roleBindings_foldl {name : String} (hne : name ≠ kcl.namespaceClusterRoleBindingName ns)
    (l : List String) :
    (l.foldl (fun c ns => kcl.setUpNamespace accessPolicies userID teamIDs ns c) c).roleBindings ns name =
      c.roleBindings ns name := by
  induction l generalizing c with
  | nil => rfl
  | cons a l ih =>
    rw [List.foldl_cons, ih, setUpNamespace]
    split
    · rfl
    · exact roleBindings_settle fun h => hne (h.1 ▸ h.2)

/-- The cluster before the first namespace. -/
def beforeNamespaces (kcl : KubeClient) (userID : UserID) (c : Cluster) : Cluster :=
  withUserSubject (kcl.userServiceAccountName userID)
    (kcl.withToken (kcl.userServiceAccountName userID)
      (withAccount (kcl.userServiceAccountName userID) (withClusterRole c)))

theorem setUpAccount_eq : kcl.setUpAccount userID c =
    kcl.settle (kcl.userServiceAccountName userID) true defaultNamespace (kcl.beforeNamespaces userID c) :=
  rfl

@[simp] theorem withUserSubject_roleBindings : (withUserSubject sa c).roleBindings = c.roleBindings := rfl

@[simp] theorem withToken_roleBindings : (kcl.withToken sa c).roleBindings = c.roleBindings :=
  once_field (p := Cluster.roleBindings) rfl

@[simp] theorem withAccount_roleBindings : (withAccount sa c).roleBindings = c.roleBindings :=
  once_field (p := Cluster.roleBindings) rfl

@[simp] theorem withClusterRole_roleBindings : (withClusterRole c).roleBindings = c.roleBindings :=
  once_field (p := Cluster.roleBindings) rfl

@[simp] theorem beforeNamespaces_roleBindings :
    (kcl.beforeNamespaces userID c).roleBindings = c.roleBindings := by
  simp [beforeNamespaces]

@[simp] theorem withUserSubject_clusterRoles : (withUserSubject sa c).clusterRoles = c.clusterRoles := rfl

@[simp] theorem withUserSubject_serviceAccounts :
    (withUserSubject sa c).serviceAccounts = c.serviceAccounts := rfl

@[simp] theorem withToken_clusterRoles : (kcl.withToken sa c).clusterRoles = c.clusterRoles :=
  once_field (p := Cluster.clusterRoles) rfl

@[simp] theorem withToken_serviceAccounts : (kcl.withToken sa c).serviceAccounts = c.serviceAccounts :=
  once_field (p := Cluster.serviceAccounts) rfl

@[simp] theorem withAccount_clusterRoles : (withAccount sa c).clusterRoles = c.clusterRoles :=
  once_field (p := Cluster.clusterRoles) rfl

@[simp] theorem withToken_clusterRoleBindings :
    (kcl.withToken sa c).clusterRoleBindings = c.clusterRoleBindings :=
  once_field (p := Cluster.clusterRoleBindings) rfl

@[simp] theorem withAccount_clusterRoleBindings :
    (withAccount sa c).clusterRoleBindings = c.clusterRoleBindings :=
  once_field (p := Cluster.clusterRoleBindings) rfl

@[simp] theorem withClusterRole_clusterRoleBindings :
    (withClusterRole c).clusterRoleBindings = c.clusterRoleBindings :=
  once_field (p := Cluster.clusterRoleBindings) rfl

/-- The account part touches one role binding, -/
theorem setUpAccount_roleBindings {ns name : String}
    (hne : ¬ (ns = defaultNamespace ∧ name = kcl.namespaceClusterRoleBindingName defaultNamespace)) :
    (kcl.setUpAccount userID c).roleBindings ns name = c.roleBindings ns name := by
  rw [setUpAccount_eq, roleBindings_settle hne, beforeNamespaces_roleBindings]

/-- which it settles, -/
theorem binding_setUpAccount_default :
    kcl.binding (kcl.setUpAccount userID c) defaultNamespace =
      settled (kcl.userServiceAccountName userID) true (kcl.binding c defaultNamespace) := by
  rw [setUpAccount_eq, binding_settle, binding, beforeNamespaces_roleBindings]
  rfl

/-- and one cluster role binding. -/
theorem setUpAccount_clusterRoleBindings {name : String} :
    (kcl.setUpAccount userID c).clusterRoleBindings name =
      if name = portainerUserCRBName then
        some (ensured ⟨"ClusterRole", portainerUserCRName⟩ (kcl.userServiceAccountName userID)
          (c.clusterRoleBindings portainerUserCRBName))
      else c.clusterRoleBindings name := by
  rw [setUpAccount_eq, settle_clusterRoleBindings, beforeNamespaces]
  simp [withUserSubject, withUserBinding]

/-! ## The second time -/

/-- **Everything has been set up**: each change is the identity. -/
structure Settled (kcl : KubeClient) (accessPolicies : Option NamespaceAccessPolicies) (userID : UserID)
    (teamIDs : List TeamID) (c : Cluster) : Prop where
  clusterRole : withClusterRole c = c
  account : withAccount (kcl.userServiceAccountName userID) c = c
  token : kcl.withToken (kcl.userServiceAccountName userID) c = c
  userSubject : withUserSubject (kcl.userServiceAccountName userID) c = c
  default : kcl.settle (kcl.userServiceAccountName userID) true defaultNamespace c = c
  namespaces : ∀ p, accessPolicies = some p → ∀ ns ∈ c.namespaces,
    kcl.setUpNamespace p userID teamIDs ns c = c

/-- What is set up differs from the cluster before the namespaces by role
bindings only. -/
theorem setUp_eq (kcl : KubeClient) (accessPolicies : Option NamespaceAccessPolicies) (userID : UserID)
    (teamIDs : List TeamID) (c : Cluster) : ∃ roleBindings,
    kcl.setUp accessPolicies userID teamIDs c =
      { kcl.beforeNamespaces userID c with roleBindings := roleBindings } := by
  obtain ⟨roleBindings, heq⟩ := settle_eq kcl (kcl.userServiceAccountName userID)
    true defaultNamespace (kcl.beforeNamespaces userID c)
  cases accessPolicies with
  | none => exact ⟨roleBindings, heq⟩
  | some p =>
    obtain ⟨roleBindings', heq'⟩ := setUpNamespaces_eq kcl p userID teamIDs
      (kcl.setUpAccount userID c) (kcl.setUpAccount userID c).namespaces
    refine ⟨roleBindings', ?_⟩
    rw [setUp, setUpNamespaces, heq', setUpAccount_eq, heq]

/-- The binding of a namespace, when everything is done. -/
theorem binding_setUp (accessPolicies : Option NamespaceAccessPolicies) :
    kcl.binding (kcl.setUp accessPolicies userID teamIDs c) ns =
      if ns = defaultNamespace then
        settled (kcl.userServiceAccountName userID) true (kcl.binding c ns)
      else if ns ∈ c.namespaces then
        match accessPolicies with
        | none => kcl.binding c ns
        | some p => settled (kcl.userServiceAccountName userID) (granted p userID teamIDs ns) (kcl.binding c ns)
      else kcl.binding c ns := by
  have hother : ns ≠ defaultNamespace →
      kcl.binding (kcl.setUpAccount userID c) ns = kcl.binding c ns :=
    fun hne => setUpAccount_roleBindings fun h => hne h.1
  cases accessPolicies with
  | none =>
    by_cases hdefault : ns = defaultNamespace
    · subst hdefault
      rw [if_pos rfl]
      exact binding_setUpAccount_default
    · rw [if_neg hdefault, setUp, hother hdefault]
      split <;> rfl
  | some p =>
    rw [setUp, setUpNamespaces, binding_foldl, setUpAccount_namespaces]
    by_cases hdefault : ns = defaultNamespace
    · subst hdefault
      rw [if_neg fun h => h.2 rfl, if_pos rfl]
      exact binding_setUpAccount_default
    · rw [if_neg hdefault, hother hdefault]
      by_cases hns : ns ∈ c.namespaces
      · rw [if_pos ⟨hns, hdefault⟩, if_pos hns]
      · rw [if_neg fun h => hns h.1, if_neg hns]

@[simp] theorem setUp_namespaces (accessPolicies : Option NamespaceAccessPolicies) :
    (kcl.setUp accessPolicies userID teamIDs c).namespaces = c.namespaces := by
  obtain ⟨roleBindings, heq⟩ := setUp_eq kcl accessPolicies userID teamIDs c
  rw [heq]
  simp [beforeNamespaces]

/-- **What the setup leaves is settled.** -/
theorem settled_setUp (accessPolicies : Option NamespaceAccessPolicies) :
    kcl.Settled accessPolicies userID teamIDs (kcl.setUp accessPolicies userID teamIDs c) := by
  obtain ⟨roleBindings, heq⟩ := setUp_eq kcl accessPolicies userID teamIDs c
  refine ⟨once_eq_self ?_, once_eq_self ?_, once_eq_self ?_, ?_, settle_eq_self ?_, fun p hp ns hns => ?_⟩
  · have hrole : ((withClusterRole c).clusterRoles portainerUserCRName).isSome = true :=
      isSome_once (fun c => c.clusterRoles portainerUserCRName) (by simp)
    rw [heq]
    simpa [beforeNamespaces] using hrole
  · have haccount : ((withAccount (kcl.userServiceAccountName userID)
        (withClusterRole c)).serviceAccounts portainerNamespace
          (kcl.userServiceAccountName userID)).isSome = true :=
      isSome_once (fun c => c.serviceAccounts portainerNamespace
        (kcl.userServiceAccountName userID)) (by simp)
    rw [heq]
    simpa [beforeNamespaces] using haccount
  · rw [heq]
    exact isSome_once (fun c => c.secrets portainerNamespace
      (kcl.userServiceAccountTokenSecretName (kcl.userServiceAccountName userID))) (by simp)
  · rw [heq]
    unfold withUserSubject withUserBinding
    congr 1
    funext name
    by_cases hname : name = portainerUserCRBName
    · subst hname
      simp [beforeNamespaces, withUserSubject, withUserBinding, ensured_of_named named_ensured]
    · simp [hname]
  · rw [binding_setUp, if_pos rfl, settled_settled]
  · unfold setUpNamespace
    split
    · rfl
    · rename_i hdefault
      refine settle_eq_self ?_
      rw [setUp_namespaces] at hns
      rw [binding_setUp, if_neg hdefault, if_pos hns, hp]
      exact settled_settled

end Outcome

end KubeClient

end Kubernetes

end Portainer
