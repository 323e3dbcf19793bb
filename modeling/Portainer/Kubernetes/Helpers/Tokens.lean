import Mathlib
import Portainer.Kubernetes.Model.Tokens
import Portainer.Kubernetes.ServiceAccounts
/-!
# What the token manager leaves alone

A setup, however far it gets, leaves the subjects of other names as they
are, so it does not change where anybody else is bound. The parts of a
proxied request before the token change neither the server nor a cluster.
-/

namespace Portainer

open Std
open Action (Keeps Meets)

namespace Kubernetes

open KubeClient (subject subjectsOf)

/-! ## Names -/

theorem userServiceAccountName_injective {kcl : KubeClient} {userID userID' : UserID}
    (h : kcl.userServiceAccountName userID = kcl.userServiceAccountName userID') : userID = userID' := by
  unfold KubeClient.userServiceAccountName at h
  have hrepr : toString userID = toString userID' := by
    simpa using h
  exact Int.repr_injective hrepr

/-! ## The caches -/

namespace Host

variable {h : Host} {id j : EndpointID} {u v : UserID} {token : String}

theorem getToken_addToken : (h.addToken id u token).getToken j v =
    if j = id ∧ v = u then some token else h.getToken j v := by
  unfold getToken addToken
  by_cases hj : j = id
  · subst hj
    cases hc : h.tokenCaches[j]? with
    | none => by_cases hv : v = u <;> simp [ExtTreeMap.getElem?_insert, hv, Ne.symm]
    | some cache => by_cases hv : v = u <;> simp [ExtTreeMap.getElem?_insert, hv, Ne.symm]
  · simp [ExtTreeMap.getElem?_insert, hj, Ne.symm hj]

theorem getToken_removeUserFromCache : (h.removeUserFromCache u).getToken j v =
    if v = u then none else h.getToken j v := by
  unfold getToken removeUserFromCache
  cases hc : h.tokenCaches[j]? with
  | none => simp [hc]
  | some cache => by_cases hv : v = u <;> simp [hc, ExtTreeMap.getElem?_erase, hv, Ne.symm]

/-- A token that is in no cache is in none after a cache is gone. -/
theorem getToken_erase {caches : ExtTreeMap EndpointID TokenCache}
    (hcaches : caches = h.tokenCaches.erase id ∨ caches = h.tokenCaches.insert id ∅)
    (hv : (Host.getToken { h with tokenCaches := caches } j v).isSome = true) :
    (h.getToken j v).isSome = true := by
  unfold getToken at *
  rcases hcaches with rfl | rfl
  · by_cases hj : j = id
    · subst hj
      simp at hv
    · simpa [ExtTreeMap.getElem?_erase, Ne.symm hj] using hv
  · by_cases hj : j = id
    · subst hj
      simp at hv
    · simpa [ExtTreeMap.getElem?_insert, Ne.symm hj] using hv

end Host

/-! ## What a setup spares -/

/-- The subjects of a binding that are called otherwise. -/
def foreignOf (sa : String) (o : Option RoleBinding) : List Subject :=
  (subjectsOf o).filter fun s => s.name ≠ sa

/-- Of two clusters, the second has the same namespaces, and in every role
binding the same subjects of other names. -/
structure Cluster.Spared (sa : String) (c₀ c : Cluster) : Prop where
  namespaces : c.namespaces = c₀.namespaces
  roleBindings : ∀ ns name, foreignOf sa (c.roleBindings ns name) = foreignOf sa (c₀.roleBindings ns name)

/-- Of two hosts, the second differs in one cluster only, and spares there
what does not bear the name. -/
structure Host.Spared (kcl : KubeClient) (sa : String) (h₀ h : Host) : Prop where
  server : h.server = h₀.server
  tokenCaches : h.tokenCaches = h₀.tokenCaches
  forwarded : h.forwarded = h₀.forwarded
  clusters : ∀ id, id ≠ kcl.endpointID → h.clusters id = h₀.clusters id
  cluster : Cluster.Spared sa (h₀.clusters kcl.endpointID) (h.clusters kcl.endpointID)

namespace Spared

variable {kcl : KubeClient} {sa ns : String} {h₀ : Host} {userID : UserID} {teamIDs : List TeamID}

theorem refl : Host.Spared kcl sa h₀ h₀ := ⟨rfl, rfl, rfl, fun _ _ => rfl, ⟨rfl, fun _ _ => rfl⟩⟩

theorem keeps_read {α : Type} {f : Cluster → α} : Keeps (kcl.read f) (Host.Spared kcl sa h₀) :=
  Keeps.mapError Keeps.query

/-- A read returns what it finds. -/
theorem keeps_read_of {α : Type} {f : Cluster → α} {Q : α → Prop}
    (hQ : ∀ c, Cluster.Spared sa (h₀.clusters kcl.endpointID) c → Q (f c)) (R : Callee → Prop) :
    Meets R (Host.Spared kcl sa h₀) (kcl.read f) (fun a h => Host.Spared kcl sa h₀ h ∧ Q a)
      fun _ => Host.Spared kcl sa h₀ :=
  Meets.mapError (Keeps.query_of (fun _ hs => hQ _ hs.cluster) R)

theorem keeps_write {f : Cluster → Cluster}
    (hf : ∀ c, Cluster.Spared sa (h₀.clusters kcl.endpointID) c →
      Cluster.Spared sa (h₀.clusters kcl.endpointID) (f c)) :
    Keeps (kcl.write f) (Host.Spared kcl sa h₀) := by
  refine Keeps.mapError (Keeps.call fun h hs => ⟨hs.server, hs.tokenCaches, hs.forwarded, ?_, ?_⟩)
  · intro id hid
    rw [Host.alterCluster_of_ne hid]
    exact hs.clusters id hid
  · rw [Host.alterCluster_self]
    exact hf _ hs.cluster

theorem keeps_create {α : Type} {current : Cluster → Option α} {f : Cluster → Cluster}
    (hf : ∀ c, Cluster.Spared sa (h₀.clusters kcl.endpointID) c →
      Cluster.Spared sa (h₀.clusters kcl.endpointID) (f c)) :
    Keeps (kcl.create current f) (Host.Spared kcl sa h₀) :=
  Keeps.bind Keeps.get fun _ => Keeps.bind Keeps.require fun _ => keeps_write hf

theorem keeps_createIn {α : Type} {current : Cluster → Option α} {f : Cluster → Cluster}
    (hf : ∀ c, Cluster.Spared sa (h₀.clusters kcl.endpointID) c →
      Cluster.Spared sa (h₀.clusters kcl.endpointID) (f c)) :
    Keeps (kcl.createIn ns current f) (Host.Spared kcl sa h₀) :=
  Keeps.bind Keeps.get fun _ => Keeps.bind Keeps.require fun _ => keeps_create hf

theorem keeps_unlessExists {r : Except APIError Unit} {I : Host → Prop} :
    Keeps (KubeClient.unlessExists r) I := by
  rcases r with (_ | _ | text) | u
  · exact Keeps.pure
  · exact Keeps.fail
  · exact Keeps.fail
  · exact Keeps.pure

/-- A binding with the same subjects of other names may take the place of
the binding of a namespace. -/
theorem withBinding {c₀ c : Cluster} {b : RoleBinding} (hc : Cluster.Spared sa c₀ c)
    (hb : foreignOf sa (some b) = foreignOf sa (kcl.binding c₀ ns)) :
    Cluster.Spared sa c₀ (kcl.withBinding ns b c) := by
  refine ⟨hc.namespaces, fun ns' name => ?_⟩
  by_cases heq : ns' = ns ∧ name = kcl.namespaceClusterRoleBindingName ns
  · obtain ⟨rfl, rfl⟩ := heq
    show foreignOf sa (kcl.binding (kcl.withBinding ns' b c) ns') = _
    rw [KubeClient.binding_withBinding]
    exact hb
  · rw [KubeClient.roleBindings_withBinding heq]
    exact hc.roleBindings ns' name

theorem foreignOf_withSubject {b : RoleBinding} :
    foreignOf sa (some (KubeClient.withSubject sa b)) = foreignOf sa (some b) := by
  simp [foreignOf, subjectsOf, KubeClient.withSubject, subject]

theorem keeps_ensure :
    Keeps (kcl.ensureNamespaceAccessForServiceAccount sa ns) (Host.Spared kcl sa h₀) := by
  refine Keeps.bind_of (keeps_read_of (Q := fun o =>
    foreignOf sa o = foreignOf sa (kcl.binding (h₀.clusters kcl.endpointID) ns))
      fun c hc => hc.roleBindings ns _) fun o ho => ?_
  cases o with
  | none =>
    refine keeps_createIn fun c hc => withBinding hc ?_
    rw [← ho]
    simp [foreignOf, subjectsOf, subject]
  | some b =>
    refine Keeps.ite (fun _ => Keeps.pure) fun _ => keeps_write fun c hc => withBinding hc ?_
    rw [foreignOf_withSubject, ho]

theorem keeps_remove :
    Keeps (kcl.removeNamespaceAccessForServiceAccount sa ns) (Host.Spared kcl sa h₀) := by
  refine Keeps.bind_of (keeps_read_of (Q := fun o =>
    foreignOf sa o = foreignOf sa (kcl.binding (h₀.clusters kcl.endpointID) ns))
      fun c hc => hc.roleBindings ns _) fun o ho => ?_
  cases o with
  | none => exact Keeps.pure
  | some b =>
    refine keeps_write fun c hc => withBinding hc ?_
    rw [← ho]
    simp [foreignOf, subjectsOf, List.filter_filter]

theorem keeps_setupNamespaceAccesses :
    Keeps (kcl.setupNamespaceAccesses userID teamIDs sa) (Host.Spared kcl sa h₀) := by
  refine Keeps.bind (Keeps.mapError ?_) fun configMap => ?_
  · exact Keeps.zoom (I := fun s => s = h₀.server) Keeps.query (fun _ hs => hs.server) fun h s hs hserver =>
      ⟨hserver, hs.tokenCaches, hs.forwarded, hs.clusters, hs.cluster⟩
  · cases configMap with
    | none => exact Keeps.pure
    | some configMap =>
      refine Keeps.bind (Keeps.mapError Keeps.ofExcept) fun p => ?_
      refine Keeps.bind keeps_read fun namespaces => Keeps.forM fun ns _ => ?_
      refine Keeps.ite (fun _ => Keeps.pure) fun _ => ?_
      cases p[ns]? with
      | none => exact keeps_remove
      | some policies =>
        refine Keeps.ite (fun _ => keeps_remove) fun _ => ?_
        exact Keeps.bind (Keeps.attempt keeps_ensure) fun _ => keeps_unlessExists

/-- **A setup spares what does not bear the name of the account**, however
far it gets. -/
theorem keeps_setupUserServiceAccount :
    Keeps (kcl.setupUserServiceAccount userID teamIDs)
      (Host.Spared kcl (kcl.userServiceAccountName userID) h₀) := by
  refine Keeps.bind ?_ fun _ => Keeps.bind ?_ fun _ => keeps_setupNamespaceAccesses
  · exact Keeps.bind (Keeps.attempt (keeps_create fun c hc => ⟨hc.namespaces, hc.roleBindings⟩))
      fun _ => keeps_unlessExists
  · refine Keeps.bind ?_ fun _ => Keeps.bind ?_ fun _ => Keeps.bind ?_ fun _ => keeps_ensure
    · exact Keeps.bind (Keeps.attempt (keeps_createIn fun c hc => ⟨hc.namespaces, hc.roleBindings⟩))
        fun _ => keeps_unlessExists
    · exact Keeps.bind (Keeps.attempt (keeps_createIn fun c hc => ⟨hc.namespaces, hc.roleBindings⟩))
        fun _ => keeps_unlessExists
    · refine Keeps.bind keeps_read fun o => ?_
      cases o with
      | none => exact keeps_create fun c hc => ⟨hc.namespaces, hc.roleBindings⟩
      | some b =>
        exact Keeps.ite (fun _ => Keeps.pure) fun _ =>
          keeps_write fun c hc => ⟨hc.namespaces, hc.roleBindings⟩

end Spared

/-- The token of an account is read. -/
theorem keeps_getServiceAccountBearerToken {kcl : KubeClient} {userID : UserID} {I : Host → Prop} :
    Keeps (kcl.getServiceAccountBearerToken userID) I := by
  refine Keeps.bind (Keeps.mapError Keeps.query) fun secret => ?_
  cases secret with
  | none => exact Keeps.fail
  | some secret =>
    refine Keeps.bind (Keeps.mapError Keeps.query) fun _ => ?_
    cases secret.annotations.lookup "kubernetes.io/service-account.name" with
    | none => exact Keeps.fail
    | some token => exact Keeps.pure

/-! ## Before the token -/

section Admission

variable {token : Option TokenData} {endpoint : Endpoint}

theorem keeps_authenticatedAccess {I : Server → Prop} : Keeps (authenticatedAccess token) I := by
  refine Keeps.bind ?_ fun tokenData => Keeps.bind ?_ fun _ => Keeps.pure
  · refine Keeps.bind Keeps.ofExcept fun token => Keeps.bind (Keeps.mapError Keeps.lookup) fun d => ?_
    exact Keeps.bind (Keeps.mapError Keeps.lookup) fun _ => Keeps.pure
  · refine Keeps.mapError ?_
    unfold newRestrictedContextRequest
    refine Keeps.ite (fun _ => Keeps.pure) fun _ => Keeps.bind Keeps.query fun _ => Keeps.pure

theorem keeps_authorizedEndpointOperation {I : Server → Prop} :
    Keeps (Inventory.authorizedEndpointOperation token endpoint) I := by
  refine Keeps.bind Keeps.ofExcept fun d => Keeps.ite (fun _ => Keeps.pure) fun _ => ?_
  exact Keeps.bind Keeps.query fun _ => Keeps.bind Keeps.lookup fun _ => Keeps.require

/-- **Of two hosts, the second may have lost tokens**, and nothing else. -/
structure Host.Admitted (h₀ h : Host) : Prop where
  server : h.server = h₀.server
  clusters : h.clusters = h₀.clusters
  forwarded : h.forwarded = h₀.forwarded
  tokens : ∀ id u, (h.getToken id u).isSome = true → (h₀.getToken id u).isSome = true

theorem Host.Admitted.refl {h₀ : Host} : Host.Admitted h₀ h₀ := ⟨rfl, rfl, rfl, fun _ _ hu => hu⟩

/-- What reads the server alone. -/
theorem keeps_onHostServer {ε α : Type} {x : Action Callee Server ε α} {h₀ : Host}
    (hx : Keeps x fun s => s = h₀.server) : Keeps (onHostServer x) (Host.Admitted h₀) :=
  Keeps.zoom hx (fun _ hs => hs.server) fun _ _ hs hserver =>
    ⟨hserver, hs.clusters, hs.forwarded, hs.tokens⟩

theorem keeps_prepareTunnel {h₀ : Host} {idle : Bool} :
    Keeps (prepareTunnel endpoint idle) (Host.Admitted h₀) := by
  refine Keeps.ite (fun _ => Keeps.pure) fun _ => Keeps.bind Keeps.require fun _ => ?_
  refine Keeps.ite (fun _ => ?_) fun _ => Keeps.pure
  refine Keeps.bind ?_ fun _ => Keeps.bind (Keeps.mapError Keeps.query) fun _ => ?_
  · intro R w hR hw
    exact ⟨⟨hw.server, hw.clusters, hw.forwarded, fun id u hu =>
      hw.tokens id u (Host.getToken_erase (.inl rfl) hu)⟩, hR⟩
  · exact Keeps.bind (Keeps.mapError (keeps_onHostServer Keeps.query)) fun _ => Keeps.pure

theorem keeps_getOrCreateProxy {h₀ : Host} : Keeps (getOrCreateProxy endpoint) (Host.Admitted h₀) := by
  refine Keeps.bind Keeps.get fun created => ?_
  cases created with
  | true => exact Keeps.pure
  | false =>
    refine Keeps.mapError (Keeps.call fun h hs => ?_)
    exact ⟨hs.server, hs.clusters, hs.forwarded, fun id u hu =>
      hs.tokens id u (Host.getToken_erase (.inr rfl) hu)⟩

/-- **Admission takes at most tokens away.** -/
theorem keeps_admitRequest {h₀ : Host} {endpointID : EndpointID} {idle : Bool} :
    Keeps (admitRequest token endpointID idle) (Host.Admitted h₀) := by
  refine Keeps.bind (keeps_onHostServer keeps_authenticatedAccess) fun context => ?_
  refine Keeps.bind (Keeps.mapError (keeps_onHostServer Keeps.lookup)) fun endpoint => ?_
  refine Keeps.bind (Keeps.mapError (keeps_onHostServer keeps_authorizedEndpointOperation)) fun _ => ?_
  exact Keeps.bind keeps_prepareTunnel fun _ => Keeps.bind keeps_getOrCreateProxy fun _ => Keeps.pure

end Admission

end Kubernetes

end Portainer
