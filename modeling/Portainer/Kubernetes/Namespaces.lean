import Portainer.Kubernetes.Helpers.Access
import Portainer.Kubernetes.Model.Transport
/-!
# The deletion of a namespace — all or nothing

The proxy takes a namespace off the policies and off the registries before
it forwards the deletion, so whatever it takes off is gone even if the
cluster refuses, or if a later call fails. All or nothing is what happens
exactly when every call goes through and the cluster deletes the namespace,
or when nothing is taken off at all (`allOrNothing_iff`).
-/

namespace Portainer

open Std Server

namespace Kubernetes

variable {kcl : EndpointID} {ns : String} {s : Server}

/-- The registry can be used in the namespace of the endpoint. -/
def lists (endpointID : EndpointID) (ns : String) (registry : Registry) : Bool :=
  (registry.registryAccesses[endpointID]?).any fun access => decide (ns ∈ access.namespaces)

/-- The accesses of a registry, on all endpoints. -/
def accessesOf (s : Server) (registryID : RegistryID) :
    Option (ExtTreeMap EndpointID RegistryAccessPolicies) :=
  (s.dataStore.registry.get? registryID).map Registry.registryAccesses

/-- The cluster has deleted the namespace: it got the request, and did as
it was asked. -/
def Deleted (t : BaseTransport) (request : Request) (w w' : Sys Callee ProxyState) : Prop :=
  w'.store.forwarded = w.store.forwarded ++ [request] ∧ (t.httpTransport request).deleted = true

/-- **All or nothing.** If the cluster has not deleted the namespace, the
policies and the accesses of every registry are as before; if it has,
neither mentions the namespace any more. -/
def AllOrNothing (t : BaseTransport) (request : Request) (ns : String)
    (w : Sys Callee ProxyState) : Prop :=
  let w' := ((t.proxyKubernetesRequest request).run w).2
  (¬ Deleted t request w w' →
    policies t.endpoint.id w'.store.server = policies t.endpoint.id w.store.server ∧
      ∀ registryID, accessesOf w'.store.server registryID = accessesOf w.store.server registryID) ∧
  (Deleted t request w w' → ¬ Mentions t.endpoint.id w'.store.server ns ∧
    ∀ registry ∈ w'.store.server.dataStore.registry.all, lists t.endpoint.id ns registry = false)

/-! ## The condition -/

/-- The edit of the policies goes through: both reads of the config map do,
its text decodes, and the update does. Without a config map there is
nothing to decode or update. -/
def PoliciesThrough (kcl : EndpointID) (w : Sys Callee Server) : Prop :=
  w.fault .kubernetesRead = none ∧ (w.spend .kubernetesRead).fault .kubernetesRead = none ∧
    ∀ configMap, w.store.configMaps[kcl]? = some configMap →
      configMap.accessPolicies.isSome ∧ w.fault .kubernetesWrite = none

/-- The registries that can be used in the namespace, in the order they are
edited. -/
def listing (kcl : EndpointID) (ns : String) (s : Server) : List Registry :=
  s.dataStore.registry.all.filter fun registry => lists kcl ns registry

/-- Every call goes through and the cluster deletes the namespace; or the
edits come to an end before anything is taken off. -/
def ThroughOrNothing (t : BaseTransport) (request : Request) (ns : String)
    (w : Sys Callee ProxyState) : Prop :=
  let kcl := t.endpoint.id
  let server := w.store.server
  let updates := Action.landed (w.faults .databaseWrite) (listing kcl ns server).length
  (PoliciesThrough kcl ⟨server, w.faults⟩ ∧ w.fault .databaseRead = none ∧
    updates = (listing kcl ns server).length ∧ (t.httpTransport request).deleted = true) ∨
  (PoliciesThrough kcl ⟨server, w.faults⟩ →
    ¬ Mentions kcl server ns ∧ (w.fault .databaseRead = none → updates = 0))

/-! ## The policies -/

theorem getConfigMap_run_of_none {w : Sys Callee Server} (h : w.fault .kubernetesRead = none) :
    (getConfigMap kcl).run w = (.ok w.store.configMaps[kcl]?, w.spend .kubernetesRead) :=
  Action.query_run_of_none h

/-- The second half of the edit: the update of a config map that is still
as it was read. -/
theorem updateNamespaceAccessPolicies_run {w : Sys Callee Server} {q : NamespaceAccessPolicies}
    (hread : w.fault .kubernetesRead = none) :
    (updateNamespaceAccessPolicies kcl q).run w =
      match w.store.configMaps[kcl]?, w.fault .kubernetesWrite with
      | none, _ => (.ok (), w.spend .kubernetesRead)
      | some configMap, none => (.ok (), { (w.spend .kubernetesRead).spend .kubernetesWrite with
          store := withConfigMap kcl ⟨configMap.resourceVersion + 1, some q⟩ w.store })
      | some _, some text => (.error text, (w.spend .kubernetesRead).spend .kubernetesWrite) := by
  unfold updateNamespaceAccessPolicies
  rw [Action.bind_run_of_ok (getConfigMap_run_of_none hread)]
  cases hcm : w.store.configMaps[kcl]? with
  | none => rfl
  | some configMap =>
    unfold updateConfigMap
    rw [Action.bind_run_of_ok rfl, Action.bind_run_of_ok (Action.require_run_of (by simp [hcm]))]
    have hspend : (w.spend .kubernetesRead).fault .kubernetesWrite = w.fault .kubernetesWrite :=
      Sys.fault_spend_of_ne (by decide)
    cases hw : w.fault .kubernetesWrite with
    | none => exact Action.call_run_of_none (hspend.trans hw)
    | some text => exact Action.call_run_of_some (hspend.trans hw)

/-- The first half of the edit: the read of the policies. -/
theorem getNamespaceAccessPolicies_run (kcl : EndpointID) {w : Sys Callee Server}
    (hread : w.fault .kubernetesRead = none) :
    (getNamespaceAccessPolicies kcl).run w = (match w.store.configMaps[kcl]? with
      | none => .ok ∅
      | some configMap => unmarshal configMap, w.spend .kubernetesRead) := by
  unfold getNamespaceAccessPolicies
  rw [Action.bind_run_of_ok (getConfigMap_run_of_none hread)]
  rcases w.store.configMaps[kcl]? with _ | ⟨version, _ | q⟩ <;> rfl

/-- An edit that goes through takes the namespace off, and nothing else. -/
theorem deleteNamespace_run_of_through (ns : String) {w : Sys Callee Server} (h : PoliciesThrough kcl w) :
    ∃ w', (namespaceAccessPoliciesDeleteNamespace kcl ns).run w = (.ok (), w') ∧
      w'.store.dataStore = w.store.dataStore ∧
      policies kcl w'.store = (policies kcl w.store).map (Option.map (·.erase ns)) ∧
      w'.faults .databaseRead = w.faults .databaseRead ∧
      w'.faults .databaseWrite = w.faults .databaseWrite := by
  obtain ⟨hread₁, hread₂, hwrite⟩ := h
  have hget := getNamespaceAccessPolicies_run kcl hread₁
  unfold namespaceAccessPoliciesDeleteNamespace
  cases hcm : w.store.configMaps[kcl]? with
  | none =>
    simp only [hcm] at hget
    rw [Action.bind_run_of_ok (Action.mapError_run_ok.mpr hget),
      updateNamespaceAccessPolicies_run hread₂]
    simp only [Sys.spend_store, hcm]
    refine ⟨_, rfl, rfl, ?_, ?_, ?_⟩
    · simp [policies, hcm]
    · simp [Sys.spend]
    · simp [Sys.spend]
  | some configMap =>
    obtain ⟨hsome, hwrite⟩ := hwrite configMap hcm
    obtain ⟨q, hq⟩ := Option.isSome_iff_exists.mp hsome
    simp only [hcm, unmarshal, hq] at hget
    rw [Action.bind_run_of_ok (Action.mapError_run_ok.mpr hget),
      updateNamespaceAccessPolicies_run hread₂]
    have hfault : (w.spend .kubernetesRead).fault .kubernetesWrite = none :=
      (Sys.fault_spend_of_ne (by decide)).trans hwrite
    simp only [Sys.spend_store, hcm, hfault]
    refine ⟨_, rfl, rfl, ?_, ?_, ?_⟩
    · simp [policies, hcm, hq]
    · simp [Sys.spend]
    · simp [Sys.spend]

/-- An edit that does not go through leaves the server as it is. -/
theorem deleteNamespace_run_of_not_through (ns : String) {w : Sys Callee Server} (h : ¬ PoliciesThrough kcl w) :
    ∃ e w', (namespaceAccessPoliciesDeleteNamespace kcl ns).run w = (.error e, w') ∧
      w'.store = w.store := by
  unfold namespaceAccessPoliciesDeleteNamespace
  cases hread₁ : w.fault .kubernetesRead with
  | some text =>
    have hget : (getNamespaceAccessPolicies kcl).run w = (.error text, w.spend .kubernetesRead) :=
      Action.bind_run_of_error (Action.query_run_of_some hread₁)
    exact ⟨_, _, Action.bind_run_of_error (Action.mapError_run_of_error hget), rfl⟩
  | none =>
    have hget := getNamespaceAccessPolicies_run kcl hread₁
    cases hr : (match w.store.configMaps[kcl]? with
        | none => .ok ∅
        | some configMap => unmarshal configMap : Except String NamespaceAccessPolicies) with
    | error e =>
      rw [hr] at hget
      exact ⟨_, _, Action.bind_run_of_error (Action.mapError_run_of_error hget), rfl⟩
    | ok q =>
      rw [hr] at hget
      rw [Action.bind_run_of_ok (Action.mapError_run_ok.mpr hget)]
      cases hread₂ : (w.spend .kubernetesRead).fault .kubernetesRead with
      | some text => exact ⟨_, _, Action.bind_run_of_error (Action.query_run_of_some hread₂), rfl⟩
      | none =>
        rw [updateNamespaceAccessPolicies_run hread₂]
        have hfault : (w.spend .kubernetesRead).fault .kubernetesWrite = w.fault .kubernetesWrite :=
          Sys.fault_spend_of_ne (by decide)
        cases hcm : w.store.configMaps[kcl]? with
        | none => exact absurd ⟨hread₁, hread₂, by simp [hcm]⟩ h
        | some configMap =>
          cases hwrite : w.fault .kubernetesWrite with
          | some text =>
            refine ⟨text, ((w.spend .kubernetesRead).spend .kubernetesRead).spend .kubernetesWrite,
              ?_, rfl⟩
            simp [hcm, hfault, hwrite]
          | none =>
            refine absurd ⟨hread₁, hread₂, fun configMap' hcm' => ⟨?_, hwrite⟩⟩ h
            obtain rfl : configMap = configMap' := Option.some.inj (hcm.symm.trans hcm')
            simp only [hcm, unmarshal] at hr
            split at hr
            · rename_i q hq
              simp [hq]
            · cases hr

/-! ## The registries -/

/-- The registry without the namespace. -/
def stripped (kcl : EndpointID) (ns : String) (registry : Registry) : Registry :=
  match registry.registryAccesses[kcl]? with
  | none => registry
  | some access => withRegistryAccess kcl (withoutNamespace ns access) registry

theorem lists_stripped {registry : Registry} : lists kcl ns (stripped kcl ns registry) = false := by
  unfold stripped
  split
  · rename_i h
    simp [lists, h]
  · simp [lists, withRegistryAccess, withoutNamespace]

theorem key_stripped {registry : Registry} : key (stripped kcl ns registry) = key registry := by
  unfold stripped
  split <;> rfl

/-- A turn of the loop writes the registries that list the namespace, and
skips the others. -/
theorem dropFromRegistry_eq {registry : Registry} : dropFromRegistry kcl ns registry =
    if lists kcl ns registry then Server.registry.updateObject (stripped kcl ns registry)
    else pure () := by
  unfold dropFromRegistry stripped lists
  cases h : registry.registryAccesses[kcl]? with
  | none => simp
  | some access =>
    have hlen : (withoutNamespace ns access).namespaces.length ≠ access.namespaces.length ↔
        ns ∈ access.namespaces := by
      simp only [withoutNamespace, ne_eq, List.length_filter_eq_length_iff]
      simp
    simp [hlen]

/-- The server once the registries of a list are written. -/
def afterUpdates (kcl : EndpointID) (ns : String) (l : List Registry) (s : Server) : Server :=
  Server.registry.change (·.putAll (l.map (stripped kcl ns))) s

theorem foldl_update {l : List Registry} :
    l.foldl (fun s registry => Server.registry.change (·.put (stripped kcl ns registry)) s) s =
      afterUpdates kcl ns l s := by
  induction l generalizing s with
  | nil => rfl
  | cons registry l ih => rw [List.foldl_cons, ih]; rfl

@[simp] theorem policies_afterUpdates {l : List Registry} :
    policies kcl (afterUpdates kcl ns l s) = policies kcl s := rfl

theorem accessesOf_afterUpdates_of_mem {l : List Registry} (hl : (l.map key).Nodup)
    {registry : Registry} (h : registry ∈ l) :
    accessesOf (afterUpdates kcl ns l s) registry.id =
      some (stripped kcl ns registry).registryAccesses := by
  have hkeys : ((l.map (stripped kcl ns)).map key).Nodup := by
    rw [List.map_map]
    have : (key ∘ stripped kcl ns : Registry → Int) = key := funext fun _ => key_stripped
    rwa [this]
  have hget := Bucket.get?_putAll_of_mem (b := s.dataStore.registry) hkeys (List.mem_map_of_mem h)
  rw [key_stripped] at hget
  change ((s.dataStore.registry.putAll _).get? (key registry)).map _ = _
  rw [hget]
  rfl

/-- **What the loop does**: the registries that list the namespace are
written one after the other, until a write fails. -/
theorem dropFromRegistries_run (kcl : EndpointID) (ns : String) (w : Sys Callee Server) :
    let l := listing kcl ns w.store
    let updates := Action.landed (w.faults .databaseWrite) l.length
    ((w.store.dataStore.registry.all.forM (dropFromRegistry kcl ns)).run w).2.store =
        afterUpdates kcl ns (l.take updates) w.store ∧
      (((w.store.dataStore.registry.all.forM (dropFromRegistry kcl ns)).run w).1 = .ok ⟨⟩ ↔
        updates = l.length) := by
  have hloop : dropFromRegistry kcl ns = fun registry =>
      if lists kcl ns registry then Server.registry.updateObject (stripped kcl ns registry)
      else pure () := funext fun _ => dropFromRegistry_eq
  rw [hloop, Action.forM_filter]
  obtain ⟨hstore, hok⟩ := Action.forM_call_run (k := Callee.databaseWrite)
    (fun registry => Server.registry.change (·.put (stripped kcl ns registry)))
    (listing kcl ns w.store) w
  rw [foldl_update] at hstore
  simp only [listing] at hstore hok ⊢
  simp only [Bool.decide_eq_true] at hstore hok ⊢
  exact ⟨hstore, hok⟩

/-! ## The whole edit -/

/-- Nothing has been taken off. -/
def Untouched (kcl : EndpointID) (s s' : Server) : Prop :=
  policies kcl s' = policies kcl s ∧ ∀ registryID, accessesOf s' registryID = accessesOf s registryID

/-- The namespace is gone from the policies and from the registries. -/
def Gone (kcl : EndpointID) (ns : String) (s : Server) : Prop :=
  ¬ Mentions kcl s ns ∧ ∀ registry ∈ s.dataStore.registry.all, lists kcl ns registry = false

theorem map_erase_eq_iff :
    (policies kcl s).map (Option.map (·.erase ns)) = policies kcl s ↔ ¬ Mentions kcl s ns := by
  unfold Mentions
  rcases hp : policies kcl s with _ | _ | q
  · simp
  · simp
  · simp only [Option.map_some, Option.some.injEq, exists_eq_left']
    constructor
    · intro h hmem
      rw [← h] at hmem
      simp at hmem
    · intro h
      refine ExtTreeMap.ext_getElem? fun k => ?_
      rw [ExtTreeMap.getElem?_erase]
      split
      · rename_i hk
        rw [← Std.compare_eq_iff_eq.mp hk]
        exact (ExtTreeMap.getElem?_eq_none h).symm
      · rfl

theorem nodup_keys_listing : ((listing kcl ns s).map key).Nodup :=
  (List.filter_sublist.map key).nodup s.dataStore.registry.nodup_keys_all

/-- The writes that land take something off, if there are any. -/
theorem accessesOf_afterUpdates_iff {n : ℕ} (hn : n ≤ (listing kcl ns s).length) :
    (∀ registryID, accessesOf (afterUpdates kcl ns ((listing kcl ns s).take n) s) registryID =
      accessesOf s registryID) ↔ n = 0 := by
  constructor
  · intro h
    by_contra hpos
    obtain ⟨registry, hmem⟩ : ∃ registry, registry ∈ (listing kcl ns s).take n := by
      refine List.exists_mem_of_length_pos ?_
      rw [List.length_take]
      omega
    have hnodup : (((listing kcl ns s).take n).map key).Nodup :=
      ((List.take_sublist n _).map key).nodup nodup_keys_listing
    have hlisting := List.mem_of_mem_take hmem
    obtain ⟨hall, hlists⟩ := List.mem_filter.mp hlisting
    have hbefore : accessesOf s registry.id = some registry.registryAccesses := by
      have := Bucket.mem_all.mp hall
      change (s.dataStore.registry.get? (key registry)).map _ = _
      rw [this]
      rfl
    have hsame := h registry.id
    rw [accessesOf_afterUpdates_of_mem hnodup hmem, hbefore] at hsame
    have hstripped : lists kcl ns (stripped kcl ns registry) = lists kcl ns registry := by
      rw [lists, Option.some.inj hsame, lists]
    rw [lists_stripped, hlists] at hstripped
    nomatch hstripped
  · rintro rfl
    exact fun _ => rfl

/-- If every write lands, no registry lists the namespace. -/
theorem lists_afterUpdates {registry : Registry}
    (h : registry ∈ (afterUpdates kcl ns (listing kcl ns s) s).dataStore.registry.all) :
    lists kcl ns registry = false := by
  have hget := Bucket.mem_all.mp h
  by_contra hlists
  rw [Bool.not_eq_false] at hlists
  by_cases hmem : ∃ r ∈ listing kcl ns s, key r = key registry
  · obtain ⟨r, hr, hk⟩ := hmem
    have hacc : accessesOf (afterUpdates kcl ns (listing kcl ns s) s) r.id =
        some (stripped kcl ns r).registryAccesses :=
      accessesOf_afterUpdates_of_mem nodup_keys_listing hr
    have hreg : accessesOf (afterUpdates kcl ns (listing kcl ns s) s) r.id =
        some registry.registryAccesses := by
      change ((afterUpdates kcl ns (listing kcl ns s) s).dataStore.registry.get? (key r)).map _ = _
      rw [hk, hget]
      rfl
    rw [hacc] at hreg
    have hstripped : lists kcl ns (stripped kcl ns r) = lists kcl ns registry := by
      rw [lists, Option.some.inj hreg, lists]
    rw [lists_stripped, hlists] at hstripped
    nomatch hstripped
  · have hold : s.dataStore.registry.get? (key registry) = some registry := by
      rw [← hget]
      refine (Bucket.get?_putAll_of_notMem fun a ha => ?_).symm
      obtain ⟨r, hr, rfl⟩ := List.mem_map.mp ha
      rw [key_stripped]
      exact fun hk => hmem ⟨r, hr, hk⟩
    exact hmem ⟨registry, List.mem_filter.mpr ⟨Bucket.mem_all_of_get? hold, hlists⟩, rfl⟩

/-- **The edit, call by call.** Before its last part, the loop, it has
either failed without a trace, or taken the namespace off the policies and
left the database as it was. -/
theorem dropNamespace_run (kcl : EndpointID) (ns : String) (w : Sys Callee Server) :
    let out := (dropNamespace kcl ns).run w
    let l := listing kcl ns w.store
    let updates := Action.landed (w.faults .databaseWrite) l.length
    (¬ PoliciesThrough kcl w → out.1 ≠ .ok () ∧ out.2.store = w.store) ∧
    (PoliciesThrough kcl w →
      policies kcl out.2.store = (policies kcl w.store).map (Option.map (·.erase ns)) ∧
      (w.fault .databaseRead ≠ none →
        out.1 ≠ .ok () ∧ out.2.store.dataStore = w.store.dataStore) ∧
      (w.fault .databaseRead = none →
        out.2.store.dataStore = (afterUpdates kcl ns (l.take updates) w.store).dataStore ∧
        (out.1 = .ok () ↔ updates = l.length))) := by
  refine ⟨fun h => ?_, fun h => ?_⟩
  · obtain ⟨e, w₁, hrun, hw₁⟩ := deleteNamespace_run_of_not_through ns h
    unfold dropNamespace
    rw [Action.bind_run_of_error (Action.mapError_run_of_error hrun)]
    exact ⟨fun h => (by cases h), hw₁⟩
  · obtain ⟨w₁, hrun, hdb, hpolicies, hreads, hwrites⟩ := deleteNamespace_run_of_through ns h
    unfold dropNamespace
    rw [Action.bind_run_of_ok (Action.mapError_run_ok.mpr hrun)]
    have hfault : w₁.fault .databaseRead = w.fault .databaseRead := by
      rw [Sys.fault, hreads, Sys.fault]
    cases hread : w.fault .databaseRead with
    | some text =>
      have hall : Server.registry.getAll.run w₁ = (.error text, w₁.spend .databaseRead) :=
        Action.query_run_of_some (hfault.trans hread)
      rw [Action.bind_run_of_error hall]
      exact ⟨hpolicies, fun _ => ⟨fun h => (by cases h), hdb⟩, fun h => (by cases h)⟩
    | none =>
      have hall : Server.registry.getAll.run w₁ =
          (.ok w₁.store.dataStore.registry.all, w₁.spend .databaseRead) :=
        Action.query_run_of_none (hfault.trans hread)
      rw [Action.bind_run_of_ok hall]
      obtain ⟨hstore, hok⟩ := dropFromRegistries_run kcl ns (w₁.spend .databaseRead)
      have hfaults : (w₁.spend .databaseRead).faults .databaseWrite = w.faults .databaseWrite :=
        (Sys.faults_spend_of_ne (by decide)).trans hwrites
      have hlisting : listing kcl ns (w₁.spend .databaseRead).store = listing kcl ns w.store := by
        rw [Sys.spend_store, listing, hdb, listing]
      rw [hfaults, hlisting] at hstore hok
      rw [Sys.spend_store] at hstore hok
      refine ⟨?_, fun h => absurd rfl h, fun _ => ⟨?_, hok⟩⟩
      · rw [hstore, policies_afterUpdates, hpolicies]
      · rw [hstore]
        simp only [afterUpdates, Table.change, hdb]

/-! ## The request -/

/-- What the request does: the edit, and then the cluster. -/
theorem proxyNamespaceDeleteOperation_run (t : BaseTransport) (request : Request) (ns : String)
    (w : Sys Callee ProxyState) :
    let out := (dropNamespace t.endpoint.id ns).run ⟨w.store.server, w.faults⟩
    let w' := ((t.proxyNamespaceDeleteOperation request ns).run w).2
    w'.store.server = out.2.store ∧
      (w'.store.forwarded = w.store.forwarded ++ [request] ↔ out.1 = .ok ()) := by
  unfold BaseTransport.proxyNamespaceDeleteOperation onServer
  rw [Action.bind_run, Action.zoom_run]
  rcases hout : (dropNamespace t.endpoint.id ns).run ⟨w.store.server, w.faults⟩ with ⟨e | u, w₁⟩
  · simp
  · cases hresponse : (t.httpTransport request).response <;>
      simp [BaseTransport.executeKubernetesRequest, Action.bind_run, Action.modify, hresponse]

/-- What all or nothing comes down to, for the edit. -/
theorem allOrNothing_iff_edit (t : BaseTransport) (request : Request) (w : Sys Callee ProxyState)
    {namespaceName : Path} (hroute : route request = .deleteNamespace namespaceName)
    (hns : String.ofList namespaceName = ns) {out : Except String Unit × Sys Callee Server}
    (hout : (dropNamespace t.endpoint.id ns).run ⟨w.store.server, w.faults⟩ = out) :
    AllOrNothing t request ns w ↔
      if out.1 = .ok () ∧ (t.httpTransport request).deleted = true then
        Gone t.endpoint.id ns out.2.store
      else Untouched t.endpoint.id w.store.server out.2.store := by
  obtain ⟨hserver, hforwarded⟩ := proxyNamespaceDeleteOperation_run t request ns w
  simp only [AllOrNothing, BaseTransport.proxyKubernetesRequest, hroute, hns, Deleted,
    hserver, hforwarded, hout]
  split
  · rename_i h
    exact ⟨fun hall => hall.2 h, fun hgone => ⟨fun hn => absurd h hn, fun _ => hgone⟩⟩
  · rename_i h
    exact ⟨fun hall => hall.1 h, fun hsame => ⟨fun _ => hsame, fun hd => absurd hd h⟩⟩

/-- **All or nothing, exactly.** The deletion of a namespace is all or
nothing if and only if every call of the proxy goes through and the cluster
deletes the namespace, or the edits end before anything is taken off. -/
theorem allOrNothing_iff (t : BaseTransport) (request : Request) (namespaceName : Path)
    (w : Sys Callee ProxyState) (hroute : route request = .deleteNamespace namespaceName) :
    AllOrNothing t request (String.ofList namespaceName) w ↔
      ThroughOrNothing t request (String.ofList namespaceName) w := by
  obtain ⟨out, hout⟩ : ∃ out, (dropNamespace t.endpoint.id (String.ofList namespaceName)).run
      ⟨w.store.server, w.faults⟩ = out := ⟨_, rfl⟩
  rw [allOrNothing_iff_edit t request w hroute rfl hout]
  generalize String.ofList namespaceName = ns at hout ⊢
  simp only [ThroughOrNothing]
  obtain ⟨hnot, hthrough⟩ :=
    dropNamespace_run t.endpoint.id ns ⟨w.store.server, w.faults⟩
  rw [hout] at hnot hthrough
  by_cases h : PoliciesThrough t.endpoint.id ⟨w.store.server, w.faults⟩
  swap
  · -- nothing has been written: both sides hold
    obtain ⟨hok, hstore⟩ := hnot h
    rw [if_neg fun hd => hok hd.1, hstore]
    exact iff_of_true ⟨rfl, fun _ => rfl⟩ (.inr fun hp => absurd hp h)
  obtain ⟨hpolicies, hfails, hgoes⟩ := hthrough h
  have huntouched : policies t.endpoint.id out.2.store =
      policies t.endpoint.id w.store.server ↔ ¬ Mentions t.endpoint.id w.store.server ns := by
    rw [hpolicies]
    exact map_erase_eq_iff
  cases hread : w.fault .databaseRead with
  | some text =>
    -- the registries are not read: the policies alone are at stake
    obtain ⟨hok, hdb⟩ := hfails (by rw [Sys.fault] at hread ⊢; rw [hread]; exact Option.some_ne_none _)
    rw [if_neg fun hd => hok hd.1]
    have hacc : ∀ registryID, accessesOf out.2.store registryID =
        accessesOf w.store.server registryID := fun _ => by rw [accessesOf, hdb, accessesOf]
    constructor
    · exact fun hsame => .inr fun _ => ⟨huntouched.mp hsame.1, fun h => by cases h⟩
    · rintro (⟨-, hr, -⟩ | hnone)
      · cases hr
      · exact ⟨huntouched.mpr (hnone h).1, hacc⟩
  | none =>
    obtain ⟨hdb, hok⟩ := hgoes hread
    simp only at hdb hok
    have hle := Action.landed_le (w.faults .databaseWrite)
      (listing t.endpoint.id ns w.store.server).length
    have hacc : (∀ registryID, accessesOf out.2.store registryID =
        accessesOf w.store.server registryID) ↔ Action.landed (w.faults .databaseWrite)
          (listing t.endpoint.id ns w.store.server).length = 0 := by
      rw [← accessesOf_afterUpdates_iff hle]
      simp only [accessesOf, hdb]
    simp only [hok]
    by_cases hd : Action.landed (w.faults .databaseWrite)
        (listing t.endpoint.id ns w.store.server).length =
          (listing t.endpoint.id ns w.store.server).length ∧ (t.httpTransport request).deleted = true
    · rw [if_pos hd]
      refine iff_of_true ⟨?_, fun registry hmem => ?_⟩ (.inl ⟨h, trivial, hd⟩)
      · rintro ⟨q, hq, hmem⟩
        rw [hpolicies] at hq
        obtain ⟨o, -, ho⟩ := Option.map_eq_some_iff.mp hq
        obtain ⟨q', -, rfl⟩ := Option.map_eq_some_iff.mp ho
        simp at hmem
      · rw [hdb, hd.1, List.take_length] at hmem
        exact lists_afterUpdates hmem
    · rw [if_neg hd, Untouched, huntouched, hacc]
      constructor
      · exact fun hsame => .inr fun _ => ⟨hsame.1, fun _ => hsame.2⟩
      · rintro (⟨-, -, hall⟩ | hnone)
        · exact absurd hall hd
        · exact ⟨(hnone h).1, (hnone h).2 trivial⟩

/-! ### A cluster that refuses -/

/-- The deletion of the namespace `dev`. -/
def deleteDev : Request := ⟨"DELETE", "/api/v1/namespaces/dev".toList⟩

/-- The transport of endpoint 1, to a cluster that gives one answer. -/
def transportTo (answer : Answer) : BaseTransport where
  endpoint := { id := 1, type := .agentOnKubernetesEnvironment }
  httpTransport := fun _ => answer
  proxySecretRequest := fun _ _ _ => .fail "secrets"

/-- User 7 may use the namespaces `dev` and `prod`. Of two registries the first
can be used in both, the second in `prod`. -/
def devServer : Server where
  configMaps := (∅ : ExtTreeMap EndpointID ConfigMap).insert 1
    ⟨0, some {("dev", { userAccessPolicies := {(7, {})} }), ("prod", { userAccessPolicies := {(7, {})} })}⟩
  dataStore := {
    registry := [{ id := 1, type := .custom, registryAccesses := {(1, { namespaces := ["dev", "prod"] })} },
      { id := 2, type := .custom, registryAccesses := {(1, { namespaces := ["prod"] })} }].foldl Bucket.put
        ({} : Bucket Registry) }

theorem allOrNothing_iff_deleted :
    AllOrNothing (transportTo ⟨.ok ⟨200⟩, true⟩) deleteDev "dev" (.faultless { server := devServer }) := by
  refine (allOrNothing_iff (transportTo ⟨.ok ⟨200⟩, true⟩) deleteDev "dev".toList
    (.faultless { server := devServer }) (by decide)).mpr (.inl ⟨⟨rfl, rfl, ?_⟩, rfl, ?_, rfl⟩)
  · intro configMap hcm
    exact ⟨by obtain rfl := Option.some.inj hcm; rfl, rfl⟩
  · decide

/-- **A refused deletion takes the policies off.** The cluster answers 403
and keeps the namespace, and user 7 has lost their access to it. -/
theorem not_allOrNothing_refused :
    ¬ AllOrNothing (transportTo ⟨.ok ⟨403⟩, false⟩) deleteDev "dev"
      (.faultless { server := devServer }) := by
  intro h
  have hpolicies := (h.1 fun hdeleted => nomatch hdeleted.2).1
  exact absurd hpolicies (by decide)

end Kubernetes

end Portainer
