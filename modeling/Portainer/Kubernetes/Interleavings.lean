import Mathlib.Data.List.Permutation
import Portainer.Common.Machine
import Portainer.Kubernetes.Helpers.Access
/-!
# Interleaved operations — a sequential order, where there is one

An operation that returns without error has done, at its last call, what it
does when it runs alone, provided the policies it fetched are still in
force when it reads the config map again. The order of the returns is then
a sequential order of the operations (`policies_sequential`).

Nothing in the code provides this. A cleaning does not take the lock, so a
namespace that is deleted between its two reads comes back with its write
(`policies_not_sequential`).
-/

namespace Portainer

open Std Server

namespace Kubernetes

/-! ## Interleaved operations — model

Several operations on the policies of one environment run at once. Each
is cut at its calls to the cluster: a turn takes one operation over its
next call, with whatever the calls answer. `NamespaceAccessPoliciesDeleteNamespace`
holds the client's lock from its first step to its return, the other two
do not take it. -/

/-- An operation on the policies of the environment `kcl`. -/
inductive Operation (kcl : EndpointID)
  | deleteNamespace (ns : String)
  | cleanNAP (endpoint : Endpoint) (endpointGroup : Option EndpointGroup) (own : endpoint.id = kcl)
  | updatePolicies (accessPolicies : NamespaceAccessPolicies)

namespace Operation

variable {kcl : EndpointID}

/-- The operation from start to end, with nothing in between. -/
def perform : Operation kcl → Fallible Server Unit
  | deleteNamespace ns => namespaceAccessPoliciesDeleteNamespace kcl ns
  | cleanNAP endpoint endpointGroup _ => cleanNAPWithOverridePolicies endpoint endpointGroup
  | updatePolicies accessPolicies => updateNamespaceAccessPolicies kcl accessPolicies

/-- Whether the operation takes the client's lock. -/
def locks : Operation kcl → Bool
  | deleteNamespace _ => true
  | _ => false

end Operation

/-- Where an operation stands: before its first call, inside
`UpdateNamespaceAccessPolicies` with the policies to write, about to update
the config map it has read, or returned. -/
inductive Stage
  | ready
  | locked
  | updating (accessPolicies : NamespaceAccessPolicies)
  | writing (configMap : ConfigMap)
  | returned (err : Option String)

/-- What comes after the next call. An operation that waits for the lock,
or has returned, has none. -/
def advance {kcl : EndpointID} : Operation kcl → Stage → Fallible Server Stage
  | .deleteNamespace ns, .locked => do
    let policies ←
      (getNamespaceAccessPolicies kcl).mapError ("failed to fetch access policies: " ++ ·)
    return .updating (policies.erase ns)
  | .cleanNAP endpoint endpointGroup _, .ready => do
    let client ← getKubeClient endpoint
    let accessPolicies ← getNamespaceAccessPolicies client
    let (accessPolicies, hasChange) ← cleanPolicies endpoint endpointGroup accessPolicies
    return if hasChange then .updating accessPolicies else .returned none
  | .updatePolicies accessPolicies, .ready => return .updating accessPolicies
  | _, .updating accessPolicies => do
    match ← getConfigMap kcl with
    | none => return .returned none
    | some configMap => return .writing { configMap with accessPolicies := some accessPolicies }
  | _, .writing configMap => do
    updateConfigMap kcl configMap
    return .returned none
  | _, stage => return stage

/-- The operations on one environment, and the lock of its client. -/
structure Pool (kcl : EndpointID) where
  server : Server
  lockHeld : Bool := false
  threads : List (Operation kcl × Stage)

namespace Pool

variable {kcl : EndpointID}

/-- The operations before any of them has started. -/
def start (server : Server) (operations : List (Operation kcl)) : Pool kcl :=
  { server, threads := operations.map (·, .ready) }

/-- The pool with one operation at a new stage. The lock comes free when
its holder returns. -/
def goTo (p : Pool kcl) (i : ℕ) (operation : Operation kcl) (stage : Stage) (server : Server) :
    Pool kcl where
  server := server
  lockHeld :=
    match stage with
    | .returned _ => p.lockHeld && !operation.locks
    | _ => p.lockHeld
  threads := p.threads.set i (operation, stage)

end Pool

/-- A turn: the operation it takes over its next call, and what the calls
answer. -/
structure Turn where
  thread : ℕ
  faults : Callee → List (Option String) := fun _ => []

/-- One turn. There is none for an operation that has returned, nor for one
that waits for a lock which is held. -/
def turn {kcl : EndpointID} (p : Pool kcl) (t : Turn) : Option (Pool kcl) :=
  match p.threads[t.thread]? with
  | none => none
  | some (_, .returned _) => none
  | some (.deleteNamespace ns, .ready) =>
    if p.lockHeld then none
    else some { p.goTo t.thread (.deleteNamespace ns) .locked p.server with lockHeld := true }
  | some (operation, stage) =>
    match (advance operation stage).run ⟨p.server, t.faults⟩ with
    | (.ok stage', w) => some (p.goTo t.thread operation stage' w.store)
    | (.error e, w) => some (p.goTo t.thread operation (.returned (some e)) w.store)

/-- The interleavings. -/
def interleavings (kcl : EndpointID) : Machine (Pool kcl) Turn := ⟨turn⟩

/-- The operations one after the other. -/
def sequentially {kcl : EndpointID} (s : Server) (operations : List (Operation kcl)) : Server :=
  operations.foldl (fun s operation => (operation.perform.run (.faultless s)).2.store) s

variable {kcl : EndpointID}

/-- The operations that have returned without error. -/
def succeeded (p : Pool kcl) : List (Operation kcl) :=
  p.threads.filterMap fun thread =>
    match thread.2 with
    | .returned none => some thread.1
    | _ => none

/-- The operation stands between the read it computes its policies from and
its second read. -/
def between : Operation kcl × Stage → Bool
  | (.updatePolicies _, _) => false
  | (_, .updating _) => true
  | _ => false

/-- The turn is an update that goes through and puts other policies in
place. -/
def Replaces (p : Pool kcl) (t : Turn) : Prop :=
  match p.threads[t.thread]?, p.server.configMaps[kcl]? with
  | some (_, .writing configMap), some current =>
    current.resourceVersion = configMap.resourceVersion ∧
      current.accessPolicies ≠ configMap.accessPolicies
  | _, _ => False

instance {p : Pool kcl} {t : Turn} : Decidable (Replaces p t) := by
  unfold Replaces
  split <;> infer_instance

/-- **No update cuts into a cycle**: when a turn replaces the policies, no
deletion and no cleaning stands between its two reads. -/
def Undisturbed (p : Pool kcl) (t : Turn) : Prop :=
  Replaces p t → ∀ thread ∈ p.threads, between thread = false

instance {p : Pool kcl} {t : Turn} : Decidable (Undisturbed p t) :=
  inferInstanceAs (Decidable (Replaces p t → ∀ thread ∈ p.threads, between thread = false))

/-! ## What an operation has in hand -/

variable {s s' : Server} {p p' : Pool kcl} {operation : Operation kcl}

/-- The policies are those the operation writes, if those stored now are
the ones it has fetched. -/
def Fetched (s : Server) (accessPolicies : NamespaceAccessPolicies) : Operation kcl → Prop
  | .deleteNamespace ns => ∃ q, (getNamespaceAccessPolicies kcl).run (.faultless s) =
      (.ok q, .faultless s) ∧ accessPolicies = q.erase ns
  | .cleanNAP endpoint endpointGroup _ => isKubernetesEndpoint endpoint.type = true ∧
      ∃ q, (getNamespaceAccessPolicies kcl).run (.faultless s) = (.ok q, .faultless s) ∧
        (cleanPolicies endpoint endpointGroup q).run (.faultless s) =
          (.ok (accessPolicies, true), .faultless s)
  | .updatePolicies accessPolicies' => accessPolicies = accessPolicies'

/-- The config map in hand is not newer than the one stored; if it is the
one stored, its policies are those the operation writes. -/
def InHand (s : Server) (configMap : ConfigMap) (operation : Operation kcl) : Prop :=
  ∃ current accessPolicies, s.configMaps[kcl]? = some current ∧
    configMap.accessPolicies = some accessPolicies ∧
    configMap.resourceVersion ≤ current.resourceVersion ∧
    (current.resourceVersion = configMap.resourceVersion → Fetched s accessPolicies operation)

/-- What holds of an operation at its stage. -/
def Consistent (s : Server) (thread : Operation kcl × Stage) : Prop :=
  match thread.2 with
  | .updating accessPolicies => Fetched s accessPolicies thread.1
  | .writing configMap => InHand s configMap thread.1
  | _ => True

/-- What is in hand depends on the policies stored, not on their
version. -/
theorem Fetched.congr {accessPolicies : NamespaceAccessPolicies}
    (h : Fetched s accessPolicies operation) (hdb : s'.dataStore = s.dataStore)
    (hp : policies kcl s' = policies kcl s) : Fetched s' accessPolicies operation := by
  have hget : ∀ q, (getNamespaceAccessPolicies kcl).run (.faultless s) = (.ok q, .faultless s) →
      (getNamespaceAccessPolicies kcl).run (.faultless s') = (.ok q, .faultless s') := by
    intro q hq
    rw [getNamespaceAccessPolicies_run_faultless] at hq ⊢
    rw [hp, (Prod.mk.inj hq).1]
  cases operation with
  | deleteNamespace ns =>
    obtain ⟨q, hq, rfl⟩ := h
    exact ⟨q, hget q hq, rfl⟩
  | cleanNAP endpoint endpointGroup own =>
    obtain ⟨htype, q, hq, hclean⟩ := h
    exact ⟨htype, q, hget q hq, (observes_cleanPolicies q _ _ _ hclean).2 s' hdb⟩
  | updatePolicies _ => exact h

/-- **An operation whose policies are still in force does, alone, the write
it is about to do.** -/
theorem Fetched.perform {accessPolicies : NamespaceAccessPolicies}
    (h : Fetched s accessPolicies operation) :
    operation.perform.run (.faultless s) = (.ok (), .faultless (withPolicies kcl accessPolicies s)) := by
  cases operation with
  | deleteNamespace ns =>
    obtain ⟨q, hq, rfl⟩ := h
    simp only [Operation.perform, namespaceAccessPoliciesDeleteNamespace]
    rw [Action.bind_run_of_ok (Action.mapError_run_ok.mpr hq)]
    exact updateNamespaceAccessPolicies_run_faultless
  | cleanNAP endpoint endpointGroup own =>
    obtain ⟨htype, q, hq, hclean⟩ := h
    simp only [Operation.perform, cleanNAPWithOverridePolicies]
    rw [Action.bind_run_of_ok (getKubeClient_run_faultless htype own), Action.bind_run_of_ok hq, Action.bind_run_of_ok hclean]
    exact updateNamespaceAccessPolicies_run_faultless
  | updatePolicies accessPolicies' =>
    obtain rfl := h
    exact updateNamespaceAccessPolicies_run_faultless

/-! ## One turn -/

/-- An operation alone, as the server is after it. -/
def performed (operation : Operation kcl) (s : Server) : Server :=
  (operation.perform.run (.faultless s)).2.store

/-- What a successful call leads to: it leaves the server as it is and the
operation goes on, or the operation is through and has done to the server
what it does alone. -/
def Advances (s : Server) (operation : Operation kcl) (stage stage' : Stage) (s' : Server) : Prop :=
  (s' = s ∧ Consistent s (operation, stage') ∧ ∀ err, stage' ≠ .returned err) ∨
  (s' = performed operation s ∧ stage' = .returned none ∧
    (s' = s ∨ ∃ configMap, stage = .writing configMap ∧
      (s.configMaps[kcl]?).map ConfigMap.resourceVersion = some configMap.resourceVersion ∧
      ∃ accessPolicies, configMap.accessPolicies = some accessPolicies ∧
        Fetched s accessPolicies operation))

theorem getConfigMap_run_ok {w w' : Sys Callee Server} {o : Option ConfigMap}
    (h : (getConfigMap kcl).run w = (.ok o, w')) :
    w.store.configMaps[kcl]? = o ∧ w'.store = w.store :=
  Action.query_run_ok h

/-- The two stages of `UpdateNamespaceAccessPolicies`: its read. -/
theorem advance_updating {accessPolicies : NamespaceAccessPolicies} {w w' : Sys Callee Server}
    {stage' : Stage} (hf : Fetched w.store accessPolicies operation)
    (h : (advance operation (.updating accessPolicies)).run w = (.ok stage', w')) :
    Advances w.store operation (.updating accessPolicies) stage' w'.store := by
  have hread : ∃ o, w.store.configMaps[kcl]? = o ∧ w'.store = w.store ∧ stage' = o.elim (.returned none)
      fun configMap => .writing { configMap with accessPolicies := some accessPolicies } := by
    cases operation <;>
    · obtain ⟨o, w₁, h₁, h₂⟩ := Action.bind_run_ok.mp h
      obtain ⟨ho, hw⟩ := getConfigMap_run_ok h₁
      cases o <;>
      · obtain ⟨rfl, rfl⟩ := Action.pure_run_ok.mp h₂
        exact ⟨_, ho, hw, rfl⟩
  obtain ⟨o, ho, hw, rfl⟩ := hread
  cases o with
  | none =>
    right
    refine ⟨?_, rfl, .inl hw⟩
    simp [performed, hf.perform, withPolicies, ho, hw]
  | some configMap =>
    left
    exact ⟨hw, ⟨configMap, accessPolicies, ho, rfl, Nat.le_refl _, fun _ => hf⟩, fun _ heq => by cases heq⟩

/-- The two stages of `UpdateNamespaceAccessPolicies`: its write. -/
theorem advance_writing {configMap : ConfigMap} {w w' : Sys Callee Server} {stage' : Stage}
    (hf : InHand w.store configMap operation)
    (h : (advance operation (.writing configMap)).run w = (.ok stage', w')) :
    Advances w.store operation (.writing configMap) stage' w'.store := by
  have hwrite : ∃ w₁ : Sys Callee Server,
      (updateConfigMap kcl configMap).run w = (.ok (), w₁) ∧ w₁ = w' ∧ stage' = .returned none := by
    cases operation <;>
    · obtain ⟨u, w₁, h₁, h₂⟩ := Action.bind_run_ok.mp h
      obtain ⟨rfl, rfl⟩ := Action.pure_run_ok.mp h₂
      exact ⟨_, h₁, rfl, rfl⟩
  obtain ⟨w₁, hu, rfl, rfl⟩ := hwrite
  obtain ⟨current, w₂, hget, hu⟩ := Action.bind_run_ok.mp hu
  obtain ⟨rfl, rfl⟩ := Action.get_run_ok.mp hget
  obtain ⟨hv, hu⟩ := Action.require_bind_run_ok.mp hu
  have hstore := Action.call_run_ok hu
  obtain ⟨current, accessPolicies, hcur, hp, -, hfetched⟩ := hf
  have hversion : current.resourceVersion = configMap.resourceVersion := by
    simpa [hcur] using hv
  have hf := hfetched hversion
  right
  refine ⟨?_, rfl, .inr ⟨configMap, rfl, hv, accessPolicies, hp, hf⟩⟩
  rw [hstore]
  simp [performed, hf.perform, withPolicies, hcur, withConfigMap, hversion, hp]

/-- The first read of a deletion. -/
theorem advance_deleteNamespace {ns : String} {stage' : Stage} {w w' : Sys Callee Server}
    (h : (advance (.deleteNamespace ns : Operation kcl) .locked).run w = (.ok stage', w')) :
    Advances w.store (.deleteNamespace ns : Operation kcl) .locked stage' w'.store := by
  obtain ⟨q, w₁, hq, h⟩ := Action.bind_run_ok.mp h
  obtain ⟨rfl, rfl⟩ := Action.pure_run_ok.mp h
  obtain ⟨hw, hsteady⟩ := observes_getNamespaceAccessPolicies _ _ _ (Action.mapError_run_ok.mp hq)
  exact .inl ⟨hw, ⟨q, hsteady _ rfl, rfl⟩, nofun⟩

/-- The first read of a cleaning, and what it computes from it. -/
theorem advance_cleanNAP {endpoint : Endpoint} {endpointGroup : Option EndpointGroup}
    {own : endpoint.id = kcl} {stage' : Stage} {w w' : Sys Callee Server}
    (h : (advance (.cleanNAP endpoint endpointGroup own) .ready).run w = (.ok stage', w')) :
    Advances w.store (.cleanNAP endpoint endpointGroup own) .ready stage' w'.store := by
  obtain ⟨client, w₁, hclient, h⟩ := Action.bind_run_ok.mp h
  obtain ⟨htype, hclient⟩ := Action.require_bind_run_ok.mp hclient
  obtain ⟨_, w₂, hcall, hpure⟩ := Action.bind_run_ok.mp hclient
  obtain ⟨rfl, rfl⟩ := Action.pure_run_ok.mp hpure
  have hw₂ : w₂.store = w.store := Action.call_run_ok hcall
  obtain ⟨q, w₃, hq, h⟩ := Action.bind_run_ok.mp h
  obtain ⟨⟨p, hasChange⟩, w₄, hclean, h⟩ := Action.bind_run_ok.mp h
  obtain ⟨rfl, rfl⟩ := Action.pure_run_ok.mp h
  obtain ⟨hw₃, hq⟩ := observes_getNamespaceAccessPolicies _ _ _ hq
  obtain ⟨hw₄, hclean⟩ := observes_cleanPolicies q _ _ _ hclean
  have hw : w₄.store = w.store := hw₄.trans (hw₃.trans hw₂)
  have hq := hq w.store (by rw [hw₂])
  have hclean := hclean w.store (by rw [hw₃, hw₂])
  rw [own] at hq
  cases hasChange with
  | true => exact .inl ⟨hw, ⟨htype, q, hq, hclean⟩, nofun⟩
  | false =>
    right
    refine ⟨?_, rfl, .inl hw⟩
    have hrun : (getKubeClient endpoint).run (.faultless w.store) = (.ok kcl, .faultless w.store) :=
      getKubeClient_run_faultless htype own
    rw [hw, performed]
    simp only [Operation.perform, cleanNAPWithOverridePolicies]
    rw [Action.bind_run_of_ok hrun, Action.bind_run_of_ok hq, Action.bind_run_of_ok hclean]
    rfl

/-- **One call that succeeds**, at any stage. -/
theorem advance_run_ok {stage stage' : Stage} {w w' : Sys Callee Server}
    (hstage : ∀ err, stage ≠ .returned err) (hf : Consistent w.store (operation, stage))
    (h : (advance operation stage).run w = (.ok stage', w')) :
    Advances w.store operation stage stage' w'.store := by
  cases stage with
  | updating accessPolicies => exact advance_updating hf h
  | writing configMap => exact advance_writing hf h
  | returned err => exact absurd rfl (hstage err)
  | ready =>
    cases operation with
    | cleanNAP endpoint endpointGroup own => exact advance_cleanNAP h
    | deleteNamespace ns =>
      obtain ⟨rfl, rfl⟩ := Action.pure_run_ok.mp h
      exact .inl ⟨rfl, trivial, nofun⟩
    | updatePolicies accessPolicies =>
      obtain ⟨rfl, rfl⟩ := Action.pure_run_ok.mp h
      exact .inl ⟨rfl, rfl, nofun⟩
  | locked =>
    cases operation with
    | deleteNamespace ns => exact advance_deleteNamespace h
    | cleanNAP endpoint endpointGroup own =>
      obtain ⟨rfl, rfl⟩ := Action.pure_run_ok.mp h
      exact .inl ⟨rfl, trivial, nofun⟩
    | updatePolicies accessPolicies =>
      obtain ⟨rfl, rfl⟩ := Action.pure_run_ok.mp h
      exact .inl ⟨rfl, trivial, nofun⟩

/-- A failure of the program leaves the server `s` as it is. -/
def Refuses {α : Type} (x : Fallible Server α) (s : Server) : Prop :=
  Action.Meets (fun _ => False) (· = s) x (fun _ _ => True) fun _ s' => s' = s

theorem refuses_of_returns {α β : Type} {x : Fallible Server α} {f : α → Fallible Server β}
    {Q : α → Prop} (hx : Action.Returns x s Q) (hf : ∀ a, Refuses (f a) s) :
    Refuses (x >>= f) s := by
  refine Action.Meets.bind hx fun a w hR hw => ?_
  exact hf a w hR hw.1

theorem refuses_pure {α : Type} {a : α} : Refuses (pure a) s := .pure fun _ _ => trivial

theorem refuses_updateConfigMap {configMap : ConfigMap} :
    Refuses (updateConfigMap kcl configMap) s := by
  refine refuses_of_returns (.get (Q := fun _ => True) trivial) fun current => ?_
  refine .bind (M := fun _ s' => s' = s) (.require (fun _ hs _ => hs) fun _ hs _ => hs) fun _ => ?_
  exact .call (fun _ _ => trivial) fun _ _ _ hs => hs

/-- **A call that fails changes nothing**, at any stage. -/
theorem refuses_advance {stage : Stage} : Refuses (advance operation stage) s := by
  cases stage with
  | updating accessPolicies =>
    cases operation <;>
    · refine refuses_of_returns returns_getConfigMap fun o => ?_
      cases o <;> exact refuses_pure
  | writing configMap =>
    cases operation <;>
      exact .bind (M := fun _ _ => True) refuses_updateConfigMap fun _ => .pure fun _ _ => trivial
  | returned err => cases operation <;> exact refuses_pure
  | ready =>
    cases operation with
    | cleanNAP endpoint endpointGroup own =>
      have hclient : Action.Returns (getKubeClient endpoint) s fun _ => True := by
        refine .bind (Q := fun _ => True) ?_ fun _ _ => ?_
        · exact Action.Meets.require (fun _ hs _ => ⟨hs, trivial⟩) fun _ hs _ => hs
        · refine .bind (Q := fun _ => True) ?_ fun _ _ => .pure trivial
          exact Action.Meets.call (fun _ hs => ⟨hs, trivial⟩) fun _ _ _ hs => hs
      refine refuses_of_returns hclient fun client => ?_
      refine refuses_of_returns returns_getNamespaceAccessPolicies fun q => ?_
      exact refuses_of_returns (returns_cleanPolicies q) fun _ => refuses_pure
    | deleteNamespace ns => exact refuses_pure
    | updatePolicies accessPolicies => exact refuses_pure
  | locked =>
    cases operation with
    | deleteNamespace ns =>
      exact refuses_of_returns (.mapError returns_getNamespaceAccessPolicies) fun _ => refuses_pure
    | cleanNAP endpoint endpointGroup own => exact refuses_pure
    | updatePolicies accessPolicies => exact refuses_pure

theorem advance_run_error {stage : Stage} {w w' : Sys Callee Server} {e : String}
    (h : (advance operation stage).run w = (.error e, w')) : w'.store = w.store := by
  have hrefuses : Refuses (advance operation stage) w.store := refuses_advance
  have hend := hrefuses.ends (w := w) (fun _ hk => hk.elim) rfl
  rwa [h] at hend

/-- **What a turn does.** It takes one operation that has not returned to
its next stage: either the server stays and the operation does not come to
an end without error, or it does and the server is as the operation, alone,
leaves it. -/
theorem turn_cases {t : Turn} (hp : ∀ thread ∈ p.threads, Consistent p.server thread)
    (h : turn p t = some p') :
    ∃ operation stage stage', p.threads[t.thread]? = some (operation, stage) ∧
      (∀ err, stage ≠ .returned err) ∧ p'.threads = p.threads.set t.thread (operation, stage') ∧
      (Advances p.server operation stage stage' p'.server ∨
        ∃ e, stage' = .returned (some e) ∧ p'.server = p.server) := by
  simp only [turn] at h
  split at h
  · nomatch h
  · nomatch h
  · rename_i ns hget
    split at h
    · nomatch h
    · obtain rfl := Option.some.inj h
      exact ⟨_, _, .locked, hget, nofun, rfl, .inl (.inl ⟨rfl, trivial, nofun⟩)⟩
  · rename_i operation stage hreturned hready hget
    have hstage : ∀ err, stage ≠ .returned err := fun err herr => hreturned err herr
    split at h
    · rename_i stage' w hrun
      obtain rfl := Option.some.inj h
      exact ⟨_, _, stage', hget, hstage, rfl,
        .inl (advance_run_ok hstage (hp _ (List.mem_of_getElem? hget)) hrun)⟩
    · rename_i e w hrun
      obtain rfl := Option.some.inj h
      exact ⟨_, _, _, hget, hstage, rfl, .inr ⟨e, rfl, advance_run_error hrun⟩⟩

/-! ## The invariant -/

/-- What a turn does to the server: nothing, or a write of policies whose
version moves on. -/
theorem Advances.server_eq {stage stage' : Stage} (h : Advances s operation stage stage' s') :
    s' = s ∨ ∃ configMap current accessPolicies, stage = .writing configMap ∧
      s.configMaps[kcl]? = some current ∧
      current.resourceVersion = configMap.resourceVersion ∧
      configMap.accessPolicies = some accessPolicies ∧ Fetched s accessPolicies operation ∧
      s' = withPolicies kcl accessPolicies s := by
  obtain ⟨rfl, -⟩ | ⟨hs, -, rfl | ⟨configMap, hstage, hv, accessPolicies, hp, hf⟩⟩ := h
  · exact .inl rfl
  · exact .inl rfl
  · obtain ⟨current, hcur, hversion⟩ := Option.map_eq_some_iff.mp hv
    refine .inr ⟨configMap, current, accessPolicies, hstage, hcur, hversion, hp, hf, ?_⟩
    rw [hs, performed, hf.perform]
    rfl

/-- **An undisturbed turn leaves what the others have in hand
consistent.** -/
theorem consistent_of_turn {t : Turn} {stage stage' : Stage} {thread : Operation kcl × Stage}
    (hU : Undisturbed p t) (hget : p.threads[t.thread]? = some (operation, stage))
    (hA : Advances p.server operation stage stage' s') (hmem : thread ∈ p.threads)
    (hc : Consistent p.server thread) : Consistent s' thread := by
  rcases hA.server_eq with rfl | ⟨configMap, current, accessPolicies, rfl, hcur, hv, hp, hf, rfl⟩
  · exact hc
  obtain ⟨other, stage⟩ := thread
  cases stage with
  | updating q =>
    by_cases hsame : current.accessPolicies = some accessPolicies
    · refine Fetched.congr hc withPolicies_dataStore ?_
      rw [policies_withPolicies, policies, hcur, Option.map_some, Option.map_some, hsame]
    · have hreplaces : Replaces p t := by
        simp only [Replaces, hget, hcur, hp]
        exact ⟨hv, hsame⟩
      have hnot := hU hreplaces _ hmem
      cases other with
      | updatePolicies _ => exact hc
      | deleteNamespace ns => cases hnot
      | cleanNAP _ _ _ => cases hnot
  | writing q =>
    obtain ⟨current', accessPolicies', hcur', hq, hle, -⟩ := hc
    obtain rfl : current = current' := Option.some.inj (hcur.symm.trans hcur')
    refine ⟨⟨current.resourceVersion + 1, some accessPolicies⟩, accessPolicies', ?_, hq, ?_, ?_⟩
    · simp [withPolicies, hcur]
    · exact Nat.le_succ_of_le hle
    · intro heq
      simp only at heq
      omega
  | ready => trivial
  | locked => trivial
  | returned err => trivial

/-- After the turn the operation that took it is consistent as well. -/
theorem Advances.consistent {stage stage' : Stage} (h : Advances s operation stage stage' s') :
    Consistent s' (operation, stage') := by
  obtain ⟨rfl, hc, -⟩ | ⟨-, rfl, -⟩ := h
  · exact hc
  · trivial

/-- Every operation is consistent with the server. -/
def Steady (p : Pool kcl) : Prop := ∀ thread ∈ p.threads, Consistent p.server thread

theorem steady_start {operations : List (Operation kcl)} : Steady (.start s operations) := by
  intro thread hmem
  obtain ⟨operation, -, rfl⟩ := List.mem_map.mp hmem
  trivial

theorem steady_turn {t : Turn} (hp : Steady p) (hU : Undisturbed p t) (h : turn p t = some p') :
    Steady p' := by
  obtain ⟨operation, stage, stage', hget, -, hthreads, hA⟩ := turn_cases hp h
  intro thread hmem
  rw [hthreads] at hmem
  rcases List.mem_or_eq_of_mem_set hmem with hmem | rfl
  · rcases hA with hA | ⟨e, -, hs⟩
    · exact consistent_of_turn hU hget hA hmem (hp _ hmem)
    · rw [hs]
      exact hp _ hmem
  · rcases hA with hA | ⟨e, rfl, -⟩
    · exact hA.consistent
    · trivial

/-! ### The order of the returns -/

/-- The server is what the operations that have returned without error
leave when they run one after the other, in some order. -/
def Ordered (s₀ : Server) (p : Pool kcl) : Prop :=
  ∃ order, order.Perm (succeeded p) ∧ p.server = sequentially s₀ order

/-- The value of the thread at an index, moved to the end. -/
theorem filterMap_set_perm {α β : Type} (f : α → Option β) {l : List α} {i : ℕ} {a a' : α}
    (h : l[i]? = some a) (hf : f a = none) :
    ((l.set i a').filterMap f).Perm (l.filterMap f ++ (f a').toList) := by
  induction l generalizing i with
  | nil => simp at h
  | cons b l ih =>
    cases i with
    | zero =>
      obtain rfl : b = a := by simpa using h
      cases hb : f a' with
      | none => simp [hf, hb]
      | some b' => simpa [hf, hb] using (List.perm_append_singleton b' _).symm
    | succ i =>
      have := ih (i := i) (by simpa using h)
      cases hb : f b with
      | none => simpa [hb] using this
      | some b' => simpa [hb] using this

theorem ordered_turn {s₀ : Server} {t : Turn} (hp : Steady p) (ho : Ordered s₀ p)
    (h : turn p t = some p') : Ordered s₀ p' := by
  obtain ⟨operation, stage, stage', hget, hstage, hthreads, hA⟩ := turn_cases hp h
  obtain ⟨order, hperm, hserver⟩ := ho
  have hset : (succeeded p').Perm (succeeded p ++
      (match stage' with | .returned none => some operation | _ => none).toList) := by
    unfold succeeded
    rw [hthreads]
    refine filterMap_set_perm _ hget ?_
    cases stage with
    | returned err => exact absurd rfl (hstage err)
    | _ => rfl
  rcases hA with (⟨hs, -, hgoes⟩ | ⟨hs, rfl, -⟩) | ⟨e, rfl, hs⟩
  · refine ⟨order, ?_, hs.trans hserver⟩
    refine hperm.trans (hset.trans ?_).symm
    cases stage' with
    | returned err => exact absurd rfl (hgoes err)
    | _ => simp
  · refine ⟨order ++ [operation], ?_, ?_⟩
    · exact (hperm.append_right [operation]).trans hset.symm
    · rw [hs, hserver]
      simp [sequentially, performed]
  · exact ⟨order, hperm.trans (by simpa using hset.symm), hs.trans hserver⟩

/-! ### Deleted namespaces -/

/-- The operation puts in a policy of the namespace. -/
def Operation.grants (ns : String) : Operation kcl → Prop
  | .updatePolicies accessPolicies => ns ∈ accessPolicies
  | _ => False

theorem mentions_withPolicies {q : NamespaceAccessPolicies} {ns : String}
    (h : Mentions kcl (withPolicies kcl q s) ns) : ns ∈ q := by
  obtain ⟨q', hq', hmem⟩ := h
  rw [policies_withPolicies] at hq'
  obtain ⟨-, -, hq'⟩ := Option.map_eq_some_iff.mp hq'
  rwa [Option.some.inj hq']

/-- The policies that are fetched mention no namespace that those stored do
not. -/
theorem mentions_of_fetched {q : NamespaceAccessPolicies} {ns : String}
    (h : (getNamespaceAccessPolicies kcl).run (.faultless s) = (.ok q, .faultless s))
    (hmem : ns ∈ q) : Mentions kcl s ns := by
  rw [getNamespaceAccessPolicies_run_faultless] at h
  replace h := (Prod.mk.inj h).1
  split at h
  · obtain rfl := Except.ok.inj h
    simp at hmem
  · rename_i p hp
    obtain rfl := Except.ok.inj h
    exact ⟨_, hp, hmem⟩
  · nomatch h

/-- What an operation writes mentions no other namespaces than those stored
and those it grants. -/
theorem mentions_of_write {q : NamespaceAccessPolicies} {ns : String}
    (h : Fetched s q operation) (hmem : ns ∈ q) : Mentions kcl s ns ∨ operation.grants ns := by
  cases operation with
  | deleteNamespace ns' =>
    obtain ⟨q', hq', rfl⟩ := h
    exact .inl (mentions_of_fetched hq' (ExtTreeMap.mem_of_mem_erase hmem))
  | cleanNAP endpoint endpointGroup own =>
    obtain ⟨-, q', hq', hclean⟩ := h
    have hq := ((returns_cleanPolicies q').run_ok rfl hclean).2.1
    simp only at hq
    rw [hq, restrictPolicies, ExtTreeMap.mem_map] at hmem
    exact .inl (mentions_of_fetched hq' hmem)
  | updatePolicies q' =>
    obtain rfl := h
    exact .inr hmem

/-- A deletion, alone, leaves no policy of its namespace. -/
theorem not_mentions_performed {ns : String} :
    ¬ Mentions kcl (performed (.deleteNamespace ns : Operation kcl) s) ns := by
  cases hq : ((getNamespaceAccessPolicies kcl).run (.faultless s)).1 with
  | ok q =>
    have hget : (getNamespaceAccessPolicies kcl).run (.faultless s) = (.ok q, .faultless s) := by
      rw [getNamespaceAccessPolicies_run_faultless] at hq ⊢
      rw [← hq]
    have hf : Fetched s (q.erase ns) (.deleteNamespace ns : Operation kcl) := ⟨q, hget, rfl⟩
    rw [performed, hf.perform]
    intro h
    have := mentions_withPolicies h
    simp at this
  | error e =>
    have hget : (getNamespaceAccessPolicies kcl).run (.faultless s) = (.error e, .faultless s) := by
      rw [getNamespaceAccessPolicies_run_faultless] at hq ⊢
      rw [← hq]
    have hs : performed (.deleteNamespace ns : Operation kcl) s = s := by
      simp only [performed, Operation.perform, namespaceAccessPoliciesDeleteNamespace]
      rw [Action.bind_run, Action.mapError_run, hget]
      rfl
    rw [hs]
    rintro ⟨q, hp, -⟩
    rw [getNamespaceAccessPolicies_run_faultless, hp] at hget
    nomatch (Prod.mk.inj hget).1

/-- From here on the operation `i` is a deletion of the namespace, nothing
that is still to come grants it, and once the deletion is through no policy
of the namespace is stored. -/
def Settled (i : ℕ) (ns : String) (p : Pool kcl) : Prop :=
  Steady p ∧ (∀ thread ∈ p.threads, thread.1.grants ns → ∃ err, thread.2 = .returned err) ∧
    ∃ stage, p.threads[i]? = some (.deleteNamespace ns, stage) ∧
      (stage = .returned none → ¬ Mentions kcl p.server ns)

theorem settled_turn {i : ℕ} {ns : String} {t : Turn} (hp : Settled i ns p)
    (hU : Undisturbed p t) (h : turn p t = some p') : Settled i ns p' := by
  obtain ⟨hsteady, hgrants, stage₀, hi, hgone⟩ := hp
  obtain ⟨operation, stage, stage', hget, hstage, hthreads, hA⟩ := turn_cases hsteady h
  refine ⟨steady_turn hsteady hU h, ?_, ?_⟩
  · intro thread hmem hg
    rw [hthreads] at hmem
    rcases List.mem_or_eq_of_mem_set hmem with hmem | rfl
    · exact hgrants _ hmem hg
    · obtain ⟨err, herr⟩ := hgrants _ (List.mem_of_getElem? hget) hg
      exact absurd herr (hstage err)
  by_cases hit : t.thread = i
  · subst hit
    obtain ⟨rfl, rfl⟩ := Prod.mk.inj (Option.some.inj (hget.symm.trans hi))
    have hlt : t.thread < p.threads.length := (List.getElem?_eq_some_iff.mp hget).1
    refine ⟨stage', by rw [hthreads]; simp [hlt], fun hreturned => ?_⟩
    rcases hA with (⟨-, -, hgoes⟩ | ⟨hs, -, -⟩) | ⟨e, he, -⟩
    · exact absurd hreturned (hgoes none)
    · rw [hs]
      exact not_mentions_performed
    · rw [he] at hreturned
      nomatch hreturned
  · refine ⟨stage₀, by rw [hthreads, List.getElem?_set_ne hit]; exact hi, fun hreturned => ?_⟩
    have hgone := hgone hreturned
    rcases hA with hA | ⟨e, -, hs⟩
    · rcases hA.server_eq with hs | ⟨configMap, current, q, rfl, -, -, -, hf, hs⟩
      · rw [hs]
        exact hgone
      · rw [hs]
        intro hm
        rcases mentions_of_write hf (mentions_withPolicies hm) with hm | hg
        · exact hgone hm
        · obtain ⟨err, herr⟩ := hgrants _ (List.mem_of_getElem? hget) hg
          nomatch herr
    · rw [hs]
      exact hgone

/-! ## Undisturbed runs are sequential -/

/-- **Without an update inside a cycle the policies are those of a
sequential order.** In every state of an undisturbed run the policies are
those that the operations returned without error leave one after the other,
in some order. Once a deletion has gone through, from a point where no
grant of its namespace was left to come, no policy of the namespace comes
back. -/
theorem policies_sequential {operations : List (Operation kcl)} {turns : List Turn}
    (hU : (interleavings kcl).Along Undisturbed (.start s operations) turns)
    (h : (interleavings kcl).run (.start s operations) turns = some p) :
    (∃ order, order.Perm (succeeded p) ∧
      policies kcl p.server = policies kcl (sequentially s order)) ∧
    ∀ before after p₁ (i : ℕ) ns, turns = before ++ after →
      (interleavings kcl).run (.start s operations) before = some p₁ →
      p₁.threads[i]? = some (.deleteNamespace ns, .ready) →
      (∀ thread ∈ p₁.threads, thread.1.grants ns → ∃ err, thread.2 = .returned err) →
      p.threads[i]? = some (.deleteNamespace ns, .returned none) →
      ¬ Mentions kcl p.server ns := by
  refine ⟨?_, ?_⟩
  · have hstep : ∀ (p : Pool kcl) (t : Turn) (p' : Pool kcl), Steady p ∧ Ordered s p →
        Undisturbed p t → turn p t = some p' → Steady p' ∧ Ordered s p' :=
      fun p t p' hp hU ht => ⟨steady_turn hp.1 hU ht, ordered_turn hp.1 hp.2 ht⟩
    have hstart : Ordered s (.start s operations : Pool kcl) := by
      refine ⟨[], ?_, rfl⟩
      have hnone : succeeded (.start s operations : Pool kcl) = [] := by
        simp [succeeded, Pool.start]
      rw [hnone]
    have hinv := Machine.run_invariant hstep ⟨steady_start, hstart⟩ hU h
    obtain ⟨-, order, hperm, hserver⟩ := hinv
    exact ⟨order, hperm, by rw [hserver]⟩
  · rintro before after p₁ i ns rfl hbefore hready hgrants hreturned
    obtain ⟨hU₁, hU₂⟩ := Machine.along_append hU
    obtain ⟨p₂, hp₂, hafter⟩ := Machine.run_append.mp h
    obtain rfl : p₁ = p₂ := Option.some.inj (hbefore.symm.trans hp₂)
    have hsteady : ∀ (p : Pool kcl) (t : Turn) (p' : Pool kcl), Steady p → Undisturbed p t →
        turn p t = some p' → Steady p' := fun _ _ _ hp hU ht => steady_turn hp hU ht
    have hsettled : ∀ (p : Pool kcl) (t : Turn) (p' : Pool kcl), Settled i ns p →
        Undisturbed p t → turn p t = some p' → Settled i ns p' :=
      fun _ _ _ hp hU ht => settled_turn hp hU ht
    have h₁ := Machine.run_invariant hsteady steady_start hU₁ hbefore
    have h₂ := Machine.run_invariant hsettled ⟨h₁, hgrants, .ready, hready, nofun⟩
      (hU₂ p₁ hbefore) hafter
    obtain ⟨-, -, stage, hstage, hgone⟩ := h₂
    obtain ⟨-, rfl⟩ := Prod.mk.inj (Option.some.inj (hstage.symm.trans hreturned))
    exact hgone rfl

/-! ### A cleaning and a deletion at once -/

/-- An environment that user 7 has access to. -/
def sharedEndpoint : Endpoint where
  id := 1
  type := .agentOnKubernetesEnvironment
  userAccessPolicies := (∅ : UserAccessPolicies).insert 7 {}

/-- Users 7 and 8 may use the namespace `dev`. -/
def sharedPolicies : NamespaceAccessPolicies :=
  (∅ : NamespaceAccessPolicies).insert "dev"
    { userAccessPolicies := ((∅ : UserAccessPolicies).insert 7 {}).insert 8 {} }

def sharedServer : Server where
  configMaps := (∅ : ExtTreeMap EndpointID ConfigMap).insert 1 ⟨0, some sharedPolicies⟩

/-- A cleaning, and a deletion of `dev`. -/
def cleanAndDelete : List (Operation 1) :=
  [.cleanNAP sharedEndpoint (some { id := 1 }) rfl, .deleteNamespace "dev"]

/-- Turns of the given operations, in which no call fails. -/
def turnsOf (threads : List ℕ) : List Turn := threads.map fun i => { thread := i }

theorem policies_sequential_one_by_one :
    ∃ p : Pool 1, (∃ order, order.Perm (succeeded p) ∧
      policies 1 p.server = policies 1 (sequentially sharedServer order)) ∧
      ¬ Mentions 1 p.server "dev" := by
  have hU : (interleavings 1).Along Undisturbed (.start sharedServer cleanAndDelete)
      (turnsOf [0, 0, 0, 1, 1, 1, 1]) := by decide
  have h := policies_sequential hU rfl
  refine ⟨_, h.1, h.2 [] _ _ 1 "dev" rfl rfl rfl ?_ rfl⟩
  rintro thread hmem hgrants
  obtain ⟨operation, hoperation, rfl⟩ := List.mem_map.mp hmem
  rcases List.mem_pair.mp hoperation with rfl | rfl <;> exact hgrants.elim

/-- **A deletion in between is undone.** The cleaning reads the policies,
the namespace is deleted, and the cleaning writes what it computed from its
read: `dev` is back, which it is after neither order of the two. -/
theorem policies_not_sequential :
    ∃ (s : Server) (operations : List (Operation 1)) (turns : List Turn) (p : Pool 1),
      (interleavings 1).run (.start s operations) turns = some p ∧
      (∀ thread ∈ p.threads, thread.2 = .returned none) ∧
      Mentions 1 p.server "dev" ∧
      ∀ order, order.Perm operations → policies 1 p.server ≠ policies 1 (sequentially s order) := by
  refine ⟨sharedServer, cleanAndDelete, turnsOf [0, 1, 1, 1, 1, 0, 0], _, rfl, ?_, ?_, ?_⟩
  · intro thread hmem
    rcases List.mem_pair.mp hmem with rfl | rfl <;> rfl
  · exact ⟨_, rfl, by decide⟩
  · intro order horder
    rcases List.perm_pair.mp horder with rfl | rfl <;> decide

end Kubernetes

end Portainer
