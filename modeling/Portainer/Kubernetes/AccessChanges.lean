import Portainer.Common.Leaves
import Portainer.Kubernetes.Helpers.Tokens
/-!
# Changes of access — when they take effect

A request is sent with the service account of a user, and what the account
may do is what it was bound to when the user's token went into the cache.
`upToDate_of_run` says when the bindings are those that a setup would make
of the memberships and the policies stored at that moment: if whatever a
step takes from somebody, or gives, finds no token of theirs in the cache
of the environment, and the setups themselves follow the policies.

The memberships and the policies are changed by handlers that do not touch
the caches, and only a logout of the user does. `not_upToDate` is a run in
which a policy is taken back and the user works on.
-/

namespace Portainer

open Std
open Action (Keeps Meets Runs Ensures Returns)

namespace Kubernetes

open KubeClient (Bound Grants)

namespace Tokens

variable {services : Users.Services} {instanceID : String} {h h' h₁ h₂ : Host}
variable {id : EndpointID} {userID : UserID} {ns : String}

/-- The teams that are stored of a user. -/
def teamsOf (s : Server) (userID : UserID) : List TeamID :=
  KubeClient.teamIDs (s.dataStore.teamMembershipsByUserID userID)

/-- What is stored now gives the user the namespace. -/
def Due (instanceID : String) (h : Host) (id : EndpointID) (userID : UserID) (ns : String) : Prop :=
  ns ∈ (h.clusters id).namespaces ∧
    Grants ⟨id, instanceID⟩ userID (teamsOf h.server userID) h ns

/-- **The bindings of the user are those of a setup made now.** -/
def UpToDate (instanceID : String) (h : Host) (id : EndpointID) (userID : UserID) : Prop :=
  ∀ ns ∈ (h.clusters id).namespaces,
    Bound ⟨id, instanceID⟩ userID h ns ↔ Grants ⟨id, instanceID⟩ userID (teamsOf h.server userID) h ns

/-- The host as a request found it when it was sent. -/
def found (f : Forwarded) : Host := { server := f.server, clusters := f.clusters }

/-- **Every request was sent with the bindings of its moment.** -/
def Timely (instanceID : String) (h : Host) : Prop :=
  ∀ f ∈ h.forwarded, UpToDate instanceID (found f) f.endpointID f.userID

/-- The bindings of everybody who has a token in a cache are up to date. -/
def Coherent (instanceID : String) (h : Host) : Prop :=
  ∀ id userID, (h.getToken id userID).isSome = true → UpToDate instanceID h id userID

/-- **A turn is in time.** Whoever has a token in the cache of an
environment after it is due the same namespaces there as before. And where
it sets up a service account, no subject is mistaken. -/
def InTime (services : Users.Services) (instanceID : String) (h : Host) (t : Turn) : Prop :=
  (∀ h', (machine services instanceID).step h t = some h' →
    ∀ id userID, (h'.getToken id userID).isSome = true →
      ∀ ns, Due instanceID h' id userID ns ↔ Due instanceID h id userID ns) ∧
  ∀ token endpointID idle effect, t.event = .proxied token endpointID idle effect →
    ∀ tokenData endpoint w₁,
      (admitRequest token endpointID idle).run (t.sys h) = (.ok (tokenData, endpoint), w₁) →
      isKubernetesEndpoint endpoint.type = true → tokenData.role ≠ .administrator →
      w₁.store.getToken endpoint.id tokenData.id = none →
      KubeClient.CanSetUp ⟨endpoint.id, instanceID⟩ h →
      ∀ ns ∈ (h.clusters endpoint.id).namespaces,
        KubeClient.Unmistaken ⟨endpoint.id, instanceID⟩ tokenData.id (teamsOf h.server tokenData.id) h ns

/-! ## Coherence, from what is due -/

theorem upToDate_congr (hserver : h'.server = h.server) (hcluster : h'.clusters id = h.clusters id) :
    UpToDate instanceID h' id userID ↔ UpToDate instanceID h id userID := by
  unfold UpToDate Bound Grants KubeClient.storedPolicies
  rw [hserver, hcluster]

theorem due_congr (hserver : h'.server = h.server)
    (hnamespaces : (h'.clusters id).namespaces = (h.clusters id).namespaces) :
    Due instanceID h' id userID ns ↔ Due instanceID h id userID ns := by
  unfold Due Grants KubeClient.storedPolicies
  rw [hserver, hnamespaces]

/-- **Coherence is kept** by a change that gives nobody a token, leaves the
bindings of the namespaces that stay, and changes what is due to nobody who
keeps a token. -/
theorem Coherent.of_due (hcoherent : Coherent instanceID h)
    (htokens : ∀ id userID, (h'.getToken id userID).isSome = true →
      (h.getToken id userID).isSome = true)
    (hbound : ∀ id userID, ∀ ns ∈ (h'.clusters id).namespaces, Bound ⟨id, instanceID⟩ userID h' ns ↔
      ns ∈ (h.clusters id).namespaces ∧ Bound ⟨id, instanceID⟩ userID h ns)
    (hdue : ∀ id userID, (h'.getToken id userID).isSome = true →
      ∀ ns, Due instanceID h' id userID ns ↔ Due instanceID h id userID ns) :
    Coherent instanceID h' := by
  intro id userID hcached ns hns
  have hbefore : ns ∈ (h.clusters id).namespaces ∧ Bound ⟨id, instanceID⟩ userID h ns ↔
      Due instanceID h id userID ns :=
    and_congr_right fun hmem => hcoherent id userID (htokens id userID hcached) ns hmem
  have hafter : Due instanceID h' id userID ns ↔
      Grants ⟨id, instanceID⟩ userID (teamsOf h'.server userID) h' ns := by
    unfold Due
    exact and_iff_right hns
  rw [hbound id userID ns hns, hbefore, ← hdue id userID hcached ns, hafter]

/-- What takes at most tokens away. -/
theorem Coherent.of_admitted (hcoherent : Coherent instanceID h) (hh' : Host.Admitted h h') :
    Coherent instanceID h' := by
  intro id userID hcached
  rw [upToDate_congr hh'.server (by rw [hh'.clusters])]
  exact hcoherent id userID (hh'.tokens id userID hcached)

/-! ## The API server -/

theorem execute_namespaces {effect : Effect} {j : EndpointID} :
    ((h.execute id effect).clusters j).namespaces =
      if j = id then effect.namespaces (h.clusters j).namespaces else (h.clusters j).namespaces := by
  unfold Host.execute Host.alterCluster
  by_cases hj : j = id <;> simp [hj, Cluster.withNamespaces]

/-- Whoever is bound in a namespace afterwards was so before. -/
theorem bound_execute {effect : Effect} {j : EndpointID}
    (hns : ns ∈ ((h.execute id effect).clusters j).namespaces) :
    Bound ⟨j, instanceID⟩ userID (h.execute id effect) ns ↔
      ns ∈ (h.clusters j).namespaces ∧ Bound ⟨j, instanceID⟩ userID h ns := by
  rw [execute_namespaces] at hns
  unfold Bound KubeClient.binding Host.execute Host.alterCluster
  by_cases hj : j = id
  · rw [if_pos hj] at hns
    by_cases hold : ns ∈ (h.clusters j).namespaces
    · simp [hj, Cluster.withNamespaces, hj ▸ hold, hj ▸ hns]
    · simp [hj, Cluster.withNamespaces, hj ▸ hold, KubeClient.subjectsOf]
  · rw [if_neg hj] at hns
    simp [hj, hns]

/-- **A request keeps coherence** if it changes nothing that is due. -/
theorem Coherent.execute {effect : Effect} (hcoherent : Coherent instanceID h)
    (hdue : ∀ j userID, ((h.execute id effect).getToken j userID).isSome = true → ∀ ns,
      Due instanceID (h.execute id effect) j userID ns ↔ Due instanceID h j userID ns) :
    Coherent instanceID (h.execute id effect) :=
  hcoherent.of_due (fun _ _ hu => hu) (fun _ _ _ hns => bound_execute hns) hdue

/-! ## The setup -/

/-- What a setup spares stays up to date. -/
theorem UpToDate.of_spared {kcl : KubeClient} {u : UserID} (hinstance : kcl.instanceID = instanceID)
    (hspared : Host.Spared kcl (kcl.userServiceAccountName u) h₁ h₂)
    (hother : id ≠ kcl.endpointID ∨ userID ≠ u) (hup : UpToDate instanceID h₁ id userID) :
    UpToDate instanceID h₂ id userID := by
  by_cases hid : id = kcl.endpointID
  · have huser : userID ≠ u := hother.resolve_left (not_not_intro hid)
    subst hid hinstance
    have hname : kcl.userServiceAccountName userID ≠ kcl.userServiceAccountName u :=
      fun heq => huser (userServiceAccountName_injective heq)
    intro ns hns
    rw [hspared.cluster.namespaces] at hns
    have hforeign := hspared.cluster.roleBindings ns (kcl.namespaceClusterRoleBindingName ns)
    -- the account is one of the subjects that are called otherwise
    have hbound : ∀ o, KubeClient.subject (kcl.userServiceAccountName userID) ∈ KubeClient.subjectsOf o ↔
        KubeClient.subject (kcl.userServiceAccountName userID) ∈
          foreignOf (kcl.userServiceAccountName u) o := by
      intro o
      simp [foreignOf, KubeClient.subject, hname]
    have hsame : Bound kcl userID h₂ ns ↔ Bound kcl userID h₁ ns := by
      unfold Bound KubeClient.binding
      rw [hbound, hbound, hforeign]
    have hgrants : Grants kcl userID (teamsOf h₂.server userID) h₂ ns ↔
        Grants kcl userID (teamsOf h₁.server userID) h₁ ns := by
      unfold Grants KubeClient.storedPolicies
      rw [hspared.server]
    exact (hsame.trans (hup ns hns)).trans hgrants.symm
  · exact (upToDate_congr hspared.server (hspared.clusters id hid)).mpr hup

/-- **A setup that succeeds brings the user up to date**, where no subject
is mistaken. -/
theorem ensures_setup {kcl : KubeClient}
    (hunmistaken : kcl.CanSetUp h → ∀ ns ∈ (h.clusters kcl.endpointID).namespaces,
      kcl.Unmistaken userID (teamsOf h.server userID) h ns) :
    Ensures (kcl.setupUserServiceAccount userID (teamsOf h.server userID)) h
      fun _ h' => UpToDate kcl.instanceID h' kcl.endpointID userID := by
  refine (Runs.ensures (KubeClient.runs_setupUserServiceAccount kcl False userID
    (teamsOf h.server userID) h)).conseq fun _ h' hh' => ?_
  obtain ⟨hcan, rfl⟩ := hh'
  intro ns hns
  rw [Host.alterCluster_self, KubeClient.setUp_namespaces] at hns
  exact ((KubeClient.bound_setUp hcan hns).mpr (hunmistaken hcan ns hns)).1

/-- What a proxied request leaves before it is executed: the server and the
namespaces as they were, and all tokens up to date. -/
structure Prepared (instanceID : String) (h₀ h : Host) : Prop where
  server : h.server = h₀.server
  namespaces : ∀ id, (h.clusters id).namespaces = (h₀.clusters id).namespaces
  coherent : Coherent instanceID h
  timely : Timely instanceID h₀ → Timely instanceID h

theorem Timely.of_forwarded (htimely : Timely instanceID h) (heq : h'.forwarded = h.forwarded) :
    Timely instanceID h' := by
  intro f hf
  rw [heq] at hf
  exact htimely f hf

theorem Prepared.trans (hh₁ : Prepared instanceID h h₁) (hh₂ : Prepared instanceID h₁ h₂) :
    Prepared instanceID h h₂ :=
  ⟨hh₂.server.trans hh₁.server, fun id => (hh₂.namespaces id).trans (hh₁.namespaces id), hh₂.coherent,
    fun htimely => hh₂.timely (hh₁.timely htimely)⟩

theorem Prepared.of_admitted (hcoherent : Coherent instanceID h) (hh' : Host.Admitted h h') :
    Prepared instanceID h h' :=
  ⟨hh'.server, fun _ => by rw [hh'.clusters], hcoherent.of_admitted hh',
    fun htimely => htimely.of_forwarded hh'.forwarded⟩

/-- What a setup leaves is prepared, if the user has no token. -/
theorem Prepared.of_spared {kcl : KubeClient} (hinstance : kcl.instanceID = instanceID)
    (hcoherent : Coherent instanceID h) (hnone : h.getToken kcl.endpointID userID = none)
    (hspared : Host.Spared kcl (kcl.userServiceAccountName userID) h h') :
    Prepared instanceID h h' := by
  refine ⟨hspared.server, fun id => ?_, fun id u hu => ?_,
    fun htimely => htimely.of_forwarded hspared.forwarded⟩
  · by_cases hid : id = kcl.endpointID
    · rw [hid]
      exact hspared.cluster.namespaces
    · rw [hspared.clusters id hid]
  · have hu' : (h.getToken id u).isSome = true := by
      unfold Host.getToken at *
      rwa [hspared.tokenCaches] at hu
    refine UpToDate.of_spared hinstance hspared ?_ (hcoherent id u hu')
    by_contra hsame
    push Not at hsame
    rw [hsame.1, hsame.2, hnone] at hu'
    cases hu'

/-- A token for a user who is up to date. -/
theorem Prepared.addToken {token : String} (hh' : Prepared instanceID h h')
    (hup : UpToDate instanceID h' id userID) : Prepared instanceID h (h'.addToken id userID token) := by
  refine ⟨hh'.server, hh'.namespaces, fun j u hu => ?_, hh'.timely⟩
  rw [upToDate_congr rfl rfl]
  rw [Host.getToken_addToken] at hu
  by_cases hsame : j = id ∧ u = userID
  · rw [hsame.1, hsame.2]
    exact hup
  · rw [if_neg hsame] at hu
    exact hh'.coherent j u hu

/-- **The token of a user who has none.** -/
theorem meets_newToken {kcl : KubeClient} (hinstance : kcl.instanceID = instanceID)
    (hcoherent : Coherent instanceID h) (hnone : h.getToken kcl.endpointID userID = none)
    (hunmistaken : kcl.CanSetUp h → ∀ ns ∈ (h.clusters kcl.endpointID).namespaces,
      kcl.Unmistaken userID (teamsOf h.server userID) h ns) :
    Meets (fun _ => False) (· = h) (kcl.newUserServiceAccountToken userID)
      (fun _ h' => Prepared instanceID h h' ∧ (h'.getToken kcl.endpointID userID).isSome = true)
      fun _ => Prepared instanceID h := by
  have hself : Prepared instanceID h h := .of_admitted hcoherent .refl
  have hread : Returns (onHostServer (Server.teamMembershipsByUserID userID)) h
      fun memberships => KubeClient.teamIDs memberships = teamsOf h.server userID :=
    Returns.zoom (Returns.query rfl) rfl
  refine Meets.bind (Meets.conseq hread (fun _ hs => hs) (fun _ _ hs => hs) fun _ _ hs => hs ▸ hself)
    fun memberships => ?_
  have hsetup : Meets (fun _ => False) (· = h)
      ((kcl.setupUserServiceAccount userID (teamsOf h.server userID)).mapError APIError.text)
      (fun _ h' => Prepared instanceID h h' ∧ UpToDate instanceID h' kcl.endpointID userID)
      fun _ => Prepared instanceID h := by
    refine Meets.mapError ((Keeps.ensuring (I := Host.Spared kcl (kcl.userServiceAccountName userID) h)
      Spared.keeps_setupUserServiceAccount Spared.refl (ensures_setup hunmistaken) _).conseq
        (fun _ hs => hs) (fun _ h' hs => ?_) fun _ h' hs => ?_)
    · exact ⟨.of_spared hinstance hcoherent hnone hs.1, hinstance ▸ hs.2⟩
    · exact .of_spared hinstance hcoherent hnone hs
  intro w hR hw
  obtain ⟨hstore, hteams⟩ := hw
  rw [hteams]
  refine Meets.bind hsetup (fun _ => ?_) w hR hstore
  have hbearer : Keeps ((kcl.getServiceAccountBearerToken userID).mapError APIError.text)
      fun h' => Prepared instanceID h h' ∧ UpToDate instanceID h' kcl.endpointID userID :=
    Keeps.mapError keeps_getServiceAccountBearerToken
  refine Meets.bind ((hbearer _).conseq (fun _ hs => hs) (fun _ _ hs => hs) fun _ _ hs => hs.1)
    fun token => ?_
  refine Meets.bind (M := fun _ h' => Prepared instanceID h h' ∧
    (h'.getToken kcl.endpointID userID).isSome = true) (Meets.modify fun h' hs => ?_) fun _ => Meets.pure fun _ hs => hs
  refine ⟨hs.1.addToken hs.2, ?_⟩
  rw [Host.getToken_addToken, if_pos ⟨rfl, rfl⟩]
  rfl

/-! ## The request -/

/-- A request of a user who is up to date is sent in time. -/
theorem Prepared.record (hh' : Prepared instanceID h h') (hup : UpToDate instanceID h' id userID) :
    Prepared instanceID h (h'.record id userID) := by
  refine ⟨hh'.server, hh'.namespaces, fun j u hu => ?_, fun htimely f hf => ?_⟩
  · exact (upToDate_congr rfl rfl).mpr (hh'.coherent j u hu)
  · rcases List.mem_append.mp hf with hf | hf
    · exact hh'.timely htimely f hf
    · obtain rfl := List.mem_singleton.mp hf
      exact (upToDate_congr rfl rfl).mpr hup

theorem meets_getRoundTripToken {kcl : KubeClient} {tokenData : TokenData}
    (hinstance : kcl.instanceID = instanceID) (hcoherent : Coherent instanceID h)
    (hunmistaken : tokenData.role ≠ .administrator → h.getToken kcl.endpointID tokenData.id = none →
      kcl.CanSetUp h → ∀ ns ∈ (h.clusters kcl.endpointID).namespaces,
        kcl.Unmistaken tokenData.id (teamsOf h.server tokenData.id) h ns) :
    Meets (fun _ => False) (· = h) (getRoundTripToken kcl tokenData)
      (fun _ h' => Prepared instanceID h h' ∧ (tokenData.role ≠ .administrator →
        (h'.getToken kcl.endpointID tokenData.id).isSome = true))
      fun _ => Prepared instanceID h := by
  have hself : Prepared instanceID h h := .of_admitted hcoherent .refl
  unfold getRoundTripToken
  by_cases hrole : tokenData.role = .administrator
  · rw [if_pos hrole]
    refine Meets.pure fun h' hs => ?_
    subst hs
    exact ⟨hself, fun hne => absurd hrole hne⟩
  rw [if_neg hrole]
  have htoken : Meets (fun _ => False) (· = h) (kcl.getUserServiceAccountToken tokenData.id)
      (fun _ h' => Prepared instanceID h h' ∧ (h'.getToken kcl.endpointID tokenData.id).isSome = true)
      fun _ => Prepared instanceID h := by
    refine Meets.bind (M := fun o h' => h' = h ∧ o = h.getToken kcl.endpointID tokenData.id)
      (Meets.get fun _ hs => hs ▸ ⟨rfl, rfl⟩) fun o => ?_
    cases o with
    | some token =>
      refine Meets.pure fun h' hs => ?_
      obtain ⟨rfl, htoken⟩ := hs
      exact ⟨hself, by rw [← htoken]; rfl⟩
    | none =>
      intro w hR hw
      obtain ⟨hstore, hnone⟩ := hw
      exact meets_newToken hinstance hcoherent hnone.symm (hunmistaken hrole hnone.symm) w hR hstore
  exact htoken.bind fun _ => Meets.pure fun _ hs => ⟨hs.1, fun _ => hs.2⟩

/-- Where a round trip ends: before the request is executed, or after. -/
def Sent (instanceID : String) (id : EndpointID) (effect : Effect) (h₀ h : Host) : Prop :=
  Prepared instanceID h₀ h ∨ ∃ h₁, Prepared instanceID h₀ h₁ ∧ h = h₁.execute id effect

theorem meets_roundTrip (kcl : KubeClient) {tokenData : TokenData} (effect : Effect)
    (hinstance : kcl.instanceID = instanceID) (hcoherent : Coherent instanceID h)
    (hunmistaken : tokenData.role ≠ .administrator → h.getToken kcl.endpointID tokenData.id = none →
      kcl.CanSetUp h → ∀ ns ∈ (h.clusters kcl.endpointID).namespaces,
        kcl.Unmistaken tokenData.id (teamsOf h.server tokenData.id) h ns) :
    Meets (fun _ => False) (· = h) (roundTrip kcl tokenData effect)
      (fun _ => Sent instanceID kcl.endpointID effect h)
      fun _ => Sent instanceID kcl.endpointID effect h := by
  refine Meets.bind ((meets_getRoundTripToken hinstance hcoherent hunmistaken).conseq
    (fun _ hs => hs) (fun _ _ hs => hs) fun _ _ hs => .inl hs) fun _ => ?_
  refine Meets.bind (M := fun _ h' => Prepared instanceID h h' ∧ (tokenData.role ≠ .administrator →
    (h'.getToken kcl.endpointID tokenData.id).isSome = true))
    (Meets.query (fun _ hs => hs) fun _ _ _ hs => .inl hs.1) fun _ => ?_
  refine Meets.bind (M := fun _ => Prepared instanceID h) (Meets.modify fun h' hs => ?_) fun _ => ?_
  · by_cases hrole : tokenData.role = .administrator
    · rw [if_pos hrole]
      exact hs.1
    · rw [if_neg hrole]
      exact hs.1.record (hs.1.coherent _ _ (hs.2 hrole))
  · exact Meets.call (fun h' hs => .inr ⟨h', hs, rfl⟩) fun _ _ _ hs => .inl hs

/-! ## The steps -/

theorem onHostServer_store {ε α : Type} (x : Action Callee Server ε α) (w : Sys Callee Host) :
    ∃ s, ((onHostServer x).run w).2.store = { w.store with server := s } := by
  unfold onHostServer
  rw [Action.zoom_run]
  exact ⟨_, rfl⟩

theorem mapError_store {ε ε' α : Type} (g : ε → ε') (x : Action Callee Host ε α) (w : Sys Callee Host) :
    ((x.mapError g).run w).2 = (x.run w).2 := by
  rw [Action.mapError_run]
  rcases x.run w with ⟨e | a, w'⟩ <;> rfl

/-- **A step keeps everything up to date.** -/
theorem sound_step {t : Turn} (hcoherent : Coherent instanceID h) (htimely : Timely instanceID h)
    (hC : InTime services instanceID h t) (hstep : (machine services instanceID).step h t = some h') :
    Coherent instanceID h' ∧ Timely instanceID h' := by
  have hdue := hC.1 h' hstep
  -- a change of the server, after which some may have lost their tokens
  have hserver : ∀ s caches, h' = { h with server := s, tokenCaches := caches } →
      (∀ j u, (h'.getToken j u).isSome = true → (h.getToken j u).isSome = true) →
      Coherent instanceID h' ∧ Timely instanceID h' := by
    rintro s caches rfl htokens
    exact ⟨hcoherent.of_due htokens (fun _ _ _ hns => (and_iff_right hns).symm) hdue, htimely⟩
  have hh' := (Option.some.inj hstep).symm
  obtain ⟨event, faults⟩ := t
  cases event with
  | users request token salt =>
    obtain ⟨s, hs⟩ := onHostServer_store (Users.handle services token salt request) ⟨h, faults⟩
    have hend : h' = { h with server := s } := hh'.trans hs
    exact hserver s h.tokenCaches hend fun _ _ hu => by rw [hend] at hu; exact hu
  | updateNamespaceAccessPolicies endpointID accessPolicies =>
    obtain ⟨s, hs⟩ := onHostServer_store (updateNamespaceAccessPolicies endpointID accessPolicies)
      ⟨h, faults⟩
    have hend : h' = { h with server := s } := by
      rw [hh', ← hs]
      exact congrArg Sys.store (mapError_store _ _ _)
    exact hserver s h.tokenCaches hend fun _ _ hu => by rw [hend] at hu; exact hu
  | namespaceAccessPoliciesDeleteNamespace endpointID ns =>
    obtain ⟨s, hs⟩ := onHostServer_store (namespaceAccessPoliciesDeleteNamespace endpointID ns) ⟨h, faults⟩
    have hend : h' = { h with server := s } := by
      rw [hh', ← hs]
      exact congrArg Sys.store (mapError_store _ _ _)
    exact hserver s h.tokenCaches hend fun _ _ hu => by rw [hend] at hu; exact hu
  | logout token =>
    obtain ⟨s, hs⟩ := onHostServer_store (authenticatedAccess token) ⟨h, faults⟩
    have hend : h' = { h with server := s } ∨ ∃ u, h' = Host.removeUserFromCache u { h with server := s } := by
      rw [hh']
      show (((logout token).run ⟨h, faults⟩).2.store = _ ∨ ∃ u, ((logout token).run ⟨h, faults⟩).2.store = _)
      unfold logout
      rw [Action.bind_run]
      rcases haccess : (onHostServer (authenticatedAccess token)).run ⟨h, faults⟩ with ⟨e | context, w₁⟩
      · rw [haccess] at hs
        exact .inl hs
      · rw [haccess] at hs
        exact .inr ⟨context.tokenData.id, congrArg (Host.removeUserFromCache context.tokenData.id) hs⟩
    rcases hend with hend | ⟨u, hend⟩
    · exact hserver s h.tokenCaches hend fun _ _ hu => by rw [hend] at hu; exact hu
    · refine hserver s _ hend fun j v hv => ?_
      rw [hend, Host.getToken_removeUserFromCache] at hv
      split at hv
      · cases hv
      · exact hv
  | proxied token endpointID idle effect =>
    have hadmitted : Host.Admitted h ((admitRequest token endpointID idle).run ⟨h, faults⟩).2.store :=
      keeps_admitRequest.store Host.Admitted.refl
    have hrun : h' = ((proxyRequestsToKubernetesAPI instanceID token endpointID idle effect).run
      ⟨h, faults⟩).2.store := hh'
    rw [proxyRequestsToKubernetesAPI, Action.bind_run] at hrun
    rcases hadmission : (admitRequest token endpointID idle).run ⟨h, faults⟩ with ⟨e | ⟨tokenData, endpoint⟩, w₁⟩
    · rw [hadmission] at hadmitted hrun
      subst hrun
      exact ⟨hcoherent.of_admitted hadmitted, htimely.of_forwarded hadmitted.forwarded⟩
    rw [hadmission] at hadmitted hrun
    have hcoherent₁ := hcoherent.of_admitted hadmitted
    have hself : Prepared instanceID h w₁.store := .of_admitted hcoherent hadmitted
    by_cases hkubernetes : isKubernetesEndpoint endpoint.type = true
    swap
    · simp only [hkubernetes] at hrun
      rw [hrun]
      exact ⟨hself.coherent, hself.timely htimely⟩
    -- what was required of the state before the turn holds of the one after admission
    have hunmistaken : tokenData.role ≠ .administrator →
        w₁.store.getToken endpoint.id tokenData.id = none →
        KubeClient.CanSetUp ⟨endpoint.id, instanceID⟩ w₁.store →
        ∀ ns ∈ (w₁.store.clusters endpoint.id).namespaces,
          KubeClient.Unmistaken ⟨endpoint.id, instanceID⟩ tokenData.id
            (teamsOf w₁.store.server tokenData.id) w₁.store ns := by
      have hcondition := hC.2 token endpointID idle effect rfl tokenData endpoint w₁ hadmission hkubernetes
      unfold KubeClient.CanSetUp KubeClient.Unmistaken KubeClient.Grants KubeClient.storedPolicies at *
      rw [hadmitted.server, hadmitted.clusters]
      exact hcondition
    have hmeets := meets_roundTrip ⟨endpoint.id, instanceID⟩ effect rfl hcoherent₁
      hunmistaken w₁ (fun _ hk => hk.elim) rfl
    have hsent : Sent instanceID endpoint.id effect w₁.store h' := by
      simp only [hkubernetes, if_true] at hrun
      rw [hrun, mapError_store]
      rcases htrip : (roundTrip ⟨endpoint.id, instanceID⟩ tokenData effect).run w₁ with ⟨e | u, w₂⟩
      · rw [htrip] at hmeets
        exact hmeets.1
      · rw [htrip] at hmeets
        exact hmeets.1
    rcases hsent with hprepared | ⟨h₁, hprepared, rfl⟩
    · exact ⟨hprepared.coherent, (hself.trans hprepared).timely htimely⟩
    · have hbefore := hself.trans hprepared
      refine ⟨hprepared.coherent.execute fun j u hu ns => ?_, ?_⟩
      · rw [hdue j u hu ns, due_congr hbefore.server (hbefore.namespaces j)]
      · exact (hbefore.timely htimely).of_forwarded rfl

/-! ## Runs -/

/-- **Changes of access take effect**: along a run whose turns are all in
time, from a server that has just started, every request of a user is sent
with the bindings of its moment. -/
theorem upToDate_of_run {turns : List Turn} (hcaches : h.tokenCaches = ∅) (hforwarded : h.forwarded = [])
    (hC : (machine services instanceID).Along (InTime services instanceID) h turns) :
    ∀ h', (machine services instanceID).run h turns = some h' →
      ∀ f ∈ h'.forwarded, UpToDate instanceID (found f) f.endpointID f.userID := by
  let I : Host → Prop := fun h => Coherent instanceID h ∧ Timely instanceID h
  have hkept : ∀ (h : Host) (t : Turn) (h' : Host), I h → InTime services instanceID h t →
      (machine services instanceID).step h t = some h' → I h' :=
    fun _ _ _ hI hC hstep => sound_step hI.1 hI.2 hC hstep
  have hstart : I h := by
    refine ⟨fun id u hu => ?_, fun f hf => ?_⟩
    · simp [Host.getToken, hcaches] at hu
    · rw [hforwarded] at hf
      exact (List.not_mem_nil hf).elim
  intro h' hrun
  have hend : I h' := Machine.run_invariant hkept hstart hC hrun
  exact hend.2

/-! ## Requests that change nothing that is due -/

/-- Of two hosts, what is due is the same: the memberships, the policies and
the namespaces are. -/
structure Undisturbed (h₀ h : Host) : Prop where
  memberships : ∀ userID, teamsOf h.server userID = teamsOf h₀.server userID
  policies : ∀ id, policies id h.server = policies id h₀.server
  namespaces : ∀ id, (h.clusters id).namespaces = (h₀.clusters id).namespaces

theorem Undisturbed.refl : Undisturbed h h := ⟨fun _ => rfl, fun _ => rfl, fun _ => rfl⟩

theorem due_of_policies (hteams : teamsOf h'.server userID = teamsOf h.server userID)
    (hpolicies : policies id h'.server = policies id h.server)
    (hnamespaces : (h'.clusters id).namespaces = (h.clusters id).namespaces) :
    Due instanceID h' id userID ns ↔ Due instanceID h id userID ns := by
  unfold Due Grants KubeClient.storedPolicies
  rw [hteams, hpolicies, hnamespaces]

theorem Undisturbed.due (hh' : Undisturbed h h') :
    Due instanceID h' id userID ns ↔ Due instanceID h id userID ns :=
  due_of_policies (hh'.memberships userID) (hh'.policies id) (hh'.namespaces id)

theorem Undisturbed.of_server (hh₁ : Undisturbed h h₁) (hserver : h'.server = h₁.server)
    (hnamespaces : ∀ id, (h'.clusters id).namespaces = (h₁.clusters id).namespaces) :
    Undisturbed h h' := by
  refine ⟨fun u => ?_, fun id => ?_, fun id => (hnamespaces id).trans (hh₁.namespaces id)⟩
  · rw [hserver]
    exact hh₁.memberships u
  · rw [hserver]
    exact hh₁.policies id

/-- The API server leaves the config map and the namespaces. -/
theorem Undisturbed.execute (hh₁ : Undisturbed h h₁) : Undisturbed h (h₁.execute id {}) := by
  refine ⟨hh₁.memberships, fun j => ?_, fun j => ?_⟩
  · rw [← hh₁.policies j]
    unfold Kubernetes.policies Host.execute replaceConfigMap
    by_cases hj : id = j
    · simp [ExtTreeMap.getElem?_alter, hj]
    · simp [ExtTreeMap.getElem?_alter, hj]
  · rw [← hh₁.namespaces j, execute_namespaces]
    split <;> rfl

theorem keeps_undisturbed_newToken {kcl : KubeClient} :
    Keeps (kcl.newUserServiceAccountToken userID) (Undisturbed h) := by
  have hread : Keeps (onHostServer (Server.teamMembershipsByUserID userID)) (Undisturbed h) :=
    Keeps.of_relation (fun _ => keeps_onHostServer Keeps.query) (fun _ => .refl) fun _ _ hs hh' =>
      hs.of_server hh'.server fun _ => by rw [hh'.clusters]
  refine Keeps.bind hread fun memberships => Keeps.bind (Keeps.mapError ?_) fun _ => ?_
  · refine Keeps.of_relation (L := Host.Spared kcl (kcl.userServiceAccountName userID))
      (fun _ => Spared.keeps_setupUserServiceAccount) (fun _ => Spared.refl) fun h₁ h₂ hs hh' => ?_
    refine hs.of_server hh'.server fun j => ?_
    by_cases hj : j = kcl.endpointID
    · rw [hj]
      exact hh'.cluster.namespaces
    · rw [hh'.clusters j hj]
  · refine Keeps.bind (Keeps.mapError keeps_getServiceAccountBearerToken) fun token => ?_
    refine Keeps.bind (fun _ => Meets.modify fun _ hs => ?_) fun _ => Keeps.pure
    exact hs.of_server rfl fun _ => rfl

theorem keeps_undisturbed_proxied {token : Option TokenData} {idle : Bool} :
    Keeps (proxyRequestsToKubernetesAPI instanceID token id idle {}) (Undisturbed h) := by
  refine Keeps.bind ?_ fun admission => ?_
  · exact Keeps.of_relation (fun _ => keeps_admitRequest) (fun _ => .refl) fun _ _ hs hh' =>
      hs.of_server hh'.server fun _ => by rw [hh'.clusters]
  obtain ⟨tokenData, endpoint⟩ := admission
  refine Keeps.ite (fun _ => Keeps.mapError ?_) fun _ => Keeps.pure
  refine Keeps.bind ?_ fun _ => Keeps.bind Keeps.query fun _ => Keeps.bind ?_ fun _ => ?_
  · refine Keeps.ite (fun _ => Keeps.pure) fun _ => Keeps.bind ?_ fun _ => Keeps.pure
    refine Keeps.bind Keeps.get fun o => ?_
    cases o with
    | none => exact keeps_undisturbed_newToken
    | some token => exact Keeps.pure
  · refine fun _ => Meets.modify fun h₁ hs => ?_
    by_cases hrole : tokenData.role = .administrator
    · rw [if_pos hrole]
      exact hs
    · rw [if_neg hrole]
      exact hs.of_server rfl fun _ => rfl
  · exact Keeps.call fun _ hs => hs.execute

/-- Where there are policies and every subject is a service account of
Portainer, no subject is mistaken. -/
theorem unmistaken_of_subjects {kcl : KubeClient} {teamIDs : List TeamID}
    (hpolicies : kcl.storedPolicies h ≠ none)
    (hsubjects : ∀ s ∈ KubeClient.subjectsOf (kcl.binding (h.clusters kcl.endpointID) ns),
      s = KubeClient.subject s.name) : kcl.Unmistaken userID teamIDs h ns := by
  refine ⟨fun _ => ?_, fun _ _ s hs hname => ?_, fun _ hnone => absurd hnone hpolicies⟩
  · by_cases hbound : KubeClient.subject (kcl.userServiceAccountName userID) ∈
        KubeClient.subjectsOf (kcl.binding (h.clusters kcl.endpointID) ns)
    · exact .inl hbound
    · refine .inr fun s hs hname => hbound ?_
      rw [← hname, ← hsubjects s hs]
      exact hs
  · rw [← hname]
    exact hsubjects s hs

theorem grants_iff_of_stored {kcl : KubeClient} {teamIDs : List TeamID} {p : NamespaceAccessPolicies}
    (hp : kcl.storedPolicies h = some p) :
    Grants kcl userID teamIDs h ns ↔
      ns = defaultNamespace ∨ KubeClient.granted p userID teamIDs ns = true := by
  simp [Grants, hp]

/-- The environment of a request that is admitted is the one it names. -/
theorem ensures_admitRequest {token : Option TokenData} {endpointID : EndpointID} {idle : Bool} :
    Ensures (admitRequest token endpointID idle) h fun admission _ => admission.2.id = endpointID := by
  refine Ensures.bind (M := fun _ _ => True) (fun _ _ _ _ _ => trivial) fun context h₁ _ => ?_
  have hread : Returns (onHostServer (Server.endpoint.getObject endpointID)) h₁ fun endpoint =>
      endpoint.id = endpointID :=
    Returns.zoom (Returns.lookup fun endpoint hget => h₁.server.dataStore.endpoint.keyed _ _ hget) rfl
  refine (Ensures.of_returns hread).mapError.bind fun endpoint h₂ hid => ?_
  refine Ensures.bind (M := fun _ _ => True) (fun _ _ _ _ _ => trivial) fun _ _ _ => ?_
  refine Ensures.bind (M := fun _ _ => True) (fun _ _ _ _ _ => trivial) fun _ _ _ => ?_
  exact Ensures.bind (M := fun _ _ => True) (fun _ _ _ _ _ => trivial) fun _ _ _ => .pure hid.2

/-! ## Turns that are in time

Each is told by the host before the turn. -/

section InTime

variable {faults : Callee → List (Option String)} {endpointID : EndpointID}

/-- **A request that changes neither namespaces nor policies** is in time if
no subject is mistaken in the environment it goes to. -/
theorem inTime_proxied {token : Option TokenData} {idle : Bool}
    (hunmistaken : ∀ userID, ∀ ns ∈ (h.clusters endpointID).namespaces,
      KubeClient.Unmistaken ⟨endpointID, instanceID⟩ userID (teamsOf h.server userID) h ns) :
    InTime services instanceID h ⟨.proxied token endpointID idle {}, faults⟩ := by
  refine ⟨fun h' hstep id u _ ns => ?_, fun token' endpointID' idle' effect hevent => ?_⟩
  · obtain rfl := Option.some.inj hstep
    exact Undisturbed.due (keeps_undisturbed_proxied.store Undisturbed.refl)
  · injection hevent with htoken hendpoint hidle heffect
    subst hendpoint
    intro tokenData endpoint w₁ hadmission _ _ _ _
    have hid : endpoint.id = endpointID := ensures_admitRequest _ _ w₁ rfl hadmission
    rw [hid]
    exact hunmistaken tokenData.id

theorem keeps_undisturbed_logout {token : Option TokenData} : Keeps (logout token) (Undisturbed h) := by
  refine Keeps.bind ?_ fun context _ => Meets.modify fun _ hs => hs.of_server rfl fun _ => rfl
  exact Keeps.of_relation (fun _ => keeps_onHostServer keeps_authenticatedAccess) (fun _ => .refl)
    fun _ _ hs hh' => hs.of_server hh'.server fun _ => by rw [hh'.clusters]

/-- **A logout is in time.** -/
theorem inTime_logout {token : Option TokenData} :
    InTime services instanceID h ⟨.logout token, faults⟩ := by
  refine ⟨fun h' hstep id u _ ns => ?_, fun _ _ _ _ hevent => by cases hevent⟩
  obtain rfl := Option.some.inj hstep
  exact Undisturbed.due (keeps_undisturbed_logout.store Undisturbed.refl)

/-- An update leaves the policies as they were, or as they were sent. -/
theorem store_updateNamespaceAccessPolicies {p : NamespaceAccessPolicies} (w : Sys Callee Server) :
    ((updateNamespaceAccessPolicies endpointID p).run w).2.store = w.store ∨
      ((updateNamespaceAccessPolicies endpointID p).run w).2.store = withPolicies endpointID p w.store := by
  let I : Server → Prop := fun s => s = w.store ∨ s = withPolicies endpointID p w.store
  have hleaves : Action.Leaves (fun _ => False) (updateNamespaceAccessPolicies endpointID p) w.store
      (fun _ => I) I := by
    refine Action.Leaves.read_bind (Meets.conseq returns_getConfigMap (fun _ hs => hs) (fun _ _ hs => hs)
      fun _ _ hs => .inl hs) fun o ho => ?_
    cases o with
    | none => exact .pure (.inl rfl)
    | some configMap =>
      refine .read_bind (P := fun _ => True) (.get ⟨rfl, trivial⟩) fun current _ => ?_
      refine .require_bind (.inl rfl) fun _ => .call (.inr ?_) (.inl rfl)
      rw [withPolicies, ho]
      rfl
  exact hleaves.store rfl fun _ hk => hk.elim

/-- **An update of the policies is in time** if they grant whoever has a
token in the cache of the environment the namespaces that were granted
before. -/
theorem inTime_updateNamespaceAccessPolicies {accessPolicies : NamespaceAccessPolicies}
    (hsame : ∀ userID, (h.getToken endpointID userID).isSome = true →
      ∀ ns ∈ (h.clusters endpointID).namespaces,
        (ns = defaultNamespace ∨
          KubeClient.granted accessPolicies userID (teamsOf h.server userID) ns = true) ↔
        Grants ⟨endpointID, instanceID⟩ userID (teamsOf h.server userID) h ns) :
    InTime services instanceID h ⟨.updateNamespaceAccessPolicies endpointID accessPolicies, faults⟩ := by
  refine ⟨fun h' hstep id u hcached ns => ?_, fun _ _ _ _ hevent => by cases hevent⟩
  obtain ⟨s, hs, hend⟩ : ∃ s, (s = h.server ∨ s = withPolicies endpointID accessPolicies h.server) ∧
      h' = { h with server := s } := by
    obtain rfl := Option.some.inj hstep
    refine ⟨_, store_updateNamespaceAccessPolicies ⟨h.server, faults⟩, ?_⟩
    show (((onHostServer (updateNamespaceAccessPolicies endpointID accessPolicies)).mapError
      (HandlerError.internalServerError "")).run ⟨h, faults⟩).2.store = _
    rw [mapError_store, onHostServer, Action.zoom_run]
  subst hend
  rcases hs with rfl | rfl
  · rfl
  have hteams : teamsOf (withPolicies endpointID accessPolicies h.server) u = teamsOf h.server u := by
    unfold teamsOf
    rw [withPolicies_dataStore]
  by_cases hid : endpointID = id
  · subst hid
    have hpolicies : policies endpointID (withPolicies endpointID accessPolicies h.server) =
        (policies endpointID h.server).map fun _ => some accessPolicies := policies_withPolicies
    cases hstored : policies endpointID h.server with
    | none =>
      -- there is no config map, and nothing to write
      exact due_of_policies hteams (hpolicies.trans (by rw [hstored]; rfl)) rfl
    | some stored =>
      rw [hstored] at hpolicies
      refine and_congr_right fun hns => Iff.trans (or_congr_right ?_) (hsame u hcached ns hns)
      unfold KubeClient.storedPolicies
      simp [hpolicies, hteams]
  · refine due_of_policies hteams ?_ rfl
    unfold Kubernetes.policies
    rw [getElem?_withPolicies_of_ne hid]

end InTime

/-! ## Two runs -/

/-- An environment with a namespace `dev`, which the policies grant to
user 2. -/
def devEnvironment : Host where
  server := {
    dataStore := {
      user := ({} : Bucket User).put { id := 2, username := "eve", role := .standardUser }
      endpointGroup := ({} : Bucket EndpointGroup).put { id := 1 }
      endpoint := ({} : Bucket Endpoint).put
        { id := 1, type := .kubernetesLocalEnvironment, userAccessPolicies := (∅ : UserAccessPolicies).insert 2 {} } }
    configMaps := (∅ : ExtTreeMap EndpointID ConfigMap).insert 1
      { accessPolicies := some ((∅ : NamespaceAccessPolicies).insert "dev"
          { userAccessPolicies := (∅ : UserAccessPolicies).insert 2 {} }) }
    issuedTokens := [⟨2, "eve", .standardUser⟩] }
  clusters := fun _ =>
    { namespaces := [defaultNamespace, portainerNamespace, "dev"], default_mem := KubeClient.default_mem_dev }

/-- User 2 sends a request to the cluster. -/
def proxiedRequest : Turn where
  event := .proxied (some ⟨2, "eve", .standardUser⟩) 1 false {}

/-- User 2 sends a request, and then user 3 is granted `dev`. User 2 logs
out, the policy of `dev` is taken back, and user 2 goes on. -/
def turnsWithLogout : List Turn :=
  [proxiedRequest,
    { event := .updateNamespaceAccessPolicies 1 ((∅ : NamespaceAccessPolicies).insert "dev"
        { userAccessPolicies := ((∅ : UserAccessPolicies).insert 2 {}).insert 3 {} }) },
    { event := .logout (some ⟨2, "eve", .standardUser⟩) },
    { event := .updateNamespaceAccessPolicies 1 ∅ },
    proxiedRequest]

/-- Both requests of user 2 are sent with the bindings of their moments. -/
theorem upToDate_of_run_logout : ∃ h', (machine Users.plainServices "p").run devEnvironment turnsWithLogout =
      some h' ∧ h'.forwarded.length = 2 ∧
      ∀ f ∈ h'.forwarded, UpToDate "p" (found f) f.endpointID f.userID := by
  have hC : (machine Users.plainServices "p").Along (InTime Users.plainServices "p") devEnvironment
      turnsWithLogout := by
    refine ⟨inTime_proxied fun u ns hns => unmistaken_of_subjects (by decide) ?_, fun h₁ hstep => ?_⟩
    · revert ns
      decide
    have hcaches : h₁.tokenCaches = (∅ : ExtTreeMap EndpointID TokenCache).insert 1
        ((∅ : TokenCache).insert 2 (KubeClient.userServiceAccountName ⟨1, "p"⟩ 2)) := by
      rw [← Option.some.inj hstep]
      rfl
    refine ⟨inTime_updateNamespaceAccessPolicies fun u hu ns hns => ?_, fun h₂ hstep₂ => ?_⟩
    · obtain rfl : u = 2 := by
        by_contra hne
        simp [Host.getToken, hcaches, Ne.symm hne] at hu
      obtain rfl := Option.some.inj hstep
      refine Iff.trans ?_ (grants_iff_of_stored (p := (∅ : NamespaceAccessPolicies).insert "dev"
        { userAccessPolicies := (∅ : UserAccessPolicies).insert 2 {} }) rfl).symm
      revert ns
      decide
    obtain rfl := Option.some.inj hstep
    obtain rfl := Option.some.inj hstep₂
    refine ⟨inTime_logout, fun h₃ hstep => ?_⟩
    have hempty : h₃.tokenCaches = (∅ : ExtTreeMap EndpointID TokenCache).insert 1 ∅ := by
      rw [← Option.some.inj hstep]
      rfl
    refine ⟨inTime_updateNamespaceAccessPolicies fun u hu => ?_, fun h₄ hstep₄ => ?_⟩
    · simp [Host.getToken, hempty] at hu
    obtain rfl := Option.some.inj hstep
    obtain rfl := Option.some.inj hstep₄
    refine ⟨inTime_proxied fun u ns hns => unmistaken_of_subjects (by decide) ?_, fun _ _ => trivial⟩
    · revert ns
      decide
  exact ⟨_, rfl, by decide, upToDate_of_run rfl rfl hC _ rfl⟩

/-- **Changes of access need not take effect**: user 2 sends a request, the
policy of `dev` is taken back, and the next request is sent with a service
account that is still bound there. -/
theorem not_upToDate : ¬ ∀ h', (machine Users.plainServices "p").run devEnvironment
      [proxiedRequest, { event := .updateNamespaceAccessPolicies 1 ∅ }, proxiedRequest] = some h' →
    ∀ f ∈ h'.forwarded, UpToDate "p" (found f) f.endpointID f.userID := by
  intro hall
  have hrun : ∃ h' f, (machine Users.plainServices "p").run devEnvironment
      [proxiedRequest, { event := .updateNamespaceAccessPolicies 1 ∅ }, proxiedRequest] = some h' ∧
      h'.forwarded[1]? = some f ∧ "dev" ∈ ((found f).clusters 1).namespaces ∧
      f.endpointID = 1 ∧ f.userID = 2 ∧
      Bound ⟨1, "p"⟩ 2 (found f) "dev" ∧ KubeClient.storedPolicies ⟨1, "p"⟩ (found f) = some ∅ :=
    ⟨_, _, rfl, rfl, by decide, rfl, rfl, by decide, rfl⟩
  obtain ⟨h', f, hrun, hf, hns, hid, huser, hbound, hpolicies⟩ := hrun
  have hup := hall h' hrun f (List.mem_of_getElem? hf)
  rw [hid, huser] at hup
  rcases (hup "dev" hns).mp hbound with hdefault | ⟨p, hp, hgranted⟩
  · exact absurd hdefault (by decide)
  · rw [hpolicies] at hp
    obtain rfl := Option.some.inj hp
    exact absurd hgranted (by simp [KubeClient.granted])

end Tokens

end Kubernetes

end Portainer
