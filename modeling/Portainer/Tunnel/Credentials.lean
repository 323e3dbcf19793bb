import Portainer.Tunnel.States
/-!
# The reverse tunnel service — the users of the chisel server

A tunnel user may open one reverse port, and should be gone when its tunnel
is. The service deletes the user that the stored credentials name before
their first colon; but what it stores is the encrypted and encoded text,
which names no user, `SetTunnelStatusToActive` has blanked it by the time
the tunnel closes, and `checkTunnels` drops a record without looking at it.
So users are left behind, and the property holds only as long as no tunnel
with a live user closes.
-/

namespace Portainer

open Std

namespace Tunnel

/-! ## Who a user was created for -/

/-- The service, with the endpoint each user name was last registered for.
The source keeps no such list: it is what the property speaks of. -/
structure Audited (S : Type) where
  service : Service S
  createdFor : ExtTreeMap String EndpointID := ∅

variable {S : Type} [ChiselServer S]

/-- The user `StartTunnelServer` registers so that chisel does not let
anyone connect. -/
def bootstrapUser (password : String) : ChiselUser := ⟨password, ["127.0.0.1"]⟩

/-- The service as `StartTunnelServer` leaves it: one user, no tunnels. -/
def startTunnelServer (server : S) (boot : String × String) : Audited S where
  service := ⟨∅, ChiselServer.addUser server boot.1 (bootstrapUser boot.2)⟩

/-- The names registered, after an operation. -/
def Audited.register (a : Audited S) : Op → ExtTreeMap String EndpointID
  | .required e c =>
    if a.service.Registers e c then a.createdFor.insert c.username e else a.createdFor
  | _ => a.createdFor

/-- The machine of the service, keeping track of the users it registers. -/
def auditedMachine (S : Type) [ChiselServer S] : Machine (Audited S) Op where
  step a op := ((machine S).step a.service op).map fun s' => ⟨s', a.register op⟩

namespace Audited

variable {boot : String × String} {a a' : Audited S} {e : EndpointID} {name : String}

/-- A user other than the bootstrap user is registered under the name. -/
def Registered (boot : String × String) (a : Audited S) (name : String) (u : ChiselUser) : Prop :=
  ChiselServer.user a.service.chiselServer name = some u ∧ (name, u) ≠ (boot.1, bootstrapUser boot.2)

/-- The user belongs to an open tunnel: it was created for it, and may open
its port and nothing else. -/
def Entitled (a : Audited S) (name : String) (u : ChiselUser) : Prop :=
  ∃ e t, a.createdFor[name]? = some e ∧ a.service.tunnel? e = some t ∧ t.port ≠ 0 ∧
    (t.status = .required ∨ t.status = .active) ∧ u.addrs = [authorizedRemote t.port]

/-- Every registered user belongs to an open tunnel. -/
def Revoked (boot : String × String) (a : Audited S) : Prop :=
  ∀ name u, a.Registered boot name u → a.Entitled name u

/-- A user registered for the endpoint. -/
def UserOf (boot : String × String) (a : Audited S) (e : EndpointID) (name : String) : Prop :=
  ∃ u, a.Registered boot name u ∧ a.createdFor[name]? = some e

/-- The operation leaves no user behind: a tunnel that is set idle, or that
expires, has no user but one that the code deletes with it, and a user
registered for an endpoint without a record gets one. -/
def LeavesNoUser (boot : String × String) (a : Audited S) : Op → Prop
  | .required e c => a.service.tunnel? e = none → ∀ endpoint, c.endpoint = .ok endpoint →
      c.addUserErr = none →
      ∃ bytes, c.cipher.encrypt (c.username ++ ":" ++ c.password) endpoint.edgeID = .ok bytes
  | .idle e _ => ∀ name, a.UserOf boot e name →
      Service.Deletes (a.service.getTunnelDetails e) name
  | .checkTunnels clock => ∀ e t, a.service.tunnel? e = some t → t.expired (clock.check e) = true →
      ∀ name, a.UserOf boot e name → t.jobs ≠ [] ∧ Service.Deletes t name
  | _ => True

/-! ## The operations -/

/-- **A step keeps every user entitled** if it registers nobody, and if each
user that stays does so with a tunnel that is as open as before. -/
theorem Revoked.of_keeps (h : a.Revoked boot) (hnames : a'.createdFor = a.createdFor)
    (hs : ∀ name u, a'.Registered boot name u → a.Registered boot name u ∧
      ∀ e t, a.createdFor[name]? = some e → a.service.tunnel? e = some t → t.port ≠ 0 →
        (t.status = .required ∨ t.status = .active) →
        ∃ t', a'.service.tunnel? e = some t' ∧ t'.port = t.port ∧
          (t'.status = .required ∨ t'.status = .active)) : a'.Revoked boot := by
  intro name u hu
  obtain ⟨hold, hkeep⟩ := hs name u hu
  obtain ⟨e, t, hcr, ht, hp, hst, haddr⟩ := h name u hold
  obtain ⟨t', ht', hport, hst'⟩ := hkeep e t hcr ht hp hst
  exact ⟨e, t', hnames ▸ hcr, ht', hport ▸ hp, hst', hport ▸ haddr⟩

/-- No user is registered for an endpoint without a port. -/
theorem Revoked.not_userOf (h : a.Revoked boot) (hp : (a.service.getTunnelDetails e).port = 0) :
    ¬ a.UserOf boot e name := by
  rintro ⟨u, hu, hcr⟩
  obtain ⟨e', t, hcr', ht, hne, -, -⟩ := h name u hu
  obtain rfl := Option.some.inj (hcr.symm.trans hcr')
  rw [Service.getTunnelDetails_of_some ht] at hp
  exact hne hp

theorem Revoked.active (h : a.Revoked boot) {now : Time} :
    Revoked boot ⟨a.service.setTunnelStatusToActive e now, a.createdFor⟩ := by
  refine h.of_keeps rfl fun name u hu => ⟨hu, fun e' t _ ht _ hst => ?_⟩
  by_cases he : e = e'
  · subst he
    refine ⟨_, Service.tunnel?_active.trans (if_pos rfl), ?_, .inr rfl⟩
    rw [Service.getTunnelDetails_of_some ht]
    rfl
  · exact ⟨t, (Service.tunnel?_active.trans (if_neg he)).trans ht, rfl, hst⟩

theorem Revoked.addEdgeJob (h : a.Revoked boot) {job : EdgeJob} :
    Revoked boot ⟨a.service.addEdgeJob e job, a.createdFor⟩ := by
  refine h.of_keeps rfl fun name u hu => ⟨hu, fun e' t _ ht _ hst => ?_⟩
  by_cases he : e = e'
  · subst he
    refine ⟨_, Service.tunnel?_addEdgeJob.trans (if_pos rfl), ?_, ?_⟩
    · rw [Service.getTunnelDetails_of_some ht]
    · rw [Service.getTunnelDetails_of_some ht]
      exact hst
  · exact ⟨t, (Service.tunnel?_addEdgeJob.trans (if_neg he)).trans ht, rfl, hst⟩

theorem Revoked.removeEdgeJob (h : a.Revoked boot) {id : EdgeJobID} :
    Revoked boot ⟨a.service.removeEdgeJob id, a.createdFor⟩ := by
  refine h.of_keeps rfl fun name u hu => ⟨hu, fun e' t _ ht _ hst => ?_⟩
  refine ⟨_, Service.tunnel?_removeEdgeJob.trans (congrArg _ ht), rfl, hst⟩

theorem Revoked.idle (h : a.Revoked boot) {now : Time} (hnone : a.LeavesNoUser boot (.idle e now)) :
    Revoked boot ⟨a.service.setTunnelStatusToIdle e now, a.createdFor⟩ := by
  refine h.of_keeps rfl fun name u hu => ?_
  obtain ⟨hold, hdel⟩ := Service.user_idle.mp hu.1
  have hreg : a.Registered boot name u := ⟨hold, hu.2⟩
  refine ⟨hreg, fun e' t hcr ht _ hst => ?_⟩
  have he : e ≠ e' := by
    rintro rfl
    exact hdel (hnone name ⟨u, hreg, hcr⟩)
  exact ⟨t, (Service.tunnel?_idle.trans (if_neg he)).trans ht, rfl, hst⟩

theorem Revoked.checkTunnels (h : a.Revoked boot) {clock : Service.Clock}
    (hnone : a.LeavesNoUser boot (.checkTunnels clock)) :
    Revoked boot ⟨a.service.checkTunnels clock, a.createdFor⟩ := by
  refine h.of_keeps rfl fun name u hu => ?_
  obtain ⟨hold, hdel⟩ := Service.user_checkTunnels.mp hu.1
  have hreg : a.Registered boot name u := ⟨hold, hu.2⟩
  refine ⟨hreg, fun e t hcr ht _ hst => ⟨t, ?_, rfl, hst⟩⟩
  have hlive : ¬ t.expired (clock.check e) = true := fun hx => by
    obtain ⟨hjobs, hname⟩ := hnone e t ht hx name ⟨u, hreg, hcr⟩
    exact hdel e t ht hx hjobs hname
  rw [Service.tunnel?_checkTunnels, ht, Option.bind_some, Service.afterCheck, if_neg hlive]

/-! ## Required -/

/-- The other endpoints' records after a call, whatever it does. -/
theorem tunnel?_required_of_ne {s s' : Service S} {c : RequiredCall} {r : Except String Unit}
    {e' : EndpointID} (h : s.setTunnelStatusToRequired e c = some (r, s')) (he : e ≠ e') :
    s'.tunnel? e' = s.tunnel? e' := by
  rcases Service.setTunnelStatusToRequired_cases h with ⟨-, -, rfl⟩ | ⟨-, -, rfl⟩ |
    ⟨endpoint, port, -, -, -, ⟨_, -, -, hs'⟩ | ⟨-, -, ⟨_, -, -, hs'⟩ | ⟨_, -, -, hs'⟩⟩⟩
  · rfl
  · rfl
  · rw [hs', Service.tunnel?_touch_of_ne he]
  · exact (congrArg (·[e']?) hs').trans (Service.tunnel?_touch_of_ne he)
  · rw [hs', if_neg he]

/-- A call that registers nobody leaves the chisel server as it was. -/
theorem chiselServer_of_not_registers {s s' : Service S} {c : RequiredCall}
    {r : Except String Unit} (h : s.setTunnelStatusToRequired e c = some (r, s'))
    (hreg : ¬ s.Registers e c) : s'.chiselServer = s.chiselServer := by
  rcases Service.setTunnelStatusToRequired_cases h with ⟨-, -, rfl⟩ | ⟨-, -, rfl⟩ |
    ⟨endpoint, port, hp, hep, -, ⟨_, -, -, hs'⟩ | ⟨hadd, -⟩⟩
  · rfl
  · rfl
  · rw [hs', Service.chiselServer_touch]
  · exact absurd ⟨hp, by rw [hep]; rfl, hadd⟩ hreg

/-- **A call that registers a user opens its tunnel**, if it stores the
record or finds one to write to. -/
theorem required_of_registers {s s' : Service S} {c : RequiredCall} {r : Except String Unit}
    (h : s.setTunnelStatusToRequired e c = some (r, s')) (hreg : s.Registers e c)
    (hsafe : s.tunnel? e = none → ∀ endpoint, c.endpoint = .ok endpoint → c.addUserErr = none →
      ∃ bytes, c.cipher.encrypt (c.username ++ ":" ++ c.password) endpoint.edgeID = .ok bytes) :
    ∃ t port, s'.tunnel? e = some t ∧ t.port = port ∧ port ≠ 0 ∧ t.status = .required ∧
      s'.chiselServer = ChiselServer.addUser s.chiselServer c.username
        ⟨c.password, [authorizedRemote port]⟩ := by
  rcases Service.setTunnelStatusToRequired_cases h with ⟨hp, -, -⟩ | ⟨-, ⟨_, hep, -⟩, -⟩ |
    ⟨endpoint, port, -, hep, hport, ⟨_, hadd, -, -⟩ | ⟨hadd, hserver, hend⟩⟩
  · exact absurd hreg.1 hp
  · have := hreg.2.1
    rw [hep] at this
    nomatch this
  · rw [hreg.2.2] at hadd
    nomatch hadd
  · have hne := Service.port_ne_zero (Service.getUnusedPort_spec hport).1
    rcases hend with ⟨err, henc, -, hs'⟩ | ⟨credentials, -, -, hs'⟩
    · cases ht : s.tunnel? e with
      | none =>
        obtain ⟨bytes, hb⟩ := hsafe ht endpoint hep hadd
        obtain ⟨credentials, hc⟩ := Service.encryptCredentials_of_ok hb
        rw [hc] at henc
        nomatch henc
      | some t =>
        rw [Service.touch_of_some ht] at hs'
        exact ⟨_, port, (congrArg (·[e]?) hs').trans (Service.tunnel?_set.trans (if_pos rfl)),
          rfl, hne, rfl, hserver⟩
    · exact ⟨_, port, (hs' e).trans (if_pos rfl), rfl, hne, rfl, hserver⟩

theorem Revoked.required (h : a.Revoked boot) {c : RequiredCall} {r : Except String Unit}
    {s' : Service S} (hnone : a.LeavesNoUser boot (.required e c))
    (hr : a.service.setTunnelStatusToRequired e c = some (r, s')) :
    Revoked boot ⟨s', a.register (.required e c)⟩ := by
  by_cases hreg : a.service.Registers e c
  · obtain ⟨t, port, ht, hport, hne, hst, hserver⟩ := required_of_registers hr hreg hnone
    intro name u hu
    have hnew : a.register (.required e c) = a.createdFor.insert c.username e := if_pos hreg
    obtain ⟨hu, hboot⟩ := hu
    simp only [hserver, ChiselServer.user_addUser] at hu
    split at hu
    · rename_i hn
      refine ⟨e, t, ?_, ht, hport ▸ hne, .inl hst, ?_⟩
      · simp only [hnew, ExtTreeMap.getElem?_insert, hn, Std.compare_self, if_true]
      · rw [← Option.some.inj hu, hport]
    · rename_i hn
      obtain ⟨e', t', hcr, ht', hp', hst', haddr⟩ := h name u ⟨hu, hboot⟩
      have he : e ≠ e' := by
        rintro rfl
        exact h.not_userOf hreg.1 ⟨u, ⟨hu, hboot⟩, hcr⟩
      refine ⟨e', t', ?_, (tunnel?_required_of_ne hr he).trans ht', hp', hst', haddr⟩
      simp only [hnew, ExtTreeMap.getElem?_insert, Std.compare_eq_iff_eq, hn, if_false]
      exact hcr
  · have hold : a.register (.required e c) = a.createdFor := if_neg hreg
    refine h.of_keeps hold fun name u hu => ?_
    have hreg' : a.Registered boot name u := by
      refine ⟨?_, hu.2⟩
      rw [← chiselServer_of_not_registers hr hreg]
      exact hu.1
    refine ⟨hreg', fun e' t hcr ht hp hst => ?_⟩
    by_cases he : e = e'
    · subst he
      rcases Service.setTunnelStatusToRequired_cases hr with ⟨-, -, rfl⟩ | ⟨-, -, rfl⟩ |
        ⟨_, _, hp0, -⟩
      · exact ⟨t, ht, rfl, hst⟩
      · exact ⟨t, ht, rfl, hst⟩
      · exact absurd ⟨u, hreg', hcr⟩ (h.not_userOf hp0)
    · exact ⟨t, (tunnel?_required_of_ne hr he).trans ht, rfl, hst⟩

/-! ## Runs -/

theorem Revoked.step (h : a.Revoked boot) {op : Op} (hnone : a.LeavesNoUser boot op)
    (hstep : (auditedMachine S).step a op = some a') : a'.Revoked boot := by
  obtain ⟨s', hs', rfl⟩ := Option.map_eq_some_iff.mp hstep
  cases op with
  | required e c =>
    obtain ⟨⟨r, s₁⟩, hr, rfl⟩ := Option.map_eq_some_iff.mp hs'
    exact h.required hnone hr
  | active e now => exact Option.some.inj hs' ▸ h.active
  | idle e now => exact Option.some.inj hs' ▸ h.idle hnone
  | addEdgeJob e job => exact Option.some.inj hs' ▸ h.addEdgeJob
  | removeEdgeJob id => exact Option.some.inj hs' ▸ h.removeEdgeJob
  | checkTunnels clock => exact Option.some.inj hs' ▸ h.checkTunnels hnone

theorem revoked_start {server : S} (hempty : ∀ name, ChiselServer.user server name = none) :
    (startTunnelServer server boot).Revoked boot := by
  rintro name u ⟨hu, hboot⟩
  simp only [startTunnelServer, ChiselServer.user_addUser, hempty] at hu
  split at hu
  · rename_i hn
    obtain rfl := Option.some.inj hu
    exact absurd (by rw [hn]) hboot
  · nomatch hu

end Audited

/-- **Every user but the bootstrap user belongs to an open tunnel**, in every
run in which no tunnel closes with a user the code fails to delete. -/
theorem revoked_of_leavesNoUser {server : S} {boot : String × String} {ops : List Op}
    {a : Audited S} (hempty : ∀ name, ChiselServer.user server name = none)
    (hnone : (auditedMachine S).Along (Audited.LeavesNoUser boot) (startTunnelServer server boot) ops)
    (hrun : (auditedMachine S).run (startTunnelServer server boot) ops = some a) :
    a.Revoked boot :=
  Machine.run_invariant (fun _ _ _ h hC hstep => h.step hC hstep)
    (Audited.revoked_start hempty) hnone hrun

/-! ## The two sides of the condition -/

/-- The name and the password of a bootstrap user. -/
def sampleBoot : String × String := ("kd83jfQe", "p0sK2lnx")

theorem revoked_of_leavesNoUser_open :
    ∃ a : Audited (ExtTreeMap String ChiselUser),
      (auditedMachine _).run (startTunnelServer ∅ sampleBoot)
        [.required 7 (sampleCall sealing), .active 7 (101 * second)] = some a ∧
      a.Revoked sampleBoot := by
  have hnone : (auditedMachine (ExtTreeMap String ChiselUser)).Along
      (Audited.LeavesNoUser sampleBoot) (startTunnelServer ∅ sampleBoot)
      [.required 7 (sampleCall sealing), .active 7 (101 * second)] :=
    ⟨fun _ _ _ _ => ⟨_, rfl⟩, fun _ _ => ⟨trivial, fun _ _ => trivial⟩⟩
  have hempty : ∀ name, ChiselServer.user (∅ : ExtTreeMap String ChiselUser) name = none :=
    fun _ => ExtTreeMap.getElem?_empty
  exact ⟨_, rfl, revoked_of_leavesNoUser hempty hnone rfl⟩

/-- **A tunnel that was used and closed leaves its user behind.** Its
credentials were blanked when it became active, so there is no name to
delete when it goes idle. -/
theorem not_revoked_of_active_idle :
    ¬ ∀ (ops : List Op) (a : Audited (ExtTreeMap String ChiselUser)),
      (auditedMachine _).run (startTunnelServer ∅ sampleBoot) ops = some a →
        a.Revoked sampleBoot := by
  intro h
  have hrev := h [.required 7 (sampleCall sealing), .active 7 (101 * second),
    .idle 7 (102 * second)] _ rfl
  obtain ⟨e, t, hcr, ht, hp, -⟩ := hrev "hYp2mQa0" ⟨"Zr81sKdw", [authorizedRemote 49152]⟩
    ⟨rfl, by decide⟩
  obtain rfl : 7 = e := Option.some.inj hcr
  obtain rfl := Option.some.inj ht
  exact hp rfl

end Tunnel

end Portainer
