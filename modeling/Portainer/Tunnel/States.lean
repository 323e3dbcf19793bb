import Portainer.Tunnel.Helpers.Service
/-!
# The reverse tunnel service — the states of a tunnel

A port is held by one tunnel, a required tunnel has a port and credentials
for it, an idle one has neither. The invariant survives every operation but
one: `SetTunnelStatusToRequired` writes the status and the port of a record
the map already holds before it registers the user and encrypts the
credentials, so an error there leaves a required tunnel without
credentials. `HalfwaySafe` rules that call out, and is all that has to be
ruled out.
-/

namespace Portainer

open Std

namespace Tunnel

/-! ## The invariant -/

/-- The status, the port and the credentials of a record agree. -/
structure TunnelDetails.Consistent (t : TunnelDetails) : Prop where
  port_range : t.port ≠ 0 → minAvailablePort ≤ t.port ∧ t.port < maxAvailablePort
  required : t.status = .required → t.port ≠ 0 ∧ t.credentials ≠ ""
  idle : t.status = .idle → t.port = 0 ∧ t.credentials = ""

namespace Service

variable {S : Type} {s s' : Service S} {e : EndpointID} {t : TunnelDetails}

/-- Every record is consistent, and no two tunnels share a port. -/
structure Consistent (s : Service S) : Prop where
  tunnel : ∀ e t, s.tunnel? e = some t → t.Consistent
  port_injective : ∀ e e' t t', s.tunnel? e = some t → s.tunnel? e' = some t' →
    t.port ≠ 0 → t.port = t'.port → e = e'

theorem consistent_default : ({} : TunnelDetails).Consistent where
  port_range h := absurd rfl h
  required h := nomatch h
  idle _ := ⟨rfl, rfl⟩

theorem Consistent.getTunnelDetails (h : s.Consistent) : (s.getTunnelDetails e).Consistent := by
  cases ht : s.tunnel? e with
  | none => exact getTunnelDetails_of_none ht ▸ consistent_default
  | some t => exact getTunnelDetails_of_some ht ▸ h.tunnel e t ht

/-- A record a tunnel's port comes from: it is in the map. -/
theorem tunnel?_of_port_ne_zero (h : (s.getTunnelDetails e).port ≠ 0) :
    s.tunnel? e = some (s.getTunnelDetails e) := by
  cases ht : s.tunnel? e with
  | none => exact absurd rfl (getTunnelDetails_of_none ht ▸ h)
  | some t => rw [getTunnelDetails_of_some ht]

/-- **Nothing to check but the records**, where every port after the step
was the port of the same endpoint before it. -/
theorem Consistent.of_keeps_ports (h : s.Consistent)
    (hs : ∀ e t', s'.tunnel? e = some t' → t'.Consistent ∧
      (t'.port ≠ 0 → t'.port = (s.getTunnelDetails e).port)) : s'.Consistent where
  tunnel e t' ht' := (hs e t' ht').1
  port_injective e₁ e₂ t₁ t₂ h₁ h₂ hne heq := by
    have hp₁ := (hs e₁ t₁ h₁).2 hne
    have hp₂ := (hs e₂ t₂ h₂).2 (heq ▸ hne)
    refine h.port_injective e₁ e₂ _ _ (tunnel?_of_port_ne_zero (hp₁ ▸ hne))
      (tunnel?_of_port_ne_zero (hp₂ ▸ heq ▸ hne)) (hp₁ ▸ hne) ?_
    rw [← hp₁, ← hp₂, heq]

/-- **A fresh port stays unshared.** -/
theorem Consistent.of_draw (h : s.Consistent) {t' : TunnelDetails}
    (hfresh : ∀ e t, s.tunnel? e = some t → t.port ≠ t'.port) (ht' : t'.Consistent)
    (hs : ∀ e', s'.tunnel? e' = if e = e' then some t' else s.tunnel? e') : s'.Consistent where
  tunnel e₁ t₁ h₁ := by
    rw [hs] at h₁
    split at h₁
    · exact Option.some.inj h₁ ▸ ht'
    · exact h.tunnel e₁ t₁ h₁
  port_injective e₁ e₂ t₁ t₂ h₁ h₂ hne heq := by
    rw [hs] at h₁ h₂
    split at h₁ <;> split at h₂
    · rename_i he₁ he₂
      exact he₁.symm.trans he₂
    · have hp := congrArg TunnelDetails.port (Option.some.inj h₁)
      exact absurd (hp.trans heq).symm (hfresh e₂ t₂ h₂)
    · have hp := congrArg TunnelDetails.port (Option.some.inj h₂)
      exact absurd (heq.trans hp.symm) (hfresh e₁ t₁ h₁)
    · exact h.port_injective e₁ e₂ t₁ t₂ h₁ h₂ hne heq

theorem Consistent.of_tunnel?_eq (h : s.Consistent) (hs : ∀ e, s'.tunnel? e = s.tunnel? e) :
    s'.Consistent where
  tunnel e t ht := h.tunnel e t (hs e ▸ ht)
  port_injective e₁ e₂ t₁ t₂ h₁ h₂ := h.port_injective e₁ e₂ t₁ t₂ (hs e₁ ▸ h₁) (hs e₂ ▸ h₂)

theorem consistent_empty {server : S} : (⟨∅, server⟩ : Service S).Consistent where
  tunnel e t h := by simp [tunnel?] at h
  port_injective e _ t _ h := by simp [tunnel?] at h

/-! ## The operations -/

/-- One record replaced by a consistent one that has its port, or none. -/
theorem Consistent.replace (h : s.Consistent) (t' : TunnelDetails) (ht' : t'.Consistent)
    (hp : t'.port ≠ 0 → t'.port = (s.getTunnelDetails e).port)
    (hs : ∀ e', s'.tunnel? e' = if e = e' then some t' else s.tunnel? e') : s'.Consistent := by
  refine h.of_keeps_ports fun e₁ t₁ h₁ => ?_
  rw [hs] at h₁
  split at h₁
  · rename_i he
    obtain rfl := Option.some.inj h₁
    exact ⟨ht', fun hne => he ▸ hp hne⟩
  · exact ⟨h.tunnel e₁ t₁ h₁, fun _ => by rw [getTunnelDetails_of_some h₁]⟩

theorem Consistent.active (h : s.Consistent) {now : Time} :
    (s.setTunnelStatusToActive e now).Consistent := by
  refine h.replace (activeTunnel (s.getTunnelDetails e) now) ?_ (fun _ => rfl)
    fun e' => tunnel?_active
  exact ⟨h.getTunnelDetails.port_range, fun hr => (nomatch hr), fun hi => (nomatch hi)⟩

theorem Consistent.addEdgeJob (h : s.Consistent) {job : EdgeJob} :
    (s.addEdgeJob e job).Consistent := by
  have := h.getTunnelDetails (e := e)
  refine h.replace { s.getTunnelDetails e with jobs := upsert (s.getTunnelDetails e).jobs job } ?_
    (fun _ => rfl) fun e' => tunnel?_addEdgeJob
  exact ⟨this.port_range, this.required, this.idle⟩

theorem Consistent.removeEdgeJob (h : s.Consistent) {id : EdgeJobID} :
    (s.removeEdgeJob id).Consistent := by
  refine h.of_keeps_ports fun e₁ t₁ h₁ => ?_
  rw [tunnel?_removeEdgeJob] at h₁
  obtain ⟨t, ht, rfl⟩ := Option.map_eq_some_iff.mp h₁
  have := h.tunnel e₁ t ht
  exact ⟨⟨this.port_range, this.required, this.idle⟩, fun _ => by rw [getTunnelDetails_of_some ht]⟩

theorem consistent_idleTunnel {now : Time} : (idleTunnel t now).Consistent where
  port_range h := absurd rfl h
  required h := nomatch h
  idle _ := ⟨rfl, rfl⟩

section Server

variable [ChiselServer S]

theorem Consistent.idle (h : s.Consistent) {now : Time} :
    (s.setTunnelStatusToIdle e now).Consistent :=
  h.replace _ consistent_idleTunnel (fun hne => absurd rfl hne) fun _ => tunnel?_idle

theorem Consistent.checkTunnels (h : s.Consistent) {clock : Clock} :
    (s.checkTunnels clock).Consistent := by
  refine h.of_keeps_ports fun e₁ t₁ h₁ => ?_
  rw [tunnel?_checkTunnels] at h₁
  obtain ⟨t, ht, hafter⟩ := Option.bind_eq_some_iff.mp h₁
  unfold afterCheck at hafter
  split at hafter
  · split at hafter
    · obtain rfl := Option.some.inj hafter
      exact ⟨consistent_idleTunnel, fun hne => absurd rfl hne⟩
    · nomatch hafter
  · obtain rfl := Option.some.inj hafter
    exact ⟨h.tunnel e₁ t ht, fun _ => by rw [getTunnelDetails_of_some ht]⟩

/-! ## Required

The one operation that can stop half-way. -/

/-- The call cannot fail once it has written to a record of the map: the
endpoint has no record yet, or its tunnel has a port already, or neither
the registration nor the encryption fails. -/
def HalfwaySafe (s : Service S) : Op → Prop
  | .required e c => ∀ t endpoint, s.tunnel? e = some t → t.port = 0 → c.endpoint = .ok endpoint →
      c.addUserErr = none ∧
        ∃ bytes, c.cipher.encrypt (c.username ++ ":" ++ c.password) endpoint.edgeID = .ok bytes
  | _ => True

theorem encryptCredentials_of_ok {cipher : Cipher} {username password key : String}
    {bytes : List UInt8} (h : cipher.encrypt (username ++ ":" ++ password) key = .ok bytes) :
    ∃ credentials, encryptCredentials cipher username password key = .ok credentials := by
  rw [encryptCredentials, h]
  exact ⟨_, rfl⟩

/-- **A failing call changes no tunnel**, where it cannot fail half-way. -/
theorem tunnel?_of_required_error {c : RequiredCall} {err : String}
    (hsafe : s.HalfwaySafe (.required e c))
    (h : s.setTunnelStatusToRequired e c = some (.error err, s')) (e' : EndpointID) :
    s'.tunnel? e' = s.tunnel? e' := by
  rcases setTunnelStatusToRequired_cases h with ⟨-, hr, -⟩ | ⟨-, -, rfl⟩ |
    ⟨endpoint, port, hp, hep, -, ⟨err', hadd, -, hs'⟩ | ⟨hadd, -, ⟨err', henc, -, hs'⟩ |
      ⟨credentials, -, hr, -⟩⟩⟩
  · cases hr
  · rfl
  · -- `AddUser` failed: then the record was not in the map
    cases ht : s.tunnel? e with
    | none => rw [hs', touch_of_none ht]
    | some t =>
      rw [getTunnelDetails_of_some ht] at hp
      rw [(hsafe t endpoint ht hp hep).1] at hadd
      cases hadd
  · cases ht : s.tunnel? e with
    | none =>
      rw [touch_of_none ht] at hs'
      rw [tunnel?, hs', tunnel?]
    | some t =>
      rw [getTunnelDetails_of_some ht] at hp
      obtain ⟨bytes, hb⟩ := (hsafe t endpoint ht hp hep).2
      obtain ⟨credentials, hc⟩ := encryptCredentials_of_ok hb
      rw [hc] at henc
      cases henc
  · cases hr

theorem Consistent.required (h : s.Consistent) {c : RequiredCall} {r : Except String Unit}
    (hsafe : s.HalfwaySafe (.required e c)) (hr : s.setTunnelStatusToRequired e c = some (r, s')) :
    s'.Consistent := by
  cases r with
  | error err => exact h.of_tunnel?_eq (tunnel?_of_required_error hsafe hr)
  | ok _ =>
    rcases setTunnelStatusToRequired_cases hr with ⟨-, -, rfl⟩ | ⟨-, ⟨_, -, herr⟩, -⟩ |
      ⟨endpoint, port, -, -, hport, ⟨_, -, herr, -⟩ | ⟨-, -, ⟨_, -, herr, -⟩ |
        ⟨credentials, henc, -, hs'⟩⟩⟩
    · exact h
    · nomatch herr
    · nomatch herr
    · nomatch herr
    · obtain ⟨hmin, hmax, hfresh⟩ := getUnusedPort_spec hport
      refine h.of_draw hfresh ?_ hs'
      exact ⟨fun _ => ⟨hmin, hmax⟩,
        fun _ => ⟨port_ne_zero hmin, encryptCredentials_ne_empty henc⟩, fun hi => (nomatch hi)⟩

/-! ## Runs -/

theorem Consistent.step {op : Op} (h : s.Consistent) (hsafe : s.HalfwaySafe op)
    (hstep : (machine S).step s op = some s') : s'.Consistent := by
  cases op with
  | required e c =>
    obtain ⟨⟨r, s₁⟩, hr, rfl⟩ := Option.map_eq_some_iff.mp hstep
    exact h.required hsafe hr
  | active e now => exact Option.some.inj hstep ▸ h.active
  | idle e now => exact Option.some.inj hstep ▸ h.idle
  | addEdgeJob e job => exact Option.some.inj hstep ▸ h.addEdgeJob
  | removeEdgeJob id => exact Option.some.inj hstep ▸ h.removeEdgeJob
  | checkTunnels clock => exact Option.some.inj hstep ▸ h.checkTunnels

end Server

end Service

/-- **The tunnels stay consistent**, and a failing request for a tunnel
changes none of them, in every run whose requests cannot fail half-way. -/
theorem consistent_of_halfwaySafe {S : Type} [ChiselServer S] {server : S} {ops : List Op}
    {s : Service S}
    (hsafe : (machine S).Along Service.HalfwaySafe ⟨∅, server⟩ ops)
    (hrun : (machine S).run ⟨∅, server⟩ ops = some s) :
    s.Consistent ∧ ∀ e c err s', s.HalfwaySafe (.required e c) →
      s.setTunnelStatusToRequired e c = some (.error err, s') →
      ∀ e', s'.tunnel? e' = s.tunnel? e' := by
  refine ⟨?_, fun e c err s' hc h => Service.tunnel?_of_required_error hc h⟩
  exact Machine.run_invariant (fun s op s' h hC hstep => h.step hC hstep)
    Service.consistent_empty hsafe hrun

/-! ## The two sides of the condition -/

/-- A request for the tunnel of one endpoint, with a port drawn at once. -/
def sampleCall (cipher : Cipher) : RequiredCall where
  endpoint := .ok { id := 7, name := "edge", type := .edgeAgentOnDockerEnvironment, edgeID := "e7" }
  draws := [⟨0, by decide⟩]
  now := 100 * second
  username := "hYp2mQa0"
  password := "Zr81sKdw"
  cipher := cipher

/-- A sealed message: nonce, then data and tag. -/
def sealing : Cipher where
  encrypt data _ := .ok (List.replicate 12 0 ++ data.toUTF8.toList ++ List.replicate 16 0)
  ne_nil data _ bytes h := by
    obtain rfl := Except.ok.inj h
    simp

/-- A random source that cannot be read. -/
def failing : Cipher where
  encrypt _ _ := .error "unexpected EOF"
  ne_nil _ _ _ h := nomatch h

/-- A job, then a tunnel asked for, used and closed. -/
def sampleRun (cipher : Cipher) : List Op :=
  [.addEdgeJob 7 { id := 1 }, .required 7 (sampleCall cipher), .active 7 (101 * second),
    .idle 7 (102 * second)]

theorem consistent_of_halfwaySafe_sealing :
    ∃ s : Service (ExtTreeMap String ChiselUser),
      (machine _).run ⟨∅, ∅⟩ (sampleRun sealing) = some s ∧ s.Consistent := by
  have hsafe : (machine (ExtTreeMap String ChiselUser)).Along Service.HalfwaySafe ⟨∅, ∅⟩
      (sampleRun sealing) :=
    ⟨trivial, fun _ _ => ⟨fun _ _ _ _ _ => ⟨rfl, _, rfl⟩, fun _ _ => ⟨trivial, fun _ _ =>
      ⟨trivial, fun _ _ => trivial⟩⟩⟩⟩
  exact ⟨_, rfl, (consistent_of_halfwaySafe hsafe rfl).1⟩

/-- **An error in between leaves a required tunnel without credentials.** A
job makes the map hold a record for the endpoint, then the encryption
fails: the record is required and has a port, and nothing to use it with. -/
theorem not_consistent_of_encrypt_error :
    ¬ ∀ (ops : List Op) (s : Service (ExtTreeMap String ChiselUser)),
      (machine _).run ⟨∅, ∅⟩ ops = some s →
        s.Consistent ∧ ∀ e c err s', s.setTunnelStatusToRequired e c = some (.error err, s') →
          ∀ e', s'.tunnel? e' = s.tunnel? e' := by
  intro h
  have hs := (h [.addEdgeJob 7 { id := 1 }, .required 7 (sampleCall failing)] _ rfl).1
  exact ((hs.tunnel 7 _ rfl).required rfl).2 rfl

end Tunnel

end Portainer
