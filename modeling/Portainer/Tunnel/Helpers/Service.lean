import Portainer.Tunnel.Model.Service
/-!
# The reverse tunnel service — what each operation does

One lemma for each operation, pointwise: the record of an endpoint after
it, in terms of the record before it. The invariants are proved from these
and never unfold an operation.
-/

namespace Portainer

open Std

namespace Tunnel

namespace Service

variable {S : Type} {s s' : Service S} {e e' : EndpointID} {t : TunnelDetails}

/-- The record of an endpoint, if it has one. -/
def tunnel? (s : Service S) (e : EndpointID) : Option TunnelDetails := s.tunnelDetailsMap[e]?

theorem getTunnelDetails_eq : s.getTunnelDetails e = (s.tunnel? e).getD {} := rfl

theorem getTunnelDetails_of_some (h : s.tunnel? e = some t) : s.getTunnelDetails e = t := by
  rw [getTunnelDetails_eq, h, Option.getD_some]

theorem getTunnelDetails_of_none (h : s.tunnel? e = none) : s.getTunnelDetails e = {} := by
  rw [getTunnelDetails_eq, h, Option.getD_none]

@[simp] theorem tunnel?_set : (s.set e t).tunnel? e' = if e = e' then some t else s.tunnel? e' := by
  simp [tunnel?, set, ExtTreeMap.getElem?_insert]

@[simp] theorem chiselServer_set : (s.set e t).chiselServer = s.chiselServer := rfl

theorem mem_iff_isSome_tunnel? : e ∈ s.tunnelDetailsMap ↔ (s.tunnel? e).isSome :=
  ExtTreeMap.mem_iff_isSome_getElem?

theorem touch_of_some {t' : TunnelDetails} (h : s.tunnel? e = some t) :
    s.touch e t' = s.set e t' := by
  rw [touch, if_pos (mem_iff_isSome_tunnel?.mpr (by rw [h]; rfl))]

theorem touch_of_none (h : s.tunnel? e = none) : s.touch e t = s := by
  rw [touch, if_neg fun hmem => ?_]
  have := mem_iff_isSome_tunnel?.mp hmem
  rw [h] at this
  nomatch this

@[simp] theorem chiselServer_touch : (s.touch e t).chiselServer = s.chiselServer := by
  unfold touch
  split <;> rfl

theorem tunnel?_touch_of_ne (h : e ≠ e') : (s.touch e t).tunnel? e' = s.tunnel? e' := by
  cases ht : s.tunnel? e with
  | none => rw [touch_of_none ht]
  | some _ => rw [touch_of_some ht, tunnel?_set, if_neg h]

/-! ## Ports -/

/-- **A drawn port is fresh and in range.** -/
theorem getUnusedPort_spec {draws : List (Fin (maxAvailablePort - minAvailablePort))} {port : ℕ}
    (h : s.getUnusedPort draws = some port) :
    minAvailablePort ≤ port ∧ port < maxAvailablePort ∧
      ∀ e t, s.tunnel? e = some t → t.port ≠ port := by
  induction draws with
  | nil => simp [getUnusedPort] at h
  | cons n draws ih =>
    simp only [getUnusedPort] at h
    split at h
    · exact ih h
    · rename_i hfree
      have hport := Option.some.inj h
      have hn := n.isLt
      refine ⟨by omega, ?_, ?_⟩
      · simp only [maxAvailablePort, minAvailablePort] at hn hport ⊢
        omega
      · intro e t ht hp
        apply hfree
        rw [List.any_eq_true]
        refine ⟨(e, t), ExtTreeMap.mem_toList_iff_getElem?_eq_some.mpr ht, ?_⟩
        rw [beq_iff_eq, hp, hport]

theorem port_ne_zero {port : ℕ} (h : minAvailablePort ≤ port) : port ≠ 0 := by
  simp only [minAvailablePort] at h
  omega

/-! ## Credentials -/

theorem rawStdEncoding_ne_nil {bytes : List UInt8} (h : bytes ≠ []) : rawStdEncoding bytes ≠ [] := by
  match bytes with
  | [] => exact absurd rfl h
  | [_] | [_, _] | _ :: _ :: _ :: _ => simp [rawStdEncoding]

/-- **Encrypted credentials are never empty.** -/
theorem encryptCredentials_ne_empty {cipher : Cipher} {username password key credentials : String}
    (h : encryptCredentials cipher username password key = .ok credentials) :
    credentials ≠ "" := by
  unfold encryptCredentials at h
  split at h
  · rename_i bytes hb
    intro hempty
    have hlist := congrArg String.toList (Except.ok.inj h)
    rw [String.toList_ofList, hempty] at hlist
    exact rawStdEncoding_ne_nil (cipher.ne_nil _ _ _ hb) hlist
  · simp at h

/-! ## The operations, pointwise -/

/-- The record after it was used. -/
def activeTunnel (t : TunnelDetails) (now : Time) : TunnelDetails :=
  { t with status := .active, credentials := "", lastActivity := some now }

/-- The record after it was set idle. -/
def idleTunnel (t : TunnelDetails) (now : Time) : TunnelDetails :=
  { t with status := .idle, port := 0, credentials := "", lastActivity := some now }

/-- The record after it was set required, but for the credentials. -/
def requiredTunnel (t : TunnelDetails) (port : ℕ) (now : Time) : TunnelDetails :=
  { t with status := .required, port := port, lastActivity := some now }

theorem tunnel?_active {now : Time} : (s.setTunnelStatusToActive e now).tunnel? e' =
    if e = e' then some (activeTunnel (s.getTunnelDetails e) now) else s.tunnel? e' :=
  tunnel?_set

theorem tunnel?_addEdgeJob {job : EdgeJob} : (s.addEdgeJob e job).tunnel? e' =
    if e = e' then some { s.getTunnelDetails e with
        jobs := upsert (s.getTunnelDetails e).jobs job }
    else s.tunnel? e' :=
  tunnel?_set

theorem tunnel?_removeEdgeJob {id : EdgeJobID} : (s.removeEdgeJob id).tunnel? e =
    (s.tunnel? e).map fun t => { t with jobs := t.jobs.filter (fun job => job.id != id) } := by
  simp [tunnel?, removeEdgeJob]

variable [ChiselServer S]

theorem tunnel?_idle {now : Time} : (s.setTunnelStatusToIdle e now).tunnel? e' =
    if e = e' then some (idleTunnel (s.getTunnelDetails e) now) else s.tunnel? e' := by
  unfold setTunnelStatusToIdle idleTunnel
  by_cases hc : (s.getTunnelDetails e).credentials = ""
  · simp only [hc, ne_eq, not_true_eq_false, if_false, tunnel?_set]
  · simp only [hc, ne_eq, not_false_eq_true, if_true, tunnel?_set]
    rfl

/-- The user `SetTunnelStatusToIdle` deletes for a record: what stands
before the first colon of its credentials, if it has any. -/
def Deletes (t : TunnelDetails) (name : String) : Prop :=
  t.credentials ≠ "" ∧ splitHead t.credentials = name

/-- **Setting a tunnel idle removes the user its credentials name**, and no
other. -/
theorem user_idle {now : Time} {name : String} {u : ChiselUser} :
    ChiselServer.user (s.setTunnelStatusToIdle e now).chiselServer name = some u ↔
      ChiselServer.user s.chiselServer name = some u ∧ ¬ Deletes (s.getTunnelDetails e) name := by
  unfold setTunnelStatusToIdle Deletes
  by_cases hc : (s.getTunnelDetails e).credentials = ""
  · simp [hc]
  · simp only [hc, ne_eq, not_false_eq_true, if_true, chiselServer_set,
      ChiselServer.user_deleteUser, true_and]
    by_cases hn : splitHead (s.getTunnelDetails e).credentials = name <;> simp [hn]

/-! ## `SetTunnelStatusToRequired` -/

/-- The call registers a user: it draws a port, and `AddUser` does not
fail. -/
def Registers (s : Service S) (e : EndpointID) (c : RequiredCall) : Prop :=
  (s.getTunnelDetails e).port = 0 ∧ c.endpoint.isOk ∧ c.addUserErr = none

instance (s : Service S) (e : EndpointID) (c : RequiredCall) : Decidable (s.Registers e c) := by
  unfold Registers
  exact inferInstance

/-- **Everything `SetTunnelStatusToRequired` can do.** It leaves the service
as it was (a tunnel that has a port, or an unknown endpoint); or it draws a
fresh port, writes it through the pointer, and then fails to register the
user, fails to encrypt, or stores the record with its credentials. -/
theorem setTunnelStatusToRequired_cases {c : RequiredCall} {r : Except String Unit}
    (h : s.setTunnelStatusToRequired e c = some (r, s')) :
    ((s.getTunnelDetails e).port ≠ 0 ∧ r = .ok () ∧ s' = s) ∨
    ((s.getTunnelDetails e).port = 0 ∧ (∃ err, c.endpoint = .error err ∧ r = .error err) ∧ s' = s) ∨
    ∃ endpoint port, (s.getTunnelDetails e).port = 0 ∧ c.endpoint = .ok endpoint ∧
      s.getUnusedPort c.draws = some port ∧
      ((∃ err, c.addUserErr = some err ∧ r = .error err ∧
          s' = s.touch e (requiredTunnel (s.getTunnelDetails e) port c.now)) ∨
        c.addUserErr = none ∧
        s'.chiselServer = ChiselServer.addUser s.chiselServer c.username
          ⟨c.password, [authorizedRemote port]⟩ ∧
        ((∃ err, encryptCredentials c.cipher c.username c.password endpoint.edgeID = .error err ∧
            r = .error err ∧ s'.tunnelDetailsMap =
              (s.touch e (requiredTunnel (s.getTunnelDetails e) port c.now)).tunnelDetailsMap) ∨
          ∃ credentials,
            encryptCredentials c.cipher c.username c.password endpoint.edgeID = .ok credentials ∧
            r = .ok () ∧ ∀ e', s'.tunnel? e' = if e = e' then
              some { requiredTunnel (s.getTunnelDetails e) port c.now with
                credentials := credentials }
              else s.tunnel? e')) := by
  unfold setTunnelStatusToRequired at h
  by_cases hp : (s.getTunnelDetails e).port = 0
  · simp only [hp, if_true] at h
    right
    cases hep : c.endpoint with
    | error err =>
      rw [hep] at h
      obtain ⟨rfl, rfl⟩ := Prod.mk.inj (Option.some.inj h)
      exact .inl ⟨hp, ⟨err, rfl, rfl⟩, rfl⟩
    | ok endpoint =>
      right
      rw [hep] at h
      simp only at h
      cases hport : s.getUnusedPort c.draws with
      | none => simp [hport] at h
      | some port =>
        refine ⟨endpoint, port, hp, rfl, rfl, ?_⟩
        simp only [hport] at h
        cases hadd : c.addUserErr with
        | some err =>
          rw [hadd] at h
          obtain ⟨rfl, rfl⟩ := Prod.mk.inj (Option.some.inj h)
          exact .inl ⟨err, rfl, rfl, rfl⟩
        | none =>
          rw [hadd] at h
          right
          simp only [chiselServer_touch] at h
          cases henc : encryptCredentials c.cipher c.username c.password endpoint.edgeID with
          | error err =>
            rw [henc] at h
            obtain ⟨rfl, rfl⟩ := Prod.mk.inj (Option.some.inj h)
            exact ⟨rfl, rfl, .inl ⟨err, rfl, rfl, rfl⟩⟩
          | ok credentials =>
            rw [henc] at h
            obtain ⟨rfl, rfl⟩ := Prod.mk.inj (Option.some.inj h)
            refine ⟨rfl, rfl, .inr ⟨credentials, rfl, rfl, fun e' => ?_⟩⟩
            rw [tunnel?_set]
            by_cases he : e = e'
            · rw [if_pos he, if_pos he]
              rfl
            · rw [if_neg he, if_neg he]
              exact tunnel?_touch_of_ne he
  · simp only [hp, if_false] at h
    obtain ⟨rfl, rfl⟩ := Prod.mk.inj (Option.some.inj h)
    exact .inl ⟨hp, rfl, rfl⟩

/-! ## `checkTunnels` -/

/-- What `checkTunnels` makes of a record: an expired one stays, idle, if
it carries jobs, and is dropped if it does not. -/
def afterCheck (clock : Clock) (e : EndpointID) (t : TunnelDetails) : Option TunnelDetails :=
  if t.expired (clock.check e) then
    if t.jobs.length > 0 then some (idleTunnel t (clock.idle e)) else none
  else some t

theorem tunnel?_checkTunnel {clock : Clock} : (checkTunnel clock s e).tunnel? e' =
    if e = e' then (s.tunnel? e').bind (afterCheck clock e') else s.tunnel? e' := by
  unfold checkTunnel
  cases ht : s.tunnelDetailsMap[e]? with
  | none =>
    by_cases he : e = e'
    · subst he
      have : s.tunnel? e = none := ht
      simp [this]
    · rw [if_neg he]
  | some t =>
    have ht' : s.tunnel? e = some t := ht
    by_cases he : e = e'
    · subst he
      rw [if_pos rfl, ht', Option.bind_some, afterCheck]
      by_cases hx : t.expired (clock.check e) = true
      · by_cases hj : t.jobs.length > 0
        · simp only [hx, hj, if_true]
          rw [tunnel?_idle, if_pos rfl, getTunnelDetails_of_some ht']
        · simp only [hx, hj, if_true, if_false]
          simp [tunnel?]
      · simp only [hx, if_false, Bool.false_eq_true]
        exact ht'
    · rw [if_neg he]
      dsimp only
      split
      · split
        · rw [tunnel?_idle, if_neg he]
        · simp [tunnel?, ExtTreeMap.getElem?_erase, he]
      · rfl

theorem tunnel?_foldl_checkTunnel {clock : Clock} {l : List EndpointID} (hl : l.Nodup) :
    (l.foldl (checkTunnel clock) s).tunnel? e =
      if e ∈ l then (s.tunnel? e).bind (afterCheck clock e) else s.tunnel? e := by
  induction l generalizing s with
  | nil => simp
  | cons k l ih =>
    obtain ⟨hk, hl⟩ := List.nodup_cons.mp hl
    rw [List.foldl_cons, ih hl, tunnel?_checkTunnel]
    by_cases he : k = e
    · subst he
      simp [hk]
    · have : e ∈ k :: l ↔ e ∈ l := by simp [Ne.symm he]
      simp only [if_neg he, this]

/-- **`checkTunnels` treats every record on its own.** The order in which
the map is walked does not matter. -/
theorem tunnel?_checkTunnels {clock : Clock} :
    (s.checkTunnels clock).tunnel? e = (s.tunnel? e).bind (afterCheck clock e) := by
  rw [checkTunnels, tunnel?_foldl_checkTunnel ExtTreeMap.nodup_keys]
  split
  · rfl
  · rename_i h
    have : s.tunnel? e = none := by
      rw [ExtTreeMap.mem_keys] at h
      exact ExtTreeMap.getElem?_eq_none h
    rw [this, Option.bind_none]

/-- The users one turn of the loop leaves. -/
theorem user_checkTunnel {clock : Clock} {name : String} {u : ChiselUser} :
    ChiselServer.user (checkTunnel clock s e).chiselServer name = some u ↔
      ChiselServer.user s.chiselServer name = some u ∧ ∀ t, s.tunnel? e = some t →
        t.expired (clock.check e) = true → t.jobs ≠ [] → ¬ Deletes t name := by
  unfold checkTunnel
  cases ht : s.tunnelDetailsMap[e]? with
  | none =>
    have ht' : s.tunnel? e = none := ht
    simp [ht']
  | some t =>
    have ht' : s.tunnel? e = some t := ht
    simp only [ht', Option.some.injEq, forall_eq']
    by_cases hx : t.expired (clock.check e) = true
    · by_cases hj : t.jobs = []
      · simp [hx, hj]
      · have hlen : t.jobs.length > 0 := List.length_pos_iff.mpr hj
        simp only [hx, hlen, if_true, user_idle, getTunnelDetails_of_some ht', hj, ne_eq,
          not_false_eq_true, forall_const]
    · simp [hx]

theorem user_foldl_checkTunnel {clock : Clock} {l : List EndpointID} (hl : l.Nodup) {name : String}
    {u : ChiselUser} :
    ChiselServer.user (l.foldl (checkTunnel clock) s).chiselServer name = some u ↔
      ChiselServer.user s.chiselServer name = some u ∧ ∀ e ∈ l, ∀ t, s.tunnel? e = some t →
        t.expired (clock.check e) = true → t.jobs ≠ [] → ¬ Deletes t name := by
  induction l generalizing s with
  | nil => simp
  | cons k l ih =>
    obtain ⟨hk, hl⟩ := List.nodup_cons.mp hl
    have hsame : ∀ e ∈ l, (checkTunnel clock s k).tunnel? e = s.tunnel? e := fun e he => by
      have hne : k ≠ e := fun h => hk (h ▸ he)
      rw [tunnel?_checkTunnel, if_neg hne]
    rw [List.foldl_cons, ih hl, user_checkTunnel, List.forall_mem_cons, and_assoc]
    constructor
    · rintro ⟨hu, hhead, htail⟩
      exact ⟨hu, hhead, fun e he t ht => htail e he t ((hsame e he).trans ht)⟩
    · rintro ⟨hu, hhead, htail⟩
      exact ⟨hu, hhead, fun e he t ht => htail e he t ((hsame e he).symm.trans ht)⟩

/-- **`checkTunnels` removes the users named by the credentials of the
expired tunnels that carry jobs.** A tunnel it drops takes no user with
it. -/
theorem user_checkTunnels {clock : Clock} {name : String} {u : ChiselUser} :
    ChiselServer.user (s.checkTunnels clock).chiselServer name = some u ↔
      ChiselServer.user s.chiselServer name = some u ∧ ∀ e t, s.tunnel? e = some t →
        t.expired (clock.check e) = true → t.jobs ≠ [] → ¬ Deletes t name := by
  rw [checkTunnels, user_foldl_checkTunnel ExtTreeMap.nodup_keys]
  constructor
  · rintro ⟨hu, h⟩
    refine ⟨hu, fun e t ht => h e ?_ t ht⟩
    rw [ExtTreeMap.mem_keys, mem_iff_isSome_tunnel?, ht]
    rfl
  · rintro ⟨hu, h⟩
    exact ⟨hu, fun e _ => h e⟩

end Service

end Tunnel

end Portainer
