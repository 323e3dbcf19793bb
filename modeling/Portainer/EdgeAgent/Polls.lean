import Portainer.EdgeAgent.Confinement
/-!
# Edge agents — the credentials of a tunnel

When a tunnel is required, the next poll of its agent is answered with the
port and the credentials, and the tunnel becomes active without them. The
poll makes it active before it has read all that goes into the answer: the
relation of the environment and its stacks come after. If one of them
cannot be read, the answer is an error and the credentials are gone.

`polls_iff` says when a poll loses nothing, `credentials_of_polls` that the
agent then gets what the tunnel required, in its first poll that succeeds.
`not_polls` is a poll of an environment whose relation names a stack that
was deleted.
-/

namespace Portainer

open Std HandlerError
open Tunnel (EdgeServer Service TunnelDetails)

namespace EdgeAgent

variable {S : Type} {s s' : EdgeServer S} {w : Sys Callee (EdgeServer S)} {e : EndpointID} {r : Poll}

/-- The tunnel of an environment. -/
def tunnelOf (s : EdgeServer S) (e : EndpointID) : TunnelDetails := s.reverseTunnelService.getTunnelDetails e

/-- The tunnel has kept its status, port and credentials. -/
def TunnelKept (s s' : EdgeServer S) (e : EndpointID) : Prop :=
  (tunnelOf s' e).status = (tunnelOf s e).status ∧ (tunnelOf s' e).port = (tunnelOf s e).port ∧
    (tunnelOf s' e).credentials = (tunnelOf s e).credentials

/-- **A poll loses no credentials**: from the server `s` it ends with the
result and the server `s'`. -/
structure HandsOver (s : EdgeServer S) (e : EndpointID)
    (result : Except HandlerError EndpointStatusInspectResponse) (s' : EdgeServer S) : Prop where
  failed : ∀ err, result = .error err → TunnelKept s s' e
  told : ∀ response, result = .ok response → (tunnelOf s e).status = .required →
    response.status = .required ∧ response.port = (tunnelOf s e).port ∧
      response.credentials = (tunnelOf s e).credentials ∧ (tunnelOf s' e).status = .active
  active : (tunnelOf s' e).status = .active → (tunnelOf s e).status ≠ .active →
    (tunnelOf s e).status = .required ∧ ∃ response, result = .ok response
  others : ∀ e', e' ≠ e → tunnelOf s' e' = tunnelOf s e'

/-- The agent is let in and identified. -/
def Identifies (s : EdgeServer S) (r : Poll) (e : EndpointID) : Prop :=
  ∃ endpoint, s.dataStore.endpoint.get? e = some endpoint ∧
    Tunnel.authorizedEdgeEndpointOperation r.edgeIdentifier endpoint = none ∧
    (identified r endpoint).isOk = true

/-- **The poll gets as far as the tunnel**: no call fails so far, the agent
is let in and identified, and the scripts of the jobs are there. -/
def Announces (w : Sys Callee (EdgeServer S)) (r : Poll) (e : EndpointID) : Prop :=
  w.Clear .databaseRead 2 ∧ w.Clear .databaseWrite 1 ∧
    Identifies w.store r e ∧ w.Clear .fileService (tunnelOf w.store e).jobs.length ∧
    ∀ job ∈ (tunnelOf w.store e).jobs, (w.store.files[job.scriptPath]?).isSome = true

/-- **The rest of the answer is there**: the relation of the environment,
and all its stacks, and no call for them fails. -/
def Concludes (w : Sys Callee (EdgeServer S)) (e : EndpointID) : Prop :=
  ∃ relation, w.store.dataStore.endpointRelation.get? e = some relation ∧
    (∀ id ∈ relation.edgeStacks, (w.store.dataStore.edgeStack.get? id).isSome = true) ∧
    w.Clear .databaseRead (3 + relation.edgeStacks.card)

/-! ## The parts of a poll -/

section Loops

variable {σ α β γ : Type} {k : Callee} {missing : β → String} {g : β → σ → Option α}
  {message : String → HandlerError} {f : β → α → γ}

/-- **A loop of lookups** finds everything, or fails. -/
theorem lookups_cases (loop : List β → Handler σ (List γ)) (hmessage : ∀ err, message err ≠ assignmentToNilMap)
    (hnil : loop [] = pure []) (hcons : ∀ b bs, loop (b :: bs) =
      (Action.lookup k (missing b) (g b)).mapError message >>= fun a =>
        loop bs >>= fun rest => pure (f b a :: rest)) (bs : List β) (v : Sys Callee σ) :
    ((v.Clear k bs.length ∧ ∀ b ∈ bs, (g b v.store).isSome = true) ∧ ∃ rest v', v'.store = v.store ∧
      (∀ j, j ≠ k → v'.faults j = v.faults j) ∧ (loop bs).run v = (.ok rest, v')) ∨
    (¬ (v.Clear k bs.length ∧ ∀ b ∈ bs, (g b v.store).isSome = true) ∧ ∃ err v', v'.store = v.store ∧
      (loop bs).run v = (.error err, v')) := by
  induction bs generalizing v with
  | nil =>
    refine .inl ⟨⟨Sys.clear_zero, fun _ hb => (List.not_mem_nil hb).elim⟩, [], v, rfl, fun _ _ => rfl, ?_⟩
    rw [hnil]
    rfl
  | cons b bs ih =>
    rw [hcons]
    rcases lookup_cases v k (missing b) (g b) message hmessage with
      ⟨a, hfault, ha, hrun⟩ | ⟨hnone, err, -, hrun⟩
    · rcases ih (v.spend k) with ⟨⟨hclear, hall⟩, rest, v', hstore, hfaults, hrest⟩ |
        ⟨hnot, err, v', hstore, hrest⟩
      · refine .inl ⟨⟨Sys.clear_succ.mpr ⟨hfault, hclear⟩, fun b' hb' => ?_⟩, f b a :: rest, v', hstore,
          fun j hj => (hfaults j hj).trans (Sys.faults_spend_of_ne hj), ?_⟩
        · rcases List.mem_cons.mp hb' with rfl | hb'
          · rw [ha]
            rfl
          · exact hall b' hb'
        · exact (Action.bind_run_of_ok hrun).trans (Action.bind_run_of_ok hrest)
      · refine .inr ⟨fun ⟨hclear, hall⟩ => hnot ⟨(Sys.clear_succ.mp hclear).2, fun b' hb' => ?_⟩, err, v',
          hstore, ?_⟩
        · exact hall b' (List.mem_cons_of_mem b hb')
        · exact (Action.bind_run_of_ok hrun).trans (Action.bind_run_of_error hrest)
    · refine .inr ⟨fun ⟨hclear, hall⟩ => ?_, err, v.spend k, rfl, Action.bind_run_of_error hrun⟩
      have hsome : (g b v.store).isSome = true := hall b List.mem_cons_self
      rw [hnone (Sys.clear_succ.mp hclear).1] at hsome
      nomatch hsome

end Loops

/-- The environment keeps its identifier. -/
theorem id_of_identified {endpoint endpoint' : Endpoint} (h : identified r endpoint = .ok endpoint') :
    endpoint'.id = endpoint.id := by
  unfold identified at h
  split at h
  · split at h
    · nomatch h
    · split at h
      · nomatch h
      · rw [← Except.ok.inj h]
  · rw [← Except.ok.inj h]

/-- The environment with the time of the poll. -/
def checkedIn (r : Poll) (endpoint : Endpoint) : Endpoint :=
  { endpoint with lastCheckInDate := r.now / Tunnel.second }

/-- The poll up to the settings: the environment of the agent, with the time
of the poll. -/
def checkIn (r : Poll) (e : EndpointID) : Handler (EdgeServer S) (Endpoint × Settings) := do
  let endpoint ← edgeEndpoint r.edgeIdentifier e
  let endpoint ← Action.ofExcept (identified r endpoint)
  (updateEndpoint (checkedIn r endpoint)).mapError
    (internalServerError "Unable to Unable to persist endpoint changes inside the database")
  let settings ← (Action.query .databaseRead fun s : EdgeServer S => s.dataStore.settings).mapError
    (internalServerError "Unable to retrieve settings from the database")
  return (checkedIn r endpoint, settings)

theorem endpointStatusInspect_eq : endpointStatusInspect (S := S) r e =
    checkIn r e >>= fun p => (Action.get fun s => s.reverseTunnelService.getTunnelDetails p.1.id) >>=
      fun tunnel => schedules p.1.id tunnel.jobs >>= conclude r p.1 p.2 tunnel := by
  simp only [endpointStatusInspect, checkIn, Action.bind_assoc]
  rfl

/-! ## The parts, by what they answer -/

/-- The calls up to the settings are answered, and the agent is let in. -/
def ChecksIn (w : Sys Callee (EdgeServer S)) (r : Poll) (e : EndpointID) : Prop :=
  w.Clear .databaseRead 2 ∧ w.Clear .databaseWrite 1 ∧ Identifies w.store r e

/-- Nothing but the record of the environment has changed. -/
structure OnlyEndpoint (s s' : EdgeServer S) : Prop where
  tunnels : s'.reverseTunnelService = s.reverseTunnelService
  files : s'.files = s.files
  relation : s'.dataStore.endpointRelation = s.dataStore.endpointRelation
  edgeStack : s'.dataStore.edgeStack = s.dataStore.edgeStack

theorem onlyEndpoint_refl : OnlyEndpoint s s := ⟨rfl, rfl, rfl, rfl⟩

/-- **The environment checks in, or the poll fails.** -/
theorem checkIn_cases (w : Sys Callee (EdgeServer S)) (r : Poll) (e : EndpointID) :
    (ChecksIn w r e ∧ ∃ endpoint settings w', (checkIn r e).run w = (.ok (endpoint, settings), w') ∧
      endpoint.id = e ∧ OnlyEndpoint w.store w'.store ∧
      w'.faults = ((w.spend .databaseRead).spend .databaseWrite |>.spend .databaseRead).faults) ∨
    (¬ ChecksIn w r e ∧ ∃ err w', (checkIn r e).run w = (.error err, w') ∧
      OnlyEndpoint w.store w'.store) := by
  have hne : Callee.databaseWrite ≠ Callee.databaseRead := by decide
  unfold checkIn
  rcases edgeEndpoint_cases (w := w) r.edgeIdentifier e with
    ⟨endpoint, hread, hget, hauth, hrun⟩ | ⟨hnot, err, -, hrun⟩
  swap
  · refine .inr ⟨?_, err, _, Action.bind_run_of_error hrun, onlyEndpoint_refl⟩
    rintro ⟨hreads, -, endpoint, hget, hauth, -⟩
    exact hnot (Sys.clear_succ.mp hreads).1 ⟨endpoint, hget, hauth⟩
  rw [Action.bind_run_of_ok hrun]
  cases hidentified : identified r endpoint with
  | error err =>
    refine .inr ⟨?_, err, _, rfl, onlyEndpoint_refl⟩
    rintro ⟨-, -, endpoint', hget', -, hok⟩
    obtain rfl := Option.some.inj (hget.symm.trans hget')
    rw [hidentified] at hok
    nomatch hok
  | ok endpoint' =>
    have hid : (checkedIn r endpoint').id = e :=
      (id_of_identified hidentified).trans (Bucket.key_of_get? hget)
    have hlet : Identifies w.store r e := ⟨endpoint, hget, hauth, by rw [hidentified]; rfl⟩
    rw [Action.ofExcept_ok, Action.pure_bind]
    rcases call_cases (w.spend .databaseRead) .databaseWrite (fun s : EdgeServer S =>
          { s with dataStore := { s.dataStore with endpoint := s.dataStore.endpoint.put (checkedIn r endpoint') } })
        (internalServerError "Unable to Unable to persist endpoint changes inside the database")
        (fun _ => internalServerError_ne_panic) with ⟨hwrite, hput⟩ | ⟨hwrite, err, -, hput⟩
    swap
    · refine .inr ⟨fun hchecks => hwrite ?_, err, _, Action.bind_run_of_error hput, ⟨rfl, rfl, rfl, rfl⟩⟩
      rw [Sys.fault_spend_of_ne hne]
      exact (Sys.clear_succ.mp hchecks.2.1).1
    rw [updateEndpoint, Action.bind_run_of_ok hput]
    rw [Sys.fault_spend_of_ne hne] at hwrite
    -- the settings are the second read
    have hspent : ∀ s' : EdgeServer S, ({ (w.spend .databaseRead).spend .databaseWrite with store := s' } :
        Sys Callee (EdgeServer S)).fault .databaseRead = (w.spend .databaseRead).fault .databaseRead :=
      fun _ => Sys.fault_spend_of_ne hne.symm
    cases hsettings : (w.spend .databaseRead).fault .databaseRead with
    | some text =>
      refine .inr ⟨fun hchecks => ?_, _, _, Action.bind_run_of_error
        (Action.mapError_run_of_error (Action.query_run_of_some ((hspent _).trans hsettings))),
          ⟨rfl, rfl, rfl, rfl⟩⟩
      have hclear := (Sys.clear_succ.mp (Sys.clear_succ.mp hchecks.1).2).1
      rw [hsettings] at hclear
      nomatch hclear
    | none =>
      have hreads : w.Clear .databaseRead 2 :=
        Sys.clear_succ.mpr ⟨hread, Sys.clear_succ.mpr ⟨hsettings, Sys.clear_zero⟩⟩
      have hwrites : w.Clear .databaseWrite 1 := Sys.clear_succ.mpr ⟨hwrite, Sys.clear_zero⟩
      exact .inl ⟨⟨hreads, hwrites, hlet⟩, checkedIn r endpoint', _, _,
        Action.bind_run_of_ok (Action.mapError_run_ok.mpr
          (Action.query_run_of_none ((hspent _).trans hsettings))), hid, ⟨rfl, rfl, rfl, rfl⟩, rfl⟩

/-- The server once the agent of a required tunnel has been told. -/
def activated (e : EndpointID) (status : Tunnel.Status) (now : Tunnel.Time) (s : EdgeServer S) : EdgeServer S :=
  if status = .required then EdgeServer.mapTunnels (·.setTunnelStatusToActive e now) s else s

theorem activate_run {status : Tunnel.Status} {now : Tunnel.Time} :
    (activate e status now).run w = (.ok (), { w with store := activated e status now w.store }) := by
  unfold activate activated
  split <;> rfl

/-- To become active changes the tunnel only. -/
theorem dataStore_activated {status : Tunnel.Status} {now : Tunnel.Time} :
    (activated e status now s).dataStore = s.dataStore := by
  unfold activated
  split <;> rfl

/-- The relation and its stacks are there, and the calls for them are
answered. -/
def FindsStacks (w : Sys Callee (EdgeServer S)) (e : EndpointID) : Prop :=
  ∃ relation, w.store.dataStore.endpointRelation.get? e = some relation ∧
    (∀ id ∈ relation.edgeStacks, (w.store.dataStore.edgeStack.get? id).isSome = true) ∧
    w.Clear .databaseRead (relation.edgeStacks.card + 1)

/-- **The answer is assembled, or the poll fails**; the tunnel is active by
then. -/
theorem conclude_cases (w : Sys Callee (EdgeServer S)) (r : Poll) (endpoint : Endpoint)
    (settings : Settings) (tunnel : TunnelDetails) (jobs : List EdgeJobResponse) :
    (FindsStacks w endpoint.id ∧ ∃ response w', (conclude r endpoint settings tunnel jobs).run w =
        (.ok response, w') ∧ w'.store = activated endpoint.id tunnel.status r.now w.store ∧
      response.status = tunnel.status ∧ response.port = tunnel.port ∧
      response.credentials = tunnel.credentials) ∨
    (¬ FindsStacks w endpoint.id ∧ ∃ err w', (conclude r endpoint settings tunnel jobs).run w =
        (.error err, w') ∧ w'.store = activated endpoint.id tunnel.status r.now w.store) := by
  unfold conclude
  rw [Action.bind_run_of_ok activate_run]
  have hdata : (activated endpoint.id tunnel.status r.now w.store).dataStore = w.store.dataStore :=
    dataStore_activated
  rcases lookup_cases { w with store := activated endpoint.id tunnel.status r.now w.store } .databaseRead
      errObjectNotFound (fun s => s.dataStore.endpointRelation.get? endpoint.id)
      (internalServerError "Unable to retrieve relation object from the database")
      (fun _ => internalServerError_ne_panic) with
    ⟨relation, hfault, hrelation, hrun⟩ | ⟨hnone, err, -, hrun⟩
  swap
  · refine .inr ⟨?_, err, _, Action.bind_run_of_error hrun, rfl⟩
    rintro ⟨relation, hrelation, -, hclear⟩
    have hmissing := hnone (Sys.clear_succ.mp hclear).1
    rw [hdata, hrelation] at hmissing
    nomatch hmissing
  rw [hdata] at hrelation
  rw [endpointRelation, Action.bind_run_of_ok hrun]
  have hstacks : ∀ id, id ∈ relation.edgeStacks.sort (· ≤ ·) ↔ id ∈ relation.edgeStacks := by simp
  have hlength : (relation.edgeStacks.sort (· ≤ ·)).length = relation.edgeStacks.card := by simp
  rcases lookups_cases edgeStacksStatus (fun _ => internalServerError_ne_panic) rfl (fun _ _ => rfl)
      (relation.edgeStacks.sort (· ≤ ·))
      ({ w with store := activated endpoint.id tunnel.status r.now w.store }.spend .databaseRead) with
    ⟨⟨hclear, hall⟩, found, w', hstore, -, hrest⟩ | ⟨hnot, err, w', hstore, hrest⟩
  · refine .inl ⟨⟨relation, hrelation, fun id hid => ?_, ?_⟩, _, w', Action.bind_run_of_ok hrest, hstore, rfl, rfl,
      rfl⟩
    · have hsome := hall id ((hstacks id).mpr hid)
      rwa [Sys.spend_store, hdata] at hsome
    · rw [hlength] at hclear
      exact Sys.clear_succ.mpr ⟨hfault, hclear⟩
  · refine .inr ⟨?_, err, w', Action.bind_run_of_error hrest, hstore⟩
    rintro ⟨relation', hrelation', hall, hclear⟩
    obtain rfl := Option.some.inj (hrelation.symm.trans hrelation')
    refine hnot ⟨?_, fun id hid => ?_⟩
    · rw [hlength]
      exact (Sys.clear_succ.mp hclear).2
    · rw [Sys.spend_store, hdata]
      exact hall id ((hstacks id).mp hid)

theorem tunnels_activated {status : Tunnel.Status} {now : Tunnel.Time}
    (h : s'.reverseTunnelService = s.reverseTunnelService) :
    (activated e status now s').reverseTunnelService = (activated e status now s).reverseTunnelService := by
  unfold activated
  split
  · exact congrArg (·.setTunnelStatusToActive e now) h
  · exact h

/-- What the poll still has to read after the settings. -/
theorem concludes_iff {w' : Sys Callee (EdgeServer S)} (hclear : w.Clear .databaseRead 2)
    (honly : OnlyEndpoint w.store w'.store)
    (hfaults : w'.faults .databaseRead = ((w.spend .databaseRead).spend .databaseRead).faults .databaseRead) :
    Concludes w e ↔ FindsStacks w' e := by
  obtain ⟨hfirst, hrest⟩ := Sys.clear_succ.mp hclear
  obtain ⟨hsecond, -⟩ := Sys.clear_succ.mp hrest
  have hreads : ∀ n, w.Clear .databaseRead (3 + n) ↔ w'.Clear .databaseRead (n + 1) := by
    intro n
    rw [show 3 + n = n + 1 + 1 + 1 by omega, Sys.clear_succ, Sys.clear_succ, Sys.Clear, ← hfaults]
    exact ⟨fun h => h.2.2, fun h => ⟨hfirst, hsecond, h⟩⟩
  simp only [Concludes, FindsStacks, honly.relation, honly.edgeStack, hreads]

/-- The poll up to the jobs of the tunnel, or its failure. -/
theorem announce_cases (w : Sys Callee (EdgeServer S)) (r : Poll) (e : EndpointID) :
    (Announces w r e ∧ ∃ endpoint settings jobs w', endpoint.id = e ∧
      (endpointStatusInspect r e).run w =
        (conclude r endpoint settings (tunnelOf w.store e) jobs).run w' ∧
      OnlyEndpoint w.store w'.store ∧ (Concludes w e ↔ FindsStacks w' e)) ∨
    (¬ Announces w r e ∧ ∃ err w', (endpointStatusInspect r e).run w = (.error err, w') ∧
      w'.store.reverseTunnelService = w.store.reverseTunnelService) := by
  rw [endpointStatusInspect_eq]
  rcases checkIn_cases w r e with
    ⟨hchecks, endpoint, settings, w₁, hrun, hid, honly, hfaults⟩ | ⟨hnot, err, w₁, hrun, honly⟩
  swap
  · refine .inr ⟨fun hannounces => hnot ⟨hannounces.1, hannounces.2.1, hannounces.2.2.1⟩, err, w₁,
      Action.bind_run_of_error hrun, honly.tunnels⟩
  rw [Action.bind_run_of_ok hrun]
  subst hid
  have htunnel : w₁.store.reverseTunnelService.getTunnelDetails endpoint.id =
      tunnelOf w.store endpoint.id := by rw [honly.tunnels, tunnelOf]
  have hget : (Action.get (fun s : EdgeServer S => s.reverseTunnelService.getTunnelDetails endpoint.id) :
      Handler (EdgeServer S) TunnelDetails).run w₁ = (.ok (tunnelOf w.store endpoint.id), w₁) := by
    rw [← htunnel]
    rfl
  rw [Action.bind_run_of_ok hget]
  have hfiles : w₁.faults .fileService = w.faults .fileService := by
    rw [hfaults, Sys.faults_spend_of_ne (by decide), Sys.faults_spend_of_ne (by decide),
      Sys.faults_spend_of_ne (by decide)]
  -- the scripts of the jobs are looked up in the files as they were
  have hscripts : (w₁.Clear .fileService (tunnelOf w.store endpoint.id).jobs.length ∧
      ∀ job ∈ (tunnelOf w.store endpoint.id).jobs, (w₁.store.files[job.scriptPath]?).isSome = true) ↔
      w.Clear .fileService (tunnelOf w.store endpoint.id).jobs.length ∧
        ∀ job ∈ (tunnelOf w.store endpoint.id).jobs, (w.store.files[job.scriptPath]?).isSome = true := by
    rw [Sys.Clear, hfiles, honly.files, Sys.Clear]
  rcases lookups_cases (schedules endpoint.id) (fun _ => internalServerError_ne_panic) rfl
      (fun _ _ => rfl) (tunnelOf w.store endpoint.id).jobs w₁ with
    ⟨hfound, jobs, w₂, hstore, hothers, hjobs⟩ | ⟨hmissing, err, w₂, hstore, hjobs⟩
  · refine .inl ⟨⟨hchecks.1, hchecks.2.1, hchecks.2.2, hscripts.mp hfound⟩, endpoint, settings, jobs, w₂, rfl,
      Action.bind_run_of_ok hjobs, hstore ▸ honly, concludes_iff hchecks.1 (hstore ▸ honly) ?_⟩
    have hread : Callee.databaseRead ≠ .fileService := by decide
    rw [hothers _ hread, hfaults]
    rfl
  · refine .inr ⟨fun hannounces => hmissing (hscripts.mpr hannounces.2.2.2), err, w₂,
      Action.bind_run_of_error hjobs, ?_⟩
    rw [hstore, honly.tunnels]

/-- **What a poll ends with**: it fails before it gets to the tunnel, it fails
after it has made a required tunnel active, or it succeeds. -/
theorem poll_cases (w : Sys Callee (EdgeServer S)) (r : Poll) (e : EndpointID) :
    (¬ Announces w r e ∧ ∃ err w', (endpointStatusInspect r e).run w = (.error err, w') ∧
      w'.store.reverseTunnelService = w.store.reverseTunnelService) ∨
    (Announces w r e ∧ ∃ result w', (endpointStatusInspect r e).run w = (result, w') ∧
      w'.store.reverseTunnelService =
        (activated e (tunnelOf w.store e).status r.now w.store).reverseTunnelService ∧
      ((¬ Concludes w e ∧ ∃ err, result = .error err) ∨
        Concludes w e ∧ ∃ response, result = .ok response ∧
          response.status = (tunnelOf w.store e).status ∧ response.port = (tunnelOf w.store e).port ∧
          response.credentials = (tunnelOf w.store e).credentials)) := by
  rcases announce_cases w r e with
    ⟨hannounces, endpoint, settings, jobs, w₁, rfl, hrun, honly, hiff⟩ | hfailed
  swap
  · exact .inl hfailed
  rw [hrun, hiff]
  rcases conclude_cases w₁ r endpoint settings (tunnelOf w.store endpoint.id) jobs with
    ⟨hfinds, response, w₂, hend, hstore, htold⟩ | ⟨hnot, err, w₂, hend, hstore⟩
  · exact .inr ⟨hannounces, _, w₂, hend, by rw [hstore, tunnels_activated honly.tunnels],
      .inr ⟨hfinds, response, rfl, htold⟩⟩
  · exact .inr ⟨hannounces, _, w₂, hend, by rw [hstore, tunnels_activated honly.tunnels],
      .inl ⟨hnot, err, rfl⟩⟩

/-! ## One poll -/

theorem tunnelOf_eq (h : s'.reverseTunnelService = s.reverseTunnelService) : tunnelOf s' e = tunnelOf s e := by
  rw [tunnelOf, h, tunnelOf]

theorem tunnelKept_of_eq (h : tunnelOf s' e = tunnelOf s e) : TunnelKept s s' e := by
  unfold TunnelKept
  rw [h]
  exact ⟨rfl, rfl, rfl⟩

/-- The tunnels once the agent of a required one has been told. -/
theorem tunnelOf_activated {now : Tunnel.Time} (e' : EndpointID)
    (h : s'.reverseTunnelService = (activated e (tunnelOf s e).status now s).reverseTunnelService) :
    tunnelOf s' e' = if e = e' ∧ (tunnelOf s e).status = .required then
      Service.activeTunnel (tunnelOf s e) now else tunnelOf s e' := by
  unfold activated at h
  by_cases hrequired : (tunnelOf s e).status = .required
  · rw [if_pos hrequired] at h
    rw [tunnelOf, h]
    unfold EdgeServer.mapTunnels
    rw [Service.getTunnelDetails_eq, Service.tunnel?_active]
    by_cases he : e = e'
    · rw [if_pos he, if_pos ⟨he, hrequired⟩]
      rfl
    · rw [if_neg he, if_neg fun h => he h.1]
      rfl
  · rw [if_neg hrequired] at h
    rw [if_neg fun h => hrequired h.2, tunnelOf_eq h]

/-- **A poll that gets its answer together, or leaves the tunnel alone, loses
nothing.** -/
theorem handsOver_of_concludes
    (h : (tunnelOf w.store e).status = .required → Announces w r e → Concludes w e) :
    HandsOver w.store e ((endpointStatusInspect r e).run w).1 ((endpointStatusInspect r e).run w).2.store := by
  rcases poll_cases w r e with ⟨-, err, w', hrun, hsame⟩ | ⟨hannounces, result, w', hrun, htunnels, hend⟩
  · rw [hrun]
    exact {
      failed := fun _ _ => tunnelKept_of_eq (tunnelOf_eq hsame)
      told := nofun
      active := fun hactive hnot => absurd (tunnelOf_eq hsame ▸ hactive) hnot
      others := fun _ _ => tunnelOf_eq hsame }
  · rw [hrun]
    have hothers : ∀ e', e' ≠ e → tunnelOf w'.store e' = tunnelOf w.store e' := by
      intro e' he'
      rw [tunnelOf_activated e' htunnels, if_neg fun h => he' h.1.symm]
    have hself := tunnelOf_activated e htunnels
    by_cases hrequired : (tunnelOf w.store e).status = .required
    · rcases hend with ⟨hnot, -⟩ | ⟨-, response, rfl, hstatus, hport, hcredentials⟩
      · exact absurd (h hrequired hannounces) hnot
      · rw [if_pos ⟨rfl, hrequired⟩] at hself
        refine ⟨nofun, fun response' hresponse _ => ?_, fun _ _ => ⟨hrequired, response, rfl⟩, hothers⟩
        obtain rfl := Except.ok.inj hresponse
        exact ⟨hstatus.trans hrequired, hport, hcredentials, by rw [hself]; rfl⟩
    · rw [if_neg fun h => hrequired h.2] at hself
      exact {
        failed := fun _ _ => tunnelKept_of_eq hself
        told := fun _ _ hreq => absurd hreq hrequired
        active := fun hactive hnot => absurd (hself ▸ hactive) hnot
        others := hothers }

/-- **A poll that fails after the tunnel** has made it active. -/
theorem concludes_of_handsOver (hover : HandsOver w.store e ((endpointStatusInspect r e).run w).1
      ((endpointStatusInspect r e).run w).2.store) (hrequired : (tunnelOf w.store e).status = .required)
    (hannounces : Announces w r e) : Concludes w e := by
  rcases poll_cases w r e with ⟨hnot, -⟩ | ⟨-, result, w', hrun, htunnels, hend⟩
  · exact absurd hannounces hnot
  rcases hend with ⟨-, err, rfl⟩ | ⟨hconcludes, -⟩
  · -- the tunnel is active, though the answer is an error
    rw [hrun] at hover
    have hkept := (hover.failed err rfl).1
    have hself := tunnelOf_activated e htunnels
    rw [if_pos ⟨rfl, hrequired⟩] at hself
    rw [hself, hrequired] at hkept
    nomatch hkept
  · exact hconcludes

/-- **A poll loses no credentials exactly when**, of a required tunnel, it
does not get as far as the tunnel or finds the relation and all its
stacks. -/
theorem polls_iff : HandsOver w.store e ((endpointStatusInspect r e).run w).1
      ((endpointStatusInspect r e).run w).2.store ↔
    ((tunnelOf w.store e).status = .required → Announces w r e → Concludes w e) :=
  ⟨fun hover => concludes_of_handsOver hover, handsOver_of_concludes⟩

/-! ## Polls until one succeeds -/

/-- A poll with the outcomes of its calls. -/
structure Attempt where
  poll : Poll
  faults : Callee → List (Option String) := fun _ => []

/-- The server from which an attempt starts. -/
def Attempt.start (a : Attempt) (s : EdgeServer S) : Sys Callee (EdgeServer S) := ⟨s, a.faults⟩

theorem tunnelKept_trans {s₁ s₂ : EdgeServer S} (h : TunnelKept s s₁ e) (h' : TunnelKept s₁ s₂ e) :
    TunnelKept s s₂ e :=
  ⟨h'.1.trans h.1, h'.2.1.trans h.2.1, h'.2.2.trans h.2.2⟩

variable [Tunnel.ChiselServer S]

/-- A poll, or the clean-up of inactive tunnels between two polls. Its
snapshots leave the database as it then is. -/
inductive Turn
  | poll (a : Attempt)
  | checkTunnels (clock : Service.Clock) (dataStore : DataStore)

/-- **The polls of one environment**, and the clean-up that runs between
them. -/
def polling (e : EndpointID) : Machine (EdgeServer S) Turn where
  step s
    | .poll a => some ((endpointStatusInspect a.poll e).run (a.start s)).2.store
    | .checkTunnels clock dataStore => some { s with
        dataStore := dataStore
        reverseTunnelService := s.reverseTunnelService.checkTunnels clock }

/-- The poll is answered with an error, before it gets to the tunnel. -/
def FailsEarly (e : EndpointID) (s : EdgeServer S) (a : Attempt) : Prop :=
  (∃ err, ((endpointStatusInspect a.poll e).run (a.start s)).1 = .error err) ∧
    (Announces (a.start s) a.poll e → Concludes (a.start s) e)

/-- A poll fails early, and a clean-up comes before the timeout of the
tunnel. -/
def SparesTunnel (e : EndpointID) (s : EdgeServer S) : Turn → Prop
  | .poll a => FailsEarly e s a
  | .checkTunnels clock _ => (tunnelOf s e).expired (clock.check e) = false

/-- **One turn.** -/
theorem TunnelKept.step {s₁ s₂ : EdgeServer S} {turn : Turn} (h : TunnelKept s s₁ e) (hC : SparesTunnel e s₁ turn)
    (hstep : (polling e).step s₁ turn = some s₂) : TunnelKept s s₂ e := by
  cases turn with
  | poll a =>
    obtain rfl := Option.some.inj hstep
    obtain ⟨⟨err, herr⟩, hearly⟩ := hC
    have hover := handsOver_of_concludes (w := a.start s₁) (r := a.poll) (e := e) fun _ => hearly
    exact tunnelKept_trans h (hover.failed err herr)
  | checkTunnels clock dataStore =>
    obtain rfl := Option.some.inj hstep
    refine tunnelKept_trans h (tunnelKept_of_eq ?_)
    show (s₁.reverseTunnelService.checkTunnels clock).getTunnelDetails e = _
    rw [Service.getTunnelDetails_eq, Service.tunnel?_checkTunnels]
    cases ht : s₁.reverseTunnelService.tunnel? e with
    | none => exact (Service.getTunnelDetails_of_none ht).symm
    | some t =>
      have hexpired : t.expired (clock.check e) = false := by
        rw [← Service.getTunnelDetails_of_some ht]
        exact hC
      rw [Option.bind_some, Service.afterCheck, if_neg (by rw [hexpired]; exact Bool.false_ne_true)]
      exact (Service.getTunnelDetails_of_some ht).symm

/-- **The first poll that succeeds hands the credentials over**, after any
number of polls that fail early and of clean-ups before the timeout. -/
theorem credentials_of_polls {turns : List Turn} {a : Attempt}
    {response : EndpointStatusInspectResponse} (hrequired : (tunnelOf s e).status = .required)
    (hC : (polling e).Along (SparesTunnel e) s turns) (hrun : (polling e).run s turns = some s')
    (hok : ((endpointStatusInspect a.poll e).run (a.start s')).1 = .ok response) :
    response.port = (tunnelOf s e).port ∧ response.credentials = (tunnelOf s e).credentials ∧
      (tunnelOf ((endpointStatusInspect a.poll e).run (a.start s')).2.store e).status = .active := by
  let I : EdgeServer S → Prop := fun s₁ => TunnelKept s s₁ e
  have hI : I s := tunnelKept_of_eq rfl
  have hkept : I s' := Machine.run_invariant (fun _ _ _ h hC hstep => h.step hC hstep) hI hC hrun
  rcases poll_cases (a.start s') a.poll e with ⟨-, err, w', hend, -⟩ | ⟨hannounces, result, w', hend, -, hresult⟩
  · rw [hend] at hok
    cases hok
  · rcases hresult with ⟨-, err, rfl⟩ | ⟨hconcludes, -⟩
    · rw [hend] at hok
      cases hok
    · have hover := handsOver_of_concludes (w := a.start s') (r := a.poll) (e := e) fun _ _ => hconcludes
      obtain ⟨-, hport, hcredentials, hactive⟩ := hover.told response hok (hkept.1.trans hrequired)
      exact ⟨hport.trans hkept.2.1, hcredentials.trans hkept.2.2, hactive⟩

/-- Environment 1 with a required tunnel, and a relation that names a stack
which is not there. -/
def withDeletedStack : EdgeServer (ExtTreeMap String Tunnel.ChiselUser) where
  dataStore := {
    endpoint := ({} : Bucket Endpoint).put
      { id := 1, type := .edgeAgentOnDockerEnvironment, edgeID := "agent" }
    endpointRelation := ({} : Bucket EndpointRelation).put { endpointID := 1, edgeStacks := {5} } }
  reverseTunnelService := {
    tunnelDetailsMap := (∅ : ExtTreeMap EndpointID TunnelDetails).insert 1
      { status := .required, port := 50000, credentials := "secret" }
    chiselServer := ∅ }

/-- The same environment without the stack. -/
def withoutStack : EdgeServer (ExtTreeMap String Tunnel.ChiselUser) where
  dataStore := { withDeletedStack.dataStore with
    endpointRelation := ({} : Bucket EndpointRelation).put { endpointID := 1 } }
  reverseTunnelService := {
    tunnelDetailsMap := (∅ : ExtTreeMap EndpointID TunnelDetails).insert 1
      { status := .required, lastActivity := some 0, port := 50000, credentials := "secret" }
    chiselServer := ∅ }

/-- A poll while the database does not answer. -/
def unanswered : Attempt := ⟨⟨"agent", "", 0⟩, fun _ => [some "database not open"]⟩

/-- Ten seconds after the tunnel was required. -/
def tenSeconds : Service.Clock := ⟨fun _ => 10 * Tunnel.second, fun _ => 10 * Tunnel.second⟩

/-- The environment once the clean-up has passed over it. -/
def afterCheck : EdgeServer (ExtTreeMap String Tunnel.ChiselUser) :=
  { withoutStack with reverseTunnelService := withoutStack.reverseTunnelService.checkTunnels tenSeconds }

/-- That poll, a clean-up before the timeout, and a poll that is answered. -/
theorem credentials_of_polls_withoutStack : ∃ s' response,
    (polling 1).run withoutStack [.poll unanswered, .checkTunnels tenSeconds withoutStack.dataStore] = some s' ∧
    ((endpointStatusInspect ⟨"agent", "", 1⟩ 1).run (.faultless s')).1 = .ok response ∧
    response.credentials = "secret" := by
  have hearly : FailsEarly 1 withoutStack unanswered :=
    ⟨⟨_, rfl⟩, fun hannounces => absurd (hannounces.1 _ List.mem_cons_self) (Option.some_ne_none _)⟩
  have hrun : (polling 1).run withoutStack
      [.poll unanswered, .checkTunnels tenSeconds withoutStack.dataStore] = some afterCheck := rfl
  have hC : (polling 1).Along (SparesTunnel 1) withoutStack
      [.poll unanswered, .checkTunnels tenSeconds withoutStack.dataStore] := by
    refine ⟨hearly, fun s₁ h₁ => ⟨?_, fun _ _ => trivial⟩⟩
    obtain rfl := Option.some.inj h₁
    rfl
  have hannounces : Announces (.faultless afterCheck) ⟨"agent", "", 1⟩ 1 :=
    ⟨Sys.clear_faultless _ _ _, Sys.clear_faultless _ _ _, ⟨_, rfl, by decide, by decide⟩,
      Sys.clear_faultless _ _ _, by decide⟩
  have hconcludes : Concludes (.faultless afterCheck) 1 :=
    ⟨{ endpointID := 1 }, rfl, by decide, Sys.clear_faultless _ _ _⟩
  rcases poll_cases (.faultless afterCheck) ⟨"agent", "", 1⟩ 1 with
    ⟨hnot, -⟩ | ⟨-, result, w', hend, -, ⟨hnot, -⟩ | ⟨-, response, rfl, -⟩⟩
  · exact absurd hannounces hnot
  · exact absurd hconcludes hnot
  · have hok := congrArg Prod.fst hend
    have hrequired : (tunnelOf withoutStack 1).status = .required := by decide
    exact ⟨afterCheck, response, hrun, hok,
      (credentials_of_polls (a := ⟨⟨"agent", "", 1⟩, fun _ => []⟩) hrequired hC hrun hok).2.1⟩

/-- **The agent is answered with an error, and the credentials are gone.** -/
theorem not_polls : ¬ HandsOver withDeletedStack 1
    ((endpointStatusInspect { edgeIdentifier := "agent", now := 0 } 1).run (.faultless withDeletedStack)).1
    ((endpointStatusInspect { edgeIdentifier := "agent", now := 0 } 1).run
      (.faultless withDeletedStack)).2.store := by
  intro hover
  have hscripts : ∀ job ∈ (tunnelOf withDeletedStack 1).jobs,
      (withDeletedStack.files[job.scriptPath]?).isSome = true := by decide
  have hlet : Identifies withDeletedStack { edgeIdentifier := "agent", now := 0 } 1 :=
    ⟨_, rfl, by decide, by decide⟩
  have hannounces : Announces (.faultless withDeletedStack) { edgeIdentifier := "agent", now := 0 } 1 :=
    ⟨Sys.clear_faultless _ _ _, Sys.clear_faultless _ _ _, hlet, Sys.clear_faultless _ _ _, hscripts⟩
  have hrequired : (tunnelOf withDeletedStack 1).status = .required := by decide
  obtain ⟨relation, hrelation, hstacks, -⟩ := concludes_of_handsOver hover hrequired hannounces
  have hnamed : ∀ relation ∈ withDeletedStack.dataStore.endpointRelation.get? 1,
      (5 : EdgeStackID) ∈ relation.edgeStacks := by decide
  have hfound := hstacks 5 (hnamed relation hrelation)
  nomatch hfound

end EdgeAgent

end Portainer
