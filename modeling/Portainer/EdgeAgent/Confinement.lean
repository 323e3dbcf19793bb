import Portainer.Common.Keeps
import Portainer.EdgeAgent.Model
import Portainer.Tunnel.Helpers.EdgeJobs
/-!
# Edge agents — what a request reaches

An agent is confined if its request shows the file of a stack only where
the stack is related to its environment, changes a job or adds it to the
tunnel only where the job is assigned to it, and changes of a stack only
the status of its environment, where the stack is related. `agent_confined_iff`
says when a request is: the handlers take the identifiers of stacks and
jobs from the request and do not compare them with the relation of the
environment or the environments of the job, so all depends on what the
agent asks for.

The status poll is confined always. It lists the stacks of the relation
and the jobs of the tunnel.
-/

namespace Portainer

open Std HandlerError
open Action (Meets)
open Tunnel (EdgeServer Service setMeta)

namespace EdgeAgent

variable {S : Type} {s s' : EdgeServer S} {w : Sys Callee (EdgeServer S)} {e : EndpointID}
variable {nils : NilMaps} {r : Request}

/-- The stack is related to the environment. -/
def Related (s : EdgeServer S) (e : EndpointID) (id : EdgeStackID) : Prop :=
  ∃ relation, s.dataStore.endpointRelation.get? e = some relation ∧ id ∈ relation.edgeStacks

/-- The environment is among those of the job. -/
def Assigned (s : EdgeServer S) (e : EndpointID) (id : EdgeJobID) : Prop :=
  ∃ job, s.dataStore.edgeJob.get? id = some job ∧ e ∈ job.endpoints

/-- The stack before and after differs in the status of the environment
only. -/
def OnlyStatus (e : EndpointID) (before after : Option EdgeStack) : Prop :=
  ∃ stack stack', before = some stack ∧ after = some stack' ∧
    { stack' with status := stack.status } = stack ∧
    ∀ e', e' ≠ e → stack'.status[e']? = stack.status[e']?

/-- The jobs of a tunnel. -/
def jobsOf (s : EdgeServer S) (e : EndpointID) : List EdgeJob :=
  (s.reverseTunnelService.getTunnelDetails e).jobs

/-- The stack a request asks the file of. -/
def Request.inspected : Request → Option EdgeStackID
  | stackInspect _ _ id => some id
  | _ => none

/-- **The request of the agent is confined**: from the server `s` it ends
with the result and the server `s'`. -/
structure Confined (s : EdgeServer S) (e : EndpointID) (r : Request)
    (result : Except HandlerError Answer) (s' : EdgeServer S) : Prop where
  file : ∀ response, result = .ok (.config response) → ∀ id ∈ r.inspected, Related s e id
  job : ∀ id, s'.dataStore.edgeJob.get? id ≠ s.dataStore.edgeJob.get? id → Assigned s e id
  stack : ∀ id, s'.dataStore.edgeStack.get? id ≠ s.dataStore.edgeStack.get? id →
    Related s e id ∧ OnlyStatus e (s.dataStore.edgeStack.get? id) (s'.dataStore.edgeStack.get? id)
  tunnel : ∀ e' job, job ∈ jobsOf s' e' →
    (∃ job' ∈ jobsOf s e', job'.id = job.id) ∨ e' = e ∧ Assigned s e job.id
  panic : result ≠ .error assignmentToNilMap

/-! ## Calls, by what they answer -/

/-- The agent is let in: its environment is found, and takes the
identifier. -/
def Admits (w : Sys Callee (EdgeServer S)) (edgeIdentifier : String) (e : EndpointID) : Prop :=
  ∃ endpoint, w.store.dataStore.endpoint.get? e = some endpoint ∧
    Tunnel.authorizedEdgeEndpointOperation edgeIdentifier endpoint = none

theorem ofLookup_ne_panic {message err : String} : ofLookup message err ≠ assignmentToNilMap := by
  unfold ofLookup
  split
  · intro h
    exact absurd (congrArg HandlerError.statusCode h) (by decide : (404 : ℕ) ≠ 0)
  · intro h
    exact absurd (congrArg HandlerError.statusCode h) (by decide : (500 : ℕ) ≠ 0)

theorem internalServerError_ne_panic {message err : String} :
    internalServerError message err ≠ assignmentToNilMap := by
  intro h
  exact absurd (congrArg HandlerError.statusCode h) (by decide : (500 : ℕ) ≠ 0)

theorem forbidden_ne_panic {message err : String} : forbidden message err ≠ assignmentToNilMap := by
  intro h
  exact absurd (congrArg HandlerError.statusCode h) (by decide : (403 : ℕ) ≠ 0)

theorem badRequest_ne_panic {message err : String} : badRequest message err ≠ assignmentToNilMap := by
  intro h
  exact absurd (congrArg HandlerError.statusCode h) (by decide : (400 : ℕ) ≠ 0)

section Calls

variable {σ α : Type}

/-- **A lookup** finds what is there, or fails without a panic. -/
theorem lookup_cases (v : Sys Callee σ) (k : Callee) (missing : String) (g : σ → Option α)
    (message : String → HandlerError) (hmessage : ∀ err, message err ≠ assignmentToNilMap) :
    (∃ a, v.fault k = none ∧ g v.store = some a ∧
      ((Action.lookup k missing g).mapError message).run v = (.ok a, v.spend k)) ∨
    ((v.fault k = none → g v.store = none) ∧ ∃ err, err ≠ assignmentToNilMap ∧
      ((Action.lookup k missing g).mapError message).run v = (.error err, v.spend k)) := by
  cases hfault : v.fault k with
  | none =>
    cases hg : g v.store with
    | none =>
      refine .inr ⟨fun _ => rfl, message missing, hmessage _, ?_⟩
      refine Action.mapError_run_of_error ?_
      unfold Action.lookup
      rw [Action.bind_run, Action.query_run_of_none hfault, hg]
      rfl
    | some a =>
      refine .inl ⟨a, rfl, rfl, ?_⟩
      exact Action.mapError_run_ok.mpr (Action.lookup_run_ok_iff.mpr ⟨hfault, hg, rfl⟩)
  | some text =>
    refine .inr ⟨nofun, message text, hmessage _, ?_⟩
    refine Action.mapError_run_of_error ?_
    unfold Action.lookup
    rw [Action.bind_run, Action.query_run_of_some hfault]

/-- **A write** takes place, or fails without a panic. -/
theorem call_cases (v : Sys Callee σ) (k : Callee) (f : σ → σ)
    (message : String → HandlerError) (hmessage : ∀ err, message err ≠ assignmentToNilMap) :
    (v.fault k = none ∧
      ((Action.call k f).mapError message).run v = (.ok (), { v.spend k with store := f v.store })) ∨
    (v.fault k ≠ none ∧ ∃ err, err ≠ assignmentToNilMap ∧
      ((Action.call k f).mapError message).run v = (.error err, v.spend k)) := by
  cases hfault : v.fault k with
  | none => exact .inl ⟨rfl, Action.mapError_run_ok.mpr (Action.call_run_of_none hfault)⟩
  | some text =>
    refine .inr ⟨nofun, message text, hmessage _, ?_⟩
    exact Action.mapError_run_of_error (Action.call_run_of_some hfault)

end Calls

/-- **The check of the agent.** -/
theorem edgeEndpoint_cases (edgeIdentifier : String) (e : EndpointID) :
    (∃ endpoint, w.fault .databaseRead = none ∧ w.store.dataStore.endpoint.get? e = some endpoint ∧
      Tunnel.authorizedEdgeEndpointOperation edgeIdentifier endpoint = none ∧
      (edgeEndpoint edgeIdentifier e).run w = (.ok endpoint, w.spend .databaseRead)) ∨
    ((w.fault .databaseRead = none → ¬ Admits w edgeIdentifier e) ∧ ∃ err, err ≠ assignmentToNilMap ∧
      (edgeEndpoint edgeIdentifier e).run w = (.error err, w.spend .databaseRead)) := by
  unfold edgeEndpoint EdgeServer.endpoint
  rcases lookup_cases w .databaseRead errObjectNotFound (fun s => s.dataStore.endpoint.get? e)
      (ofLookup "Unable to find an endpoint with the specified identifier inside the database")
      fun _ => ofLookup_ne_panic with
    ⟨endpoint, hfault, hget, hrun⟩ | ⟨hnone, err, hne, hrun⟩
  · rw [Action.bind_run_of_ok hrun]
    cases hauth : Tunnel.authorizedEdgeEndpointOperation edgeIdentifier endpoint with
    | none => exact .inl ⟨endpoint, hfault, hget, hauth, rfl⟩
    | some text =>
      refine .inr ⟨fun _ hadmits => ?_, _, forbidden_ne_panic, rfl⟩
      obtain ⟨endpoint', hget', hauth'⟩ := hadmits
      obtain rfl := Option.some.inj (hget.symm.trans hget')
      rw [hauth] at hauth'
      cases hauth'
  · rw [Action.bind_run_of_error hrun]
    refine .inr ⟨fun hfault hadmits => ?_, err, hne, rfl⟩
    obtain ⟨endpoint, hget, -⟩ := hadmits
    rw [hnone hfault] at hget
    cases hget

/-! ## Requests that change nothing -/

/-- The jobs, the stacks and the tunnels are what they were. -/
structure Same (s s' : EdgeServer S) : Prop where
  job : s'.dataStore.edgeJob = s.dataStore.edgeJob
  stack : s'.dataStore.edgeStack = s.dataStore.edgeStack
  jobs : ∀ e, jobsOf s' e = jobsOf s e

theorem same_refl : Same s s := ⟨rfl, rfl, fun _ => rfl⟩

/-- A request that changes nothing, and shows no file, is confined. -/
theorem Same.confined {result : Except HandlerError Answer} (h : Same s s')
    (hpanic : result ≠ .error assignmentToNilMap)
    (hfile : ∀ response, result = .ok (.config response) → ∀ id ∈ r.inspected, Related s e id) :
    Confined s e r result s' where
  file := hfile
  job id hid := absurd (by rw [h.job]) hid
  stack id hid := absurd (by rw [h.stack]) hid
  tunnel e' job hjob := .inl ⟨job, h.jobs e' ▸ hjob, rfl⟩
  panic := hpanic

theorem Same.confined_error {err : HandlerError} (h : Same s s') (hne : err ≠ assignmentToNilMap) :
    Confined s e r (.error err) s' :=
  h.confined (fun heq => hne (Except.error.inj heq)) nofun

/-! ## The status poll -/

section Poll

/-- What the poll ends with: the same jobs, stacks and tunnels, and no
panic. -/
def PollMeets {α : Type} (s : EdgeServer S) (x : Handler (EdgeServer S) α) : Prop :=
  Meets (fun _ => False) (Same s) x (fun _ s' => Same s s')
    fun err s' => Same s s' ∧ err ≠ assignmentToNilMap

theorem pollMeets_lookup {α : Type} {k : Callee} {missing : String} {g : EdgeServer S → Option α}
    {message : String → HandlerError} (hmessage : ∀ err, message err ≠ assignmentToNilMap) :
    PollMeets s ((Action.lookup k missing g).mapError message) :=
  Meets.mapError (Meets.lookup (fun _ _ hs _ => hs) (fun _ hs _ => ⟨hs, hmessage _⟩)
    fun _ _ _ hs => ⟨hs, hmessage _⟩)

theorem pollMeets_edgeEndpoint {edgeIdentifier : String} :
    PollMeets s (edgeEndpoint edgeIdentifier e) := by
  refine Meets.bind (pollMeets_lookup fun _ => ofLookup_ne_panic) fun endpoint => ?_
  cases Tunnel.authorizedEdgeEndpointOperation edgeIdentifier endpoint with
  | none => exact Meets.pure fun _ hs => hs
  | some err => exact Meets.fail fun _ hs => ⟨hs, forbidden_ne_panic⟩

theorem pollMeets_identified {r : Poll} {endpoint : Endpoint} :
    PollMeets s (Action.ofExcept (identified r endpoint)) := by
  have herror : ∀ err, identified r endpoint = .error err → err ≠ assignmentToNilMap := by
    intro err herr
    unfold identified at herr
    split at herr
    · split at herr
      · exact Except.error.inj herr ▸ internalServerError_ne_panic
      · split at herr
        · exact Except.error.inj herr ▸ internalServerError_ne_panic
        · cases herr
    · cases herr
  cases hresult : identified r endpoint with
  | error err => exact Meets.fail fun _ hs => ⟨hs, herror err hresult⟩
  | ok endpoint => exact Meets.pure fun _ hs => hs

theorem pollMeets_schedules {jobs : List EdgeJob} : PollMeets s (schedules e jobs) := by
  induction jobs with
  | nil => exact Meets.pure fun _ hs => hs
  | cons job jobs ih =>
    refine Meets.bind (pollMeets_lookup fun _ => internalServerError_ne_panic) fun file => ?_
    exact Meets.bind ih fun rest => Meets.pure fun _ hs => hs

theorem pollMeets_edgeStacksStatus {ids : List EdgeStackID} : PollMeets s (edgeStacksStatus ids) := by
  induction ids with
  | nil => exact Meets.pure fun _ hs => hs
  | cons id ids ih =>
    refine Meets.bind (pollMeets_lookup fun _ => internalServerError_ne_panic) fun file => ?_
    exact Meets.bind ih fun rest => Meets.pure fun _ hs => hs

/-- To become active changes no jobs. -/
theorem pollMeets_activate {status : Tunnel.Status} {now : Tunnel.Time} :
    PollMeets s (activate e status now) := by
  unfold activate
  split
  · refine Meets.modify fun s' hs => ⟨hs.job, hs.stack, fun e' => ?_⟩
    rw [← hs.jobs e']
    exact Service.jobs_active
  · exact Meets.pure fun _ hs => hs

theorem pollMeets_endpointStatusInspect {r : Poll} : PollMeets s (endpointStatusInspect r e) := by
  refine Meets.bind pollMeets_edgeEndpoint fun endpoint => ?_
  refine Meets.bind pollMeets_identified fun endpoint => ?_
  refine Meets.bind (M := fun _ => Same s) (Meets.mapError (Meets.call (fun s' hs => ?_)
    fun _ _ _ hs => ⟨hs, internalServerError_ne_panic⟩)) fun _ => ?_
  · exact ⟨hs.job, hs.stack, hs.jobs⟩
  refine Meets.bind (M := fun _ => Same s) (Meets.mapError (Meets.query (fun _ hs => hs)
    fun _ _ _ hs => ⟨hs, internalServerError_ne_panic⟩)) fun settings => ?_
  refine Meets.bind (M := fun _ => Same s) (Meets.get fun _ hs => hs) fun tunnel => ?_
  refine Meets.bind pollMeets_schedules fun schedules => ?_
  refine Meets.bind pollMeets_activate fun _ => ?_
  refine Meets.bind (pollMeets_lookup fun _ => internalServerError_ne_panic) fun relation => ?_
  refine Meets.bind pollMeets_edgeStacksStatus fun edgeStacks => ?_
  exact Meets.pure fun _ hs => hs

/-- **The status poll is confined.** -/
theorem confined_statusInspect {r : Poll} (w : Sys Callee (EdgeServer S)) :
    Confined w.store e (.statusInspect r e) ((Request.handle nils (.statusInspect r e)).run w).1
      ((Request.handle nils (.statusInspect r e)).run w).2.store := by
  have hmeets : PollMeets w.store (Request.handle nils (.statusInspect r e)) :=
    Meets.bind pollMeets_endpointStatusInspect fun _ => Meets.pure fun _ hs => hs
  have hend := hmeets.ends (fun _ hk => hk.elim) same_refl
  rcases hrun : (Request.handle nils (.statusInspect r e)).run w with ⟨err | answer, w'⟩ <;>
    rw [hrun] at hend
  · exact hend.1.confined_error hend.2
  · exact Same.confined hend nofun fun _ _ _ hid => by cases hid

end Poll

/-! ## The file of a stack -/

section Inspect

variable {edgeIdentifier : String} {id : EdgeStackID}

/-- The request gets the file: no call fails, the agent is let in, and the
stack and its file are there. -/
def Request.GetsFile (w : Sys Callee (EdgeServer S)) (edgeIdentifier : String) (e : EndpointID)
    (id : EdgeStackID) : Prop :=
  w.Clear .databaseRead 2 ∧ w.Clear .fileService 1 ∧ Admits w edgeIdentifier e ∧
    ∃ stack, w.store.dataStore.edgeStack.get? id = some stack ∧ (w.store.files[stackFilePath stack]?).isSome

/-- **The request for a file** gets it, or fails, and changes nothing. -/
theorem stackInspect_cases (nils : NilMaps) (w : Sys Callee (EdgeServer S)) (edgeIdentifier : String)
    (e : EndpointID) (id : EdgeStackID) :
    (Request.GetsFile w edgeIdentifier e id ∧ ∃ response w', w'.store = w.store ∧
      (Request.handle nils (.stackInspect edgeIdentifier e id)).run w = (.ok (.config response), w')) ∨
    (¬ Request.GetsFile w edgeIdentifier e id ∧ ∃ err w', err ≠ assignmentToNilMap ∧ w'.store = w.store ∧
      (Request.handle nils (.stackInspect edgeIdentifier e id)).run w = (.error err, w')) := by
  unfold Request.handle endpointEdgeStackInspect
  rcases edgeEndpoint_cases (w := w) edgeIdentifier e with
    ⟨endpoint, hfault, hget, hauth, hrun⟩ | ⟨hnot, err, hne, hrun⟩
  swap
  · right
    refine ⟨fun hgets => ?_, err, w.spend .databaseRead, hne, rfl,
      Action.bind_run_of_error (Action.bind_run_of_error hrun)⟩
    exact hnot (Sys.clear_succ.mp (hgets.1.mono (by omega : 1 ≤ 2))).1 hgets.2.2.1
  rcases lookup_cases (w.spend .databaseRead) .databaseRead errObjectNotFound
      (fun s => s.dataStore.edgeStack.get? id)
      (ofLookup "Unable to find an edge stack with the specified identifier inside the database")
      (fun _ => ofLookup_ne_panic) with
    ⟨stack, hfault', hstack, hrun'⟩ | ⟨hnone, err, hne, hrun'⟩
  swap
  · right
    refine ⟨fun hgets => ?_, err, (w.spend .databaseRead).spend .databaseRead, hne, rfl,
      Action.bind_run_of_error ((Action.bind_run_of_ok hrun).trans (Action.bind_run_of_error hrun'))⟩
    obtain ⟨hclear, -, -, stack, hstack, -⟩ := hgets
    have hfault' := (Sys.clear_succ.mp (Sys.clear_succ.mp hclear).2).1
    exact absurd (hnone hfault') (by rw [Sys.spend_store, hstack]; nofun)
  have hclear : w.Clear .databaseRead 2 :=
    Sys.clear_succ.mpr ⟨hfault, Sys.clear_succ.mpr ⟨hfault', Sys.clear_zero⟩⟩
  have hfile : ((w.spend .databaseRead).spend .databaseRead).fault .fileService = w.fault .fileService := by
    rw [Sys.fault_spend_of_ne (by decide), Sys.fault_spend_of_ne (by decide)]
  rcases lookup_cases ((w.spend .databaseRead).spend .databaseRead) .fileService
      ("open " ++ stackFilePath stack ++ ": no such file or directory")
      (fun s => s.files[stackFilePath stack]?)
      (internalServerError "Unable to retrieve Compose file from disk")
      (fun _ => internalServerError_ne_panic) with
    ⟨content, hfault'', hcontent, hrun''⟩ | ⟨hnone, err, hne, hrun''⟩
  · left
    refine ⟨⟨hclear, ?_, ⟨endpoint, hget, hauth⟩, stack, hstack, ?_⟩,
      ⟨stack.prune, content, stack.name⟩,
      ((w.spend .databaseRead).spend .databaseRead).spend .fileService, rfl, ?_⟩
    · exact Sys.clear_succ.mpr ⟨hfile ▸ hfault'', Sys.clear_zero⟩
    · have hcontent' : w.store.files[stackFilePath stack]? = some content := hcontent
      rw [hcontent']
      rfl
    · refine Action.bind_run_of_ok ?_
      exact (Action.bind_run_of_ok hrun).trans
        ((Action.bind_run_of_ok hrun').trans (Action.bind_run_of_ok hrun''))
  · right
    refine ⟨fun hgets => ?_, err, ((w.spend .databaseRead).spend .databaseRead).spend .fileService, hne,
      rfl, Action.bind_run_of_error ((Action.bind_run_of_ok hrun).trans
        ((Action.bind_run_of_ok hrun').trans (Action.bind_run_of_error hrun'')))⟩
    obtain ⟨-, hclear', -, stack', hstack', hfile'⟩ := hgets
    obtain rfl := Option.some.inj ((show w.store.dataStore.edgeStack.get? id = some stack from
      hstack).symm.trans hstack')
    have hnone' : w.store.files[stackFilePath stack]? = none :=
      hnone (hfile.trans (Sys.clear_succ.mp hclear').1)
    rw [hnone'] at hfile'
    cases hfile'

end Inspect

/-! ## The log of a job -/

/-- Where no map is `null`, the delivery of a log is the one that the jobs
and the tunnels were modelled with. -/
theorem endpointEdgeJobsLogs_eq {edgeIdentifier fileContent : String} {id : EdgeJobID}
    (h : nils.endpoints id = false) :
    (endpointEdgeJobsLogs nils edgeIdentifier e id fileContent).run w =
      (Tunnel.endpointEdgeJobsLogs edgeIdentifier e id fileContent).run w := by
  unfold endpointEdgeJobsLogs Tunnel.endpointEdgeJobsLogs edgeEndpoint
  rw [Action.bind_run, Action.bind_run, Action.bind_run]
  rcases (Action.mapError
    (ofLookup "Unable to find an endpoint with the specified identifier inside the database")
    (EdgeServer.endpoint e)).run w with ⟨err | endpoint, w₁⟩
  · rfl
  · simp only
    cases Tunnel.authorizedEdgeEndpointOperation edgeIdentifier endpoint with
    | some err => rfl
    | none =>
      simp only [Action.pure_run, Action.require, h, if_true]
      rfl

section Logs

variable {edgeIdentifier fileContent : String} {id : EdgeJobID} {job : EdgeJob}

/-- The request gets to the job: no call fails before, the agent is let in,
and the job is there. -/
def Request.GetsJob (w : Sys Callee (EdgeServer S)) (edgeIdentifier : String) (e : EndpointID)
    (id : EdgeJobID) : Prop :=
  w.Clear .databaseRead 2 ∧ w.Clear .fileService 1 ∧ Admits w edgeIdentifier e ∧
    (w.store.dataStore.edgeJob.get? id).isSome

/-- The server with the log of the job. -/
def withLog (s : EdgeServer S) (e : EndpointID) (id : EdgeJobID) (fileContent : String) : EdgeServer S :=
  { s with files := s.files.insert (s.getEdgeJobTaskLogPath (toString id) (toString e)) fileContent }

/-- **The delivery of a log** gets to the job, stores the log and goes on
with the delivery, or fails and changes nothing. -/
theorem jobLogs_cases (nils : NilMaps) (w : Sys Callee (EdgeServer S)) (edgeIdentifier : String)
    (e : EndpointID) (id : EdgeJobID) (fileContent : String) :
    (Request.GetsJob w edgeIdentifier e id ∧ ∃ job w', w.store.dataStore.edgeJob.get? id = some job ∧
      w'.store = withLog w.store e id fileContent ∧
      w'.fault .databaseWrite = w.fault .databaseWrite ∧
      (endpointEdgeJobsLogs nils edgeIdentifier e id fileContent).run w =
        (Action.require (nils.endpoints id = false) assignmentToNilMap >>= fun _ =>
          deliver e (setMeta job e false .collected)).run w') ∨
    (¬ Request.GetsJob w edgeIdentifier e id ∧ ∃ err w', err ≠ assignmentToNilMap ∧ w'.store = w.store ∧
      (endpointEdgeJobsLogs nils edgeIdentifier e id fileContent).run w = (.error err, w')) := by
  unfold endpointEdgeJobsLogs
  rcases edgeEndpoint_cases (w := w) edgeIdentifier e with
    ⟨endpoint, hfault, hget, hauth, hrun⟩ | ⟨hnot, err, hne, hrun⟩
  swap
  · right
    refine ⟨fun hgets => ?_, err, w.spend .databaseRead, hne, rfl, Action.bind_run_of_error hrun⟩
    exact hnot (Sys.clear_succ.mp (hgets.1.mono (by omega : 1 ≤ 2))).1 hgets.2.2.1
  have hid : endpoint.id = e := Bucket.key_of_get? hget
  rcases lookup_cases (w.spend .databaseRead) .databaseRead errObjectNotFound
      (fun s => s.dataStore.edgeJob.get? id)
      (ofLookup "Unable to find an edge job with the specified identifier inside the database")
      (fun _ => ofLookup_ne_panic) with
    ⟨job, hfault', hjob, hrun'⟩ | ⟨hnone, err, hne, hrun'⟩
  swap
  · right
    refine ⟨fun hgets => ?_, err, (w.spend .databaseRead).spend .databaseRead, hne, rfl,
      (Action.bind_run_of_ok hrun).trans (Action.bind_run_of_error hrun')⟩
    obtain ⟨hclear, -, -, hsome⟩ := hgets
    have hfault' := (Sys.clear_succ.mp (Sys.clear_succ.mp hclear).2).1
    have hnone' : w.store.dataStore.edgeJob.get? id = none := hnone hfault'
    rw [hnone'] at hsome
    cases hsome
  have hclear : w.Clear .databaseRead 2 :=
    Sys.clear_succ.mpr ⟨hfault, Sys.clear_succ.mpr ⟨hfault', Sys.clear_zero⟩⟩
  have hfile : ((w.spend .databaseRead).spend .databaseRead).fault .fileService = w.fault .fileService := by
    rw [Sys.fault_spend_of_ne (by decide), Sys.fault_spend_of_ne (by decide)]
  rcases call_cases ((w.spend .databaseRead).spend .databaseRead) .fileService
      (fun s => { s with
        files := s.files.insert (w.store.getEdgeJobTaskLogPath (toString id) (toString e)) fileContent })
      (internalServerError "Unable to save task log to the filesystem")
      (fun _ => internalServerError_ne_panic) with
    ⟨hfault'', hrun''⟩ | ⟨hfault'', err, hne, hrun''⟩
  · left
    refine ⟨⟨hclear, ?_, ⟨endpoint, hget, hauth⟩, ?_⟩, job,
      { ((w.spend .databaseRead).spend .databaseRead).spend .fileService with
        store := withLog w.store e id fileContent }, hjob, rfl, ?_,
      (Action.bind_run_of_ok hrun).trans ((Action.bind_run_of_ok hrun').trans
        ((Action.bind_run_of_ok hrun'').trans ?_))⟩
    · exact Sys.clear_succ.mpr ⟨hfile ▸ hfault'', Sys.clear_zero⟩
    · have hjob' : w.store.dataStore.edgeJob.get? id = some job := hjob
      rw [hjob']
      rfl
    · show (((w.spend .databaseRead).spend .databaseRead).spend .fileService).fault .databaseWrite = _
      rw [Sys.fault_spend_of_ne (by decide), Sys.fault_spend_of_ne (by decide),
        Sys.fault_spend_of_ne (by decide)]
    · rw [hid]
      rfl
  · right
    refine ⟨fun hgets => ?_, err, ((w.spend .databaseRead).spend .databaseRead).spend .fileService, hne,
      rfl, (Action.bind_run_of_ok hrun).trans
        ((Action.bind_run_of_ok hrun').trans (Action.bind_run_of_error hrun''))⟩
    exact hfault'' (hfile.trans (Sys.clear_succ.mp hgets.2.1).1)

/-- **The delivery** puts the job in the tunnel, and in the database if it
takes it. -/
theorem deliver_run (e : EndpointID) (job : EdgeJob) (w : Sys Callee (EdgeServer S)) :
    (w.fault .databaseWrite = none ∧ ∃ w', w'.store =
        EdgeServer.mapTunnels (·.addEdgeJob e job) (EdgeServer.mapEdgeJobs (·.put job) w.store) ∧
      (deliver e job).run w = (.ok (), w')) ∨
    (w.fault .databaseWrite ≠ none ∧ ∃ err w', err ≠ assignmentToNilMap ∧
      w'.store = EdgeServer.mapTunnels (·.addEdgeJob e job) w.store ∧
      (deliver e job).run w = (.error err, w')) := by
  unfold deliver EdgeServer.updateEdgeJob EdgeServer.addEdgeJob
  rw [Action.bind_run, Action.attempt_run]
  cases hfault : w.fault .databaseWrite with
  | none =>
    rw [Action.call_run_of_none hfault]
    exact .inl ⟨rfl, _, rfl, rfl⟩
  | some text =>
    rw [Action.call_run_of_some hfault]
    exact .inr ⟨nofun, _, _, internalServerError_ne_panic, rfl, rfl⟩

/-- Every job of a tunnel after a job was added is that job, or was there. -/
theorem mem_jobs_addEdgeJob {t : Service S} {e' : EndpointID} {job' : EdgeJob}
    (h : job' ∈ ((t.addEdgeJob e job).getTunnelDetails e').jobs) :
    job' ∈ (t.getTunnelDetails e').jobs ∨ e' = e ∧ job' = job := by
  rw [Service.getTunnelDetails_addEdgeJob] at h
  split at h
  · rename_i he
    subst he
    have hmem : ∀ l : List EdgeJob, job' ∈ Service.upsert l job → job' ∈ l ∨ job' = job := by
      intro l
      induction l with
      | nil => exact fun h => .inr (List.mem_singleton.mp h)
      | cons b l ih =>
        intro h
        rw [Service.upsert_cons] at h
        split at h
        · rcases List.mem_cons.mp h with h | h
          · exact .inr h
          · exact .inl (List.mem_cons_of_mem b h)
        · rcases List.mem_cons.mp h with h | h
          · exact .inl (h ▸ List.mem_cons_self)
          · exact (ih h).imp_left (List.mem_cons_of_mem b)
    exact (hmem _ h).imp_right fun h => ⟨rfl, h⟩
  · exact .inl h

/-- The job that was added is in the tunnel. -/
theorem mem_jobs_addEdgeJob_self (t : Service S) (e : EndpointID) (job : EdgeJob) :
    ∃ job' ∈ ((t.addEdgeJob e job).getTunnelDetails e).jobs, job'.id = job.id := by
  have hat : (t.addEdgeJob e job).jobAt e job.id = some job := by
    rw [Service.jobAt_addEdgeJob]
    simp
  exact ⟨job, List.mem_of_find?_eq_some hat, rfl⟩

end Logs

/-! ## The status of a stack -/

section Status

variable {edgeIdentifier : String} {id : EdgeStackID} {payload : Inventory.UpdateStatusPayload}

/-- The request gets to the stack: no read fails, the stack is there, the
payload is valid and the agent is let in. -/
def Request.GetsStack (w : Sys Callee (EdgeServer S)) (edgeIdentifier : String) (e : EndpointID)
    (id : EdgeStackID) (payload : Inventory.UpdateStatusPayload) : Prop :=
  w.Clear .databaseRead 2 ∧ (w.store.dataStore.edgeStack.get? id).isSome ∧
    (∃ status, payload.validate = .ok (status, e)) ∧ Admits w edgeIdentifier e

/-- A payload that is valid names an environment. -/
theorem endpointID_of_validate {status : EdgeStackStatusType} {e' : EndpointID}
    (h : payload.validate = .ok (status, e')) : payload.endpointID = some e' ∧ payload.status = some status := by
  unfold Inventory.UpdateStatusPayload.validate at h
  split at h
  · cases h
  · cases h
  · rename_i hstatus hendpoint
    split at h
    · cases h
    · obtain ⟨rfl, rfl⟩ := Prod.mk.inj (Except.ok.inj h)
      exact ⟨hendpoint, hstatus⟩

/-- The stack with the status of an environment. -/
def withStatus (stack : EdgeStack) (e : EndpointID) (status : EdgeStackStatusType) (error : String) :
    EdgeStack :=
  { stack with status := stack.status.insert e ⟨status, error, e⟩ }

/-- The server with the stack. -/
def withStack (s : EdgeServer S) (stack : EdgeStack) : EdgeServer S :=
  { s with dataStore := { s.dataStore with edgeStack := s.dataStore.edgeStack.put stack } }

/-- **The status update** gets to the stack and changes it, or fails and
changes nothing. -/
theorem stackStatus_cases (nils : NilMaps) (w : Sys Callee (EdgeServer S)) (edgeIdentifier : String)
    (id : EdgeStackID) (payload : Inventory.UpdateStatusPayload) (he : payload.endpointID = some e) :
    (Request.GetsStack w edgeIdentifier e id payload ∧ ∃ stack status w',
      w.store.dataStore.edgeStack.get? id = some stack ∧ payload.status = some status ∧
      w'.store = w.store ∧ w'.fault .databaseWrite = w.fault .databaseWrite ∧
      (edgeStackStatusUpdate nils edgeIdentifier id payload).run w =
        (do
          Action.require (nils.status id = false) assignmentToNilMap
          (updateEdgeStack (withStatus stack e status payload.error)).mapError
            (internalServerError "Unable to persist the stack changes inside the database")
          return withStatus stack e status payload.error : Handler (EdgeServer S) EdgeStack).run w') ∨
    (¬ Request.GetsStack w edgeIdentifier e id payload ∧ ∃ err w', err ≠ assignmentToNilMap ∧
      w'.store = w.store ∧ (edgeStackStatusUpdate nils edgeIdentifier id payload).run w = (.error err, w')) := by
  unfold edgeStackStatusUpdate
  rcases lookup_cases w .databaseRead errObjectNotFound (fun s => s.dataStore.edgeStack.get? id)
      (ofLookup "Unable to find a stack with the specified identifier inside the database")
      (fun _ => ofLookup_ne_panic) with
    ⟨stack, hfault, hstack, hrun⟩ | ⟨hnone, err, hne, hrun⟩
  swap
  · right
    refine ⟨fun hgets => ?_, err, w.spend .databaseRead, hne, rfl, Action.bind_run_of_error hrun⟩
    obtain ⟨hclear, hsome, -⟩ := hgets
    have hnone' := hnone (Sys.clear_succ.mp (hclear.mono (by omega : 1 ≤ 2))).1
    rw [hnone'] at hsome
    cases hsome
  cases hvalid : payload.validate with
  | error text =>
    right
    refine ⟨fun hgets => ?_, badRequest "Invalid request payload" text, w.spend .databaseRead,
      badRequest_ne_panic, rfl, (Action.bind_run_of_ok hrun).trans rfl⟩
    obtain ⟨-, -, ⟨status, hok⟩, -⟩ := hgets
    rw [hvalid] at hok
    cases hok
  | ok fields =>
    obtain ⟨status, e'⟩ := fields
    obtain ⟨he', hstatus⟩ := endpointID_of_validate hvalid
    obtain rfl : e' = e := Option.some.inj (he'.symm.trans he)
    rcases edgeEndpoint_cases (w := w.spend .databaseRead) edgeIdentifier e' with
      ⟨endpoint, hfault', hget, hauth, hrun'⟩ | ⟨hnot, err, hne, hrun'⟩
    · left
      refine ⟨⟨?_, ?_, ⟨status, hvalid⟩, endpoint, hget, hauth⟩, stack, status,
        (w.spend .databaseRead).spend .databaseRead, hstack, hstatus, rfl, ?_,
        (Action.bind_run_of_ok hrun).trans (Action.bind_run_of_ok hrun')⟩
      · exact Sys.clear_succ.mpr ⟨hfault, Sys.clear_succ.mpr ⟨hfault', Sys.clear_zero⟩⟩
      · rw [hstack]
        rfl
      · rw [Sys.fault_spend_of_ne (by decide), Sys.fault_spend_of_ne (by decide)]
    · right
      refine ⟨fun hgets => ?_, err, (w.spend .databaseRead).spend .databaseRead, hne, rfl,
        (Action.bind_run_of_ok hrun).trans
          ((Action.bind_run_of_ok rfl).trans (Action.bind_run_of_error hrun'))⟩
      obtain ⟨hclear, -, -, hadmits'⟩ := hgets
      exact hnot (Sys.clear_succ.mp (Sys.clear_succ.mp hclear).2).1 hadmits'

end Status

/-! ## All requests -/

/-- **The request asks for no more than its environment is due**: if it gets
to a stack, the stack is related to its environment, or the status is what
it was or is not written; if it gets to a job, the job is assigned to its
environment, or is not written and in the tunnel already. And the map is
not `null` where it would be assigned to. -/
def Request.Obeys (nils : NilMaps) (w : Sys Callee (EdgeServer S)) : Request → Prop
  | statusInspect _ _ => True
  | stackInspect edgeIdentifier e id =>
    GetsFile w edgeIdentifier e id → Related w.store e id
  | jobLogs edgeIdentifier e id _ =>
    GetsJob w edgeIdentifier e id → nils.endpoints id = false ∧
      (Assigned w.store e id ∨
        w.fault .databaseWrite ≠ none ∧ ∃ job ∈ jobsOf w.store e, job.id = id)
  | stackStatus edgeIdentifier id payload =>
    ∀ e ∈ payload.endpointID, GetsStack w edgeIdentifier e id payload → nils.status id = false ∧
      (Related w.store e id ∨ w.fault .databaseWrite ≠ none ∨
        ∃ stack status, w.store.dataStore.edgeStack.get? id = some stack ∧
          payload.status = some status ∧ stack.status[e]? = some ⟨status, payload.error, e⟩)

section Requests

variable {edgeIdentifier fileContent : String} {payload : Inventory.UpdateStatusPayload}

theorem confined_stackInspect_iff {id : EdgeStackID} :
    Confined w.store e (.stackInspect edgeIdentifier e id)
        ((Request.handle nils (.stackInspect edgeIdentifier e id)).run w).1
        ((Request.handle nils (.stackInspect edgeIdentifier e id)).run w).2.store ↔
      (Request.stackInspect edgeIdentifier e id).Obeys nils w := by
  rcases stackInspect_cases nils w edgeIdentifier e id with
    ⟨hgets, response, w', hw', hrun⟩ | ⟨hnot, err, w', hne, hw', hrun⟩
  · rw [hrun, hw']
    constructor
    · intro h _
      exact h.file response rfl id rfl
    · intro h
      refine same_refl.confined nofun fun response' _ id' hid' => ?_
      obtain rfl := Option.some.inj hid'
      exact h hgets
  · rw [hrun, hw']
    exact ⟨fun _ hgets => absurd hgets hnot, fun _ => same_refl.confined_error hne⟩

/-- The delivery of a log, once it got to the job. -/
theorem confined_deliver_iff {id : EdgeJobID} {job : EdgeJob} {w' : Sys Callee (EdgeServer S)}
    (hjob : w.store.dataStore.edgeJob.get? id = some job) (hw' : w'.store = withLog w.store e id fileContent)
    {x : Handler (EdgeServer S) Answer}
    (hx : x.run w = (do deliver e (setMeta job e false .collected); return Answer.null).run w') :
    Confined w.store e (.jobLogs edgeIdentifier e id fileContent) (x.run w).1 (x.run w).2.store ↔
      Assigned w.store e id ∨ w'.fault .databaseWrite ≠ none ∧ ∃ job ∈ jobsOf w.store e, job.id = id := by
  have hid : job.id = id := Bucket.key_of_get? hjob
  have hid' : (setMeta job e false .collected).id = id := hid
  have htunnel : ∀ e' job', job' ∈ ((w.store.reverseTunnelService.addEdgeJob e
      (setMeta job e false .collected)).getTunnelDetails e').jobs →
      (∃ job'' ∈ jobsOf w.store e', job''.id = job'.id) ∨ e' = e ∧ job'.id = id := by
    intro e' job' hmem
    rcases mem_jobs_addEdgeJob hmem with hmem | ⟨he, rfl⟩
    · exact .inl ⟨job', hmem, rfl⟩
    · exact .inr ⟨he, hid'⟩
  rw [hx]
  rcases deliver_run e (setMeta job e false .collected) w' with
    ⟨hfault, w₁, hw₁, hrun⟩ | ⟨hfault, err, w₁, hne, hw₁, hrun⟩
  · rw [Action.bind_run_of_ok hrun, Action.pure_run]
    have hput : w₁.store.dataStore.edgeJob =
        w.store.dataStore.edgeJob.put (setMeta job e false .collected) := by
      rw [hw₁, hw']
      rfl
    have hstack : w₁.store.dataStore.edgeStack = w.store.dataStore.edgeStack := by
      rw [hw₁, hw']
      rfl
    have htunnels : w₁.store.reverseTunnelService =
        w.store.reverseTunnelService.addEdgeJob e (setMeta job e false .collected) := by
      rw [hw₁, hw']
      rfl
    constructor
    · intro h
      left
      by_contra hnot
      refine hnot (h.job id fun heq => hnot ⟨job, hjob, ?_⟩)
      -- the job that was written has the environment
      have hafter : w₁.store.dataStore.edgeJob.get? id = some (setMeta job e false .collected) := by
        rw [hput]
        exact Bucket.get?_put.trans (if_pos hid')
      have heq' : setMeta job e false .collected = job :=
        Option.some.inj (hafter.symm.trans (heq.trans hjob))
      rw [← heq']
      exact ExtTreeMap.mem_insert_self
    · intro h
      have hassigned : Assigned w.store e id := h.resolve_right fun h' => h'.1 hfault
      refine ⟨nofun, fun id' hne => ?_, fun id' hne => absurd (by rw [hstack]) hne,
        fun e' job' hmem => ?_, nofun⟩
      · have hsame : id = id' := by
          by_contra hdiff
          refine hne ?_
          rw [hput]
          exact Bucket.get?_put_of_ne fun hkey => hdiff (hid'.symm.trans hkey)
        exact hsame ▸ hassigned
      · unfold jobsOf at hmem
        rw [htunnels] at hmem
        exact (htunnel e' job' hmem).imp_right fun ⟨he, hjob'⟩ => ⟨he, hjob' ▸ hassigned⟩
  · rw [Action.bind_run_of_error hrun]
    have hdata : w₁.store.dataStore = w.store.dataStore := by
      rw [hw₁, hw']
      rfl
    have htunnels : w₁.store.reverseTunnelService =
        w.store.reverseTunnelService.addEdgeJob e (setMeta job e false .collected) := by
      rw [hw₁, hw']
      rfl
    constructor
    · intro h
      obtain ⟨job', hmem, hjob'⟩ := mem_jobs_addEdgeJob_self w.store.reverseTunnelService e
        (setMeta job e false .collected)
      have hmem' : job' ∈ jobsOf w₁.store e := by
        unfold jobsOf
        rw [htunnels]
        exact hmem
      rcases h.tunnel e job' hmem' with ⟨job'', hold, hids⟩ | ⟨-, hassigned⟩
      · exact .inr ⟨hfault, job'', hold, hids.trans (hjob'.trans hid')⟩
      · exact .inl ((hjob'.trans hid') ▸ hassigned)
    · intro h
      refine ⟨nofun, fun id' hne' => absurd (by rw [hdata]) hne', fun id' hne' => absurd (by rw [hdata]) hne',
        fun e' job' hmem => ?_, fun heq => hne (Except.error.inj heq)⟩
      unfold jobsOf at hmem
      rw [htunnels] at hmem
      rcases htunnel e' job' hmem with hold | ⟨he, hjob'⟩
      · exact .inl hold
      · rcases h with hassigned | ⟨-, job'', hold, hids⟩
        · exact .inr ⟨he, hjob' ▸ hassigned⟩
        · exact .inl ⟨job'', he ▸ hold, hids.trans hjob'.symm⟩

theorem confined_jobLogs_iff {id : EdgeJobID} :
    Confined w.store e (.jobLogs edgeIdentifier e id fileContent)
        ((Request.handle nils (.jobLogs edgeIdentifier e id fileContent)).run w).1
        ((Request.handle nils (.jobLogs edgeIdentifier e id fileContent)).run w).2.store ↔
      (Request.jobLogs edgeIdentifier e id fileContent).Obeys nils w := by
  rcases jobLogs_cases nils w edgeIdentifier e id fileContent with
    ⟨hgets, job, w', hjob, hw', hwrite, hrun⟩ | ⟨hnot, err, w', hne, hw', hrun⟩
  · have hhandle : (Request.handle nils (.jobLogs edgeIdentifier e id fileContent)).run w =
        ((Action.require (nils.endpoints id = false) assignmentToNilMap >>= fun _ =>
          deliver e (setMeta job e false .collected)) >>= fun _ => pure Answer.null).run w' := by
      rw [Action.bind_run, ← hrun]
      rfl
    by_cases hnil : nils.endpoints id = false
    · rw [Action.require, if_pos hnil] at hhandle
      refine (confined_deliver_iff hjob hw' hhandle).trans ?_
      rw [hwrite]
      exact ⟨fun h _ => ⟨hnil, h⟩, fun h => (h hgets).2⟩
    · rw [Action.require, if_neg hnil] at hhandle
      refine ⟨fun h => absurd ?_ h.panic, fun h => absurd (h hgets).1 hnil⟩
      rw [hhandle]
      rfl
  · have hhandle : (Request.handle nils (.jobLogs edgeIdentifier e id fileContent)).run w =
        (.error err, w') := Action.bind_run_of_error hrun
    rw [hhandle, hw']
    exact ⟨fun _ hgets => absurd hgets hnot, fun _ => same_refl.confined_error hne⟩

/-- A status that was there is not changed. -/
theorem withStatus_eq {stack : EdgeStack} {status : EdgeStackStatusType} {error : String}
    (h : stack.status[e]? = some ⟨status, error, e⟩) : withStatus stack e status error = stack := by
  have hstatus : stack.status.insert e ⟨status, error, e⟩ = stack.status := by
    refine ExtTreeMap.ext_getElem? fun i => ?_
    rw [ExtTreeMap.getElem?_insert]
    split
    · rename_i hi
      rw [Std.compare_eq_iff_eq] at hi
      rw [← hi, h]
    · rfl
  unfold withStatus
  rw [hstatus]

/-- The status update, once it got to the stack. -/
theorem confined_withStatus_iff {id : EdgeStackID} {stack : EdgeStack} {status : EdgeStackStatusType}
    (hstack : w.store.dataStore.edgeStack.get? id = some stack) (hstatus : payload.status = some status) :
    Confined w.store e (.stackStatus edgeIdentifier id payload)
        (.ok (.stack (withStatus stack e status payload.error)))
        (withStack w.store (withStatus stack e status payload.error)) ↔
      Related w.store e id ∨ ∃ stack status, w.store.dataStore.edgeStack.get? id = some stack ∧
        payload.status = some status ∧ stack.status[e]? = some ⟨status, payload.error, e⟩ := by
  have hid : (withStatus stack e status payload.error).id = id := Bucket.key_of_get? hstack
  have hself : (withStack w.store (withStatus stack e status payload.error)).dataStore.edgeStack.get? id =
      some (withStatus stack e status payload.error) := Bucket.get?_put.trans (if_pos hid)
  have hother : ∀ id', id' ≠ id →
      (withStack w.store (withStatus stack e status payload.error)).dataStore.edgeStack.get? id' =
        w.store.dataStore.edgeStack.get? id' :=
    fun id' hne => Bucket.get?_put_of_ne fun hkey => hne (hkey.symm.trans hid)
  constructor
  · intro h
    by_contra hnot
    rw [not_or] at hnot
    refine hnot.1 (h.stack id fun heq => hnot.2 ⟨stack, status, hstack, hstatus, ?_⟩).1
    -- the stack that was written has the status
    have heq' : withStatus stack e status payload.error = stack :=
      Option.some.inj (hself.symm.trans (heq.trans hstack))
    rw [← heq']
    exact ExtTreeMap.getElem?_insert_self
  · intro h
    refine ⟨nofun, fun id' hne => absurd rfl hne, fun id' hne => ?_, fun e' job hmem =>
      .inl ⟨job, hmem, rfl⟩, nofun⟩
    have hsame : id' = id := by
      by_contra hdiff
      exact hne (hother id' hdiff)
    subst hsame
    rcases h with hrelated | ⟨stack', status', hstack', hstatus', hthere⟩
    · refine ⟨hrelated, stack, withStatus stack e status payload.error, hstack, hself, rfl,
        fun e' he' => ?_⟩
      have hne' : compare e e' ≠ .eq := fun heq => he' (Std.compare_eq_iff_eq.mp heq).symm
      exact ExtTreeMap.getElem?_insert.trans (if_neg hne')
    · obtain rfl := Option.some.inj (hstack.symm.trans hstack')
      obtain rfl := Option.some.inj (hstatus.symm.trans hstatus')
      rw [hself, withStatus_eq hthere, hstack] at hne
      exact absurd rfl hne

theorem confined_stackStatus_iff {id : EdgeStackID} (he : payload.endpointID = some e) :
    Confined w.store e (.stackStatus edgeIdentifier id payload)
        ((Request.handle nils (.stackStatus edgeIdentifier id payload)).run w).1
        ((Request.handle nils (.stackStatus edgeIdentifier id payload)).run w).2.store ↔
      (Request.stackStatus edgeIdentifier id payload).Obeys nils w := by
  have hobeys : (Request.stackStatus edgeIdentifier id payload).Obeys nils w ↔
      (Request.GetsStack w edgeIdentifier e id payload → nils.status id = false ∧
        (Related w.store e id ∨ w.fault .databaseWrite ≠ none ∨
          ∃ stack status, w.store.dataStore.edgeStack.get? id = some stack ∧
            payload.status = some status ∧ stack.status[e]? = some ⟨status, payload.error, e⟩)) := by
    constructor
    · exact fun h => h e he
    · intro h e' he'
      obtain rfl : e = e' := Option.some.inj (he.symm.trans he')
      exact h
  rw [hobeys]
  rcases stackStatus_cases nils w edgeIdentifier id payload he with
    ⟨hgets, stack, status, w', hstack, hstatus, hw', hwrite, hrun⟩ | ⟨hnot, err, w', hne, hw', hrun⟩
  · by_cases hnil : nils.status id = false
    · rw [Action.require, if_pos hnil] at hrun
      rcases call_cases w' .databaseWrite (fun s => withStack s (withStatus stack e status payload.error))
          (internalServerError "Unable to persist the stack changes inside the database")
          (fun _ => internalServerError_ne_panic) with ⟨hfault, hcall⟩ | ⟨hfault, err, hne, hcall⟩
      · have hhandle : (Request.handle nils (.stackStatus edgeIdentifier id payload)).run w =
            (.ok (.stack (withStatus stack e status payload.error)), { w'.spend .databaseWrite with
              store := withStack w'.store (withStatus stack e status payload.error) }) :=
          Action.bind_run_of_ok (hrun.trans (Action.bind_run_of_ok hcall))
        rw [hhandle]
        simp only
        rw [hw', confined_withStatus_iff hstack hstatus]
        rw [hwrite] at hfault
        constructor
        · exact fun h _ => ⟨hnil, h.imp_right .inr⟩
        · exact fun h => (h hgets).2.imp_right fun h' => h'.resolve_left fun hne => hne hfault
      · have hhandle : (Request.handle nils (.stackStatus edgeIdentifier id payload)).run w =
            (.error err, w'.spend .databaseWrite) :=
          Action.bind_run_of_error
            (hrun.trans ((Action.bind_run_of_ok rfl).trans (Action.bind_run_of_error hcall)))
        rw [hhandle]
        simp only [Sys.spend_store]
        rw [hw']
        rw [hwrite] at hfault
        exact ⟨fun _ _ => ⟨hnil, .inr (.inl hfault)⟩, fun _ => same_refl.confined_error hne⟩
    · rw [Action.require, if_neg hnil] at hrun
      have hhandle : (Request.handle nils (.stackStatus edgeIdentifier id payload)).run w =
          (.error assignmentToNilMap, w') := Action.bind_run_of_error hrun
      rw [hhandle]
      exact ⟨fun h => absurd rfl h.panic, fun h => absurd (h hgets).1 hnil⟩
  · have hhandle : (Request.handle nils (.stackStatus edgeIdentifier id payload)).run w =
        (.error err, w') := Action.bind_run_of_error hrun
    rw [hhandle, hw']
    exact ⟨fun _ hgets => absurd hgets hnot, fun _ => same_refl.confined_error hne⟩

end Requests

/-- **A request of an Edge agent is confined exactly when** it asks for no
more than its environment is due. -/
theorem agent_confined_iff :
    (∀ e ∈ r.endpointID, Confined w.store e r ((r.handle nils).run w).1 ((r.handle nils).run w).2.store) ↔
      r.Obeys nils w := by
  cases r with
  | statusInspect r e => exact ⟨fun _ => trivial, fun _ e' he' => by
      obtain rfl := Option.some.inj he'
      exact confined_statusInspect w⟩
  | stackInspect edgeIdentifier e id =>
    rw [← confined_stackInspect_iff]
    exact ⟨fun h => h e rfl, fun h e' he' => Option.some.inj he' ▸ h⟩
  | jobLogs edgeIdentifier e id fileContent =>
    rw [← confined_jobLogs_iff]
    exact ⟨fun h => h e rfl, fun h e' he' => Option.some.inj he' ▸ h⟩
  | stackStatus edgeIdentifier id payload =>
    cases he : payload.endpointID with
    | none =>
      constructor
      · intro _ e' he'
        rw [he] at he'
        cases he'
      · intro _ e' he'
        have he'' : payload.endpointID = some e' := he'
        rw [he] at he''
        cases he''
    | some e =>
      rw [← confined_stackStatus_iff he]
      exact ⟨fun h => h e he, fun h e' he' => Option.some.inj (he.symm.trans he') ▸ h⟩

/-- An environment and a job that is assigned to none. -/
def unassigned : EdgeServer (ExtTreeMap String Tunnel.ChiselUser) where
  dataStore := {
    endpoint := ({} : Bucket Endpoint).put
      { id := 1, type := .edgeAgentOnDockerEnvironment, edgeID := "agent" }
    edgeJob := ({} : Bucket EdgeJob).put { id := 1 } }
  reverseTunnelService := { chiselServer := ∅ }

/-- **The delivery of a log does not look whose job it is**: the job is
assigned to nobody, and after the request it is assigned to the environment
and in its tunnel. -/
theorem agent_not_confined : ¬ ∀ e ∈ (Request.jobLogs "agent" 1 1 "log").endpointID,
    Confined unassigned e (.jobLogs "agent" 1 1 "log")
      (((Request.jobLogs "agent" 1 1 "log").handle {}).run (.faultless unassigned)).1
      (((Request.jobLogs "agent" 1 1 "log").handle {}).run (.faultless unassigned)).2.store := by
  intro h
  have hnone : ¬ ∃ job' ∈ jobsOf unassigned 1, job'.id = 1 := by decide
  have hsome : ∃ job ∈ jobsOf
      (((Request.jobLogs "agent" 1 1 "log").handle {}).run (.faultless unassigned)).2.store 1, job.id = 1 := by
    decide
  obtain ⟨job, hmem, hid⟩ := hsome
  rcases (h 1 rfl).tunnel 1 job hmem with ⟨job', hmem', hid'⟩ | ⟨-, job', hget, hassigned⟩
  · exact hnone ⟨job', hmem', hid'.trans hid⟩
  · have hempty : ∀ job ∈ unassigned.dataStore.edgeJob.get? 1, (1 : EndpointID) ∉ job.endpoints := by
      decide
    rw [hid] at hget
    exact hempty job' hget hassigned

end EdgeAgent

end Portainer
