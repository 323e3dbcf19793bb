import Portainer.Common.Leaves
import Portainer.Tunnel.Helpers.EdgeJobs
/-!
# Edge jobs — the tunnels hold what a restart would load

The handlers write a job to the tunnels and to the database, in one order
or the other. The two agree after every request but in two cases: a
database write fails after the tunnels were told, or an update takes an
endpoint off a job, which nothing takes out of that endpoint's tunnel.
-/

namespace Portainer

open Std

namespace Tunnel

/-! ## What an agent is told -/

/-- What a tunnel tells its agent about a job. -/
structure HeldJob where
  id : EdgeJobID
  cronExpression : String
  version : Int
  scriptPath : String
  collectLogs : Bool
  deriving DecidableEq, Repr

/-- The job as the agent of an endpoint sees it. -/
def heldJob (e : EndpointID) (job : EdgeJob) : HeldJob where
  id := job.id
  cronExpression := job.cronExpression
  version := job.version
  scriptPath := job.scriptPath
  collectLogs := (job.endpoints[e]?.getD {}).collectLogs

variable {S : Type}

/-- The jobs in the tunnel of an endpoint, as its agent sees them. -/
def Service.heldJobs (s : Service S) (e : EndpointID) : Finset HeldJob :=
  ((s.getTunnelDetails e).jobs.map (heldJob e)).toFinset

/-! ## The invariant -/

/-- The tunnels hold the jobs of the bucket, each under its identifier, and
new identifiers are fresh. -/
structure Synced (bucket : Bucket EdgeJob) (tunnels : Service S) : Prop where
  distinct : tunnels.DistinctJobs
  agree : ∀ e id, (tunnels.jobAt e id).map (heldJob e) = (storedJob bucket e id).map (heldJob e)
  bounded : bucket.Bounded
  nonneg : 0 ≤ bucket.sequence

section Invariant

variable {bucket : Bucket EdgeJob} {tunnels tunnels' : Service S} {e : EndpointID} {job : EdgeJob}

theorem mem_heldJobs (h : tunnels.DistinctJobs) {v : HeldJob} :
    v ∈ tunnels.heldJobs e ↔ ∃ id, (tunnels.jobAt e id).map (heldJob e) = some v := by
  unfold Service.heldJobs
  rw [List.mem_toFinset, List.mem_map]
  constructor
  · rintro ⟨job, hjob, rfl⟩
    exact ⟨job.id, by rw [(Service.jobAt_iff_mem h).mpr hjob, Option.map_some]⟩
  · rintro ⟨id, hid⟩
    obtain ⟨job, hjob, rfl⟩ := Option.map_eq_some_iff.mp hid
    obtain rfl := Service.id_of_jobAt hjob
    exact ⟨job, (Service.jobAt_iff_mem h).mp hjob, rfl⟩

/-- **Synced tunnels hold what a restart would load.** -/
theorem Synced.heldJobs_eq {dataStore : DataStore} (h : Synced dataStore.edgeJob tunnels)
    (server : S) : tunnels.heldJobs e = (loadEdgeJobs dataStore ⟨∅, server⟩).heldJobs e := by
  ext v
  rw [mem_heldJobs h.distinct, mem_heldJobs distinctJobs_loadEdgeJobs]
  simp only [jobAt_loadEdgeJobs, h.agree]

theorem synced_empty {server : S} : Synced {} (⟨∅, server⟩ : Service S) where
  distinct := distinctJobs_empty
  agree e id := by
    rw [storedJob_of_get?_none Bucket.get?_empty, Service.jobAt,
      Service.getTunnelDetails_of_none (by simp [Service.tunnel?])]
    rfl
  bounded i a h := by simp at h
  nonneg := Int.le_refl 0

/-- A change of the tunnels that leaves their jobs alone. -/
theorem Synced.of_jobs_eq (h : Synced bucket tunnels)
    (hjobs : ∀ e, (tunnels'.getTunnelDetails e).jobs = (tunnels.getTunnelDetails e).jobs) :
    Synced bucket tunnels' where
  distinct e := by
    rw [hjobs]
    exact h.distinct e
  agree e id := by
    rw [Service.jobAt, hjobs]
    exact h.agree e id
  bounded := h.bounded
  nonneg := h.nonneg

theorem Synced.nextSequence (h : Synced bucket tunnels) :
    Synced bucket.nextSequence tunnels where
  distinct := h.distinct
  agree := h.agree
  bounded := h.bounded.nextSequence
  nonneg := by
    have := h.nonneg
    simp only [Bucket.sequence_nextSequence]
    omega

/-- **Storing a job keeps the two in step** where it is added to the tunnels
of the endpoints that see a change. -/
theorem Synced.put (h : Synced bucket tunnels) (l : List EndpointID) (job : EdgeJob)
    (hid : job.id ≤ bucket.sequence) (hl : ∀ e ∈ l, e ∈ job.endpoints)
    (hrest : ∀ e ∉ l, (if e ∈ job.endpoints then some (heldJob e job) else none) =
      (storedJob bucket e job.id).map (heldJob e)) :
    Synced (bucket.put job) (l.foldl (fun s e => s.addEdgeJob e job) tunnels) where
  distinct := h.distinct.foldl_addEdgeJob
  agree e id := by
    rw [Service.jobAt_foldl_addEdgeJob]
    by_cases hi : job.id = id
    · subst hi
      have hget : (bucket.put job).get? job.id = some job := Bucket.get?_put_self
      rw [storedJob_of_get? hget]
      by_cases he : e ∈ l
      · rw [if_pos ⟨he, rfl⟩, if_pos (hl e he)]
      · rw [if_neg fun h => he h.1, h.agree, ← hrest e he]
        split <;> rfl
    · have hne : key job ≠ id := hi
      rw [if_neg fun h => hi h.2, h.agree, storedJob, storedJob, Bucket.get?_put_of_ne hne]
  bounded := h.bounded.put hid
  nonneg := h.nonneg

/-- A job is stored anew with all its endpoints told, and with none of the
old ones dropped. -/
theorem Synced.put_keeping (h : Synced bucket tunnels) {old : EdgeJob}
    (hget : bucket.get? job.id = some old)
    (hkeep : ∀ e ∈ old.endpoints, e ∈ job.endpoints) :
    Synced (bucket.put job)
      (job.endpoints.keys.foldl (fun s e => s.addEdgeJob e job) tunnels) := by
  refine h.put _ _ (h.bounded _ _ hget) (fun e he => ExtTreeMap.mem_keys.mp he) fun e he => ?_
  have hnew : e ∉ job.endpoints := fun hm => he (ExtTreeMap.mem_keys.mpr hm)
  rw [if_neg hnew, storedJob_of_get? hget, if_neg fun hm => hnew (hkeep e hm)]
  rfl

/-- A new job is stored, with all its endpoints told. -/
theorem Synced.put_fresh (h : Synced bucket tunnels) (hid : job.id = bucket.next) :
    Synced (bucket.nextSequence.put job)
      (job.endpoints.keys.foldl (fun s e => s.addEdgeJob e job) tunnels) := by
  refine h.nextSequence.put _ _ (Int.le_of_eq hid) (fun e he => ExtTreeMap.mem_keys.mp he) fun e he => ?_
  have hnew : e ∉ job.endpoints := fun hm => he (ExtTreeMap.mem_keys.mpr hm)
  have hfresh : bucket.nextSequence.get? job.id = none := by
    rw [Bucket.get?_nextSequence, hid]
    exact h.bounded.get?_next
  rw [if_neg hnew, storedJob_of_get?_none hfresh]
  rfl

/-- The log data of one endpoint changes: only its own tunnel has to be
told. -/
theorem Synced.put_setMeta (h : Synced bucket tunnels) (hget : bucket.get? job.id = some job)
    {collectLogs : Bool} {logsStatus : EdgeJobLogsStatus} :
    Synced (bucket.put (setMeta job e collectLogs logsStatus))
      (tunnels.addEdgeJob e (setMeta job e collectLogs logsStatus)) := by
  refine h.put [e] (setMeta job e collectLogs logsStatus) (h.bounded _ _ hget) ?_ ?_
  · intro e' he'
    obtain rfl := List.mem_singleton.mp he'
    simp [setMeta]
  · intro e' he'
    have hne : e ≠ e' := fun heq => he' (List.mem_singleton.mpr heq.symm)
    have hview : heldJob e' (setMeta job e collectLogs logsStatus) = heldJob e' job := by
      simp [heldJob, setMeta, ExtTreeMap.getElem?_insert, hne]
    have hmem : e' ∈ (setMeta job e collectLogs logsStatus).endpoints ↔ e' ∈ job.endpoints := by
      simp [setMeta, ExtTreeMap.mem_insert, hne]
    have hget' : bucket.get? (setMeta job e collectLogs logsStatus).id = some job := hget
    rw [storedJob_of_get? hget']
    simp only [hmem, hview]
    split <;> rfl

theorem Synced.delete (h : Synced bucket tunnels) {id : EdgeJobID} :
    Synced (bucket.delete id) (tunnels.removeEdgeJob id) where
  distinct := h.distinct.removeEdgeJob
  agree e id' := by
    rw [Service.jobAt_removeEdgeJob]
    by_cases hi : id = id'
    · subst hi
      rw [if_pos rfl, storedJob_of_get?_none (by rw [Bucket.get?_delete, if_pos rfl])]
    · rw [if_neg hi, h.agree, storedJob, storedJob, Bucket.get?_delete_of_ne hi]
  bounded := h.bounded.delete
  nonneg := h.nonneg

end Invariant

/-! ## The handlers -/

namespace EdgeServer

open Portainer.Action

variable {s₀ : EdgeServer S}

/-- The server's tunnels hold the jobs of its database. -/
def InStep (s : EdgeServer S) : Prop := Synced s.dataStore.edgeJob s.reverseTunnelService

/-- Nothing but files changed since. -/
def Unchanged (s₀ s : EdgeServer S) : Prop :=
  s.dataStore = s₀.dataStore ∧ s.reverseTunnelService = s₀.reverseTunnelService

theorem InStep.of_unchanged (h : s₀.InStep) {s : EdgeServer S} (hs : Unchanged s₀ s) :
    s.InStep := by
  unfold InStep
  rw [hs.1, hs.2]
  exact h

/-- The database writes are the calls that must not fail. -/
def Writes (k : Callee) : Prop := k = .databaseWrite

section Calls

variable {E : String → EdgeServer S → Prop}

theorem meets_edgeJob {id : EdgeJobID} (he : ∀ text s, Unchanged s₀ s → E text s) :
    Meets Writes (Unchanged s₀) (edgeJob id)
      (fun job s => Unchanged s₀ s ∧ s₀.dataStore.edgeJob.get? id = some job) E :=
  Meets.lookup (fun _ _ hs hget => ⟨hs, hs.1 ▸ hget⟩) (fun s hs _ => he _ s hs)
    fun _ s text hs => he text s hs

theorem meets_endpoint {id : EndpointID} (he : ∀ text s, Unchanged s₀ s → E text s) :
    Meets Writes (Unchanged s₀) (endpoint id)
      (fun ep s => Unchanged s₀ s ∧ s₀.dataStore.endpoint.get? id = some ep) E :=
  Meets.lookup (fun _ _ hs hget => ⟨hs, hs.1 ▸ hget⟩) (fun s hs _ => he _ s hs)
    fun _ s text hs => he text s hs

theorem meets_storeEdgeJobFile {identifier content : String}
    (he : ∀ text s, Unchanged s₀ s → E text s) :
    Meets Writes (Unchanged s₀) (storeEdgeJobFile identifier content)
      (fun _ => Unchanged s₀) E :=
  Meets.bind (Meets.get (Q := fun _ => Unchanged s₀) fun _ hs => hs) fun _ =>
    Meets.bind (Meets.call (Q := fun _ => Unchanged s₀) (fun _ hs => hs)
      fun _ s text hs => he text s hs) fun _ => Meets.pure fun _ hs => hs

theorem meets_fileService {f : EdgeServer S → EdgeServer S} (hf : ∀ s, Unchanged s (f s))
    (he : ∀ text s, Unchanged s₀ s → E text s) :
    Meets Writes (Unchanged s₀) (.call .fileService f) (fun _ => Unchanged s₀) E :=
  Meets.call (fun s hs => ⟨(hf s).1.trans hs.1, (hf s).2.trans hs.2⟩)
    fun _ s text hs => he text s hs

theorem meets_write {f : Bucket EdgeJob → Bucket EdgeJob} :
    Meets Writes (Unchanged s₀) (.call .databaseWrite (mapEdgeJobs f))
      (fun _ => Unchanged (mapEdgeJobs f s₀)) E :=
  Meets.call (fun s hs => ⟨by simp only [mapEdgeJobs, hs.1], hs.2⟩)
    fun hnot => absurd rfl hnot

end Calls

section Tunnels

variable {ε : Type} {E : ε → EdgeServer S → Prop}

theorem unchanged_mapTunnels {f : Service S → Service S} {s : EdgeServer S}
    (hs : Unchanged s₀ s) : Unchanged (mapTunnels f s₀) (mapTunnels f s) :=
  ⟨hs.1, congrArg f hs.2⟩

theorem meets_tunnels {f : Service S → Service S} :
    Meets Writes (Unchanged s₀) (.modify (mapTunnels f))
      (fun _ => Unchanged (mapTunnels f s₀)) E :=
  Meets.modify fun _ hs => unchanged_mapTunnels hs

theorem foldl_mapTunnels {l : List EndpointID} {job : EdgeJob} {s : EdgeServer S} :
    l.foldl (fun s e => mapTunnels (·.addEdgeJob e job) s) s =
      mapTunnels (l.foldl fun t e => t.addEdgeJob e job) s := by
  induction l generalizing s with
  | nil => rfl
  | cons e l ih => exact ih

theorem meets_addEdgeJobs {l : List EndpointID} {job : EdgeJob} :
    Meets Writes (Unchanged s₀) (l.forM fun e => .modify (mapTunnels (·.addEdgeJob e job)))
      (fun _ => Unchanged (mapTunnels (l.foldl fun t e => t.addEdgeJob e job) s₀)) E :=
  Meets.forM_modify fun s hs => by
    rw [foldl_mapTunnels]
    exact unchanged_mapTunnels hs

end Tunnels

/-! ### Create -/

theorem meets_getNextIdentifier {E : HandlerError → EdgeServer S → Prop} :
    Meets Writes (Unchanged s₀) getNextIdentifier
      (fun id s => id = s₀.dataStore.edgeJob.next ∧ Unchanged (mapEdgeJobs Bucket.nextSequence s₀) s)
      E := by
  refine Meets.bind
    (M := fun r s => (∃ u, r = .ok u) ∧ Unchanged (mapEdgeJobs Bucket.nextSequence s₀) s)
    (Meets.attempt (Meets.conseq (meets_write (E := fun _ _ => False)) (fun _ hs => hs)
      (fun u _ hs => ⟨⟨u, rfl⟩, hs⟩) fun _ _ hs => hs.elim)) fun r => ?_
  cases r with
  | ok _ => exact Meets.get fun s hs => ⟨by rw [hs.2.1]; rfl, hs.2⟩
  | error _ => exact Meets.pure fun s hs => nomatch hs.1

theorem meets_dropPlainEndpoints {ids : List EndpointID}
    {endpoints : ExtTreeMap EndpointID EdgeJobEndpointMeta} {E : String → EdgeServer S → Prop}
    (he : ∀ text s, Unchanged s₀ s → E text s) :
    Meets Writes (Unchanged s₀) (dropPlainEndpoints ids endpoints) (fun _ => Unchanged s₀) E := by
  induction ids generalizing endpoints with
  | nil => exact Meets.pure fun _ hs => hs
  | cons id ids ih =>
    exact Meets.bind (Meets.conseq (meets_endpoint he) (fun _ hs => hs) (fun _ _ hs => hs.1)
      fun _ _ hs => hs) fun _ => ih

theorem next_ne_zero (h : s₀.InStep) : s₀.dataStore.edgeJob.next ≠ 0 := by
  have := h.nonneg
  simp only [Bucket.next]
  omega

/-- A creation under a number that is drawn: it stores the job it has told
the tunnels of, or it fails with at most the number drawn. -/
theorem meets_edgeJobCreate_of {Q E : EdgeServer S → Prop} (hnext : s₀.dataStore.edgeJob.next ≠ 0)
    {payload : EdgeJobCreatePayload}
    (he : ∀ s, Unchanged s₀ s ∨ Unchanged (mapEdgeJobs Bucket.nextSequence s₀) s → E s)
    (hq : ∀ job s, job.id = s₀.dataStore.edgeJob.next →
      job.cronExpression = normalizeCronExpression payload.cronExpression →
      Unchanged (mapEdgeJobs (·.nextSequence.put job)
        (mapTunnels (job.endpoints.keys.foldl fun t e => t.addEdgeJob e job) s₀)) s → Q s) :
    Meets Writes (Unchanged s₀) (edgeJobCreate payload) (fun _ => Q) fun _ => E := by
  unfold edgeJobCreate
  split
  · exact Meets.fail fun s hs => he s (.inl hs)
  refine Meets.bind meets_getNextIdentifier fun id => ?_
  by_cases hid : id = s₀.dataStore.edgeJob.next
  · refine Meets.conseq (P := Unchanged (mapEdgeJobs Bucket.nextSequence s₀)) ?_
      (fun s hs => hs.2) (fun _ _ hs => hs) fun _ _ hs => hs
    refine Meets.bind (Meets.mapError (Q := fun _ => Q) ?_) fun _ => Meets.pure fun _ hs => hs
    refine Meets.bind (meets_dropPlainEndpoints fun _ s hs => he s (.inr hs)) fun endpoints => ?_
    refine Meets.bind (M := fun _ => Unchanged (mapEdgeJobs Bucket.nextSequence s₀))
      (Meets.require (fun _ hs _ => hs) fun s hs _ => he s (.inr hs)) fun _ => ?_
    refine Meets.bind (meets_storeEdgeJobFile fun _ s hs => he s (.inr hs)) fun scriptPath => ?_
    refine Meets.bind meets_addEdgeJobs fun _ => Meets.bind (M := fun _ => Q) ?_
      fun _ => Meets.pure fun _ hs => hs
    refine Meets.conseq (meets_write (E := fun _ => E)) (fun _ hs => hs) (fun _ s hs => ?_)
      fun _ _ hs => hs
    simp only [mapEdgeJobs, mapTunnels, hid, hnext, if_false] at hs
    refine hq _ s ?_ ?_ hs
    · rfl
    · rfl
  · exact fun w _ hw => absurd hw.1 hid

theorem meets_edgeJobCreate (h : s₀.InStep) {payload : EdgeJobCreatePayload} :
    Meets Writes (Unchanged s₀) (edgeJobCreate payload) (fun _ => InStep) fun _ => InStep := by
  have hdrawn : (mapEdgeJobs Bucket.nextSequence s₀).InStep := h.nextSequence
  refine meets_edgeJobCreate_of (next_ne_zero h) (fun s hs => ?_) fun job s hid _ hs => ?_
  · obtain hs | hs := hs
    · exact h.of_unchanged hs
    · exact hdrawn.of_unchanged hs
  · have hdone : InStep (mapEdgeJobs (·.nextSequence.put job)
        (mapTunnels (job.endpoints.keys.foldl fun t e => t.addEdgeJob e job) s₀)) :=
      Synced.put_fresh h hid
    exact hdone.of_unchanged hs

/-! ### Update -/

/-- The update leaves no endpoint behind: each endpoint of the job is listed
anew, and is an Edge endpoint. An update without a list keeps them all, and
one that lists a missing endpoint changes nothing. -/
def KeepsEndpoints (s : EdgeServer S) (id : EdgeJobID) (payload : EdgeJobUpdatePayload) : Prop :=
  ∀ job endpoints, s.dataStore.edgeJob.get? id = some job → payload.validate = none →
    payload.endpoints = some endpoints →
    (∀ e ∈ endpoints, ∃ ep, s.dataStore.endpoint.get? e = some ep) →
    ∀ e ∈ job.endpoints,
      e ∈ endpoints ∧ ∃ ep, s.dataStore.endpoint.get? e = some ep ∧ isEdge ep.type = true

theorem meets_selectEndpoints {old acc : ExtTreeMap EndpointID EdgeJobEndpointMeta}
    {ids : List EndpointID} {E : String → EdgeServer S → Prop}
    (he : ∀ text s, Unchanged s₀ s → E text s) :
    Meets Writes (Unchanged s₀) (selectEndpoints old ids acc)
      (fun m s => Unchanged s₀ s ∧
        (∀ e ∈ ids, ∃ ep, s₀.dataStore.endpoint.get? e = some ep) ∧
        (∀ e ∈ acc, e ∈ m) ∧
        ∀ e ∈ ids, ∀ ep, s₀.dataStore.endpoint.get? e = some ep → isEdge ep.type = true → e ∈ m)
      E := by
  induction ids generalizing acc with
  | nil => exact Meets.pure fun s hs => ⟨hs, by simp, fun _ hm => hm, by simp⟩
  | cons id ids ih =>
    refine Meets.bind (meets_endpoint he) fun ep => ?_
    by_cases hep : s₀.dataStore.endpoint.get? id = some ep
    · refine Meets.conseq ih (fun s hs => hs.1) ?_ fun _ _ hs => hs
      rintro m s ⟨hs, hfound, hacc, hedge⟩
      refine ⟨hs, ?_, ?_, ?_⟩
      · intro e hm
        rcases List.mem_cons.mp hm with rfl | hm
        · exact ⟨ep, hep⟩
        · exact hfound e hm
      · intro e hm
        refine hacc e ?_
        split
        · exact ExtTreeMap.mem_insert.mpr (.inr hm)
        · exact hm
      · intro e hm ep' hep' htype
        rcases List.mem_cons.mp hm with rfl | hm
        · obtain rfl := Option.some.inj (hep.symm.trans hep')
          refine hacc e ?_
          rw [if_pos htype]
          exact ExtTreeMap.mem_insert_self
        · exact hedge e hm ep' hep' htype
    · exact fun w _ hw => absurd hw.2 hep

theorem meets_updateEndpoints {job : EdgeJob} {id : EdgeJobID} {payload : EdgeJobUpdatePayload}
    (hkeep : s₀.KeepsEndpoints id payload) (hget : s₀.dataStore.edgeJob.get? id = some job)
    (hvalid : payload.validate = none) {E : String → EdgeServer S → Prop}
    (he : ∀ text s, Unchanged s₀ s → E text s) :
    Meets Writes (Unchanged s₀) (updateEndpoints job payload.endpoints)
      (fun m s => Unchanged s₀ s ∧ ∀ e ∈ job.endpoints, e ∈ m) E := by
  cases hp : payload.endpoints with
  | none => exact Meets.pure fun s hs => ⟨hs, fun _ hm => hm⟩
  | some endpoints =>
    refine Meets.conseq (meets_selectEndpoints he) (fun _ hs => hs) ?_ fun _ _ hs => hs
    rintro m s ⟨hs, hfound, -, hedge⟩
    refine ⟨hs, fun e hm => ?_⟩
    obtain ⟨hlisted, ep, hep, htype⟩ := hkeep job endpoints hget hvalid hp hfound e hm
    exact hedge e hlisted ep hep htype

theorem meets_updateEdgeSchedule {job : EdgeJob} {id : EdgeJobID} {payload : EdgeJobUpdatePayload}
    (hkeep : s₀.KeepsEndpoints id payload) (hget : s₀.dataStore.edgeJob.get? id = some job)
    (hvalid : payload.validate = none) {E : String → EdgeServer S → Prop}
    (he : ∀ text s, Unchanged s₀ s → E text s) :
    Meets Writes (Unchanged s₀) (updateEdgeSchedule job payload)
      (fun job' s => (job'.id = job.id ∧ (∀ e ∈ job.endpoints, e ∈ job'.endpoints) ∧
        job'.cronExpression = payload.cronExpression.getD job.cronExpression) ∧
        Unchanged (mapTunnels (job'.endpoints.keys.foldl fun t e => t.addEdgeJob e job') s₀) s)
      E := by
  refine Meets.bind (meets_updateEndpoints hkeep hget hvalid he) fun endpoints => ?_
  by_cases hsub : ∀ e ∈ job.endpoints, e ∈ endpoints
  · refine Meets.bind (M := fun _ => Unchanged s₀) ?_ fun _ => ?_
    · cases payload.fileContent with
      | none => exact Meets.pure fun _ hs => hs.1
      | some content =>
        exact Meets.bind (Meets.conseq (meets_storeEdgeJobFile he) (fun _ hs => hs.1)
          (fun _ _ hs => hs) fun _ _ hs => hs) fun _ => Meets.pure fun _ hs => hs
    · exact Meets.bind meets_addEdgeJobs fun _ => Meets.pure fun _ hs => ⟨⟨rfl, hsub, rfl⟩, hs⟩
  · exact fun w _ hw => absurd hw.2 hsub

/-- An update stores the job it has told the tunnels of, or it fails and
changes nothing but files. -/
theorem meets_edgeJobUpdate_of {Q E : EdgeServer S → Prop} {id : EdgeJobID}
    {payload : EdgeJobUpdatePayload} (hkeep : s₀.KeepsEndpoints id payload)
    (he : ∀ s, Unchanged s₀ s → E s)
    (hq : ∀ job job' s, s₀.dataStore.edgeJob.get? id = some job → job'.id = id →
      (∀ e ∈ job.endpoints, e ∈ job'.endpoints) →
      job'.cronExpression = payload.cronExpression.getD job.cronExpression →
      Unchanged (mapEdgeJobs (·.put job')
        (mapTunnels (job'.endpoints.keys.foldl fun t e => t.addEdgeJob e job') s₀)) s → Q s) :
    Meets Writes (Unchanged s₀) (edgeJobUpdate id payload) (fun _ => Q) fun _ => E := by
  unfold edgeJobUpdate
  cases hvalid : payload.validate with
  | some err => exact Meets.fail fun s hs => he s hs
  | none =>
    refine Meets.bind (Meets.mapError (meets_edgeJob fun _ s hs => he s hs)) fun job => ?_
    by_cases hget : s₀.dataStore.edgeJob.get? id = some job
    · refine Meets.bind (Meets.mapError (Meets.conseq
        (meets_updateEdgeSchedule hkeep hget hvalid fun _ s hs => he s hs)
        (fun s hs => hs.1) (fun _ _ hs => hs) fun _ _ hs => hs)) fun job' => ?_
      by_cases hjob : job'.id = job.id ∧ (∀ e ∈ job.endpoints, e ∈ job'.endpoints) ∧
          job'.cronExpression = payload.cronExpression.getD job.cronExpression
      · have hid : job.id = id := Bucket.key_of_get? hget
        exact Meets.mapError (Meets.conseq (meets_write (E := fun _ => E)) (fun _ hs => hs.2)
          (fun _ s hs => hq job job' s hget (hjob.1.trans hid) hjob.2.1 hjob.2.2 hs) fun _ _ hs => hs)
      · exact fun w _ hw => absurd hw.1 hjob
    · exact fun w _ hw => absurd hw.2 hget

theorem meets_edgeJobUpdate (h : s₀.InStep) {id : EdgeJobID} {payload : EdgeJobUpdatePayload}
    (hkeep : s₀.KeepsEndpoints id payload) :
    Meets Writes (Unchanged s₀) (edgeJobUpdate id payload) (fun _ => InStep) fun _ => InStep := by
  refine meets_edgeJobUpdate_of hkeep (fun s hs => h.of_unchanged hs) ?_
  intro job job' s hget hid hendpoints _ hs
  have hdone : InStep (mapEdgeJobs (·.put job')
      (mapTunnels (job'.endpoints.keys.foldl fun t e => t.addEdgeJob e job') s₀)) :=
    Synced.put_keeping h (hid ▸ hget) hendpoints
  exact hdone.of_unchanged hs

/-! ### Delete and logs -/

section Logs

variable {G : EdgeServer S → Prop} {id : EdgeJobID}

theorem meets_edgeJobDelete_of (h : ∀ s, Unchanged s₀ s → G s)
    (hdone : ∀ job, s₀.dataStore.edgeJob.get? id = some job → ∀ s,
      Unchanged (mapEdgeJobs (·.delete job.id) (mapTunnels (·.removeEdgeJob job.id) s₀)) s → G s) :
    Meets Writes (Unchanged s₀) (edgeJobDelete id) (fun _ => G) fun _ => G := by
  refine Meets.bind (Meets.mapError (meets_edgeJob fun _ s hs => h s hs)) fun job => ?_
  by_cases hget : s₀.dataStore.edgeJob.get? id = some job
  · refine Meets.bind (Meets.get (Q := fun _ => Unchanged s₀) fun _ hs => hs.1) fun folder => ?_
    refine Meets.bind (Meets.mapError (meets_fileService (fun _ => ⟨rfl, rfl⟩)
      fun _ s hs => h s hs)) fun _ => ?_
    refine Meets.bind meets_tunnels fun _ => Meets.mapError ?_
    exact Meets.conseq (meets_write (E := fun _ => G)) (fun _ hs => hs)
      (fun _ s hs => hdone job hget s hs) fun _ _ hs => hs
  · exact fun w _ hw => absurd hw.2 hget

/-- What the log requests for a job come to: the log data of one endpoint
is set, in the database and in the tunnel of the endpoint. -/
def Marks (s₀ : EdgeServer S) (id : EdgeJobID) (G : EdgeServer S → Prop) : Prop :=
  ∀ job e collectLogs logsStatus, s₀.dataStore.edgeJob.get? id = some job → ∀ s,
    Unchanged (mapEdgeJobs (·.put (setMeta job e collectLogs logsStatus))
      (mapTunnels (·.addEdgeJob e (setMeta job e collectLogs logsStatus)) s₀)) s → G s

theorem meets_edgeJobTasksCollect_of (h : ∀ s, Unchanged s₀ s → G s) (hdone : s₀.Marks id G)
    {task : EndpointID} :
    Meets Writes (Unchanged s₀) (edgeJobTasksCollect id task) (fun _ => G) fun _ => G := by
  refine Meets.bind (Meets.mapError (meets_edgeJob fun _ s hs => h s hs)) fun job => ?_
  by_cases hget : s₀.dataStore.edgeJob.get? id = some job
  · refine Meets.bind (Meets.conseq meets_tunnels (fun _ hs => hs.1) (fun _ _ hs => hs)
      fun _ _ hs => hs) fun _ => Meets.mapError ?_
    exact Meets.conseq (meets_write (E := fun _ => G)) (fun _ hs => hs)
      (fun _ s hs => hdone job _ _ _ hget s hs) fun _ _ hs => hs
  · exact fun w _ hw => absurd hw.2 hget

theorem meets_clearEdgeJobTaskLogs {edgeJobID taskID : String} {E : String → EdgeServer S → Prop}
    (he : ∀ text s, Unchanged s₀ s → E text s) :
    Meets Writes (Unchanged s₀) (clearEdgeJobTaskLogs edgeJobID taskID) (fun _ => Unchanged s₀)
      E := by
  refine Meets.bind (Meets.get (Q := fun _ => Unchanged s₀) fun _ hs => hs) fun path => ?_
  refine Meets.bind (Meets.get (Q := fun _ => Unchanged s₀) fun _ hs => hs) fun found => ?_
  refine Meets.bind (M := fun _ => Unchanged s₀)
    (Meets.require (fun _ hs _ => hs) fun s hs _ => he _ s hs) fun _ => ?_
  exact meets_fileService (fun _ => ⟨rfl, rfl⟩) he

theorem meets_edgeJobTasksClear_of (h : ∀ s, Unchanged s₀ s → G s) (hdone : s₀.Marks id G)
    {task : EndpointID} :
    Meets Writes (Unchanged s₀) (edgeJobTasksClear id task) (fun _ => G) fun _ => G := by
  refine Meets.bind (Meets.mapError (meets_edgeJob fun _ s hs => h s hs)) fun job => ?_
  by_cases hget : s₀.dataStore.edgeJob.get? id = some job
  · refine Meets.bind (Meets.mapError (Meets.conseq
      (meets_clearEdgeJobTaskLogs fun _ s hs => h s hs) (fun _ hs => hs.1)
      (fun _ _ hs => hs) fun _ _ hs => hs)) fun _ => ?_
    refine Meets.bind meets_tunnels fun _ => Meets.mapError ?_
    exact Meets.conseq (meets_write (E := fun _ => G)) (fun _ hs => hs)
      (fun _ s hs => hdone job _ _ _ hget s hs) fun _ _ hs => hs
  · exact fun w _ hw => absurd hw.2 hget

theorem meets_storeEdgeJobTaskLogFile {edgeJobID taskID content : String}
    {E : String → EdgeServer S → Prop} (he : ∀ text s, Unchanged s₀ s → E text s) :
    Meets Writes (Unchanged s₀) (storeEdgeJobTaskLogFile edgeJobID taskID content)
      (fun _ => Unchanged s₀) E :=
  Meets.bind (Meets.get (Q := fun _ => Unchanged s₀) fun _ hs => hs) fun _ =>
    meets_fileService (fun _ => ⟨rfl, rfl⟩) he

theorem meets_endpointEdgeJobsLogs_of (h : ∀ s, Unchanged s₀ s → G s) (hdone : s₀.Marks id G)
    {edgeIdentifier content : String} {e : EndpointID} :
    Meets Writes (Unchanged s₀) (endpointEdgeJobsLogs edgeIdentifier e id content)
      (fun _ => G) fun _ => G := by
  refine Meets.bind (Meets.mapError (Meets.conseq (meets_endpoint fun _ s hs => h s hs)
    (fun _ hs => hs) (fun _ _ hs => hs.1) fun _ _ hs => hs)) fun ep => ?_
  cases authorizedEdgeEndpointOperation edgeIdentifier ep with
  | some err => exact Meets.fail fun s hs => h s hs
  | none =>
    refine Meets.bind (Meets.mapError (meets_edgeJob fun _ s hs => h s hs)) fun job => ?_
    by_cases hget : s₀.dataStore.edgeJob.get? id = some job
    · refine Meets.bind (Meets.mapError (Meets.conseq
        (meets_storeEdgeJobTaskLogFile fun _ s hs => h s hs) (fun _ hs => hs.1)
        (fun _ _ hs => hs) fun _ _ hs => hs)) fun _ => ?_
      refine Meets.bind (M := fun _ => Unchanged
        (mapEdgeJobs (·.put (setMeta job ep.id false .collected)) s₀)) (Meets.attempt
        (Meets.conseq (meets_write (E := fun _ _ => False)) (fun _ hs => hs) (fun _ _ hs => hs)
          fun _ _ hs => hs.elim)) fun r => ?_
      refine Meets.bind meets_tunnels fun _ => ?_
      cases r with
      | error err => exact Meets.fail fun s hs => hdone job _ _ _ hget s hs
      | ok _ => exact Meets.pure fun s hs => hdone job _ _ _ hget s hs
    · exact fun w _ hw => absurd hw.2 hget

end Logs

theorem meets_edgeJobDelete (h : s₀.InStep) {id : EdgeJobID} :
    Meets Writes (Unchanged s₀) (edgeJobDelete id) (fun _ => InStep) fun _ => InStep := by
  refine meets_edgeJobDelete_of (fun s hs => h.of_unchanged hs) fun job _ s hs => ?_
  have hdone : InStep (mapEdgeJobs (·.delete job.id) (mapTunnels (·.removeEdgeJob job.id) s₀)) :=
    Synced.delete h
  exact hdone.of_unchanged hs

/-- The two writes of a log request, in either order. -/
theorem marks_inStep (h : s₀.InStep) {id : EdgeJobID} : s₀.Marks id InStep := by
  intro job e collectLogs logsStatus hget s hs
  have hid : job.id = id := Bucket.key_of_get? hget
  have hdone : InStep (mapEdgeJobs (·.put (setMeta job e collectLogs logsStatus))
      (mapTunnels (·.addEdgeJob e (setMeta job e collectLogs logsStatus)) s₀)) :=
    Synced.put_setMeta h (hid ▸ hget)
  exact hdone.of_unchanged hs

/-! ## Runs -/

/-- **The operation writes no job**, whatever calls fail: it is a change of
the tunnels, or a request that is refused. -/
def WritesNothing (s : EdgeServer S) : JobOp → Prop
  | .create payload => payload.validate ≠ none
  | .update id payload => payload.validate ≠ none ∨ s.dataStore.edgeJob.get? id = none
  | .delete id => s.dataStore.edgeJob.get? id = none
  | .collect id _ => s.dataStore.edgeJob.get? id = none
  | .clear id task => s.dataStore.edgeJob.get? id = none ∨
      s.files.contains (s.getEdgeJobTaskLogPath (toString id) (toString task)) = false
  | .logs edgeIdentifier e id _ => s.dataStore.edgeJob.get? id = none ∨
      ∀ ep, s.dataStore.endpoint.get? e = some ep →
        authorizedEdgeEndpointOperation edgeIdentifier ep ≠ none
  | _ => True

/-- The operation leaves the tunnels and the database in step: it writes no
job, or no database write fails and an update leaves no endpoint behind. -/
def Settles (s : EdgeServer S) (op : JobOp × Faults) : Prop :=
  s.WritesNothing op.1 ∨ (∀ o ∈ op.2 .databaseWrite, o = none) ∧
    match op.1 with
    | .update id payload => s.KeepsEndpoints id payload
    | _ => True

/-! ### Requests that are refused -/

/-- The handler fails, and leaves the server as it is. -/
def Refuses (s : EdgeServer S) (x : Handler (EdgeServer S) Unit) : Prop :=
  Leaves (fun _ => False) x s (fun _ _ => False) (· = s)

section Refused

variable {s : EdgeServer S} {id : EdgeJobID} {task : EndpointID}

theorem Refuses.after {faults : Faults} {x : Handler (EdgeServer S) Unit} (h : s.Refuses x) :
    s.after faults x = s :=
  Leaves.store (Leaves.conseq h (fun _ _ hs => hs.elim) fun _ hs => hs)
    (rfl : (⟨s, faults⟩ : Sys Callee (EdgeServer S)).store = s) fun _ hk => hk.elim

theorem refuses_missing {e : String → HandlerError} {f : EdgeJob → Handler (EdgeServer S) Unit}
    (h : s.dataStore.edgeJob.get? id = none) : s.Refuses ((edgeJob id).mapError e >>= f) :=
  Leaves.lookup_bind rfl fun job hget => by
    rw [h] at hget
    cases hget

theorem refuses_edgeJobCreate {payload : EdgeJobCreatePayload}
    (h : s.WritesNothing (.create payload)) : s.Refuses (edgeJobCreate payload) := by
  unfold edgeJobCreate
  cases hvalid : payload.validate with
  | some err => exact Leaves.fail rfl
  | none => exact absurd hvalid h

theorem refuses_edgeJobUpdate {payload : EdgeJobUpdatePayload}
    (h : s.WritesNothing (.update id payload)) : s.Refuses (edgeJobUpdate id payload) := by
  unfold edgeJobUpdate
  cases hvalid : payload.validate with
  | some err => exact Leaves.fail rfl
  | none => exact refuses_missing (h.resolve_left (not_not_intro hvalid))

theorem refuses_edgeJobTasksClear (h : s.WritesNothing (.clear id task)) :
    s.Refuses (edgeJobTasksClear id task) := by
  rcases h with hmissing | hfile
  · exact refuses_missing hmissing
  refine Leaves.lookup_bind rfl fun job _ => ?_
  refine Leaves.bind (M := fun _ _ => False) (Leaves.mapError ?_) fun _ _ hs => hs.elim
  refine Leaves.read_bind (P := (· = s.getEdgeJobTaskLogPath (toString id) (toString task)))
    (Leaves.get ⟨rfl, rfl⟩) fun path hpath => ?_
  refine Leaves.read_bind (P := (· = false)) (Leaves.get ⟨rfl, hpath ▸ hfile⟩) fun found hfound => ?_
  exact Leaves.require_bind rfl fun hfound' => absurd (hfound.symm.trans hfound') (by decide)

theorem refuses_endpointEdgeJobsLogs {edgeIdentifier content : String} {e : EndpointID}
    (h : s.WritesNothing (.logs edgeIdentifier e id content)) :
    s.Refuses (endpointEdgeJobsLogs edgeIdentifier e id content) := by
  refine Leaves.lookup_bind rfl fun ep hep => ?_
  cases hauth : authorizedEdgeEndpointOperation edgeIdentifier ep with
  | some err => exact Leaves.fail rfl
  | none => exact refuses_missing (h.resolve_right fun hall => hall ep hep hauth)

end Refused

/-! ### The step -/

/-- What a handler leaves behind, whether it answers with success or an
error. -/
theorem InStep.after {s : EdgeServer S} {faults : Faults} {x : Handler (EdgeServer S) Unit}
    (hw : ∀ o ∈ faults .databaseWrite, o = none)
    (hx : Meets Writes (Unchanged s) x (fun _ => InStep) fun _ => InStep) :
    (s.after faults x).InStep := by
  have hrel : ∀ k, Writes k → (⟨s, faults⟩ : Sys Callee (EdgeServer S)).Reliable k := by
    rintro _ rfl
    exact hw
  have hend := Meets.ends hx hrel ⟨rfl, rfl⟩
  unfold EdgeServer.after
  rcases hr : x.run ⟨s, faults⟩ with ⟨e | a, w⟩
  · rw [hr] at hend
    exact hend
  · rw [hr] at hend
    exact hend

/-- A request that is refused, or whose handler keeps the two in step. -/
theorem InStep.handled {s : EdgeServer S} {faults : Faults} {x : Handler (EdgeServer S) Unit} (h : s.InStep)
    (hx : s.Refuses x ∨ (∀ o ∈ faults .databaseWrite, o = none) ∧
      Meets Writes (Unchanged s) x (fun _ => InStep) fun _ => InStep) : (s.after faults x).InStep := by
  rcases hx with hrefused | ⟨hw, hmeets⟩
  · rw [hrefused.after]
    exact h
  · exact InStep.after hw hmeets

theorem InStep.step [ChiselServer S] {s s' : EdgeServer S} {op : JobOp × Faults} (h : s.InStep)
    (hset : s.Settles op) (hstep : (jobMachine S).step s op = some s') : s'.InStep := by
  obtain ⟨op, faults⟩ := op
  cases op with
  | create payload =>
    exact Option.some.inj hstep ▸ h.handled
      (hset.imp refuses_edgeJobCreate fun hset => ⟨hset.1, meets_edgeJobCreate h⟩)
  | update id payload =>
    exact Option.some.inj hstep ▸ h.handled
      (hset.imp refuses_edgeJobUpdate fun hset => ⟨hset.1, meets_edgeJobUpdate h hset.2⟩)
  | delete id =>
    exact Option.some.inj hstep ▸ h.handled
      (hset.imp refuses_missing fun hset => ⟨hset.1, meets_edgeJobDelete h⟩)
  | collect id task =>
    exact Option.some.inj hstep ▸ h.handled (hset.imp refuses_missing fun hset =>
      ⟨hset.1, meets_edgeJobTasksCollect_of (fun _ hs => h.of_unchanged hs) (marks_inStep h)⟩)
  | clear id task =>
    exact Option.some.inj hstep ▸ h.handled (hset.imp refuses_edgeJobTasksClear fun hset =>
      ⟨hset.1, meets_edgeJobTasksClear_of (fun _ hs => h.of_unchanged hs) (marks_inStep h)⟩)
  | logs edgeID e id content =>
    exact Option.some.inj hstep ▸ h.handled (hset.imp refuses_endpointEdgeJobsLogs fun hset =>
      ⟨hset.1, meets_endpointEdgeJobsLogs_of (fun _ hs => h.of_unchanged hs) (marks_inStep h)⟩)
  | required e c =>
    obtain ⟨r, hr, rfl⟩ := Option.map_eq_some_iff.mp hstep
    exact Synced.of_jobs_eq h fun _ => Service.jobs_required hr
  | active e now => exact Option.some.inj hstep ▸ Synced.of_jobs_eq h fun _ => Service.jobs_active
  | idle e now => exact Option.some.inj hstep ▸ Synced.of_jobs_eq h fun _ => Service.jobs_idle
  | checkTunnels clock =>
    exact Option.some.inj hstep ▸ Synced.of_jobs_eq h fun _ => Service.jobs_checkTunnels

/-- A server with endpoints, and no job or tunnel yet. -/
def start (endpoints : Bucket Endpoint) (server : S) : EdgeServer S where
  dataStore := { endpoint := endpoints }
  reverseTunnelService := ⟨∅, server⟩

end EdgeServer

/-- **The tunnels hold what a restart would load**, for every endpoint, in
every run whose operations settle. -/
theorem heldJobs_eq_of_settles [ChiselServer S] {endpoints : Bucket Endpoint} {server : S}
    {ops : List (JobOp × Faults)} {s : EdgeServer S}
    (hset : (jobMachine S).Along EdgeServer.Settles (EdgeServer.start endpoints server) ops)
    (hrun : (jobMachine S).run (EdgeServer.start endpoints server) ops = some s) (e : EndpointID) :
    s.reverseTunnelService.heldJobs e =
      (loadEdgeJobs s.dataStore ⟨∅, s.reverseTunnelService.chiselServer⟩).heldJobs e := by
  have hstart : (EdgeServer.start endpoints server).InStep := synced_empty
  have h : s.InStep := Machine.run_invariant
    (fun _ _ _ h hC hstep => EdgeServer.InStep.step h hC hstep) hstart hset hrun
  exact Synced.heldJobs_eq h _

/-! ## The two sides of the condition -/

/-- Two Edge endpoints. -/
def sampleEndpoints : Bucket Endpoint :=
  (({} : Bucket Endpoint).put { id := 7, type := .edgeAgentOnDockerEnvironment, edgeID := "e7" }).put
    { id := 8, type := .edgeAgentOnKubernetesEnvironment, edgeID := "e8" }

/-- A job for both endpoints. -/
def sampleJob : EdgeJobCreatePayload where
  method := .fileContent
  name := "prune"
  cronExpression := "0 3 * * *"
  recurring := true
  endpoints := [7, 8]
  content := "docker image prune -f"

/-- No call fails. -/
def noFaults : Faults := fun _ => []

/-- The database cannot be written. -/
def readOnly : Faults
  | .databaseWrite => [some "no space left on device"]
  | _ => []

/-- A job is created and its logs are asked for. The database cannot be
written while the logs of a missing job are asked for and a tunnel is closed. -/
theorem heldJobs_eq_of_settles_create :
    ∃ s : EdgeServer (ExtTreeMap String ChiselUser),
      (jobMachine _).run (EdgeServer.start sampleEndpoints ∅)
        [(.create sampleJob, noFaults), (.collect 1 7, noFaults), (.collect 2 7, readOnly),
          (.idle 8 0, readOnly)] = some s ∧
      s.reverseTunnelService.heldJobs 7 =
        (loadEdgeJobs s.dataStore ⟨∅, s.reverseTunnelService.chiselServer⟩).heldJobs 7 := by
  have hset : (jobMachine (ExtTreeMap String ChiselUser)).Along EdgeServer.Settles
      (EdgeServer.start sampleEndpoints ∅)
      [(.create sampleJob, noFaults), (.collect 1 7, noFaults), (.collect 2 7, readOnly),
        (.idle 8 0, readOnly)] := by
    refine ⟨.inr ⟨by simp [noFaults], trivial⟩, fun _ hstep => ?_⟩
    obtain rfl := Option.some.inj hstep
    refine ⟨.inr ⟨by simp [noFaults], trivial⟩, fun _ hstep => ?_⟩
    obtain rfl := Option.some.inj hstep
    exact ⟨.inl rfl, fun _ _ => ⟨.inl trivial, fun _ _ => trivial⟩⟩
  exact ⟨_, rfl, heldJobs_eq_of_settles hset rfl 7⟩

/-- **An endpoint taken off a job keeps the job in its tunnel.** The update
tells the tunnels of the new list, and nothing tells the others. -/
theorem heldJobs_ne_of_dropped_endpoint :
    ¬ ∀ (ops : List (JobOp × Faults)) (s : EdgeServer (ExtTreeMap String ChiselUser)),
      (jobMachine _).run (EdgeServer.start sampleEndpoints ∅) ops = some s →
      ∀ e, s.reverseTunnelService.heldJobs e =
        (loadEdgeJobs s.dataStore ⟨∅, s.reverseTunnelService.chiselServer⟩).heldJobs e := by
  intro h
  have hdrop := h [(.create sampleJob, noFaults), (.update 1 { endpoints := some [7] }, noFaults)] _
    rfl 8
  exact absurd hdrop (by decide)

end Tunnel

end Portainer
