import Portainer.Tunnel.Helpers.Service
import Portainer.Tunnel.Model.EdgeJobs
/-!
# Edge jobs — the jobs of a tunnel

A tunnel's job list is read as a partial map from job identifiers:
`jobAt`. The database gives a map of the same shape, `storedJob`. Each
change of either is one equation here.
-/

namespace Portainer

open Std

namespace Tunnel

namespace Service

variable {S : Type} {s : Service S} {e e' : EndpointID} {job : EdgeJob} {id : EdgeJobID}

/-! ## Replacing or appending -/

@[simp] theorem upsert_nil : upsert [] job = [job] := rfl

theorem upsert_cons {b : EdgeJob} {l : List EdgeJob} :
    upsert (b :: l) job = if b.id = job.id then job :: l else b :: upsert l job := by
  unfold upsert
  rw [List.findIdx?_cons]
  by_cases h : b.id = job.id
  · simp [h]
  · simp only [beq_eq_false_iff_ne.mpr h, if_neg h, Bool.false_eq_true, if_false]
    cases l.findIdx? (fun existingJob => existingJob.id == job.id) <;> simp

/-- **The job is found under its identifier**, and every other under its
own. -/
theorem find?_upsert {l : List EdgeJob} : (upsert l job).find? (fun j => j.id == id) =
    if job.id = id then some job else l.find? (fun j => j.id == id) := by
  induction l with
  | nil =>
    by_cases h : job.id = id <;> simp [h]
  | cons b l ih =>
    rw [upsert_cons]
    by_cases hb : b.id = job.id
    · rw [if_pos hb]
      by_cases h : job.id = id
      · simp [h]
      · have hb' : ¬ b.id = id := fun h' => h (hb ▸ h')
        simp [h, hb']
    · rw [if_neg hb, List.find?_cons, List.find?_cons, ih]
      by_cases hbi : b.id = id
      · have h : ¬ job.id = id := fun h' => hb (hbi.trans h'.symm)
        simp [hbi, h]
      · simp only [beq_eq_false_iff_ne.mpr hbi]

theorem ids_upsert (l : List EdgeJob) (job : EdgeJob) :
    (upsert l job).map (·.id) = l.map (·.id) ∨
      job.id ∉ l.map (·.id) ∧ (upsert l job).map (·.id) = l.map (·.id) ++ [job.id] := by
  induction l with
  | nil => exact .inr ⟨by simp, by simp⟩
  | cons b l ih =>
    rw [upsert_cons]
    by_cases hb : b.id = job.id
    · rw [if_pos hb]
      exact .inl (by simp [hb])
    · rw [if_neg hb]
      rcases ih with h | ⟨hn, h⟩
      · exact .inl (by simp only [List.map_cons, h])
      · refine .inr ⟨?_, by simp only [List.map_cons, h, List.cons_append]⟩
        rw [List.map_cons, List.mem_cons, not_or]
        exact ⟨Ne.symm hb, hn⟩

theorem nodup_ids_upsert {l : List EdgeJob} (h : (l.map (·.id)).Nodup) :
    ((upsert l job).map (·.id)).Nodup := by
  rcases ids_upsert l job with heq | ⟨hn, heq⟩
  · rw [heq]
    exact h
  · rw [heq, List.nodup_append]
    refine ⟨h, List.nodup_singleton _, ?_⟩
    rintro i hi j hj rfl
    exact hn (List.mem_singleton.mp hj ▸ hi)

/-! ## The jobs of a tunnel -/

/-- The job a tunnel holds under an identifier. -/
def jobAt (s : Service S) (e : EndpointID) (id : EdgeJobID) : Option EdgeJob :=
  (s.getTunnelDetails e).jobs.find? fun job => job.id == id

/-- No tunnel holds two jobs of one identifier. -/
def DistinctJobs (s : Service S) : Prop :=
  ∀ e, ((s.getTunnelDetails e).jobs.map (·.id)).Nodup

theorem jobAt_iff_mem (h : s.DistinctJobs) :
    s.jobAt e job.id = some job ↔ job ∈ (s.getTunnelDetails e).jobs := by
  have hnodup := h e
  unfold jobAt
  generalize (s.getTunnelDetails e).jobs = l at hnodup
  induction l with
  | nil => simp
  | cons b l ih =>
    rw [List.map_cons, List.nodup_cons] at hnodup
    rw [List.find?_cons, List.mem_cons]
    by_cases hb : b.id = job.id
    · simp only [hb, beq_self_eq_true, Option.some.injEq]
      constructor
      · exact fun h => .inl h.symm
      · rintro (h | h)
        · exact h.symm
        · exact absurd (List.mem_map.mpr ⟨job, h, hb.symm⟩) hnodup.1
    · simp only [beq_eq_false_iff_ne.mpr hb]
      refine (ih hnodup.2).trans ⟨fun h => .inr h, ?_⟩
      rintro (rfl | h)
      · exact absurd rfl hb
      · exact h

theorem id_of_jobAt (h : s.jobAt e id = some job) : job.id = id := by
  have := List.find?_some h
  exact beq_iff_eq.mp this

theorem getTunnelDetails_addEdgeJob : (s.addEdgeJob e job).getTunnelDetails e' =
    if e = e' then { s.getTunnelDetails e with jobs := upsert (s.getTunnelDetails e).jobs job }
    else s.getTunnelDetails e' := by
  rw [getTunnelDetails_eq, tunnel?_addEdgeJob]
  split <;> rfl

theorem jobAt_addEdgeJob : (s.addEdgeJob e job).jobAt e' id =
    if e = e' ∧ job.id = id then some job else s.jobAt e' id := by
  unfold jobAt
  rw [getTunnelDetails_addEdgeJob]
  by_cases he : e = e'
  · subst he
    simp only [if_true, find?_upsert, true_and]
  · simp only [he, false_and, if_false]

theorem DistinctJobs.addEdgeJob (h : s.DistinctJobs) : (s.addEdgeJob e job).DistinctJobs := by
  intro e₁
  rw [getTunnelDetails_addEdgeJob]
  split
  · exact nodup_ids_upsert (h e)
  · exact h e₁

theorem jobs_removeEdgeJob : ((s.removeEdgeJob id).getTunnelDetails e).jobs =
    (s.getTunnelDetails e).jobs.filter fun job => job.id != id := by
  rw [getTunnelDetails_eq, tunnel?_removeEdgeJob, getTunnelDetails_eq]
  cases s.tunnel? e <;> rfl

theorem jobAt_removeEdgeJob {id' : EdgeJobID} : (s.removeEdgeJob id).jobAt e id' =
    if id = id' then none else s.jobAt e id' := by
  unfold jobAt
  rw [jobs_removeEdgeJob, List.find?_filter]
  by_cases h : id = id'
  · subst h
    rw [if_pos rfl, List.find?_eq_none]
    intro job _
    simp
  · rw [if_neg h]
    refine congrArg (fun p => List.find? p _) (funext fun job => ?_)
    by_cases hj : job.id = id'
    · simp [hj, Ne.symm h]
    · simp [hj]

theorem DistinctJobs.removeEdgeJob (h : s.DistinctJobs) : (s.removeEdgeJob id).DistinctJobs := by
  intro e
  rw [jobs_removeEdgeJob]
  exact (h e).sublist (List.filter_sublist.map _)

/-- The loop that adds one job to several tunnels. -/
theorem jobAt_foldl_addEdgeJob {l : List EndpointID} :
    (l.foldl (fun s e => s.addEdgeJob e job) s).jobAt e id =
      if e ∈ l ∧ job.id = id then some job else s.jobAt e id := by
  induction l generalizing s with
  | nil => simp
  | cons k l ih =>
    rw [List.foldl_cons, ih, jobAt_addEdgeJob]
    by_cases hid : job.id = id
    · by_cases hl : e ∈ l
      · simp [hid, hl]
      · by_cases hk : k = e
        · simp [hid, hk]
        · simp [hid, hl, hk, Ne.symm hk]
    · simp [hid]

theorem DistinctJobs.foldl_addEdgeJob {l : List EndpointID} (h : s.DistinctJobs) :
    (l.foldl (fun s e => s.addEdgeJob e job) s).DistinctJobs := by
  induction l generalizing s with
  | nil => exact h
  | cons k l ih => exact ih h.addEdgeJob

/-! ## The changes of a tunnel keep its jobs -/

theorem jobs_active {now : Time} :
    ((s.setTunnelStatusToActive e now).getTunnelDetails e').jobs = (s.getTunnelDetails e').jobs := by
  rw [getTunnelDetails_eq, tunnel?_active]
  split
  · rename_i he
    rw [Option.getD_some, he]
    rfl
  · rfl

variable [ChiselServer S]

theorem jobs_idle {now : Time} :
    ((s.setTunnelStatusToIdle e now).getTunnelDetails e').jobs = (s.getTunnelDetails e').jobs := by
  rw [getTunnelDetails_eq, tunnel?_idle]
  split
  · rename_i he
    rw [Option.getD_some, he]
    rfl
  · rfl

/-- A record is dropped only when it carries no jobs. -/
theorem jobs_checkTunnels {clock : Clock} :
    ((s.checkTunnels clock).getTunnelDetails e).jobs = (s.getTunnelDetails e).jobs := by
  rw [getTunnelDetails_eq, tunnel?_checkTunnels, getTunnelDetails_eq]
  cases s.tunnel? e with
  | none => rfl
  | some t =>
    rw [Option.bind_some, Option.getD_some, afterCheck]
    by_cases hx : t.expired (clock.check e) = true
    · rw [if_pos hx]
      by_cases hj : t.jobs.length > 0
      · rw [if_pos hj]
        rfl
      · rw [if_neg hj]
        have hnil : t.jobs = [] := List.eq_nil_of_length_eq_zero (by omega)
        rw [hnil]
        rfl
    · rw [if_neg hx]
      rfl

theorem jobs_required {s' : Service S} {c : RequiredCall} {r : Except String Unit}
    (h : s.setTunnelStatusToRequired e c = some (r, s')) :
    (s'.getTunnelDetails e').jobs = (s.getTunnelDetails e').jobs := by
  have htouch : ∀ port, ((s.touch e (requiredTunnel (s.getTunnelDetails e) port c.now)).getTunnelDetails
      e').jobs = (s.getTunnelDetails e').jobs := fun port => by
    cases ht : s.tunnel? e with
    | none => rw [touch_of_none ht]
    | some t =>
      rw [touch_of_some ht, getTunnelDetails_eq, tunnel?_set]
      split
      · rename_i he
        rw [Option.getD_some, he]
        rfl
      · rfl
  rcases setTunnelStatusToRequired_cases h with ⟨-, -, rfl⟩ | ⟨-, -, rfl⟩ |
    ⟨endpoint, port, -, -, -, ⟨_, -, -, rfl⟩ | ⟨-, -, ⟨_, -, -, hs'⟩ | ⟨credentials, -, -, hs'⟩⟩⟩
  · rfl
  · rfl
  · exact htouch port
  · rw [← htouch port, getTunnelDetails_eq, tunnel?, hs']
    rfl
  · rw [getTunnelDetails_eq, hs']
    split
    · rename_i he
      rw [Option.getD_some, he]
      rfl
    · rfl

end Service

/-! ## The jobs of the database -/

/-- The job the database has for an endpoint under an identifier. -/
def storedJob (bucket : Bucket EdgeJob) (e : EndpointID) (id : EdgeJobID) : Option EdgeJob :=
  (bucket.get? id).filter fun job => job.endpoints.contains e

theorem storedJob_eq_some {bucket : Bucket EdgeJob} {e : EndpointID} {id : EdgeJobID}
    {job : EdgeJob} :
    storedJob bucket e id = some job ↔ bucket.get? id = some job ∧ e ∈ job.endpoints := by
  rw [storedJob, Option.filter_eq_some_iff, ExtTreeMap.contains_iff_mem]

theorem storedJob_of_get? {bucket : Bucket EdgeJob} {e : EndpointID} {id : EdgeJobID}
    {job : EdgeJob} (h : bucket.get? id = some job) :
    storedJob bucket e id = if e ∈ job.endpoints then some job else none := by
  unfold storedJob
  rw [h, Option.filter_some]
  simp only [ExtTreeMap.contains_iff_mem]

theorem storedJob_of_get?_none {bucket : Bucket EdgeJob} {e : EndpointID} {id : EdgeJobID}
    (h : bucket.get? id = none) : storedJob bucket e id = none := by
  rw [storedJob, h, Option.filter_none]

variable {S : Type} {s : Service S} {e : EndpointID}

theorem jobAt_foldl_load {l : List EdgeJob} (hl : (l.map (·.id)).Nodup) {id : EdgeJobID} :
    (l.foldl (fun tunnels edgeJob => edgeJob.endpoints.keys.foldl
        (fun tunnels endpointID => tunnels.addEdgeJob endpointID edgeJob) tunnels) s).jobAt e id =
      ((l.find? fun job => job.id == id && job.endpoints.contains e).orElse
        fun _ => s.jobAt e id) := by
  induction l generalizing s with
  | nil => simp
  | cons b l ih =>
    rw [List.map_cons, List.nodup_cons] at hl
    rw [List.foldl_cons, ih hl.2, Service.jobAt_foldl_addEdgeJob, List.find?_cons]
    by_cases hb : b.id = id
    · have hnone : l.find? (fun job => job.id == id && job.endpoints.contains e) = none := by
        rw [List.find?_eq_none]
        intro job hjob
        have hne : job.id ≠ id := fun h => hl.1 (List.mem_map.mpr ⟨job, hjob, h.trans hb.symm⟩)
        simp [hne]
      by_cases he : e ∈ b.endpoints
      · have hk : e ∈ b.endpoints.keys := ExtTreeMap.mem_keys.mpr he
        have hc : b.endpoints.contains e = true := ExtTreeMap.contains_iff_mem.mpr he
        simp [hnone, hb, hc, hk]
      · have hk : e ∉ b.endpoints.keys := fun h => he (ExtTreeMap.mem_keys.mp h)
        have hc : b.endpoints.contains e = false := by
          rw [Bool.eq_false_iff]
          exact fun h => he (ExtTreeMap.contains_iff_mem.mp h)
        simp [hnone, hc, hk]
    · have hb' : (b.id == id) = false := beq_eq_false_iff_ne.mpr hb
      simp [hb, hb']

theorem distinctJobs_foldl_load {l : List EdgeJob} (h : s.DistinctJobs) :
    (l.foldl (fun tunnels edgeJob => edgeJob.endpoints.keys.foldl
      (fun tunnels endpointID => tunnels.addEdgeJob endpointID edgeJob) tunnels) s).DistinctJobs := by
  induction l generalizing s with
  | nil => exact h
  | cons b l ih => exact ih h.foldl_addEdgeJob

/-- The jobs of a bucket have distinct identifiers. -/
theorem nodup_ids_all {bucket : Bucket EdgeJob} : (bucket.all.map (·.id)).Nodup :=
  bucket.nodup_keys_all

theorem distinctJobs_empty {server : S} : (⟨∅, server⟩ : Service S).DistinctJobs := by
  intro e
  rw [Service.getTunnelDetails_of_none (by simp [Service.tunnel?])]
  exact List.nodup_nil

/-- **A restart loads the jobs of the database.** -/
theorem jobAt_loadEdgeJobs {dataStore : DataStore} {server : S} {id : EdgeJobID} :
    (loadEdgeJobs dataStore ⟨∅, server⟩).jobAt e id = storedJob dataStore.edgeJob e id := by
  rw [loadEdgeJobs, jobAt_foldl_load nodup_ids_all]
  have hempty : (⟨∅, server⟩ : Service S).jobAt e id = none := by
    rw [Service.jobAt, Service.getTunnelDetails_of_none (by simp [Service.tunnel?])]
    rfl
  rw [hempty]
  cases hf : dataStore.edgeJob.all.find? (fun job => job.id == id && job.endpoints.contains e) with
  | some job =>
    have hp := List.find?_some hf
    rw [Bool.and_eq_true, beq_iff_eq, ExtTreeMap.contains_iff_mem] at hp
    have hget := Bucket.mem_all.mp (List.mem_of_find?_eq_some hf)
    have hid : dataStore.edgeJob.get? id = some job := hp.1 ▸ hget
    rw [storedJob_of_get? hid, if_pos hp.2]
    rfl
  | none =>
    cases hs : storedJob dataStore.edgeJob e id with
    | none => rfl
    | some job =>
      obtain ⟨hget, he⟩ := storedJob_eq_some.mp hs
      have := List.find?_eq_none.mp hf job (Bucket.mem_all_of_get? hget)
      rw [ExtTreeMap.contains_iff_mem.mpr he] at this
      have hid : job.id = id := Bucket.key_of_get? hget
      simp [hid] at this

theorem distinctJobs_loadEdgeJobs {dataStore : DataStore} {server : S} :
    (loadEdgeJobs dataStore (⟨∅, server⟩ : Service S)).DistinctJobs :=
  distinctJobs_foldl_load distinctJobs_empty

end Tunnel

end Portainer
