import Portainer.Tunnel.Schedules
/-!
# Edge jobs — the cron expressions that agents are told

A cron expression has five fields, or six with the seconds in front. The
creation of a job splits the expression at single spaces and drops the
first piece of six, so two spaces in a row count as a field; an update
stores what it is given.

`cronExpression_of_normal`: where creations come with single spaces and
updates with five fields, every job, in the database and in the tunnels,
has the five-field form of the expression submitted last.
-/

namespace Portainer

open Std

namespace Tunnel

/-! ## Cron expressions -/

/-- The fields of an expression. -/
def cronFields (e : String) : List String := (splitSpaces e).filter (· ≠ "")

/-- The five-field form: the last five fields, with single spaces between
them. -/
def fiveFieldForm (e : String) : String :=
  " ".intercalate ((cronFields e).drop ((cronFields e).length - 5))

/-- Five or six fields with spaces between them. -/
def FiveOrSixFields (e : String) : Prop :=
  ((cronFields e).length = 5 ∨ (cronFields e).length = 6) ∧
    e.toList.head? ≠ some ' ' ∧ e.toList.getLast? ≠ some ' '

/-- No two spaces in a row, and none at the ends. -/
def SingleSpaced (e : String) : Prop := ∀ s ∈ splitSpaces e, s ≠ ""

instance (e : String) : Decidable (SingleSpaced e) :=
  inferInstanceAs (Decidable (∀ s ∈ splitSpaces e, s ≠ ""))

instance (e : String) : Decidable (FiveOrSixFields e) := by
  unfold FiveOrSixFields
  infer_instance

theorem cronFields_of_singleSpaced {e : String} (h : SingleSpaced e) : cronFields e = splitSpaces e :=
  List.filter_eq_self.mpr fun s hs => by simpa using h s hs

theorem intercalate_splitSpaces (e : String) : " ".intercalate (splitSpaces e) = e := by
  have hmap : ((e.toList.splitOn ' ').map String.ofList).map String.toList = e.toList.splitOn ' ' := by
    rw [List.map_map]
    exact (List.map_congr_left fun _ _ => String.toList_ofList).trans (List.map_id _)
  have hlist : (" ".intercalate (splitSpaces e)).toList = e.toList := by
    rw [String.toList_intercalate, splitSpaces, hmap]
    exact List.intercalate_splitOn ' '
  exact String.toList_inj.mp hlist

/-- What a creation stores is the five-field form, if there are five or six
fields with single spaces between them. -/
theorem normalizeCronExpression_of_singleSpaced {e : String} (h : SingleSpaced e)
    (hlength : (splitSpaces e).length = 5 ∨ (splitSpaces e).length = 6) :
    normalizeCronExpression e = fiveFieldForm e := by
  rw [normalizeCronExpression, fiveFieldForm, cronFields_of_singleSpaced h]
  obtain hfive | hsix := hlength
  · have hne : ¬ (splitSpaces e).length = 6 := by omega
    have hdrop : (splitSpaces e).length - 5 = 0 := by omega
    rw [if_neg hne, hdrop, List.drop_zero]
  · have hdrop : (splitSpaces e).length - 5 = 1 := by omega
    rw [if_pos hsix, hdrop, List.drop_one]

/-- Five fields with single spaces between them are a five-field form. -/
theorem fiveFieldForm_of_singleSpaced {e : String} (h : SingleSpaced e)
    (hfive : (splitSpaces e).length = 5) : fiveFieldForm e = e := by
  have hdrop : (splitSpaces e).length - 5 = 0 := by omega
  rw [fiveFieldForm, cronFields_of_singleSpaced h, hdrop, List.drop_zero, intercalate_splitSpaces]

/-! ## The expression submitted last -/

/-- For each job, the expression submitted last. -/
abbrev Submissions := EdgeJobID → Option String

variable {S : Type}

/-- The request is answered with success. -/
def accepted (s : EdgeServer S) (faults : Faults) (x : Handler (EdgeServer S) Unit) : Bool :=
  (x.run ⟨s, faults⟩).1.isOk

/-- What an operation submits: a creation that is accepted, the expression
of its job; an update that is accepted, the one it comes with. -/
def submit (s : EdgeServer S) (op : JobOp × Faults) (last : Submissions) : Submissions :=
  match op with
  | (.create payload, faults) =>
    if accepted s faults (edgeJobCreate payload) then
      Function.update last s.dataStore.edgeJob.next (some payload.cronExpression)
    else last
  | (.update id payload, faults) =>
    if accepted s faults (edgeJobUpdate id payload) then
      Function.update last id (payload.cronExpression <|> last id)
    else last
  | _ => last

/-- The server, with a record of what was submitted. -/
def recordingMachine (S : Type) [ChiselServer S] : Machine (EdgeServer S × Submissions) (JobOp × Faults) where
  step p op := ((jobMachine S).step p.1 op).map fun s => (s, submit p.1 op p.2)

namespace EdgeServer

/-- The expression of a stored job. -/
def cronOf (s : EdgeServer S) (id : EdgeJobID) : Option String :=
  (s.dataStore.edgeJob.get? id).map (·.cronExpression)

/-- No job has another expression than before. -/
def CronKept (s₀ s : EdgeServer S) : Prop := ∀ id c, s.cronOf id = some c → s₀.cronOf id = some c

/-- The operation brings its expressions in the form that is stored: a
creation five or six fields, an update five, with single spaces. -/
def Normal (s : EdgeServer S) (op : JobOp × Faults) : Prop :=
  s.Settles op ∧
    match op.1 with
    | .create payload => SingleSpaced payload.cronExpression ∧
        ((splitSpaces payload.cronExpression).length = 5 ∨
          (splitSpaces payload.cronExpression).length = 6)
    | .update _ payload => ∀ c ∈ payload.cronExpression,
        SingleSpaced c ∧ (splitSpaces c).length = 5
    | _ => True

/-- Every stored job has the five-field form of what was submitted last for
it. -/
def Recorded (p : EdgeServer S × Submissions) : Prop :=
  ∀ id c, p.1.cronOf id = some c → ∃ e, p.2 id = some e ∧ c = fiveFieldForm e

variable {s₀ s : EdgeServer S} {id : EdgeJobID} {job : EdgeJob}

open Portainer.Action

theorem cronOf_of_unchanged (h : Unchanged s₀ s) : s.cronOf = s₀.cronOf := by
  funext id
  rw [cronOf, h.1, cronOf]

theorem cronOf_put (hbucket : s.dataStore.edgeJob = s₀.dataStore.edgeJob.put job) :
    s.cronOf = Function.update s₀.cronOf job.id (some job.cronExpression) := by
  funext id
  by_cases hid : id = job.id
  · subst hid
    rw [Function.update_self, cronOf, hbucket]
    exact congrArg _ Bucket.get?_put_self
  · rw [Function.update_of_ne hid, cronOf, hbucket, Bucket.get?_put_of_ne (Ne.symm hid), cronOf]

/-- The log data of an endpoint is no part of the schedule. -/
theorem marks_cronKept : s₀.Marks id (CronKept s₀) := by
  intro job e collectLogs logsStatus hget s hs i c hc
  have hid : job.id = id := Bucket.key_of_get? hget
  have hbucket : s.dataStore.edgeJob = s₀.dataStore.edgeJob.put (setMeta job e collectLogs logsStatus) := by
    rw [hs.1]
    rfl
  have hsame : s.cronOf = s₀.cronOf := by
    have hstored : s₀.cronOf job.id = some job.cronExpression := by
      rw [cronOf, hid, hget, Option.map_some]
    rw [cronOf_put hbucket]
    exact Function.update_eq_self_iff.mpr hstored.symm
  rwa [hsame] at hc

theorem cronKept_of_unchanged (h : Unchanged s₀ s) : CronKept s₀ s := by
  intro i c hc
  rwa [cronOf_of_unchanged h] at hc

/-- A handler under which no expression changes. -/
theorem Recorded.after {last : Submissions} {faults : Faults} {x : Handler (EdgeServer S) Unit}
    (h : Recorded (s₀, last)) (hw : ∀ o ∈ faults .databaseWrite, o = none)
    (hx : Meets Writes (Unchanged s₀) x (fun _ => CronKept s₀) fun _ => CronKept s₀) :
    Recorded (s₀.after faults x, last) := by
  have hrel : ∀ k, Writes k → (⟨s₀, faults⟩ : Sys Callee (EdgeServer S)).Reliable k := by
    rintro _ rfl
    exact hw
  have hend := Meets.ends hx hrel ⟨rfl, rfl⟩
  have hkept : CronKept s₀ (s₀.after faults x) := by
    unfold EdgeServer.after
    rcases hr : x.run ⟨s₀, faults⟩ with ⟨e | a, w⟩
    · rw [hr] at hend
      exact hend
    · rw [hr] at hend
      exact hend
  exact fun i c hc => h i c (hkept i c hc)

/-- A handler whose expressions are recorded if it is accepted. -/
theorem Recorded.after_submit {last last' : Submissions} {faults : Faults}
    {x : Handler (EdgeServer S) Unit} (hw : ∀ o ∈ faults .databaseWrite, o = none)
    (hx : Meets Writes (Unchanged s₀) x (fun _ s => Recorded (s, last')) fun _ s => Recorded (s, last)) :
    Recorded (s₀.after faults x, if accepted s₀ faults x then last' else last) := by
  have hrel : ∀ k, Writes k → (⟨s₀, faults⟩ : Sys Callee (EdgeServer S)).Reliable k := by
    rintro _ rfl
    exact hw
  have hend := Meets.ends hx hrel ⟨rfl, rfl⟩
  unfold EdgeServer.after accepted
  rcases hr : x.run ⟨s₀, faults⟩ with ⟨e | a, w⟩
  · rw [hr] at hend
    exact hend
  · rw [hr] at hend
    exact hend

theorem Recorded.of_unchanged {last : Submissions} (h : Recorded (s₀, last)) (hs : Unchanged s₀ s) :
    Recorded (s, last) := fun i c hc => h i c (cronKept_of_unchanged hs i c hc)

/-- **A creation** with single spaces. -/
theorem meets_edgeJobCreate_recorded {last : Submissions} (hrec : Recorded (s₀, last))
    (hstep : s₀.InStep) {payload : EdgeJobCreatePayload}
    (hsingle : SingleSpaced payload.cronExpression)
    (hlength : (splitSpaces payload.cronExpression).length = 5 ∨
      (splitSpaces payload.cronExpression).length = 6) :
    Meets Writes (Unchanged s₀) (edgeJobCreate payload)
      (fun _ s => Recorded (s, Function.update last s₀.dataStore.edgeJob.next
        (some payload.cronExpression))) fun _ s => Recorded (s, last) := by
  refine meets_edgeJobCreate_of (next_ne_zero hstep) (fun s hs => ?_) fun job s hid hcron hs => ?_
  · obtain hs | hs := hs
    · exact hrec.of_unchanged hs
    · intro i c hc
      refine hrec i c ?_
      rwa [cronOf, hs.1] at hc
  · intro i c hc
    have hbucket : s.dataStore.edgeJob = (s₀.dataStore.edgeJob.nextSequence).put job := by
      rw [hs.1]
      rfl
    have hput : s.cronOf = Function.update s₀.cronOf job.id (some job.cronExpression) :=
      @cronOf_put S (mapEdgeJobs Bucket.nextSequence s₀) s job hbucket
    rw [hput, hid] at hc
    by_cases hi : i = s₀.dataStore.edgeJob.next
    · subst hi
      rw [Function.update_self] at hc
      refine ⟨payload.cronExpression, Function.update_self .., ?_⟩
      rw [← Option.some.inj hc, hcron, normalizeCronExpression_of_singleSpaced hsingle hlength]
    · rw [Function.update_of_ne hi] at hc
      obtain ⟨e, he, hform⟩ := hrec i c hc
      exact ⟨e, (Function.update_of_ne hi ..).trans he, hform⟩

/-- **An update** with five fields, or with no expression. -/
theorem meets_edgeJobUpdate_recorded {last : Submissions} (hrec : Recorded (s₀, last))
    {payload : EdgeJobUpdatePayload} (hkeep : s₀.KeepsEndpoints id payload)
    (hfive : ∀ c ∈ payload.cronExpression, SingleSpaced c ∧ (splitSpaces c).length = 5) :
    Meets Writes (Unchanged s₀) (edgeJobUpdate id payload)
      (fun _ s => Recorded (s, Function.update last id (payload.cronExpression <|> last id)))
      fun _ s => Recorded (s, last) := by
  refine meets_edgeJobUpdate_of hkeep (fun s hs => hrec.of_unchanged hs) ?_
  intro job job' s hget hid _ hcron hs i c hc
  have hbucket : s.dataStore.edgeJob = s₀.dataStore.edgeJob.put job' := by
    rw [hs.1]
    rfl
  rw [cronOf_put hbucket, hid] at hc
  by_cases hi : i = id
  · subst hi
    rw [Function.update_self] at hc
    obtain rfl := Option.some.inj hc
    have hlast : Function.update last i (payload.cronExpression <|> last i) i =
        (payload.cronExpression <|> last i) := Function.update_self ..
    rw [hcron]
    cases hp : payload.cronExpression with
    | none =>
      have hstored : s₀.cronOf i = some job.cronExpression := by
        rw [cronOf, hget, Option.map_some]
      obtain ⟨e, he, hform⟩ := hrec i _ hstored
      rw [hp] at hlast
      exact ⟨e, hlast.trans he, hform⟩
    | some e =>
      obtain ⟨hsingle, hlength⟩ := hfive e hp
      rw [hp] at hlast
      exact ⟨e, hlast, (fiveFieldForm_of_singleSpaced hsingle hlength).symm⟩
  · rw [Function.update_of_ne hi] at hc
    obtain ⟨e, he, hform⟩ := hrec i c hc
    exact ⟨e, (Function.update_of_ne hi ..).trans he, hform⟩

theorem Refuses.not_accepted {faults : Faults} {x : Handler (EdgeServer S) Unit} (h : s₀.Refuses x) :
    accepted s₀ faults x = false := by
  obtain ⟨hend, -⟩ := h ⟨s₀, faults⟩ (fun _ hk => hk.elim) rfl
  unfold accepted
  rcases hrun : x.run ⟨s₀, faults⟩ with ⟨e | a, w⟩
  · rfl
  · rw [hrun] at hend
    exact hend.elim

/-- A request that is refused, or under which no expression changes. -/
theorem Recorded.handled {last : Submissions} {faults : Faults} {x : Handler (EdgeServer S) Unit}
    (h : Recorded (s₀, last)) (hx : s₀.Refuses x ∨ (∀ o ∈ faults .databaseWrite, o = none) ∧
      Meets Writes (Unchanged s₀) x (fun _ => CronKept s₀) fun _ => CronKept s₀) :
    Recorded (s₀.after faults x, last) := by
  rcases hx with hrefused | ⟨hw, hmeets⟩
  · rw [hrefused.after]
    exact h
  · exact h.after hw hmeets

/-- A request that is refused, or whose expressions are recorded. -/
theorem Recorded.handled_submit {last last' : Submissions} {faults : Faults}
    {x : Handler (EdgeServer S) Unit} (h : Recorded (s₀, last))
    (hx : s₀.Refuses x ∨ (∀ o ∈ faults .databaseWrite, o = none) ∧ Meets Writes (Unchanged s₀) x
      (fun _ s => Recorded (s, last')) fun _ s => Recorded (s, last)) :
    Recorded (s₀.after faults x, if accepted s₀ faults x then last' else last) := by
  rcases hx with hrefused | ⟨hw, hmeets⟩
  · rw [hrefused.after, hrefused.not_accepted]
    exact h
  · exact Recorded.after_submit hw hmeets

/-- **Each step keeps the record.** -/
theorem Recorded.step [ChiselServer S] {last : Submissions} {op : JobOp × Faults}
    (hrec : Recorded (s₀, last)) (hin : s₀.InStep) (hnormal : s₀.Normal op)
    (hstep : (jobMachine S).step s₀ op = some s) : Recorded (s, submit s₀ op last) := by
  obtain ⟨op, faults⟩ := op
  obtain ⟨hset, hform⟩ := hnormal
  have hkept : ∀ s, Unchanged s₀ s → CronKept s₀ s := fun s hs => cronKept_of_unchanged hs
  cases op with
  | create payload =>
    exact Option.some.inj hstep ▸ hrec.handled_submit (hset.imp refuses_edgeJobCreate fun hset =>
      ⟨hset.1, meets_edgeJobCreate_recorded hrec hin hform.1 hform.2⟩)
  | update id payload =>
    exact Option.some.inj hstep ▸ hrec.handled_submit (hset.imp refuses_edgeJobUpdate fun hset =>
      ⟨hset.1, meets_edgeJobUpdate_recorded hrec hset.2 hform⟩)
  | delete id =>
    refine Option.some.inj hstep ▸ hrec.handled (hset.imp refuses_missing fun hset =>
      ⟨hset.1, meets_edgeJobDelete_of hkept ?_⟩)
    intro job _ s hs i c hc
    rw [cronOf, hs.1] at hc
    obtain ⟨stored, hget, rfl⟩ := Option.map_eq_some_iff.mp hc
    have hdelete : (s₀.dataStore.edgeJob.delete job.id).get? i = some stored := hget
    by_cases hi : job.id = i
    · rw [Bucket.get?_delete, if_pos hi] at hdelete
      exact absurd hdelete (by simp)
    · rw [Bucket.get?_delete_of_ne hi] at hdelete
      rw [cronOf, hdelete, Option.map_some]
  | collect id task =>
    exact Option.some.inj hstep ▸ hrec.handled (hset.imp refuses_missing fun hset =>
      ⟨hset.1, meets_edgeJobTasksCollect_of hkept marks_cronKept⟩)
  | clear id task =>
    exact Option.some.inj hstep ▸ hrec.handled (hset.imp refuses_edgeJobTasksClear fun hset =>
      ⟨hset.1, meets_edgeJobTasksClear_of hkept marks_cronKept⟩)
  | logs edgeID e id content =>
    exact Option.some.inj hstep ▸ hrec.handled (hset.imp refuses_endpointEdgeJobsLogs fun hset =>
      ⟨hset.1, meets_endpointEdgeJobsLogs_of hkept marks_cronKept⟩)
  | required e c =>
    obtain ⟨r, -, rfl⟩ := Option.map_eq_some_iff.mp hstep
    exact hrec
  | active e now => exact Option.some.inj hstep ▸ hrec
  | idle e now => exact Option.some.inj hstep ▸ hrec
  | checkTunnels clock => exact Option.some.inj hstep ▸ hrec

end EdgeServer

/-- **Jobs run on what was submitted last**: in every run that brings its
expressions in the form that is stored, every job in the database, and every
job in the tunnel of an endpoint, has the five-field form of the expression
submitted last for it. -/
theorem cronExpression_of_normal [ChiselServer S] {endpoints : Bucket Endpoint} {server : S}
    {ops : List (JobOp × Faults)} {s : EdgeServer S} {last : Submissions}
    (hnormal : (recordingMachine S).Along (fun p => EdgeServer.Normal p.1)
      (EdgeServer.start endpoints server, fun _ => none) ops)
    (hrun : (recordingMachine S).run (EdgeServer.start endpoints server, fun _ => none) ops =
      some (s, last)) :
    (∀ id job, s.dataStore.edgeJob.get? id = some job →
      ∃ e, last id = some e ∧ job.cronExpression = fiveFieldForm e) ∧
    ∀ e, ∀ job ∈ (s.reverseTunnelService.getTunnelDetails e).jobs,
      ∃ c, last job.id = some c ∧ job.cronExpression = fiveFieldForm c := by
  let Inv : EdgeServer S × Submissions → Prop := fun p => p.1.InStep ∧ EdgeServer.Recorded p
  have hstart : Inv (EdgeServer.start endpoints server, fun _ => none) :=
    ⟨synced_empty, fun id c hc => by simp [EdgeServer.cronOf, EdgeServer.start] at hc⟩
  obtain ⟨hin, hrec⟩ : Inv (s, last) := by
    refine Machine.run_invariant ?_ hstart hnormal hrun
    rintro ⟨s₁, last₁⟩ op ⟨s₂, last₂⟩ ⟨hin, hrec⟩ hop hstep
    obtain ⟨s₃, hserver, hpair⟩ := Option.map_eq_some_iff.mp hstep
    obtain ⟨rfl, rfl⟩ := Prod.mk.inj hpair
    exact ⟨EdgeServer.InStep.step hin hop.1 hserver, hrec.step hin hop hserver⟩
  have hstored : ∀ id job, s.dataStore.edgeJob.get? id = some job →
      ∃ e, last id = some e ∧ job.cronExpression = fiveFieldForm e := by
    intro id job hget
    exact hrec id _ (by rw [EdgeServer.cronOf, hget, Option.map_some])
  refine ⟨hstored, fun e job hjob => ?_⟩
  -- what a tunnel holds is what the database has
  have hheld := hin.agree e job.id
  rw [(Service.jobAt_iff_mem hin.distinct).mpr hjob, Option.map_some] at hheld
  obtain ⟨stored, hget, hsame⟩ := Option.map_eq_some_iff.mp hheld.symm
  obtain ⟨c, hc, hform⟩ := hstored job.id stored (storedJob_eq_some.mp hget).1
  have hcron : stored.cronExpression = job.cronExpression := congrArg HeldJob.cronExpression hsame
  exact ⟨c, hc, hcron ▸ hform⟩

/-! ## Two expressions -/

/-- The job with another expression. -/
def sampleJobAt (cronExpression : String) : EdgeJobCreatePayload :=
  { sampleJob with cronExpression := cronExpression }

theorem cronExpression_of_normal_seconds :
    ∃ (s : EdgeServer (ExtTreeMap String ChiselUser)) (last : Submissions),
      (recordingMachine _).run (EdgeServer.start sampleEndpoints ∅, fun _ => none)
        [(.create (sampleJobAt "0 0 3 * * *"), noFaults)] = some (s, last) ∧
      ∀ e, ∀ job ∈ (s.reverseTunnelService.getTunnelDetails e).jobs,
        ∃ c, last job.id = some c ∧ job.cronExpression = fiveFieldForm c := by
  have hnormal : (recordingMachine (ExtTreeMap String ChiselUser)).Along
      (fun p => EdgeServer.Normal p.1) (EdgeServer.start sampleEndpoints ∅, fun _ => none)
      [(.create (sampleJobAt "0 0 3 * * *"), noFaults)] :=
    ⟨⟨.inr ⟨by simp [noFaults], trivial⟩, by decide, by decide⟩, fun _ _ => trivial⟩
  exact ⟨_, _, rfl, (cronExpression_of_normal hnormal rfl).2⟩

/-- The expressions an operation comes with. -/
def expressions : JobOp → Option String
  | .create payload => some payload.cronExpression
  | .update _ payload => payload.cronExpression
  | _ => none

/-- **Two spaces count as a field**: a job is created to run at three
o'clock, and what is stored has lost the minutes. -/
theorem not_fiveFieldForm_of_two_spaces :
    ¬ ∀ (ops : List (JobOp × Faults)) (s : EdgeServer (ExtTreeMap String ChiselUser))
      (last : Submissions),
      (∀ op ∈ ops, ∀ c ∈ expressions op.1, FiveOrSixFields c) →
      (recordingMachine _).run (EdgeServer.start sampleEndpoints ∅, fun _ => none) ops =
        some (s, last) →
      ∀ id job, s.dataStore.edgeJob.get? id = some job →
        ∃ e, last id = some e ∧ job.cronExpression = fiveFieldForm e := by
  intro h
  have hfields : ∀ op ∈ [((.create (sampleJobAt "0  3 * * *") : JobOp), noFaults)],
      ∀ c ∈ expressions op.1, FiveOrSixFields c := by
    intro op hop c hc
    obtain rfl := List.mem_singleton.mp hop
    obtain rfl : "0  3 * * *" = c := Option.some.inj hc
    decide
  obtain ⟨e, he, hform⟩ := h _ _ _ hfields rfl 1 _ rfl
  obtain rfl : "0  3 * * *" = e := Option.some.inj he
  exact absurd hform (by decide)

end Tunnel

end Portainer
