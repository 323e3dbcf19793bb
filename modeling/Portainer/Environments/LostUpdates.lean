import Portainer.Environments.Model
import Portainer.Inventory.Helpers.TagRuns
/-!
# Lost updates — what becomes of an update of an environment

No update is lost if every record has, in each field, the value that the
last update with this field in its body has written, and no record that was
deleted is there. `noLostUpdate_of_run` says that this is so in every run
in which no record is written that has changed since it was read, in a
field that the writer does not set itself, or that has been deleted.

The writers do not see to this. `lostUpdate` is a run in which an agent
checks in while an update is on its way, and takes the update back.
-/

namespace Portainer

open Action (Keeps Ensures Frames)
open Inventory (EndpointUpdatePayload Services)

namespace Environments

variable {services : Services} {payload : EndpointUpdatePayload} {s : Server}
variable {e e' written : Endpoint} {log : List Event} {id : EndpointID}

/-! ## Fields -/

/-- The fields of an environment that the body of an update sets. -/
inductive Field
  | name
  | url
  | group
  | tags
  | userAccessPolicies
  | teamAccessPolicies
  | tls
  deriving DecidableEq, Repr

namespace Field

/-- The field is in the body. -/
def sets (payload : EndpointUpdatePayload) : Field → Bool
  | name => payload.name.isSome
  | url => payload.url.isSome
  | group => payload.groupID.isSome
  | tags => payload.tagIDs.isSome
  | userAccessPolicies => payload.userAccessPolicies.isSome
  | teamAccessPolicies => payload.teamAccessPolicies.isSome
  | tls => payload.tls.isSome

/-- Two records have the field alike. -/
def Same (e e' : Endpoint) : Field → Prop
  | name => e.name = e'.name
  | url => e.url = e'.url
  | group => e.groupID = e'.groupID
  | tags => e.tagIDs = e'.tagIDs
  | userAccessPolicies => e.userAccessPolicies = e'.userAccessPolicies
  | teamAccessPolicies => e.teamAccessPolicies = e'.teamAccessPolicies
  | tls => e.tlsConfig = e'.tlsConfig

variable {f : Field}

theorem same_refl : f.Same e e := by
  cases f <;> rfl

theorem Same.symm (h : f.Same e e') : f.Same e' e := by
  cases f <;> exact Eq.symm h

theorem Same.trans {e'' : Endpoint} (h : f.Same e e') (h' : f.Same e' e'') : f.Same e e'' := by
  cases f <;> exact Eq.trans h h'

end Field

/-- **The record has the values of the body.** Kubernetes agents are always
reached by TLS. -/
structure Shows (payload : EndpointUpdatePayload) (e : Endpoint) : Prop where
  name : ∀ v, payload.name = some v → e.name = v
  url : ∀ v, payload.url = some v → e.url = v
  group : ∀ v, payload.groupID = some v → e.groupID = v
  tags : ∀ v, payload.tagIDs = some v → e.tagIDs.toFinset = v.toFinset
  userAccessPolicies : ∀ v, payload.userAccessPolicies = some v → e.userAccessPolicies = v
  teamAccessPolicies : ∀ v, payload.teamAccessPolicies = some v → e.teamAccessPolicies = v
  tls : ∀ v, payload.tls = some v → e.tlsConfig.tls = (v ||
    (e.type = .agentOnKubernetesEnvironment || e.type = .edgeAgentOnKubernetesEnvironment))

/-! ## What an update writes -/

/-- Sets of tags that are not found to have changed are the same. -/
theorem toFinset_of_unchanged {tagIDs payloadTagIDs : List TagID}
    (h : Inventory.tagsChanged tagIDs (some payloadTagIDs) = false) :
    tagIDs.toFinset = payloadTagIDs.toFinset := by
  have hcard : (payloadTagIDs.toFinset ∪ tagIDs.toFinset).card ≤
      (payloadTagIDs.toFinset ∩ tagIDs.toFinset).card := by
    have hle := not_lt.mp (of_decide_eq_false h)
    have hinter : Inventory.Tags.intersection (Inventory.Tags.set payloadTagIDs)
        (Inventory.Tags.set tagIDs) = payloadTagIDs.toFinset ∩ tagIDs.toFinset := by
      ext t
      simp [Inventory.Tags.intersection, Inventory.Tags.set]
    rwa [hinter] at hle
  have hsub : payloadTagIDs.toFinset ∩ tagIDs.toFinset ⊆ payloadTagIDs.toFinset ∪ tagIDs.toFinset :=
    Finset.inter_subset_left.trans Finset.subset_union_left
  have heq := Finset.eq_of_subset_of_card_le hsub hcard
  ext t
  have ht := Finset.ext_iff.mp heq t
  simp only [Finset.mem_inter, Finset.mem_union] at ht
  constructor
  · exact fun hmem => (ht.mpr (.inr hmem)).1
  · exact fun hmem => (ht.mpr (.inl hmem)).2

theorem ensures_replaceTags {off on : Tag → Tag} {tagIDs : List TagID}
    {payloadTagIDs : Option (List TagID)} :
    Ensures (Inventory.replaceTags off on tagIDs payloadTagIDs) s fun tagIDs' _ =>
      (payloadTagIDs = none → tagIDs' = tagIDs) ∧
        ∀ v, payloadTagIDs = some v → tagIDs'.toFinset = v.toFinset := by
  cases payloadTagIDs with
  | none => exact Ensures.pure ⟨fun _ => rfl, nofun⟩
  | some payloadTagIDs =>
    cases hchanged : Inventory.tagsChanged tagIDs (some payloadTagIDs) with
    | false =>
      rw [Inventory.replaceTags_of_unchanged hchanged]
      refine Ensures.pure ⟨nofun, fun v hv => ?_⟩
      obtain rfl := Option.some.inj hv
      exact toFinset_of_unchanged hchanged
    | true =>
      unfold Inventory.replaceTags
      simp only
      rw [if_pos hchanged]
      refine Ensures.bind (M := fun _ _ => True) (fun _ _ _ _ _ => trivial) fun _ _ _ => ?_
      refine Ensures.bind (M := fun _ _ => True) (fun _ _ _ _ _ => trivial) fun _ _ _ => ?_
      refine Ensures.pure ⟨nofun, fun v hv => ?_⟩
      obtain rfl := Option.some.inj hv
      rfl

/-- The configuration after an update has the TLS flag of the body. -/
theorem ensures_updateTLS_tls {tls : Bool} (h : payload.tls = some tls) :
    Ensures (Inventory.updateTLS services payload e) s fun e' _ =>
      e'.type = e.type ∧ e'.tlsConfig.tls = (tls ||
        (e.type = .agentOnKubernetesEnvironment || e.type = .edgeAgentOnKubernetesEnvironment)) := by
  have hverify : ∀ (folder : String) (config : TLSConfiguration) (o : Option Bool) (s : Server),
      Ensures (Inventory.updateTLSSkipVerify services folder config o) s fun config' _ =>
        config'.tls = config.tls := by
    intro folder config o s
    unfold Inventory.updateTLSSkipVerify
    split
    · exact Ensures.pure rfl
    · exact Ensures.pure rfl
    · exact Ensures.bind (M := fun _ _ => True) (fun _ _ _ _ _ => trivial) fun _ _ _ => Ensures.pure rfl
  have hclient : ∀ (folder : String) (config : TLSConfiguration) (o : Option Bool) (s : Server),
      Ensures (Inventory.updateTLSSkipClientVerify services folder config o) s fun config' _ =>
        config'.tls = config.tls := by
    intro folder config o s
    unfold Inventory.updateTLSSkipClientVerify
    split
    · exact Ensures.pure rfl
    · exact Ensures.pure rfl
    · refine Ensures.bind (M := fun _ _ => True) (fun _ _ _ _ _ => trivial) fun _ _ _ => ?_
      exact Ensures.bind (M := fun _ _ => True) (fun _ _ _ _ _ => trivial) fun _ _ _ => Ensures.pure rfl
  have hconfig : ∀ (config : TLSConfiguration),
      Ensures (Inventory.updateTLSConfig services payload (toString e.id) config tls) s
        fun config' _ => config'.tls = tls := by
    intro config
    unfold Inventory.updateTLSConfig
    cases tls with
    | false =>
      rw [if_neg (by simp)]
      exact Ensures.bind (M := fun _ _ => True) (fun _ _ _ _ _ => trivial) fun _ _ _ => Ensures.pure rfl
    | true =>
      rw [if_pos rfl]
      refine (hverify _ _ _ s).bind fun config₁ s₁ h₁ => ?_
      exact (hclient _ _ _ s₁).conseq fun config₂ _ h₂ => h₂.trans h₁
  unfold Inventory.updateTLS
  rw [h]
  refine (hconfig e.tlsConfig).bind fun config s' hc => Ensures.pure ⟨rfl, ?_⟩
  simp only
  split
  · rename_i hforced
    rcases hforced with hforced | hforced <;> simp [hforced]
  · rename_i hforced
    rw [not_or] at hforced
    simp [hforced.1, hforced.2, hc]

theorem updateTLS_of_none (h : payload.tls = none) :
    Inventory.updateTLS services payload e = pure e := by
  unfold Inventory.updateTLS
  rw [h]

theorem getD_of_absent {α : Type} {o : Option α} {a : α} (h : o.isSome = false) : o.getD a = a := by
  cases o with
  | none => rfl
  | some _ => cases h

/-- What an update is about to write, but for the credentials and the TLS
configuration. -/
theorem shows_of_eq {tagIDs : List TagID} {e₁ e₂ : Endpoint}
    (htags : (payload.tagIDs = none → tagIDs = e.tagIDs) ∧
      ∀ v, payload.tagIDs = some v → tagIDs.toFinset = v.toFinset)
    (h₁ : e₁ = { payload.withPoliciesAndStatus (payload.withFields e) with
      tagIDs := tagIDs, azureCredentials := e₁.azureCredentials })
    (h₂ : e₂ = { e₁ with tlsConfig := e₂.tlsConfig })
    (hnone : payload.tls = none → e₂.tlsConfig = e.tlsConfig)
    (hsome : ∀ v, payload.tls = some v → e₂.tlsConfig.tls = (v ||
      (e₂.type = .agentOnKubernetesEnvironment || e₂.type = .edgeAgentOnKubernetesEnvironment))) :
    e₂.id = e.id ∧ (∀ f : Field, f.sets payload = false → f.Same e₂ e) ∧ Shows payload e₂ := by
  have hname : e₂.name = payload.name.getD e.name := by rw [h₂, h₁]; rfl
  have hurl : e₂.url = payload.url.getD e.url := by rw [h₂, h₁]; rfl
  have hgroup : e₂.groupID = payload.groupID.getD e.groupID := by rw [h₂, h₁]; rfl
  have htagIDs : e₂.tagIDs = tagIDs := by rw [h₂, h₁]
  have huser : e₂.userAccessPolicies = payload.userAccessPolicies.getD e.userAccessPolicies := by
    rw [h₂, h₁]; rfl
  have hteam : e₂.teamAccessPolicies = payload.teamAccessPolicies.getD e.teamAccessPolicies := by
    rw [h₂, h₁]; rfl
  refine ⟨by rw [h₂, h₁]; rfl, fun f hf => ?_, ?_⟩
  · cases f with
    | name => exact hname.trans (getD_of_absent hf)
    | url => exact hurl.trans (getD_of_absent hf)
    | group => exact hgroup.trans (getD_of_absent hf)
    | tags => exact htagIDs.trans (htags.1 (Option.isSome_eq_false_iff.mp hf |> Option.isNone_iff_eq_none.mp))
    | userAccessPolicies => exact huser.trans (getD_of_absent hf)
    | teamAccessPolicies => exact hteam.trans (getD_of_absent hf)
    | tls => exact hnone (Option.isSome_eq_false_iff.mp hf |> Option.isNone_iff_eq_none.mp)
  · refine ⟨fun v hv => ?_, fun v hv => ?_, fun v hv => ?_, fun v hv => ?_, fun v hv => ?_, fun v hv => ?_, hsome⟩
    · rw [hname, hv]; rfl
    · rw [hurl, hv]; rfl
    · rw [hgroup, hv]; rfl
    · rw [htagIDs]
      exact htags.2 v hv
    · rw [huser, hv]; rfl
    · rw [hteam, hv]; rfl

/-- **What an update is about to write**: the fields of the body, and the
others as they were read. -/
theorem ensures_prepareUpdate : Ensures (prepareUpdate services payload e) s fun written _ =>
    written.id = e.id ∧ (∀ f : Field, f.sets payload = false → f.Same written e) ∧
      Shows payload written := by
  refine ensures_replaceTags.bind fun tagIDs s₁ htags => ?_
  have hazure : Ensures (Inventory.updateAzureCredentials payload
      { payload.withPoliciesAndStatus (payload.withFields e) with tagIDs := tagIDs }) s₁ fun e₁ _ =>
      e₁ = { payload.withPoliciesAndStatus (payload.withFields e) with
        tagIDs := tagIDs, azureCredentials := e₁.azureCredentials } :=
    (Inventory.runs_updateAzureCredentials (E := fun _ => True)).ensures.conseq fun _ _ h => h.2
  refine hazure.bind fun e₁ s₂ h₁ => ?_
  have htlsConfig : e₁.tlsConfig = e.tlsConfig := by rw [h₁]; rfl
  have htls : Ensures (Inventory.updateTLS services payload e₁) s₂ fun e₂ _ =>
      e₂.id = e.id ∧ (∀ f : Field, f.sets payload = false → f.Same e₂ e) ∧ Shows payload e₂ := by
    cases hpayload : payload.tls with
    | none =>
      rw [updateTLS_of_none hpayload]
      refine Ensures.pure (shows_of_eq htags h₁ rfl (fun _ => htlsConfig) fun v hv => ?_)
      rw [hpayload] at hv
      cases hv
    | some tls =>
      intro w e₂ w' hw hrun
      have hshape : e₂ = { e₁ with tlsConfig := e₂.tlsConfig } :=
        (((Inventory.runs_updateTLS (E := fun _ => True)).ensures w e₂ w' hw) hrun).2
      obtain ⟨htype, hflag⟩ := ensures_updateTLS_tls hpayload w e₂ w' hw hrun
      refine shows_of_eq htags h₁ hshape (fun hnone => ?_) fun v hv => ?_
      · rw [hpayload] at hnone
        cases hnone
      · obtain rfl := Option.some.inj (hpayload.symm.trans hv)
        rw [htype]
        exact hflag
  refine htls.bind fun e₂ s₃ h₂ => ?_
  refine Ensures.bind (M := fun _ _ => True) (fun _ _ _ _ _ => trivial) fun _ _ _ => ?_
  refine Ensures.bind (M := fun _ _ => True) (fun _ _ _ _ _ => trivial) fun _ _ _ => ?_
  exact Ensures.pure h₂

/-- **The update, access by access**: with no other party between them, the
turns of an update are the request. -/
theorem endpointUpdate_eq : Inventory.endpointUpdate services id payload = (do
    let endpoint ← (Server.endpoint.getObject id).mapError findEndpoint
    let updated ← prepareUpdate services payload endpoint
    (Server.endpoint.updateObject updated).mapError persistEndpoint
    finishUpdate payload endpoint updated
    return updated) := by
  have hif : ∀ {α : Type} (c : Bool) (x : Handler Server Unit) (y : Unit → Handler Server α),
      ((if c then x else pure ()) >>= y) = if c then x >>= y else y () := by
    intro α c x y
    cases c <;> rfl
  unfold Inventory.endpointUpdate prepareUpdate finishUpdate
  simp only [Action.bind_assoc, Action.pure_bind, hif]
  rfl

/-! ## No lost update -/

/-- The field is in the body of the party's request. -/
def Party.sets (f : Field) : Party → Bool
  | endpointUpdate _ payload => f.sets payload
  | _ => false

/-- The record that the last update with the field in its body has
written. -/
def lastSet (f : Field) (id : EndpointID) : List Event → Option Endpoint
  | [] => none
  | .updated payload written :: log =>
    if written.id = id ∧ f.sets payload = true then some written else lastSet f id log
  | .removed _ :: log => lastSet f id log

/-- **No update is lost.** Every record has each field as the last update
with this field has written it, an update that has answered with success
has written what its body says, and a deleted record is not there. -/
structure NoLostUpdate (p : Pool) : Prop where
  field : ∀ id e f w, p.server.dataStore.endpoint.get? id = some e →
    lastSet f id p.log = some w → f.Same e w
  answered : ∀ id payload, (.endpointUpdate id payload, .returned none) ∈ p.threads →
    ∃ w, .updated payload w ∈ p.log ∧ w.id = id ∧ Shows payload w
  removed : ∀ id, .removed id ∈ p.log → p.server.dataStore.endpoint.get? id = none

/-- **Nobody writes over a change.** A record that is written is there, and
in the fields that its writer does not set it is as it was read. -/
def Fresh (p : Pool) (t : Turn) : Prop :=
  ∀ party read written endpoints, p.threads[t.thread]? = some (party, .writing read written endpoints) →
    Sys.fault ⟨p.server, t.faults⟩ .databaseWrite = none →
    ∃ e, p.server.dataStore.endpoint.get? read.id = some e ∧
      ∀ f, Party.sets f party = false → f.Same e read

/-- What is known of a party at its stage. -/
def Standing (log : List Event) : Party × Stage → Prop
  | (.endpointUpdate id _, .holding endpoint) => endpoint.id = id
  | (party, .writing read written _) => written.id = read.id ∧
      (∀ f, Party.sets f party = false → f.Same written read) ∧
      ∀ id payload, party = .endpointUpdate id payload → read.id = id ∧ Shows payload written
  | (.endpointUpdate id payload, .written _ written) =>
      .updated payload written ∈ log ∧ written.id = id ∧ Shows payload written
  | (.endpointUpdate id payload, .returned none) =>
      ∃ w, .updated payload w ∈ log ∧ w.id = id ∧ Shows payload w
  -- an update does not get to these stages
  | (.endpointUpdate _ _, .looping _) => False
  | (.endpointUpdate _ _, .snapshotted _ _ _) => False
  | (.endpointUpdate _ _, .deleting) => False
  | _ => True

theorem Standing.mono {log' : List Event} {thread : Party × Stage} (h : Standing log thread)
    (hlog : ∀ event ∈ log, event ∈ log') : Standing log' thread := by
  obtain ⟨party, stage⟩ := thread
  cases party <;> cases stage <;> try exact h
  case endpointUpdate.written id payload read written =>
    exact ⟨hlog _ h.1, h.2⟩
  case endpointUpdate.returned id payload err =>
    cases err with
    | none =>
      obtain ⟨w, hw, hrest⟩ := h
      exact ⟨w, hlog _ hw, hrest⟩
    | some err => trivial

/-! ## What a turn does -/

section Turn

variable {c : Bucket Endpoint} {snapshot : Option String} {party : Party} {stage : Stage}

/-- The records of environments. -/
def records (s : Server) : Bucket Endpoint := s.dataStore.endpoint

theorem frames_prepareUpdate : Frames (prepareUpdate services payload e) records := by
  intro c
  refine .bind ((Inventory.frames_replaceTags.mono (fun s => s.dataStore.endpoint) fun _ => rfl) c)
    fun tagIDs => ?_
  refine .bind Inventory.keeps_updateAzureCredentials fun e₁ => ?_
  refine .bind Inventory.keeps_updateTLS fun e₂ => ?_
  refine .bind Inventory.keeps_registerEndpointProxy fun _ => ?_
  refine .bind (.ite (fun _ => .mapError ?_) fun _ => .pure) fun _ => .pure
  exact (Inventory.frames_cleanNAP.mono DataStore.endpoint fun _ => rfl) c

theorem frames_finishUpdate : Frames (finishUpdate payload e e') records := by
  intro c
  refine .ite (fun _ => ?_) fun _ => .pure
  exact (Inventory.frames_refreshRelation.mono (fun s => s.dataStore.endpoint) fun _ => rfl) c

theorem frames_attemptSnapshot : Frames (attemptSnapshot snapshot e) records := by
  intro c
  refine .bind (.attempt ?_) fun r => ?_
  · unfold snapshotEndpoint
    split
    · exact .pure
    all_goals exact .query
  · cases r
    · exact .pure
    · exact .pure

/-- **All but the writes leave the records as they are.** -/
theorem frames_advance (hwriting : ∀ read written endpoints, stage ≠ .writing read written endpoints)
    (hdeleting : stage ≠ .deleting) : Frames (advance services snapshot party stage) records := by
  intro c
  cases stage with
  | ready =>
    show Keeps (start party) _
    unfold start
    cases party with
    | snapshotEndpoints => exact .bind Table.keeps_getAll fun _ => .pure
    | endpointSnapshot id =>
      exact .bind Table.keeps_getObject fun _ => .bind .require fun _ => .pure
    | checkIn r id => exact .bind Table.keeps_getObject fun _ => .bind .ofExcept fun _ => .pure
    | endpointDelete id =>
      refine .bind Table.keeps_getObject fun _ => .bind ?_ fun _ => .pure
      exact .ite (fun _ => Inventory.keeps_service) fun _ => .pure
    | endpointUpdate id payload => exact .bind Table.keeps_getObject fun _ => .pure
    | snapshotEnvironment id tunnelPort => exact .bind Table.keeps_getObject fun _ => .pure
  | holding endpoint =>
    show Keeps (work services snapshot endpoint party) _
    unfold work
    cases party with
    | endpointUpdate id payload => exact .bind (frames_prepareUpdate c) fun _ => .pure
    | snapshotEnvironment id tunnelPort =>
      refine .bind (.mapError (.bind ?_ fun _ => .pure)) fun _ => .pure
      unfold snapshotEndpoint
      split
      · exact .pure
      all_goals exact .query
    | snapshotEndpoints => exact .bind (frames_attemptSnapshot c) fun _ => .pure
    | endpointSnapshot id => exact .bind (frames_attemptSnapshot c) fun _ => .pure
    | checkIn r id => exact .bind (frames_attemptSnapshot c) fun _ => .pure
    | endpointDelete id => exact .bind (frames_attemptSnapshot c) fun _ => .pure
  | looping endpoints =>
    show Keeps (nextSnapshot snapshot endpoints) _
    cases endpoints with
    | nil => exact .pure
    | cons endpoint endpoints =>
      exact .ite (fun _ => .bind (frames_attemptSnapshot c) fun _ => .pure) fun _ => .pure
  | snapshotted endpoint failed endpoints =>
    show Keeps (readAgain party endpoint failed endpoints) _
    refine .bind (.attempt .lookup) fun r => ?_
    cases r with
    | ok latest => cases party <;> exact .pure
    | error err =>
      cases party with
      | snapshotEndpoints => exact .pure
      | _ => exact .fail
  | writing read written endpoints => exact absurd rfl (hwriting read written endpoints)
  | written read written =>
    unfold advance
    cases party with
    | endpointUpdate id payload => exact .bind (frames_finishUpdate c) fun _ => .pure
    | _ => exact .pure
  | deleting => exact absurd rfl hdeleting
  | returned err => exact .pure

/-- The write of a record. -/
theorem writeBack_cases {read written : Endpoint} {endpoints : List Endpoint} {stage' : Stage}
    {w w' : Sys Callee Server}
    (hrun : (writeBack party read written endpoints).run w = (.ok stage', w')) :
    (records w'.store = records w.store ∧ party = .snapshotEndpoints ∧ stage' = .looping endpoints) ∨
    (w.fault .databaseWrite = none ∧ records w'.store = (records w.store).put written ∧
      (stage' = .looping endpoints ∧ party = .snapshotEndpoints ∨
        (∃ id payload, party = .endpointUpdate id payload) ∧ stage' = .written read written ∨
        (∀ id payload, party ≠ .endpointUpdate id payload) ∧ stage' = .returned none)) := by
  have hcall : ∀ {α : Type} {x : Handler Server α} {a : α} {g : String → HandlerError},
      ((Server.endpoint.updateObject written).mapError g >>= fun _ => x).run w = (.ok a, w') →
      ∃ w₁, w.fault .databaseWrite = none ∧ records w₁.store = (records w.store).put written ∧
        x.run w₁ = (.ok a, w') := by
    intro α x a g h
    obtain ⟨_, w₁, hwrite, hrest⟩ := Action.bind_run_ok.mp h
    obtain ⟨hfault, rfl⟩ := Action.call_run_ok_iff.mp (Action.mapError_run_ok.mp hwrite)
    exact ⟨_, hfault, rfl, hrest⟩
  cases party with
  | snapshotEndpoints =>
    obtain ⟨r, w₁, hattempt, hrest⟩ := Action.bind_run_ok.mp hrun
    obtain ⟨rfl, rfl⟩ := Action.pure_run_ok.mp hrest
    rw [Action.attempt_run] at hattempt
    have hw₁ := (Prod.mk.inj hattempt).2
    unfold Table.updateObject at hw₁
    cases hfault : w.fault .databaseWrite with
    | none =>
      rw [Action.call_run_of_none hfault] at hw₁
      refine .inr ⟨rfl, ?_, .inl ⟨rfl, rfl⟩⟩
      rw [← hw₁]
      rfl
    | some text =>
      rw [Action.call_run_of_some hfault] at hw₁
      refine .inl ⟨?_, rfl, rfl⟩
      rw [← hw₁]
      rfl
  | endpointUpdate id payload =>
    obtain ⟨w₁, hfault, hput, hrest⟩ := hcall hrun
    obtain ⟨rfl, rfl⟩ := Action.pure_run_ok.mp hrest
    exact .inr ⟨hfault, hput, .inr (.inl ⟨⟨id, payload, rfl⟩, rfl⟩)⟩
  | endpointSnapshot id =>
    obtain ⟨w₁, hfault, hput, hrest⟩ := hcall hrun
    obtain ⟨rfl, rfl⟩ := Action.pure_run_ok.mp hrest
    exact .inr ⟨hfault, hput, .inr (.inr ⟨fun _ _ h => (by cases h), rfl⟩)⟩
  | snapshotEnvironment id tunnelPort =>
    obtain ⟨w₁, hfault, hput, hrest⟩ := hcall hrun
    obtain ⟨rfl, rfl⟩ := Action.pure_run_ok.mp hrest
    exact .inr ⟨hfault, hput, .inr (.inr ⟨fun _ _ h => (by cases h), rfl⟩)⟩
  | checkIn r id =>
    obtain ⟨w₁, hfault, hput, hrest⟩ := hcall hrun
    obtain ⟨rfl, rfl⟩ := Action.pure_run_ok.mp hrest
    exact .inr ⟨hfault, hput, .inr (.inr ⟨fun _ _ h => (by cases h), rfl⟩)⟩
  | endpointDelete id =>
    obtain ⟨w₁, hfault, hput, hrest⟩ := hcall hrun
    obtain ⟨rfl, rfl⟩ := Action.pure_run_ok.mp hrest
    exact .inr ⟨hfault, hput, .inr (.inr ⟨fun _ _ h => (by cases h), rfl⟩)⟩

/-- What a snapshot leaves alone. -/
theorem ensures_snapshotEndpoint : Ensures (snapshotEndpoint snapshot e) s fun e' _ =>
    ∃ docker kubernetes, e' = { e with dockerSnapshots := docker, kubernetesSnapshots := kubernetes } := by
  unfold snapshotEndpoint
  split
  · exact Ensures.pure ⟨_, _, rfl⟩
  all_goals
    intro w e' w' _ hrun
    obtain ⟨rfl, -⟩ := Action.query_run_ok hrun
    exact ⟨_, _, rfl⟩

/-- A check-in leaves the fields of the body alone. -/
theorem same_checkedIn {r : EdgeAgent.Poll} (h : checkedIn r e = .ok e') :
    e'.id = e.id ∧ ∀ f : Field, f.Same e' e := by
  unfold checkedIn at h
  cases hallowed : admitAgent r e with
  | error err =>
    rw [hallowed] at h
    cases h
  | ok u =>
    rw [hallowed] at h
    cases hidentified : EdgeAgent.identified r e with
    | error err =>
      have h' : (EdgeAgent.identified r e >>= fun endpoint =>
          (pure { endpoint with lastCheckInDate := r.now / Tunnel.second } : Except HandlerError Endpoint)) =
          .ok e' := h
      rw [hidentified] at h'
      cases h'
    | ok e₁ =>
      have h' : (EdgeAgent.identified r e >>= fun endpoint =>
          (pure { endpoint with lastCheckInDate := r.now / Tunnel.second } : Except HandlerError Endpoint)) =
          .ok e' := h
      rw [hidentified] at h'
      obtain rfl := Except.ok.inj h'
      have hsame : e₁.id = e.id ∧ ∀ f : Field, f.Same e₁ e := by
        unfold EdgeAgent.identified at hidentified
        split at hidentified
        · split at hidentified
          · cases hidentified
          · split at hidentified
            · cases hidentified
            · obtain rfl := Except.ok.inj hidentified
              exact ⟨rfl, fun f => by cases f <;> rfl⟩
        · obtain rfl := Except.ok.inj hidentified
          exact ⟨rfl, fun f => Field.same_refl⟩
      refine ⟨hsame.1, fun f => Field.Same.trans ?_ (hsame.2 f)⟩
      cases f <;> rfl

/-- **What is known of a party after its turn**, if the turn is no write and
no deletion. -/
theorem standing_advance {w w' : Sys Callee Server} {stage' : Stage}
    (hwriting : ∀ read written endpoints, stage ≠ .writing read written endpoints)
    (hdeleting : stage ≠ .deleting) (h : Standing log (party, stage))
    (hrun : (advance services snapshot party stage).run w = (.ok stage', w')) :
    Standing log (party, stage') := by
  cases stage with
  | ready =>
    cases party with
    | snapshotEndpoints =>
      obtain ⟨_, _, -, hrest⟩ := Action.bind_run_ok.mp hrun
      obtain ⟨rfl, -⟩ := Action.pure_run_ok.mp hrest
      trivial
    | endpointSnapshot id =>
      obtain ⟨_, _, -, hrest⟩ := Action.bind_run_ok.mp hrun
      obtain ⟨-, hrest⟩ := Action.require_bind_run_ok.mp hrest
      obtain ⟨rfl, -⟩ := Action.pure_run_ok.mp hrest
      trivial
    | checkIn r id =>
      obtain ⟨endpoint, w₁, -, hrest⟩ := Action.bind_run_ok.mp hrun
      cases hresult : checkedIn r endpoint with
      | error err =>
        rw [hresult] at hrest
        cases hrest
      | ok written =>
        rw [hresult] at hrest
        obtain ⟨rfl, -⟩ := Action.pure_run_ok.mp hrest
        obtain ⟨hid, hsame⟩ := same_checkedIn hresult
        exact ⟨hid, fun f _ => hsame f, fun _ _ heq => (by cases heq)⟩
    | endpointDelete id =>
      obtain ⟨_, _, -, hrest⟩ := Action.bind_run_ok.mp hrun
      obtain ⟨_, _, -, hrest⟩ := Action.bind_run_ok.mp hrest
      obtain ⟨rfl, -⟩ := Action.pure_run_ok.mp hrest
      trivial
    | endpointUpdate id payload =>
      obtain ⟨endpoint, _, hget, hrest⟩ := Action.bind_run_ok.mp hrun
      obtain ⟨rfl, -⟩ := Action.pure_run_ok.mp hrest
      obtain ⟨hget, -⟩ := Action.lookup_run_ok (Action.mapError_run_ok.mp hget)
      exact Bucket.key_of_get? hget
    | snapshotEnvironment id tunnelPort =>
      obtain ⟨_, _, -, hrest⟩ := Action.bind_run_ok.mp hrun
      obtain ⟨rfl, -⟩ := Action.pure_run_ok.mp hrest
      trivial
  | holding endpoint =>
    cases party with
    | endpointUpdate id payload =>
      obtain ⟨written, _, hprepare, hrest⟩ := Action.bind_run_ok.mp hrun
      obtain ⟨rfl, -⟩ := Action.pure_run_ok.mp hrest
      obtain ⟨hid, hsame, hshows⟩ := ensures_prepareUpdate w _ _ rfl hprepare
      refine ⟨hid, hsame, fun id' payload' heq => ?_⟩
      obtain ⟨rfl, rfl⟩ := Party.endpointUpdate.inj heq
      exact ⟨h, hshows⟩
    | snapshotEnvironment id tunnelPort =>
      obtain ⟨written, _, hsnapshot, hrest⟩ := Action.bind_run_ok.mp hrun
      obtain ⟨rfl, -⟩ := Action.pure_run_ok.mp hrest
      obtain ⟨e₁, _, htaken, hlast⟩ := Action.bind_run_ok.mp (Action.mapError_run_ok.mp hsnapshot)
      obtain ⟨rfl, -⟩ := Action.pure_run_ok.mp hlast
      obtain ⟨docker, kubernetes, rfl⟩ := ensures_snapshotEndpoint w _ _ rfl htaken
      refine ⟨rfl, fun f _ => ?_, fun _ _ heq => (by cases heq)⟩
      cases f <;> rfl
    | snapshotEndpoints =>
      obtain ⟨_, _, -, hrest⟩ := Action.bind_run_ok.mp hrun
      obtain ⟨rfl, -⟩ := Action.pure_run_ok.mp hrest
      trivial
    | endpointSnapshot id =>
      obtain ⟨_, _, -, hrest⟩ := Action.bind_run_ok.mp hrun
      obtain ⟨rfl, -⟩ := Action.pure_run_ok.mp hrest
      trivial
    | checkIn r id =>
      obtain ⟨_, _, -, hrest⟩ := Action.bind_run_ok.mp hrun
      obtain ⟨rfl, -⟩ := Action.pure_run_ok.mp hrest
      trivial
    | endpointDelete id =>
      obtain ⟨_, _, -, hrest⟩ := Action.bind_run_ok.mp hrun
      obtain ⟨rfl, -⟩ := Action.pure_run_ok.mp hrest
      trivial
  | looping endpoints =>
    have hstage : (∀ err, stage' ≠ .returned err) ∧ (∀ r w l, stage' ≠ .writing r w l) ∨
        stage' = .returned none := by
      cases endpoints with
      | nil =>
        obtain ⟨rfl, -⟩ := Action.pure_run_ok.mp hrun
        exact .inr rfl
      | cons endpoint endpoints =>
        left
        have hnext : (nextSnapshot snapshot (endpoint :: endpoints)).run w = (.ok stage', w') := hrun
        simp only [nextSnapshot] at hnext
        split at hnext
        · obtain ⟨_, _, -, hrest⟩ := Action.bind_run_ok.mp hnext
          obtain ⟨rfl, -⟩ := Action.pure_run_ok.mp hrest
          exact ⟨fun _ heq => (by cases heq), fun _ _ _ heq => (by cases heq)⟩
        · obtain ⟨rfl, -⟩ := Action.pure_run_ok.mp hnext
          exact ⟨fun _ heq => (by cases heq), fun _ _ _ heq => (by cases heq)⟩
    cases party with
    | endpointUpdate id payload => exact h.elim
    | _ =>
      rcases hstage with ⟨-, hno⟩ | rfl
      · cases stage' with
        | writing r w l => exact absurd rfl (hno r w l)
        | _ => trivial
      · trivial
  | snapshotted endpoint failed endpoints =>
    cases party with
    | endpointUpdate id payload => exact h.elim
    | _ =>
      obtain ⟨r, w₁, -, hrest⟩ := Action.bind_run_ok.mp hrun
      cases r with
      | ok latest =>
        obtain ⟨rfl, -⟩ := Action.pure_run_ok.mp hrest
        refine ⟨rfl, fun f _ => ?_, fun _ _ heq => (by cases heq)⟩
        cases f <;> rfl
      | error err =>
        first
          | exact absurd hrest Action.fail_run_ok
          | (obtain ⟨rfl, -⟩ := Action.pure_run_ok.mp hrest; trivial)
  | writing read written endpoints => exact absurd rfl (hwriting read written endpoints)
  | written read written =>
    cases party with
    | endpointUpdate id payload =>
      obtain ⟨_, _, -, hrest⟩ := Action.bind_run_ok.mp hrun
      obtain ⟨rfl, -⟩ := Action.pure_run_ok.mp hrest
      exact ⟨written, h⟩
    | _ =>
      obtain ⟨rfl, -⟩ := Action.pure_run_ok.mp hrun
      trivial
  | deleting => exact absurd rfl hdeleting
  | returned err =>
    obtain ⟨rfl, -⟩ := Action.pure_run_ok.mp hrun
    exact h

/-- The deletion of a record. -/
theorem deleting_cases {stage' : Stage} {w w' : Sys Callee Server} (h : Standing log (party, .deleting))
    (hrun : (advance services snapshot party .deleting).run w = (.ok stage', w')) :
    stage' = .returned none ∧ (∀ id payload, party ≠ .endpointUpdate id payload) ∧
      ((∃ id, party = .endpointDelete id ∧ records w'.store = (records w.store).delete id) ∨
        (∀ id, party ≠ .endpointDelete id) ∧ records w'.store = records w.store) := by
  cases party with
  | endpointUpdate id payload => exact h.elim
  | endpointDelete id =>
    obtain ⟨_, w₁, hdelete, hrest⟩ := Action.bind_run_ok.mp hrun
    obtain ⟨rfl, rfl⟩ := Action.pure_run_ok.mp hrest
    have hstore := Action.call_run_ok (Action.mapError_run_ok.mp hdelete)
    refine ⟨rfl, fun _ _ heq => (by cases heq), .inl ⟨id, rfl, ?_⟩⟩
    rw [hstore]
    rfl
  | _ =>
    obtain ⟨rfl, rfl⟩ := Action.pure_run_ok.mp hrun
    exact ⟨rfl, fun _ _ heq => (by cases heq), .inr ⟨fun _ heq => (by cases heq), rfl⟩⟩

/-- A call that fails leaves the store as it is, and nothing comes after. -/
theorem store_of_call_error {α : Type} {k : Callee} {f : Server → Server} {g : String → HandlerError}
    {a : α} {err : HandlerError} {w w' : Sys Callee Server}
    (h : ((Action.call k f).mapError g >>= fun _ => (pure a : Handler Server α)).run w = (.error err, w')) :
    w'.store = w.store := by
  rw [Action.bind_run, Action.mapError_run, Action.call_run] at h
  cases hfault : w.fault k with
  | none =>
    rw [hfault] at h
    cases h
  | some text =>
    rw [hfault] at h
    rw [← (Prod.mk.inj h).2]
    rfl

/-- A turn that fails writes nothing. -/
theorem records_of_error {err : HandlerError} {w w' : Sys Callee Server}
    (hrun : (advance services snapshot party stage).run w = (.error err, w')) :
    records w'.store = records w.store := by
  by_cases hwriting : ∃ read written endpoints, stage = .writing read written endpoints
  · obtain ⟨read, written, endpoints, rfl⟩ := hwriting
    cases party with
    | snapshotEndpoints =>
      -- the background job never fails at a write
      have hnever : ∀ v, ∃ a v', (writeBack .snapshotEndpoints read written endpoints).run v = (.ok a, v') :=
        fun v => ⟨_, _, rfl⟩
      obtain ⟨a, v', hok⟩ := hnever w
      have hrun' : (writeBack .snapshotEndpoints read written endpoints).run w = (.error err, w') := hrun
      rw [hok] at hrun'
      cases hrun'
    | _ => exact congrArg records (store_of_call_error hrun)
  · by_cases hdeleting : stage = .deleting
    · subst hdeleting
      cases party with
      | endpointDelete id => exact congrArg records (store_of_call_error hrun)
      | _ => cases hrun
    · have hno : ∀ read written endpoints, stage ≠ .writing read written endpoints :=
        fun read written endpoints heq => hwriting ⟨read, written, endpoints, heq⟩
      have hframes := (frames_advance hno hdeleting :
        Frames (advance services snapshot party stage) records).run w
      rwa [hrun] at hframes

end Turn

/-! ## Runs -/

variable {p p' : Pool} {t : Turn}

/-- **The invariant**: the two halves of what is to be shown, and what is
known of the parties. -/
structure Sound (p : Pool) : Prop where
  field : ∀ id e f w, (records p.server).get? id = some e → lastSet f id p.log = some w → f.Same e w
  removed : ∀ id, .removed id ∈ p.log → (records p.server).get? id = none
  standing : ∀ thread ∈ p.threads, Standing p.log thread

theorem Sound.noLostUpdate (h : Sound p) : NoLostUpdate p :=
  ⟨h.field, fun _ _ hmem => h.standing _ hmem, h.removed⟩

theorem sound_start {server : Server} {parties : List Party} : Sound (.start server parties) := by
  refine ⟨fun _ _ _ _ _ h => (by cases h), fun _ h => (List.not_mem_nil h).elim, fun thread hmem => ?_⟩
  obtain ⟨party, -, rfl⟩ := List.mem_map.mp hmem
  cases party <;> trivial

/-- The parties other than that of the turn know what they knew. -/
theorem Sound.standing_goTo (h : Sound p) {i : ℕ} {party : Party} {stage : Stage} {server : Server}
    {events : List Event} (hnew : Standing (events ++ p.log) (party, stage)) :
    ∀ thread ∈ (p.goTo i party stage server events).threads,
      Standing (p.goTo i party stage server events).log thread := by
  intro thread hmem
  rcases List.mem_or_eq_of_mem_set hmem with hold | rfl
  · exact (h.standing thread hold).mono fun event hevent => List.mem_append_right _ hevent
  · exact hnew

/-- A turn that writes no record. -/
theorem Sound.goTo (h : Sound p) {i : ℕ} {party : Party} {stage : Stage} {server : Server}
    (hrecords : records server = records p.server) (hnew : Standing p.log (party, stage)) :
    Sound (p.goTo i party stage server []) := by
  refine ⟨?_, ?_, h.standing_goTo hnew⟩
  · intro id e f w he hw
    exact h.field id e f w (hrecords ▸ he) hw
  · intro id hmem
    have hgone := h.removed id hmem
    rwa [← hrecords] at hgone

/-- A turn that deletes a record. -/
theorem Sound.delete (h : Sound p) {i : ℕ} {server : Server} {id : EndpointID}
    (hrecords : records server = (records p.server).delete id) :
    Sound (p.goTo i (.endpointDelete id) (.returned none) server [.removed id]) := by
  refine ⟨fun id' e f w he hw => ?_, fun id' hmem => ?_, h.standing_goTo trivial⟩
  · have he' : ((records p.server).delete id).get? id' = some e := hrecords ▸ he
    rw [Bucket.get?_delete] at he'
    split at he'
    · cases he'
    · exact h.field id' e f w he' hw
  · show (records server).get? id' = none
    rw [hrecords, Bucket.get?_delete]
    split
    · rfl
    · rename_i hne
      rcases List.mem_cons.mp hmem with heq | hold
      · obtain rfl := Event.removed.inj heq
        exact absurd rfl hne
      · exact h.removed id' hold

/-- **A turn that writes a record**, where the record is there and as it was
read. -/
theorem Sound.put (h : Sound p) {i : ℕ} {server : Server} {party : Party} {stage : Stage}
    {read : Endpoint} {endpoints : List Endpoint}
    (hstanding : Standing p.log (party, .writing read written endpoints))
    (hfresh : ∃ e, (records p.server).get? read.id = some e ∧
      ∀ f, Party.sets f party = false → f.Same e read)
    (hrecords : records server = (records p.server).put written)
    (hnew : Standing (Event.of party (.writing read written endpoints) ++ p.log) (party, stage)) :
    Sound (p.goTo i party stage server (Event.of party (.writing read written endpoints))) := by
  obtain ⟨current, hcurrent, hsame⟩ := hfresh
  have hknown : written.id = read.id ∧ (∀ f, Party.sets f party = false → f.Same written read) := by
    cases party <;> exact ⟨hstanding.1, hstanding.2.1⟩
  obtain ⟨hid, hwritten⟩ := hknown
  have hget : ∀ id, (records server).get? id =
      if written.id = id then some written else (records p.server).get? id := by
    intro id
    rw [hrecords, Bucket.get?_put]
    rfl
  refine ⟨fun id e f w he hw => ?_, fun id hmem => ?_, h.standing_goTo hnew⟩
  · have he' : (if written.id = id then some written else (records p.server).get? id) = some e :=
      (hget id).symm.trans he
    -- the last write of the field, before this turn or in it
    have hlast : (lastSet f id p.log = some w ∧ (written.id = id → Party.sets f party = false)) ∨
        (written.id = id ∧ w = written) := by
      cases party with
      | endpointUpdate id' payload =>
        have hw' : (if written.id = id ∧ f.sets payload = true then some written
            else lastSet f id p.log) = some w := hw
        split at hw'
        · rename_i hset
          exact .inr ⟨hset.1, (Option.some.inj hw').symm⟩
        · rename_i hnot
          refine .inl ⟨hw', fun hid' => ?_⟩
          show f.sets payload = false
          simpa [hid'] using hnot
      | _ => exact .inl ⟨hw, fun _ => rfl⟩
    split at he'
    · rename_i hid'
      obtain rfl := Option.some.inj he'
      rcases hlast with ⟨hw', hnot⟩ | ⟨-, rfl⟩
      · have hunset := hnot hid'
        have hcurrent' : (records p.server).get? id = some current := by rw [← hid', hid, hcurrent]
        have hbefore := h.field id current f w hcurrent' hw'
        exact ((hwritten f hunset).trans (hsame f hunset).symm).trans hbefore
      · exact Field.same_refl
    · rename_i hid'
      exact h.field id e f w he' (hlast.resolve_right fun hr => hid' hr.1).1
  · have hold : .removed id ∈ p.log := by
      cases party with
      | endpointUpdate id' payload =>
        rcases List.mem_cons.mp hmem with heq | hold
        · cases heq
        · exact hold
      | _ => exact hmem
    have hgone := h.removed id hold
    show (records server).get? id = none
    rw [hget, if_neg, hgone]
    intro hid'
    rw [← hid', hid, hcurrent] at hgone
    cases hgone

/-- **A turn keeps the invariant**, where nobody writes over a change. -/
theorem Sound.turn (h : Sound p) (hfresh : Fresh p t) (hturn : turn services p t = some p') :
    Sound p' := by
  unfold Environments.turn at hturn
  split at hturn
  · cases hturn
  · cases hturn
  rename_i party stage hreturned hthread
  have hstanding : Standing p.log (party, stage) := h.standing _ (List.mem_of_getElem? hthread)
  rcases hrun : (advance services t.snapshot party stage).run ⟨p.server, t.faults⟩ with ⟨err | stage', w'⟩
  · rw [hrun] at hturn
    obtain rfl := Option.some.inj hturn
    refine h.goTo (records_of_error hrun) ?_
    cases party <;> trivial
  · rw [hrun] at hturn
    obtain rfl := Option.some.inj hturn
    by_cases hwriting : ∃ read written endpoints, stage = .writing read written endpoints
    · obtain ⟨read, written, endpoints, rfl⟩ := hwriting
      rcases writeBack_cases hrun with ⟨hrecords, rfl, rfl⟩ | ⟨hfault, hrecords, hend⟩
      · exact h.goTo hrecords trivial
      · refine h.put hstanding (hfresh party read written endpoints hthread hfault) hrecords ?_
        rcases hend with ⟨rfl, rfl⟩ | ⟨⟨id, payload, rfl⟩, rfl⟩ | ⟨hno, rfl⟩
        · trivial
        · obtain ⟨hid, -, hshows⟩ := hstanding
          obtain ⟨hread, hshows⟩ := hshows id payload rfl
          exact ⟨List.mem_cons_self, hid.trans hread, hshows⟩
        · cases party with
          | endpointUpdate id payload => exact absurd rfl (hno id payload)
          | _ => trivial
    · by_cases hdeleting : stage = .deleting
      · subst hdeleting
        obtain ⟨rfl, hno, hdelete⟩ := deleting_cases hstanding hrun
        rcases hdelete with ⟨id, rfl, hrecords⟩ | ⟨hno', hrecords⟩
        · exact h.delete hrecords
        · cases party with
          | endpointDelete id => exact absurd rfl (hno' id)
          | endpointUpdate id payload => exact absurd rfl (hno id payload)
          | _ => exact h.goTo hrecords trivial
      · have hno : ∀ read written endpoints, stage ≠ .writing read written endpoints :=
          fun read written endpoints heq => hwriting ⟨read, written, endpoints, heq⟩
        have hevents : Event.of party stage = [] := by
          cases stage with
          | writing read written endpoints => exact absurd rfl (hno read written endpoints)
          | deleting => exact absurd rfl hdeleting
          | _ => cases party <;> rfl
        have hrecords := (frames_advance hno hdeleting :
          Frames (advance services t.snapshot party stage) records).run ⟨p.server, t.faults⟩
        rw [hrun] at hrecords
        rw [hevents]
        exact h.goTo hrecords (standing_advance hno hdeleting hstanding hrun)

/-- **No update is lost**, and no deleted record comes back, in every run in
which nobody writes over a change. -/
theorem noLostUpdate_of_run {server : Server} {parties : List Party} {turns : List Turn}
    (hfresh : (interleavings services).Along Fresh (.start server parties) turns)
    (hrun : (interleavings services).run (.start server parties) turns = some p) : NoLostUpdate p := by
  have hstep : ∀ p t p', Sound p → Fresh p t → (interleavings services).step p t = some p' → Sound p' :=
    fun _ _ _ h hf hturn => h.turn hf hturn
  exact (Machine.run_invariant hstep sound_start hfresh hrun).noLostUpdate

/-! ## An update and a check-in -/

/-- The environment of an Edge agent. -/
def edgeServer : Server where
  dataStore :=
    { endpoint := ({} : Bucket Endpoint).put
        { id := 1, name := "old", type := .edgeAgentOnDockerEnvironment, edgeID := "agent" } }

/-- Its name is changed, and its agent checks in. -/
def nameUpdateAndCheckIn : Pool :=
  .start edgeServer [.endpointUpdate 1 { name := some "new" }, .checkIn ⟨"agent", "", 0⟩ 1]

theorem fresh_of_reading {party : Party} {stage : Stage} (hthread : p.threads[t.thread]? = some (party, stage))
    (hstage : ∀ read written endpoints, stage ≠ .writing read written endpoints) : Fresh p t := by
  intro party' read written endpoints hwriting _
  have heq : stage = .writing read written endpoints := by
    rw [hthread] at hwriting
    exact (Prod.mk.inj (Option.some.inj hwriting)).2
  exact absurd heq (hstage read written endpoints)

theorem fresh_of_unchanged {party : Party} {read e : Endpoint} {endpoints : List Endpoint}
    (hthread : p.threads[t.thread]? = some (party, .writing read written endpoints))
    (hget : p.server.dataStore.endpoint.get? read.id = some e) (hsame : ∀ f : Field, f.Same e read) :
    Fresh p t := by
  intro party' read' written' endpoints' hwriting _
  rw [hthread] at hwriting
  obtain ⟨-, hstage⟩ := Prod.mk.inj (Option.some.inj hwriting)
  obtain ⟨rfl, -, -⟩ := Stage.writing.inj hstage
  exact ⟨e, hget, fun f _ => hsame f⟩

/-- The turns in which the update is over before the check-in begins. -/
def apart : List Turn :=
  [{ thread := 0 }, { thread := 0 }, { thread := 0 }, { thread := 0 }, { thread := 1 }, { thread := 1 }]

/-- The update and the check-in apart: the name is the new one. -/
theorem noLostUpdate_of_run_apart : ∃ p, (interleavings Inventory.plainServices).run nameUpdateAndCheckIn
    apart = some p ∧ p.log ≠ [] ∧ NoLostUpdate p := by
  have hfresh : (interleavings Inventory.plainServices).Along Fresh nameUpdateAndCheckIn apart := by
    refine ⟨fresh_of_reading rfl fun _ _ _ h => (by cases h), fun p₁ h₁ => ?_⟩
    obtain rfl := Option.some.inj h₁
    refine ⟨fresh_of_reading rfl fun _ _ _ h => (by cases h), fun p₂ h₂ => ?_⟩
    obtain rfl := Option.some.inj h₂
    refine ⟨fresh_of_unchanged rfl rfl fun _ => Field.same_refl, fun p₃ h₃ => ?_⟩
    obtain rfl := Option.some.inj h₃
    refine ⟨fresh_of_reading rfl fun _ _ _ h => (by cases h), fun p₄ h₄ => ?_⟩
    obtain rfl := Option.some.inj h₄
    refine ⟨fresh_of_reading rfl fun _ _ _ h => (by cases h), fun p₅ h₅ => ?_⟩
    obtain rfl := Option.some.inj h₅
    exact ⟨fresh_of_unchanged rfl rfl fun _ => Field.same_refl, fun _ _ => trivial⟩
  exact ⟨_, rfl, by decide, noLostUpdate_of_run hfresh rfl⟩

/-- **An update is lost**: the agent checks in while the update is on its
way, and writes the record back as it was. Both have answered with
success. -/
theorem lostUpdate : ¬ ∀ p, (interleavings Inventory.plainServices).run nameUpdateAndCheckIn
    [{ thread := 1 }, { thread := 0 }, { thread := 0 }, { thread := 0 }, { thread := 0 }, { thread := 1 }] =
      some p → NoLostUpdate p := by
  intro h
  have hrun : ∃ p e w, (interleavings Inventory.plainServices).run nameUpdateAndCheckIn
      [{ thread := 1 }, { thread := 0 }, { thread := 0 }, { thread := 0 }, { thread := 0 }, { thread := 1 }] =
        some p ∧ p.server.dataStore.endpoint.get? 1 = some e ∧ lastSet .name 1 p.log = some w ∧
        e.name = "old" ∧ w.name = "new" := ⟨_, _, _, rfl, rfl, rfl, rfl, rfl⟩
  obtain ⟨p, e, w, hrun, he, hw, hold, hnew⟩ := hrun
  have hsame : e.name = w.name := (h p hrun).field 1 e .name w he hw
  rw [hold, hnew] at hsame
  exact absurd hsame (by decide)

end Environments

end Portainer
