import Portainer.Inventory.Helpers.Tables
import Portainer.Inventory.Model.EdgeStacks
/-!
# What the Edge stack handlers do

The endpoints of a list of groups, the loop over their relations, and the
first half of a creation, each with the calls it needs to go through.
-/

namespace Portainer

open Action (Returns Ensures)

namespace Inventory

variable {s : Server} {w w' : Sys Callee Server}

/-! ## The endpoints of a list of groups -/

/-- The endpoints of a group; none if it is not there. -/
def groupTargets (s : Server) (edgeGroupID : EdgeGroupID) : List EndpointID :=
  match s.dataStore.edgeGroup.get? edgeGroupID with
  | none => []
  | some edgeGroup =>
    edgeGroupRelatedEndpoints edgeGroup s.dataStore.endpoint.all s.dataStore.endpointGroup.all

/-- The endpoints of the groups of a list, group after group, with
repetitions. -/
def targets (s : Server) (edgeGroupIDs : List EdgeGroupID) : List EndpointID :=
  edgeGroupIDs.flatMap (groupTargets s)

/-- Every group of the list is there. -/
def AllExist (s : Server) (edgeGroupIDs : List EdgeGroupID) : Prop :=
  ∀ i ∈ edgeGroupIDs, (s.dataStore.edgeGroup.get? i).isSome

instance {edgeGroupIDs : List EdgeGroupID} : Decidable (AllExist s edgeGroupIDs) :=
  inferInstanceAs (Decidable (∀ i ∈ edgeGroupIDs, _))

/-- What the handlers read, of a server. -/
def recordsOf (s : Server) : Records :=
  ⟨s.dataStore.endpoint.all, s.dataStore.endpointGroup.all, s.dataStore.edgeGroup.all⟩

theorem collect_eq (acc : List EndpointID) (edgeGroupIDs : List EdgeGroupID) :
    edgeStackRelatedEndpoints.collect s.dataStore.endpoint.all s.dataStore.endpointGroup.all
        s.dataStore.edgeGroup.all acc edgeGroupIDs =
      if AllExist s edgeGroupIDs then .ok (acc ++ targets s edgeGroupIDs)
      else .error "Edge group was not found" := by
  induction edgeGroupIDs generalizing acc with
  | nil => simp [edgeStackRelatedEndpoints.collect, AllExist, targets]
  | cons i rest ih =>
    have hfind : s.dataStore.edgeGroup.all.find? (fun g => g.id = i) =
        s.dataStore.edgeGroup.get? i := Bucket.find?_all
    rw [edgeStackRelatedEndpoints.collect, hfind]
    cases hget : s.dataStore.edgeGroup.get? i with
    | none => simp [AllExist, hget]
    | some edgeGroup =>
      simp only [ih]
      simp [AllExist, hget, targets, groupTargets, List.append_assoc]

/-- The endpoints are computed if all the groups are there. -/
theorem related_recordsOf (edgeGroupIDs : List EdgeGroupID) :
    (recordsOf s).related edgeGroupIDs =
      if AllExist s edgeGroupIDs then .ok (targets s edgeGroupIDs)
      else .error "Edge group was not found" :=
  collect_eq [] edgeGroupIDs

/-- The endpoints that are gone over where the error is dropped. -/
def looped (s : Server) (edgeGroupIDs : List EdgeGroupID) : List EndpointID :=
  if AllExist s edgeGroupIDs then targets s edgeGroupIDs else []

theorem relatedOrNone_recordsOf (edgeGroupIDs : List EdgeGroupID) :
    (recordsOf s).relatedOrNone edgeGroupIDs = looped s edgeGroupIDs := by
  unfold Records.relatedOrNone looped
  rw [related_recordsOf]
  split_ifs <;> rfl

theorem returns_readRecords : Returns readRecords s (· = recordsOf s) := by
  refine Table.returns_getAll_mapError.bind fun endpoints h₁ => ?_
  refine Table.returns_getAll_mapError.bind fun endpointGroups h₂ => ?_
  refine Table.returns_getAll_mapError.bind fun edgeGroups h₃ => ?_
  exact .pure (by rw [h₁, h₂, h₃]; rfl)

theorem readRecords_run_ok {records : Records} : readRecords.run w = (.ok records, w') ↔
    w.Clear .databaseRead 3 ∧ recordsOf w.store = records ∧
      ((w.spend .databaseRead).spend .databaseRead).spend .databaseRead = w' := by
  simp only [readRecords, Table.getAll, Action.bind_run_ok, Action.mapError_run_ok,
    Action.query_run_ok_iff, Action.pure_run_ok, Sys.clear_succ, Sys.clear_zero, and_true]
  constructor
  · rintro ⟨_, _, ⟨h₁, rfl, rfl⟩, _, _, ⟨h₂, rfl, rfl⟩, _, _, ⟨h₃, rfl, rfl⟩, rfl, rfl⟩
    exact ⟨⟨h₁, h₂, h₃⟩, rfl, rfl⟩
  · rintro ⟨⟨h₁, h₂, h₃⟩, rfl, rfl⟩
    exact ⟨_, _, ⟨h₁, rfl, rfl⟩, _, _, ⟨h₂, rfl, rfl⟩, _, _, ⟨h₃, rfl, rfl⟩, rfl, rfl⟩

/-! ## The loop over the relations -/

/-- One turn goes through if the relation is there and neither call
fails. -/
theorem changeRelation_run_ok {change : EndpointRelation → EndpointRelation} {i : EndpointID}
    {u : Unit} : (changeRelation change i).run w = (.ok u, w') ↔
      w.fault .databaseRead = none ∧ w.fault .databaseWrite = none ∧
        ∃ relation, w.store.dataStore.endpointRelation.get? i = some relation ∧
          { (w.spend .databaseRead).spend .databaseWrite with
            store := Server.endpointRelation.change (·.put (change relation)) w.store } = w' := by
  have hspend : (w.spend .databaseRead).fault .databaseWrite = w.fault .databaseWrite :=
    Sys.fault_spend_of_ne (by decide)
  simp only [changeRelation, Table.getObject, Table.updateObject, Action.bind_run_ok, Action.mapError_run_ok,
    Action.lookup_run_ok_iff, Action.call_run_ok_iff]
  constructor
  · rintro ⟨relation, _, ⟨hread, hget, rfl⟩, hwrite, rfl⟩
    exact ⟨hread, hspend ▸ hwrite, relation, hget, rfl⟩
  · rintro ⟨hread, hwrite, relation, hget, rfl⟩
    exact ⟨relation, _, ⟨hread, hget, rfl⟩, hspend.trans hwrite, rfl⟩

/-- **The loop succeeds** exactly if every relation is there and no call
fails, once for each turn. -/
theorem changeRelations_succeeds_iff (change : EndpointRelation → EndpointRelation)
    (hchange : ∀ relation, key (change relation) = key relation) (ids : List EndpointID) :
    (∃ w', (changeRelations change ids).run w = (.ok ⟨⟩, w')) ↔
      (∀ i ∈ ids, (w.store.dataStore.endpointRelation.get? i).isSome) ∧
        w.Clear .databaseRead ids.length ∧ w.Clear .databaseWrite ids.length := by
  induction ids generalizing w with
  | nil => simp [changeRelations, Sys.clear_zero]
  | cons i ids ih =>
    -- what the first turn leaves, as far as the others look at it
    have hturn : ∀ relation, w.store.dataStore.endpointRelation.get? i = some relation →
        let w₁ : Sys Callee Server := { (w.spend .databaseRead).spend .databaseWrite with
          store := Server.endpointRelation.change (·.put (change relation)) w.store }
        ((∀ j ∈ ids, (w₁.store.dataStore.endpointRelation.get? j).isSome) ↔
          ∀ j ∈ ids, (w.store.dataStore.endpointRelation.get? j).isSome) ∧
        (w₁.Clear .databaseRead ids.length ↔ (w.spend .databaseRead).Clear .databaseRead ids.length) ∧
        (w₁.Clear .databaseWrite ids.length ↔
          (w.spend .databaseWrite).Clear .databaseWrite ids.length) := by
      intro relation hget
      have hkey : key relation = i := Bucket.key_of_get? hget
      refine ⟨forall₂_congr fun j _ => ?_, ?_, ?_⟩
      · change ((w.store.dataStore.endpointRelation.put (change relation)).get? j).isSome ↔ _
        rw [Bucket.get?_put, hchange, hkey]
        split
        · rename_i hij
          simp [← hij, hget]
        · rfl
      · rw [Sys.clear_withStore, Sys.clear_spend_of_ne (by decide)]
      · rw [Sys.clear_withStore]
        simp only [Sys.Clear, Sys.spend, reduceCtorEq, if_true, if_false]
    simp only [changeRelations, Action.forM_cons, Action.bind_run_ok, changeRelation_run_ok,
      List.forall_mem_cons, List.length_cons, Sys.clear_succ]
    constructor
    · rintro ⟨w', -, _, ⟨hread, hwrite, relation, hget, rfl⟩, hrest⟩
      obtain ⟨hall, hr, hw⟩ := ih.mp ⟨w', hrest⟩
      obtain ⟨e₁, e₂, e₃⟩ := hturn relation hget
      exact ⟨⟨by simp [hget], e₁.mp hall⟩, ⟨hread, e₂.mp hr⟩, hwrite, e₃.mp hw⟩
    · rintro ⟨⟨hi, hall⟩, ⟨hread, hr⟩, hwrite, hw⟩
      obtain ⟨relation, hget⟩ := Option.isSome_iff_exists.mp hi
      obtain ⟨e₁, e₂, e₃⟩ := hturn relation hget
      obtain ⟨w', hrest⟩ := ih.mpr ⟨e₁.mpr hall, e₂.mpr hr, e₃.mpr hw⟩
      exact ⟨w', ⟨⟩, _, ⟨hread, hwrite, relation, hget, rfl⟩, hrest⟩

/-- The turns of the loop, all together. -/
def alterRelations (change : EndpointRelation → EndpointRelation) (ids : List EndpointID)
    (s : Server) : Server :=
  Server.endpointRelation.change (·.alterAll change ids) s

theorem ensures_changeRelations (change : EndpointRelation → EndpointRelation)
    (ids : List EndpointID) :
    Ensures (changeRelations change ids) s fun _ s' => s' = alterRelations change ids s := by
  refine (Ensures.forM_foldl (g := fun s i => Server.endpointRelation.change (·.alter change i) s)
    fun i _ s => ?_).conseq fun _ s' hs' => ?_
  · unfold changeRelation
    refine .read_bind Table.returns_getObject_mapError fun relation hget => ?_
    refine Table.ensures_updateObject_mapError.conseq fun _ s' hs' => ?_
    have hget' : s.dataStore.endpointRelation.get? i = some relation := hget
    rw [hs']
    simp only [Table.change, Server.endpointRelation, Bucket.alter, hget']
  · rw [hs', Server.lawful_endpointRelation.foldl_change fun i b => b.alter change i]
    rfl

/-! ## The first half of a creation -/

/-- The service that stores the files of a stack. -/
def SwarmStackPayload.filesCallee : SwarmStackPayload → Callee
  | .repository .. => .gitService
  | _ => .fileService

/-- The name is not taken. -/
def NameFree (services : Services) (name : String) (s : Server) : Prop :=
  s.dataStore.edgeStack.all.all (fun stack => !services.equalFold stack.name name) = true

/-- The creation gets as far as persisting the stack: the payload is
accepted, its name is not taken, and the calls go through up to there. The
first of the two writes is the draw of the identifier, whose failure is
ignored. -/
structure Persists (services : Services) (payload : SwarmStackPayload) (w : Sys Callee Server) :
    Prop where
  valid : payload.validate services = none
  read : w.fault .databaseRead = none
  nameFree : NameFree services payload.name w.store
  files : w.fault payload.filesCallee = none
  write : (w.spend .databaseWrite).fault .databaseWrite = none

/-- A stack of the payload has been persisted, and nothing else has
changed. Its identifier is above those drawn before. -/
structure Persisted (payload : SwarmStackPayload) (stack : EdgeStack) (s s' : Server) : Prop where
  edgeGroups : stack.edgeGroups = payload.edgeGroups
  rest : ∃ b, s' = Server.edgeStack.change (fun _ => b) s
  get? : ∀ i, s'.dataStore.edgeStack.get? i =
    if stack.id = i then some stack else s.dataStore.edgeStack.get? i
  fresh : s.dataStore.edgeStack.sequence < stack.id
  bound : stack.id ≤ s'.dataStore.edgeStack.sequence

theorem getNextIdentifier_run {ε : Type} {α : Type} [Record α] (t : Table α) :
    (t.getNextIdentifier : Action Callee Server ε Int).run w =
      match w.fault .databaseWrite with
      | none => (.ok (t.bucket (t.change Bucket.nextSequence w.store).dataStore).sequence,
          { w.spend .databaseWrite with store := t.change Bucket.nextSequence w.store })
      | some _ => (.ok 0, w.spend .databaseWrite) := by
  unfold Table.getNextIdentifier
  rw [Action.bind_run, Action.attempt_run, Action.call_run]
  cases w.fault .databaseWrite <;> rfl

theorem storeStackFiles_run_ok {services : Services} {payload : SwarmStackPayload} {folder path : String} :
    (storeStackFiles services payload folder).run w = (.ok path, w') ↔
      w.fault payload.filesCallee = none ∧ services.getEdgeStackProjectPath folder = path ∧
        w.spend payload.filesCallee = w' := by
  cases payload <;>
    simp only [storeStackFiles, Services.storeEdgeStackFile, SwarmStackPayload.filesCallee,
      Action.bind_run_ok, Action.call_run_ok_iff, Action.pure_run_ok]
  all_goals
    constructor
    · rintro ⟨_, _, ⟨hf, rfl⟩, rfl, rfl⟩
      exact ⟨hf, rfl, rfl⟩
    · rintro ⟨hf, rfl, rfl⟩
      exact ⟨⟨⟩, _, ⟨hf, rfl⟩, rfl, rfl⟩

theorem validateUniqueName_run_ok {services : Services} {name : String} {u : Unit} :
    (validateUniqueName services name).run w = (.ok u, w') ↔
      w.fault .databaseRead = none ∧ NameFree services name w.store ∧ w.spend .databaseRead = w' := by
  simp only [validateUniqueName, Table.getAll, Action.bind_run_ok, Action.query_run_ok_iff,
    Action.require_run_ok]
  constructor
  · rintro ⟨_, _, ⟨hf, rfl, rfl⟩, hfree, rfl⟩
    exact ⟨hf, hfree, rfl⟩
  · rintro ⟨hf, hfree, rfl⟩
    exact ⟨_, _, ⟨hf, rfl, rfl⟩, hfree, rfl⟩

theorem persistEdgeStack_run_ok {edgeStack stack : EdgeStack} :
    (persistEdgeStack edgeStack).run w = (.ok stack, w') ↔
      w.fault .databaseWrite = none ∧
        { edgeStack with
          id := if edgeStack.id = 0 then w.store.dataStore.edgeStack.next else edgeStack.id } = stack ∧
        { w.spend .databaseWrite with
          store := Server.edgeStack.change (fun b =>
            (if edgeStack.id = 0 then b.nextSequence else b).put stack) w.store } = w' := by
  simp only [persistEdgeStack, Action.bind_run_ok, Action.get_run_ok, Action.call_run_ok_iff,
    Action.pure_run_ok]
  constructor
  · rintro ⟨_, _, ⟨rfl, rfl⟩, _, _, ⟨hf, rfl⟩, rfl, rfl⟩
    exact ⟨hf, rfl, rfl⟩
  · rintro ⟨hf, rfl, rfl⟩
    exact ⟨_, _, ⟨rfl, rfl⟩, ⟨⟩, _, ⟨hf, rfl⟩, rfl, rfl⟩

/-- A stack put under the identifier it has or draws. -/
theorem persisted_put {payload : SwarmStackPayload} (edgeStack : EdgeStack) {stack : EdgeStack}
    {s₁ : Server} (hs₁ : (edgeStack.id = 0 ∧ s₁ = s) ∨ (edgeStack.id = s.dataStore.edgeStack.next ∧
      s₁ = Server.edgeStack.change Bucket.nextSequence s))
    (hgroups : edgeStack.edgeGroups = payload.edgeGroups)
    (hstack : { edgeStack with
      id := if edgeStack.id = 0 then s₁.dataStore.edgeStack.next else edgeStack.id } = stack) :
    Persisted payload stack s (Server.edgeStack.change (fun b =>
      (if edgeStack.id = 0 then b.nextSequence else b).put stack) s₁) := by
  have hid : stack.id = if edgeStack.id = 0 then s₁.dataStore.edgeStack.next else edgeStack.id := by
    rw [← hstack]
  have hseq : s₁.dataStore.edgeStack.sequence = s.dataStore.edgeStack.sequence ∨
      s₁.dataStore.edgeStack.sequence = s.dataStore.edgeStack.sequence + 1 := by
    obtain ⟨-, rfl⟩ | ⟨-, rfl⟩ := hs₁
    · exact .inl rfl
    · exact .inr rfl
  have hget₁ : ∀ i, s₁.dataStore.edgeStack.get? i = s.dataStore.edgeStack.get? i := by
    obtain ⟨-, rfl⟩ | ⟨-, rfl⟩ := hs₁ <;> exact fun _ => rfl
  refine ⟨by rw [← hstack]; exact hgroups, ?_, fun i => ?_, ?_, ?_⟩
  · obtain ⟨-, rfl⟩ | ⟨-, rfl⟩ := hs₁
    · exact ⟨_, rfl⟩
    · exact ⟨_, Server.lawful_edgeStack.change_change _ _⟩
  · rw [← hget₁]
    change ((if edgeStack.id = 0 then s₁.dataStore.edgeStack.nextSequence
      else s₁.dataStore.edgeStack).put stack).get? i = _
    rw [Bucket.get?_put, show key stack = stack.id from rfl]
    split_ifs <;> rfl
  · rw [hid]
    by_cases h0 : edgeStack.id = 0
    · rw [if_pos h0, Bucket.next]
      omega
    · rw [if_neg h0]
      obtain ⟨h, -⟩ | ⟨h, -⟩ := hs₁
      · exact absurd h h0
      · rw [h, Bucket.next]
        omega
  · change stack.id ≤ (if edgeStack.id = 0 then s₁.dataStore.edgeStack.nextSequence
      else s₁.dataStore.edgeStack).sequence
    rw [hid]
    by_cases h0 : edgeStack.id = 0
    · rw [if_pos h0, if_pos h0]
      exact Int.le_refl _
    · rw [if_neg h0, if_neg h0]
      obtain ⟨h, -⟩ | ⟨h, rfl⟩ := hs₁
      · exact absurd h h0
      · exact Int.le_of_eq h

/-- The stack as it is handed to `CreateEdgeStack`. -/
def stackOf (services : Services) (payload : SwarmStackPayload) (now : Int) (stackID : EdgeStackID) :
    EdgeStack :=
  { id := stackID
    name := payload.name
    entryPoint := payload.entryPoint
    creationDate := now
    edgeGroups := payload.edgeGroups
    projectPath := services.getEdgeStackProjectPath (toString stackID)
    version := 1 }

/-- **Where the calls go through, the stack is persisted.** -/
theorem createSwarmStack_run_of_persists {services : Services} {payload : SwarmStackPayload}
    (now : Int) (h : Persists services payload w) :
    ∃ stack w', (createSwarmStack services payload now).run w = (.ok stack, w') ∧
      Persisted payload stack w.store w'.store ∧
      w'.faults .databaseRead = (w.spend .databaseRead).faults .databaseRead ∧
      w'.faults .databaseWrite =
        ((w.spend .databaseWrite).spend .databaseWrite).faults .databaseWrite := by
  have hcallee : payload.filesCallee ≠ .databaseRead ∧ payload.filesCallee ≠ .databaseWrite := by
    cases payload <;> exact ⟨nofun, nofun⟩
  -- the draw of the identifier, which goes on in any case
  obtain ⟨stackID, s₁, hdraw, hs₁⟩ : ∃ stackID s₁,
      (Server.edgeStack.getNextIdentifier : Action Callee Server String Int).run
          (w.spend .databaseRead) =
        (.ok stackID, { (w.spend .databaseRead).spend .databaseWrite with store := s₁ }) ∧
      ((stackID = 0 ∧ s₁ = w.store) ∨ (stackID = w.store.dataStore.edgeStack.next ∧
        s₁ = Server.edgeStack.change Bucket.nextSequence w.store)) := by
    rw [getNextIdentifier_run]
    cases (w.spend .databaseRead).fault .databaseWrite with
    | none => exact ⟨_, _, rfl, .inr ⟨rfl, rfl⟩⟩
    | some text => exact ⟨_, _, rfl, .inl ⟨rfl, rfl⟩⟩
  let w₂ : Sys Callee Server := { (w.spend .databaseRead).spend .databaseWrite with store := s₁ }
  have hfiles : w₂.fault payload.filesCallee = none := by
    have h₁ : w₂.fault payload.filesCallee = (w.spend .databaseRead).fault payload.filesCallee :=
      Sys.fault_spend_of_ne hcallee.2
    rw [h₁, Sys.fault_spend_of_ne hcallee.1, h.files]
  have hwrite : (w₂.spend payload.filesCallee).fault .databaseWrite = none := by
    rw [Sys.fault_spend_of_ne (Ne.symm hcallee.2), ← h.write]
    simp [w₂, Sys.fault, Sys.spend]
  let edgeStack := stackOf services payload now stackID
  let stack : EdgeStack := { edgeStack with
    id := if edgeStack.id = 0 then s₁.dataStore.edgeStack.next else edgeStack.id }
  let s₂ := Server.edgeStack.change (fun b =>
    (if edgeStack.id = 0 then b.nextSequence else b).put stack) s₁
  refine ⟨stack, { (w₂.spend payload.filesCallee).spend .databaseWrite with store := s₂ }, ?_,
    persisted_put edgeStack hs₁ rfl rfl, ?_, ?_⟩
  · unfold createSwarmStack
    rw [h.valid]
    rw [Action.bind_run_of_ok (validateUniqueName_run_ok (u := ()).mpr ⟨h.read, h.nameFree, rfl⟩),
      Action.bind_run_of_ok hdraw,
      Action.bind_run_of_ok (storeStackFiles_run_ok.mpr ⟨hfiles, rfl, rfl⟩)]
    exact persistEdgeStack_run_ok.mpr ⟨hwrite, rfl, rfl⟩
  · simp [w₂, Sys.spend, Ne.symm hcallee.1]
  · simp [w₂, Sys.spend, Ne.symm hcallee.2]

/-- A creation that gets through its first half has gone as far as
persisting the stack. -/
theorem persists_of_run_ok {services : Services} {payload : SwarmStackPayload} {now : Int}
    {stack : EdgeStack} (hrun : (createSwarmStack services payload now).run w = (.ok stack, w')) :
    Persists services payload w := by
  unfold createSwarmStack at hrun
  cases hvalid : payload.validate services with
  | some err =>
    rw [hvalid] at hrun
    exact absurd hrun Action.fail_run_ok
  | none =>
    rw [hvalid] at hrun
    obtain ⟨_, w₁, hname, hrun⟩ := Action.bind_run_ok.mp hrun
    obtain ⟨hread, hfree, rfl⟩ := validateUniqueName_run_ok.mp hname
    obtain ⟨stackID, w₂, hdraw, hrun⟩ := Action.bind_run_ok.mp hrun
    obtain ⟨path, w₃, hstore, hrun⟩ := Action.bind_run_ok.mp hrun
    obtain ⟨hfiles, -, rfl⟩ := storeStackFiles_run_ok.mp hstore
    obtain ⟨hwrite, -, -⟩ := persistEdgeStack_run_ok.mp hrun
    have hcallee : payload.filesCallee ≠ .databaseRead ∧ payload.filesCallee ≠ .databaseWrite := by
      cases payload <;> exact ⟨nofun, nofun⟩
    have hw₂ : w₂.faults = ((w.spend .databaseRead).spend .databaseWrite).faults := by
      rw [getNextIdentifier_run] at hdraw
      cases hf : (w.spend .databaseRead).fault .databaseWrite <;> rw [hf] at hdraw
      all_goals
        simp only [Prod.mk.injEq] at hdraw
        rw [← hdraw.2]
    refine ⟨hvalid, hread, hfree, ?_, ?_⟩
    · rw [← hfiles, Sys.fault, Sys.fault, hw₂, Sys.faults_spend_of_ne hcallee.2,
        Sys.faults_spend_of_ne hcallee.1]
    · rw [← hwrite, Sys.fault_spend_of_ne (Ne.symm hcallee.2), Sys.fault, Sys.fault, hw₂]
      simp [Sys.spend]

end Inventory

end Portainer
