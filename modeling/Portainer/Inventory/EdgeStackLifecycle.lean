import Portainer.Inventory.Helpers.EdgeStacks
import Portainer.Inventory.Model.EdgeGroups
import Portainer.Inventory.Model.Endpoints
/-!
# Edge stacks — created or not at all, and deleted without trace

A creation persists the stack before it knows the endpoints, and ignores a
group that is missing. So it is all or nothing exactly if it stops before
the stack is persisted, or goes through to the end with all the groups and
all the relations there (`createdOrUntouched_iff`). A deletion removes the
stack first and ignores a missing group as well; it leaves no relation that
names the stack exactly if the endpoints of the groups, with all the groups
there, are those whose relations do (`deletesEverywhere_iff`).
-/

namespace Portainer

open Action (Meets Ensures)

namespace Inventory

variable {services : Services} {payload : SwarmStackPayload} {now : Int} {s : Server}
variable {w w' : Sys Callee Server}

/-! ## The two properties -/

/-- The stack is persisted, every listed group is there, and the relation
of every endpoint of these groups names the stack. -/
structure Deployed (edgeGroups : List EdgeGroupID) (stack : EdgeStack) (s : Server) : Prop where
  persisted : s.dataStore.edgeStack.get? stack.id = some stack
  allExist : AllExist s edgeGroups
  named : ∀ e ∈ targets s edgeGroups, ∃ relation,
    s.dataStore.endpointRelation.get? e = some relation ∧ stack.id ∈ relation.edgeStacks

/-- No Edge stack and no relation has changed. -/
def Untouched (s s' : Server) : Prop :=
  (∀ i, s'.dataStore.edgeStack.get? i = s.dataStore.edgeStack.get? i) ∧
    ∀ i, s'.dataStore.endpointRelation.get? i = s.dataStore.endpointRelation.get? i

/-- **All or nothing**: the creation succeeds with the stack deployed, or
fails with nothing changed. -/
def CreatedOrUntouched (services : Services) (payload : SwarmStackPayload) (now : Int)
    (w : Sys Callee Server) : Prop :=
  match (edgeStackCreate services payload now).run w with
  | (.ok stack, w') => Deployed payload.edgeGroups stack w'.store
  | (.error _, w') => Untouched w.store w'.store

/-- **The stack can be deleted**, and no relation names it afterwards. -/
def DeletesEverywhere (id : EdgeStackID) (s : Server) : Prop :=
  ∃ w', (edgeStackDelete id).run (.faultless s) = (.ok (), w') ∧
    w'.store.dataStore.edgeStack.get? id = none ∧
    ∀ relation ∈ w'.store.dataStore.endpointRelation.all, id ∉ relation.edgeStacks

/-! ## The two conditions -/

/-- If the stack gets persisted, then the groups are all there, so are the
relations of their endpoints, and every later call goes through: three
reads, and a read and a write for each endpoint. -/
def ThroughIfPersisted (services : Services) (payload : SwarmStackPayload) (w : Sys Callee Server) :
    Prop :=
  let endpoints := targets w.store payload.edgeGroups
  Persists services payload w →
    AllExist w.store payload.edgeGroups ∧
    (∀ e ∈ endpoints, (w.store.dataStore.endpointRelation.get? e).isSome) ∧
    w.Clear .databaseRead (endpoints.length + 4) ∧
    (w.spend .databaseWrite).Clear .databaseWrite (endpoints.length + 1)

/-- Every endpoint of the groups has a relation, if the groups are all
there; and a relation that names the stack is of such an endpoint. -/
def Reached (stack : EdgeStack) (s : Server) : Prop :=
  (AllExist s stack.edgeGroups →
    ∀ e ∈ targets s stack.edgeGroups, (s.dataStore.endpointRelation.get? e).isSome) ∧
  ∀ relation ∈ s.dataStore.endpointRelation.all, stack.id ∈ relation.edgeStacks →
    AllExist s stack.edgeGroups ∧ relation.endpointID ∈ targets s stack.edgeGroups

/-! ## Creation -/

theorem Untouched.refl : Untouched s s := ⟨fun _ => rfl, fun _ => rfl⟩

/-- A creation that fails in its first half has changed nothing. -/
theorem createSwarmStack_untouched {e : String}
    (hrun : (createSwarmStack services payload now).run w = (.error e, w')) :
    Untouched w.store w'.store := by
  have hmeets : Meets (fun _ => False) (Untouched w.store) (createSwarmStack services payload now)
      (fun _ _ => True) fun _ => Untouched w.store := by
    unfold createSwarmStack
    cases payload.validate services with
    | some err => exact .fail fun _ hs => hs
    | none =>
      refine .bind (M := fun _ => Untouched w.store) ?_ fun _ => ?_
      · refine .bind (M := fun _ => Untouched w.store) (.query (fun _ hs => hs) fun _ _ _ hs => hs)
          fun _ => ?_
        exact .require (fun _ hs _ => hs) fun _ hs _ => hs
      · refine .bind (M := fun _ => Untouched w.store) ?_ fun stackID => ?_
        · refine .bind (M := fun _ => Untouched w.store)
            (.attempt (.call (fun _ hs => hs) fun _ _ _ hs => hs)) fun r => ?_
          cases r with
          | error _ => exact .pure fun _ hs => hs
          | ok _ => exact .get fun _ hs => hs
        · refine .bind (M := fun _ => Untouched w.store) ?_ fun path => ?_
          · cases payload
            all_goals
              exact .bind (M := fun _ => Untouched w.store) (.call (fun _ hs => hs)
                fun _ _ _ hs => hs) fun _ => .pure fun _ hs => hs
          · refine .bind (M := fun _ => Untouched w.store) (.get fun _ hs => hs) fun _ => ?_
            refine .bind (M := fun _ _ => True) (.call (fun _ _ => trivial) fun _ _ _ hs => hs)
              fun _ => ?_
            exact .pure fun _ _ => trivial
  have hend := hmeets.ends (w := w) (fun _ hk => hk.elim) Untouched.refl
  rwa [hrun] at hend

theorem recordsOf_persisted {stack : EdgeStack} {s' : Server} (h : Persisted payload stack s s') :
    recordsOf s' = recordsOf s := by
  obtain ⟨b, rfl⟩ := h.rest
  rfl

theorem targets_congr {s' : Server} (h : recordsOf s' = recordsOf s) (edgeGroups : List EdgeGroupID) :
    targets s' edgeGroups = targets s edgeGroups ∧ (AllExist s' edgeGroups ↔ AllExist s edgeGroups) := by
  simp only [recordsOf, Records.mk.injEq] at h
  have hget : ∀ i, s'.dataStore.edgeGroup.get? i = s.dataStore.edgeGroup.get? i := by
    intro i
    rw [← Bucket.find?_all, ← Bucket.find?_all, h.2.2]
  refine ⟨List.flatMap_congr fun i _ => ?_, forall₂_congr fun i _ => by rw [hget]⟩
  rw [groupTargets, groupTargets, hget, h.1, h.2.1]

/-- The second half of a creation. -/
def deploy (stack : EdgeStack) : Handler Server EdgeStack := do
  let records ← readRecords
  changeRelations (withEdgeStack stack.id) (records.relatedOrNone stack.edgeGroups)
  return stack

theorem edgeStackCreate_run_of_persists (now : Int) (h : Persists services payload w) :
    ∃ stack w₁, Persisted payload stack w.store w₁.store ∧
      w₁.faults .databaseRead = (w.spend .databaseRead).faults .databaseRead ∧
      w₁.faults .databaseWrite =
        ((w.spend .databaseWrite).spend .databaseWrite).faults .databaseWrite ∧
      (edgeStackCreate services payload now).run w = (deploy stack).run w₁ := by
  obtain ⟨stack, w₁, hrun, hpersisted, hread, hwrite⟩ := createSwarmStack_run_of_persists now h
  refine ⟨stack, w₁, hpersisted, hread, hwrite, ?_⟩
  unfold edgeStackCreate deploy
  rw [Action.bind_run_of_ok (Action.mapError_run_ok.mpr hrun)]

theorem ensures_deploy {stack : EdgeStack} : Ensures (deploy stack) s fun stack' s' =>
    stack' = stack ∧
      s' = alterRelations (withEdgeStack stack.id) (looped s stack.edgeGroups) s := by
  refine .read_bind returns_readRecords fun records hrecords => ?_
  rw [hrecords, relatedOrNone_recordsOf]
  exact .move_bind (ensures_changeRelations _ _) fun _ => .pure ⟨rfl, rfl⟩

/-- **The second half succeeds** exactly if the relations are there and the
calls go through. -/
theorem deploy_succeeds_iff {stack : EdgeStack} : (∃ w', (deploy stack).run w = (.ok stack, w')) ↔
    (∀ e ∈ looped w.store stack.edgeGroups, (w.store.dataStore.endpointRelation.get? e).isSome) ∧
      w.Clear .databaseRead ((looped w.store stack.edgeGroups).length + 3) ∧
      w.Clear .databaseWrite (looped w.store stack.edgeGroups).length := by
  let w₃ := ((w.spend .databaseRead).spend .databaseRead).spend .databaseRead
  have hloop := changeRelations_succeeds_iff (w := w₃) (withEdgeStack stack.id) (fun _ => rfl)
    (looped w.store stack.edgeGroups)
  have hwrite : ∀ n, w₃.Clear .databaseWrite n ↔ w.Clear .databaseWrite n := fun n => by
    simp only [w₃, Sys.clear_spend_of_ne (show Callee.databaseWrite ≠ .databaseRead by decide)]
  have hread : ∀ n, w.Clear .databaseRead (n + 3) ↔
      w.Clear .databaseRead 3 ∧ w₃.Clear .databaseRead n := fun n => by
    simp only [w₃, Sys.clear_succ, Sys.clear_zero, and_true, and_assoc]
  rw [hwrite] at hloop
  rw [hread]
  constructor
  · rintro ⟨w', hrun⟩
    obtain ⟨records, _, hrecords, hrun⟩ := Action.bind_run_ok.mp hrun
    obtain ⟨hclear, rfl, rfl⟩ := readRecords_run_ok.mp hrecords
    rw [relatedOrNone_recordsOf] at hrun
    obtain ⟨_, w₄, hchange, -⟩ := Action.bind_run_ok.mp hrun
    obtain ⟨hall, hr, hw⟩ := hloop.mp ⟨w₄, hchange⟩
    exact ⟨hall, ⟨hclear, hr⟩, hw⟩
  · rintro ⟨hall, ⟨hclear, hr⟩, hw⟩
    obtain ⟨w₄, hchange⟩ := hloop.mpr ⟨hall, hr, hw⟩
    refine ⟨w₄, ?_⟩
    unfold deploy
    rw [Action.bind_run_of_ok (readRecords_run_ok.mpr ⟨hclear, rfl, rfl⟩), relatedOrNone_recordsOf,
      Action.bind_run_of_ok hchange]
    rfl

/-- The second half leaves the stacks as they are. -/
theorem edgeStack_deploy {stack : EdgeStack} {r : Except HandlerError EdgeStack}
    (hrun : (deploy stack).run w = (r, w')) :
    w'.store.dataStore.edgeStack = w.store.dataStore.edgeStack := by
  let Kept (s : Server) : Prop := s.dataStore.edgeStack = w.store.dataStore.edgeStack
  have hmeets : Meets (fun _ => False) Kept (deploy stack) (fun _ => Kept) fun _ => Kept := by
    refine .bind (M := fun _ => Kept) ?_ fun records => ?_
    · intro w₁ hR hs
      have hreads := returns_readRecords (s := w₁.store) w₁ hR rfl
      refine ⟨?_, hreads.2⟩
      rcases hrun₁ : readRecords.run w₁ with ⟨e | a, w₂⟩
      · rw [hrun₁] at hreads
        exact (congrArg (fun s : Server => s.dataStore.edgeStack) hreads.1).trans hs
      · rw [hrun₁] at hreads
        exact (congrArg (fun s : Server => s.dataStore.edgeStack) hreads.1.1).trans hs
    · refine .bind (M := fun _ => Kept) (.forM fun i _ => ?_) fun _ => .pure fun _ hs => hs
      refine .bind (M := fun _ => Kept) (.mapError (.lookup (fun _ _ hs _ => hs) (fun _ hs _ => hs)
        fun _ _ _ hs => hs)) fun relation => ?_
      exact .mapError (.call (fun _ hs => hs) fun _ _ _ hs => hs)
  have hend := hmeets.ends (w := w) (fun _ hk => hk.elim) rfl
  rw [hrun] at hend
  cases r <;> exact hend

/-- Nothing has been changed back once the stack is persisted. -/
theorem not_untouched_of_persisted {stack : EdgeStack} {s₁ s' : Server}
    (hbounded : s.dataStore.edgeStack.Bounded) (h : Persisted payload stack s s₁)
    (hs' : s'.dataStore.edgeStack = s₁.dataStore.edgeStack) : ¬ Untouched s s' := by
  intro hun
  have hnew : s'.dataStore.edgeStack.get? stack.id = some stack := by
    rw [hs', h.get?, if_pos rfl]
  have hold : s.dataStore.edgeStack.get? stack.id = none := by
    cases hget : s.dataStore.edgeStack.get? stack.id with
    | none => rfl
    | some a =>
      have := hbounded _ _ hget
      have := h.fresh
      omega
  rw [hun.1, hold] at hnew
  nomatch hnew

/-- The second half deploys the stack where it succeeds and the groups are
all there. -/
theorem deployed_of_deploy {stack stack' : EdgeStack} {s₁ : Server}
    (hpersisted : Persisted payload stack s s₁) (hw : w.store = s₁)
    (hrun : (deploy stack).run w = (.ok stack', w')) (hall : AllExist s payload.edgeGroups)
    (hsome : ∀ e ∈ targets s payload.edgeGroups, (s.dataStore.endpointRelation.get? e).isSome) :
    Deployed payload.edgeGroups stack' w'.store := by
  have hrecords := recordsOf_persisted hpersisted
  obtain ⟨ht, hexist⟩ := targets_congr hrecords payload.edgeGroups
  have hlooped : looped s₁ stack.edgeGroups = targets s payload.edgeGroups := by
    rw [hpersisted.edgeGroups, looped, if_pos (hexist.mpr hall), ht]
  obtain ⟨rfl, hstore⟩ := ensures_deploy w stack' w' hw hrun
  rw [hlooped] at hstore
  have hrecords' : recordsOf w'.store = recordsOf s := by rw [hstore]; exact hrecords
  obtain ⟨ht', hexist'⟩ := targets_congr hrecords' payload.edgeGroups
  refine ⟨?_, hexist'.mpr hall, fun e he => ?_⟩
  · rw [hstore]
    exact (hpersisted.get? stack'.id).trans (if_pos rfl)
  · rw [ht'] at he
    obtain ⟨relation, hrelation⟩ := Option.isSome_iff_exists.mp (hsome e he)
    have hrelation₁ : s₁.dataStore.endpointRelation.get? e = some relation := by
      obtain ⟨b, rfl⟩ := hpersisted.rest
      exact hrelation
    refine ⟨withEdgeStack stack'.id relation, ?_, Finset.mem_insert_self _ _⟩
    rw [hstore]
    change (s₁.dataStore.endpointRelation.alterAll (withEdgeStack stack'.id) _).get? e = _
    rw [Bucket.get?_alterAll (f := withEdgeStack stack'.id) (fun _ => rfl)
      fun _ => by simp [withEdgeStack], if_pos he, hrelation₁]
    rfl

/-- **When a creation is all or nothing.** -/
theorem createdOrUntouched_iff (hbounded : w.store.dataStore.edgeStack.Bounded) :
    CreatedOrUntouched services payload now w ↔ ThroughIfPersisted services payload w := by
  by_cases hp : Persists services payload w
  · obtain ⟨stack, w₁, hpersisted, hread, hwrite, hrun⟩ := edgeStackCreate_run_of_persists now hp
    have hrecords := recordsOf_persisted hpersisted
    obtain ⟨ht, hexist⟩ := targets_congr hrecords payload.edgeGroups
    have hrelations : w₁.store.dataStore.endpointRelation = w.store.dataStore.endpointRelation := by
      obtain ⟨b, hb⟩ := hpersisted.rest
      rw [hb]
      rfl
    have hclearRead : ∀ n, w.Clear .databaseRead (n + 1) ↔ w₁.Clear .databaseRead n := fun n => by
      rw [Sys.clear_succ, Sys.Clear, Sys.Clear, hread]
      exact and_iff_right hp.read
    have hclearWrite : ∀ n, (w.spend .databaseWrite).Clear .databaseWrite (n + 1) ↔
        w₁.Clear .databaseWrite n := fun n => by
      rw [Sys.clear_succ, Sys.Clear, Sys.Clear, hwrite]
      exact and_iff_right hp.write
    have hsucceeds := @deploy_succeeds_iff w₁ stack
    simp only [CreatedOrUntouched, ThroughIfPersisted, hrun, hclearRead, hclearWrite]
    constructor
    · intro h _
      rcases hdeploy : (deploy stack).run w₁ with ⟨e | stack', w'⟩
      · -- it fails, but the stack is there
        rw [hdeploy] at h
        exact absurd h (not_untouched_of_persisted hbounded hpersisted (edgeStack_deploy hdeploy))
      · rw [hdeploy] at h
        obtain ⟨rfl, hstore⟩ := ensures_deploy w₁ stack' w' rfl hdeploy
        have hrecords' : recordsOf w'.store = recordsOf w.store := by rw [hstore]; exact hrecords
        have hall := (targets_congr hrecords' payload.edgeGroups).2.mp h.allExist
        have hlooped : looped w₁.store stack'.edgeGroups = targets w.store payload.edgeGroups := by
          rw [hpersisted.edgeGroups, looped, if_pos (hexist.mpr hall), ht]
        obtain ⟨hsome, hr, hw⟩ := hsucceeds.mp ⟨w', hdeploy⟩
        rw [hlooped] at hsome hr hw
        exact ⟨hall, hrelations ▸ hsome, hr, hw⟩
    · intro h
      obtain ⟨hall, hsome, hr, hw⟩ := h hp
      have hlooped : looped w₁.store stack.edgeGroups = targets w.store payload.edgeGroups := by
        rw [hpersisted.edgeGroups, looped, if_pos (hexist.mpr hall), ht]
      obtain ⟨w', hdeploy⟩ := hsucceeds.mpr (by
        rw [hlooped, hrelations]
        exact ⟨hsome, hr, hw⟩)
      rw [hdeploy]
      exact deployed_of_deploy hpersisted rfl hdeploy hall hsome
  · refine iff_of_true ?_ fun h => absurd h hp
    unfold CreatedOrUntouched edgeStackCreate
    rcases hrun : (createSwarmStack services payload now).run w with ⟨e | stack, w'⟩
    · rw [Action.bind_run_of_error (Action.mapError_run_of_error hrun)]
      exact createSwarmStack_untouched hrun
    · exact absurd (persists_of_run_ok hrun) hp

/-! ## Deletion -/

theorem mem_looped {edgeGroups : List EdgeGroupID} {e : EndpointID} :
    e ∈ looped s edgeGroups ↔ AllExist s edgeGroups ∧ e ∈ targets s edgeGroups := by
  unfold looped
  split_ifs with h <;> simp [h]

/-- A deletion goes through exactly if the relations it changes are
there. -/
theorem edgeStackDelete_succeeds_iff {id : EdgeStackID} {stack : EdgeStack}
    (hstack : s.dataStore.edgeStack.get? id = some stack) :
    (∃ w', (edgeStackDelete id).run (.faultless s) = (.ok (), w')) ↔
      ∀ e ∈ looped s stack.edgeGroups, (s.dataStore.endpointRelation.get? e).isSome := by
  let s₁ := Server.edgeStack.change (·.delete id) s
  have hrun : (edgeStackDelete id).run (.faultless s) =
      (changeRelations (withoutEdgeStack stack.id) (looped s stack.edgeGroups)).run
        (.faultless s₁) := by
    have hget : (Server.edgeStack.getObject id).run (.faultless s) = (.ok stack, .faultless s) :=
      Action.lookup_run_faultless hstack
    have hdelete : (Server.edgeStack.deleteObject id).run (.faultless s) =
        (.ok (), .faultless s₁) := Action.call_run_faultless _ _
    unfold edgeStackDelete
    rw [Action.bind_run_of_ok (Action.mapError_run_ok.mpr hget),
      Action.bind_run_of_ok (Action.mapError_run_ok.mpr hdelete),
      Action.bind_run_of_ok (readRecords_run_ok.mpr ⟨Sys.clear_faultless _ _ _, rfl, rfl⟩),
      relatedOrNone_recordsOf]
    simp only [Sys.spend_faultless]
    rfl
  rw [hrun]
  refine (changeRelations_succeeds_iff (withoutEdgeStack stack.id) (fun _ => rfl) _).trans ?_
  exact and_iff_left ⟨Sys.clear_faultless _ _ _, Sys.clear_faultless _ _ _⟩

theorem ensures_edgeStackDelete {id : EdgeStackID} : Ensures (edgeStackDelete id) s fun _ s' =>
    ∃ stack, s.dataStore.edgeStack.get? id = some stack ∧
      s' = alterRelations (withoutEdgeStack stack.id) (looped s stack.edgeGroups)
        (Server.edgeStack.change (·.delete id) s) := by
  refine .read_bind Table.returns_getObject_mapError fun stack hstack => ?_
  refine .move_bind Table.ensures_deleteObject_mapError fun _ => ?_
  refine .read_bind returns_readRecords fun records hrecords => ?_
  rw [hrecords, relatedOrNone_recordsOf]
  exact (ensures_changeRelations _ _).conseq fun _ _ hs' => ⟨stack, hstack, hs'⟩

/-- The relations that name the stack after a deletion are those that it
does not change. -/
theorem notMem_alterRelations_iff {stackID : EdgeStackID} {ids : List EndpointID} :
    (∀ relation ∈ (alterRelations (withoutEdgeStack stackID) ids s).dataStore.endpointRelation.all,
        stackID ∉ relation.edgeStacks) ↔
      ∀ relation ∈ s.dataStore.endpointRelation.all, stackID ∈ relation.edgeStacks →
        relation.endpointID ∈ ids := by
  have hget : ∀ i, (alterRelations (withoutEdgeStack stackID) ids s).dataStore.endpointRelation.get? i =
      if i ∈ ids then (s.dataStore.endpointRelation.get? i).map (withoutEdgeStack stackID)
      else s.dataStore.endpointRelation.get? i := fun i =>
    Bucket.get?_alterAll (f := withoutEdgeStack stackID) (fun _ => rfl)
      fun _ => by simp [withoutEdgeStack]
  constructor
  · intro h relation hrelation hnames
    by_contra hi
    refine h relation (Bucket.mem_all_of_get? (i := relation.endpointID) ?_) hnames
    rw [hget, if_neg hi]
    exact Bucket.mem_all.mp hrelation
  · intro h relation hrelation hnames
    have hi := Bucket.mem_all.mp hrelation
    rw [hget] at hi
    split_ifs at hi with hmem
    · obtain ⟨old, -, rfl⟩ := Option.map_eq_some_iff.mp hi
      simp [withoutEdgeStack] at hnames
    · exact hmem (h relation (Bucket.mem_all_of_get? hi) hnames)

/-- **When a stack can be deleted without trace.** -/
theorem deletesEverywhere_iff {id : EdgeStackID} {stack : EdgeStack}
    (hstack : s.dataStore.edgeStack.get? id = some stack) :
    DeletesEverywhere id s ↔ Reached stack s := by
  have hid : stack.id = id := Bucket.key_of_get? hstack
  have hend : ∀ w', (edgeStackDelete id).run (.faultless s) = (.ok (), w') →
      (w'.store.dataStore.edgeStack.get? id = none ∧
        ∀ relation ∈ w'.store.dataStore.endpointRelation.all, id ∉ relation.edgeStacks) =
      ∀ relation ∈ s.dataStore.endpointRelation.all, id ∈ relation.edgeStacks →
        relation.endpointID ∈ looped s stack.edgeGroups := by
    intro w' hrun
    obtain ⟨_, hstack', hstore⟩ := ensures_edgeStackDelete _ _ _ rfl hrun
    obtain rfl := Option.some.inj (hstack.symm.trans hstack')
    rw [hstore, hid]
    refine propext ((and_iff_right ?_).trans notMem_alterRelations_iff)
    change (s.dataStore.edgeStack.delete id).get? id = none
    rw [Bucket.get?_delete, if_pos rfl]
  unfold DeletesEverywhere Reached
  rw [hid]
  constructor
  · rintro ⟨w', hrun, hafter⟩
    rw [hend w' hrun] at hafter
    have hsome := (edgeStackDelete_succeeds_iff hstack).mp ⟨w', hrun⟩
    exact ⟨fun hall e he => hsome e (mem_looped.mpr ⟨hall, he⟩),
      fun relation hr hn => mem_looped.mp (hafter relation hr hn)⟩
  · rintro ⟨hsome, hreached⟩
    obtain ⟨w', hrun⟩ := (edgeStackDelete_succeeds_iff hstack).mpr fun e he =>
      hsome (mem_looped.mp he).1 e (mem_looped.mp he).2
    refine ⟨w', hrun, ?_⟩
    rw [hend w' hrun]
    exact fun relation hr hn => mem_looped.mpr (hreached relation hr hn)

/-- **A creation is all or nothing** exactly if it goes through to the end
once the stack is persisted; **a stack is deleted without trace** exactly
if its groups lead to the relations that name it. -/
theorem edgeStack_allOrNothing_iff (hbounded : w.store.dataStore.edgeStack.Bounded) :
    (CreatedOrUntouched services payload now w ↔ ThroughIfPersisted services payload w) ∧
      ∀ id stack, w.store.dataStore.edgeStack.get? id = some stack →
        (DeletesEverywhere id w.store ↔ Reached stack w.store) :=
  ⟨createdOrUntouched_iff hbounded, fun _ _ hstack => deletesEverywhere_iff hstack⟩

/-- An endpoint in a group with a stack. -/
def stackedEndpoint : Server where
  dataStore :=
    { endpoint := ({} : Bucket Endpoint).put { id := 4, type := .edgeAgentOnDockerEnvironment }
      endpointRelation := ({} : Bucket EndpointRelation).put { endpointID := 4, edgeStacks := {1} }
      edgeGroup := ({} : Bucket EdgeGroup).put { id := 1, endpoints := [4] }
      edgeStack := ({} : Bucket EdgeStack).nextSequence.put { id := 1, edgeGroups := [1, 1] } }

theorem edgeStack_allOrNothing_stacked :
    CreatedOrUntouched plainServices (.string "web" "services: {}" [1, 1]) 0
        (.faultless stackedEndpoint) ∧
      DeletesEverywhere 1 stackedEndpoint := by
  have hbounded : (Sys.faultless stackedEndpoint : Sys Callee Server).store.dataStore.edgeStack.Bounded := by
    refine Bucket.Bounded.put (fun i a h => ?_) (by decide)
    simp at h
  have h := @edgeStack_allOrNothing_iff plainServices (.string "web" "services: {}" [1, 1]) 0
    (.faultless stackedEndpoint) hbounded
  refine ⟨h.1.mpr fun _ => ⟨by decide, by decide, Sys.clear_faultless _ _ _, ?_⟩,
    (h.2 1 { id := 1, edgeGroups := [1, 1] } (by decide)).mpr ⟨fun _ => by decide, by decide⟩⟩
  rw [Sys.spend_faultless]
  exact Sys.clear_faultless _ _ _

/-! ## A group that is not there -/

/-- A stack is created for a group that is there and one that is not: no
relation names it. An update of the group that is there adds it to the
relation of the endpoint, and the deletion of the stack leaves it there. -/
theorem edgeStackCreate_keeps_missing : ∃ e g stack g' w₁ w₂ w₃ w₄,
    (endpointCreate plainServices edgeAgentPayload).run (.faultless newServer) = (.ok e, w₁) ∧
      (edgeGroupCreate { name := "group", endpoints := [e.id] }).run w₁ = (.ok g, w₂) ∧
      (edgeStackCreate plainServices (.string "web" "services: {}" [g.id, 7]) 0).run w₂ =
        (.ok stack, w₃) ∧
      ¬ CreatedOrUntouched plainServices (.string "web" "services: {}" [g.id, 7]) 0 w₂ ∧
      (edgeGroupUpdate g.id { name := "group", endpoints := [e.id] }).run w₃ = (.ok g', w₄) ∧
      ¬ DeletesEverywhere stack.id w₄.store := by
  refine ⟨_, _, _, _, _, _, _, _, rfl, rfl, rfl, ?_, rfl, ?_⟩
  · intro h
    have hdeployed : Deployed [1, 7] _ _ := h
    exact absurd (hdeployed.allExist 7 (by decide)) (by decide)
  · rintro ⟨w', hrun, -, hnone⟩
    cases hrun
    exact absurd hnone (by decide)

end Inventory

end Portainer
