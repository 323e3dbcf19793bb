import Portainer.Common.Leaves
import Portainer.Migration.Helpers.Volumes
/-!
# Migration — the store an undisturbed run leaves

Each of the three conversions as a function of the store, and the whole
migration as a function of them: `resumed_eq`. A run is told by the stores
it passes, and no write is lost from that list (`Recorded`).
-/

namespace Portainer

open Std
open Action (Runs Keeps)

namespace Migration

variable {s t : Store} {order : MapOrder} {d : Database}

/-! ## The conversions -/

/-- The store after every registry of a list has been converted. -/
def convertAll (endpoints : List StoredEndpoint) (l : List StoredRegistry) (s : Store) : Store :=
  l.foldl (fun s registry => s.updateRegistry (convertRegistry endpoints registry)) s

/-- The store after `updateRegistriesToDB32`. -/
def afterRegistries (s : Store) : Store := convertAll s.endpoint.all s.registry.all s

/-- The store after `updateDockerhubToDB32`. -/
def afterDockerhub (s : Store) : Store :=
  match s.dockerHub with
  | none => s
  | some dockerhub =>
    if dockerhub.authentication then
      s.createRegistry (dockerhubRegistry dockerhub s.endpoint.all)
    else
      s

/-- The store with its controls moved. -/
def Store.moveVolumes (pairs : List (String × String)) (s : Store) : Store :=
  { s with resourceControl := afterVolumes pairs s.resourceControl }

/-- The store before the version is stored, where all goes well. -/
def converted (s : Store) : Store := afterDockerhub (afterRegistries s)

/-- **The store an undisturbed run leaves.** -/
def final (s : Store) : Store :=
  if s.version < dbVersion then
    match volumePairs s.endpoint.all with
    | .ok pairs => ((converted s).moveVolumes pairs).storeDBVersion
    | .error _ => converted s
  else
    s

theorem convertAll_eq (endpoints : List StoredEndpoint) (l : List StoredRegistry) (s : Store) :
    convertAll endpoints l s = { s with registry := s.registry.putAll (l.map (convertRegistry endpoints)) } := by
  induction l generalizing s with
  | nil => rfl
  | cons registry l ih => exact ih (s.updateRegistry (convertRegistry endpoints registry))

theorem key_convertRegistry (endpoints : List StoredEndpoint) (registry : StoredRegistry) :
    key (convertRegistry endpoints registry) = key registry := rfl

theorem afterRegistries_eq (s : Store) : afterRegistries s =
    { s with registry := s.registry.alterWhere (fun _ => true) (convertRegistry s.endpoint.all) } := by
  rw [afterRegistries, convertAll_eq, Bucket.alterWhere, List.filter_true]

theorem get?_afterRegistries (s : Store) (i : RegistryID) : (afterRegistries s).registry.get? i =
    (s.registry.get? i).map (convertRegistry s.endpoint.all) := by
  rw [afterRegistries_eq]
  exact Bucket.get?_alterWhere (key_convertRegistry _)

@[simp] theorem sequence_afterRegistries (s : Store) :
    (afterRegistries s).registry.sequence = s.registry.sequence := by
  rw [afterRegistries_eq]
  exact Bucket.sequence_alterWhere

@[simp] theorem endpoint_afterRegistries (s : Store) : (afterRegistries s).endpoint = s.endpoint := by
  rw [afterRegistries_eq]

@[simp] theorem dockerHub_afterRegistries (s : Store) : (afterRegistries s).dockerHub = s.dockerHub := by
  rw [afterRegistries_eq]

@[simp] theorem version_afterRegistries (s : Store) : (afterRegistries s).version = s.version := by
  rw [afterRegistries_eq]

@[simp] theorem resourceControl_afterRegistries (s : Store) :
    (afterRegistries s).resourceControl = s.resourceControl := by
  rw [afterRegistries_eq]

/-- There is an account at the Docker Hub to be turned into a registry. -/
def HasAccount (s : Store) : Prop := ∃ dockerhub, s.dockerHub = some dockerhub ∧ dockerhub.authentication = true

theorem afterDockerhub_of_not (h : ¬ HasAccount s) : afterDockerhub s = s := by
  unfold afterDockerhub
  cases hhub : s.dockerHub with
  | none => rfl
  | some dockerhub =>
    dsimp only
    rw [if_neg fun hauth => h ⟨dockerhub, hhub, hauth⟩]

theorem sequence_afterDockerhub (h : HasAccount s) :
    (afterDockerhub s).registry.sequence = s.registry.sequence + 1 := by
  obtain ⟨dockerhub, hhub, hauth⟩ := h
  simp [afterDockerhub, hhub, hauth, Store.createRegistry]

/-- The Docker Hub is turned into a registry and nothing else is changed. -/
theorem afterDockerhub_eq (s : Store) : ∃ registry, afterDockerhub s = { s with registry } := by
  unfold afterDockerhub
  split
  · exact ⟨_, rfl⟩
  · split
    · exact ⟨_, rfl⟩
    · exact ⟨_, rfl⟩

theorem converted_eq (s : Store) : ∃ registry, converted s = { s with registry } := by
  obtain ⟨registry, h⟩ := afterDockerhub_eq (afterRegistries s)
  exact ⟨registry, by rw [converted, h, afterRegistries_eq]⟩

@[simp] theorem endpoint_converted (s : Store) : (converted s).endpoint = s.endpoint := by
  obtain ⟨registry, h⟩ := converted_eq s
  rw [h]

@[simp] theorem dockerHub_converted (s : Store) : (converted s).dockerHub = s.dockerHub := by
  obtain ⟨registry, h⟩ := converted_eq s
  rw [h]

@[simp] theorem version_converted (s : Store) : (converted s).version = s.version := by
  obtain ⟨registry, h⟩ := converted_eq s
  rw [h]

@[simp] theorem resourceControl_converted (s : Store) :
    (converted s).resourceControl = s.resourceControl := by
  obtain ⟨registry, h⟩ := converted_eq s
  rw [h]

section Fields

variable {pairs : List (String × String)}

@[simp] theorem registry_moveVolumes : (s.moveVolumes pairs).registry = s.registry := rfl

@[simp] theorem endpoint_moveVolumes : (s.moveVolumes pairs).endpoint = s.endpoint := rfl

@[simp] theorem dockerHub_moveVolumes : (s.moveVolumes pairs).dockerHub = s.dockerHub := rfl

@[simp] theorem resourceControl_moveVolumes :
    (s.moveVolumes pairs).resourceControl = afterVolumes pairs s.resourceControl := rfl

@[simp] theorem version_storeDBVersion : s.storeDBVersion.version = dbVersion := rfl

@[simp] theorem registry_storeDBVersion : s.storeDBVersion.registry = s.registry := rfl

@[simp] theorem endpoint_storeDBVersion : s.storeDBVersion.endpoint = s.endpoint := rfl

@[simp] theorem dockerHub_storeDBVersion : s.storeDBVersion.dockerHub = s.dockerHub := rfl

@[simp] theorem resourceControl_storeDBVersion :
    s.storeDBVersion.resourceControl = s.resourceControl := rfl

/-- Where the snapshots can be read. -/
theorem final_of_ok (hdue : s.version < dbVersion) (hpairs : volumePairs s.endpoint.all = .ok pairs) :
    final s = ((converted s).moveVolumes pairs).storeDBVersion := by
  unfold final
  rw [if_pos hdue, hpairs]

/-- Where they cannot. -/
theorem final_of_error (hdue : s.version < dbVersion) {e : Stop}
    (hpairs : volumePairs s.endpoint.all = .error e) : final s = converted s := by
  unfold final
  rw [if_pos hdue, hpairs]

theorem final_of_stored (hstored : s.version = dbVersion) : final s = s := by
  unfold final
  rw [if_neg (by rw [hstored]; exact lt_irrefl _)]

end Fields

/-! ## The runs -/

/-- The database a run starts with. -/
def Store.opened (s : Store) : Database where
  store := s

/-- The run of the migration from a store, with the outcomes of its calls. -/
def run (order : MapOrder) (faults : Callee → List (Option String)) (s : Store) :
    Except String Unit × Sys Callee Database :=
  (migrateData order).run ⟨s.opened, faults⟩

/-- The stores a run passes: the first one, and the one after each write. -/
def passed (order : MapOrder) (faults : Callee → List (Option String)) (s : Store) : List Store :=
  s :: (run order faults s).2.store.passed

/-- The store that is left when the migration is run again, undisturbed. -/
def resumed (order : MapOrder) (s : Store) : Store := (run order (fun _ => []) s).2.store.store

/-- The present store is among those the run has passed. -/
def Recorded (s : Store) (d : Database) : Prop := d.store ∈ s :: d.passed

theorem recorded_opened : Recorded s s.opened := List.mem_cons_self

theorem recorded_write {f : Store → Store} : Recorded s (d.write f) := by
  simp [Recorded, Database.write]

theorem keeps_write {P : Database → Prop} {f : Store → Store} (h : ∀ d, P d → P (d.write f)) :
    Keeps (write f) P :=
  .call h

section Kept

/-! A property that no write ends is kept by the whole migration. -/

variable {P : Database → Prop} (h : ∀ d (f : Store → Store), P d → P (d.write f))

include h

theorem keeps_migrateResourceControl (toUpdate : ExtTreeMap ResourceControlID String) (rc : ResourceControl) :
    Keeps (migrateResourceControl toUpdate rc) P := by
  unfold migrateResourceControl
  split
  · exact .mapError (keeps_write fun d => h d _)
  · exact .mapError (keeps_write fun d => h d _)

theorem keeps_updateVolumeResourceControlToDB32 : Keeps (updateVolumeResourceControlToDB32 order) P := by
  refine .bind (.mapError .query) fun endpoints => .bind (.mapError .query) fun rcs => ?_
  exact .bind .ofExcept fun toUpdate => .forM fun rc _ => keeps_migrateResourceControl h toUpdate rc

end Kept

/-- What a run has passed it has passed. -/
theorem mem_write {f : Store → Store} (h : t ∈ s :: d.passed) : t ∈ s :: (d.write f).passed := by
  rw [List.mem_cons] at h ⊢
  exact h.imp id fun hmem => List.mem_append_left _ hmem

/-! ## Undisturbed runs -/

theorem runs_read {α : Type} {f : Store → α} {Q : α → Database → Prop} {E : Database → Prop}
    (h : Q (f d.store) d) : Runs True (read f) d Q E :=
  .query h

theorem runs_write {f : Store → Store} {Q : Unit → Database → Prop} {E : Database → Prop}
    (h : Q () (d.write f)) : Runs True (write f) d Q E :=
  .call h

/-- A read, and what follows it. -/
theorem runs_read_bind {α β : Type} {f : Store → α} {x : α → Fallible Database β}
    {Q : β → Database → Prop} {E : Database → Prop} (h : Runs True (x (f d.store)) d Q E) :
    Runs True (read f >>= x) d Q E :=
  (runs_read (Q := fun a d' => d' = d ∧ a = f d.store) ⟨rfl, rfl⟩).read_bind fun _ ha => ha ▸ h

/-- The store is now `t`, and that is recorded. -/
def At (s t : Store) (d : Database) : Prop := d.store = t ∧ Recorded s d

theorem runs_updateRegistriesToDB32 (hd : At s t d) :
    Runs True updateRegistriesToDB32 d (fun _ => At s (afterRegistries t)) fun _ => False := by
  obtain ⟨rfl, hrec⟩ := hd
  refine runs_read_bind (runs_read_bind ?_)
  -- what is still to be converted, converted, gives the store that is aimed at
  let T : List StoredRegistry → Database → Prop := fun l d' =>
    convertAll d.store.endpoint.all l d'.store = afterRegistries d.store ∧ Recorded s d'
  have hloop : Runs True (d.store.registry.all.forM (updateRegistryToDB32 d.store.endpoint.all)) d
      (fun _ => T []) fun _ => False := by
    refine Runs.forM_todo (R := T) ⟨rfl, hrec⟩ fun registry l d' hd' => ?_
    refine .bind (M := fun _ => T l) (.attempt_call ⟨hd'.1, recorded_write⟩ fun hcalm => ?_) fun _ _ hT => .pure hT
    exact absurd trivial hcalm
  exact hloop.conseq (fun _ _ hT => hT) fun _ _ he => he

theorem runs_updateDockerhubToDB32 (hd : At s t d) :
    Runs True updateDockerhubToDB32 d (fun _ => At s (afterDockerhub t)) fun _ => False := by
  obtain ⟨rfl, hrec⟩ := hd
  refine runs_read_bind ?_
  unfold afterDockerhub
  cases d.store.dockerHub with
  | none => exact .pure ⟨rfl, hrec⟩
  | some dockerhub =>
    dsimp only
    split
    · exact runs_read_bind (runs_write ⟨rfl, recorded_write⟩)
    · exact .pure ⟨rfl, hrec⟩

/-- A control that is visited is moved by the pairs. -/
theorem migrateResourceControl_eq (pairs : List (String × String)) {rc : ResourceControl}
    {b : Bucket ResourceControl} (hrc : rc ∈ visited b) : ∃ g : String → String,
    migrateResourceControl (noteUpdates (volumeResourceControls b.all) ∅ pairs) rc =
      (write fun s => { s with
        resourceControl := moveControl (lastOf pairs rc.resourceID) rc s.resourceControl }).mapError g := by
  unfold migrateResourceControl moveControl
  rw [noteUpdates_visited hrc]
  cases lastOf pairs rc.resourceID with
  | some n => exact ⟨_, rfl⟩
  | none => exact ⟨_, rfl⟩

theorem runs_updateVolumeResourceControlToDB32 (order : MapOrder) (hd : At s t d) :
    Runs True (updateVolumeResourceControlToDB32 order) d
      (fun _ d' => ∃ pairs, volumePairs t.endpoint.all = .ok pairs ∧ At s (t.moveVolumes pairs) d')
      (fun d' => (∃ e, volumePairs t.endpoint.all = .error e) ∧ At s t d') := by
  obtain ⟨rfl, hrec⟩ := hd
  refine .read_bind (.mapError (runs_read (Q := fun a d' => d' = d ∧ a = _) ⟨rfl, rfl⟩)) ?_
  rintro _ rfl
  refine .read_bind (.mapError (runs_read (Q := fun a d' => d' = d ∧ a = _) ⟨rfl, rfl⟩)) ?_
  rintro _ rfl
  dsimp only
  rw [foldlM_findInEndpoint]
  cases hpairs : volumePairs d.store.endpoint.all with
  | error e => exact .bind (M := fun _ _ => False) (.fail fun _ => ⟨⟨e, rfl⟩, rfl, hrec⟩) fun _ _ hF => hF.elim
  | ok pairs =>
    refine .read_bind (P := fun u => u = _) (.pure ⟨rfl, rfl⟩) ?_
    rintro _ rfl
    let l := order.list (volumeResourceControls d.store.resourceControl.all)
    have hperm : l.Perm (visited d.store.resourceControl) := order.perm _
    -- what is still to be moved, moved, gives the controls that are aimed at
    let T : List ResourceControl → Database → Prop := fun l d' =>
      (∃ b, d'.store = { d.store with resourceControl := b } ∧
        moveAll pairs l b = afterVolumes pairs d.store.resourceControl) ∧
      Recorded s d' ∧ l ⊆ visited d.store.resourceControl
    have hloop : Runs True (l.forM (migrateResourceControl
        (noteUpdates (volumeResourceControls d.store.resourceControl.all) ∅ pairs))) d (fun _ => T [])
        fun d' => (∃ e, Except.ok pairs = (Except.error e : Except Stop _)) ∧ At s d.store d' := by
      refine Runs.forM_todo (R := T) ⟨⟨_, rfl, moveAll_eq_afterVolumes hperm⟩, hrec, hperm.subset⟩ ?_
      rintro rc l d' ⟨⟨b, hd', hb⟩, -, hsub⟩
      obtain ⟨g, hg⟩ := migrateResourceControl_eq pairs (hsub List.mem_cons_self)
      rw [hg]
      refine .mapError (runs_write ⟨⟨_, ?_, hb⟩, recorded_write,
        fun _ hmem => hsub (List.mem_cons_of_mem rc hmem)⟩)
      simp only [Database.write, hd']
    refine hloop.conseq ?_ fun _ _ he => he
    rintro _ d' ⟨⟨b, hd', hb⟩, hrec', -⟩
    obtain rfl : b = afterVolumes pairs d.store.resourceControl := hb
    exact ⟨pairs, rfl, hd', hrec'⟩

theorem runs_migrateDBVersionToDB32 (order : MapOrder) (s : Store) :
    Runs True (migrateDBVersionToDB32 order) s.opened
      (fun _ d' => ∃ pairs, volumePairs s.endpoint.all = .ok pairs ∧
        At s ((converted s).moveVolumes pairs) d')
      (fun d' => (∃ e, volumePairs s.endpoint.all = .error e) ∧ At s (converted s) d') := by
  have hopened : At s s s.opened := ⟨rfl, recorded_opened⟩
  refine ((runs_updateRegistriesToDB32 hopened).conseq (fun _ _ h => h) fun _ _ h => h.elim).bind ?_
  intro _ d₁ h₁
  refine ((runs_updateDockerhubToDB32 h₁).conseq (fun _ _ h => h) fun _ _ h => h.elim).bind ?_
  intro _ d₂ h₂
  have hvolumes := runs_updateVolumeResourceControlToDB32 order h₂
  rw [← converted, endpoint_converted] at hvolumes
  exact hvolumes

/-- A migration that is due, and the version after it. -/
theorem migrateData_run (order : MapOrder) (hdue : s.version < dbVersion) {w : Sys Callee Database}
    (hw : w.store = s.opened) (hread : w.fault .databaseRead = none) : (migrateData order).run w =
      (migrateDBVersionToDB32 order >>= fun _ => write .storeDBVersion).run (w.spend .databaseRead) := by
  have hversion : (read Store.version).run w = (.ok s.version, w.spend .databaseRead) := by
    rw [read, Action.query_run_of_none hread, hw]
    rfl
  unfold migrateData
  rw [Action.bind_run_of_ok hversion, if_pos hdue, migrate, migrateTo32,
    if_pos (show s.version < 32 from hdue)]

/-- **Where an undisturbed run ends**, and that it is recorded. -/
theorem runs_migrateData (order : MapOrder) (s : Store) :
    Runs True (migrateData order) s.opened (fun _ => At s (final s)) (At s (final s)) := by
  refine runs_read_bind ?_
  show Runs True (if s.version < dbVersion then migrate order s.version else pure ()) _ _ _
  unfold final
  split
  · rename_i hversion
    unfold migrate migrateTo32
    rw [if_pos (show s.version < 32 from hversion)]
    refine ((runs_migrateDBVersionToDB32 order s).conseq (fun _ _ h => h) ?_).bind ?_
    · rintro - d' ⟨⟨e, he⟩, hat⟩
      rw [he]
      exact hat
    · rintro _ d' ⟨pairs, hpairs, hstore, -⟩
      refine runs_write ?_
      rw [hpairs]
      exact ⟨by simp only [Database.write, hstore], recorded_write⟩
  · exact .pure ⟨rfl, recorded_opened⟩

/-- **The store that is left by an undisturbed run.** -/
theorem resumed_eq (order : MapOrder) (s : Store) : resumed order s = final s := by
  have hstore := (runs_migrateData order s).store (w := .faultless s.opened) rfl
    fun k o ho => (List.not_mem_nil ho).elim
  exact hstore.1

end Migration

end Portainer
