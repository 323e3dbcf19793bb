import Portainer.Migration.Helpers.Phases
/-!
# The migration run again

The version is stored last, so a migration that was interrupted starts over
on what it had written. Should it end with the store that it would have
left undisturbed? Not where an account at the Docker Hub was turned into a
registry: it is turned into one again. A control that got its new resource
identifier is looked for under it, is not found, and is removed. And a
write of a registry that fails does not stop the run, so the version is
stored over a registry that was not converted.

`restartable_iff` says of every store of version 31 whether the migration
can be interrupted and run again; `not_restartable` creates a registry
twice.
-/

namespace Portainer

open Action (Runs Keeps Leaves)

namespace Migration

variable {s t : Store} {order : MapOrder} {d : Database}
variable {pairs : List (String × String)} {b : Bucket ResourceControl} {rc : ResourceControl}

/-- **The migration of this store can be interrupted** after any write, or
fail at any call, and run again: what is left is what an undisturbed run
leaves. -/
def Restartable (s : Store) : Prop :=
  ∀ order faults, ∀ t ∈ passed order faults s, ∀ order' order'', resumed order' t = resumed order'' s

/-- **To move these controls twice is as good as once**: the pairs leave every
control of a volume under its resource identifier, or move it, as the only
one, to one under which they leave it, or to none. -/
def MovedOnce (pairs : List (String × String)) (b : Bucket ResourceControl) : Prop :=
  ∀ i rc, b.get? i = some rc → rc.type = .volume →
    lastOf pairs rc.resourceID = some rc.resourceID ∨
      (∀ j rc', b.get? j = some rc' → rc'.type = .volume →
        rc'.resourceID = rc.resourceID → j = i) ∧
      ∀ n, lastOf pairs rc.resourceID = some n → lastOf pairs n = some n

/-- **The migration has nothing to repeat.** There is no account at the
Docker Hub; and where the snapshots can be read, so that the version is
stored, every registry has its accesses already and the controls are moved
once. -/
def NothingToRepeat (s : Store) : Prop :=
  ¬ HasAccount s ∧ ∀ pairs, volumePairs s.endpoint.all = .ok pairs →
    (∀ i registry, s.registry.get? i = some registry →
      convertRegistry s.endpoint.all registry = registry) ∧
    MovedOnce pairs s.resourceControl

/-! ## Controls that stay -/

/-- The snapshots leave the control under its resource identifier. -/
def Stays (pairs : List (String × String)) (rc : ResourceControl) : Prop :=
  rc.type = .volume → lastOf pairs rc.resourceID = some rc.resourceID

/-- What becomes of a control, of a volume or not. -/
def migrated (pairs : List (String × String)) (rc : ResourceControl) : Option ResourceControl :=
  if rc.type = .volume then movedControl pairs rc else some rc

theorem Stays.migrated_eq (h : Stays pairs rc) : migrated pairs rc = some rc := by
  unfold migrated movedControl
  split
  · rename_i hvolume
    rw [h hvolume]
    rfl
  · rfl

/-- Where moving the controls changes nothing, all of them stay. -/
theorem stays_of_afterVolumes (h : afterVolumes pairs b = b) {i : ResourceControlID}
    (hrc : b.get? i = some rc) : Stays pairs rc := by
  intro hvolume
  -- of the controls for one resource one is visited, and it is left as it is
  obtain ⟨rc', hvisited, hid⟩ := exists_visited hrc hvolume
  have hget : (afterVolumes pairs b).get? rc'.id = movedControl pairs rc' :=
    get?_afterVolumes_of_visited hvisited
  rw [h, (get?_of_visited hvisited).1, movedControl, hid] at hget
  obtain ⟨n, hn, heq⟩ := Option.map_eq_some_iff.mp hget.symm
  have hrid : rc'.resourceID = n := by rw [← heq]
  rw [hn, ← hid, hrid]

theorem movedOnce_of_afterVolumes (h : afterVolumes pairs (afterVolumes pairs b) = afterVolumes pairs b) :
    MovedOnce pairs b := by
  intro i rc hrc hvolume
  by_cases hstays : lastOf pairs rc.resourceID = some rc.resourceID
  · exact .inl hstays
  -- a control that is not visited would stay without being one that stays
  have hall : ∀ j rc', b.get? j = some rc' → rc'.type = .volume → rc'.resourceID = rc.resourceID →
      rc' ∈ visited b := by
    intro j rc' hrc' hvolume' hid
    by_contra hnot
    have hkey : rc'.id = j := Bucket.key_of_get? hrc'
    have hkept : (afterVolumes pairs b).get? j = some rc' := by
      rw [get?_afterVolumes_of_not fun x hx hxj => hnot ?_, hrc']
      have hx' := (get?_of_visited hx).1
      rw [hxj, hrc'] at hx'
      exact Option.some.inj hx' ▸ hx
    have hstay := stays_of_afterVolumes h hkept hvolume'
    rw [hid] at hstay
    exact hstays hstay
  have hvisited : rc ∈ visited b := hall i rc hrc hvolume rfl
  have hkey : rc.id = i := Bucket.key_of_get? hrc
  refine .inr ⟨fun j rc' hrc' hvolume' hid => ?_, fun n hn => ?_⟩
  · have heq := eq_of_visited (hall j rc' hrc' hvolume' hid) hvisited hid
    rw [← hkey, ← heq]
    exact (Bucket.key_of_get? hrc').symm
  · have hmoved : (afterVolumes pairs b).get? rc.id = some { rc with resourceID := n } := by
      rw [get?_afterVolumes_of_visited hvisited, movedControl, hn]
      rfl
    exact stays_of_afterVolumes h hmoved hvolume

/-- Controls of which one that is not visited stays are moved one by one. -/
theorem MovedOnce.get?_afterVolumes (h : MovedOnce pairs b) (i : ResourceControlID) :
    (afterVolumes pairs b).get? i = (b.get? i).bind (migrated pairs) := by
  by_cases hi : ∃ rc ∈ visited b, rc.id = i
  · obtain ⟨rc, hrc, rfl⟩ := hi
    obtain ⟨hget, hvolume⟩ := get?_of_visited hrc
    rw [get?_afterVolumes_of_visited hrc, hget, Option.bind_some, migrated, if_pos hvolume]
  · have hnot : ∀ rc ∈ visited b, rc.id ≠ i := fun rc hrc hid => hi ⟨rc, hrc, hid⟩
    rw [get?_afterVolumes_of_not hnot]
    cases hget : b.get? i with
    | none => rfl
    | some rc =>
      have hstays : Stays pairs rc := by
        intro hvolume
        refine (h i rc hget hvolume).resolve_right fun hone => ?_
        obtain ⟨rc', hvisited, hid⟩ := exists_visited hget hvolume
        obtain ⟨hget', hvolume'⟩ := get?_of_visited hvisited
        exact hnot rc' hvisited (hone.1 rc'.id rc' hget' hvolume' hid)
      exact hstays.migrated_eq.symm

/-- A control that has been moved stays. -/
theorem MovedOnce.stays (h : MovedOnce pairs b) {i : ResourceControlID} {rc' : ResourceControl}
    (hrc : b.get? i = some rc) (hmoved : migrated pairs rc = some rc') : Stays pairs rc' := by
  intro hvolume'
  unfold migrated movedControl at hmoved
  split at hmoved
  · rename_i hvolume
    obtain ⟨n, hn, rfl⟩ := Option.map_eq_some_iff.mp hmoved
    rcases h i rc hrc hvolume with hstays | ⟨-, hnext⟩
    · rw [hstays] at hn
      obtain rfl := Option.some.inj hn
      exact hstays
    · exact hnext n hn
  · rename_i hvolume
    obtain rfl := Option.some.inj hmoved
    exact absurd hvolume' hvolume

/-- Controls of which some have been moved already. -/
def PartlyMoved (pairs : List (String × String)) (b b' : Bucket ResourceControl) : Prop :=
  b'.sequence = b.sequence ∧
    ∀ i, b'.get? i = b.get? i ∨ b'.get? i = (b.get? i).bind (migrated pairs)

theorem partlyMoved_refl : PartlyMoved pairs b b := ⟨rfl, fun _ => .inl rfl⟩

/-- A control that was moved already, or was not. -/
theorem PartlyMoved.cases {b' : Bucket ResourceControl} (h : PartlyMoved pairs b b') (hb : MovedOnce pairs b)
    {i : ResourceControlID} (hrc : b'.get? i = some rc) : b.get? i = some rc ∨ Stays pairs rc := by
  rcases h.2 i with hi | hi
  · exact .inl (hi ▸ hrc)
  · rw [hi] at hrc
    obtain ⟨rc', hrc', hmoved⟩ := Option.bind_eq_some_iff.mp hrc
    exact .inr (hb.stays hrc' hmoved)

theorem PartlyMoved.movedOnce {b' : Bucket ResourceControl} (h : PartlyMoved pairs b b')
    (hb : MovedOnce pairs b) : MovedOnce pairs b' := by
  intro i rc hrc hvolume
  by_cases hstays : Stays pairs rc
  · exact .inl (hstays hvolume)
  have hrc₀ := (h.cases hb hrc).resolve_right hstays
  rcases hb i rc hrc₀ hvolume with hstay | ⟨hone, hnext⟩
  · exact .inl hstay
  · refine .inr ⟨fun j rc' hrc' hvolume' hid => ?_, hnext⟩
    rcases h.cases hb hrc' with hrc'₀ | hstays'
    · exact hone j rc' hrc'₀ hvolume' hid
    · refine absurd (fun _ => ?_) hstays
      rw [← hid]
      exact hstays' hvolume'

/-- **Moving the rest comes to the same as moving all.** -/
theorem PartlyMoved.afterVolumes_eq {b' : Bucket ResourceControl} (h : PartlyMoved pairs b b')
    (hb : MovedOnce pairs b) : afterVolumes pairs b' = afterVolumes pairs b := by
  refine Bucket.eq_of_get? (fun i => ?_) (by rw [sequence_afterVolumes, sequence_afterVolumes, h.1])
  rw [(h.movedOnce hb).get?_afterVolumes, hb.get?_afterVolumes]
  rcases h.2 i with hi | hi
  · rw [hi]
  · rw [hi]
    cases hrc : b.get? i with
    | none => rfl
    | some rc =>
      rw [Option.bind_some]
      cases hmoved : migrated pairs rc with
      | none => rfl
      | some rc' => exact (hb.stays hrc hmoved).migrated_eq

/-! ## Stores on the way -/

/-- **A store the migration may pass**, where there is no account at the
Docker Hub. -/
structure Partway (s t : Store) : Prop where
  endpoint : t.endpoint = s.endpoint
  dockerHub : t.dockerHub = s.dockerHub
  registrySequence : t.registry.sequence = s.registry.sequence
  /-- Each registry is as it was, or converted. -/
  registry : ∀ i, t.registry.get? i = s.registry.get? i ∨
    t.registry.get? i = (s.registry.get? i).map (convertRegistry s.endpoint.all)
  /-- Controls are touched where the snapshots can be read. -/
  resourceControl : t.resourceControl = s.resourceControl ∨ ∃ pairs,
    volumePairs s.endpoint.all = .ok pairs ∧ PartlyMoved pairs s.resourceControl t.resourceControl
  /-- The version is stored over controls that have all been moved. -/
  version : t.version = s.version ∨ ∃ pairs, volumePairs s.endpoint.all = .ok pairs ∧
    t.version = dbVersion ∧ t.resourceControl = afterVolumes pairs s.resourceControl

theorem partway_refl : Partway s s := ⟨rfl, rfl, rfl, fun _ => .inl rfl, .inl rfl, .inl rfl⟩

/-- The rest of the registries is converted. -/
theorem Partway.registry_afterRegistries (h : Partway s t) :
    (afterRegistries t).registry = (afterRegistries s).registry := by
  refine Bucket.eq_of_get? (fun i => ?_) (by simp [h.registrySequence])
  rw [get?_afterRegistries, get?_afterRegistries, h.endpoint]
  rcases h.registry i with hi | hi
  · rw [hi]
  · rw [hi]
    cases s.registry.get? i with
    | none => rfl
    | some registry => rfl

theorem Store.eq_of_parts (hversion : t.version = s.version) (hregistry : t.registry = s.registry)
    (hendpoint : t.endpoint = s.endpoint) (hhub : t.dockerHub = s.dockerHub)
    (hcontrol : t.resourceControl = s.resourceControl) : t = s := by
  obtain ⟨version, recent, registry, endpoint, dockerHub, resourceControl⟩ := s
  obtain ⟨version', recent', registry', endpoint', dockerHub', resourceControl'⟩ := t
  obtain rfl : version' = version := hversion
  obtain rfl : registry' = registry := hregistry
  obtain rfl : endpoint' = endpoint := hendpoint
  obtain rfl : dockerHub' = dockerHub := hhub
  obtain rfl : resourceControl' = resourceControl := hcontrol
  rfl

theorem converted_of_not (h : ¬ HasAccount s) : converted s = afterRegistries s := by
  refine afterDockerhub_of_not fun ⟨dockerhub, hhub, hauth⟩ => h ⟨dockerhub, ?_, hauth⟩
  rwa [dockerHub_afterRegistries] at hhub

/-- **A run from a store on the way ends where one from the first store
does.** -/
theorem Partway.final_eq (h : Partway s t) (hversion : s.version = 31) (hs : NothingToRepeat s) :
    final t = final s := by
  obtain ⟨haccount, hok⟩ := hs
  have haccount' : ¬ HasAccount t := by
    rintro ⟨dockerhub, hhub, hauth⟩
    exact haccount ⟨dockerhub, h.dockerHub ▸ hhub, hauth⟩
  have hdue : s.version < dbVersion := by rw [hversion]; decide
  have hcontrols : ∀ pairs, volumePairs s.endpoint.all = .ok pairs →
      PartlyMoved pairs s.resourceControl t.resourceControl := by
    intro pairs hpairs
    rcases h.resourceControl with hsame | ⟨pairs', hpairs', hpartly⟩
    · rw [hsame]
      exact partlyMoved_refl
    · rw [hpairs] at hpairs'
      obtain rfl := Except.ok.inj hpairs'
      exact hpartly
  have hpairs' : volumePairs t.endpoint.all = volumePairs s.endpoint.all := by rw [h.endpoint]
  rcases h.version with hsame | ⟨pairs, hpairs, hstored, hmoved⟩
  · -- the version is still to be stored: everything is done again
    have hdue' : t.version < dbVersion := hsame ▸ hdue
    cases hpairs : volumePairs s.endpoint.all with
    | ok pairs =>
      have hone : MovedOnce pairs s.resourceControl := (hok pairs hpairs).2
      rw [final_of_ok hdue hpairs, final_of_ok hdue' (hpairs'.trans hpairs), converted_of_not haccount,
        converted_of_not haccount']
      refine Store.eq_of_parts ?_ ?_ ?_ ?_ ?_
      · simp
      · simp [h.registry_afterRegistries]
      · simp [h.endpoint]
      · simp [h.dockerHub]
      · simp [(hcontrols pairs hpairs).afterVolumes_eq hone]
    | error e =>
      have hsame' : t.resourceControl = s.resourceControl := by
        refine h.resourceControl.resolve_right ?_
        rintro ⟨pairs, hpairs', -⟩
        rw [hpairs] at hpairs'
        nomatch hpairs'
      rw [final_of_error hdue hpairs, final_of_error hdue' (hpairs'.trans hpairs),
        converted_of_not haccount, converted_of_not haccount']
      refine Store.eq_of_parts ?_ ?_ ?_ ?_ ?_
      · simp [hsame]
      · simp [h.registry_afterRegistries]
      · simp [h.endpoint]
      · simp [h.dockerHub]
      · simp [hsame']
  · -- the version is stored: every registry was converted before the migration
    have hconv : ∀ i, (s.registry.get? i).map (convertRegistry s.endpoint.all) = s.registry.get? i := by
      intro i
      cases hget : s.registry.get? i with
      | none => rfl
      | some registry => rw [Option.map_some, (hok pairs hpairs).1 i registry hget]
    have hregistry : t.registry = (afterRegistries s).registry := by
      refine Bucket.eq_of_get? (fun i => ?_) (by rw [h.registrySequence, sequence_afterRegistries])
      rw [get?_afterRegistries, hconv]
      exact (h.registry i).elim id fun hi => hi.trans (hconv i)
    rw [final_of_stored hstored, final_of_ok hdue hpairs, converted_of_not haccount]
    refine Store.eq_of_parts ?_ ?_ ?_ ?_ ?_
    · simp [hstored]
    · simp [hregistry]
    · simp [h.endpoint]
    · simp [h.dockerHub]
    · simp [hmoved]

/-! ## Runs that are disturbed -/

/-- Every store the run has passed is one on the way. -/
def Sound (s : Store) (d : Database) : Prop := ∀ t ∈ d.passed, Partway s t

/-- The controls have not been touched yet. -/
def Early (s : Store) (d : Database) : Prop :=
  (Partway s d.store ∧ d.store.version = s.version ∧ d.store.resourceControl = s.resourceControl) ∧ Sound s d

theorem Sound.write {f : Store → Store} (h : Sound s d) (hf : Partway s (f d.store)) :
    Sound s (d.write f) := by
  intro t ht
  rcases List.mem_append.mp ht with hold | hnew
  · exact h t hold
  · rw [List.mem_singleton.mp hnew]
    exact hf

theorem early_opened : Early s s.opened :=
  ⟨⟨partway_refl, rfl, rfl⟩, fun _ ht => (List.not_mem_nil ht).elim⟩

/-- A registry is converted, or was already. -/
theorem Partway.updateRegistry (h : Partway s t) {registry : StoredRegistry}
    (hregistry : t.registry.get? (key registry) = some registry) :
    (s.registry.get? (key registry)).map (convertRegistry s.endpoint.all) =
      some (convertRegistry s.endpoint.all registry) := by
  rcases h.registry (key registry) with hi | hi
  · rw [← hi, hregistry]
    rfl
  · rw [hregistry] at hi
    obtain ⟨old, hold, heq⟩ := Option.map_eq_some_iff.mp hi.symm
    rw [hold, Option.map_some, ← heq]
    rfl

theorem keeps_updateRegistries_early : Keeps updateRegistriesToDB32 (Early s) := by
  refine Keeps.bind_of (Keeps.query_of (Q := fun registries => ∀ registry ∈ registries,
    (s.registry.get? (key registry)).map (convertRegistry s.endpoint.all) =
      some (convertRegistry s.endpoint.all registry)) fun d hd registry hregistry => ?_)
    fun registries hregistries => ?_
  · exact hd.1.1.updateRegistry (Bucket.mem_all.mp hregistry)
  refine Keeps.bind_of (Keeps.query_of (Q := fun endpoints => endpoints = s.endpoint.all)
    fun d hd => congrArg Bucket.all hd.1.1.endpoint) ?_
  rintro _ rfl
  refine Keeps.forM fun registry hmem => .bind (.attempt (keeps_write fun d hd => ?_)) fun _ => .pure
  obtain ⟨⟨hpart, hversion, hcontrol⟩, hsound⟩ := hd
  -- the one registry that is written is converted, the others are as they were
  have hpart' : Partway s (d.store.updateRegistry (convertRegistry s.endpoint.all registry)) := by
    refine { hpart with registry := fun i => ?_ }
    simp only [Store.updateRegistry, Bucket.get?_put]
    by_cases hi : key (convertRegistry s.endpoint.all registry) = i
    · rw [if_pos hi, ← hi]
      exact .inr (hregistries registry hmem).symm
    · rw [if_neg hi]
      exact hpart.registry i
  exact ⟨⟨hpart', hversion, hcontrol⟩, hsound.write hpart'⟩

theorem keeps_updateDockerhub_early (haccount : ¬ HasAccount s) :
    Keeps updateDockerhubToDB32 (Early s) := by
  refine Keeps.bind_of (Keeps.query_of (Q := fun o => o = s.dockerHub)
    fun d hd => hd.1.1.dockerHub) ?_
  rintro _ rfl
  cases hhub : s.dockerHub with
  | none => exact .pure
  | some dockerhub => exact .ite (fun hauth => absurd ⟨dockerhub, hhub, hauth⟩ haccount) fun _ => .pure

/-- All controls have been moved. -/
def Late (s : Store) (d : Database) : Prop :=
  (∃ pairs, volumePairs s.endpoint.all = .ok pairs ∧
    d.store.resourceControl = afterVolumes pairs s.resourceControl) ∧ Partway s d.store ∧ Sound s d

theorem leaves_updateVolume_late {R : Callee → Prop}
    (hone : ∀ pairs, volumePairs s.endpoint.all = .ok pairs → MovedOnce pairs s.resourceControl)
    (hd : Early s d) :
    Leaves R (updateVolumeResourceControlToDB32 order) d (fun _ => Late s) (Sound s) := by
  obtain ⟨⟨hpart, hversion, hcontrol⟩, hsound⟩ := hd
  refine .query_bind hsound (.query_bind hsound ?_)
  dsimp only
  rw [foldlM_findInEndpoint, hpart.endpoint, hcontrol]
  cases hpairs : volumePairs s.endpoint.all with
  | error e => exact .bind (M := fun _ _ => False) (.fail hsound) fun _ _ hF => hF.elim
  | ok pairs =>
    have honce := hone pairs hpairs
    refine .read_bind (P := fun u => u = _) (.pure ⟨rfl, rfl⟩) ?_
    rintro _ rfl
    let l := order.list (volumeResourceControls s.resourceControl.all)
    have hperm : l.Perm (visited s.resourceControl) := order.perm _
    -- what is not still to be moved has been moved
    let T : List ResourceControl → Database → Prop := fun l d' =>
      (∀ i, (∀ rc ∈ l, rc.id ≠ i) →
        d'.store.resourceControl.get? i = (afterVolumes pairs s.resourceControl).get? i) ∧
      PartlyMoved pairs s.resourceControl d'.store.resourceControl ∧
      Partway s d'.store ∧ d'.store.version = s.version ∧ Sound s d' ∧ l ⊆ visited s.resourceControl
    have hstart : T l d := by
      refine ⟨fun i hi => ?_, hcontrol ▸ partlyMoved_refl, hpart, hversion, hsound, hperm.subset⟩
      rw [hcontrol, get?_afterVolumes_of_not fun rc hrc => hi rc (hperm.mem_iff.mpr hrc)]
    have hloop : Leaves R (l.forM (migrateResourceControl
        (noteUpdates (volumeResourceControls s.resourceControl.all) ∅ pairs))) d (fun _ => T [])
        (Sound s) := by
      refine Leaves.forM_todo (T := T) hstart ?_
      rintro rc l d' ⟨hdone, hpartly, hpart', hversion', hsound', hsub⟩
      have hvisited : rc ∈ visited s.resourceControl := hsub List.mem_cons_self
      obtain ⟨g, hg⟩ := migrateResourceControl_eq pairs hvisited
      rw [hg]
      have hmoved : ∀ i, (moveControl (lastOf pairs rc.resourceID) rc d'.store.resourceControl).get? i =
          if rc.id = i then (afterVolumes pairs s.resourceControl).get? i
          else d'.store.resourceControl.get? i := by
        intro i
        rw [get?_moveControl]
        by_cases hi : rc.id = i
        · rw [if_pos hi, if_pos hi, ← hi, get?_afterVolumes_of_visited hvisited]
        · rw [if_neg hi, if_neg hi]
      have hpartly' : PartlyMoved pairs s.resourceControl
          (moveControl (lastOf pairs rc.resourceID) rc d'.store.resourceControl) := by
        refine ⟨by rw [sequence_moveControl, hpartly.1], fun i => ?_⟩
        rw [hmoved]
        split
        · rw [honce.get?_afterVolumes]
          exact .inr rfl
        · exact hpartly.2 i
      have hnext : Partway s { d'.store with
          resourceControl := moveControl (lastOf pairs rc.resourceID) rc d'.store.resourceControl } :=
        { hpart' with
          resourceControl := .inr ⟨pairs, hpairs, hpartly'⟩
          version := .inl hversion' }
      refine .mapError (.call ⟨fun i hi => ?_, hpartly', hnext, hversion', hsound'.write hnext,
        fun _ hmem => hsub (List.mem_cons_of_mem rc hmem)⟩ hsound')
      refine (hmoved i).trans ?_
      split
      · rfl
      · rename_i hne
        refine hdone i fun rc' hrc' => ?_
        rcases List.mem_cons.mp hrc' with rfl | hrc'
        · exact hne
        · exact hi rc' hrc'
    refine hloop.conseq ?_ fun _ he => he
    rintro _ d' ⟨hdone, hpartly, hpart', -, hsound', -⟩
    refine ⟨⟨pairs, hpairs, Bucket.eq_of_get? (fun i => hdone i fun _ h => (List.not_mem_nil h).elim) ?_⟩,
      hpart', hsound'⟩
    rw [hpartly.1, sequence_afterVolumes]

/-- **Whatever fails, the run passes stores on the way only.** -/
theorem leaves_migrateData {R : Callee → Prop} (order : MapOrder) (hversion : s.version = 31)
    (hs : NothingToRepeat s) :
    Leaves R (migrateData order) s.opened (fun _ => Sound s) (Sound s) := by
  have hopened : Sound s s.opened := early_opened.2
  refine .read_bind (.query (Q := fun a d' => d' = s.opened ∧ a = s.version) ⟨rfl, rfl⟩ hopened) ?_
  rintro _ rfl
  rw [hversion]
  show Leaves R (migrateDBVersionToDB32 order >>= fun _ => write .storeDBVersion) _ _ _
  have hearly : ∀ {α : Type} {x : Fallible Database α} {d : Database}, Keeps x (Early s) → Early s d →
      Leaves R x d (fun _ => Early s) (Sound s) := fun hx hd =>
    (Leaves.of_keeps hx hd).conseq (fun _ _ h => h) fun _ h => h.2
  have hbefore : Leaves R (migrateDBVersionToDB32 order) s.opened (fun _ => Late s) (Sound s) := by
    refine (hearly keeps_updateRegistries_early early_opened).bind fun _ d₁ h₁ => ?_
    refine (hearly (keeps_updateDockerhub_early hs.1) h₁).bind fun _ d₂ h₂ => ?_
    exact leaves_updateVolume_late (fun pairs hpairs => (hs.2 pairs hpairs).2) h₂
  refine hbefore.bind fun _ d h => ?_
  obtain ⟨⟨pairs, hpairs, hmoved⟩, hpart, hsound⟩ := h
  refine .call (hsound.write ?_) hsound
  exact { hpart with version := .inr ⟨pairs, hpairs, rfl, hmoved⟩ }

theorem restartable_of_nothingToRepeat (hversion : s.version = 31) (hs : NothingToRepeat s) :
    Restartable s := by
  intro order faults t ht order' order''
  rw [resumed_eq, resumed_eq]
  have hpart : Partway s t := by
    rcases List.mem_cons.mp ht with rfl | ht
    · exact partway_refl
    · have hsound : Sound s (run order faults s).2.store :=
        (leaves_migrateData (R := fun _ => False) order hversion hs).store (w := ⟨s.opened, faults⟩) rfl
          fun _ hk => hk.elim
      exact hsound t ht
  exact hpart.final_eq hversion hs

/-! ## Stores that are passed -/

/-- What an undisturbed run has passed at its end it has passed. -/
theorem mem_passed_of_runs
    (h : Runs True (migrateDBVersionToDB32 order >>= fun _ => write .storeDBVersion) s.opened
      (fun _ d => t ∈ s :: d.passed) (fun d => t ∈ s :: d.passed)) (hdue : s.version < dbVersion) :
    t ∈ passed order (fun _ => []) s := by
  have hspend : (⟨s.opened, fun _ => []⟩ : Sys Callee Database).spend .databaseRead =
      .faultless s.opened := Sys.spend_faultless _ _
  have hrun := migrateData_run order hdue (w := ⟨s.opened, fun _ => []⟩) rfl rfl
  rw [hspend] at hrun
  unfold passed run
  rw [hrun]
  exact h.store rfl fun k o ho => (List.not_mem_nil ho).elim

/-- The store before the controls are moved is passed. -/
theorem converted_mem_passed (order : MapOrder) (hdue : s.version < dbVersion) :
    converted s ∈ passed order (fun _ => []) s := by
  refine mem_passed_of_runs ?_ hdue
  let P : Database → Prop := fun d => converted s ∈ s :: d.passed
  have hkeeps : ∀ d (f : Store → Store), P d → P (d.write f) := fun _ _ => mem_write
  have hconverted : Runs True (migrateDBVersionToDB32 order) s.opened (fun _ => P) P := by
    have hopened : At s s s.opened := ⟨rfl, recorded_opened⟩
    refine ((runs_updateRegistriesToDB32 hopened).conseq (fun _ _ h => h) fun _ _ h => h.elim).bind ?_
    intro _ d₁ h₁
    refine ((runs_updateDockerhubToDB32 h₁).conseq (fun _ _ h => h) fun _ _ h => h.elim).bind ?_
    rintro _ d₂ ⟨hstore, hrec⟩
    have hmem : converted s ∈ s :: d₂.passed := by
      rw [converted, ← hstore]
      exact hrec
    exact .of_keeps (keeps_updateVolumeResourceControlToDB32 hkeeps) hmem
  exact hconverted.bind fun _ _ h => .of_keeps (keeps_write fun d => hkeeps d _) h

/-- The store before the version is stored is passed. -/
theorem moveVolumes_mem_passed (order : MapOrder) (hdue : s.version < dbVersion)
    (hpairs : volumePairs s.endpoint.all = .ok pairs) :
    (converted s).moveVolumes pairs ∈ passed order (fun _ => []) s := by
  refine mem_passed_of_runs ?_ hdue
  refine ((runs_migrateDBVersionToDB32 order s).conseq (fun _ _ h => h) ?_).bind ?_
  · rintro - d' ⟨⟨e, he⟩, -⟩
    rw [hpairs] at he
    nomatch he
  · rintro _ d' ⟨pairs', hpairs', hstore, hrec⟩
    rw [hpairs] at hpairs'
    obtain rfl := Except.ok.inj hpairs'
    have hmem : (converted s).moveVolumes pairs ∈ s :: d'.passed := hstore ▸ hrec
    exact .of_keeps (keeps_write (P := fun d => (converted s).moveVolumes pairs ∈ s :: d.passed)
      fun _ => mem_write) hmem

/-- The writes of as many registries fail. -/
def failedUpdates (n : ℕ) : Callee → List (Option String) := fun k =>
  if k = .databaseWrite then List.replicate n (some "") else []

/-- The reads do not fail. -/
theorem spend_failedUpdates {n : ℕ} : (⟨d, failedUpdates n⟩ : Sys Callee Database).spend .databaseRead =
    ⟨d, failedUpdates n⟩ := by
  unfold Sys.spend
  congr 1
  funext k
  by_cases hk : k = .databaseRead
  · rw [if_pos hk, hk]
    rfl
  · exact if_neg hk

/-- A registry whose write fails is passed over. -/
theorem forM_updateRegistryToDB32_run {endpoints : List StoredEndpoint} (l : List StoredRegistry)
    {w : Sys Callee Database} (hfaults : w.faults = failedUpdates l.length) :
    (l.forM (updateRegistryToDB32 endpoints)).run w = (.ok ⟨⟩, ⟨w.store, failedUpdates 0⟩) := by
  induction l generalizing w with
  | nil =>
    obtain ⟨store, faults⟩ := w
    obtain rfl : faults = failedUpdates 0 := hfaults
    rfl
  | cons registry l ih =>
    have hfault : w.fault .databaseWrite = some "" := by
      simp [Sys.fault, hfaults, failedUpdates, List.replicate_succ]
    have hspend : (w.spend .databaseWrite).faults = failedUpdates l.length := by
      funext k
      by_cases hk : k = .databaseWrite
      · simp [Sys.spend, hk, hfaults, failedUpdates, List.replicate_succ]
      · simp [Sys.spend, hk, hfaults, failedUpdates]
    have hone : (updateRegistryToDB32 endpoints registry).run w = (.ok ⟨⟩, w.spend .databaseWrite) := by
      unfold updateRegistryToDB32 write
      rw [Action.bind_run, Action.attempt_run, Action.call_run_of_some hfault]
      rfl
    rw [Action.forM_cons, Action.bind_run_of_ok hone, ih hspend, Sys.spend_store]

theorem updateRegistriesToDB32_run :
    updateRegistriesToDB32.run ⟨s.opened, failedUpdates s.registry.all.length⟩ =
      (.ok (), ⟨s.opened, failedUpdates 0⟩) := by
  have hread : ∀ {n : ℕ} {α : Type} (f : Store → α), (read f).run ⟨s.opened, failedUpdates n⟩ =
      (.ok (f s), ⟨s.opened, failedUpdates n⟩) := by
    intro n α f
    rw [read, Action.query_run_of_none rfl, spend_failedUpdates]
    rfl
  unfold updateRegistriesToDB32
  rw [Action.bind_run_of_ok (hread _), Action.bind_run_of_ok (hread _)]
  exact forM_updateRegistryToDB32_run _ rfl

/-- The version may be stored over registries that were all passed over. -/
theorem unconverted_mem_passed (order : MapOrder) (hdue : s.version < dbVersion)
    (haccount : ¬ HasAccount s) (hpairs : volumePairs s.endpoint.all = .ok pairs) :
    (s.moveVolumes pairs).storeDBVersion ∈ passed order (failedUpdates s.registry.all.length) s := by
  have hopened : At s s s.opened := ⟨rfl, recorded_opened⟩
  have hrest : Runs True ((updateDockerhubToDB32 >>= fun _ => updateVolumeResourceControlToDB32 order) >>=
      fun _ => write .storeDBVersion) s.opened
      (fun _ d => (s.moveVolumes pairs).storeDBVersion ∈ s :: d.passed) fun _ => False := by
    refine .bind (M := fun _ => At s (s.moveVolumes pairs)) ?_ ?_
    · have hhub := runs_updateDockerhubToDB32 hopened
      rw [afterDockerhub_of_not haccount] at hhub
      refine hhub.bind fun _ d₁ h₁ => ?_
      refine (runs_updateVolumeResourceControlToDB32 order h₁).conseq ?_ ?_
      · rintro _ d₂ ⟨pairs', hpairs', hat⟩
        rw [hpairs] at hpairs'
        obtain rfl := Except.ok.inj hpairs'
        exact hat
      · rintro - d₂ ⟨⟨e, he⟩, -⟩
        rw [hpairs] at he
        nomatch he
    · rintro _ d₂ ⟨hstore, -⟩
      have hrec : Recorded s (d₂.write .storeDBVersion) := recorded_write
      refine runs_write ?_
      rw [← hstore]
      exact hrec
  have hrun := migrateData_run order hdue (w := ⟨s.opened, failedUpdates s.registry.all.length⟩) rfl rfl
  rw [spend_failedUpdates, migrateDBVersionToDB32, Action.bind_run, Action.bind_run_of_ok updateRegistriesToDB32_run,
    ← Action.bind_run] at hrun
  unfold passed run
  rw [hrun]
  have hreliable : ∀ k, (⟨s.opened, failedUpdates 0⟩ : Sys Callee Database).Reliable k := by
    intro k o ho
    simp [failedUpdates] at ho
  obtain ⟨hend, -⟩ := hrest ⟨s.opened, failedUpdates 0⟩ (fun k _ => hreliable k) rfl
  rcases hfinal : ((updateDockerhubToDB32 >>= fun _ => updateVolumeResourceControlToDB32 order) >>=
      fun _ => write .storeDBVersion).run ⟨s.opened, failedUpdates 0⟩ with ⟨e | u, w'⟩
  · rw [hfinal] at hend
    exact (hend trivial).elim
  · rw [hfinal] at hend
    exact hend

/-! ## Stores that can be restarted -/

theorem sequence_final (hdue : s.version < dbVersion) :
    (final s).registry.sequence = (converted s).registry.sequence := by
  unfold final
  rw [if_pos hdue]
  cases volumePairs s.endpoint.all with
  | ok pairs => rfl
  | error e => rfl

theorem sequence_converted (h : HasAccount s) :
    (converted s).registry.sequence = s.registry.sequence + 1 := by
  have haccount : HasAccount (afterRegistries s) := by
    obtain ⟨dockerhub, hhub, hauth⟩ := h
    exact ⟨dockerhub, (dockerHub_afterRegistries s).trans hhub, hauth⟩
  rw [converted, sequence_afterDockerhub haccount, sequence_afterRegistries]

/-- An account would be turned into a registry twice. -/
theorem Restartable.not_hasAccount (h : Restartable s) (hdue : s.version < dbVersion) :
    ¬ HasAccount s := by
  intro haccount
  have heq := h .ofKeys _ _ (converted_mem_passed .ofKeys hdue) .ofKeys .ofKeys
  rw [resumed_eq, resumed_eq] at heq
  have hdue' : (converted s).version < dbVersion := (version_converted s).symm ▸ hdue
  have haccount' : HasAccount (converted s) := by
    obtain ⟨dockerhub, hhub, hauth⟩ := haccount
    exact ⟨dockerhub, (dockerHub_converted s).trans hhub, hauth⟩
  have hsequence := congrArg (fun s : Store => s.registry.sequence) heq
  simp only [sequence_final hdue, sequence_final hdue', sequence_converted haccount,
    sequence_converted haccount'] at hsequence
  omega

/-- The controls are moved to where they stay. -/
theorem Restartable.movedOnce (h : Restartable s) (hdue : s.version < dbVersion)
    (hpairs : volumePairs s.endpoint.all = .ok pairs) : MovedOnce pairs s.resourceControl := by
  have heq := h .ofKeys _ _ (moveVolumes_mem_passed .ofKeys hdue hpairs) .ofKeys .ofKeys
  have hdue' : ((converted s).moveVolumes pairs).version < dbVersion :=
    (version_converted s).symm ▸ hdue
  have hpairs' : volumePairs ((converted s).moveVolumes pairs).endpoint.all = .ok pairs := by
    rw [Store.moveVolumes, endpoint_converted, hpairs]
  rw [resumed_eq, resumed_eq, final_of_ok hdue hpairs, final_of_ok hdue' hpairs'] at heq
  have hcontrol := congrArg Store.resourceControl heq
  simp only [Store.storeDBVersion, Store.moveVolumes, resourceControl_converted] at hcontrol
  exact movedOnce_of_afterVolumes hcontrol

/-- The registries have their accesses already. -/
theorem Restartable.registries (h : Restartable s) (hdue : s.version < dbVersion)
    (hpairs : volumePairs s.endpoint.all = .ok pairs) (i : RegistryID) (registry : StoredRegistry)
    (hget : s.registry.get? i = some registry) : convertRegistry s.endpoint.all registry = registry := by
  have haccount := h.not_hasAccount hdue
  have heq := h .ofKeys _ _ (unconverted_mem_passed .ofKeys hdue haccount hpairs) .ofKeys .ofKeys
  rw [resumed_eq, resumed_eq, final_of_ok hdue hpairs, final_of_stored rfl,
    converted_of_not haccount] at heq
  have hregistry := congrArg (fun s : Store => s.registry.get? i) heq
  simp only [Store.storeDBVersion, Store.moveVolumes, get?_afterRegistries, hget, Option.map_some] at hregistry
  exact (Option.some.inj hregistry).symm

/-- **The migration of a store of version 31 can be interrupted and run
again exactly if it has nothing to repeat.** -/
theorem restartable_iff (hversion : s.version = 31) : Restartable s ↔ NothingToRepeat s := by
  have hdue : s.version < dbVersion := by rw [hversion]; decide
  constructor
  · intro h
    exact ⟨h.not_hasAccount hdue, fun pairs hpairs =>
      ⟨h.registries hdue hpairs, h.movedOnce hdue hpairs⟩⟩
  · exact restartable_of_nothingToRepeat hversion

/-- An environment whose last snapshot has one volume. -/
def environment : StoredEndpoint where
  id := 1
  type := .dockerEnvironment
  userAccessPolicies := {(3, { roleID := 0 })}
  snapshots := [{
    info := .obj [("ID", .str "engine")]
    volumes := .obj [("Volumes", .arr [.obj [("Name", .str "data"), ("CreatedAt", .str "2021-05-04T09:00:00Z")]])] }]

/-- A registry for a user of the environment, with its accesses already. -/
def registryOfUser : StoredRegistry :=
  convertRegistry [environment] { id := 1, type := .custom, name := "images", userAccessPolicies := {(3, { roleID := 0 })} }

/-- The control of a volume that is gone. -/
def controlOfGone : ResourceControl where
  id := 1
  resourceID := "cache2020-01-01T00:00:00Z"
  type := .volume

/-- A store with an environment, a registry and controls. -/
def stocked : Store where
  version := 31
  recent := by decide
  registry := { Bucket.put {} registryOfUser with sequence := 1 }
  endpoint := { Bucket.put {} environment with sequence := 1 }
  resourceControl := { (Bucket.put {} controlOfGone).put { id := 2, resourceID := "web", type := .container } with
    sequence := 2 }

theorem all_endpoint_stocked : stocked.endpoint.all = [environment] := rfl

theorem volumePairs_stocked :
    volumePairs stocked.endpoint.all = .ok [("data2021-05-04T09:00:00Z", "data_engine")] := by
  rw [all_endpoint_stocked]
  decide

/-- The registry is not changed again, and the control of the volume that
is gone is removed once. -/
theorem nothingToRepeat_stocked : NothingToRepeat stocked := by
  refine ⟨?_, fun pairs hpairs => ⟨fun i registry h => ?_, fun i rc h hvolume => .inr ?_⟩⟩
  · rintro ⟨dockerhub, hhub, -⟩
    cases hhub
  · rw [all_endpoint_stocked]
    obtain rfl : registry = registryOfUser := by
      have hget : (Bucket.put {} registryOfUser).get? i = some registry := h
      rw [Bucket.get?_put] at hget
      split at hget
      · exact (Option.some.inj hget).symm
      · simp at hget
    rfl
  · have hgone : ∀ j rc', stocked.resourceControl.get? j = some rc' → rc'.type = .volume →
        j = 1 ∧ rc'.resourceID = controlOfGone.resourceID := by
      intro j rc' hrc' hvolume'
      have hget : ((Bucket.put {} controlOfGone).put { id := 2, resourceID := "web", type := .container }).get? j =
          some rc' := hrc'
      rw [Bucket.get?_put, Bucket.get?_put, Bucket.get?_empty] at hget
      split at hget
      · obtain rfl := Option.some.inj hget
        cases hvolume'
      · split at hget
        · rename_i hid
          obtain rfl := Option.some.inj hget
          exact ⟨hid.symm, rfl⟩
        · cases hget
    obtain ⟨rfl, hrid⟩ := hgone i rc h hvolume
    refine ⟨fun j rc' hrc' hvolume' _ => (hgone j rc' hrc' hvolume').1, fun n hn => ?_⟩
    rw [volumePairs_stocked] at hpairs
    obtain rfl := Except.ok.inj hpairs
    have hnone : lastOf [("data2021-05-04T09:00:00Z", "data_engine")] controlOfGone.resourceID = none := by decide
    rw [hrid, hnone] at hn
    cases hn

theorem restartable_stocked : Restartable stocked := (restartable_iff rfl).mpr nothingToRepeat_stocked

/-- A store with an account at the Docker Hub. -/
def withAccount : Store where
  version := 31
  recent := by decide
  dockerHub := some { authentication := true }

/-- **A registry is created twice**, where the migration is interrupted after
it was created. -/
theorem not_restartable : ¬ ∀ s : Store, s.version = 31 → Restartable s := by
  intro h
  -- the second store that is passed has the new registry; from there one more is created
  have htwice : (passed .ofKeys (fun _ => []) withAccount)[1]?.map
      (fun t => (resumed .ofKeys t).registry.all.length) = some 2 := by decide
  have honce : (resumed .ofKeys withAccount).registry.all.length = 1 := by decide
  obtain ⟨t, ht, hlength⟩ := Option.map_eq_some_iff.mp htwice
  have heq := h withAccount rfl .ofKeys _ t (List.mem_of_getElem? ht) .ofKeys .ofKeys
  rw [heq, honce] at hlength
  omega

end Migration

end Portainer
