import Portainer.Migration.Model
/-!
# Migration — the controls of volumes

What the snapshots say about volumes does not depend on the controls: it is
a list of pairs, the old and the new resource identifier of each volume
(`volumePairs`). The controls that the program visits, one for each
resource identifier, are moved by that list, the others stay
(`afterVolumes`), in whatever order they are visited.
-/

namespace Portainer

open Std

namespace Migration

variable {endpoints : List StoredEndpoint} {resourceControls : List ResourceControl}
variable {controls : ExtTreeMap String ResourceControl} {rc rc' : ResourceControl}
variable {pairs : List (String × String)} {b : Bucket ResourceControl}

/-! ## What the snapshots say -/

/-- The old and the new resource identifier of a volume. -/
def volumePair (dockerID : String) (volumeMeta : Json) : Except Stop (String × String) := do
  let volume ← asObject volumeMeta
  let volumeName ← asString (volume.get "Name")
  let createdAt ← asString (volume.get "CreatedAt")
  return (volumeName ++ createdAt, volumeName ++ "_" ++ dockerID)

/-- The volumes of an endpoint's last snapshot. -/
def endpointPairs (endpoint : StoredEndpoint) : Except Stop (List (String × String)) :=
  if !isDockerEndpoint endpoint.toEndpoint then
    .ok []
  else
    match endpoint.snapshots.getLast? with
    | none => .ok []
    | some snapshot => do
      let endpointDockerID ← (fetchDockerID snapshot).mapError
        (.wrap "failed fetching endpoint docker id: ")
      match snapshot.volumes with
      | .obj volumesData =>
        if (Json.Object.get volumesData "Volumes").isNull then
          return []
        else do
          let volumes ← asArray (Json.Object.get volumesData "Volumes")
          volumes.mapM (volumePair endpointDockerID)
      | _ => return []

/-- The volumes of all endpoints. -/
def volumePairs : List StoredEndpoint → Except Stop (List (String × String))
  | [] => .ok []
  | endpoint :: endpoints => do
    let ps ← endpointPairs endpoint
    let qs ← volumePairs endpoints
    return ps ++ qs

/-- Note the volumes of a list, one after the other. -/
def noteUpdates (controls : ExtTreeMap String ResourceControl)
    (toUpdate : ExtTreeMap ResourceControlID String) (pairs : List (String × String)) :
    ExtTreeMap ResourceControlID String :=
  pairs.foldl (fun toUpdate p => noteUpdate controls toUpdate p.1 p.2) toUpdate

theorem foldlM_findResourceToUpdate (dockerID : String) (volumes : List Json)
    (toUpdate : ExtTreeMap ResourceControlID String) :
    volumes.foldlM (findResourceToUpdateForDB32 dockerID controls) toUpdate =
      (volumes.mapM (volumePair dockerID)).map (noteUpdates controls toUpdate) := by
  induction volumes generalizing toUpdate with
  | nil => rfl
  | cons volumeMeta volumes ih =>
    have hone : findResourceToUpdateForDB32 dockerID controls toUpdate volumeMeta =
        (volumePair dockerID volumeMeta).map fun p => noteUpdate controls toUpdate p.1 p.2 := by
      unfold findResourceToUpdateForDB32 volumePair
      cases asObject volumeMeta with
      | error e => rfl
      | ok volume =>
        cases hname : asString (volume.get "Name") with
        | error e => simp [hname, Bind.bind, Except.bind, Except.map]
        | ok volumeName =>
          cases hcreated : asString (volume.get "CreatedAt") with
          | error e => simp [hname, hcreated, Bind.bind, Except.bind, Except.map]
          | ok createdAt =>
            simp [hname, hcreated, Bind.bind, Except.bind, Except.map, Pure.pure, Except.pure]
    rw [List.foldlM_cons, List.mapM_cons, hone]
    cases volumePair dockerID volumeMeta with
    | error e => rfl
    | ok p =>
      show volumes.foldlM _ (noteUpdate controls toUpdate p.1 p.2) = _
      rw [ih]
      cases volumes.mapM (volumePair dockerID) with
      | error e => simp [Bind.bind, Except.bind, Except.map]
      | ok ps => simp [Bind.bind, Except.bind, Except.map, Pure.pure, Except.pure, noteUpdates]

theorem findInEndpoint_eq (toUpdate : ExtTreeMap ResourceControlID String) (endpoint : StoredEndpoint) :
    findInEndpoint controls toUpdate endpoint =
      (endpointPairs endpoint).map (noteUpdates controls toUpdate) := by
  unfold findInEndpoint endpointPairs findResourcesToUpdateForDB32
  split
  · rfl
  · cases endpoint.snapshots.getLast? with
    | none => rfl
    | some snapshot =>
      dsimp only
      cases (fetchDockerID snapshot).mapError (Stop.wrap "failed fetching endpoint docker id: ") with
      | error e => rfl
      | ok endpointDockerID =>
        simp only [Bind.bind, Except.bind]
        cases snapshot.volumes with
        | obj volumesData =>
          by_cases hnull : (Json.Object.get volumesData "Volumes").isNull = true
          · simp [hnull, Pure.pure, Except.pure, Except.map, noteUpdates]
          · simp only [hnull, Bool.false_eq_true, if_false]
            cases asArray (Json.Object.get volumesData "Volumes") with
            | error e => rfl
            | ok volumes => exact foldlM_findResourceToUpdate endpointDockerID volumes toUpdate
        | _ => rfl

/-- **What the program finds is read off the pairs.** -/
theorem foldlM_findInEndpoint (toUpdate : ExtTreeMap ResourceControlID String) :
    endpoints.foldlM (findInEndpoint controls) toUpdate =
      (volumePairs endpoints).map (noteUpdates controls toUpdate) := by
  induction endpoints generalizing toUpdate with
  | nil => rfl
  | cons endpoint endpoints ih =>
    rw [List.foldlM_cons, findInEndpoint_eq, volumePairs]
    cases endpointPairs endpoint with
    | error e => rfl
    | ok ps =>
      show endpoints.foldlM _ (noteUpdates controls toUpdate ps) = _
      rw [ih]
      cases volumePairs endpoints with
      | error e => simp [Bind.bind, Except.bind, Except.map]
      | ok qs =>
        simp [Bind.bind, Except.bind, Except.map, Pure.pure, Except.pure, noteUpdates,
          List.foldl_append]

/-! ## The controls that are visited -/

/-- What is found under a resource identifier is a volume's control of it. -/
theorem mem_of_volumeResourceControls {k : String}
    (h : (volumeResourceControls resourceControls)[k]? = some rc) :
    rc ∈ resourceControls ∧ rc.type = .volume ∧ rc.resourceID = k := by
  induction resourceControls using List.reverseRecOn with
  | nil => simp [volumeResourceControls] at h
  | append_singleton l a ih =>
    rw [volumeResourceControls, List.foldl_concat, ← volumeResourceControls] at h
    have hold : (volumeResourceControls l)[k]? = some rc →
        rc ∈ l ++ [a] ∧ rc.type = .volume ∧ rc.resourceID = k := by
      intro hl
      obtain ⟨hmem, hrest⟩ := ih hl
      exact ⟨List.mem_append_left _ hmem, hrest⟩
    split at h
    · rename_i hvolume
      rw [ExtTreeMap.getElem?_insert] at h
      split at h
      · rename_i hk
        obtain rfl := Option.some.inj h
        exact ⟨by simp, hvolume, Std.compare_eq_iff_eq.mp hk⟩
      · exact hold h
    · exact hold h

/-- Something is found for every volume's control. -/
theorem exists_volumeResourceControl (hrc : rc ∈ resourceControls) (hvolume : rc.type = .volume) :
    ∃ rc', (volumeResourceControls resourceControls)[rc.resourceID]? = some rc' := by
  induction resourceControls using List.reverseRecOn with
  | nil => nomatch hrc
  | append_singleton l a ih =>
    rw [volumeResourceControls, List.foldl_concat, ← volumeResourceControls]
    rcases List.mem_append.mp hrc with hl | ha
    · obtain ⟨rc', hrc'⟩ := ih hl
      split
      · rw [ExtTreeMap.getElem?_insert]
        split
        · exact ⟨a, rfl⟩
        · exact ⟨rc', hrc'⟩
      · exact ⟨rc', hrc'⟩
    · obtain rfl := List.mem_singleton.mp ha
      rw [if_pos hvolume]
      exact ⟨rc, ExtTreeMap.getElem?_insert_self⟩

/-- The controls that are visited. -/
def visited (b : Bucket ResourceControl) : List ResourceControl :=
  (volumeResourceControls b.all).toList.map Prod.snd

theorem mem_visited : rc ∈ visited b ↔ (volumeResourceControls b.all)[rc.resourceID]? = some rc := by
  simp only [visited, List.mem_map, Prod.exists, exists_eq_right,
    ExtTreeMap.mem_toList_iff_getElem?_eq_some]
  constructor
  · rintro ⟨k, hk⟩
    obtain ⟨-, -, rfl⟩ := mem_of_volumeResourceControls hk
    exact hk
  · exact fun h => ⟨_, h⟩

theorem get?_of_visited (h : rc ∈ visited b) : b.get? rc.id = some rc ∧ rc.type = .volume := by
  obtain ⟨hall, hvolume, -⟩ := mem_of_volumeResourceControls (mem_visited.mp h)
  exact ⟨Bucket.mem_all.mp hall, hvolume⟩

/-- One control is visited for every resource identifier. -/
theorem exists_visited {i : ResourceControlID} (h : b.get? i = some rc) (hvolume : rc.type = .volume) :
    ∃ rc' ∈ visited b, rc'.resourceID = rc.resourceID := by
  obtain ⟨rc', hrc'⟩ := exists_volumeResourceControl (Bucket.mem_all_of_get? h) hvolume
  obtain ⟨-, -, hid⟩ := mem_of_volumeResourceControls hrc'
  exact ⟨rc', mem_visited.mpr (by rw [hid]; exact hrc'), hid⟩

theorem eq_of_visited (h : rc ∈ visited b) (h' : rc' ∈ visited b) (hid : rc.resourceID = rc'.resourceID) :
    rc = rc' := by
  have hrc := mem_visited.mp h
  rw [hid, mem_visited.mp h'] at hrc
  exact (Option.some.inj hrc).symm

/-- No control is visited twice. -/
theorem nodup_visited : ((visited b).map ResourceControl.id).Nodup := by
  have hinj : ∀ rc ∈ visited b, ∀ rc' ∈ visited b, rc.id = rc'.id → rc = rc' := by
    intro rc h rc' h' hid
    have hget := (get?_of_visited h).1
    rw [hid, (get?_of_visited h').1] at hget
    exact (Option.some.inj hget).symm
  refine List.Nodup.map_on (fun rc h rc' h' hid => hinj rc h rc' h' hid) ?_
  refine List.Nodup.map_on ?_ ?_
  · rintro ⟨k, rc⟩ hp ⟨k', rc'⟩ hp' (rfl : rc = rc')
    have hk := (mem_of_volumeResourceControls (ExtTreeMap.mem_toList_iff_getElem?_eq_some.mp hp)).2.2
    have hk' := (mem_of_volumeResourceControls (ExtTreeMap.mem_toList_iff_getElem?_eq_some.mp hp')).2.2
    rw [← hk, ← hk']
  · have hkeys : ((volumeResourceControls b.all).toList.map Prod.fst).Nodup := by
      rw [ExtTreeMap.map_fst_toList_eq_keys]
      exact ExtTreeMap.nodup_keys
    exact hkeys.of_map _

/-- What is noted for a control that is visited is what the pairs say last
about its resource identifier. -/
theorem noteUpdates_visited (h : rc ∈ visited b) :
    (noteUpdates (volumeResourceControls b.all) ∅ pairs)[rc.id]? = lastOf pairs rc.resourceID := by
  induction pairs using List.reverseRecOn with
  | nil => simp [noteUpdates, lastOf]
  | append_singleton l p ih =>
    rw [noteUpdates, List.foldl_concat, ← noteUpdates]
    have hlast : lastOf (l ++ [p]) rc.resourceID =
        if p.1 = rc.resourceID then some p.2 else lastOf l rc.resourceID := by
      by_cases hp : p.1 = rc.resourceID <;> simp [lastOf, hp]
    rw [hlast, noteUpdate]
    cases hcontrol : (volumeResourceControls b.all)[p.1]? with
    | none =>
      rw [if_neg]
      · exact ih
      · intro hp
        rw [hp, mem_visited.mp h] at hcontrol
        cases hcontrol
    | some rc' =>
      obtain ⟨-, -, hid⟩ := mem_of_volumeResourceControls hcontrol
      have hmem : rc' ∈ visited b := mem_visited.mpr (by rw [hid]; exact hcontrol)
      dsimp only
      rw [ExtTreeMap.getElem?_insert]
      by_cases hp : p.1 = rc.resourceID
      · obtain rfl := eq_of_visited hmem h (hid.trans hp)
        rw [if_pos (by simp), if_pos hp]
      · rw [if_neg hp, if_neg, ih]
        intro hcompare
        -- two controls of one identifier are one, and it has one resource
        have hget := (get?_of_visited hmem).1
        rw [Std.compare_eq_iff_eq.mp hcompare, (get?_of_visited h).1] at hget
        exact hp (by rw [← hid, ← Option.some.inj hget])

/-! ## The controls that are moved -/

/-- Give a control its new resource identifier, or remove it. -/
def moveControl (newResourceID : Option String) (rc : ResourceControl) (b : Bucket ResourceControl) :
    Bucket ResourceControl :=
  match newResourceID with
  | some n => b.put { rc with resourceID := n }
  | none => b.delete rc.id

/-- What becomes of a control. -/
def movedControl (pairs : List (String × String)) (rc : ResourceControl) : Option ResourceControl :=
  (lastOf pairs rc.resourceID).map fun n => { rc with resourceID := n }

theorem get?_moveControl {i : ResourceControlID} :
    (moveControl (lastOf pairs rc.resourceID) rc b).get? i =
      if rc.id = i then movedControl pairs rc else b.get? i := by
  unfold moveControl movedControl
  cases lastOf pairs rc.resourceID with
  | some n => exact Bucket.get?_put
  | none => exact Bucket.get?_delete

@[simp] theorem sequence_moveControl {o : Option String} : (moveControl o rc b).sequence = b.sequence := by
  unfold moveControl
  split <;> rfl

/-- The controls after those of a list have been moved. -/
def moveAll (pairs : List (String × String)) (l : List ResourceControl) (b : Bucket ResourceControl) :
    Bucket ResourceControl :=
  l.foldl (fun b rc => moveControl (lastOf pairs rc.resourceID) rc b) b

@[simp] theorem sequence_moveAll {l : List ResourceControl} : (moveAll pairs l b).sequence = b.sequence := by
  induction l generalizing b with
  | nil => rfl
  | cons rc l ih => exact ih.trans sequence_moveControl

theorem get?_moveAll_of_notMem {l : List ResourceControl} {i : ResourceControlID}
    (h : ∀ rc ∈ l, rc.id ≠ i) : (moveAll pairs l b).get? i = b.get? i := by
  induction l generalizing b with
  | nil => rfl
  | cons rc l ih =>
    have hrest := ih (b := moveControl (lastOf pairs rc.resourceID) rc b)
      fun rc' hrc' => h rc' (List.mem_cons_of_mem rc hrc')
    refine hrest.trans ?_
    rw [get?_moveControl, if_neg (h rc List.mem_cons_self)]

theorem get?_moveAll_of_mem {l : List ResourceControl} (hl : (l.map ResourceControl.id).Nodup)
    (hrc : rc ∈ l) : (moveAll pairs l b).get? rc.id = movedControl pairs rc := by
  induction l generalizing b with
  | nil => nomatch hrc
  | cons rc' l ih =>
    rw [List.map_cons, List.nodup_cons] at hl
    rcases List.mem_cons.mp hrc with rfl | hrc
    · have hrest : (moveAll pairs (rc :: l) b).get? rc.id =
          (moveControl (lastOf pairs rc.resourceID) rc b).get? rc.id := by
        refine get?_moveAll_of_notMem (l := l) fun rc' hrc' hid => hl.1 ?_
        exact hid ▸ List.mem_map_of_mem hrc'
      rw [hrest, get?_moveControl, if_pos rfl]
    · exact ih hl.2 hrc

/-- The controls after all that are visited have been moved. -/
def afterVolumes (pairs : List (String × String)) (b : Bucket ResourceControl) : Bucket ResourceControl :=
  moveAll pairs (visited b) b

/-- **The order of the visits makes no difference.** -/
theorem moveAll_eq_afterVolumes {l : List ResourceControl} (hl : l.Perm (visited b)) :
    moveAll pairs l b = afterVolumes pairs b := by
  have hnodup : (l.map ResourceControl.id).Nodup := (hl.map _).nodup_iff.mpr nodup_visited
  refine Bucket.eq_of_get? (fun i => ?_) (by rw [afterVolumes, sequence_moveAll, sequence_moveAll])
  by_cases hi : ∃ rc ∈ l, rc.id = i
  · obtain ⟨rc, hrc, rfl⟩ := hi
    rw [get?_moveAll_of_mem hnodup hrc, afterVolumes, get?_moveAll_of_mem nodup_visited (hl.mem_iff.mp hrc)]
  · have hnot : ∀ rc ∈ l, rc.id ≠ i := fun rc hrc hid => hi ⟨rc, hrc, hid⟩
    rw [get?_moveAll_of_notMem hnot, afterVolumes,
      get?_moveAll_of_notMem fun rc hrc => hnot rc (hl.mem_iff.mpr hrc)]

theorem get?_afterVolumes_of_visited (h : rc ∈ visited b) :
    (afterVolumes pairs b).get? rc.id = movedControl pairs rc :=
  get?_moveAll_of_mem nodup_visited h

theorem get?_afterVolumes_of_not {i : ResourceControlID} (h : ∀ rc ∈ visited b, rc.id ≠ i) :
    (afterVolumes pairs b).get? i = b.get? i :=
  get?_moveAll_of_notMem h

@[simp] theorem sequence_afterVolumes : (afterVolumes pairs b).sequence = b.sequence :=
  sequence_moveAll

end Migration

end Portainer
