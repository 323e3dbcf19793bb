import Portainer.Inventory.Helpers.TagRuns
/-!
# What the deletion of a tag does

Three loops take the tag off endpoints, groups and Edge groups, one record
after the other, and between the second and the third another one brings
relations up to date. `runs_tagDelete` states what is left by table.
-/

namespace Portainer

open Action (Runs)

namespace Inventory

open Table

variable {calm : Prop} {E : Server → Prop} {s s' : Server} {t : TagID} {tag : Tag}

/-! ## Records without the tag -/

def untagEndpoint (t : TagID) (endpoint : Endpoint) : Endpoint :=
  { endpoint with tagIDs := removeFirst endpoint.tagIDs t }

def untagEndpointGroup (t : TagID) (endpointGroup : EndpointGroup) : EndpointGroup :=
  { endpointGroup with tagIDs := removeFirst endpointGroup.tagIDs t }

def untagEdgeGroup (t : TagID) (edgeGroup : EdgeGroup) : EdgeGroup :=
  { edgeGroup with tagIDs := removeFirst edgeGroup.tagIDs t }

theorem untagEndpoint_of_notMem {endpoint : Endpoint} (h : t ∉ endpoint.tagIDs) :
    untagEndpoint t endpoint = endpoint := by
  rw [untagEndpoint, removeFirst_of_notMem h]

theorem untagEndpointGroup_of_notMem {endpointGroup : EndpointGroup} (h : t ∉ endpointGroup.tagIDs) :
    untagEndpointGroup t endpointGroup = endpointGroup := by
  rw [untagEndpointGroup, removeFirst_of_notMem h]

theorem untagEdgeGroup_of_notMem {edgeGroup : EdgeGroup} (h : t ∉ edgeGroup.tagIDs) :
    untagEdgeGroup t edgeGroup = edgeGroup := by
  rw [untagEdgeGroup, removeFirst_of_notMem h]

/-- A change that leaves a record as it is. -/
theorem map_eq_self {α : Type} {o : Option α} {F : α → α} (h : ∀ a, o = some a → F a = a) :
    o.map F = o := by
  cases o with
  | none => rfl
  | some a => rw [Option.map_some, h a rfl]

/-! ## The loops that strip -/

/-- **A loop that changes one record at a time**, where `rest` is what it
does not write. -/
theorem runs_strips {α β ρ : Type} (index : α → Int) (records : Server → Int → Option β)
    (rest : Server → ρ) {F : β → β} {f : α → Handler Server Unit} {l : List α}
    (hl : (l.map index).Nodup)
    (hturn : ∀ a ∈ l, ∀ s', rest s' = rest s → records s' (index a) = records s (index a) →
      Runs calm (f a) s' (fun _ s'' => rest s'' = rest s' ∧ ∀ j, records s'' j =
        if index a = j then (records s' j).map F else records s' j) E) :
    Runs calm (l.forM f) s (fun _ s' => rest s' = rest s ∧ ∀ j, records s' j =
      if j ∈ l.map index then (records s j).map F else records s j) E := by
  induction l generalizing s with
  | nil => exact .pure ⟨rfl, fun _ => rfl⟩
  | cons a l ih =>
    obtain ⟨ha, hl⟩ := List.nodup_cons.mp hl
    refine (hturn a List.mem_cons_self s rfl rfl).bind fun _ s₁ h₁ => ?_
    obtain ⟨hrest, hrecords⟩ := h₁
    -- the records still to come are as they were
    have hother : ∀ b ∈ l, records s₁ (index b) = records s (index b) := by
      intro b hb
      have hne : index a ≠ index b := fun h => ha (h ▸ List.mem_map_of_mem hb)
      rw [hrecords, if_neg hne]
    refine (ih hl fun b hb s' hs' hb' => hturn b (List.mem_cons_of_mem a hb) s' (hs'.trans hrest)
      (hb'.trans (hother b hb))).conseq (fun _ s' h => ?_) fun _ _ he => he
    refine ⟨h.1.trans hrest, fun j => ?_⟩
    rw [h.2, hrecords]
    by_cases hj : index a = j
    · subst hj
      simp [ha]
    · simp [hj, Ne.symm hj]

/-- A write of a record in place of the one it was made from. -/
theorem get?_put_changed {α : Type} [Record α] {b : Bucket α} {a : α} {F : α → α} {i j : Int}
    (hget : b.get? i = some a) (hF : key (F a) = i) :
    (b.put (F a)).get? j = if i = j then (b.get? j).map F else b.get? j := by
  rw [Bucket.get?_put, hF]
  split
  · rename_i hj
    rw [← hj, hget, Option.map_some]
  · rfl

/-- The server but for the endpoints, and their counter. -/
def besidesEndpoints (s : Server) : Server × Int :=
  (Server.endpoint.change (fun _ => {}) s, s.dataStore.endpoint.sequence)

/-- The server but for the groups, and their counter. -/
def besidesEndpointGroups (s : Server) : Server × Int :=
  (Server.endpointGroup.change (fun _ => {}) s, s.dataStore.endpointGroup.sequence)

theorem runs_stripEndpoint {i : EndpointID} (he : s.dataStore.endpoint.get? i = none → calm → E s) :
    Runs calm (stripEndpoint t i) s (fun _ s' => besidesEndpoints s' = besidesEndpoints s ∧
      ∀ j, s'.dataStore.endpoint.get? j = if i = j then
        (s.dataStore.endpoint.get? j).map (untagEndpoint t) else s.dataStore.endpoint.get? j) E := by
  unfold stripEndpoint
  refine .read_bind (runs_getObject_mapError he) fun e hget => ?_
  have hid : e.id = i := Bucket.key_of_get? hget
  have hget' : s.dataStore.endpoint.get? i = some e := hget
  split
  · refine runs_updateObject_mapError.conseq (fun _ s' hs' => ?_) fun _ _ h => h
    subst hs'
    exact ⟨rfl, fun j => get?_put_changed (F := untagEndpoint t) hget' hid⟩
  · rename_i hnot
    refine .pure ⟨rfl, fun j => ?_⟩
    split
    · rename_i hj
      rw [← hj, map_eq_self]
      intro e' he'
      exact untagEndpoint_of_notMem (Option.some.inj (hget'.symm.trans he') ▸ hnot)
    · rfl

theorem runs_stripEndpointGroup {i : EndpointGroupID}
    (he : s.dataStore.endpointGroup.get? i = none → calm → E s) :
    Runs calm (stripEndpointGroup t i) s (fun _ s' =>
      besidesEndpointGroups s' = besidesEndpointGroups s ∧ ∀ j, s'.dataStore.endpointGroup.get? j =
        if i = j then (s.dataStore.endpointGroup.get? j).map (untagEndpointGroup t)
        else s.dataStore.endpointGroup.get? j) E := by
  unfold stripEndpointGroup
  refine .read_bind (runs_getObject_mapError he) fun g hget => ?_
  have hid : g.id = i := Bucket.key_of_get? hget
  have hget' : s.dataStore.endpointGroup.get? i = some g := hget
  split
  · refine runs_updateObject_mapError.conseq (fun _ s' hs' => ?_) fun _ _ h => h
    subst hs'
    exact ⟨rfl, fun j => get?_put_changed (F := untagEndpointGroup t) hget' hid⟩
  · rename_i hnot
    refine .pure ⟨rfl, fun j => ?_⟩
    split
    · rename_i hj
      rw [← hj, map_eq_self]
      intro g' hg'
      exact untagEndpointGroup_of_notMem (Option.some.inj (hget'.symm.trans hg') ▸ hnot)
    · rfl

/-- The server but for the Edge groups, and their counter. -/
def besidesEdgeGroupRecords (s : Server) : Server × Int :=
  (Server.edgeGroup.change (fun _ => {}) s, s.dataStore.edgeGroup.sequence)

/-- The record of the Edge group is the one that was read. -/
theorem runs_stripEdgeGroup {g : EdgeGroup} (hget : s.dataStore.edgeGroup.get? g.id = some g) :
    Runs calm (stripEdgeGroup t g) s (fun _ s' =>
      besidesEdgeGroupRecords s' = besidesEdgeGroupRecords s ∧ ∀ j, s'.dataStore.edgeGroup.get? j =
        if g.id = j then (s.dataStore.edgeGroup.get? j).map (untagEdgeGroup t)
        else s.dataStore.edgeGroup.get? j) E := by
  unfold stripEdgeGroup
  split
  · refine runs_updateObject_mapError.conseq (fun _ s' hs' => ?_) fun _ _ h => h
    subst hs'
    exact ⟨rfl, fun j => get?_put_changed (F := untagEdgeGroup t) hget rfl⟩
  · rename_i hnot
    refine .pure ⟨rfl, fun j => ?_⟩
    split
    · rename_i hj
      rw [← hj, map_eq_self]
      intro g' hg'
      exact untagEdgeGroup_of_notMem (Option.some.inj (hget.symm.trans hg') ▸ hnot)
    · rfl

/-- All Edge groups, as they are read. -/
theorem runs_stripEdgeGroups : Runs calm (s.dataStore.edgeGroup.all.forM (stripEdgeGroup t)) s
    (fun _ s' => besidesEdgeGroupRecords s' = besidesEdgeGroupRecords s ∧
      ∀ j, s'.dataStore.edgeGroup.get? j = (s.dataStore.edgeGroup.get? j).map (untagEdgeGroup t)) E := by
  refine (runs_strips EdgeGroup.id (fun s j => s.dataStore.edgeGroup.get? j)
    besidesEdgeGroupRecords (F := untagEdgeGroup t) (Bucket.nodup_keys_all _)
    fun g hg s' _ hget => runs_stripEdgeGroup (hget.trans (Bucket.mem_all.mp hg))).conseq
    (fun _ s' h => ⟨h.1, fun j => ?_⟩) fun _ _ he => he
  rw [h.2]
  split
  · rfl
  · rename_i hnot
    cases hget : s.dataStore.edgeGroup.get? j with
    | none => rfl
    | some g =>
      -- a group that is there is among those that are read
      have hkey : g.id = j := Bucket.key_of_get? hget
      exact absurd (hkey ▸ List.mem_map_of_mem (Bucket.mem_all_of_get? hget)) hnot

/-! ## The relations that are brought up to date -/

/-- **The relations of the tagged endpoints are recomputed**, but for those of
a list that is still to come. -/
structure Refreshed (tag : Tag) (s : Server) (l : List Endpoint) (s' : Server) : Prop where
  rest : besidesRelations s' = besidesRelations s
  there : ∀ i, (s.dataStore.endpointRelation.get? i).isSome →
    (s'.dataStore.endpointRelation.get? i).isSome
  kept : ∀ i, (∀ e, s.dataStore.endpoint.get? i = some e → isTagged tag e = false) →
    s'.dataStore.endpointRelation.get? i = s.dataStore.endpointRelation.get? i
  done : ∀ e ∈ s.dataStore.endpoint.all, e ∉ l → isTagged tag e = true →
    ∃ relation g, s.dataStore.endpointGroup.get? e.groupID = some g ∧
      s'.dataStore.endpointRelation.get? e.id = some relation ∧ relation.edgeStacks =
        (endpointRelatedEdgeStacks e g s.dataStore.edgeGroup.all s.dataStore.edgeStack.all).toFinset

theorem Refreshed.init : Refreshed tag s s.dataStore.endpoint.all s where
  rest := rfl
  there _ h := h
  kept _ _ := rfl
  done e he hnot := absurd he hnot

/-- An endpoint that is not tagged is passed over. -/
theorem Refreshed.pass {e : Endpoint} {l : List Endpoint} (h : Refreshed tag s (e :: l) s')
    (he : isTagged tag e = false) : Refreshed tag s l s' := by
  refine { h with done := fun e' he' hnot htagged => h.done e' he' (fun hmem => ?_) htagged }
  rcases List.mem_cons.mp hmem with rfl | hmem
  · rw [he] at htagged
    nomatch htagged
  · exact hnot hmem

/-- One turn for a tagged endpoint. -/
theorem Refreshed.write {e : Endpoint} {l : List Endpoint} {g : EndpointGroup}
    {relation : EndpointRelation} (h : Refreshed tag s (e :: l) s')
    (hmem : e ∈ s.dataStore.endpoint.all) (htagged : isTagged tag e = true)
    (hgroup : s.dataStore.endpointGroup.get? e.groupID = some g) (hid : relation.endpointID = e.id) :
    Refreshed tag s l (Server.endpointRelation.change (·.put (recomputed relation e g
      s.dataStore.edgeGroup.all s.dataStore.edgeStack.all)) s') := by
  let fresh := recomputed relation e g s.dataStore.edgeGroup.all s.dataStore.edgeStack.all
  have hkey : key fresh = e.id := hid
  have hget : ∀ j, (s'.dataStore.endpointRelation.put fresh).get? j =
      if e.id = j then some fresh else s'.dataStore.endpointRelation.get? j := by
    intro j
    rw [Bucket.get?_put, hkey]
  have hstored : s.dataStore.endpoint.get? e.id = some e := Bucket.mem_all.mp hmem
  refine ⟨h.rest, fun j hj => ?_, fun j hj => ?_, fun e' he' hnot htagged' => ?_⟩
  · change ((s'.dataStore.endpointRelation.put fresh).get? j).isSome
    rw [hget]
    split
    · rfl
    · exact h.there j hj
  · change (s'.dataStore.endpointRelation.put fresh).get? j = _
    rw [hget]
    split
    · rename_i hej
      rw [hj e (hej ▸ hstored)] at htagged
      nomatch htagged
    · exact h.kept j hj
  · by_cases hee : e' = e
    · subst hee
      refine ⟨fresh, g, hgroup, ?_, rfl⟩
      change (s'.dataStore.endpointRelation.put fresh).get? e'.id = some fresh
      rw [hget, if_pos rfl]
    · have hne : ¬ e.id = e'.id := fun hid' => hee (Bucket.eq_of_mem_all he' hmem hid'.symm)
      obtain ⟨relation', g', hg', hget', hstacks⟩ :=
        h.done e' he' (fun hmem' => (List.mem_cons.mp hmem').elim hee hnot) htagged'
      refine ⟨relation', g', hg', ?_, hstacks⟩
      change (s'.dataStore.endpointRelation.put fresh).get? e'.id = some relation'
      rw [hget, if_neg hne]
      exact hget'

/-- **The loop over the endpoints**, from the store that was read. -/
theorem runs_refreshTagged
    (he : calm → ∀ e ∈ s.dataStore.endpoint.all, isTagged tag e = true →
      (s.dataStore.endpointRelation.get? e.id).isSome ∧
        (s.dataStore.endpointGroup.get? e.groupID).isSome) :
    Runs calm (s.dataStore.endpoint.all.forM
      (refreshIfTagged tag s.dataStore.edgeGroup.all s.dataStore.edgeStack.all)) s
      (fun _ => Refreshed tag s []) E := by
  have hloop : Runs calm (s.dataStore.endpoint.all.forM
      (refreshIfTagged tag s.dataStore.edgeGroup.all s.dataStore.edgeStack.all)) s
      (fun _ s' => (∀ e ∈ ([] : List Endpoint), e ∈ s.dataStore.endpoint.all) ∧ Refreshed tag s [] s')
      E := by
    refine .forM_todo (R := fun l s' => (∀ e ∈ l, e ∈ s.dataStore.endpoint.all) ∧
      Refreshed tag s l s') ⟨fun _ h => h, .init⟩ fun e l s' h => ?_
    obtain ⟨hl, hs'⟩ := h
    have hmem : e ∈ s.dataStore.endpoint.all := hl e List.mem_cons_self
    have hrest : ∀ e' ∈ l, e' ∈ s.dataStore.endpoint.all := fun e' he' => hl e' (List.mem_cons_of_mem e he')
    unfold refreshIfTagged
    split
    · rename_i htagged
      -- the groups are those of the store that was read
      have hgroups : s'.dataStore.endpointGroup = s.dataStore.endpointGroup := by
        have h := congrArg (fun s : Server => s.dataStore.endpointGroup) hs'.rest
        exact h
      refine .mapError (.read_bind (runs_getObject fun hnone hc => ?_) fun relation hrelation => ?_)
      · have hthere := hs'.there e.id (he hc e hmem htagged).1
        rw [show s'.dataStore.endpointRelation.get? e.id = none from hnone] at hthere
        nomatch hthere
      · refine .read_bind (runs_getObject fun hnone hc => ?_) fun g hgroup => ?_
        · have hthere := (he hc e hmem htagged).2
          rw [← hgroups, show s'.dataStore.endpointGroup.get? e.groupID = none from hnone] at hthere
          nomatch hthere
        · have hgroup' : s.dataStore.endpointGroup.get? e.groupID = some g := hgroups ▸ hgroup
          exact .call ⟨hrest, hs'.write hmem htagged hgroup' (Bucket.key_of_get? hrelation)⟩
    · rename_i hnot
      exact .pure ⟨hrest, hs'.pass (Bool.eq_false_iff.mpr hnot)⟩
  exact hloop.conseq (fun _ _ h => h.2) fun _ _ he => he

/-! ## The deletion -/

/-- **The server without a tag**, table by table. -/
structure TagGone (t : TagID) (tag : Tag) (s s' : Server) : Prop where
  endpoint : ∀ i, s'.dataStore.endpoint.get? i =
    (s.dataStore.endpoint.get? i).map (untagEndpoint t)
  endpointGroup : ∀ i, s'.dataStore.endpointGroup.get? i =
    (s.dataStore.endpointGroup.get? i).map (untagEndpointGroup t)
  edgeGroup : ∀ i, s'.dataStore.edgeGroup.get? i =
    (s.dataStore.edgeGroup.get? i).map (untagEdgeGroup t)
  tags : s'.dataStore.tag = s.dataStore.tag.delete t
  sequence : s'.dataStore.endpoint.sequence = s.dataStore.endpoint.sequence ∧
    s'.dataStore.endpointGroup.sequence = s.dataStore.endpointGroup.sequence
  edgeStack : s'.dataStore.edgeStack = s.dataStore.edgeStack
  kept : ∀ i, (∀ e, s.dataStore.endpoint.get? i = some e → isTagged tag e = false) →
    s'.dataStore.endpointRelation.get? i = s.dataStore.endpointRelation.get? i
  refreshed : ∀ i e, s.dataStore.endpoint.get? i = some e → isTagged tag e = true →
    ∃ relation g, s.dataStore.endpointGroup.get? e.groupID = some g ∧
      s'.dataStore.endpointRelation.get? i = some relation ∧ relation.edgeStacks =
        (endpointRelatedEdgeStacks (untagEndpoint t e) (untagEndpointGroup t g)
          s.dataStore.edgeGroup.all s.dataStore.edgeStack.all).toFinset

/-! ### The tables a loop leaves as they are -/

theorem dataStore_of_besidesEndpoints (h : besidesEndpoints s' = besidesEndpoints s) :
    s'.dataStore = { s.dataStore with endpoint := s'.dataStore.endpoint } ∧
      s'.dataStore.endpoint.sequence = s.dataStore.endpoint.sequence := by
  have hdb := congrArg (fun p : Server × Int => { p.1.dataStore with endpoint := s'.dataStore.endpoint }) h
  exact ⟨hdb, congrArg Prod.snd h⟩

theorem dataStore_of_besidesEndpointGroups (h : besidesEndpointGroups s' = besidesEndpointGroups s) :
    s'.dataStore = { s.dataStore with endpointGroup := s'.dataStore.endpointGroup } ∧
      s'.dataStore.endpointGroup.sequence = s.dataStore.endpointGroup.sequence := by
  have hdb := congrArg
    (fun p : Server × Int => { p.1.dataStore with endpointGroup := s'.dataStore.endpointGroup }) h
  exact ⟨hdb, congrArg Prod.snd h⟩

theorem dataStore_of_besidesEdgeGroupRecords
    (h : besidesEdgeGroupRecords s' = besidesEdgeGroupRecords s) :
    s'.dataStore = { s.dataStore with edgeGroup := s'.dataStore.edgeGroup } :=
  congrArg (fun p : Server × Int => { p.1.dataStore with edgeGroup := s'.dataStore.edgeGroup }) h

theorem dataStore_of_besidesRelations (h : besidesRelations s' = besidesRelations s) :
    s'.dataStore = { s.dataStore with endpointRelation := s'.dataStore.endpointRelation } :=
  congrArg (fun s : Server => { s.dataStore with endpointRelation := s'.dataStore.endpointRelation }) h

/-- The endpoints that a tag names are there, and no other one lists it. -/
theorem Tagged.endpoint_of_tag (hs : Tagged s) (htag : s.dataStore.tag.get? t = some tag)
    (i : EndpointID) : (i ∈ tag.endpoints → (s.dataStore.endpoint.get? i).isSome) ∧
      ∀ e, s.dataStore.endpoint.get? i = some e → i ∉ tag.endpoints → t ∉ e.tagIDs := by
  have hnamed : (tagging s).endpoints.named t = some tag.endpoints := by simp [tagging, htag]
  have hagree := hs.endpoints i t
  rw [Links.names_of_named hnamed] at hagree
  refine ⟨fun hi => ?_, fun e he hi ht => hi (hagree.mp ?_)⟩
  · have hlisted := hs.endpoints.listed_isSome ((Links.names_of_named hnamed).mpr hi)
    simpa [tagging] using hlisted
  · exact (Links.lists_of_listed (listed_endpoint he)).mpr ht

theorem Tagged.endpointGroup_of_tag (hs : Tagged s) (htag : s.dataStore.tag.get? t = some tag)
    (i : EndpointGroupID) : (i ∈ tag.endpointGroups → (s.dataStore.endpointGroup.get? i).isSome) ∧
      ∀ g, s.dataStore.endpointGroup.get? i = some g → i ∉ tag.endpointGroups → t ∉ g.tagIDs := by
  have hnamed : (tagging s).endpointGroups.named t = some tag.endpointGroups := by
    simp [tagging, htag]
  have hagree := hs.endpointGroups i t
  rw [Links.names_of_named hnamed] at hagree
  refine ⟨fun hi => ?_, fun g hg hi ht => hi (hagree.mp ?_)⟩
  · have hlisted := hs.endpointGroups.listed_isSome ((Links.names_of_named hnamed).mpr hi)
    simpa [tagging] using hlisted
  · exact (Links.lists_of_listed (listed_endpointGroup hg)).mpr ht

/-- The endpoints a tag names are stripped of it, and then every endpoint
is. -/
theorem runs_stripEndpoints (hs : Tagged s) (htag : s.dataStore.tag.get? t = some tag) :
    Runs calm ((elements tag.endpoints).forM (stripEndpoint t)) s (fun _ s' =>
      besidesEndpoints s' = besidesEndpoints s ∧ ∀ j, s'.dataStore.endpoint.get? j =
        (s.dataStore.endpoint.get? j).map (untagEndpoint t)) E := by
  refine (runs_strips (fun i => i) (fun s j => s.dataStore.endpoint.get? j) besidesEndpoints
    (F := untagEndpoint t) ?_ fun i hi s' _ hget => runs_stripEndpoint fun hnone => ?_).conseq
    (fun _ s' h => ⟨h.1, fun j => ?_⟩) fun _ _ he => he
  · rw [List.map_id']
    exact nodup_elements _
  · have hsome := (hs.endpoint_of_tag htag i).1 (mem_elements.mp hi)
    rw [← hget, hnone] at hsome
    nomatch hsome
  · rw [h.2, List.map_id']
    split
    · rfl
    · rename_i hj
      rw [mem_elements] at hj
      exact (map_eq_self fun e he => untagEndpoint_of_notMem
        ((hs.endpoint_of_tag htag j).2 e he hj)).symm

theorem runs_stripEndpointGroups (hs : Tagged s) (htag : s.dataStore.tag.get? t = some tag)
    (hsame : s'.dataStore.endpointGroup = s.dataStore.endpointGroup) :
    Runs calm ((elements tag.endpointGroups).forM (stripEndpointGroup t)) s' (fun _ s'' =>
      besidesEndpointGroups s'' = besidesEndpointGroups s' ∧ ∀ j, s''.dataStore.endpointGroup.get? j =
        (s.dataStore.endpointGroup.get? j).map (untagEndpointGroup t)) E := by
  refine (runs_strips (fun i => i) (fun s j => s.dataStore.endpointGroup.get? j)
    besidesEndpointGroups (F := untagEndpointGroup t) ?_
    fun i hi s'' _ hget => runs_stripEndpointGroup fun hnone => ?_).conseq
    (fun _ s'' h => ⟨h.1, fun j => ?_⟩) fun _ _ he => he
  · rw [List.map_id']
    exact nodup_elements _
  · have hsome := (hs.endpointGroup_of_tag htag i).1 (mem_elements.mp hi)
    rw [← hsame, ← hget, hnone] at hsome
    nomatch hsome
  · rw [h.2, List.map_id', hsame]
    split
    · rfl
    · rename_i hj
      rw [mem_elements] at hj
      exact (map_eq_self fun g hg => untagEndpointGroup_of_notMem
        ((hs.endpointGroup_of_tag htag j).2 g hg hj)).symm

/-- **The deletion of a tag that is there** goes through, where no call fails
and the tagged Edge endpoints have relations and groups. -/
theorem runs_tagDelete (hs : Tagged s) (htag : s.dataStore.tag.get? t = some tag)
    (hrelations : calm → ∀ e ∈ s.dataStore.endpoint.all, isTagged tag e = true →
      (s.dataStore.endpointRelation.get? e.id).isSome ∧
        (s.dataStore.endpointGroup.get? e.groupID).isSome) :
    Runs calm (tagDelete t) s (fun _ s' => TagGone t tag s s') E := by
  refine .read_bind (runs_getObject_mapError fun hnone _ => ?_) fun tag' htag' => ?_
  · rw [show s.dataStore.tag.get? t = none from hnone] at htag
    nomatch htag
  obtain rfl : tag = tag' := Option.some.inj (htag.symm.trans htag')
  refine (runs_stripEndpoints hs htag).bind fun _ s₁ h₁ => ?_
  obtain ⟨hrest₁, hendpoint⟩ := h₁
  have hdb₁ := dataStore_of_besidesEndpoints hrest₁
  have hgroup₁ : s₁.dataStore.endpointGroup = s.dataStore.endpointGroup := by rw [hdb₁.1]
  refine (runs_stripEndpointGroups hs htag hgroup₁).bind fun _ s₂ h₂ => ?_
  obtain ⟨hrest₂, hgroup⟩ := h₂
  have hdb₂ := dataStore_of_besidesEndpointGroups hrest₂
  -- what is read is as at the start, but for the tag
  have hendpoint₂ : ∀ j, s₂.dataStore.endpoint.get? j =
      (s.dataStore.endpoint.get? j).map (untagEndpoint t) := by
    intro j
    rw [hdb₂.1]
    exact hendpoint j
  have hsame : s₂.dataStore.edgeGroup = s.dataStore.edgeGroup ∧
      s₂.dataStore.edgeStack = s.dataStore.edgeStack ∧ s₂.dataStore.tag = s.dataStore.tag ∧
      s₂.dataStore.endpointRelation = s.dataStore.endpointRelation := by
    rw [hdb₂.1, hdb₁.1]
    exact ⟨rfl, rfl, rfl, rfl⟩
  have hsequence : s₂.dataStore.endpoint.sequence = s.dataStore.endpoint.sequence ∧
      s₂.dataStore.endpointGroup.sequence = s.dataStore.endpointGroup.sequence := by
    have hendpoints : s₂.dataStore.endpoint = s₁.dataStore.endpoint := by rw [hdb₂.1]
    exact ⟨by rw [hendpoints, hdb₁.2], by rw [hdb₂.2, hgroup₁]⟩
  refine .read_bind runs_getAll_mapError fun endpoints hendpoints => ?_
  refine .read_bind runs_getAll_mapError fun edgeGroups hedgeGroups => ?_
  refine .read_bind runs_getAll_mapError fun edgeStacks hedgeStacks => ?_
  subst hendpoints hedgeGroups hedgeStacks
  refine (runs_refreshTagged fun hc e he htagged => ?_).bind fun _ s₃ h₃ => ?_
  · have hget : s₂.dataStore.endpoint.get? e.id = some e := Bucket.mem_all.mp he
    obtain ⟨e₀, he₀, rfl⟩ := Option.map_eq_some_iff.mp ((hendpoint₂ e.id).symm.trans hget)
    obtain ⟨hrelation, hgroup₀⟩ := hrelations hc e₀ (Bucket.mem_all_of_get? he₀) htagged
    refine ⟨by rw [hsame.2.2.2]; exact hrelation, ?_⟩
    rw [hgroup]
    exact Option.isSome_map.trans hgroup₀
  have hdb₃ := dataStore_of_besidesRelations h₃.rest
  have hall : (Server.edgeGroup.bucket s₂.dataStore).all = s₃.dataStore.edgeGroup.all := by
    rw [hdb₃]
    rfl
  rw [hall]
  refine runs_stripEdgeGroups.bind fun _ s₄ h₄ => ?_
  obtain ⟨hrest₄, hedgeGroup⟩ := h₄
  have hdb₄ := dataStore_of_besidesEdgeGroupRecords hrest₄
  refine runs_deleteObject_mapError.conseq (fun _ s' hs' => ?_) fun _ _ he => he
  have htables : s'.dataStore = { s₂.dataStore with
      endpointRelation := s₃.dataStore.endpointRelation
      edgeGroup := s₄.dataStore.edgeGroup
      tag := s₂.dataStore.tag.delete t } := by
    rw [hs']
    change { s₄.dataStore with tag := s₄.dataStore.tag.delete t } = _
    rw [hdb₄, hdb₃]
  refine ⟨fun i => ?_, fun i => ?_, fun i => ?_, ?_, ?_, ?_, fun i hi => ?_, fun i e he htagged => ?_⟩
  · rw [htables]
    exact hendpoint₂ i
  · rw [htables]
    exact hgroup i
  · rw [htables]
    change s₄.dataStore.edgeGroup.get? i = _
    rw [hedgeGroup, hdb₃]
    exact congrArg (fun b : Bucket EdgeGroup => (b.get? i).map (untagEdgeGroup t)) hsame.1
  · rw [htables, ← hsame.2.2.1]
  · rw [htables]
    exact hsequence
  · rw [htables]
    exact hsame.2.1
  · rw [htables, ← hsame.2.2.2]
    refine h₃.kept i fun e he => ?_
    obtain ⟨e₀, he₀, rfl⟩ := Option.map_eq_some_iff.mp ((hendpoint₂ i).symm.trans he)
    exact hi e₀ he₀
  · have hget : s₂.dataStore.endpoint.get? i = some (untagEndpoint t e) := by
      rw [hendpoint₂, he, Option.map_some]
    have hid : e.id = i := Bucket.key_of_get? he
    obtain ⟨relation, g, hg, hrelation, hstacks⟩ :=
      h₃.done _ (Bucket.mem_all_of_get? hget) List.not_mem_nil htagged
    obtain ⟨g₀, hg₀, rfl⟩ := Option.map_eq_some_iff.mp ((hgroup _).symm.trans hg)
    refine ⟨relation, g₀, hg₀, ?_, ?_⟩
    · rw [htables, ← hid]
      exact hrelation
    · rw [hstacks, hsame.1, hsame.2.1]

end Inventory

end Portainer
