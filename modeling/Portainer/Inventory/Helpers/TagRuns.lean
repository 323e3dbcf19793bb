import Portainer.Inventory.Helpers.Tagging
import Portainer.Inventory.GroupReferences
/-!
# What the handlers do to the references between tags and the rest

For each handler that writes endpoints or groups: what it keeps where it
changes no tags, and where it does, that the references are sound again at
its end. In between they are not, so these runs are those in which no call
fails, or those that succeed.
-/

namespace Portainer

open Action (Meets Keeps Runs)
open Kubernetes (isKubernetesEndpoint Decodes)
open Tunnel (isEdge)

namespace Inventory

open Table

variable {services : Services} {s s' : Server} {v : Tagging} {calm : Prop}

/-- The tag is there. -/
def HasTag (s : Server) (t : TagID) : Prop := (s.dataStore.tag.get? t).isSome

instance {t : TagID} : Decidable (HasTag s t) := inferInstanceAs (Decidable (_ = true))

/-- **The references of the server are sound.** -/
def Tagged (s : Server) : Prop := (tagging s).Sound

theorem tagged_of_eq (hv : v.Sound) (h : tagging s = v) : Tagged s := by
  rw [Tagged, h]
  exact hv

theorem Tagged.congr (hs : Tagged s) (h : tagging s' = tagging s) : Tagged s' := tagged_of_eq hs h

theorem listed_endpoint {id : EndpointID} {e : Endpoint} (h : s.dataStore.endpoint.get? id = some e) :
    (tagging s).endpoints.listed id = some e.tagIDs := by
  simp [tagging, h]

theorem listed_endpointGroup {id : EndpointGroupID} {g : EndpointGroup}
    (h : s.dataStore.endpointGroup.get? id = some g) :
    (tagging s).endpointGroups.listed id = some g.tagIDs := by
  simp [tagging, h]

theorem hasTag_iff_endpoints {t : TagID} : HasTag s t ↔ ((tagging s).endpoints.named t).isSome := by
  simp [HasTag, tagging]

theorem hasTag_iff_endpointGroups {t : TagID} :
    HasTag s t ↔ ((tagging s).endpointGroups.named t).isSome := by
  simp [HasTag, tagging]

theorem hasGroup_iff {k : EndpointGroupID} :
    HasGroup s k ↔ ((tagging s).endpointGroups.listed k).isSome := by
  simp [HasGroup, tagging]

theorem Tagged.endpointTags {id : EndpointID} {e : Endpoint} (hs : Tagged s)
    (h : s.dataStore.endpoint.get? id = some e) : ∀ t ∈ e.tagIDs, HasTag s t := by
  intro t ht
  have hlists : (tagging s).endpoints.Lists id t := ⟨_, listed_endpoint h, ht⟩
  exact hasTag_iff_endpoints.mpr (hs.endpoints.named_isSome hlists)

theorem Tagged.endpointGroupTags {id : EndpointGroupID} {g : EndpointGroup} (hs : Tagged s)
    (h : s.dataStore.endpointGroup.get? id = some g) : ∀ t ∈ g.tagIDs, HasTag s t := by
  intro t ht
  have hlists : (tagging s).endpointGroups.Lists id t := ⟨_, listed_endpointGroup h, ht⟩
  exact hasTag_iff_endpointGroups.mpr (hs.endpointGroups.named_isSome hlists)

theorem Tagged.hasGroup_one (hs : Tagged s) : HasGroup s 1 := hasGroup_iff.mpr hs.unassigned

/-- A program that keeps the view, from a server with sound references. -/
theorem meets_tagged {α ε : Type} {x : Action Callee Server ε α} {R : Callee → Prop}
    {P : Server → Prop} (h : Keeps x (tagging · = v)) (hv : v.Sound) (hP : ∀ s, P s → tagging s = v) :
    Meets R P x (fun _ => Tagged) fun _ => Tagged :=
  (h R).conseq hP (fun _ _ hs => tagged_of_eq hv hs) fun _ _ hs => tagged_of_eq hv hs

/-- The same, from one server. -/
theorem runs_tagged {α ε : Type} {x : Action Callee Server ε α} (h : Keeps x (tagging · = tagging s))
    (hs : Tagged s) : Runs calm x s (fun _ => Tagged) Tagged :=
  (Runs.of_keeps h rfl).conseq (fun _ _ h' => hs.congr h') fun _ _ h' => hs.congr h'

/-! ## Replacing the tags of a record -/

/-- The tags an update takes the record off. -/
def removedTags (tagIDs payloadTagIDs : List TagID) : List TagID :=
  elements (Tags.difference (Tags.set tagIDs) (Tags.set payloadTagIDs))

theorem mem_removedTags {tagIDs payloadTagIDs : List TagID} {t : TagID} :
    t ∈ removedTags tagIDs payloadTagIDs ↔ t ∈ tagIDs ∧ t ∉ payloadTagIDs := by
  simp [removedTags, Tags.difference, Tags.set]

/-- Another set of tags gets in the place of the old one. -/
theorem runs_replaceTags {E : Server → Prop} (off on : Tag → Tag) {tagIDs payloadTagIDs : List TagID}
    (hoff : ∀ tag, key (off tag) = key tag) (hon : ∀ tag, key (on tag) = key tag)
    (hchanged : tagsChanged tagIDs (some payloadTagIDs) = true)
    (hold : ∀ t ∈ tagIDs, HasTag s t) (hnew : calm → ∀ t ∈ payloadTagIDs, HasTag s t) :
    Runs calm (replaceTags off on tagIDs (some payloadTagIDs)) s (fun tagIDs' s' =>
      tagIDs' = payloadTagIDs ∧ (∀ t ∈ payloadTagIDs, HasTag s t) ∧
        s' = alterTags on payloadTagIDs (alterTags off (removedTags tagIDs payloadTagIDs) s)) E := by
  have hthere : ∀ t, HasTag (alterTags off (removedTags tagIDs payloadTagIDs) s) t ↔ HasTag s t := by
    intro t
    have hget : ((s.dataStore.tag.alterAll off (removedTags tagIDs payloadTagIDs)).get? t).isSome =
        (s.dataStore.tag.get? t).isSome := Bucket.isSome_get?_alterAll hoff
    rw [HasTag, HasTag, ← hget]
    rfl
  unfold replaceTags
  dsimp only
  rw [if_pos hchanged]
  refine (runs_changeTags off hoff fun _ t ht => ?_).bind fun _ s₁ h₁ => ?_
  · exact hold t (mem_removedTags.mp ht).1
  · obtain ⟨rfl, -⟩ := h₁
    refine (runs_changeTags on hon fun hc t ht => ?_).bind fun _ s₂ h₂ => ?_
    · exact (hthere t).mpr (hnew hc t ht)
    · exact .pure ⟨rfl, fun t ht => (hthere t).mp (h₂.2 t ht), h₂.1⟩

/-- The same set of tags stays as it is. -/
theorem replaceTags_of_unchanged {off on : Tag → Tag} {tagIDs : List TagID}
    {payloadTagIDs : Option (List TagID)} (h : tagsChanged tagIDs payloadTagIDs = false) :
    replaceTags off on tagIDs payloadTagIDs = pure tagIDs := by
  cases payloadTagIDs with
  | none => rfl
  | some payloadTagIDs =>
    unfold replaceTags
    dsimp only
    rw [if_neg (by simp [h])]

/-! ## Moving an endpoint -/

/-- The view is the same, and the relations that were there still are. -/
structure Moved (s s' : Server) : Prop where
  tagging : Inventory.tagging s' = Inventory.tagging s
  relation : ∀ i, (s.dataStore.endpointRelation.get? i).isSome →
    (s'.dataStore.endpointRelation.get? i).isSome

theorem Moved.refl : Moved s s := ⟨rfl, fun _ h => h⟩

theorem Moved.trans {s'' : Server} (h : Moved s s') (h' : Moved s' s'') : Moved s s'' :=
  ⟨h'.tagging.trans h.tagging, fun i hi => h'.relation i (h.relation i hi)⟩

theorem moved_put_relation (relation : EndpointRelation) :
    Moved s (Server.endpointRelation.change (·.put relation) s) := by
  refine ⟨rfl, fun i hi => ?_⟩
  change ((s.dataStore.endpointRelation.put relation).get? i).isSome
  rw [Bucket.get?_put]
  split
  · rfl
  · exact hi

/-- A relation is brought up to date where it is there. -/
theorem runs_updateEndpointRelations {E : Server → Prop} {e : Endpoint} {g : Option EndpointGroup}
    (hg : calm → g = none → HasGroup s 1)
    (hrelation : calm → isEdge e.type = true → (s.dataStore.endpointRelation.get? e.id).isSome) :
    Runs calm (updateEndpointRelations e g) s (fun _ s' => Moved s s') E := by
  have hgroup : Runs calm (givenOrUnassigned g) s (fun _ s' => s' = s) E := by
    cases g with
    | some group => exact .pure rfl
    | none =>
      refine (runs_getObject fun hnone hc => ?_).conseq (fun _ _ h => h.1) fun _ _ he => he
      have hsome := hg hc rfl
      rw [HasGroup, show s.dataStore.endpointGroup.get? 1 = none from hnone] at hsome
      cases hsome
  unfold updateEndpointRelations
  split
  · rename_i hedge
    refine .move_bind hgroup fun group => .read_bind (runs_getObject fun hnone hc => ?_) fun relation _ => ?_
    · have hsome := hrelation hc hedge
      rw [show s.dataStore.endpointRelation.get? e.id = none from hnone] at hsome
      cases hsome
    · refine .read_bind runs_getAll fun edgeGroups _ => .read_bind runs_getAll fun edgeStacks _ => ?_
      exact .call (moved_put_relation _)
  · exact .pure .refl

theorem runs_moveEndpoint {E : Server → Prop} {unpersisted : String → HandlerError} {e : Endpoint}
    {k : EndpointGroupID} {g : Option EndpointGroup}
    (hlisted : (tagging s).endpoints.listed e.id = some e.tagIDs)
    (hg : calm → g = none → HasGroup s 1)
    (hrelation : calm → isEdge e.type = true → (s.dataStore.endpointRelation.get? e.id).isSome) :
    Runs calm (moveEndpoint unpersisted e k g) s (fun _ s' => Moved s s') E := by
  let s₁ := Server.endpoint.change (·.put { e with groupID := k }) s
  have hput : Moved s s₁ := by
    refine ⟨?_, fun _ h => h⟩
    rw [tagging_put_endpoint, Links.setListed_self hlisted]
    rfl
  refine .move_bind runs_updateObject_mapError fun _ => .mapError ?_
  have hrun : Runs calm (updateEndpointRelations { e with groupID := k } g) s₁
      (fun _ s' => Moved s₁ s') E := runs_updateEndpointRelations hg hrelation
  exact hrun.conseq (fun _ s' h => hput.trans h) fun _ _ he => he

/-- An endpoint that is written in another group keeps the tags it has. -/
theorem keeps_tagging_moveEndpoint {unpersisted : String → HandlerError} {e : Endpoint}
    {k : EndpointGroupID} {g : Option EndpointGroup} (h : v.endpoints.listed e.id = some e.tagIDs) :
    Keeps (moveEndpoint unpersisted e k g) (tagging · = v) :=
  .bind (keeps_tagging_endpoint h) fun _ =>
    .mapError (frames_updateEndpointRelations.mono tagging (fun _ => rfl) v)

/-! ## Endpoints: update -/

/-- The cleaning of an update succeeds, if no call fails. -/
def Cleans (s : Server) (e : Endpoint) : Prop :=
  isKubernetesEndpoint e.type = true → Decodes s e.id ∧ HasGroup s e.groupID

/-- The calls between the tags and the endpoint leave the endpoint with the
tags it is given. -/
theorem keeps_connection {I : Server → Prop} {payload : EndpointUpdatePayload} {e : Endpoint}
    {α : Type} {f : Endpoint → Handler Server α}
    (hf : ∀ e', e' = { e with azureCredentials := e'.azureCredentials, tlsConfig := e'.tlsConfig } →
      Keeps (f e') I) :
    Keeps (do
      let e ← updateAzureCredentials payload e
      let e ← updateTLS services payload e
      registerEndpointProxy payload e
      f e) I := by
  refine .bind_of (keeps_updateAzureCredentials.returning fun s =>
    (runs_updateAzureCredentials (E := fun _ => True)).ensures.conseq fun _ _ h => h.2) fun e₁ h₁ => ?_
  refine .bind_of (keeps_updateTLS.returning fun s =>
    (runs_updateTLS (E := fun _ => True)).ensures.conseq fun _ _ h => h.2) fun e₂ h₂ => ?_
  exact .bind keeps_registerEndpointProxy fun _ => hf e₂ (by rw [h₂, h₁])

theorem runs_connection {E : Server → Prop} {payload : EndpointUpdatePayload} {e : Endpoint}
    {α : Type} {Q : α → Server → Prop} {f : Endpoint → Handler Server α}
    (hf : ∀ e', e' = { e with azureCredentials := e'.azureCredentials, tlsConfig := e'.tlsConfig } →
      Runs calm (f e') s Q E) :
    Runs calm (do
      let e ← updateAzureCredentials payload e
      let e ← updateTLS services payload e
      registerEndpointProxy payload e
      f e) s Q E := by
  refine .read_bind runs_updateAzureCredentials fun e₁ h₁ => ?_
  refine .read_bind runs_updateTLS fun e₂ h₂ => ?_
  exact .move_bind runs_registerEndpointProxy fun _ => hf e₂ (by rw [h₂, h₁])

/-- The update changes the set of tags of the endpoint. -/
def RetagsEndpoint (s : Server) (id : EndpointID) (payload : EndpointUpdatePayload) : Prop :=
  ∃ e, s.dataStore.endpoint.get? id = some e ∧ tagsChanged e.tagIDs payload.tagIDs = true

/-- An update that changes no tags keeps the references. -/
theorem keeps_endpointUpdate {id : EndpointID} {payload : EndpointUpdatePayload}
    (h : ¬ RetagsEndpoint s id payload) :
    Keeps (endpointUpdate services id payload) (tagging · = tagging s) := by
  refine .bind_of (Q := fun e => e.id = id ∧ (tagging s).endpoints.listed id = some e.tagIDs ∧
    tagsChanged e.tagIDs payload.tagIDs = false) ?_ fun e he => ?_
  · refine fun R => .mapError (Keeps.lookup_of (fun s' e hs' hget => ?_) R)
    have hlisted : (tagging s).endpoints.listed id = some e.tagIDs := hs' ▸ listed_endpoint hget
    refine ⟨Bucket.key_of_get? hget, hlisted, Bool.eq_false_iff.mpr fun hchanged => h ?_⟩
    obtain ⟨e₀, hget₀, htags⟩ := Option.map_eq_some_iff.mp hlisted
    exact ⟨e₀, hget₀, htags ▸ hchanged⟩
  · obtain ⟨hid, hlisted, hunchanged⟩ := he
    rw [← hid] at hlisted
    rw [replaceTags_of_unchanged hunchanged, Action.pure_bind]
    refine keeps_connection fun e₃ h₃ => ?_
    have hlisted₃ : (tagging s).endpoints.listed e₃.id = some e₃.tagIDs := by
      rw [h₃]
      exact hlisted
    refine .bind (.ite (fun _ => .mapError (frames_tagging_cleanNAP _)) fun _ => .pure) fun _ => ?_
    refine .bind (keeps_tagging_endpoint hlisted₃) fun _ => ?_
    exact .ite (fun _ => .bind (frames_refreshRelation.mono tagging (fun _ => rfl) _) fun _ => .pure)
      fun _ => .pure

/-- An endpoint gets another list of tags. -/
theorem tagged_relistEndpoint {id : EndpointID} {e e' : Endpoint} {s₁ : Server} (gone : List TagID)
    (hs : Tagged s) (hget : s.dataStore.endpoint.get? id = some e) (hid : e'.id = id)
    (hgone : ∀ t ∈ e.tagIDs, t ∉ e'.tagIDs → t ∈ gone) (hthere : ∀ t ∈ e'.tagIDs, HasTag s t)
    (h₁ : tagging s₁ =
      (tagging s).withEndpoints (((tagging s).endpoints.off id gone).on id e'.tagIDs)) :
    Tagged (Server.endpoint.change (·.put e') s₁) := by
  have hlisted := listed_endpoint hget
  rw [Tagged, tagging_put_endpoint, h₁, hid]
  refine hs.relistEndpoint (o := some e'.tagIDs) gone ?_ ?_ fun _ => ?_
  · exact fun t hl ht => hgone t ((Links.lists_of_listed hlisted).mp hl) ht
  · exact fun t ht => hasTag_iff_endpoints.mp (hthere t ht)
  · exact hs.endpoint_le id (Option.isSome_of_eq_some hlisted)

/-- **An update that replaces tags** fails in between only at a cleaning, if
no call fails. -/
theorem runs_endpointUpdate {id : EndpointID} {payload : EndpointUpdatePayload} (hs : Tagged s)
    (htags : calm → RetagsEndpoint s id payload → ∀ t ∈ payload.tagIDs.getD [], HasTag s t)
    (hclean : calm → RetagsEndpoint s id payload → ∀ e, s.dataStore.endpoint.get? id = some e →
      payload.updateAuthorizations e = true → Cleans s (payload.withFields e)) :
    Runs calm (endpointUpdate services id payload) s (fun _ => Tagged) Tagged := by
  by_cases hretags : RetagsEndpoint s id payload
  · refine .read_bind (runs_getObject_mapError fun _ _ => hs) fun e hget => ?_
    have hid : e.id = id := Bucket.key_of_get? hget
    obtain ⟨e', hget', hchanged⟩ := hretags
    obtain rfl : e' = e := Option.some.inj (hget'.symm.trans hget)
    obtain ⟨tagIDs, htagIDs⟩ : ∃ tagIDs, payload.tagIDs = some tagIDs := by
      cases hp : payload.tagIDs with
      | none => rw [hp] at hchanged; nomatch hchanged
      | some tagIDs => exact ⟨tagIDs, rfl⟩
    rw [htagIDs] at hchanged htags
    simp only [htagIDs]
    refine (runs_replaceTags (withoutEndpoint e'.id) (withEndpoint e'.id) (fun _ => rfl) (fun _ => rfl)
      hchanged (hs.endpointTags hget') fun hc => htags hc ⟨e', hget', htagIDs ▸ hchanged⟩).bind
      fun newTags s₁ h => ?_
    obtain ⟨rfl, hthere, hs₁⟩ := h
    -- the tags are those of the payload, the endpoint still lists the old ones
    have hview : tagging s₁ = (tagging s).withEndpoints
        (((tagging s).endpoints.off id (removedTags e'.tagIDs newTags)).on id newTags) := by
      rw [hs₁, tagging_withEndpoint, tagging_withoutEndpoint, hid]
      rfl
    have hsame : s₁.configMaps = s.configMaps ∧
        s₁.dataStore.endpointGroup = s.dataStore.endpointGroup := by
      rw [hs₁]
      exact ⟨rfl, rfl⟩
    refine runs_connection fun e₃ h₃ => ?_
    have hid₃ : e₃.id = id := by rw [h₃]; exact hid
    have htags₃ : e₃.tagIDs = newTags := by rw [h₃]
    have hclean₃ : Runs calm (cleanEndpoint (payload.updateAuthorizations e') e₃) s₁
        (fun _ s' => tagging s' = tagging s₁) Tagged := by
      unfold cleanEndpoint
      split
      · rename_i hcond
        rw [Bool.and_eq_true] at hcond
        have hcleans : calm → Decodes s e₃.id ∧ HasGroup s e₃.groupID := by
          intro hc
          rw [h₃] at hcond ⊢
          exact hclean hc ⟨e', hget', htagIDs ▸ hchanged⟩ e' hget' hcond.1 hcond.2
        have hdecodes : calm → Decodes s₁ e₃.id := by
          intro hc
          rw [Decodes, hsame.1]
          exact (hcleans hc).1
        have hgroup : calm → (Kubernetes.groupInForce s₁.dataStore e₃ none).isSome := by
          intro hc
          rw [Kubernetes.groupInForce, hsame.2]
          exact (hcleans hc).2
        refine .mapError ((Kubernetes.runs_cleanNAP (fun _ => hcond.2) hdecodes hgroup).conseq
          (fun _ s' h => ?_) fun _ _ he => he)
        simp only [tagging, h.1]
      · exact .pure rfl
    refine hclean₃.bind fun _ s₄ h₄ => .move_bind runs_updateObject_mapError fun _ => ?_
    have htagged : Tagged (Server.endpoint.change (·.put e₃) s₄) := by
      refine tagged_relistEndpoint (removedTags e'.tagIDs newTags) hs hget' hid₃ ?_ ?_ ?_
      · exact fun t ht hnew => mem_removedTags.mpr ⟨ht, htags₃ ▸ hnew⟩
      · exact htags₃ ▸ hthere
      · rw [h₄, hview, htags₃]
    refine runs_tagged (.ite (fun _ => .bind ?_ fun _ => .pure) fun _ => .pure) htagged
    exact frames_refreshRelation.mono tagging (fun _ => rfl) _
  · exact runs_tagged (keeps_endpointUpdate hretags) hs

/-! ## Endpoints: create and delete -/

/-- An identifier has been drawn for an endpoint. It is not in use, and the
tags are as they were. -/
structure Drawn (s : Server) (id : EndpointID) (s' : Server) : Prop where
  tagged : Tagged s'
  sequence : s'.dataStore.endpoint.sequence = id
  fresh : (tagging s').endpoints.listed id = none
  tags : s'.dataStore.tag = s.dataStore.tag

/-- A draw that goes through. -/
theorem runs_drawEndpoint (hs : Tagged s) :
    Runs True (Server.endpoint.getNextIdentifier : Handler Server Int) s (fun id s' => Drawn s id s')
      Tagged := by
  have hraised : Tagged (Server.endpoint.change Bucket.nextSequence s) := by
    refine hs.raise ?_ (Int.le_refl _) (Int.le_refl _)
    change s.dataStore.endpoint.sequence ≤ s.dataStore.endpoint.sequence + 1
    omega
  unfold getNextIdentifier
  refine (Runs.attempt_call (Q := fun r s' => r = .ok () ∧ s' = Server.endpoint.change
    Bucket.nextSequence s) ⟨rfl, rfl⟩ fun hn => absurd trivial hn).bind fun r s₁ h => ?_
  obtain ⟨rfl, rfl⟩ := h
  refine .get ⟨hraised, rfl, ?_, rfl⟩
  cases hlisted : (tagging (Server.endpoint.change Bucket.nextSequence s)).endpoints.listed
      (Server.endpoint.change Bucket.nextSequence s).dataStore.endpoint.sequence with
  | none => exact hlisted
  | some l =>
    -- an endpoint under this number would lie above the counter
    have hle := hs.endpoint_le _ (Option.isSome_of_eq_some hlisted)
    change s.dataStore.endpoint.sequence + 1 ≤ s.dataStore.endpoint.sequence at hle
    omega

/-- The endpoint is persisted, and then its tags name it. -/
theorem runs_save {e : Endpoint} (hs : Drawn s e.id s') (htags : ∀ t ∈ e.tagIDs, HasTag s t) :
    Runs True (saveEndpointAndUpdateAuthorizations e) s' (fun _ => Tagged) Tagged := by
  let stored : Endpoint := { e with securitySettings := defaultSecuritySettings }
  let s₁ := Server.endpoint.change (fun b => (b.setSequence stored.id).put stored) s'
  have hview : tagging s₁ =
      (tagging s').withEndpoints ((tagging s').endpoints.setListed e.id (some e.tagIDs)) := by
    rw [← tagging_put_endpoint stored]
    exact Tagging.ext (Links.ext (funext fun i => Bucket.map_get?_put.trans Bucket.map_get?_put.symm)
      rfl) rfl rfl hs.sequence.symm rfl rfl
  have hthere : ∀ t ∈ e.tagIDs, HasTag s' t := by
    intro t ht
    rw [HasTag, hs.tags]
    exact htags t ht
  have hpersist : Runs True ((persistEndpoint stored).mapError createFailed) s' (fun _ s'' => s'' = s₁)
      Tagged := .mapError (.call rfl)
  refine hpersist.move_bind fun _ => ?_
  have hthere₁ : ∀ t ∈ e.tagIDs, HasTag s₁ t := hthere
  refine (runs_changeTags (withEndpoint e.id) (fun _ => rfl) fun _ => hthere₁).bind fun _ s₂ h => ?_
  obtain ⟨rfl, -⟩ := h
  refine .pure ?_
  have hfinal : tagging (alterTags (withEndpoint e.id) e.tagIDs s₁) = (tagging s').withEndpoints
      ((((tagging s').endpoints.off e.id []).on e.id e.tagIDs).setListed e.id (some e.tagIDs)) := by
    rw [tagging_withEndpoint, hview, Links.off_nil]
    rfl
  refine tagged_of_eq (hs.tagged.relistEndpoint (o := some e.tagIDs) [] ?_ ?_ ?_) hfinal
  · exact fun t ht => absurd ht (Links.not_lists_of_none hs.fresh)
  · exact fun t ht => hasTag_iff_endpoints.mp (hthere t ht)
  · exact fun _ => Int.le_of_eq hs.sequence.symm

/-- A part between the draw and the endpoint. -/
theorem runs_drawn {α : Type} {x : Handler Server α} {id : EndpointID} (h : Keeps x (Drawn s id))
    (hs : Drawn s id s') : Runs True x s' (fun _ => Drawn s id) Tagged :=
  (Runs.of_keeps h hs).conseq (fun _ _ h' => h') fun _ _ h' => h'.tagged

theorem runs_snapshotAndPersist {e : Endpoint} (hs : Drawn s e.id s')
    (htags : ∀ t ∈ e.tagIDs, HasTag s t) :
    Runs True (snapshotAndPersistEndpoint e) s' (fun _ => Tagged) Tagged :=
  (runs_drawn keeps_service hs).bind fun _ _ hs₁ => runs_save hs₁ htags

theorem returns_storeTLSFiles {e : Endpoint} {payload : EndpointCreatePayload} :
    Action.Ensures (storeTLSFiles services e payload) s fun e' _ => e'.id = e.id ∧ e'.tagIDs = e.tagIDs := by
  intro w e' w' _ hrun
  obtain ⟨_, _, -, hrun⟩ := Action.bind_run_ok.mp hrun
  obtain ⟨_, _, -, hrun⟩ := Action.bind_run_ok.mp hrun
  obtain ⟨_, _, -, hrun⟩ := Action.bind_run_ok.mp hrun
  obtain ⟨rfl, -⟩ := Action.pure_run_ok.mp hrun
  exact ⟨rfl, rfl⟩

/-- The payload passes the check of an Edge agent's URL. -/
def PassesURL (services : Services) (payload : EndpointCreatePayload) : Prop :=
  payload.endpointCreationType = some .edgeAgentEnvironment →
    ∃ host, services.portainerHost payload.url = .ok host ∧ host ≠ "localhost"

/-- **A creation whose tags are there** persists the endpoint with its tags
naming it, if no call fails. -/
theorem runs_createEndpoint {payload : EndpointCreatePayload} (hs : Tagged s)
    (htags : PassesURL services payload → ∀ t ∈ payload.tagIDs.getD [], HasTag s t) :
    Runs True (createEndpoint services payload) s (fun _ => Tagged) Tagged := by
  have hsnapshot : ∀ (payload' : EndpointCreatePayload) type url publicURL tlsConfig,
      payload'.tagIDs = payload.tagIDs → PassesURL services payload →
      Runs True (do
        let id ← Server.endpoint.getNextIdentifier
        snapshotAndPersistEndpoint { payload'.endpoint id type url with
          publicURL := publicURL, tlsConfig := tlsConfig }) s (fun _ => Tagged) Tagged := by
    intro payload' type url publicURL tlsConfig htagIDs hpass
    refine (runs_drawEndpoint hs).bind fun id s₁ h₁ => runs_snapshotAndPersist h₁ ?_
    change ∀ t ∈ payload'.tagIDs.getD [], HasTag s t
    rw [htagIDs]
    exact htags hpass
  have hdocker : ∀ (payload' : EndpointCreatePayload) type, payload'.tagIDs = payload.tagIDs →
      PassesURL services payload →
      Runs True (createDockerEndpoint services payload' type) s (fun _ => Tagged) Tagged := by
    intro payload' type htagIDs hpass
    unfold createDockerEndpoint
    split
    · refine (runs_drawEndpoint hs).bind fun id s₁ h₁ => ?_
      refine ((Runs.of_keeps_returning (keeps_storeTLSFiles.returning fun _ => returns_storeTLSFiles)
        h₁).conseq (fun _ _ h => h) fun _ _ h => h.tagged).bind fun e s₂ h₂ => ?_
      obtain ⟨hdrawn, hid, htagIDs'⟩ := h₂
      have hid' : e.id = id := hid
      refine runs_snapshotAndPersist (hid'.symm ▸ hdrawn) ?_
      rw [htagIDs']
      change ∀ t ∈ payload'.tagIDs.getD [], HasTag s t
      rw [htagIDs]
      exact htags hpass
    · exact hsnapshot payload' _ _ _ _ htagIDs hpass
  unfold createEndpoint
  split
  · rename_i htype
    have hpass : PassesURL services payload := fun h => by rw [htype] at h; nomatch h
    refine .move_bind runs_service fun _ => (runs_drawEndpoint hs).bind fun id s₁ h₁ => ?_
    exact runs_save h₁ (htags hpass)
  · refine (runs_drawEndpoint hs).bind fun id s₁ h₁ => ?_
    refine .read_bind (P := (services.portainerHost payload.url = .ok ·)) (.mapError (.ofExcept
      (fun host hhost => ⟨rfl, hhost⟩) fun _ _ _ => h₁.tagged)) fun host hhost => ?_
    refine .require_bind (fun _ _ => h₁.tagged) fun hlocal => ?_
    exact runs_save h₁ (htags fun _ => ⟨host, hhost, hlocal⟩)
  · rename_i htype
    exact hsnapshot payload _ _ _ _ rfl fun h => by rw [htype] at h; nomatch h
  · rename_i htype
    have hpass : PassesURL services payload := fun h => by rw [htype] at h; nomatch h
    refine .move_bind runs_service fun _ => ?_
    cases services.agentPlatform payload.url with
    | docker => exact hdocker payload _ rfl hpass
    | kubernetes => exact hdocker _ _ rfl hpass
    | other => exact hdocker payload _ rfl hpass
  · exact hdocker payload _ rfl fun h => absurd h (by assumption)

theorem runs_endpointCreate {payload : EndpointCreatePayload} (hs : Tagged s)
    (htags : Accepted services payload → ∀ t ∈ payload.tagIDs.getD [], HasTag s t) :
    Runs True (endpointCreate services payload) s (fun _ => Tagged) Tagged := by
  unfold endpointCreate
  cases hvalid : payload.validate with
  | some err => exact .fail fun _ => hs
  | none =>
    have haccepted : PassesURL services payload.normalize → Accepted services payload := by
      refine fun hpass => ⟨hvalid, fun hedge => ?_⟩
      have hurl : payload.normalize.url = payload.url := by
        simp [EndpointCreatePayload.normalize, hedge]
      exact hurl ▸ hpass hedge
    have hcreate : Runs True (createEndpoint services payload.normalize) s (fun _ => Tagged) Tagged :=
      runs_createEndpoint hs fun hpass => htags (haccepted hpass)
    refine hcreate.bind fun e s₁ hs₁ => ?_
    · refine runs_tagged (.bind ?_ fun _ => .pure) hs₁
      exact frames_createRelation.mono tagging (fun _ => rfl) _

/-- The endpoint carries tags. -/
def CarriesTags (s : Server) (id : EndpointID) : Prop :=
  ∃ e, s.dataStore.endpoint.get? id = some e ∧ e.tagIDs ≠ []

/-- The end of a deletion. -/
theorem keeps_dropEndpoint {id : EndpointID} {g₁ g₂ g₃ : String → HandlerError} : Keeps (do
    let edgeGroups ← Server.edgeGroup.getAll.mapError g₁
    edgeGroups.forM (dropFromEdgeGroup id)
    let edgeStacks ← Server.edgeStack.getAll.mapError g₂
    edgeStacks.forM (dropFromEdgeStack id)
    let registries ← Server.registry.getAll.mapError g₃
    registries.forM (dropFromRegistry id)) (tagging · = v) := by
  refine .bind_of (keeps_getAll_of (Q := fun g => v.edgeGroups g.id = some g.tagIDs) fun s hs g hg => ?_)
    fun edgeGroups hgroups => ?_
  · have hget : s.dataStore.edgeGroup.get? g.id = some g := Bucket.mem_all.mp hg
    rw [← hs]
    simp [tagging, hget]
  · refine .bind (.forM fun g hg => .ite (fun _ => keeps_tagging_edgeGroup (hgroups g hg)) fun _ => .pure)
      fun _ => ?_
    refine .bind keeps_getAll fun _ => .bind (.forM fun _ _ => ?_) fun _ =>
      .bind keeps_getAll fun _ => .forM fun _ _ => ?_
    all_goals exact .ite (fun _ => keeps_updateObject fun _ hs => hs) fun _ => .pure

/-- The deletion of an endpoint that carries no tags. -/
theorem meets_endpointDelete {id : EndpointID} (hs : Tagged s) (h : ¬ CarriesTags s id)
    {R : Callee → Prop} : Meets R (tagging · = tagging s) (endpointDelete id) (fun _ => Tagged)
      fun _ => Tagged := by
  refine .bind (M := fun e s' => tagging s' = tagging s ∧ e.id = id ∧ e.tagIDs = [] ∧
    (tagging s).endpoints.listed id = some []) ?_ fun e w hR hw => ?_
  · refine .mapError (.lookup (fun s' e hs' hget => ?_) (fun _ h' _ => hs.congr h')
      fun _ _ _ h' => hs.congr h')
    have hlisted : (tagging s).endpoints.listed id = some e.tagIDs := hs' ▸ listed_endpoint hget
    obtain ⟨e₀, hget₀, htags⟩ := Option.map_eq_some_iff.mp hlisted
    have hnil : e.tagIDs = [] := by
      by_contra hne
      exact h ⟨e₀, hget₀, htags ▸ hne⟩
    exact ⟨hs', Bucket.key_of_get? hget, hnil, hnil ▸ hlisted⟩
  · obtain ⟨hview, hid, htags, hlisted⟩ := hw
    -- without the endpoint the references are sound as they are
    have hsound : ((tagging s).withEndpoints ((tagging s).endpoints.setListed id none)).Sound := by
      have hdrop : ((tagging s).withEndpoints
          (((tagging s).endpoints.setListed id none).off id [])).Sound :=
        hs.dropEndpoint fun t hl => (Links.lists_of_listed hlisted).mp hl
      rwa [Links.off_nil] at hdrop
    refine Meets.bind (P := (tagging · = tagging s)) (M := fun _ => (tagging · = tagging s)) ?_
      (fun _ => ?_) w hR hview
    · exact (Keeps.ite (fun _ => keeps_service) (fun _ => .pure) R).conseq (fun _ h' => h')
        (fun _ _ h' => h') fun _ _ h' => hs.congr h'
    refine Meets.bind (M := fun _ => (tagging · = (tagging s).withEndpoints
      ((tagging s).endpoints.setListed id none))) ?_ fun _ => ?_
    · refine .mapError (.call (fun s' h' => ?_) fun _ _ _ h' => hs.congr h')
      rw [← h']
      exact tagging_delete_endpoint id
    · refine meets_tagged (.bind (keeps_deleteObject fun _ h' => h') fun _ => ?_) hsound fun _ h' => h'
      rw [htags]
      exact .bind .pure fun _ => keeps_dropEndpoint

/-- **The deletion of an endpoint** takes it off its tags, if no call
fails. -/
theorem runs_endpointDelete {id : EndpointID} (hs : Tagged s) :
    Runs calm (endpointDelete id) s (fun _ => Tagged) Tagged := by
  refine .read_bind (runs_getObject_mapError fun _ _ => hs) fun e hget => ?_
  have hid : e.id = id := Bucket.key_of_get? hget
  have hget' : s.dataStore.endpoint.get? id = some e := hget
  refine .move_bind runs_removeTLSFiles fun _ => .move_bind runs_deleteObject_mapError fun _ =>
    .move_bind runs_deleteObject_mapError fun _ => ?_
  let s₀ := Server.endpointRelation.change (·.delete e.id) (Server.endpoint.change (·.delete id) s)
  have hthere : ∀ t ∈ e.tagIDs, HasTag s₀ t := hs.endpointTags hget'
  refine (runs_changeTags (withoutEndpoint e.id) (fun _ => rfl) fun _ => hthere).bind fun _ s₁ h => ?_
  obtain ⟨hs₁, -⟩ := h
  have hview : tagging s₁ = (tagging s).withEndpoints
      (((tagging s).endpoints.setListed id none).off id e.tagIDs) := by
    rw [hs₁, tagging_withoutEndpoint, hid]
    exact congrArg (fun v : Tagging => v.withEndpoints (v.endpoints.off id e.tagIDs))
      (tagging_delete_endpoint id)
  refine runs_tagged keeps_dropEndpoint (tagged_of_eq (hs.dropEndpoint fun t hl => ?_) hview)
  exact (Links.lists_of_listed (listed_endpoint hget')).mp hl

/-! ## Endpoint groups: update -/

/-- The update changes the set of tags of the group. -/
def RetagsEndpointGroup (s : Server) (id : EndpointGroupID) (payload : EndpointGroupUpdatePayload) :
    Prop :=
  ∃ g, s.dataStore.endpointGroup.get? id = some g ∧ tagsChanged g.tagIDs payload.tagIDs = true

/-- The cleaning of every endpoint of the group succeeds, if no call
fails. -/
def CleansMembers (s : Server) (id : EndpointGroupID) : Prop :=
  ∀ e ∈ s.dataStore.endpoint.all, e.groupID = id → isKubernetesEndpoint e.type = true → Decodes s e.id

theorem keeps_tagging_cleanMembers {updateAuthorizations : Bool} {g : EndpointGroup} :
    Keeps (cleanMembers updateAuthorizations g) (tagging · = v) :=
  .ite (fun _ => .bind keeps_getAll fun _ => .forM fun _ _ =>
    .ite (fun _ => .mapError (frames_tagging_cleanNAP v)) fun _ => .pure) fun _ => .pure

theorem runs_cleanMembers {E : Server → Prop} {updateAuthorizations : Bool} {g : EndpointGroup}
    (h : calm → updateAuthorizations = true → CleansMembers s g.id) :
    Runs calm (cleanMembers updateAuthorizations g) s (fun _ s' => s'.dataStore = s.dataStore) E := by
  unfold cleanMembers
  split
  · rename_i hupdate
    refine .read_bind runs_getAll_mapError fun endpoints hendpoints => ?_
    -- a config map that is written decodes, so those still to come do
    have hloop : Runs calm (endpoints.forM (cleanMember g)) s (fun _ s' =>
        s'.dataStore = s.dataStore ∧ ∀ e ∈ ([] : List Endpoint), calm → e.groupID = g.id →
          isKubernetesEndpoint e.type = true → Decodes s' e.id) E := by
      refine .forM_todo (R := fun l s' => s'.dataStore = s.dataStore ∧ ∀ e ∈ l, calm →
        e.groupID = g.id → isKubernetesEndpoint e.type = true → Decodes s' e.id)
        ⟨rfl, fun e he hc => h hc hupdate e (hendpoints ▸ he)⟩ fun e l s' hs' => ?_
      obtain ⟨hdb, hdecodes⟩ := hs'
      have hrest : ∀ e' ∈ l, calm → e'.groupID = g.id → isKubernetesEndpoint e'.type = true →
          Decodes s' e'.id := fun e' he' => hdecodes e' (List.mem_cons_of_mem e he')
      unfold cleanMember
      split
      · rename_i hmember
        refine .mapError ((Kubernetes.runs_cleanNAP (fun _ => hmember.2)
          (fun hc => hdecodes e List.mem_cons_self hc hmember.1 hmember.2) fun _ => rfl).conseq
          (fun _ s'' h => ?_) fun _ _ he => he)
        exact ⟨h.1.trans hdb, fun e' he' hc hg hk => h.2 _ (hrest e' he' hc hg hk)⟩
      · exact .pure ⟨hdb, hrest⟩
    exact hloop.conseq (fun _ _ h => h.1) fun _ _ he => he
  · exact .pure rfl

/-- An update that changes no tags keeps the references. -/
theorem keeps_tagging_endpointGroupUpdate {id : EndpointGroupID} {payload : EndpointGroupUpdatePayload}
    (h : ¬ RetagsEndpointGroup s id payload) :
    Keeps (endpointGroupUpdate id payload) (tagging · = tagging s) := by
  refine .bind_of (Q := fun g => g.id = id ∧ (tagging s).endpointGroups.listed id = some g.tagIDs ∧
    tagsChanged g.tagIDs payload.tagIDs = false) ?_ fun g hg => ?_
  · refine fun R => .mapError (Keeps.lookup_of (fun s' g hs' hget => ?_) R)
    have hlisted : (tagging s).endpointGroups.listed id = some g.tagIDs :=
      hs' ▸ listed_endpointGroup hget
    refine ⟨Bucket.key_of_get? hget, hlisted, Bool.eq_false_iff.mpr fun hchanged => h ?_⟩
    obtain ⟨g₀, hget₀, htags⟩ := Option.map_eq_some_iff.mp hlisted
    exact ⟨g₀, hget₀, htags ▸ hchanged⟩
  · obtain ⟨hid, hlisted, hunchanged⟩ := hg
    rw [← hid] at hlisted
    rw [replaceTags_of_unchanged hunchanged, Action.pure_bind]
    refine .bind keeps_tagging_cleanMembers fun _ => .bind (keeps_tagging_endpointGroup hlisted) fun _ => ?_
    exact .bind (frames_refreshMembers.mono tagging (fun _ => rfl) _) fun _ => .pure

/-- **An update that replaces the tags of a group** fails in between only at
a cleaning, if no call fails. -/
theorem runs_endpointGroupUpdate {id : EndpointGroupID} {payload : EndpointGroupUpdatePayload}
    (hs : Tagged s)
    (htags : calm → RetagsEndpointGroup s id payload → ∀ t ∈ payload.tagIDs.getD [], HasTag s t)
    (hclean : calm → RetagsEndpointGroup s id payload → ∀ g, s.dataStore.endpointGroup.get? id = some g →
      payload.updateAuthorizations g = true → CleansMembers s id) :
    Runs calm (endpointGroupUpdate id payload) s (fun _ => Tagged) Tagged := by
  by_cases hretags : RetagsEndpointGroup s id payload
  · refine .read_bind (runs_getObject_mapError fun _ _ => hs) fun g hget => ?_
    have hid : g.id = id := Bucket.key_of_get? hget
    obtain ⟨g', hget', hchanged⟩ := hretags
    obtain rfl : g' = g := Option.some.inj (hget'.symm.trans hget)
    obtain ⟨tagIDs, htagIDs⟩ : ∃ tagIDs, payload.tagIDs = some tagIDs := by
      cases hp : payload.tagIDs with
      | none => rw [hp] at hchanged; nomatch hchanged
      | some tagIDs => exact ⟨tagIDs, rfl⟩
    rw [htagIDs] at hchanged htags
    simp only [htagIDs]
    refine (runs_replaceTags (withoutEndpointGroup g'.id) (withEndpointGroup g'.id) (fun _ => rfl)
      (fun _ => rfl) hchanged (hs.endpointGroupTags hget') fun hc =>
        htags hc ⟨g', hget', htagIDs ▸ hchanged⟩).bind fun newTags s₁ h => ?_
    obtain ⟨rfl, hthere, hs₁⟩ := h
    -- the tags are those of the payload, the group still lists the old ones
    have hview : tagging s₁ = (tagging s).withEndpointGroups
        (((tagging s).endpointGroups.off id (removedTags g'.tagIDs newTags)).on id newTags) := by
      rw [hs₁, tagging_withEndpointGroup, tagging_withoutEndpointGroup, hid]
      rfl
    let g₁ : EndpointGroup := { payload.withFields g' with tagIDs := newTags }
    have hcleans : calm → payload.updateAuthorizations g' = true → CleansMembers s₁ g₁.id := by
      intro hc hupdate
      rw [show g₁.id = id from hid, hs₁]
      exact hclean hc ⟨g', hget', htagIDs ▸ hchanged⟩ g' hget' hupdate
    have hrun : Runs calm (cleanMembers (payload.updateAuthorizations g') g₁) s₁
        (fun _ s' => s'.dataStore = s₁.dataStore) Tagged := runs_cleanMembers hcleans
    refine hrun.bind fun _ s₂ h₂ => ?_
    refine .move_bind runs_updateObject_mapError fun _ => ?_
    have hview₂ : tagging s₂ = tagging s₁ := by
      simp only [tagging, h₂]
    refine runs_tagged (.bind (frames_refreshMembers.mono tagging (fun _ => rfl) _) fun _ => .pure) ?_
    have hlisted := listed_endpointGroup hget'
    rw [Tagged, tagging_put_endpointGroup, hview₂, hview]
    dsimp only [EndpointGroupUpdatePayload.withFields]
    rw [hid]
    refine hs.relistEndpointGroup (o := some newTags) (removedTags g'.tagIDs newTags) ?_ ?_ ?_
      (fun hnone => by cases hnone)
    · exact fun t hl ht => mem_removedTags.mpr ⟨(Links.lists_of_listed hlisted).mp hl, ht⟩
    · exact fun t ht => hasTag_iff_endpointGroups.mp (hthere t ht)
    · exact fun _ => hs.endpointGroup_le id (Option.isSome_of_eq_some hlisted)
  · exact runs_tagged (keeps_tagging_endpointGroupUpdate hretags) hs

/-! ## Endpoint groups: create and delete -/

/-- The view with a group of the tags under the next number. -/
def withNextGroup (v : Tagging) (l : List TagID) : Tagging :=
  Tagging.withEndpointGroups { v with lastEndpointGroup := v.lastEndpointGroup + 1 }
    (v.endpointGroups.setListed (v.lastEndpointGroup + 1) (some l))

theorem tagging_createEndpointGroup (g : EndpointGroup) (hid : g.id = s.dataStore.endpointGroup.next) :
    tagging (Server.endpointGroup.change (fun b => b.nextSequence.put g) s) =
      withNextGroup (tagging s) g.tagIDs := by
  refine Tagging.ext rfl (Links.ext (funext fun i => ?_) rfl) rfl rfl rfl rfl
  change ((s.dataStore.endpointGroup.nextSequence.put g).get? i).map EndpointGroup.tagIDs =
    if s.dataStore.endpointGroup.next = i then _ else _
  rw [Bucket.map_get?_put, ← hid]
  rfl

/-- A new group, once its tags name it. -/
theorem Tagged.withNextGroup {l : List TagID} (hs : Tagged s) (hthere : ∀ t ∈ l, HasTag s t) :
    ((withNextGroup (tagging s) l).withEndpointGroups ((withNextGroup (tagging s) l).endpointGroups.on
      ((tagging s).lastEndpointGroup + 1) l)).Sound := by
  have hraised := hs.raise (Int.le_refl _) (n := (tagging s).lastEndpointGroup + 1) (by omega)
    (Int.le_refl _)
  have hsound := hraised.relistEndpointGroup (o := some l) [] (fun t hl _ => ?_)
    (fun t ht => hasTag_iff_endpointGroups.mp (hthere t ht)) (fun _ => Int.le_refl _) nofun
  · rw [Links.off_nil] at hsound
    exact hsound
  · -- a group under the next number would lie above the counter
    obtain ⟨l', hl', -⟩ := hl
    have hle : (tagging s).lastEndpointGroup + 1 ≤ (tagging s).lastEndpointGroup :=
      hs.endpointGroup_le _ (Option.isSome_of_eq_some hl')
    omega

theorem keeps_associateEndpoints {endpoints : List Endpoint} {g : EndpointGroup} {ids : List EndpointID}
    (h : ∀ e ∈ endpoints, v.endpoints.listed e.id = some e.tagIDs) :
    Keeps (ids.forM (associateEndpoint endpoints g)) (tagging · = v) := by
  refine .forM fun i _ => ?_
  unfold associateEndpoint
  split
  · exact .pure
  · rename_i e hfind
    exact keeps_tagging_moveEndpoint (h e (List.mem_of_find?_eq_some hfind))

/-- The endpoints that are read list what the view says. -/
theorem listed_of_mem_all {e : Endpoint} (h : e ∈ s.dataStore.endpoint.all) :
    (tagging s).endpoints.listed e.id = some e.tagIDs :=
  listed_endpoint (Bucket.mem_all.mp h)

theorem keeps_getEndpoints {g : String → HandlerError} (R : Callee → Prop) :
    Meets R (tagging · = v) (Server.endpoint.getAll.mapError g)
      (fun l s => tagging s = v ∧ ∀ e ∈ l, v.endpoints.listed e.id = some e.tagIDs)
      fun _ => (tagging · = v) :=
  keeps_getAll_of (fun s hs e he => by rw [← hs]; exact listed_of_mem_all he) R

/-- The creation of a group without tags. -/
theorem meets_tagging_endpointGroupCreate {payload : EndpointGroupCreatePayload} {R : Callee → Prop}
    (hs : Tagged s) (h : payload.tagIDs = []) :
    Meets R (tagging · = tagging s) (endpointGroupCreate payload) (fun _ => Tagged) fun _ => Tagged := by
  have hsound : (withNextGroup (tagging s) []).Sound := by
    have hon := hs.withNextGroup (l := []) nofun
    rw [Links.on_nil] at hon
    exact hon
  refine .bind (M := fun _ => (tagging · = tagging s)) (.require (fun _ h' _ => h')
    fun _ h' _ => hs.congr h') fun _ => ?_
  refine .bind (M := fun _ => (tagging · = withNextGroup (tagging s) [])) (.mapError ?_) fun id => ?_
  · unfold createObject
    refine .bind (M := fun id s' => tagging s' = tagging s ∧ id = s'.dataStore.endpointGroup.next)
      (.get fun _ h' => ⟨h', rfl⟩) fun id => ?_
    refine .bind (M := fun _ => (tagging · = withNextGroup (tagging s) []))
      (.call (fun s' h' => ?_) fun _ _ _ h' => hs.congr h'.1) fun _ => .pure fun _ h' => h'
    rw [tagging_createEndpointGroup (payload.endpointGroup id) h'.2, h'.1]
    exact congrArg _ h
  · refine meets_tagged (Keeps.bind_of keeps_getEndpoints fun endpoints hlisted => ?_) hsound
      fun _ h' => h'
    refine .bind (keeps_associateEndpoints hlisted) fun _ => ?_
    dsimp only [EndpointGroupCreatePayload.endpointGroup]
    rw [h]
    exact .bind .pure fun _ => .pure

/-- **The creation of a group** puts it on its tags, if no call fails and the
associated Edge endpoints have relations. -/
theorem runs_endpointGroupCreate {payload : EndpointGroupCreatePayload} (hs : Tagged s)
    (htags : calm → ∀ t ∈ payload.tagIDs, HasTag s t)
    (hrelations : calm → ∀ e ∈ s.dataStore.endpoint.all, e.id ∈ payload.associatedEndpoints →
      isEdge e.type = true → (s.dataStore.endpointRelation.get? e.id).isSome) :
    Runs calm (endpointGroupCreate payload) s (fun _ => Tagged) Tagged := by
  refine .require_bind (fun _ _ => hs) fun _ => ?_
  refine (runs_createObject.mapError).bind fun id s₁ h => ?_
  obtain ⟨hid, hs₁⟩ := h
  have hview : tagging s₁ = withNextGroup (tagging s) payload.tagIDs := by
    rw [hs₁]
    exact tagging_createEndpointGroup (payload.endpointGroup id) hid
  have hdb : s₁.dataStore.endpoint = s.dataStore.endpoint ∧
      s₁.dataStore.endpointRelation = s.dataStore.endpointRelation ∧
      s₁.dataStore.tag = s.dataStore.tag := by
    rw [hs₁]
    exact ⟨rfl, rfl, rfl⟩
  refine .read_bind runs_getAll_mapError fun endpoints hendpoints => ?_
  have hloop : Runs calm (payload.associatedEndpoints.forM
      (associateEndpoint endpoints (payload.endpointGroup id))) s₁ (fun _ => Moved s₁) Tagged := by
    refine .forM_invariant .refl fun i hi s₂ h₂ => ?_
    unfold associateEndpoint
    split
    · exact .pure h₂
    · rename_i e hfind
      have hmem : e ∈ s₁.dataStore.endpoint.all := hendpoints ▸ List.mem_of_find?_eq_some hfind
      have hei : e.id = i := by simpa using List.find?_some hfind
      refine (runs_moveEndpoint ?_ nofun fun hc hedge => h₂.relation _ ?_).conseq
        (fun _ _ h => h₂.trans h) fun _ _ he => he
      · rw [h₂.tagging]
        exact listed_of_mem_all hmem
      · rw [hdb.2.1]
        exact hrelations hc e (hdb.1 ▸ hmem) (hei ▸ hi) hedge
  refine hloop.bind fun _ s₂ h₂ => ?_
  have hthere : ∀ t, HasTag s₂ t ↔ HasTag s t := by
    intro t
    rw [hasTag_iff_endpoints, h₂.tagging, ← hasTag_iff_endpoints, HasTag, hdb.2.2, HasTag]
  refine (runs_changeTags (withEndpointGroup id) (fun _ => rfl)
    fun hc t ht => (hthere t).mpr (htags hc t ht)).bind fun _ s₃ h₃ => .pure ?_
  obtain ⟨hs₃, htags₃⟩ := h₃
  rw [hs₃, Tagged, tagging_withEndpointGroup, h₂.tagging, hview]
  have hid' : id = (tagging s).lastEndpointGroup + 1 := hid
  rw [hid']
  exact hs.withNextGroup fun t ht => (hthere t).mp (htags₃ t ht)

/-- The group carries tags. -/
def GroupCarriesTags (s : Server) (id : EndpointGroupID) : Prop :=
  ∃ g, s.dataStore.endpointGroup.get? id = some g ∧ g.tagIDs ≠ []

/-- The endpoints of a group are moved to another. -/
theorem keeps_unassignMembers {endpoints : List Endpoint} {id : EndpointGroupID}
    (h : ∀ e ∈ endpoints, v.endpoints.listed e.id = some e.tagIDs) :
    Keeps (endpoints.forM (unassignMember id)) (tagging · = v) :=
  .forM fun e he => .ite (fun _ => keeps_tagging_moveEndpoint (h e he)) fun _ => .pure

/-- The deletion of a group without tags. -/
theorem meets_endpointGroupDelete {id : EndpointGroupID} {R : Callee → Prop} (hs : Tagged s)
    (h : ¬ GroupCarriesTags s id) : Meets R (tagging · = tagging s) (endpointGroupDelete id)
      (fun _ => Tagged) fun _ => Tagged := by
  by_cases hone : id = 1
  · -- the group that cannot be deleted
    refine meets_tagged (.bind_of (Q := fun _ => False) (fun _ => .require
      (fun _ _ hne => absurd hone hne) fun _ hs _ => hs) nofun) hs fun _ h' => h'
  · refine .bind (M := fun _ => (tagging · = tagging s)) (.require (fun _ h' _ => h')
      fun _ h' _ => hs.congr h') fun _ => ?_
    refine .bind (M := fun g s' => tagging s' = tagging s ∧ g.tagIDs = [] ∧
      (tagging s).endpointGroups.listed id = some []) ?_ fun g w hR hw => ?_
    · refine .mapError (.lookup (fun s' g hs' hget => ?_) (fun _ h' _ => hs.congr h')
        fun _ _ _ h' => hs.congr h')
      have hlisted : (tagging s).endpointGroups.listed id = some g.tagIDs :=
        hs' ▸ listed_endpointGroup hget
      obtain ⟨g₀, hget₀, htags⟩ := Option.map_eq_some_iff.mp hlisted
      have hnil : g.tagIDs = [] := by
        by_contra hne
        exact h ⟨g₀, hget₀, htags ▸ hne⟩
      exact ⟨hs', hnil, hnil ▸ hlisted⟩
    · obtain ⟨hview, htags, hlisted⟩ := hw
      have hsound : ((tagging s).withEndpointGroups
          ((tagging s).endpointGroups.setListed id none)).Sound := by
        have hdrop : ((tagging s).withEndpointGroups
            (((tagging s).endpointGroups.setListed id none).off id [])).Sound :=
          hs.dropEndpointGroup (fun t hl => (Links.lists_of_listed hlisted).mp hl) hone
        rwa [Links.off_nil] at hdrop
      refine Meets.bind (P := (tagging · = tagging s)) (M := fun _ => (tagging · =
        (tagging s).withEndpointGroups ((tagging s).endpointGroups.setListed id none))) ?_ (fun _ => ?_)
        w hR hview
      · refine .mapError (.call (fun s' h' => ?_) fun _ _ _ h' => hs.congr h')
        rw [← h']
        exact tagging_delete_endpointGroup id
      · refine meets_tagged (Keeps.bind_of keeps_getEndpoints fun endpoints hend => ?_) hsound
          fun _ h' => h'
        rw [htags]
        exact .bind (keeps_unassignMembers hend) fun _ => .pure

/-- **The deletion of a group** takes it off its tags, if no call fails and
its Edge endpoints have relations. -/
theorem runs_endpointGroupDelete {id : EndpointGroupID} (hs : Tagged s)
    (hrelations : calm → ∀ e ∈ s.dataStore.endpoint.all, e.groupID = id →
      isEdge e.type = true → (s.dataStore.endpointRelation.get? e.id).isSome) :
    Runs calm (endpointGroupDelete id) s (fun _ => Tagged) Tagged := by
  refine .require_bind (fun _ _ => hs) fun hone => ?_
  refine .read_bind (runs_getObject_mapError fun _ _ => hs) fun g hget => ?_
  have hid : g.id = id := Bucket.key_of_get? hget
  have hget' : s.dataStore.endpointGroup.get? id = some g := hget
  refine .move_bind runs_deleteObject_mapError fun _ => ?_
  refine .read_bind runs_getAll_mapError fun endpoints hendpoints => ?_
  let s₁ := Server.endpointGroup.change (·.delete id) s
  have hgroup : HasGroup s₁ 1 := by
    change ((s.dataStore.endpointGroup.delete id).get? 1).isSome
    rw [Bucket.get?_delete_of_ne hone]
    exact hs.hasGroup_one
  have hloop : Runs calm (endpoints.forM (unassignMember id)) s₁ (fun _ => Moved s₁) Tagged := by
    refine .forM_invariant .refl fun e he s₂ h₂ => ?_
    have hmem : e ∈ s₁.dataStore.endpoint.all := hendpoints ▸ he
    unfold unassignMember
    split
    · rename_i hmember
      refine (runs_moveEndpoint ?_ (fun _ _ => ?_) fun hc hedge => h₂.relation _ ?_).conseq
        (fun _ _ h => h₂.trans h) fun _ _ he => he
      · rw [h₂.tagging]
        exact listed_of_mem_all hmem
      · rw [hasGroup_iff, h₂.tagging, ← hasGroup_iff]
        exact hgroup
      · exact hrelations hc e hmem hmember hedge
    · exact .pure h₂
  refine hloop.bind fun _ s₂ h₂ => ?_
  have hthere : ∀ t ∈ g.tagIDs, HasTag s₂ t := by
    intro t ht
    rw [hasTag_iff_endpoints, h₂.tagging, ← hasTag_iff_endpoints]
    exact hs.endpointGroupTags hget' t ht
  refine (runs_changeTags (withoutEndpointGroup g.id) (fun _ => rfl) fun _ => hthere).conseq
    (fun _ s₃ h₃ => ?_) fun _ _ he => he
  have hview : tagging s₃ = (tagging s).withEndpointGroups
      (((tagging s).endpointGroups.setListed id none).off id g.tagIDs) := by
    rw [h₃.1, tagging_withoutEndpointGroup, h₂.tagging, hid]
    exact congrArg (fun v : Tagging => v.withEndpointGroups (v.endpointGroups.off id g.tagIDs))
      (tagging_delete_endpointGroup id)
  refine tagged_of_eq (hs.dropEndpointGroup (fun t hl => ?_) hone) hview
  exact (Links.lists_of_listed (listed_endpointGroup hget')).mp hl

/-! ## Endpoint groups: add and remove -/

/-- A lookup of an endpoint that is then moved. -/
theorem keeps_tagging_lookupAndMove {id : EndpointID} {k : EndpointGroupID} {g : Option EndpointGroup} :
    Keeps (do
      let endpoint ← (Server.endpoint.getObject id).mapError findEndpoint
      moveEndpoint persistEndpointChanges endpoint k g) (tagging · = v) := by
  refine .bind_of (Q := fun e => v.endpoints.listed e.id = some e.tagIDs) ?_ fun e he =>
    keeps_tagging_moveEndpoint he
  refine fun R => .mapError (Keeps.lookup_of (fun s e hs hget => ?_) R)
  have hid : e.id = id := Bucket.key_of_get? hget
  rw [← hs, hid]
  exact listed_endpoint hget

theorem keeps_tagging_addEndpoint {id : EndpointGroupID} {endpointID : EndpointID} :
    Keeps (endpointGroupAddEndpoint id endpointID) (tagging · = v) :=
  .bind keeps_getObject fun _ => keeps_tagging_lookupAndMove

theorem keeps_tagging_deleteEndpoint {id : EndpointGroupID} {endpointID : EndpointID} :
    Keeps (endpointGroupDeleteEndpoint id endpointID) (tagging · = v) :=
  .bind keeps_getObject fun _ => keeps_tagging_lookupAndMove

end Inventory

end Portainer
