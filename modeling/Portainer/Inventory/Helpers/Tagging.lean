import Portainer.Common.Links
import Portainer.Inventory.Helpers.Frames
/-!
# Tagging — the store as far as tags are concerned

What endpoints and groups list and what tags name, as two `Links`, with the
tags of the Edge groups and the counters that identifiers are drawn from.
Each write of a handler is read as a change of this view.
-/

namespace Portainer

open Action (Keeps Frames)

namespace Inventory

/-- **The references between tags and what carries them.** -/
@[ext] structure Tagging where
  endpoints : Links EndpointID TagID
  endpointGroups : Links EndpointGroupID TagID
  edgeGroups : EdgeGroupID → Option (List TagID)
  lastEndpoint : Int
  lastEndpointGroup : Int
  lastTag : Int

/-- The view of a server. -/
def tagging (s : Server) : Tagging where
  endpoints :=
    ⟨fun i => (s.dataStore.endpoint.get? i).map Endpoint.tagIDs,
      fun t => (s.dataStore.tag.get? t).map Tag.endpoints⟩
  endpointGroups :=
    ⟨fun i => (s.dataStore.endpointGroup.get? i).map EndpointGroup.tagIDs,
      fun t => (s.dataStore.tag.get? t).map Tag.endpointGroups⟩
  edgeGroups i := (s.dataStore.edgeGroup.get? i).map EdgeGroup.tagIDs
  lastEndpoint := s.dataStore.endpoint.sequence
  lastEndpointGroup := s.dataStore.endpointGroup.sequence
  lastTag := s.dataStore.tag.sequence

namespace Tagging

/-- **Both sides agree**, the tags of the Edge groups are there, and so is
the group of the endpoints without another; no identifier lies above the
counter it is drawn from. -/
structure Sound (v : Tagging) : Prop where
  endpoints : v.endpoints.Agree
  endpointGroups : v.endpointGroups.Agree
  edgeGroups : ∀ i l, v.edgeGroups i = some l → ∀ t ∈ l, (v.endpoints.named t).isSome
  unassigned : (v.endpointGroups.listed 1).isSome
  endpoint_le : ∀ i, (v.endpoints.listed i).isSome → i ≤ v.lastEndpoint
  endpointGroup_le : ∀ i, (v.endpointGroups.listed i).isSome → i ≤ v.lastEndpointGroup
  tag_le : ∀ t, (v.endpoints.named t).isSome → t ≤ v.lastTag

variable {v : Tagging}

/-! ### One part in another state -/

def withEndpoints (v : Tagging) (L : Links EndpointID TagID) : Tagging := { v with endpoints := L }

def withEndpointGroups (v : Tagging) (L : Links EndpointGroupID TagID) : Tagging :=
  { v with endpointGroups := L }

def withEdgeGroup (v : Tagging) (i : EdgeGroupID) (o : Option (List TagID)) : Tagging :=
  { v with edgeGroups := fun j => if i = j then o else v.edgeGroups j }

/-- Another state of the endpoints, with the same tags. -/
theorem Sound.withEndpoints {L : Links EndpointID TagID} (h : v.Sound) (hL : L.Agree)
    (hnamed : ∀ t, (L.named t).isSome = (v.endpoints.named t).isSome)
    (hle : ∀ i, (L.listed i).isSome → i ≤ v.lastEndpoint) : (v.withEndpoints L).Sound where
  endpoints := hL
  endpointGroups := h.endpointGroups
  edgeGroups i l hi t ht := (hnamed t).trans (h.edgeGroups i l hi t ht)
  unassigned := h.unassigned
  endpoint_le := hle
  endpointGroup_le := h.endpointGroup_le
  tag_le t ht := h.tag_le t ((hnamed t).symm.trans ht)

/-- Another state of the groups. -/
theorem Sound.withEndpointGroups {L : Links EndpointGroupID TagID} (h : v.Sound) (hL : L.Agree)
    (hone : (L.listed 1).isSome) (hle : ∀ i, (L.listed i).isSome → i ≤ v.lastEndpointGroup) :
    (v.withEndpointGroups L).Sound where
  endpoints := h.endpoints
  endpointGroups := hL
  edgeGroups := h.edgeGroups
  unassigned := hone
  endpoint_le := h.endpoint_le
  endpointGroup_le := hle
  tag_le := h.tag_le

/-- An Edge group with tags that are there, or gone. -/
theorem Sound.withEdgeGroup {i : EdgeGroupID} {o : Option (List TagID)} (h : v.Sound)
    (ho : ∀ t ∈ o.getD [], (v.endpoints.named t).isSome) : (v.withEdgeGroup i o).Sound where
  endpoints := h.endpoints
  endpointGroups := h.endpointGroups
  edgeGroups := by
    intro j l hj t ht
    simp only [Tagging.withEdgeGroup] at hj ⊢
    split at hj
    · exact ho t (by rw [hj]; exact ht)
    · exact h.edgeGroups j l hj t ht
  unassigned := h.unassigned
  endpoint_le := h.endpoint_le
  endpointGroup_le := h.endpointGroup_le
  tag_le := h.tag_le

/-- Higher counters. -/
theorem Sound.raise {m n k : Int} (h : v.Sound) (hm : v.lastEndpoint ≤ m)
    (hn : v.lastEndpointGroup ≤ n) (hk : v.lastTag ≤ k) :
    Sound { v with lastEndpoint := m, lastEndpointGroup := n, lastTag := k } where
  endpoints := h.endpoints
  endpointGroups := h.endpointGroups
  edgeGroups := h.edgeGroups
  unassigned := h.unassigned
  endpoint_le i hi := (h.endpoint_le i hi).trans hm
  endpointGroup_le i hi := (h.endpointGroup_le i hi).trans hn
  tag_le t ht := (h.tag_le t ht).trans hk

/-- **An endpoint gets another list of tags**, or goes, and the tags
follow. -/
theorem Sound.relistEndpoint {id : EndpointID} {o : Option (List TagID)} (gone : List TagID)
    (h : v.Sound) (hgone : ∀ t, v.endpoints.Lists id t → t ∉ o.getD [] → t ∈ gone)
    (hthere : ∀ t ∈ o.getD [], (v.endpoints.named t).isSome)
    (hle : o.isSome → id ≤ v.lastEndpoint) :
    (v.withEndpoints (((v.endpoints.off id gone).on id (o.getD [])).setListed id o)).Sound := by
  refine h.withEndpoints (h.endpoints.relist gone hgone hthere) (fun t => by simp) fun i hi => ?_
  rw [Links.listed_setListed] at hi
  split at hi
  · rename_i hii
    exact hii ▸ hle hi
  · exact h.endpoint_le i hi

theorem Sound.relistEndpointGroup {id : EndpointGroupID} {o : Option (List TagID)} (gone : List TagID)
    (h : v.Sound) (hgone : ∀ t, v.endpointGroups.Lists id t → t ∉ o.getD [] → t ∈ gone)
    (hthere : ∀ t ∈ o.getD [], (v.endpointGroups.named t).isSome)
    (hle : o.isSome → id ≤ v.lastEndpointGroup) (hone : o = none → id ≠ 1) :
    (v.withEndpointGroups (((v.endpointGroups.off id gone).on id (o.getD [])).setListed id o)).Sound := by
  refine h.withEndpointGroups (h.endpointGroups.relist gone hgone hthere) ?_ fun i hi => ?_
  · rw [Links.listed_setListed]
    split
    · rename_i hid
      cases o with
      | none => exact absurd hid (hone rfl)
      | some l => rfl
    · exact h.unassigned
  · rw [Links.listed_setListed] at hi
    split at hi
    · rename_i hii
      exact hii ▸ hle hi
    · exact h.endpointGroup_le i hi

/-- An endpoint goes, and the tags it listed are told. -/
theorem Sound.dropEndpoint {id : EndpointID} {gone : List TagID} (h : v.Sound)
    (hgone : ∀ t, v.endpoints.Lists id t → t ∈ gone) :
    (v.withEndpoints ((v.endpoints.setListed id none).off id gone)).Sound := by
  have hsound : (v.withEndpoints (((v.endpoints.off id gone).on id []).setListed id none)).Sound :=
    h.relistEndpoint gone (fun t hl _ => hgone t hl) nofun nofun
  rwa [Links.on_nil] at hsound

theorem Sound.dropEndpointGroup {id : EndpointGroupID} {gone : List TagID} (h : v.Sound)
    (hgone : ∀ t, v.endpointGroups.Lists id t → t ∈ gone) (hone : id ≠ 1) :
    (v.withEndpointGroups ((v.endpointGroups.setListed id none).off id gone)).Sound := by
  have hsound : (v.withEndpointGroups
      (((v.endpointGroups.off id gone).on id []).setListed id none)).Sound :=
    h.relistEndpointGroup gone (fun t hl _ => hgone t hl) nofun nofun fun _ => hone
  rwa [Links.on_nil] at hsound

/-! ### A tag more, and a tag less -/

/-- With a tag that names nobody, under the next number. -/
def withTag (v : Tagging) : Tagging :=
  { v with
    endpoints := v.endpoints.add (v.lastTag + 1)
    endpointGroups := v.endpointGroups.add (v.lastTag + 1)
    lastTag := v.lastTag + 1 }

theorem Sound.withTag (h : v.Sound)
    (hsame : ∀ t, (v.endpointGroups.named t).isSome = (v.endpoints.named t).isSome) :
    v.withTag.Sound := by
  have hfresh : v.endpoints.named (v.lastTag + 1) = none := by
    rw [← Option.not_isSome_iff_eq_none]
    intro hsome
    have hle : v.lastTag + 1 ≤ v.lastTag := h.tag_le _ hsome
    omega
  have hfresh' : v.endpointGroups.named (v.lastTag + 1) = none := by
    rw [← Option.not_isSome_iff_eq_none, hsame, hfresh]
    simp
  have hkept : ∀ t, (v.endpoints.named t).isSome →
      ((v.endpoints.add (v.lastTag + 1)).named t).isSome := by
    intro t ht
    simp only [Links.add]
    split
    · rfl
    · exact ht
  refine ⟨h.endpoints.add hfresh, h.endpointGroups.add hfresh',
    fun i l hl t ht => hkept t (h.edgeGroups i l hl t ht), h.unassigned, h.endpoint_le,
    h.endpointGroup_le, fun t ht => ?_⟩
  simp only [Tagging.withTag, Links.add] at ht ⊢
  split at ht
  · rename_i hk
    exact Int.le_of_eq hk.symm
  · have hle : t ≤ v.lastTag := h.tag_le t ht
    exact hle.trans (Int.le_add_one (Int.le_refl _))

/-- Without a tag, which `drop` takes off every list. -/
def withoutTag (v : Tagging) (t : TagID) (drop : List TagID → List TagID) : Tagging :=
  { v with
    endpoints := v.endpoints.dissolve t drop
    endpointGroups := v.endpointGroups.dissolve t drop
    edgeGroups := fun i => (v.edgeGroups i).map drop }

/-- The tag is on no list any more, and the others are where they were. -/
theorem Sound.withoutTag (h : v.Sound) (t : TagID) (drop : List TagID → List TagID)
    (hdrop : ∀ l, ((∃ i, v.endpoints.listed i = some l) ∨ (∃ i, v.endpointGroups.listed i = some l) ∨
      ∃ i, v.edgeGroups i = some l) → ∀ k, k ∈ drop l ↔ k ∈ l ∧ k ≠ t) :
    (v.withoutTag t drop).Sound where
  endpoints := h.endpoints.dissolve fun i l hl => hdrop l (.inl ⟨i, hl⟩)
  endpointGroups := h.endpointGroups.dissolve fun i l hl => hdrop l (.inr (.inl ⟨i, hl⟩))
  edgeGroups := by
    intro i l hl k hk
    obtain ⟨l', hl', rfl⟩ := Option.map_eq_some_iff.mp hl
    obtain ⟨hmem, hne⟩ := (hdrop l' (.inr (.inr ⟨i, hl'⟩)) k).mp hk
    simp only [Tagging.withoutTag, Links.dissolve]
    rw [if_neg (Ne.symm hne)]
    exact h.edgeGroups i l' hl' k hmem
  unassigned := Option.isSome_map.trans h.unassigned
  endpoint_le i hi := h.endpoint_le i (Option.isSome_map.symm.trans hi)
  endpointGroup_le i hi := h.endpointGroup_le i (Option.isSome_map.symm.trans hi)
  tag_le k hk := by
    simp only [Tagging.withoutTag, Links.dissolve] at hk
    split at hk
    · cases hk
    · exact h.tag_le k hk

end Tagging

/-! ## Writes -/

section Writes

variable {s : Server}

theorem tagging_put_endpoint (e : Endpoint) :
    tagging (Server.endpoint.change (·.put e) s) =
      (tagging s).withEndpoints ((tagging s).endpoints.setListed e.id (some e.tagIDs)) := by
  refine Tagging.ext (Links.ext (funext fun i => ?_) rfl) rfl rfl rfl rfl rfl
  exact Bucket.map_get?_put

theorem tagging_delete_endpoint (id : EndpointID) :
    tagging (Server.endpoint.change (·.delete id) s) =
      (tagging s).withEndpoints ((tagging s).endpoints.setListed id none) := by
  refine Tagging.ext (Links.ext (funext fun i => ?_) rfl) rfl rfl rfl rfl rfl
  exact Bucket.map_get?_delete

theorem tagging_put_endpointGroup (g : EndpointGroup) :
    tagging (Server.endpointGroup.change (·.put g) s) =
      (tagging s).withEndpointGroups
        ((tagging s).endpointGroups.setListed g.id (some g.tagIDs)) := by
  refine Tagging.ext rfl (Links.ext (funext fun i => ?_) rfl) rfl rfl rfl rfl
  exact Bucket.map_get?_put

theorem tagging_delete_endpointGroup (id : EndpointGroupID) :
    tagging (Server.endpointGroup.change (·.delete id) s) =
      (tagging s).withEndpointGroups ((tagging s).endpointGroups.setListed id none) := by
  refine Tagging.ext rfl (Links.ext (funext fun i => ?_) rfl) rfl rfl rfl rfl
  exact Bucket.map_get?_delete

theorem tagging_put_edgeGroup (g : EdgeGroup) :
    tagging (Server.edgeGroup.change (·.put g) s) =
      (tagging s).withEdgeGroup g.id (some g.tagIDs) := by
  refine Tagging.ext rfl rfl (funext fun i => ?_) rfl rfl rfl
  exact Bucket.map_get?_put

theorem tagging_delete_edgeGroup (id : EdgeGroupID) :
    tagging (Server.edgeGroup.change (·.delete id) s) =
      (tagging s).withEdgeGroup id none := by
  refine Tagging.ext rfl rfl (funext fun i => ?_) rfl rfl rfl
  exact Bucket.map_get?_delete

/-- A change of the tags of a list, field by field. -/
theorem tagging_alterTags (change : Tag → Tag) {f : Finset EndpointID → Finset EndpointID}
    {g : Finset EndpointGroupID → Finset EndpointGroupID} {l : List TagID}
    (hkey : ∀ tag, key (change tag) = key tag) (hidem : ∀ tag, change (change tag) = change tag)
    (hf : ∀ tag, (change tag).endpoints = f tag.endpoints)
    (hg : ∀ tag, (change tag).endpointGroups = g tag.endpointGroups) :
    tagging (alterTags change l s) = ((tagging s).withEndpoints
      ⟨(tagging s).endpoints.listed, fun t =>
        ((tagging s).endpoints.named t).map fun S => if t ∈ l then f S else S⟩).withEndpointGroups
      ⟨(tagging s).endpointGroups.listed, fun t =>
        ((tagging s).endpointGroups.named t).map fun S => if t ∈ l then g S else S⟩ := by
  have hget : ∀ t, (alterTags change l s).dataStore.tag.get? t =
      if t ∈ l then (s.dataStore.tag.get? t).map change else s.dataStore.tag.get? t :=
    fun t => Bucket.get?_alterAll hkey hidem
  refine Tagging.ext (Links.ext rfl (funext fun t => ?_)) (Links.ext rfl (funext fun t => ?_)) rfl rfl
    rfl Bucket.sequence_alterAll
  · change ((alterTags change l s).dataStore.tag.get? t).map Tag.endpoints = _
    rw [hget]
    change _ = ((s.dataStore.tag.get? t).map Tag.endpoints).map _
    cases s.dataStore.tag.get? t with
    | none => simp
    | some tag => split <;> simp [hf]
  · change ((alterTags change l s).dataStore.tag.get? t).map Tag.endpointGroups = _
    rw [hget]
    change _ = ((s.dataStore.tag.get? t).map Tag.endpointGroups).map _
    cases s.dataStore.tag.get? t with
    | none => simp
    | some tag => split <;> simp [hg]

theorem tagging_withEndpoint {id : EndpointID} {l : List TagID} :
    tagging (alterTags (withEndpoint id) l s) =
      (tagging s).withEndpoints ((tagging s).endpoints.on id l) := by
  rw [tagging_alterTags (withEndpoint id) (f := insert id) (g := fun S => S) (fun _ => rfl)
    (fun tag => by simp [withEndpoint]) (fun _ => rfl) fun _ => rfl]
  simp [Links.on, Tagging.withEndpoints, Tagging.withEndpointGroups]

theorem tagging_withoutEndpoint {id : EndpointID} {l : List TagID} :
    tagging (alterTags (withoutEndpoint id) l s) =
      (tagging s).withEndpoints ((tagging s).endpoints.off id l) := by
  rw [tagging_alterTags (withoutEndpoint id) (f := (·.erase id)) (g := fun S => S) (fun _ => rfl)
    (fun tag => by simp [withoutEndpoint]) (fun _ => rfl) fun _ => rfl]
  simp [Links.off, Tagging.withEndpoints, Tagging.withEndpointGroups]

theorem tagging_withEndpointGroup {id : EndpointGroupID} {l : List TagID} :
    tagging (alterTags (withEndpointGroup id) l s) =
      (tagging s).withEndpointGroups ((tagging s).endpointGroups.on id l) := by
  rw [tagging_alterTags (withEndpointGroup id) (f := fun S => S) (g := insert id) (fun _ => rfl)
    (fun tag => by simp [withEndpointGroup]) (fun _ => rfl) fun _ => rfl]
  simp [Links.on, Tagging.withEndpoints, Tagging.withEndpointGroups]

theorem tagging_withoutEndpointGroup {id : EndpointGroupID} {l : List TagID} :
    tagging (alterTags (withoutEndpointGroup id) l s) =
      (tagging s).withEndpointGroups ((tagging s).endpointGroups.off id l) := by
  rw [tagging_alterTags (withoutEndpointGroup id) (f := fun S => S) (g := (·.erase id)) (fun _ => rfl)
    (fun tag => by simp [withoutEndpointGroup]) (fun _ => rfl) fun _ => rfl]
  simp [Links.off, Tagging.withEndpoints, Tagging.withEndpointGroups]

end Writes

/-! ## What keeps the view -/

section Kept

variable {v : Tagging} {ε : Type} {g : String → ε}

/-- Writing an endpoint that lists the tags it listed before. -/
theorem keeps_tagging_endpoint {e : Endpoint} (h : v.endpoints.listed e.id = some e.tagIDs) :
    Keeps ((Server.endpoint.updateObject e).mapError g) (tagging · = v) := by
  refine Table.keeps_updateObject fun s hs => ?_
  subst hs
  rw [tagging_put_endpoint, Links.setListed_self h]
  rfl

theorem keeps_tagging_endpointGroup {group : EndpointGroup}
    (h : v.endpointGroups.listed group.id = some group.tagIDs) :
    Keeps ((Server.endpointGroup.updateObject group).mapError g) (tagging · = v) := by
  refine Table.keeps_updateObject fun s hs => ?_
  subst hs
  rw [tagging_put_endpointGroup, Links.setListed_self h]
  rfl

theorem keeps_tagging_edgeGroup {edgeGroup : EdgeGroup}
    (h : v.edgeGroups edgeGroup.id = some edgeGroup.tagIDs) :
    Keeps ((Server.edgeGroup.updateObject edgeGroup).mapError g) (tagging · = v) := by
  refine Table.keeps_updateObject fun s hs => ?_
  subst hs
  rw [tagging_put_edgeGroup]
  refine Tagging.ext rfl rfl (funext fun i => ?_) rfl rfl rfl
  simp only [Tagging.withEdgeGroup]
  split
  · rename_i hi
    rw [← hi, h]
  · rfl

theorem frames_tagging_cleanNAP {endpoint : Endpoint} {endpointGroup : Option EndpointGroup} :
    Frames (Kubernetes.cleanNAPWithOverridePolicies endpoint endpointGroup) tagging := by
  refine fun _ => frames_cleanNAP.keeps fun s s' hdb hv => ?_
  rw [← hv]
  simp only [tagging, hdb]

end Kept

end Inventory

end Portainer
