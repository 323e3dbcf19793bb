import Portainer.Common.Runs
import Portainer.Inventory.Model.Services
/-!
# What the data services do

The reads and the writes of a `Table` as rules for programs, the buckets
after a write, and the loops of `Services` in closed form.
-/

namespace Portainer

open Action (Returns Ensures Runs)

namespace Table

variable {α : Type} [Record α] {t : Table α} {s : Server} {ε : Type}

/-! ## Reads -/

theorem returns_getObject {id : Int} :
    Returns (t.getObject id) s fun a => (t.bucket s.dataStore).get? id = some a :=
  .lookup fun _ h => h

theorem returns_getAll : Returns t.getAll s fun l => l = (t.bucket s.dataStore).all :=
  .query rfl

theorem returns_getObject_mapError {id : Int} {g : String → ε} :
    Returns ((t.getObject id).mapError g) s fun a => (t.bucket s.dataStore).get? id = some a :=
  returns_getObject.mapError

theorem returns_getAll_mapError {g : String → ε} :
    Returns (t.getAll.mapError g) s fun l => l = (t.bucket s.dataStore).all :=
  returns_getAll.mapError

/-! ## Writes -/

theorem ensures_updateObject {a : α} :
    Ensures (t.updateObject a) s fun _ s' => s' = t.change (·.put a) s := .call

theorem ensures_deleteObject {id : Int} :
    Ensures (t.deleteObject id) s fun _ s' => s' = t.change (·.delete id) s := .call

theorem ensures_updateObject_mapError {a : α} {g : String → ε} :
    Ensures ((t.updateObject a).mapError g) s fun _ s' => s' = t.change (·.put a) s :=
  ensures_updateObject.mapError

theorem ensures_deleteObject_mapError {id : Int} {g : String → ε} :
    Ensures ((t.deleteObject id).mapError g) s fun _ s' => s' = t.change (·.delete id) s :=
  ensures_deleteObject.mapError

/-! ## Reads and writes, where no call fails -/

section Calm

variable {calm : Prop} {E : Server → Prop} {g : String → ε}

theorem runs_getObject {id : Int} (he : (t.bucket s.dataStore).get? id = none → calm → E s) :
    Runs calm (t.getObject id) s (fun a s' => s' = s ∧ (t.bucket s.dataStore).get? id = some a) E :=
  .lookup (fun _ h => ⟨rfl, h⟩) he

theorem runs_getObject_mapError {id : Int} (he : (t.bucket s.dataStore).get? id = none → calm → E s) :
    Runs calm ((t.getObject id).mapError g) s
      (fun a s' => s' = s ∧ (t.bucket s.dataStore).get? id = some a) E :=
  (runs_getObject he).mapError

theorem runs_getAll : Runs calm t.getAll s (fun l s' => s' = s ∧ l = (t.bucket s.dataStore).all) E :=
  .query ⟨rfl, rfl⟩

theorem runs_getAll_mapError :
    Runs calm (t.getAll.mapError g) s (fun l s' => s' = s ∧ l = (t.bucket s.dataStore).all) E :=
  runs_getAll.mapError

theorem runs_updateObject_mapError {a : α} :
    Runs calm ((t.updateObject a).mapError g) s (fun _ s' => s' = t.change (·.put a) s) E :=
  .mapError (.call rfl)

theorem runs_deleteObject_mapError {id : Int} :
    Runs calm ((t.deleteObject id).mapError g) s (fun _ s' => s' = t.change (·.delete id) s) E :=
  .mapError (.call rfl)

theorem runs_createObject {a : Int → α} :
    Runs calm (t.createObject a) s (fun id s' => id = (t.bucket s.dataStore).next ∧
      s' = t.change (fun b => b.nextSequence.put (a id)) s) E := by
  unfold createObject
  refine Runs.read_bind (P := (· = (t.bucket s.dataStore).next)) (.get ⟨rfl, rfl⟩) fun id hid => ?_
  exact Runs.move_bind (.call rfl) fun _ => .pure ⟨hid, rfl⟩

end Calm

/-! ## Buckets after a write -/

/-- The bucket that is written is the one that is read, and a write writes
nothing else. -/
structure Lawful (t : Table α) : Prop where
  bucket_withBucket : ∀ db b, t.bucket (t.withBucket db b) = b
  withBucket_bucket : ∀ db, t.withBucket db (t.bucket db) = db
  withBucket_withBucket : ∀ db b b', t.withBucket (t.withBucket db b) b' = t.withBucket db b'

namespace Lawful

variable (ht : t.Lawful)
include ht

theorem change_change (f g : Bucket α → Bucket α) :
    t.change f (t.change g s) = t.change (fun b => f (g b)) s := by
  simp only [change, ht.bucket_withBucket, ht.withBucket_withBucket]

theorem change_id : t.change (fun b => b) s = s := by
  simp only [change, ht.withBucket_bucket]

theorem foldl_change {ι : Type} (f : ι → Bucket α → Bucket α) (l : List ι) :
    l.foldl (fun s i => t.change (f i) s) s = t.change (fun b => l.foldl (fun b i => f i b) b) s := by
  induction l generalizing s with
  | nil => exact ht.change_id.symm
  | cons i l ih => rw [List.foldl_cons, ih, ht.change_change]; rfl

/-- **A loop over the records** that changes and persists those that meet a
condition. -/
theorem ensures_forM_update {c : α → Bool} {f : α → α} {g : String → ε}
    {x : α → Action Callee Server ε Unit}
    (hx : ∀ a, x a = if c a then (t.updateObject (f a)).mapError g else pure ()) :
    Ensures ((t.bucket s.dataStore).all.forM x) s fun _ s' =>
      s' = t.change (·.alterWhere c f) s := by
  have hloop : (fun a => x a) = fun a => if c a = true then (t.updateObject (f a)).mapError g
      else pure () := funext hx
  change Ensures (List.forM _ (fun a => x a)) s _
  rw [hloop, Action.forM_filter]
  refine (Ensures.forM_foldl fun a _ s => ensures_updateObject_mapError).conseq ?_
  rintro - s' rfl
  rw [ht.foldl_change (fun a b => b.put (f a))]
  simp only [change, Bucket.alterWhere, Bucket.putAll, List.foldl_map, Bool.decide_eq_true]

end Lawful

end Table

namespace Server

theorem lawful_endpointRelation : endpointRelation.Lawful :=
  ⟨fun _ _ => rfl, fun _ => rfl, fun _ _ _ => rfl⟩

theorem lawful_edgeGroup : edgeGroup.Lawful := ⟨fun _ _ => rfl, fun _ => rfl, fun _ _ _ => rfl⟩

theorem lawful_edgeStack : edgeStack.Lawful := ⟨fun _ _ => rfl, fun _ => rfl, fun _ _ _ => rfl⟩

theorem lawful_registry : registry.Lawful := ⟨fun _ _ => rfl, fun _ => rfl, fun _ _ _ => rfl⟩

theorem lawful_tag : tag.Lawful := ⟨fun _ _ => rfl, fun _ => rfl, fun _ _ _ => rfl⟩

end Server

namespace Inventory

variable {s : Server}

/-! ## Files -/

/-! ## The tags of a list -/

/-- The turns of `changeTags`, all together. -/
def alterTags (change : Tag → Tag) (tagIDs : List TagID) (s : Server) : Server :=
  Server.tag.change (·.alterAll change tagIDs) s

/-- **The loop succeeds only if every tag of the list is there**, and
changes these tags. Where no call fails, that is all it takes. -/
theorem runs_changeTags {calm : Prop} {E : Server → Prop} {unfound unpersisted : String → HandlerError}
    (change : Tag → Tag) (hchange : ∀ tag, key (change tag) = key tag) {tagIDs : List TagID}
    (hthere : calm → ∀ i ∈ tagIDs, (s.dataStore.tag.get? i).isSome) :
    Runs calm (changeTags unfound unpersisted change tagIDs) s (fun _ s' =>
      s' = alterTags change tagIDs s ∧ ∀ i ∈ tagIDs, (s.dataStore.tag.get? i).isSome) E := by
  induction tagIDs generalizing s with
  | nil => exact .pure ⟨rfl, nofun⟩
  | cons i tagIDs ih =>
    have hturn : Runs calm (do
        let tag ← (Server.tag.getObject i).mapError unfound
        (Server.tag.updateObject (change tag)).mapError unpersisted) s (fun _ s' =>
        (s.dataStore.tag.get? i).isSome ∧ s' = Server.tag.change (·.alter change i) s) E := by
      refine .read_bind (Table.runs_getObject_mapError fun hnone hc => ?_) fun tag htag => ?_
      · have hsome := hthere hc i List.mem_cons_self
        rw [show s.dataStore.tag.get? i = none from hnone] at hsome
        nomatch hsome
      · have hget : s.dataStore.tag.get? i = some tag := htag
        refine Table.runs_updateObject_mapError.conseq (fun _ s' hs' => ?_) fun _ _ he => he
        refine ⟨Option.isSome_of_eq_some hget, ?_⟩
        rw [hs']
        simp only [Table.change, Server.tag, Bucket.alter, hget]
    have hsame : ∀ j, ((s.dataStore.tag.alter change i).get? j).isSome =
        (s.dataStore.tag.get? j).isSome := fun j => Bucket.isSome_get?_alter hchange
    refine hturn.bind fun _ s' h => ?_
    obtain ⟨hi, rfl⟩ := h
    refine (ih fun hc j hj => ?_).conseq (fun _ s' h => ?_) fun _ _ he => he
    · exact (hsame j).trans (hthere hc j (List.mem_cons_of_mem i hj))
    · obtain ⟨rfl, hrest⟩ := h
      refine ⟨Server.lawful_tag.change_change _ _, fun j hj => ?_⟩
      rcases List.mem_cons.mp hj with rfl | hj
      · exact hi
      · exact (hsame j).symm.trans (hrest j hj)

theorem ensures_changeTags {unfound unpersisted : String → HandlerError} (change : Tag → Tag)
    (hchange : ∀ tag, key (change tag) = key tag) (tagIDs : List TagID) :
    Ensures (changeTags unfound unpersisted change tagIDs) s fun _ s' =>
      (∀ i ∈ tagIDs, (s.dataStore.tag.get? i).isSome) ∧ s' = alterTags change tagIDs s :=
  ((runs_changeTags change hchange nofun).ensures (E := fun _ => True)).conseq fun _ _ h => h.symm

end Inventory

end Portainer
