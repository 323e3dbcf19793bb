import Portainer.Archive.Helpers.Turns
import Portainer.Common.Overlay
/-!
# What is laid over a tree

Each operation is followed on a tree over which some files were laid before.

The lemmas say two things at once. Whatever fails, an operation that
returns has laid its files; and if it is *sure* that no callee fails and
that there is room for the files, it returns.
-/

namespace Portainer

open Path (join dir base trimPrefix Segment Descends spell under)
open Action (Meets)
open FileTree (Laid Fits Located put)

namespace Archive.Packing

variable {sure : Prop} {places : Set (List Path)} {t : FileTree} {F : List Path → Option String}
  {l d : List Path} {p q : Path} {text : String}

/-- **The disk is the tree with the files laid over it**, and if it is sure,
it has room for files at the places. -/
structure Over (sure : Prop) (places : Set (List Path)) (t : FileTree) (F : List Path → Option String) (h : Disk) :
    Prop where
  laid : Laid t F h.tree
  fits : sure → Fits places h.tree

/-- The program leads from one condition to another, if it returns. If it
is sure, no callee fails, and it returns. -/
abbrev Leads {α : Type} (sure : Prop) (P : Disk → Prop) (x : Fallible Disk α) (Q : α → Disk → Prop) : Prop :=
  Meets (fun _ => sure) P x Q fun _ _ => ¬ sure

namespace Leads

variable {α β : Type} {P : Disk → Prop} {x : Fallible Disk α} {Q Q' : α → Disk → Prop}

theorem post (hx : Leads sure P x Q) (hQ : ∀ a h, Q a h → Q' a h) : Leads sure P x Q' :=
  hx.conseq (fun _ hh => hh) hQ fun _ _ hh => hh

theorem query_bind {k : Callee} {g : Disk → β} {f : β → Fallible Disk α} (hf : ∀ b, Leads sure P (f b) Q) :
    Leads sure P (Action.query k g >>= f) Q :=
  .bind (M := fun _ => P) (.query (fun _ hh => hh) fun hsure _ _ _ => hsure) hf

end Leads

namespace Over

variable {h : Disk} {G : List Path → Option String}

theorem locate (hh : Over sure places t F h) : h.locate p = resolve t.workingDirectory p := by
  rw [Disk.locate, hh.laid.workingDirectory]

theorem located (hh : Over sure places t F h) (hp : Located t p l) : h.locate p = l := hh.locate.trans hp.leads

theorem segment_locate (hh : Over sure places t F h) : ∀ s ∈ h.locate p, Segment s :=
  FileTree.segment_resolve hh.laid.wellFormed.segment_workingDirectory

theorem content (hh : Over sure places t F h) (l : List Path) : h.tree.content? l = (F l).or (t.content? l) :=
  hh.laid.content l

theorem congr (hh : Over sure places t F h) (hFG : ∀ l, F l = G l) : Over sure places t G h :=
  ⟨hh.laid.congr hFG, hh.fits⟩

end Over

/-! ## Single files -/

/-- The directory of a place is made. -/
theorem leads_mkdirAll_dir (hq : Located t q l) (hplace : sure → l ∈ places) :
    Leads sure (Over sure places t F) (mkdirAll (dir q)) (fun _ h =>
      (sure → h.tree.canCreate l = true) ∧ Over sure places t F h) := by
  obtain ⟨s, -, hs⟩ := FileTree.resolve_dir_of_absolute t.workingDirectory hq.absolute
  rw [hq.leads] at hs
  subst hs
  refine Archive.meets_mkdirAll (fun h hh hcan => ?_) (fun h _ hh hcan hsure => ?_) fun hsure _ _ _ => hsure
  · have hmade : (h.mkdirAll (dir q)).tree = h.tree.mkdirAll (resolve t.workingDirectory (dir q)) := by
      rw [← hh.locate]
      rfl
    refine ⟨fun hsure => ?_, ⟨hh.laid.mkdirAll hcan hh.segment_locate, fun hsure => ?_⟩⟩ <;> rw [hmade]
    · exact (hh.fits hsure).canCreate_mkdirAll (hplace hsure)
    · refine (hh.fits hsure).mkdirAll fun e he hmem => ?_
      have heq := (hh.fits hsure).apart _ (hplace hsure) e hmem (he.trans (List.prefix_append _ _))
      have hlength := he.length_le
      rw [heq, List.length_append, List.length_singleton] at hlength
      omega
  · rw [hh.locate, (hh.fits hsure).canMkdirAll (hplace hsure) (List.prefix_append _ _) (by simp)] at hcan
    cases hcan

theorem leads_create (hq : Located t q l) (hplace : sure → l ∈ places) :
    Leads sure (fun h => (sure → h.tree.canCreate l = true) ∧ Over sure places t F h) (create q)
      (fun _ => Over sure places t (put l "" F)) := by
  refine Archive.meets_create (fun h hh hcan _ => ?_) (fun h _ hh hnot hsure => ?_) fun hsure _ _ _ => hsure
  · obtain ⟨-, hh⟩ := hh
    have hmade : (h.create q).tree = h.tree.withFile l "" := by
      rw [← hh.located hq]
      rfl
    rw [hh.located hq] at hcan
    refine ⟨?_, fun hsure => ?_⟩ <;> rw [hmade]
    · exact hh.laid.withFile hcan (hh.located hq ▸ hh.segment_locate)
    · exact (hh.fits hsure).withFile (hplace hsure)
  · obtain ⟨hcan, hh⟩ := hh
    rw [hh.located hq, hcan hsure] at hnot
    rcases hnot with hnot | hnot
    · cases hnot
    · exact hq.absolute.ne_nil hnot

theorem leads_copy {before : String} (hq : Located t q l) (hplace : sure → l ∈ places) :
    Leads sure (Over sure places t (put l before F)) (copy q text) (fun _ => Over sure places t (put l text F)) := by
  refine Archive.meets_copy (fun h hh => ?_) fun hsure _ _ _ => hsure
  have hmade : (h.copy q text).tree = h.tree.withFile l text := by
    rw [← hh.located hq]
    rfl
  refine ⟨?_, fun hsure => ?_⟩ <;> rw [hmade]
  · exact hh.laid.rewrite
  · exact (hh.fits hsure).withFile (hplace hsure)

/-- A file is read as it is. -/
theorem leads_readFile (hp : Located t p d) (hread : sure → (F d).or (t.content? d) ≠ none) :
    Leads sure (Over sure places t F) (readFile p) (fun content h =>
      (F d).or (t.content? d) = some content ∧ Over sure places t F h) := by
  refine Meets.lookup (fun h content hh hget => ⟨?_, hh⟩) (fun h hh hget hsure => ?_) fun hsure _ _ _ => hsure
  · rw [← hh.content, ← hh.located hp]
    exact hget
  · rw [hh.located hp, hh.content] at hget
    exact hread hsure hget

/-! ## Walks -/

/-- A walk visits what is there when it is begun. -/
theorem leads_filepathWalk {α : Type} {P : Disk → Prop} {Q : List α → Disk → Prop} {root : Path}
    {visit : Visit → Fallible Disk α} (hthere : sure → ∀ h, P h → h.tree.node (h.locate root) ≠ none)
    (hvisits : ∀ h, P h → Leads sure P (visitAll visit (visits root h)) Q) :
    Leads sure P (filepathWalk root visit) Q := by
  refine .bind (M := fun vs h => P h ∧ vs = visits root h) (.get fun h hh => ⟨hh, rfl⟩) fun vs => ?_
  refine .bind (M := fun _ h => P h ∧ vs = visits root h) (.require (fun h hh _ => hh) fun h hh hempty hsure => ?_)
    fun _ => ?_
  · obtain ⟨hP, rfl⟩ := hh
    obtain ⟨node, hnode⟩ := Option.ne_none_iff_exists'.mp (hthere hsure h hP)
    have hmem : h.locate root ∈ h.tree.below (h.locate root) :=
      FileTree.mem_below.mpr ⟨List.prefix_rfl, hnode ▸ Option.some_ne_none node⟩
    refine hempty (Bool.eq_false_iff.mpr fun hnil => ?_)
    have hvisited := List.filterMap_eq_nil_iff.mp (List.isEmpty_iff.mp hnil) _ hmem
    rw [hnode] at hvisited
    cases hvisited
  · intro w hR hw
    obtain ⟨hP, rfl⟩ := hw
    exact hvisits w.store hP w hR hP

section Walks

variable {h : Disk} {root : Path} {v : Visit} {rel : List Path}

/-- **What a walk comes by**: all that lies at and below the root. -/
theorem mem_visits (ht : h.tree.WellFormed) : v ∈ visits root h ↔
    ∃ rel, (∀ s ∈ rel, Segment s) ∧ v.path = under root rel ∧
      h.tree.node (h.locate root ++ rel) = some v.node := by
  unfold visits
  rw [List.mem_filterMap]
  constructor
  · rintro ⟨l, hl, hv⟩
    obtain ⟨⟨rel, rfl⟩, hnode⟩ := FileTree.mem_below.mp hl
    obtain ⟨node, hnode', rfl⟩ := Option.map_eq_some_iff.mp hv
    refine ⟨rel, fun s hs => ht.segment _ hnode s (List.mem_append_right _ hs), ?_, hnode'⟩
    rw [List.drop_left]
    rfl
  · rintro ⟨rel, hrel, hpath, hnode⟩
    refine ⟨h.locate root ++ rel, FileTree.mem_below.mpr ⟨List.prefix_append _ _, hnode ▸ Option.some_ne_none _⟩, ?_⟩
    rw [hnode, Option.map_some, List.drop_left]
    obtain ⟨path, node⟩ := v
    have hpath : path = under root rel := hpath
    rw [hpath]
    rfl

/-- **A walk has come by the files** below a location, and by nothing from
elsewhere. -/
structure Walked (content? : List Path → Option String) (root : Path) (location : List Path) (vs : List Visit) :
    Prop where
  path : ∀ v ∈ vs, ∃ rel, (∀ s ∈ rel, Segment s) ∧ v.path = under root rel ∧
    (v.node ≠ .directory → content? (location ++ rel) ≠ none)
  file : ∀ rel, content? (location ++ rel) ≠ none →
    ∃ v ∈ vs, (∀ s ∈ rel, Segment s) ∧ v.path = under root rel ∧ v.node ≠ .directory

theorem walked (ht : h.tree.WellFormed) {content? : List Path → Option String}
    (hcontent : ∀ rel, h.tree.content? (h.locate root ++ rel) = content? (h.locate root ++ rel)) :
    Walked content? root (h.locate root) (visits root h) where
  path v hv := by
    obtain ⟨rel, hrel, hpath, hnode⟩ := (mem_visits ht).mp hv
    refine ⟨rel, hrel, hpath, fun hfile => ?_⟩
    cases hv : v.node with
    | directory => exact absurd hv hfile
    | file content =>
      rw [hv, ← FileTree.content?_eq_some, hcontent] at hnode
      rw [hnode]
      exact Option.some_ne_none _
  file rel hrel := by
    obtain ⟨content, hsome⟩ := Option.ne_none_iff_exists'.mp hrel
    rw [← hcontent, FileTree.content?_eq_some] at hsome
    have hsegments : ∀ s ∈ rel, Segment s := fun s hs =>
      ht.segment _ (hsome ▸ Option.some_ne_none _) s (List.mem_append_right _ hs)
    exact ⟨⟨under root rel, .file content⟩, (mem_visits ht).mpr ⟨rel, hsegments, rfl, hsome⟩, hsegments, rfl,
      Node.noConfusion⟩

end Walks

end Archive.Packing

end Portainer
