import Mathlib.Tactic.Common
import Mathlib.Data.List.Basic
import Mathlib.Data.List.Nodup
import Mathlib.Data.List.Perm.Lattice
/-!
# Merging — what has a share first, the rest by name

Two lists joined by a name: those of the entries that have a share come
first, with it, and of the others those whose name has not come yet. Nothing
is lost exactly if no entry without a share has the name of one with a share,
and then the result is one pair for each entry, in another order.
-/

namespace Portainer

namespace Merging

variable {ζ ν π : Type} [DecidableEq ν] [DecidableEq π] {K : List ζ} {v : ζ → ν} {C : ζ → List π}

/-- The entries that have a share. -/
def sharers (C : ζ → List π) (K : List ζ) : List ζ := K.filter fun z => C z ≠ []

/-- Those with a share, and of the others those with another name. -/
def merged (v : ζ → ν) (C : ζ → List π) (K : List ζ) : List (ν × List π) :=
  (sharers C K).map (fun z => (v z, C z)) ++
    (K.filter fun z => v z ∉ (sharers C K).map v).map fun z => (v z, [])

/-- No entry without a share has the name of one with a share. -/
def Apart (v : ζ → ν) (C : ζ → List π) (K : List ζ) : Prop :=
  ∀ z ∈ K, ∀ z' ∈ K, C z = [] → C z' ≠ [] → v z ≠ v z'

theorem mem_sharers {z : ζ} : z ∈ sharers C K ↔ z ∈ K ∧ C z ≠ [] := by
  rw [sharers, List.mem_filter, decide_eq_true_iff]

/-- The others are those of the entries without a share whose name has not
come. -/
theorem filter_others : (K.filter fun z => v z ∉ (sharers C K).map v) =
    (K.filter fun z => C z = []).filter fun z => v z ∉ (sharers C K).map v := by
  rw [List.filter_filter]
  refine List.filter_congr fun z hz => ?_
  by_cases hempty : C z = []
  · rw [decide_eq_true hempty, Bool.and_true]
  · have hmem : v z ∈ (sharers C K).map v := List.mem_map_of_mem (mem_sharers.mpr ⟨hz, hempty⟩)
    rw [decide_eq_false (not_not.mpr hmem), Bool.false_and]

theorem length_sharers_add : (sharers C K).length + (K.filter fun z => C z = []).length = K.length := by
  have hperm := List.filter_append_perm (fun z => decide (C z ≠ [])) K
  have hlength := hperm.length_eq
  rw [List.length_append] at hlength
  have hrest : (K.filter fun z => !decide (C z ≠ [])) = K.filter fun z => C z = [] :=
    List.filter_congr fun z _ => by by_cases hempty : C z = [] <;> simp [hempty]
  rw [hrest] at hlength
  exact hlength

/-- **Nothing is lost** exactly if the names are apart. -/
theorem length_merged_eq_iff : (merged v C K).length = K.length ↔ Apart v C K := by
  have htotal := length_sharers_add (C := C) (K := K)
  have hlength : (merged v C K).length = K.length ↔
      ((K.filter fun z => C z = []).filter fun z => v z ∉ (sharers C K).map v).length =
        (K.filter fun z => C z = []).length := by
    rw [merged, List.length_append, List.length_map, List.length_map, filter_others]
    omega
  rw [hlength, List.length_filter_eq_length_iff]
  constructor
  · intro hall z hz z' hz' hempty hshare heq
    have hnot := of_decide_eq_true (hall z (List.mem_filter.mpr ⟨hz, decide_eq_true hempty⟩))
    exact hnot (heq ▸ List.mem_map_of_mem (mem_sharers.mpr ⟨hz', hshare⟩))
  · intro hapart z hz
    obtain ⟨hz, hempty⟩ := List.mem_filter.mp hz
    refine decide_eq_true fun hmem => ?_
    obtain ⟨z', hz', heq⟩ := List.mem_map.mp hmem
    obtain ⟨hz', hshare⟩ := mem_sharers.mp hz'
    exact hapart z hz z' hz' (of_decide_eq_true hempty) hshare heq.symm

/-- **Where the names are apart**, the result has one pair for each
entry. -/
theorem merged_perm (h : Apart v C K) : (merged v C K).Perm (K.map fun z => (v z, C z)) := by
  have hothers : (K.filter fun z => v z ∉ (sharers C K).map v) = K.filter fun z => C z = [] := by
    rw [filter_others, List.filter_eq_self]
    intro z hz
    obtain ⟨hz, hempty⟩ := List.mem_filter.mp hz
    refine decide_eq_true fun hmem => ?_
    obtain ⟨z', hz', heq⟩ := List.mem_map.mp hmem
    obtain ⟨hz', hshare⟩ := mem_sharers.mp hz'
    exact h z hz z' hz' (of_decide_eq_true hempty) hshare heq.symm
  have hpairs : (K.filter fun z => C z = []).map (fun z => (v z, ([] : List π))) =
      (K.filter fun z => C z = []).map fun z => (v z, C z) := by
    refine List.map_congr_left fun z hz => ?_
    rw [of_decide_eq_true (List.mem_filter.mp hz).2]
  have hrest : (K.filter fun z => C z = []) = K.filter fun z => !decide (C z ≠ []) :=
    List.filter_congr fun z _ => by by_cases hempty : C z = [] <;> simp [hempty]
  rw [merged, hothers, hpairs, ← List.map_append, hrest]
  exact (List.filter_append_perm (fun z => decide (C z ≠ [])) K).map _

/-- The names can be put another way. -/
theorem merged_map {ν' : Type} [DecidableEq ν'] {f : ν → ν'} (hf : Function.Injective f) {v' : ζ → ν'}
    (h : ∀ z ∈ K, v' z = f (v z)) : merged v' C K = (merged v C K).map fun p => (f p.1, p.2) := by
  have hsharers : (sharers C K).map v' = ((sharers C K).map v).map f := by
    rw [List.map_map]
    exact List.map_congr_left fun z hz => h z (mem_sharers.mp hz).1
  have hothers : (K.filter fun z => v' z ∉ (sharers C K).map v') =
      K.filter fun z => v z ∉ (sharers C K).map v := by
    refine List.filter_congr fun z hz => decide_eq_decide.mpr (not_congr ?_)
    rw [hsharers, h z hz]
    exact List.mem_map_of_injective hf
  unfold merged
  rw [hothers, List.map_append, List.map_map, List.map_map]
  congr 1
  · exact List.map_congr_left fun z hz => by rw [h z (mem_sharers.mp hz).1]; rfl
  · exact List.map_congr_left fun z hz => by rw [h z (List.mem_filter.mp hz).1]; rfl

/-- Every name comes. -/
theorem exists_mem_merged {z : ζ} (hz : z ∈ K) : ∃ share, (v z, share) ∈ merged v C K := by
  by_cases hmem : v z ∈ (sharers C K).map v
  · obtain ⟨z', hz', heq⟩ := List.mem_map.mp hmem
    exact ⟨C z', List.mem_append_left _ (List.mem_map.mpr ⟨z', hz', by rw [heq]⟩)⟩
  · refine ⟨[], List.mem_append_right _ (List.mem_map.mpr ⟨z, List.mem_filter.mpr ⟨hz, ?_⟩, rfl⟩)⟩
    exact decide_eq_true hmem

end Merging

end Portainer
