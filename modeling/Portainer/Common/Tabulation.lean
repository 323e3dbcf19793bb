import Mathlib.Tactic.Common
import Mathlib.Data.List.Basic
import Mathlib.Data.List.Nodup
/-!
# Loops over a list — a map that is filled, the highest that is found

Two loops of imperative programs. One goes through a list and puts an entry
into a map for each element that has one; where the keys are distinct, the
map has these entries and no others, in whatever order they came. The other
keeps the element of the highest rank seen so far; it finds one of the
highest rank there is.
-/

namespace Portainer

open Std

namespace Loop

/-! ## Filling a map -/

section Tabulate

variable {α κ β : Type} [Ord κ] [TransOrd κ] [LawfulEqOrd κ] {k : α → κ} {f : α → Option β} {l : List α}

/-- The map of the elements that have a value, under their keys. A later
element takes the place of an earlier one. -/
def tabulate (k : α → κ) (f : α → Option β) (l : List α) : ExtTreeMap κ β :=
  l.foldl (fun m a =>
    match f a with
    | some b => m.insert (k a) b
    | none => m) ∅

theorem getElem?_foldl_insert (m : ExtTreeMap κ β) (i : κ) (hfree : ∀ a ∈ l, k a ≠ i) :
    (l.foldl (fun m a =>
      match f a with
      | some b => m.insert (k a) b
      | none => m) m)[i]? = m[i]? := by
  induction l generalizing m with
  | nil => rfl
  | cons a l ih =>
    rw [List.foldl_cons, ih _ fun b hb => hfree b (List.mem_cons_of_mem a hb)]
    have hne : k a ≠ i := hfree a List.mem_cons_self
    cases f a with
    | none => rfl
    | some b => rw [ExtTreeMap.getElem?_insert, if_neg fun h => hne (LawfulEqOrd.eq_of_compare h)]

/-- **The entry of a key** is the value of the one element with that key. -/
theorem getElem?_tabulate (hdistinct : (l.map k).Nodup) {a : α} (ha : a ∈ l) :
    (tabulate k f l)[k a]? = f a := by
  have hgeneral : ∀ m : ExtTreeMap κ β, m[k a]? = none → (l.foldl (fun m a =>
      match f a with
      | some b => m.insert (k a) b
      | none => m) m)[k a]? = f a := by
    induction l with
    | nil => exact absurd ha List.not_mem_nil
    | cons b l ih =>
      rw [List.map_cons, List.nodup_cons] at hdistinct
      intro m hm
      obtain rfl | hmem := List.mem_cons.mp ha
      · have hfree : ∀ c ∈ l, k c ≠ k a := fun c hc hk =>
          hdistinct.1 (List.mem_map.mpr ⟨c, hc, hk⟩)
        rw [List.foldl_cons, getElem?_foldl_insert _ _ hfree]
        cases f a with
        | none => exact hm
        | some v => exact ExtTreeMap.getElem?_insert_self
      · have hne : k b ≠ k a := fun hk => hdistinct.1 (List.mem_map.mpr ⟨a, hmem, hk.symm⟩)
        rw [List.foldl_cons]
        refine ih hdistinct.2 hmem _ ?_
        cases f b with
        | none => exact hm
        | some v => rw [ExtTreeMap.getElem?_insert, if_neg fun h => hne (LawfulEqOrd.eq_of_compare h), hm]
  exact hgeneral ∅ ExtTreeMap.getElem?_empty

theorem getElem?_tabulate_of_notMem {i : κ} (hfree : ∀ a ∈ l, k a ≠ i) :
    (tabulate k f l)[i]? = none := by
  rw [tabulate, getElem?_foldl_insert ∅ i hfree]
  exact ExtTreeMap.getElem?_empty

end Tabulate

/-! ## The highest so far -/

section Highest

variable {α : Type} {rank : α → Int} {l : List α} {a : α}

/-- Keep the one of the higher rank; at first, one of a rank above zero. -/
def higher (rank : α → Int) (best : Option α) (a : α) : Option α :=
  if (best.elim 0 rank) < rank a then some a else best

def highest (rank : α → Int) (l : List α) : Option α := l.foldl (higher rank) none

theorem foldl_higher_spec (best : Option α) : ∀ a, l.foldl (higher rank) best = some a →
    (best = some a ∨ a ∈ l) ∧ best.elim 0 rank ≤ rank a ∧ ∀ b ∈ l, rank b ≤ rank a := by
  induction l generalizing best with
  | nil =>
    rintro a rfl
    exact ⟨.inl rfl, Int.le_refl _, fun b hb => absurd hb List.not_mem_nil⟩
  | cons c l ih =>
    intro a h
    rw [List.foldl_cons] at h
    obtain ⟨hfrom, habove, hall⟩ := ih _ a h
    -- the first element is kept, or the best is at least as high
    have hstep : (higher rank best c = some c ∧ best.elim 0 rank < rank c) ∨
        (higher rank best c = best ∧ rank c ≤ best.elim 0 rank) := by
      by_cases hlt : best.elim 0 rank < rank c
      · exact .inl ⟨if_pos hlt, hlt⟩
      · exact .inr ⟨if_neg hlt, by omega⟩
    obtain ⟨heq, hlt⟩ | ⟨heq, hle⟩ := hstep
    · rw [heq] at hfrom habove
      have habove : rank c ≤ rank a := habove
      refine ⟨.inr ?_, by omega, fun b hb => ?_⟩
      · obtain hself | hmem := hfrom
        · exact Option.some.inj hself ▸ List.mem_cons_self
        · exact List.mem_cons_of_mem c hmem
      · obtain rfl | hb := List.mem_cons.mp hb
        · exact habove
        · exact hall b hb
    · rw [heq] at hfrom habove
      refine ⟨hfrom.imp_right (List.mem_cons_of_mem c), habove, fun b hb => ?_⟩
      obtain rfl | hb := List.mem_cons.mp hb
      · omega
      · exact hall b hb

/-- **What is found** is in the list, and nothing in it is higher. -/
theorem highest_spec (h : highest rank l = some a) : a ∈ l ∧ ∀ b ∈ l, rank b ≤ rank a := by
  obtain ⟨hfrom, -, hall⟩ := foldl_higher_spec none a h
  exact ⟨hfrom.resolve_left nofun, hall⟩

/-- Nothing is found in a list of nothing that ranks above zero. -/
theorem highest_eq_none (h : highest rank l = none) : ∀ b ∈ l, rank b ≤ 0 := by
  have hkept : ∀ (l : List α) (b : α), l.foldl (higher rank) (some b) ≠ none := by
    intro l
    induction l with
    | nil => exact fun b => Option.some_ne_none b
    | cons c l ih =>
      intro b
      rw [List.foldl_cons, higher]
      split
      · exact ih c
      · exact ih b
  unfold highest at h
  induction l with
  | nil => exact fun b hb => absurd hb List.not_mem_nil
  | cons c l ih =>
    rw [List.foldl_cons, higher] at h
    split at h
    · exact absurd h (hkept l c)
    · rename_i hle
      have hle : ¬ 0 < rank c := hle
      intro b hb
      obtain rfl | hb := List.mem_cons.mp hb
      · omega
      · exact ih h b hb

end Highest

end Loop

end Portainer
