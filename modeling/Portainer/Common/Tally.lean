import Mathlib.Tactic.Common
import Mathlib.Data.List.Basic
import Mathlib.Data.List.Nodup
import Mathlib.Data.List.Perm.Lattice
/-!
# Tallies — multisets of pairs, one key at a time

A list of pairs, up to order, is what it has at each key: `perm_iff_entries`
takes such a list apart. What many parts have at a key is what those have
that know it.
-/

namespace Portainer

namespace Tally

variable {κ β α : Type} [DecidableEq κ] {k : κ} {l l' : List (κ × β)}

/-- What a list of pairs has at a key. -/
def entries (k : κ) (l : List (κ × β)) : List β := l.filterMap fun p => if p.1 = k then some p.2 else none

theorem entries_cons (k : κ) (p : κ × β) (l : List (κ × β)) :
    entries k (p :: l) = if p.1 = k then p.2 :: entries k l else entries k l := by
  unfold entries
  rw [List.filterMap_cons]
  by_cases hp : p.1 = k
  · rw [if_pos hp, if_pos hp]
  · rw [if_neg hp, if_neg hp]

theorem entries_append (k : κ) (l l' : List (κ × β)) : entries k (l ++ l') = entries k l ++ entries k l' :=
  List.filterMap_append

theorem entries_flatMap (k : κ) (xs : List α) (f : α → List (κ × β)) :
    entries k (xs.flatMap f) = xs.flatMap fun x => entries k (f x) := by
  induction xs with
  | nil => rfl
  | cons x xs ih => rw [List.flatMap_cons, List.flatMap_cons, entries_append, ih]

theorem entries_eq_nil (h : ∀ p ∈ l, p.1 ≠ k) : entries k l = [] :=
  List.filterMap_eq_nil_iff.mpr fun p hp => if_neg (h p hp)

theorem count_entries [BEq β] [LawfulBEq β] (k : κ) (b : β) (l : List (κ × β)) :
    (entries k l).count b = l.count (k, b) := by
  induction l with
  | nil => rfl
  | cons p l ih =>
    rw [entries_cons, List.count_cons, ← ih]
    by_cases hk : p.1 = k
    · rw [if_pos hk, List.count_cons]
      have hpair : (p == (k, b)) = (p.2 == b) := by
        rw [← hk, Bool.eq_iff_iff, beq_iff_eq, beq_iff_eq]
        exact ⟨fun h => congrArg Prod.snd h, fun h => Prod.ext rfl h⟩
      rw [hpair]
    · have hpair : (p == (k, b)) = false := by
        rw [beq_eq_false_iff_ne]
        exact fun h => hk (congrArg Prod.fst h)
      rw [if_neg hk, hpair]
      rfl

/-- **The same multiset** is the same at each key. -/
theorem perm_iff_entries [DecidableEq β] : l.Perm l' ↔ ∀ k, (entries k l).Perm (entries k l') := by
  constructor
  · exact fun h k => h.filterMap _
  · intro h
    refine List.perm_iff_count.mpr fun p => ?_
    obtain ⟨k, b⟩ := p
    rw [← count_entries, ← count_entries]
    exact (h k).count_eq b

/-- A list with at most one pair for each of some names. -/
theorem entries_filterMap {xs : List α} {name : α → κ} (hname : Function.Injective name) (hnodup : xs.Nodup)
    (f : α → Option β) {x : α} (hx : x ∈ xs) :
    entries (name x) (xs.filterMap fun y => (f y).map (Prod.mk (name y))) = (f x).toList := by
  have hothers : ∀ ys : List α, x ∉ ys → entries (name x) (ys.filterMap fun y => (f y).map (Prod.mk (name y))) = [] := by
    intro ys hys
    refine entries_eq_nil fun p hp => ?_
    obtain ⟨y, hy, hpair⟩ := List.mem_filterMap.mp hp
    obtain ⟨b, -, rfl⟩ := Option.map_eq_some_iff.mp hpair
    intro hyx
    exact hys (hname hyx ▸ hy)
  induction xs with
  | nil => exact absurd hx List.not_mem_nil
  | cons y xs ih =>
    obtain ⟨hy, hnodup⟩ := List.nodup_cons.mp hnodup
    rw [List.filterMap_cons]
    by_cases hxy : x = y
    · subst hxy
      cases f x with
      | none => exact hothers xs hy
      | some b =>
        rw [Option.map_some]
        dsimp only
        rw [entries_cons, if_pos rfl, hothers xs hy]
        rfl
    · have hx' := (List.mem_cons.mp hx).resolve_left hxy
      cases f y with
      | none => exact ih hnodup hx'
      | some b =>
        rw [Option.map_some]
        dsimp only
        rw [entries_cons, if_neg fun h => hxy (hname h).symm]
        exact ih hnodup hx'

end Tally

end Portainer
