import Mathlib.Tactic.Common
import Mathlib.Data.List.Basic
import Mathlib.Data.List.Perm.Basic
/-!
# Slots — uses of several keys, dealt out again

Each key is used a number of times without a place, and at some places. The
uses are dealt out over as many slots as the key with the most uses has: up to
a threshold every key is used without a place, and from there on a key first
without one and then at its places in turn, unless it has no use at all.
`dealt_iff` says when this is possible and gives each key its uses.
-/

namespace Portainer

namespace Slots

variable {κ β : Type} {keys : List κ} {e : κ → ℕ} {q p o : κ → List β} {k : κ} {most mostPlaced threshold : ℕ}

/-- What a slot makes of a key with `e` uses without a place and those at
`q`. -/
def slot (threshold e : ℕ) (q : List β) (index : ℕ) : Option (Option β) :=
  if index < threshold then some none
  else if e + q.length = 0 then none
  else if index < e then some none
  else some q[index - e]?

/-- The uses of a key in all slots. -/
def dealt (most threshold e : ℕ) (q : List β) : List (Option β) := (List.range most).filterMap (slot threshold e q)

/-- A slot in which every key that is used has a use left. -/
def Fits (keys : List κ) (e : κ → ℕ) (q : κ → List β) (threshold index : ℕ) : Prop :=
  threshold ≤ index → ∀ k ∈ keys, e k + (q k).length ≠ 0 → index < e k + (q k).length

/-- A key with the most uses gets all of them. -/
theorem dealt_most {e : ℕ} {q : List β} (h : threshold ≤ e) :
    dealt (e + q.length) threshold e q = List.replicate e none ++ q.map some := by
  have hslot : ∀ index ∈ List.range (e + q.length),
      slot threshold e q index = some (if index < e then none else q[index - e]?) := by
    intro index hindex
    have hlt := List.mem_range.mp hindex
    unfold slot
    by_cases hbefore : index < threshold
    · rw [if_pos hbefore, if_pos (by omega)]
    · rw [if_neg hbefore, if_neg (by omega)]
      split <;> rfl
  have hmap : dealt (e + q.length) threshold e q =
      (List.range (e + q.length)).map fun index => if index < e then none else q[index - e]? := by
    rw [← List.filterMap_eq_map]
    exact List.filterMap_congr hslot
  rw [hmap]
  refine List.ext_getElem? fun index => ?_
  rw [List.getElem?_map, List.getElem?_append, List.length_replicate]
  by_cases hbefore : index < e
  · rw [if_pos hbefore, List.getElem?_range (by omega), List.getElem?_replicate, if_pos hbefore, Option.map_some,
      if_pos hbefore]
  · rw [if_neg hbefore, List.getElem?_map]
    by_cases hlt : index < e + q.length
    · have hplace : q[index - e]? = some q[index - e] := List.getElem?_eq_getElem (by omega)
      rw [List.getElem?_range hlt, Option.map_some, if_neg hbefore, hplace]
      rfl
    · rw [List.getElem?_eq_none (by rw [List.length_range]; omega), List.getElem?_eq_none (by omega)]
      rfl

/-- A key that is not used is, up to the threshold. -/
theorem dealt_unused {e : ℕ} {q : List β} (hunused : e + q.length = 0) (hle : threshold ≤ most) :
    dealt most threshold e q = [] ↔ threshold = 0 := by
  unfold dealt slot
  rw [List.filterMap_eq_nil_iff]
  constructor
  · intro h
    by_contra hne
    have hzero := h 0 (List.mem_range.mpr (by omega))
    rw [if_pos (by omega)] at hzero
    nomatch hzero
  · rintro rfl index -
    rw [if_neg (Nat.not_lt_zero _), if_pos hunused]

/-- Below the threshold every key is used without a place. -/
theorem dealt_below {e : ℕ} {q : List β} : dealt most most e q = List.replicate most none := by
  have hslot : ∀ index ∈ List.range most, slot most e q index = some none := by
    intro index hindex
    exact if_pos (List.mem_range.mp hindex)
  have hmap : dealt most most e q = (List.range most).map fun _ => none := by
    rw [← List.filterMap_eq_map]
    exact List.filterMap_congr hslot
  rw [hmap, List.map_const', List.length_range]

/-- A list of uses is those without a place and those with one. -/
theorem perm_split [DecidableEq β] (l : List (Option β)) :
    l.Perm (List.replicate (l.count none) none ++ (l.filterMap id).map some) := by
  induction l with
  | nil => exact .nil
  | cons use l ih =>
    cases use with
    | none => simpa [List.count_cons, List.replicate_succ] using ih
    | some b =>
      have hcount : (some b :: l).count none = l.count none := by simp
      rw [hcount]
      exact (ih.cons (some b)).trans List.perm_middle.symm

/-- **Dealing the uses out again** is possible, and gives each key its uses,
exactly if no place belongs to another (`o`) and the keys are used equally
often, or each not at all or as often as one that never is without a
place. -/
theorem dealt_iff (hplaces : ∀ k ∈ keys, (q k).Perm (p k ++ o k))
    (hmost : ∀ k ∈ keys, e k + (q k).length ≤ most) (hmost' : ∃ k ∈ keys, e k + (q k).length = most)
    (hplaced : ∀ k ∈ keys, (q k).length ≤ mostPlaced) (hplaced' : ∃ k ∈ keys, (q k).length = mostPlaced) :
    ((∀ index < most, Fits keys e q (most - mostPlaced) index) ∧
      ∀ k ∈ keys, (dealt most (most - mostPlaced) (e k) (q k)).Perm (List.replicate (e k) none ++ (p k).map some)) ↔
    (∀ k ∈ keys, o k = []) ∧
      ((∀ k ∈ keys, ∀ k' ∈ keys, e k + (p k).length = e k' + (p k').length) ∨
        ∃ times, (∀ k ∈ keys, e k + (p k).length = 0 ∨ e k + (p k).length = times) ∧
          ∃ k ∈ keys, e k + (p k).length = times ∧ e k = 0) := by
  have hlengths : ∀ k ∈ keys, (q k).length = (p k).length + (o k).length := by
    intro k hk
    rw [(hplaces k hk).length_eq, List.length_append]
  obtain ⟨k₁, hk₁, hmost'⟩ := hmost'
  obtain ⟨k₂, hk₂, hplaced'⟩ := hplaced'
  constructor
  · rintro ⟨hfits, hperm⟩
    by_cases hnone : mostPlaced = 0
    · -- no key has a place: every slot is below the threshold
      have hbelow : ∀ k ∈ keys, e k + (p k).length = most ∧ o k = [] := by
        intro k hk
        have hlength := (hperm k hk).length_eq
        have hzero := hplaced k hk
        have hsum := hlengths k hk
        rw [hnone, Nat.sub_zero, dealt_below, List.length_append, List.length_replicate, List.length_replicate,
          List.length_map] at hlength
        exact ⟨hlength.symm, List.eq_nil_of_length_eq_zero (by omega)⟩
      refine ⟨fun k hk => (hbelow k hk).2, .inl fun k hk k' hk' => ?_⟩
      rw [(hbelow k hk).1, (hbelow k' hk').1]
    · -- the last slot leaves only keys with the most uses, and unused ones
      have hlast : ∀ k ∈ keys, e k + (q k).length = 0 ∨ e k + (q k).length = most := by
        intro k hk
        have hle := hplaced k₂ hk₂
        have hle' := hmost k₂ hk₂
        have hle'' := hmost k hk
        have hfit := hfits (most - 1) (by omega) (by omega) k hk
        omega
      have hothers : ∀ k ∈ keys, o k = [] := by
        intro k hk
        have hsum := hlengths k hk
        obtain hunused | hused := hlast k hk
        · exact List.eq_nil_of_length_eq_zero (by omega)
        · have hle := hplaced k hk
          have hlength := (hperm k hk).length_eq
          rw [← hused, dealt_most (by omega), List.length_append, List.length_append, List.length_replicate,
            List.length_map, List.length_map] at hlength
          exact List.eq_nil_of_length_eq_zero (by omega)
      have hsame : ∀ k ∈ keys, (q k).length = (p k).length := by
        intro k hk
        have hsum := hlengths k hk
        rw [hothers k hk, List.length_nil] at hsum
        omega
      refine ⟨hothers, ?_⟩
      by_cases hall : ∀ k ∈ keys, e k + (q k).length = most
      · refine .inl fun k hk k' hk' => ?_
        rw [← hsame k hk, ← hsame k' hk', hall k hk, hall k' hk']
      · push Not at hall
        obtain ⟨k, hk, hne⟩ := hall
        have hunused := (hlast k hk).resolve_right hne
        have hnil : dealt most (most - mostPlaced) (e k) (q k) = [] := by
          refine List.eq_nil_of_length_eq_zero ?_
          have hsum := hsame k hk
          rw [(hperm k hk).length_eq, List.length_append, List.length_replicate, List.length_map]
          omega
        have hzero := (dealt_unused hunused (by omega)).mp hnil
        refine .inr ⟨most, fun k hk => ?_, k₂, hk₂, ?_, ?_⟩
        · rw [← hsame k hk]
          exact hlast k hk
        · rw [← hsame k₂ hk₂]
          have hle := hmost k₂ hk₂
          omega
        · have hle := hmost k₂ hk₂
          omega
  · rintro ⟨hothers, heven⟩
    have hsame : ∀ k ∈ keys, (q k).Perm (p k) := by
      intro k hk
      have hsum := hplaces k hk
      rwa [hothers k hk, List.append_nil] at hsum
    have hcounts : ∀ k ∈ keys, e k + (q k).length = most ∨
        e k + (q k).length = 0 ∧ most - mostPlaced = 0 := by
      intro k hk
      have hlength := (hsame k hk).length_eq
      have hlength₁ := (hsame k₁ hk₁).length_eq
      obtain heven | ⟨times, htimes, k₀, hk₀, hused, hvariable⟩ := heven
      · have heq := heven k hk k₁ hk₁
        exact .inl (by omega)
      · have hlength₀ := (hsame k₀ hk₀).length_eq
        have hk := htimes k hk
        have hk₁ := htimes k₁ hk₁
        have hle := hplaced k₀ hk₀
        have hle' := hmost k₀ hk₀
        omega
    constructor
    · intro index hindex _ k hk hne
      obtain hused | ⟨hunused, -⟩ := hcounts k hk
      · omega
      · exact absurd hunused hne
    · intro k hk
      obtain hused | ⟨hunused, hzero⟩ := hcounts k hk
      · have hle := hplaced k hk
        have hdealt : dealt most (most - mostPlaced) (e k) (q k) =
            List.replicate (e k) none ++ (q k).map some := by
          rw [← hused]
          exact dealt_most (by omega)
        rw [hdealt]
        exact ((hsame k hk).map some).append_left _
      · have hlength := (hsame k hk).length_eq
        have hnil : p k = [] := List.eq_nil_of_length_eq_zero (by omega)
        have he : e k = 0 := by omega
        rw [(dealt_unused hunused (by omega)).mpr hzero, hnil, he]
        exact .nil

end Slots

end Portainer
