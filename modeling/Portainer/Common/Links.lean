import Mathlib.Data.Finset.Basic
import Mathlib.Tactic.Common
/-!
# Links — references that are stored on both sides

Owners list targets, and targets name their owners. The two sides are
written separately, so they can disagree. `Links.Agree` says that they do
not, and by what it says every target that is listed and every owner that
is named is there. It is kept when an owner gets another list and the
targets follow (`Agree.relist`), when a target is added, and when one is
taken off every list together with its record (`Agree.dissolve`).
-/

namespace Portainer

/-- What the owners `ι` list, and whom the targets `κ` name. `none` is one
that is not there. -/
@[ext] structure Links (ι κ : Type) where
  listed : ι → Option (List κ)
  named : κ → Option (Finset ι)

namespace Links

variable {ι κ : Type} {L : Links ι κ} {i j : ι} {k : κ}

/-- The owner is there and lists the target. -/
def Lists (L : Links ι κ) (i : ι) (k : κ) : Prop := ∃ l, L.listed i = some l ∧ k ∈ l

/-- The target is there and names the owner. -/
def Names (L : Links ι κ) (k : κ) (i : ι) : Prop := ∃ S, L.named k = some S ∧ i ∈ S

/-- **The two sides agree.** -/
def Agree (L : Links ι κ) : Prop := ∀ i k, L.Lists i k ↔ L.Names k i

theorem lists_of_listed {l : List κ} (h : L.listed i = some l) : L.Lists i k ↔ k ∈ l := by
  simp [Lists, h]

theorem not_lists_of_none (h : L.listed i = none) : ¬ L.Lists i k := by
  simp [Lists, h]

theorem names_of_named {S : Finset ι} (h : L.named k = some S) : L.Names k i ↔ i ∈ S := by
  simp [Names, h]

/-- A target that is listed is there. -/
theorem Agree.named_isSome (h : L.Agree) (hl : L.Lists i k) : (L.named k).isSome := by
  obtain ⟨S, hS, -⟩ := (h i k).mp hl
  exact Option.isSome_of_eq_some hS

/-- An owner that is named is there. -/
theorem Agree.listed_isSome (h : L.Agree) (hn : L.Names k i) : (L.listed i).isSome := by
  obtain ⟨l, hl, -⟩ := (h i k).mpr hn
  exact Option.isSome_of_eq_some hl

/-! ## Another list for an owner -/

section Relist

variable [DecidableEq ι]

/-- The owner with another list, or gone. -/
def setListed (L : Links ι κ) (i : ι) (o : Option (List κ)) : Links ι κ where
  listed j := if i = j then o else L.listed j
  named := L.named

variable {l : List κ} {o : Option (List κ)}

@[simp] theorem named_setListed : (L.setListed i o).named k = L.named k := rfl

theorem listed_setListed : (L.setListed i o).listed j = if i = j then o else L.listed j := rfl

theorem setListed_self (h : L.listed i = o) : L.setListed i o = L := by
  refine Links.ext (funext fun j => ?_) rfl
  rw [listed_setListed]
  split
  · rename_i hij; rw [← h, hij]
  · rfl

theorem lists_setListed : (L.setListed i o).Lists j k ↔ if i = j then k ∈ o.getD [] else L.Lists j k := by
  by_cases hij : i = j
  · subst hij
    cases o <;> simp [Lists, listed_setListed]
  · simp [Lists, listed_setListed, hij]

variable [DecidableEq κ]

/-- Take the owner off the targets of a list. -/
def off (L : Links ι κ) (i : ι) (l : List κ) : Links ι κ where
  listed := L.listed
  named k := (L.named k).map fun S => if k ∈ l then S.erase i else S

/-- Put the owner on the targets of a list. -/
def on (L : Links ι κ) (i : ι) (l : List κ) : Links ι κ where
  listed := L.listed
  named k := (L.named k).map fun S => if k ∈ l then insert i S else S

@[simp] theorem isSome_named_off : ((L.off i l).named k).isSome = (L.named k).isSome :=
  Option.isSome_map

@[simp] theorem isSome_named_on : ((L.on i l).named k).isSome = (L.named k).isSome :=
  Option.isSome_map

theorem setListed_off : (L.off i l).setListed j o = (L.setListed j o).off i l := rfl

theorem setListed_on : (L.on i l).setListed j o = (L.setListed j o).on i l := rfl

theorem off_nil : L.off i [] = L := Links.ext rfl (funext fun k => by simp [off])

theorem on_nil : L.on i [] = L := Links.ext rfl (funext fun k => by simp [on])

theorem names_off : (L.off i l).Names k j ↔ L.Names k j ∧ ¬ (k ∈ l ∧ j = i) := by
  simp only [Names, off, Option.map_eq_some_iff]
  constructor
  · rintro ⟨_, ⟨S, hS, rfl⟩, hj⟩
    split at hj
    · obtain ⟨hne, hj⟩ := Finset.mem_erase.mp hj
      exact ⟨⟨S, hS, hj⟩, fun h => hne h.2⟩
    · rename_i hk
      exact ⟨⟨S, hS, hj⟩, fun h => hk h.1⟩
  · rintro ⟨⟨S, hS, hj⟩, hne⟩
    refine ⟨_, ⟨S, hS, rfl⟩, ?_⟩
    split
    · rename_i hk
      exact Finset.mem_erase.mpr ⟨fun h => hne ⟨hk, h⟩, hj⟩
    · exact hj

theorem names_on : (L.on i l).Names k j ↔ L.Names k j ∨ (L.named k).isSome ∧ k ∈ l ∧ j = i := by
  simp only [Names, on, Option.map_eq_some_iff]
  constructor
  · rintro ⟨_, ⟨S, hS, rfl⟩, hj⟩
    split at hj
    · rename_i hk
      rcases Finset.mem_insert.mp hj with rfl | hj
      · exact .inr ⟨Option.isSome_of_eq_some hS, hk, rfl⟩
      · exact .inl ⟨S, hS, hj⟩
    · exact .inl ⟨S, hS, hj⟩
  · rintro (⟨S, hS, hj⟩ | ⟨hS, hk, rfl⟩)
    · refine ⟨_, ⟨S, hS, rfl⟩, ?_⟩
      split
      · exact Finset.mem_insert_of_mem hj
      · exact hj
    · obtain ⟨S, hS⟩ := Option.isSome_iff_exists.mp hS
      exact ⟨_, ⟨S, hS, rfl⟩, by rw [if_pos hk]; exact Finset.mem_insert_self _ _⟩

/-- **An owner gets another list**, or goes. The owner is taken off the
targets of `gone`, which hold all that it listed and no longer lists, and is
put on those it lists now, which are there. -/
theorem Agree.relist (gone : List κ) (h : L.Agree)
    (hgone : ∀ k, L.Lists i k → k ∉ o.getD [] → k ∈ gone)
    (hthere : ∀ k ∈ o.getD [], (L.named k).isSome) :
    (((L.off i gone).on i (o.getD [])).setListed i o).Agree := by
  intro j k
  rw [setListed_on, setListed_off, names_on, names_off, isSome_named_off]
  change (L.setListed i o).Lists j k ↔ _
  rw [lists_setListed]
  have hnames : (L.setListed i o).Names k j ↔ L.Lists j k := (h j k).symm
  rw [hnames, named_setListed]
  by_cases hij : i = j
  · subst hij
    rw [if_pos rfl]
    constructor
    · exact fun hk => .inr ⟨hthere k hk, hk, rfl⟩
    · rintro (⟨hl, hk⟩ | ⟨-, hk, -⟩)
      · by_contra hnot
        exact hk ⟨hgone k hl hnot, rfl⟩
      · exact hk
  · rw [if_neg hij]
    constructor
    · exact fun hl => .inl ⟨hl, fun hk => hij hk.2.symm⟩
    · rintro (⟨hl, -⟩ | ⟨-, -, hj⟩)
      · exact hl
      · exact absurd hj.symm hij

end Relist

/-! ## A target more, and a target less -/

section Targets

variable [DecidableEq κ]

/-- With a target that names nobody. -/
def add (L : Links ι κ) (k : κ) : Links ι κ where
  listed := L.listed
  named k' := if k = k' then some ∅ else L.named k'

/-- The target was not there. -/
theorem Agree.add (h : L.Agree) (hk : L.named k = none) : (L.add k).Agree := by
  intro i k'
  change L.Lists i k' ↔ _
  rw [h i k']
  by_cases hkk : k = k'
  · subst hkk
    simp [Names, Links.add, hk]
  · simp [Names, Links.add, hkk]

/-- Without a target: off every list, by `drop`, and with no record. -/
def dissolve (L : Links ι κ) (k : κ) (drop : List κ → List κ) : Links ι κ where
  listed i := (L.listed i).map drop
  named k' := if k = k' then none else L.named k'

/-- The target is gone from the lists, which keep the others. -/
theorem Agree.dissolve {drop : List κ → List κ} (h : L.Agree)
    (hdrop : ∀ i l, L.listed i = some l → ∀ k', k' ∈ drop l ↔ k' ∈ l ∧ k' ≠ k) :
    (L.dissolve k drop).Agree := by
  intro i k'
  have hlists : (L.dissolve k drop).Lists i k' ↔ L.Lists i k' ∧ k' ≠ k := by
    simp only [Lists, Links.dissolve, Option.map_eq_some_iff]
    constructor
    · rintro ⟨_, ⟨l, hl, rfl⟩, hk'⟩
      obtain ⟨hmem, hne⟩ := (hdrop i l hl k').mp hk'
      exact ⟨⟨l, hl, hmem⟩, hne⟩
    · rintro ⟨⟨l, hl, hmem⟩, hne⟩
      exact ⟨_, ⟨l, hl, rfl⟩, (hdrop i l hl k').mpr ⟨hmem, hne⟩⟩
  rw [hlists, h i k']
  by_cases hkk : k = k'
  · subst hkk
    simp [Names, Links.dissolve]
  · have hne : k' ≠ k := fun h => hkk h.symm
    simp [Names, Links.dissolve, hkk, hne]

end Targets

end Links

end Portainer
