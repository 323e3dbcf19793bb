import Mathlib.Tactic.Common
import Mathlib.Data.List.Basic
/-!
# Lists of results — all there, or none

A list that is mapped by a function that may fail is there if every result
is, and then holds them in order.
-/

namespace Portainer

namespace Traverse

variable {α β : Type} {f : α → Option β} {l : List α} {l' : List β}

theorem mapM_eq_some {h : α → β} (hall : ∀ a ∈ l, f a = some (h a)) : l.mapM f = some (l.map h) := by
  induction l with
  | nil => rfl
  | cons a l ih =>
    rw [List.mapM_cons, hall a List.mem_cons_self, ih fun b hb => hall b (List.mem_cons_of_mem a hb)]
    rfl

theorem isSome_of_mapM (h : l.mapM f = some l') : ∀ a ∈ l, (f a).isSome := by
  induction l generalizing l' with
  | nil => exact fun a ha => absurd ha List.not_mem_nil
  | cons a l ih =>
    rw [List.mapM_cons] at h
    obtain ⟨b, hb, h⟩ := Option.bind_eq_some_iff.mp h
    obtain ⟨rest, hrest, -⟩ := Option.bind_eq_some_iff.mp h
    intro c hc
    obtain rfl | hc := List.mem_cons.mp hc
    · rw [hb]
      rfl
    · exact ih hrest c hc

/-- Each result is that of some element. -/
theorem exists_of_mem_mapM (h : l.mapM f = some l') {b : β} (hb : b ∈ l') : ∃ a ∈ l, f a = some b := by
  induction l generalizing l' with
  | nil =>
    cases Option.some.inj h
    exact absurd hb List.not_mem_nil
  | cons a l ih =>
    rw [List.mapM_cons] at h
    obtain ⟨first, hfirst, h⟩ := Option.bind_eq_some_iff.mp h
    obtain ⟨rest, hrest, h⟩ := Option.bind_eq_some_iff.mp h
    cases Option.some.inj h
    obtain rfl | hb := List.mem_cons.mp hb
    · exact ⟨a, List.mem_cons_self, hfirst⟩
    · obtain ⟨c, hc, hresult⟩ := ih hrest hb
      exact ⟨c, List.mem_cons_of_mem a hc, hresult⟩

/-- **All results**, or none. -/
theorem mapM_eq_some_iff (d : β) :
    l.mapM f = some l' ↔ (∀ a ∈ l, (f a).isSome) ∧ l' = l.map fun a => (f a).getD d := by
  have hgetD : (∀ a ∈ l, (f a).isSome) → ∀ a ∈ l, f a = some ((f a).getD d) := by
    intro hall a ha
    obtain ⟨b, hb⟩ := Option.isSome_iff_exists.mp (hall a ha)
    rw [hb, Option.getD_some]
  constructor
  · intro h
    have hall := isSome_of_mapM h
    exact ⟨hall, Option.some.inj (h.symm.trans (mapM_eq_some (hgetD hall)))⟩
  · rintro ⟨hall, rfl⟩
    exact mapM_eq_some (hgetD hall)

/-- The results are there exactly if each is. -/
theorem isSome_mapM_iff : (l.mapM f).isSome ↔ ∀ a ∈ l, (f a).isSome := by
  constructor
  · intro h
    obtain ⟨l', hl'⟩ := Option.isSome_iff_exists.mp h
    exact isSome_of_mapM hl'
  · intro hall
    induction l with
    | nil => rfl
    | cons a l ih =>
      obtain ⟨b, hb⟩ := Option.isSome_iff_exists.mp (hall a List.mem_cons_self)
      obtain ⟨l', hl'⟩ := Option.isSome_iff_exists.mp (ih fun c hc => hall c (List.mem_cons_of_mem a hc))
      rw [List.mapM_cons, hb, hl']
      rfl

end Traverse

end Portainer
