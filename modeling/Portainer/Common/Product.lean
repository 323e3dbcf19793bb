import Mathlib.Logic.Function.Basic
import Mathlib.Tactic.Common
/-!
# Products — conditions on several coordinates

A family of conditions, one on each coordinate, is fulfilled by the same
points as another exactly if each condition is fulfilled by the same values,
where the first can be fulfilled at all.
-/

namespace Portainer

namespace Product

variable {ι α β : Type}

/-- **A family of conditions is another one** exactly if each is. -/
theorem forall_iff_forall_iff [DecidableEq ι] {p q : ι → α → Prop} (hp : ∀ i, ∃ a, p i a) :
    (∀ f : ι → α, (∀ i, p i (f i)) ↔ ∀ i, q i (f i)) ↔ ∀ i a, p i a ↔ q i a := by
  constructor
  · intro h i a
    choose g hg using hp
    have hgq : ∀ j, q j (g j) := (h g).mp hg
    -- at the other coordinates both are fulfilled
    have hupdate : ∀ r : ι → α → Prop, (∀ j, r j (g j)) → ((∀ j, r j (Function.update g i a j)) ↔ r i a) := by
      intro r hr
      constructor
      · intro hall
        have hi := hall i
        rwa [Function.update_self] at hi
      · intro hi j
        by_cases hj : j = i
        · rw [hj, Function.update_self]
          exact hi
        · rw [Function.update_of_ne hj]
          exact hr j
    exact (hupdate p hg).symm.trans ((h (Function.update g i a)).trans (hupdate q hgq))
  · intro h f
    exact forall_congr' fun i => h i (f i)

/-- Two conditions on two coordinates are two others exactly if each is. -/
theorem and_iff_and_iff {p p' : α → Prop} {q q' : β → Prop} (hp : ∃ a, p a) (hq : ∃ b, q b) :
    (∀ a b, p a ∧ q b ↔ p' a ∧ q' b) ↔ (∀ a, p a ↔ p' a) ∧ ∀ b, q b ↔ q' b := by
  constructor
  · intro h
    obtain ⟨a, ha⟩ := hp
    obtain ⟨b, hb⟩ := hq
    obtain ⟨ha', hb'⟩ := (h a b).mp ⟨ha, hb⟩
    refine ⟨fun x => ?_, fun y => ?_⟩
    · have hx := h x b
      rwa [and_iff_left hb, and_iff_left hb'] at hx
    · have hy := h a y
      rwa [and_iff_right ha, and_iff_right ha'] at hy
  · rintro ⟨hpp, hqq⟩ a b
    exact and_congr (hpp a) (hqq b)

end Product

end Portainer
