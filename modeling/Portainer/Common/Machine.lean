import Mathlib.Tactic.Common
import Mathlib.Data.List.Basic
/-!
# Machines — runs of a system under a list of operations

A machine takes a state and an operation, with all its inputs, to the next
state. `none` is an operation that does not return. Safety of every run
follows from one step: `Machine.run_invariant` carries an invariant along
the runs whose steps all meet a condition, and `Machine.along_of_invariant`
reads a property of the steps off it.
-/

namespace Portainer

/-- A system with states `σ` and operations `ο`. -/
structure Machine (σ ο : Type) where
  step : σ → ο → Option σ

namespace Machine

variable {σ ο : Type} (m : Machine σ ο)

/-- The state after a list of operations, if they all return. -/
def run : σ → List ο → Option σ
  | s, [] => some s
  | s, o :: os =>
    match m.step s o with
    | some s' => run s' os
    | none => none

/-- Every operation of the run meets the condition in the state it is
applied to. -/
def Along (C : σ → ο → Prop) : σ → List ο → Prop
  | _, [] => True
  | s, o :: os => C s o ∧ ∀ s', m.step s o = some s' → Along C s' os

variable {m} {C : σ → ο → Prop} {Inv : σ → Prop} {s s' : σ} {ops : List ο}

theorem run_cons {o : ο} :
    m.run s (o :: ops) = some s' ↔ ∃ s₁, m.step s o = some s₁ ∧ m.run s₁ ops = some s' := by
  simp only [run]
  cases m.step s o <;> simp

/-- The condition can be evaluated along a run. -/
instance decidableAlong [∀ s o, Decidable (C s o)] : ∀ s ops, Decidable (m.Along C s ops)
  | _, [] => .isTrue trivial
  | s, o :: os =>
    match h : m.step s o with
    | none => decidable_of_iff (C s o) (by simp [Along, h])
    | some s' =>
      have := decidableAlong s' os
      decidable_of_iff (C s o ∧ m.Along C s' os) (by simp [Along, h])

theorem run_append {ops' : List ο} :
    m.run s (ops ++ ops') = some s' ↔ ∃ s₁, m.run s ops = some s₁ ∧ m.run s₁ ops' = some s' := by
  induction ops generalizing s with
  | nil => simp [run]
  | cons o ops ih =>
    rw [List.cons_append, run_cons]
    constructor
    · rintro ⟨s₁, h₁, h₂⟩
      obtain ⟨s₂, h₂, h₃⟩ := ih.mp h₂
      exact ⟨s₂, run_cons.mpr ⟨s₁, h₁, h₂⟩, h₃⟩
    · rintro ⟨s₂, h, h₃⟩
      obtain ⟨s₁, h₁, h₂⟩ := run_cons.mp h
      exact ⟨s₁, h₁, ih.mpr ⟨s₂, h₂, h₃⟩⟩

/-- The two parts of a run that meets the condition meet it. -/
theorem along_append {ops' : List ο} (hC : m.Along C s (ops ++ ops')) :
    m.Along C s ops ∧ ∀ s₁, m.run s ops = some s₁ → m.Along C s₁ ops' := by
  induction ops generalizing s with
  | nil =>
    refine ⟨trivial, fun s₁ h => ?_⟩
    obtain rfl := Option.some.inj h
    exact hC
  | cons o ops ih =>
    refine ⟨⟨hC.1, fun s₁ h₁ => (ih (hC.2 s₁ h₁)).1⟩, fun s₂ h => ?_⟩
    obtain ⟨s₁, h₁, h₂⟩ := run_cons.mp h
    exact (ih (hC.2 s₁ h₁)).2 s₂ h₂

/-- **A run keeps an invariant** that each of its steps keeps. -/
theorem run_invariant
    (hstep : ∀ s o s', Inv s → C s o → m.step s o = some s' → Inv s')
    (hs : Inv s) (hC : m.Along C s ops) (h : m.run s ops = some s') : Inv s' := by
  induction ops generalizing s with
  | nil => exact Option.some.inj h ▸ hs
  | cons o ops ih =>
    obtain ⟨s₁, h₁, h₂⟩ := run_cons.mp h
    exact ih (hstep s o s₁ hs hC.1 h₁) (hC.2 s₁ h₁) h₂

/-- **Every step of a run has what the invariant gives it.** -/
theorem along_of_invariant {Q : σ → ο → Prop}
    (hstep : ∀ s o s', Inv s → C s o → m.step s o = some s' → Inv s')
    (hQ : ∀ s o, Inv s → C s o → Q s o)
    (hs : Inv s) (hC : m.Along C s ops) : m.Along Q s ops := by
  induction ops generalizing s with
  | nil => trivial
  | cons o ops ih =>
    exact ⟨hQ s o hs hC.1, fun s₁ h₁ => ih (hstep s o s₁ hs hC.1 h₁) (hC.2 s₁ h₁)⟩

end Machine

end Portainer
