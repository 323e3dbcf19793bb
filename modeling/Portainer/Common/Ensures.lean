import Portainer.Common.Action
/-!
# Successes — what a program leaves where it succeeds

A triple for one store and for success only. From a known store the rules
run a program forwards: a read hands on what it found, a write moves to the
store it leaves, and a loop whose turns each make one change makes the fold
of these changes. Nothing is said about failures, so the calls may answer
what they like.
-/

namespace Portainer

namespace Action

variable {κ σ ε ε' α β : Type}

/-- **Where the program succeeds from the store `s`** it returns an `a` and
leaves a store `s'` with `Q a s'`. -/
def Ensures (x : Action κ σ ε α) (s : σ) (Q : α → σ → Prop) : Prop :=
  ∀ w a w', w.store = s → x.run w = (.ok a, w') → Q a w'.store

namespace Ensures

variable {s : σ} {Q : α → σ → Prop} {x : Action κ σ ε α}

theorem pure {a : α} (h : Q a s) : Ensures (Pure.pure a : Action κ σ ε α) s Q := by
  intro w b w' hw hrun
  obtain ⟨rfl, rfl⟩ := pure_run_ok.mp hrun
  exact hw ▸ h

theorem conseq {Q' : α → σ → Prop} (h : Ensures x s Q) (hQ : ∀ a s', Q a s' → Q' a s') :
    Ensures x s Q' :=
  fun w a w' hw hrun => hQ a w'.store (h w a w' hw hrun)

theorem mapError {g : ε' → ε} {x : Action κ σ ε' α} (h : Ensures x s Q) :
    Ensures (Action.mapError g x) s Q :=
  fun w a w' hw hrun => h w a w' hw (mapError_run_ok.mp hrun)

/-- **Sequencing.** -/
theorem bind {M : α → σ → Prop} {f : α → Action κ σ ε β} {Q : β → σ → Prop}
    (hx : Ensures x s M) (hf : ∀ a s', M a s' → Ensures (f a) s' Q) : Ensures (x >>= f) s Q := by
  intro w b w' hw hrun
  obtain ⟨a, w₁, h₁, h₂⟩ := bind_run_ok.mp hrun
  exact hf a w₁.store (hx w a w₁ hw h₁) w₁ b w' rfl h₂

theorem of_returns {P : α → Prop} (h : Returns x s P) : Ensures x s fun a s' => s' = s ∧ P a :=
  fun _ _ _ hw hrun => h.run_ok hw hrun

/-- A part that leaves the store as it is, and what follows it. -/
theorem read_bind {P : α → Prop} {f : α → Action κ σ ε β} {Q : β → σ → Prop} (hx : Returns x s P)
    (hf : ∀ a, P a → Ensures (f a) s Q) : Ensures (x >>= f) s Q := by
  refine (of_returns hx).bind fun a s' h => ?_
  obtain ⟨rfl, ha⟩ := h
  exact hf a ha

/-- A part that moves to one store, and what follows it. -/
theorem move_bind {s₁ : σ} {f : α → Action κ σ ε β} {Q : β → σ → Prop}
    (hx : Ensures x s fun _ s' => s' = s₁) (hf : ∀ a, Ensures (f a) s₁ Q) :
    Ensures (x >>= f) s Q :=
  hx.bind fun a _ hs => hs ▸ hf a

theorem require_bind {c : Prop} [Decidable c] {e : ε} {f : Unit → Action κ σ ε β}
    {Q : β → σ → Prop} (h : c → Ensures (f ()) s Q) : Ensures (Action.require c e >>= f) s Q := by
  intro w b w' hw hrun
  obtain ⟨hc, hrun⟩ := require_bind_run_ok.mp hrun
  exact h hc w b w' hw hrun

theorem call [DecidableEq κ] {k : κ} {g : σ → σ} :
    Ensures (Action.call k g) s fun _ s' => s' = g s := by
  rintro w u w' rfl hrun
  exact call_run_ok hrun

/-- **A loop over what is still to be done**: each turn takes the first
element off. -/
theorem forM_todo {R : List α → σ → Prop} {f : α → Action κ σ ε PUnit} {l : List α} (hs : R l s)
    (h : ∀ a l s, R (a :: l) s → Ensures (f a) s fun _ => R l) :
    Ensures (l.forM f) s fun _ => R [] := by
  induction l generalizing s with
  | nil => exact pure hs
  | cons a l ih => exact (h a l s hs).bind fun _ s' hs' => ih hs'

/-- **A loop whose turns each make one change** makes the fold of them. -/
theorem forM_foldl {g : σ → α → σ} {f : α → Action κ σ ε PUnit} {l : List α}
    (h : ∀ a ∈ l, ∀ s, Ensures (f a) s fun _ s' => s' = g s a) :
    Ensures (l.forM f) s fun _ s' => s' = l.foldl g s := by
  induction l generalizing s with
  | nil => exact pure rfl
  | cons a l ih =>
    exact (h a List.mem_cons_self s).move_bind fun _ => ih fun b hb => h b (List.mem_cons_of_mem a hb)

end Ensures

end Action

end Portainer
