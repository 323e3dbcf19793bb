import Portainer.Common.Keeps
/-!
# Runs — one triple for success, and for failure where no call fails

From a known store a program is run forwards, as by `Ensures`. What it
leaves where it fails is stated for the runs in which no call fails: then
it fails only at its own conditions and at lookups that find nothing. With
`calm` false the triple is about success alone, so one proof serves both
for the runs that may fail and for those that succeed.
-/

namespace Portainer

namespace Action

variable {κ σ ε ε' α β : Type}

/-- **From the store `s` the program** succeeds with `Q`, or it fails and, if
no call can fail, leaves a store with `E`. -/
def Runs (calm : Prop) (x : Action κ σ ε α) (s : σ) (Q : α → σ → Prop) (E : σ → Prop) : Prop :=
  Meets (fun _ => calm) (· = s) x Q fun _ s' => calm → E s'

namespace Runs

variable {calm : Prop} {s : σ} {E : σ → Prop} {Q : α → σ → Prop} {x : Action κ σ ε α}

/-- Where no call can fail, the store that is left. -/
theorem store (h : Runs True x s (fun _ => E) E) {w : Sys κ σ} (hw : w.store = s)
    (hcalm : ∀ k, w.Reliable k) : E (x.run w).2.store := by
  obtain ⟨hend, -⟩ := h w (fun k _ => hcalm k) hw
  rcases hrun : x.run w with ⟨e | a, w'⟩ <;> rw [hrun] at hend
  · exact hend trivial
  · exact hend

/-- The success of the program. -/
theorem ensures (h : Runs False x s Q E) : Ensures x s Q := by
  intro w a w' hw hrun
  obtain ⟨hend, -⟩ := h w (fun _ hk => hk.elim) hw
  rwa [hrun] at hend

theorem of_keeps {I : σ → Prop} (h : Keeps x I) (hs : I s) : Runs calm x s (fun _ => I) I :=
  (h _).conseq (fun _ hs' => hs' ▸ hs) (fun _ _ ha => ha) fun _ _ he _ => he

/-- The same, with what is returned. -/
theorem of_keeps_returning {I : σ → Prop} {P : α → Prop}
    (h : ∀ R : κ → Prop, Meets R I x (fun a s => I s ∧ P a) fun _ => I) (hs : I s) :
    Runs calm x s (fun a s' => I s' ∧ P a) I :=
  (h _).conseq (fun _ hs' => hs' ▸ hs) (fun _ _ ha => ha) fun _ _ he _ => he

theorem conseq {Q' : α → σ → Prop} {E' : σ → Prop} (h : Runs calm x s Q E)
    (hQ : ∀ a s', Q a s' → Q' a s') (hE : calm → ∀ s', E s' → E' s') : Runs calm x s Q' E' :=
  Meets.conseq h (fun _ hs => hs) hQ fun _ s' he hc => hE hc s' (he hc)

theorem pure {a : α} (h : Q a s) : Runs calm (Pure.pure a : Action κ σ ε α) s Q E :=
  Meets.pure fun _ hs => hs ▸ h

theorem fail {e : ε} (h : calm → E s) : Runs calm (Action.fail e : Action κ σ ε α) s Q E :=
  Meets.fail fun _ hs => hs ▸ h

theorem ofExcept {r : Except ε α} (h : ∀ a, r = .ok a → Q a s) (he : ∀ e, r = .error e → calm → E s) :
    Runs calm (Action.ofExcept r : Action κ σ ε α) s Q E := by
  cases r with
  | error e => exact fail (he e rfl)
  | ok a => exact pure (h a rfl)

theorem require {c : Prop} [Decidable c] {e : ε} {Q : Unit → σ → Prop} (h : c → Q () s)
    (he : ¬ c → calm → E s) : Runs calm (Action.require c e : Action κ σ ε Unit) s Q E :=
  Meets.require (fun _ hs hc => hs ▸ h hc) fun _ hs hc => hs ▸ he hc

theorem get {g : σ → α} (h : Q (g s) s) : Runs calm (Action.get g : Action κ σ ε α) s Q E :=
  Meets.get fun _ hs => hs ▸ h

/-- **Sequencing.** -/
theorem bind {M : α → σ → Prop} {f : α → Action κ σ ε β} {Q : β → σ → Prop}
    (hx : Runs calm x s M E) (hf : ∀ a s', M a s' → Runs calm (f a) s' Q E) :
    Runs calm (x >>= f) s Q E :=
  Meets.bind hx fun a w hR hw => hf a w.store hw w hR rfl

/-- A part that leaves the store as it is, and what follows it. -/
theorem read_bind {P : α → Prop} {f : α → Action κ σ ε β} {Q : β → σ → Prop}
    (hx : Runs calm x s (fun a s' => s' = s ∧ P a) E) (hf : ∀ a, P a → Runs calm (f a) s Q E) :
    Runs calm (x >>= f) s Q E := by
  refine hx.bind fun a s' h => ?_
  obtain ⟨rfl, ha⟩ := h
  exact hf a ha

/-- A part that moves to one store, and what follows it. -/
theorem move_bind {s₁ : σ} {f : α → Action κ σ ε β} {Q : β → σ → Prop}
    (hx : Runs calm x s (fun _ s' => s' = s₁) E) (hf : ∀ a, Runs calm (f a) s₁ Q E) :
    Runs calm (x >>= f) s Q E :=
  hx.bind fun a _ hs => hs ▸ hf a

theorem require_bind {c : Prop} [Decidable c] {e : ε} {f : Unit → Action κ σ ε β}
    {Q : β → σ → Prop} (he : ¬ c → calm → E s) (h : c → Runs calm (f ()) s Q E) :
    Runs calm (Action.require c e >>= f) s Q E :=
  (require (Q := fun _ s' => s' = s ∧ c) (fun hc => ⟨rfl, hc⟩) he).read_bind fun _ hc => h hc

theorem mapError {g : ε' → ε} {x : Action κ σ ε' α} (h : Runs calm x s Q E) :
    Runs calm (Action.mapError g x) s Q E :=
  Meets.mapError h

/-- A program on a part of the store. -/
theorem zoom {τ : Type} {part : τ → σ} {withPart : τ → σ → τ} {t : τ} {Q : α → τ → Prop} {E : τ → Prop}
    (h : Runs calm x (part t) (fun a s' => Q a (withPart t s')) fun s' => E (withPart t s')) :
    Runs calm (Action.zoom part withPart x) t Q E := by
  intro w hR hw
  obtain ⟨hend, hrel⟩ := h ⟨part w.store, w.faults⟩ hR (by rw [hw])
  rw [zoom_run]
  rcases hx : x.run ⟨part w.store, w.faults⟩ with ⟨e | a, w'⟩ <;> rw [hx] at hend hrel
  · exact ⟨fun hc => hw ▸ hend hc, hrel⟩
  · exact ⟨hw ▸ hend, hrel⟩

section Calls

variable [DecidableEq κ] {k : κ} {E : σ → Prop}

theorem query {g : σ → α} (h : Q (g s) s) : Runs calm (Action.query k g) s Q E :=
  Meets.query (fun _ hs => hs ▸ h) fun hk _ _ _ hc => absurd hc hk

theorem lookup {missing : String} {g : σ → Option α} (h : ∀ a, g s = some a → Q a s)
    (he : g s = none → calm → E s) : Runs calm (Action.lookup k missing g) s Q E :=
  Meets.lookup (fun _ a hs ha => by subst hs; exact h a ha) (fun _ hs hn => by subst hs; exact he hn)
    fun hk _ _ _ hc => absurd hc hk

theorem call {g : σ → σ} {Q : Unit → σ → Prop} (h : Q () (g s)) : Runs calm (Action.call k g) s Q E :=
  Meets.call (fun _ hs => hs ▸ h) fun hk _ _ _ hc => absurd hc hk

/-- A call whose failure is ignored. -/
theorem attempt_call {g : σ → σ} {Q : Except String Unit → σ → Prop} (h : Q (.ok ()) (g s))
    (he : ¬ calm → ∀ text, Q (.error text) s) :
    Runs calm (Action.attempt (Action.call k g) : Action κ σ ε (Except String Unit)) s Q E :=
  Meets.attempt (Meets.call (fun _ hs => hs ▸ h) fun hk s' text hs => hs ▸ he hk text)

end Calls

/-- **A loop over what is still to be done**: each turn takes the first
element off. -/
theorem forM_todo {R : List α → σ → Prop} {f : α → Action κ σ ε PUnit} {l : List α} (hs : R l s)
    (h : ∀ a l s, R (a :: l) s → Runs calm (f a) s (fun _ => R l) E) :
    Runs calm (l.forM f) s (fun _ => R []) E := by
  induction l generalizing s with
  | nil => exact pure hs
  | cons a l ih => exact (h a l s hs).bind fun _ s' hs' => ih hs'

/-- **A loop keeps an invariant** that each turn keeps. -/
theorem forM_invariant {I : σ → Prop} {f : α → Action κ σ ε PUnit} {l : List α} (hs : I s)
    (h : ∀ a ∈ l, ∀ s, I s → Runs calm (f a) s (fun _ => I) E) :
    Runs calm (l.forM f) s (fun _ => I) E := by
  induction l generalizing s with
  | nil => exact pure hs
  | cons a l ih =>
    refine (h a List.mem_cons_self s hs).bind fun _ s' hs' => ?_
    exact ih hs' fun b hb => h b (List.mem_cons_of_mem a hb)

/-- **A loop whose turns each make one change** makes the fold of them. What
the turns need to hold of the store is an invariant of the changes. -/
theorem forM_foldl {I : σ → Prop} {g : σ → α → σ} {f : α → Action κ σ ε PUnit} {l : List α}
    (hs : I s) (hI : ∀ a s, I s → I (g s a))
    (h : ∀ a ∈ l, ∀ s, I s → Runs calm (f a) s (fun _ s' => s' = g s a) E) :
    Runs calm (l.forM f) s (fun _ s' => s' = l.foldl g s) E := by
  induction l generalizing s with
  | nil => exact pure rfl
  | cons a l ih =>
    refine (h a List.mem_cons_self s hs).move_bind fun _ => ?_
    exact ih (hI a s hs) fun b hb => h b (List.mem_cons_of_mem a hb)

end Runs

end Action

end Portainer
