import Portainer.Common.Runs
/-!
# From one store — what a program leaves, in success and in failure

A triple whose precondition is one store. A program is run forwards from
it: a read hands on what it found there, and a write moves on to the store
it makes. Both ends are spoken for, whatever the calls answer; only the
callees of `R` are taken not to fail. It is what a specification of a
handler is stated with: give a predicate that the store has, and that the
stores have which the writes of the handler make, and all runs end with it.
-/

namespace Portainer

namespace Action

variable {κ σ ε ε' α β : Type}

/-- **From the store `s` the program** succeeds with `Q`, or fails and leaves
a store with `E`. -/
def Leaves (R : κ → Prop) (x : Action κ σ ε α) (s : σ) (Q : α → σ → Prop) (E : σ → Prop) : Prop :=
  Meets R (· = s) x Q fun _ => E

namespace Leaves

variable {R : κ → Prop} {s : σ} {E : σ → Prop} {Q : α → σ → Prop} {x : Action κ σ ε α}

/-- The store that is left, where success and failure end alike. -/
theorem store (h : Leaves R x s (fun _ => E) E) {w : Sys κ σ} (hw : w.store = s)
    (hR : ∀ k, R k → w.Reliable k) : E (x.run w).2.store := by
  obtain ⟨hend, -⟩ := h w hR hw
  rcases hrun : x.run w with ⟨e | a, w'⟩ <;> rw [hrun] at hend <;> exact hend

/-- The success of the program. -/
theorem ensures (h : Leaves (fun _ => False) x s Q E) : Ensures x s Q := by
  intro w a w' hw hrun
  obtain ⟨hend, -⟩ := h w (fun _ hk => hk.elim) hw
  rwa [hrun] at hend

theorem conseq {Q' : α → σ → Prop} {E' : σ → Prop} (h : Leaves R x s Q E)
    (hQ : ∀ a s', Q a s' → Q' a s') (hE : ∀ s', E s' → E' s') : Leaves R x s Q' E' :=
  Meets.conseq h (fun _ hs => hs) hQ fun _ => hE

/-- What a program keeps it leaves. -/
theorem of_keeps {I : σ → Prop} (h : Keeps x I) (hs : I s) : Leaves R x s (fun _ => I) I :=
  (h R).conseq (fun _ hs' => hs' ▸ hs) (fun _ _ ha => ha) fun _ _ he => he

theorem pure {a : α} (h : Q a s) : Leaves R (Pure.pure a : Action κ σ ε α) s Q E :=
  Meets.pure fun _ hs => hs ▸ h

theorem fail {e : ε} (h : E s) : Leaves R (Action.fail e : Action κ σ ε α) s Q E :=
  Meets.fail fun _ hs => hs ▸ h

theorem ofExcept {r : Except ε α} (h : ∀ a, r = .ok a → Q a s) (he : E s) :
    Leaves R (Action.ofExcept r : Action κ σ ε α) s Q E := by
  cases r with
  | error e => exact fail he
  | ok a => exact pure (h a rfl)

theorem require {c : Prop} [Decidable c] {e : ε} {Q : Unit → σ → Prop} (h : c → Q () s) (he : E s) :
    Leaves R (Action.require c e : Action κ σ ε Unit) s Q E :=
  Meets.require (fun _ hs hc => hs ▸ h hc) fun _ hs _ => hs ▸ he

theorem get {g : σ → α} (h : Q (g s) s) : Leaves R (Action.get g : Action κ σ ε α) s Q E :=
  Meets.get fun _ hs => hs ▸ h

theorem mapError {g : ε' → ε} {x : Action κ σ ε' α} (h : Leaves R x s Q E) :
    Leaves R (Action.mapError g x) s Q E :=
  Meets.mapError h

/-- An error that is made a value. -/
theorem attempt {E' : σ → Prop} {Q : Except ε α → σ → Prop}
    (h : Leaves R x s (fun a => Q (.ok a)) fun s' => ∀ e, Q (.error e) s') :
    Leaves R (Action.attempt x : Action κ σ ε' (Except ε α)) s Q E' :=
  Meets.attempt (Meets.conseq h (fun _ hs => hs) (fun _ _ ha => ha) fun e _ he => he e)

/-- **Sequencing.** -/
theorem bind {M : α → σ → Prop} {f : α → Action κ σ ε β} {Q : β → σ → Prop}
    (hx : Leaves R x s M E) (hf : ∀ a s', M a s' → Leaves R (f a) s' Q E) :
    Leaves R (x >>= f) s Q E :=
  Meets.bind hx fun a w hR hw => hf a w.store hw w hR rfl

/-- A part that leaves the store as it is, and what follows it. -/
theorem read_bind {P : α → Prop} {f : α → Action κ σ ε β} {Q : β → σ → Prop}
    (hx : Leaves R x s (fun a s' => s' = s ∧ P a) E) (hf : ∀ a, P a → Leaves R (f a) s Q E) :
    Leaves R (x >>= f) s Q E := by
  refine hx.bind fun a s' h => ?_
  obtain ⟨rfl, ha⟩ := h
  exact hf a ha

theorem require_bind {c : Prop} [Decidable c] {e : ε} {f : Unit → Action κ σ ε β}
    {Q : β → σ → Prop} (he : E s) (h : c → Leaves R (f ()) s Q E) :
    Leaves R (Action.require c e >>= f) s Q E :=
  (require (Q := fun _ s' => s' = s ∧ c) (fun hc => ⟨rfl, hc⟩) he).read_bind fun _ hc => h hc

theorem ite {c : Prop} [Decidable c] {y : Action κ σ ε α} (hx : c → Leaves R x s Q E)
    (hy : ¬ c → Leaves R y s Q E) : Leaves R (if c then x else y) s Q E := by
  split
  · rename_i h; exact hx h
  · rename_i h; exact hy h

/-- A program on a part of the store. -/
theorem zoom {τ : Type} {part : τ → σ} {withPart : τ → σ → τ} {t : τ}
    (h : Leaves R x (part t) Q E) : Leaves R (Action.zoom part withPart x) t
      (fun a t' => ∃ s', t' = withPart t s' ∧ Q a s') fun t' => ∃ s', t' = withPart t s' ∧ E s' := by
  rintro w hR rfl
  obtain ⟨hend, hrel⟩ := h ⟨part w.store, w.faults⟩ hR rfl
  rw [zoom_run]
  rcases hx : x.run ⟨part w.store, w.faults⟩ with ⟨e | a, w'⟩ <;> rw [hx] at hend hrel
  · exact ⟨⟨w'.store, rfl, hend⟩, hrel⟩
  · exact ⟨⟨w'.store, rfl, hend⟩, hrel⟩

section Calls

variable [DecidableEq κ] {k : κ} {E : σ → Prop}

theorem query {g : σ → α} (h : Q (g s) s) (he : E s) : Leaves R (Action.query k g) s Q E :=
  Meets.query (fun _ hs => hs ▸ h) fun _ _ _ hs => hs ▸ he

/-- A lookup fails where the call fails, or nothing is found. -/
theorem lookup_of {missing : String} {g : σ → Option α} (h : ∀ a, g s = some a → Q a s)
    (he : ¬ R k ∨ g s = none → E s) : Leaves R (Action.lookup k missing g) s Q E :=
  Meets.lookup (fun _ a hs ha => by subst hs; exact h a ha) (fun _ hs hnone => by subst hs; exact he (.inr hnone))
    fun hk _ _ hs => hs ▸ he (.inl hk)

theorem lookup {missing : String} {g : σ → Option α} (h : ∀ a, g s = some a → Q a s) (he : E s) :
    Leaves R (Action.lookup k missing g) s Q E :=
  lookup_of h fun _ => he

/-- A call that may not fail at all. -/
theorem call_of {g : σ → σ} {Q : Unit → σ → Prop} (h : Q () (g s)) (he : ¬ R k → E s) :
    Leaves R (Action.call k g) s Q E :=
  Meets.call (fun _ hs => hs ▸ h) fun hk _ _ hs => hs ▸ he hk

theorem call {g : σ → σ} {Q : Unit → σ → Prop} (h : Q () (g s)) (he : E s) :
    Leaves R (Action.call k g) s Q E :=
  call_of h fun _ => he

/-- A call whose failure is ignored, and which may not fail at all. -/
theorem attempt_call {g : σ → σ} {Q : Except String Unit → σ → Prop} {E : σ → Prop}
    (h : Q (.ok ()) (g s)) (he : ¬ R k → ∀ text, Q (.error text) s) :
    Leaves R (Action.attempt (Action.call k g) : Action κ σ ε (Except String Unit)) s Q E :=
  Meets.attempt (Meets.call (fun _ hs => hs ▸ h) fun hk _ text hs => hs ▸ he hk text)

/-- A read, and what follows it. -/
theorem query_bind {g : σ → α} {e : String → ε} {f : α → Action κ σ ε β} {Q : β → σ → Prop} (he : E s)
    (h : Leaves R (f (g s)) s Q E) : Leaves R ((Action.query k g).mapError e >>= f) s Q E :=
  (mapError (query (Q := fun a s' => s' = s ∧ a = g s) ⟨rfl, rfl⟩ he)).read_bind fun _ ha => ha ▸ h

/-- A lookup, and what follows it where something is found. -/
theorem lookup_bind {missing : String} {g : σ → Option α} {e : String → ε} {f : α → Action κ σ ε β}
    {Q : β → σ → Prop} (he : E s) (h : ∀ a, g s = some a → Leaves R (f a) s Q E) :
    Leaves R ((Action.lookup k missing g).mapError e >>= f) s Q E :=
  (mapError (lookup (Q := fun a s' => s' = s ∧ g s = some a) (fun _ ha => ⟨rfl, ha⟩) he)).read_bind h

/-- A write, and what follows it. -/
theorem call_bind {g : σ → σ} {e : String → ε} {f : Unit → Action κ σ ε β} {Q : β → σ → Prop} (he : E s)
    (h : Leaves R (f ()) (g s) Q E) : Leaves R ((Action.call k g).mapError e >>= f) s Q E :=
  (mapError (call (Q := fun _ s' => s' = g s) rfl he)).bind fun _ _ hs => hs ▸ h

end Calls

/-- **A loop over what is still to be done**: each turn takes the first
element off. -/
theorem forM_todo {T : List α → σ → Prop} {f : α → Action κ σ ε PUnit} {l : List α} (hs : T l s)
    (h : ∀ a l s, T (a :: l) s → Leaves R (f a) s (fun _ => T l) E) :
    Leaves R (l.forM f) s (fun _ => T []) E := by
  induction l generalizing s with
  | nil => exact pure hs
  | cons a l ih => exact (h a l s hs).bind fun _ s' hs' => ih hs'

end Leaves

end Action

end Portainer
