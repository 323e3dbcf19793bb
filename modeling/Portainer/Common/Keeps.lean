import Portainer.Common.Ensures
/-!
# Invariants — what a program keeps, however it ends

A program keeps an invariant of the store if it ends with it, in success or
in failure, whatever its calls answer. Its reads keep every invariant, so
all there is to show is that its writes do. A program that leaves a part of
the store as it is keeps whatever depends on that part alone.
-/

namespace Portainer

namespace Action

variable {κ σ τ ε ε' α β : Type} {I : σ → Prop}

/-- **The program keeps the invariant**, whether it succeeds or fails, and
makes no call fail that would not. -/
def Keeps (x : Action κ σ ε α) (I : σ → Prop) : Prop :=
  ∀ R : κ → Prop, Meets R I x (fun _ => I) fun _ => I

/-- The store a run leaves, where success and failure end with the same. -/
theorem Meets.store {x : Action κ σ ε α} {P : σ → Prop}
    (h : Meets (fun _ => False) P x (fun _ => I) fun _ => I) {w : Sys κ σ} (hw : P w.store) :
    I (x.run w).2.store := by
  have hend := h.ends (w := w) (fun _ hk => hk.elim) hw
  rcases hrun : x.run w with ⟨e | a, w'⟩ <;> rw [hrun] at hend <;> exact hend

namespace Keeps

variable {x : Action κ σ ε α}

theorem store (h : Keeps x I) {w : Sys κ σ} (hw : I w.store) : I (x.run w).2.store :=
  Meets.store (h _) hw

/-- The same for what follows a part that ends with the invariant. -/
theorem store_bind {f : α → Action κ σ ε β} {w : Sys κ σ} (hx : I (x.run w).2.store)
    (hf : ∀ a, Keeps (f a) I) : I ((x >>= f).run w).2.store := by
  rw [bind_run]
  rcases hrun : x.run w with ⟨e | a, w'⟩ <;> rw [hrun] at hx
  · exact hx
  · exact (hf a).store hx

theorem pure {a : α} : Keeps (Pure.pure a : Action κ σ ε α) I := fun _ => .pure fun _ hs => hs

theorem fail {e : ε} : Keeps (Action.fail e : Action κ σ ε α) I := fun _ => .fail fun _ hs => hs

theorem ofExcept {r : Except ε α} : Keeps (Action.ofExcept r : Action κ σ ε α) I := by
  cases r
  · exact fail
  · exact pure

theorem require {c : Prop} [Decidable c] {e : ε} : Keeps (Action.require c e : Action κ σ ε Unit) I :=
  fun _ => .require (fun _ hs _ => hs) fun _ hs _ => hs

theorem get {g : σ → α} : Keeps (Action.get g : Action κ σ ε α) I := fun _ => .get fun _ hs => hs

theorem bind {f : α → Action κ σ ε β} (hx : Keeps x I) (hf : ∀ a, Keeps (f a) I) :
    Keeps (x >>= f) I :=
  fun R => .bind (hx R) fun a => hf a R

/-- The same, where what follows relies on what is returned. -/
theorem bind_of {Q : α → Prop} {f : α → Action κ σ ε β}
    (hx : ∀ R, Meets R I x (fun a s => I s ∧ Q a) fun _ => I)
    (hf : ∀ a, Q a → Keeps (f a) I) : Keeps (x >>= f) I :=
  fun R => .bind (hx R) fun a w hR hw => hf a hw.2 R w hR hw.1

theorem mapError {g : ε' → ε} {x : Action κ σ ε' α} (h : Keeps x I) : Keeps (Action.mapError g x) I :=
  fun R => .mapError (h R)

theorem attempt (h : Keeps x I) : Keeps (Action.attempt x : Action κ σ ε' (Except ε α)) I :=
  fun R => .attempt (h R)

theorem ite {c : Prop} [Decidable c] {y : Action κ σ ε α} (hx : c → Keeps x I)
    (hy : ¬ c → Keeps y I) : Keeps (if c then x else y) I := by
  split
  · rename_i h; exact hx h
  · rename_i h; exact hy h

theorem forM {f : α → Action κ σ ε PUnit} {l : List α} (h : ∀ a ∈ l, Keeps (f a) I) :
    Keeps (l.forM f) I :=
  fun R => .forM fun a ha => h a ha R

theorem query [DecidableEq κ] {k : κ} {g : σ → α} : Keeps (Action.query k g) I :=
  fun _ => .query (fun _ hs => hs) fun _ _ _ hs => hs

theorem lookup [DecidableEq κ] {k : κ} {missing : String} {g : σ → Option α} :
    Keeps (Action.lookup k missing g) I :=
  fun _ => .lookup (fun _ _ hs _ => hs) (fun _ hs _ => hs) fun _ _ _ hs => hs

/-- A lookup returns what it finds. -/
theorem lookup_of [DecidableEq κ] {k : κ} {missing : String} {g : σ → Option α} {Q : α → Prop}
    (h : ∀ s a, I s → g s = some a → Q a) (R : κ → Prop) :
    Meets R I (Action.lookup k missing g) (fun a s => I s ∧ Q a) fun _ => I :=
  .lookup (fun s a hs ha => ⟨hs, h s a hs ha⟩) (fun _ hs _ => hs) fun _ _ _ hs => hs

theorem query_of [DecidableEq κ] {k : κ} {g : σ → α} {Q : α → Prop} (h : ∀ s, I s → Q (g s))
    (R : κ → Prop) : Meets R I (Action.query k g) (fun a s => I s ∧ Q a) fun _ => I :=
  .query (fun s hs => ⟨hs, h s hs⟩) fun _ _ _ hs => hs

theorem call [DecidableEq κ] {k : κ} {g : σ → σ} (h : ∀ s, I s → I (g s)) : Keeps (Action.call k g) I :=
  fun _ => .call h fun _ _ _ hs => hs

/-- What follows from a relation between the store before and after. -/
theorem of_relation {L : σ → σ → Prop} (h : ∀ s, Keeps x (L s)) (hrefl : ∀ s, L s s)
    (hI : ∀ s s', I s → L s s' → I s') : Keeps x I := by
  intro R w hR hw
  obtain ⟨hend, hrel⟩ := h w.store R w hR (hrefl _)
  refine ⟨?_, hrel⟩
  rcases hrun : x.run w with ⟨e | a, w'⟩ <;> rw [hrun] at hend <;> exact hI _ _ hw hend

/-- The same from a known store, with what success ensures. -/
theorem ensuring {Q : α → σ → Prop} {s : σ} (h : Keeps x I) (hs : I s) (hQ : Ensures x s Q)
    (R : κ → Prop) : Meets R (· = s) x (fun a s' => I s' ∧ Q a s') fun _ => I := by
  intro w hR hw
  obtain ⟨hend, hrel⟩ := h R w hR (show I w.store from hw ▸ hs)
  refine ⟨?_, hrel⟩
  rcases hrun : x.run w with ⟨e | a, w'⟩ <;> rw [hrun] at hend
  · exact hend
  · exact ⟨hend, hQ w a w' hw hrun⟩

/-- What is returned has `Q`, whatever the store. -/
theorem returning {Q : α → Prop} (h : Keeps x I) (hQ : ∀ s, Ensures x s fun a _ => Q a) (R : κ → Prop) :
    Meets R I x (fun a s => I s ∧ Q a) fun _ => I := by
  intro w hR hw
  obtain ⟨hend, hrel⟩ := h R w hR hw
  refine ⟨?_, hrel⟩
  rcases hrun : x.run w with ⟨e | a, w'⟩ <;> rw [hrun] at hend
  · exact hend
  · exact ⟨hend, hQ w.store w a w' rfl hrun⟩

/-- A program on a part of the store. -/
theorem zoom {part : τ → σ} {withPart : τ → σ → τ} {J : τ → Prop} (h : Keeps x I)
    (hpart : ∀ t, J t → I (part t)) (hwith : ∀ t s, J t → I s → J (withPart t s)) :
    Keeps (Action.zoom part withPart x) J := by
  intro R w hR hw
  obtain ⟨hend, hrel⟩ := h R ⟨part w.store, w.faults⟩ hR (hpart _ hw)
  rw [zoom_run]
  rcases hx : x.run ⟨part w.store, w.faults⟩ with ⟨e | a, w'⟩ <;> rw [hx] at hend hrel
  · exact ⟨hwith _ _ hw hend, hrel⟩
  · exact ⟨hwith _ _ hw hend, hrel⟩

end Keeps

/-- **The program leaves a part of the store as it is.** -/
def Frames (x : Action κ σ ε α) (part : σ → τ) : Prop := ∀ c, Keeps x fun s => part s = c

namespace Frames

variable {x : Action κ σ ε α} {part : σ → τ}

theorem run (h : Frames x part) (w : Sys κ σ) : part (x.run w).2.store = part w.store :=
  (h (part w.store)).store rfl

theorem ensures (h : Frames x part) (s : σ) : Ensures x s fun _ s' => part s' = part s := by
  intro w a w' hw hrun
  have hkept := h.run w
  rw [hrun, hw] at hkept
  exact hkept

/-- What depends on that part alone is kept. -/
theorem keeps (h : Frames x part) (hI : ∀ s s', part s = part s' → I s → I s') : Keeps x I := by
  intro R w hR hw
  obtain ⟨hend, hrel⟩ := h (part w.store) R w hR rfl
  refine ⟨?_, hrel⟩
  rcases hrun : x.run w with ⟨e | a, w'⟩ <;> rw [hrun] at hend <;> exact hI w.store _ hend.symm hw

/-- A part of what is left as it is. -/
theorem mono {ρ : Type} {part' : σ → ρ} (h : Frames x part) (f : τ → ρ)
    (hf : ∀ s, part' s = f (part s)) : Frames x part' := by
  refine fun c => h.keeps fun s s' hs hc => ?_
  rw [← hc, hf, hf, hs]

end Frames

end Action

end Portainer
