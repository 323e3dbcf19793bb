import Portainer.Common.Action
/-!
# Runs that are alike — programs that do not see a difference

Two stores that are related, for instance that differ in one place only.
A program respects the relation if on related stores, with the same
outcomes of its calls, it returns the same and leaves related stores. What
is not looked at then makes no difference to a run. `Relates` is the same
for a relation that changes on the way: a difference may go away.

The outcomes of the calls are spent alike as well. A program that makes no
call to a callee is `Untouched` by its outcomes.
-/

namespace Portainer

namespace Action

variable {κ σ τ ε ε' α β : Type}

/-- **The program does not see the difference**: from related stores it ends
the same way, with related stores. -/
def Respects (R : σ → σ → Prop) (x : Action κ σ ε α) : Prop :=
  ∀ s s' faults, R s s' → ∃ r t t' faults', x.run ⟨s, faults⟩ = (r, ⟨t, faults'⟩) ∧
    x.run ⟨s', faults⟩ = (r, ⟨t', faults'⟩) ∧ R t t'

namespace Respects

variable {R : σ → σ → Prop} {x : Action κ σ ε α}

theorem pure {a : α} : Respects R (Pure.pure a : Action κ σ ε α) :=
  fun _ _ _ h => ⟨_, _, _, _, rfl, rfl, h⟩

theorem fail {e : ε} : Respects R (Action.fail e : Action κ σ ε α) :=
  fun _ _ _ h => ⟨_, _, _, _, rfl, rfl, h⟩

theorem ofExcept {r : Except ε α} : Respects R (Action.ofExcept r : Action κ σ ε α) := by
  cases r
  · exact fail
  · exact pure

theorem require {c : Prop} [Decidable c] {e : ε} :
    Respects R (Action.require c e : Action κ σ ε Unit) := by
  unfold Action.require
  split
  · exact pure
  · exact fail

theorem bind {f : α → Action κ σ ε β} (hx : Respects R x) (hf : ∀ a, Respects R (f a)) :
    Respects R (x >>= f) := by
  intro s s' faults h
  obtain ⟨r, t, t', faults', hrun, hrun', ht⟩ := hx s s' faults h
  cases r with
  | error e => exact ⟨_, _, _, _, bind_run_of_error hrun, bind_run_of_error hrun', ht⟩
  | ok a =>
    obtain ⟨r, u, u', faults'', hrun₁, hrun₁', hu⟩ := hf a t t' faults' ht
    exact ⟨r, u, u', faults'', (bind_run_of_ok hrun).trans hrun₁,
      (bind_run_of_ok hrun').trans hrun₁', hu⟩

theorem ite {c : Prop} [Decidable c] {y : Action κ σ ε α} (hx : Respects R x)
    (hy : Respects R y) : Respects R (if c then x else y) := by
  split
  · exact hx
  · exact hy

theorem modify {g : σ → σ} (hg : ∀ s s', R s s' → R (g s) (g s')) :
    Respects R (Action.modify g : Action κ σ ε Unit) :=
  fun s s' _ h => ⟨_, _, _, _, rfl, rfl, hg s s' h⟩

theorem mapError {g : ε' → ε} {x : Action κ σ ε' α} (hx : Respects R x) :
    Respects R (Action.mapError g x) := by
  intro s s' faults h
  obtain ⟨r, t, t', faults', hrun, hrun', ht⟩ := hx s s' faults h
  cases r with
  | error e => exact ⟨_, _, _, _, mapError_run_of_error hrun, mapError_run_of_error hrun', ht⟩
  | ok a => exact ⟨_, _, _, _, mapError_run_ok.mpr hrun, mapError_run_ok.mpr hrun', ht⟩

theorem attempt (hx : Respects R x) :
    Respects R (Action.attempt x : Action κ σ ε' (Except ε α)) := by
  intro s s' faults h
  obtain ⟨r, t, t', faults', hrun, hrun', ht⟩ := hx s s' faults h
  refine ⟨.ok r, t, t', faults', ?_, ?_, ht⟩
  · rw [attempt_run, hrun]
  · rw [attempt_run, hrun']

theorem forM {f : α → Action κ σ ε PUnit} {l : List α} (h : ∀ a ∈ l, Respects R (f a)) :
    Respects R (l.forM f) := by
  induction l with
  | nil => exact pure
  | cons a l ih =>
    exact bind (h a List.mem_cons_self) fun _ => ih fun b hb => h b (List.mem_cons_of_mem a hb)

/-- A program on a part in which related stores are equal. -/
theorem zoom {S : τ → τ → Prop} {part : τ → σ} {withPart : τ → σ → τ} {y : Action κ σ ε α}
    (hpart : ∀ t t', S t t' → part t = part t')
    (hwith : ∀ t t' s, S t t' → S (withPart t s) (withPart t' s)) :
    Respects S (Action.zoom part withPart y) := by
  intro t t' faults h
  have hrun : ∀ u, part u = part t → (Action.zoom part withPart y).run ⟨u, faults⟩ =
      ((y.run ⟨part t, faults⟩).1, ⟨withPart u (y.run ⟨part t, faults⟩).2.store,
        (y.run ⟨part t, faults⟩).2.faults⟩) := by
    intro u hu
    rw [zoom_run]
    dsimp only
    rw [hu]
  exact ⟨_, _, _, _, hrun t rfl, hrun t' (hpart t t' h).symm, hwith t t' _ h⟩

section Calls

variable [DecidableEq κ] {k : κ}

theorem query {g : σ → α} (hg : ∀ s s', R s s' → g s = g s') : Respects R (Action.query k g) := by
  intro s s' faults h
  rw [query_run, query_run]
  have hfault : Sys.fault ⟨s', faults⟩ k = Sys.fault ⟨s, faults⟩ k := rfl
  rw [hfault]
  cases Sys.fault ⟨s, faults⟩ k with
  | none => exact ⟨_, _, _, _, rfl, by rw [← hg s s' h]; rfl, h⟩
  | some text => exact ⟨_, _, _, _, rfl, rfl, h⟩

theorem lookup {missing : String} {g : σ → Option α} (hg : ∀ s s', R s s' → g s = g s') :
    Respects R (Action.lookup k missing g) := by
  refine bind (query hg) fun found => ?_
  cases found
  · exact fail
  · exact pure

theorem call {g : σ → σ} (hg : ∀ s s', R s s' → R (g s) (g s')) : Respects R (Action.call k g) := by
  intro s s' faults h
  rw [call_run, call_run]
  have hfault : Sys.fault ⟨s', faults⟩ k = Sys.fault ⟨s, faults⟩ k := rfl
  rw [hfault]
  cases Sys.fault ⟨s, faults⟩ k with
  | none => exact ⟨_, _, _, _, rfl, rfl, hg s s' h⟩
  | some text => exact ⟨_, _, _, _, rfl, rfl, h⟩

end Calls

theorem onError {undo : Action κ σ ε Unit} (hx : Respects R x) (hundo : Respects R undo) :
    Respects R (Action.onError undo x) := by
  refine bind (attempt hx) fun r => ?_
  cases r with
  | error e => exact bind hundo fun _ => fail
  | ok a => exact pure

theorem defer {last : Action κ σ ε Unit} (hx : Respects R x) (hlast : Respects R last) :
    Respects R (Action.defer last x) :=
  bind (attempt hx) fun _ => bind hlast fun _ => ofExcept

end Respects

/-! ## Differences that go away -/

/-- **From stores related by `R`** the program ends the same way, with stores
related by `Q` where it succeeds and by `E` where it fails. -/
def Relates (R : σ → σ → Prop) (x : Action κ σ ε α) (Q E : σ → σ → Prop) : Prop :=
  ∀ s s' faults, R s s' → ∃ r t t' faults', x.run ⟨s, faults⟩ = (r, ⟨t, faults'⟩) ∧
    x.run ⟨s', faults⟩ = (r, ⟨t', faults'⟩) ∧ match r with
      | .ok _ => Q t t'
      | .error _ => E t t'

namespace Relates

variable {R Q E : σ → σ → Prop} {x : Action κ σ ε α}

theorem of_respects (hx : Respects R x) (hQ : ∀ s s', R s s' → Q s s')
    (hE : ∀ s s', R s s' → E s s') : Relates R x Q E := by
  intro s s' faults h
  obtain ⟨r, t, t', faults', hrun, hrun', ht⟩ := hx s s' faults h
  refine ⟨r, t, t', faults', hrun, hrun', ?_⟩
  cases r with
  | error e => exact hE t t' ht
  | ok a => exact hQ t t' ht

theorem conseq {Q' : σ → σ → Prop} (h : Relates R x Q E) (hQ : ∀ s s', Q s s' → Q' s s') :
    Relates R x Q' E := by
  intro s s' faults hR
  obtain ⟨r, t, t', faults', hrun, hrun', ht⟩ := h s s' faults hR
  refine ⟨r, t, t', faults', hrun, hrun', ?_⟩
  cases r with
  | error e => exact ht
  | ok a => exact hQ t t' ht

theorem bind {M : σ → σ → Prop} {f : α → Action κ σ ε β} (hx : Relates R x M E)
    (hf : ∀ a, Relates M (f a) Q E) : Relates R (x >>= f) Q E := by
  intro s s' faults h
  obtain ⟨r, t, t', faults', hrun, hrun', ht⟩ := hx s s' faults h
  cases r with
  | error e => exact ⟨_, _, _, _, bind_run_of_error hrun, bind_run_of_error hrun', ht⟩
  | ok a =>
    obtain ⟨r, u, u', faults'', hrun₁, hrun₁', hu⟩ := hf a t t' faults' ht
    exact ⟨r, u, u', faults'', (bind_run_of_ok hrun).trans hrun₁,
      (bind_run_of_ok hrun').trans hrun₁', hu⟩

theorem mapError {g : ε' → ε} {x : Action κ σ ε' α} (hx : Relates R x Q E) :
    Relates R (Action.mapError g x) Q E := by
  intro s s' faults h
  obtain ⟨r, t, t', faults', hrun, hrun', ht⟩ := hx s s' faults h
  cases r with
  | error e => exact ⟨_, _, _, _, mapError_run_of_error hrun, mapError_run_of_error hrun', ht⟩
  | ok a => exact ⟨_, _, _, _, mapError_run_ok.mpr hrun, mapError_run_ok.mpr hrun', ht⟩

theorem pure {a : α} (hQ : ∀ s s', R s s' → Q s s') :
    Relates R (Pure.pure a : Action κ σ ε α) Q E :=
  fun s s' _ h => ⟨_, _, _, _, rfl, rfl, hQ s s' h⟩

theorem call [DecidableEq κ] {k : κ} {E : σ → σ → Prop} {g : σ → σ}
    (hg : ∀ s s', R s s' → Q (g s) (g s')) (hE : ∀ s s', R s s' → E s s') :
    Relates R (Action.call k g) Q E := by
  intro s s' faults h
  rw [call_run, call_run]
  have hfault : Sys.fault ⟨s', faults⟩ k = Sys.fault ⟨s, faults⟩ k := rfl
  rw [hfault]
  cases Sys.fault ⟨s, faults⟩ k with
  | none => exact ⟨_, _, _, _, rfl, rfl, hg s s' h⟩
  | some text => exact ⟨_, _, _, _, rfl, rfl, hE s s' h⟩

end Relates

/-! ## Outcomes that are not used -/

/-- **The program makes no call to the callee.** -/
def Untouched (k : κ) (x : Action κ σ ε α) : Prop := ∀ w, (x.run w).2.faults k = w.faults k

namespace Untouched

variable {k : κ} {x : Action κ σ ε α}

theorem pure {a : α} : Untouched k (Pure.pure a : Action κ σ ε α) := fun _ => rfl

theorem fail {e : ε} : Untouched k (Action.fail e : Action κ σ ε α) := fun _ => rfl

theorem ofExcept {r : Except ε α} : Untouched k (Action.ofExcept r : Action κ σ ε α) := by
  cases r
  · exact fail
  · exact pure

theorem require {c : Prop} [Decidable c] {e : ε} :
    Untouched k (Action.require c e : Action κ σ ε Unit) := by
  unfold Action.require
  split
  · exact pure
  · exact fail

theorem bind {f : α → Action κ σ ε β} (hx : Untouched k x) (hf : ∀ a, Untouched k (f a)) :
    Untouched k (x >>= f) := by
  intro w
  have hfirst := hx w
  rw [bind_run]
  rcases hrun : x.run w with ⟨e | a, w'⟩ <;> rw [hrun] at hfirst
  · exact hfirst
  · exact (hf a w').trans hfirst

theorem ite {c : Prop} [Decidable c] {y : Action κ σ ε α} (hx : Untouched k x)
    (hy : Untouched k y) : Untouched k (if c then x else y) := by
  split
  · exact hx
  · exact hy

theorem mapError {g : ε' → ε} {x : Action κ σ ε' α} (hx : Untouched k x) :
    Untouched k (Action.mapError g x) := by
  intro w
  have hfirst := hx w
  rw [mapError_run]
  rcases hrun : x.run w with ⟨e | a, w'⟩ <;> rw [hrun] at hfirst <;> exact hfirst

theorem zoom {part : τ → σ} {withPart : τ → σ → τ} (hx : Untouched k x) :
    Untouched k (Action.zoom part withPart x) :=
  fun w => hx ⟨part w.store, w.faults⟩

theorem query [DecidableEq κ] {j : κ} {g : σ → α} (h : k ≠ j) : Untouched k (Action.query j g) := by
  intro w
  rw [query_run]
  cases w.fault j <;> exact Sys.faults_spend_of_ne h

theorem lookup [DecidableEq κ] {j : κ} {missing : String} {g : σ → Option α} (h : k ≠ j) :
    Untouched k (Action.lookup j missing g) := by
  refine bind (query h) fun found => ?_
  cases found
  · exact fail
  · exact pure

end Untouched

/-! ## Errors put another way -/

theorem mapError_bind {g : ε' → ε} {x : Action κ σ ε' α} {f : α → Action κ σ ε' β} :
    mapError g (x >>= f) = mapError g x >>= fun a => mapError g (f a) := by
  have hrun : ∀ w, (mapError g (x >>= f)).run w = (mapError g x >>= fun a => mapError g (f a)).run w := by
    intro w
    rw [mapError_run, bind_run, bind_run, mapError_run]
    rcases x.run w with ⟨e | a, w'⟩ <;> rfl
  exact congrArg mk (funext hrun)

theorem mapError_pure {g : ε' → ε} {a : α} :
    mapError g (pure a : Action κ σ ε' α) = pure a := rfl

end Action

end Portainer
