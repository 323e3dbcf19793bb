import Mathlib.Tactic.Common
import Mathlib.Data.List.Basic
/-!
# Actions — programs that fail part of the way

A server handler reads and writes a store, calls services that can fail,
and returns on the first error. What it wrote before the error stays
written: there is no rollback. An `Action` is such a program. Each callee
has a list of faults, and every call to it consumes one entry, so a
statement over all faults is a statement over every point at which a call
can fail.

Two ways to reason are provided. `Action.bind_run_ok` and its companions
take a successful run apart, call by call. `Action.Meets` is a Hoare triple
with one postcondition for success and one for failure.
-/

namespace Portainer

/-- A store together with the outcomes of the calls still to come, for each
callee. `some text` is a call that fails with that text; past the end of
the list every call succeeds. -/
structure Sys (κ σ : Type) where
  store : σ
  faults : κ → List (Option String) := fun _ => []

namespace Sys

variable {κ σ : Type}

/-- The outcome of the next call to a callee. -/
def fault (w : Sys κ σ) (k : κ) : Option String := (w.faults k).head?.join

/-- The system once that outcome is used up. -/
def spend [DecidableEq κ] (w : Sys κ σ) (k : κ) : Sys κ σ :=
  { w with faults := fun j => if j = k then (w.faults k).tail else w.faults j }

/-- The callee does not fail. -/
def Reliable (w : Sys κ σ) (k : κ) : Prop := ∀ o ∈ w.faults k, o = none

theorem Reliable.fault {w : Sys κ σ} {k : κ} (h : w.Reliable k) : w.fault k = none := by
  unfold Sys.fault
  cases hl : w.faults k with
  | nil => rfl
  | cons o l =>
    rw [h o (hl ▸ List.mem_cons_self)]
    rfl

theorem Reliable.spend [DecidableEq κ] {w : Sys κ σ} {j k : κ} (h : w.Reliable k) :
    (w.spend j).Reliable k := by
  intro o ho
  simp only [Sys.spend] at ho
  split at ho
  · rename_i hk
    exact h o (hk ▸ List.mem_of_mem_tail ho)
  · exact h o ho

/-- The next `n` calls to the callee do not fail. -/
def Clear (w : Sys κ σ) (k : κ) (n : ℕ) : Prop := ∀ o ∈ (w.faults k).take n, o = none

theorem clear_zero {w : Sys κ σ} {k : κ} : w.Clear k 0 := by
  simp [Clear]

theorem Clear.mono {w : Sys κ σ} {k : κ} {m n : ℕ} (h : w.Clear k n) (hmn : m ≤ n) : w.Clear k m :=
  fun o ho => h o (List.take_subset_take_left _ hmn ho)

@[simp] theorem clear_withStore {w : Sys κ σ} {k : κ} {n : ℕ} {s : σ} :
    Clear { w with store := s } k n ↔ w.Clear k n := Iff.rfl

theorem clear_succ [DecidableEq κ] {w : Sys κ σ} {k : κ} {n : ℕ} :
    w.Clear k (n + 1) ↔ w.fault k = none ∧ (w.spend k).Clear k n := by
  simp only [Clear, fault, spend, if_true]
  rcases w.faults k with _ | ⟨o, l⟩
  · simp
  · simp

/-- The `n` calls after the next `m` do not fail. -/
def ClearFrom (w : Sys κ σ) (k : κ) (m n : ℕ) : Prop := ∀ o ∈ ((w.faults k).drop m).take n, o = none

theorem clearFrom_zero {w : Sys κ σ} {k : κ} {n : ℕ} : w.ClearFrom k 0 n ↔ w.Clear k n := Iff.rfl

theorem clearFrom_succ [DecidableEq κ] {w : Sys κ σ} {k : κ} {m n : ℕ} :
    w.ClearFrom k (m + 1) n ↔ (w.spend k).ClearFrom k m n := by
  simp only [ClearFrom, spend, if_true]
  rw [List.drop_add_one_eq_tail_drop, List.tail_drop]
  rcases w.faults k with _ | ⟨o, l⟩ <;> simp

@[simp] theorem spend_store [DecidableEq κ] (w : Sys κ σ) (k : κ) : (w.spend k).store = w.store :=
  rfl

/-- A system in which no call fails. -/
def faultless (s : σ) : Sys κ σ := { store := s }

@[simp] theorem faultless_store (s : σ) : (faultless s : Sys κ σ).store = s := rfl

@[simp] theorem faultless_faults (s : σ) (k : κ) : (faultless s : Sys κ σ).faults k = [] := rfl

@[simp] theorem clear_faultless (s : σ) (k : κ) (n : ℕ) : (faultless s : Sys κ σ).Clear k n := by
  simp [Clear]

theorem faults_spend_of_ne [DecidableEq κ] {w : Sys κ σ} {j k : κ} (h : k ≠ j) :
    (w.spend j).faults k = w.faults k := by
  simp [spend, h]

theorem fault_spend_of_ne [DecidableEq κ] {w : Sys κ σ} {j k : κ} (h : k ≠ j) :
    (w.spend j).fault k = w.fault k := by
  rw [fault, faults_spend_of_ne h, fault]

theorem clear_spend_of_ne [DecidableEq κ] {w : Sys κ σ} {j k : κ} {n : ℕ} (h : k ≠ j) :
    (w.spend j).Clear k n ↔ w.Clear k n := by
  rw [Clear, faults_spend_of_ne h, Clear]

theorem spend_faultless [DecidableEq κ] (s : σ) (k : κ) :
    (faultless s : Sys κ σ).spend k = faultless s := by
  simp [spend, faultless]

end Sys

/-- A program over a store `σ` that returns an `α` or stops with an `ε`,
and keeps what it did to the store either way. -/
structure Action (κ σ ε α : Type) where
  run : Sys κ σ → Except ε α × Sys κ σ

namespace Action

variable {κ σ ε ε' α β : Type}

instance : Monad (Action κ σ ε) where
  pure a := ⟨fun w => (.ok a, w)⟩
  bind x f := ⟨fun w =>
    match x.run w with
    | (.ok a, w') => (f a).run w'
    | (.error e, w') => (.error e, w')⟩

/-- Stop with an error. -/
def fail (e : ε) : Action κ σ ε α := ⟨fun w => (.error e, w)⟩

/-- Go on only if the condition holds. -/
def require (c : Prop) [Decidable c] (e : ε) : Action κ σ ε Unit := if c then pure () else fail e

/-- Look at the store, in memory: this cannot fail. -/
def get (f : σ → α) : Action κ σ ε α := ⟨fun w => (.ok (f w.store), w)⟩

/-- Change the store, in memory: this cannot fail. -/
def modify (f : σ → σ) : Action κ σ ε Unit := ⟨fun w => (.ok (), { w with store := f w.store })⟩

/-- A call that reads. It fails with the text of its fault, if it has
one. -/
def query [DecidableEq κ] (k : κ) (f : σ → α) : Action κ σ String α := ⟨fun w =>
  match w.fault k with
  | none => (.ok (f w.store), w.spend k)
  | some text => (.error text, w.spend k)⟩

/-- A call that reads what may be missing. -/
def lookup [DecidableEq κ] (k : κ) (missing : String) (f : σ → Option α) : Action κ σ String α := do
  match ← query k f with
  | some a => pure a
  | none => fail missing

/-- A call that writes, or fails and leaves the store as it was. -/
def call [DecidableEq κ] (k : κ) (f : σ → σ) : Action κ σ String Unit := ⟨fun w =>
  match w.fault k with
  | none => (.ok (), { w.spend k with store := f w.store })
  | some text => (.error text, w.spend k)⟩

/-- What has been computed already, or its error. -/
def ofExcept : Except ε α → Action κ σ ε α
  | .ok a => pure a
  | .error e => fail e

/-- The same program with its error put another way. -/
def mapError (f : ε → ε') (x : Action κ σ ε α) : Action κ σ ε' α := ⟨fun w =>
  match x.run w with
  | (.ok a, w') => (.ok a, w')
  | (.error e, w') => (.error (f e), w')⟩

/-- The same program with its error made a value, for the callers that log
an error and go on, or that branch on it. -/
def attempt (x : Action κ σ ε α) : Action κ σ ε' (Except ε α) := ⟨fun w =>
  match x.run w with
  | (r, w') => (.ok r, w')⟩

/-- The same program with something done at its end, however it ends. -/
def defer (last : Action κ σ ε Unit) (x : Action κ σ ε α) : Action κ σ ε α := do
  let r ← attempt x
  last
  ofExcept r

/-- The same program with something done where it fails. -/
def onError (undo : Action κ σ ε Unit) (x : Action κ σ ε α) : Action κ σ ε α := do
  match ← attempt x with
  | .ok a => pure a
  | .error e => do
    undo
    fail e

/-- The same program on a part of a larger store. -/
def zoom {τ : Type} (part : τ → σ) (withPart : τ → σ → τ) (x : Action κ σ ε α) : Action κ τ ε α := ⟨fun w =>
  match x.run ⟨part w.store, w.faults⟩ with
  | (r, w') => (r, ⟨withPart w.store w'.store, w'.faults⟩)⟩

theorem query_run [DecidableEq κ] (k : κ) (f : σ → α) (w : Sys κ σ) : (query k f).run w = match w.fault k with
    | none => (.ok (f w.store), w.spend k)
    | some text => (.error text, w.spend k) := rfl

theorem call_run [DecidableEq κ] (k : κ) (f : σ → σ) (w : Sys κ σ) : (call k f).run w = match w.fault k with
    | none => (.ok (), { w.spend k with store := f w.store })
    | some text => (.error text, w.spend k) := rfl

theorem mapError_run (f : ε → ε') (x : Action κ σ ε α) (w : Sys κ σ) :
    (mapError f x).run w = match x.run w with
      | (.ok a, w') => (.ok a, w')
      | (.error e, w') => (.error (f e), w') := rfl

theorem attempt_run (x : Action κ σ ε α) (w : Sys κ σ) :
    (attempt x : Action κ σ ε' (Except ε α)).run w = (.ok (x.run w).1, (x.run w).2) := rfl

theorem zoom_run {τ : Type} (part : τ → σ) (withPart : τ → σ → τ) (x : Action κ σ ε α)
    (w : Sys κ τ) : (zoom part withPart x).run w = match x.run ⟨part w.store, w.faults⟩ with
      | (r, w') => (r, ⟨withPart w.store w'.store, w'.faults⟩) := rfl

theorem bind_run (x : Action κ σ ε α) (f : α → Action κ σ ε β) (w : Sys κ σ) :
    (x >>= f).run w = match x.run w with
      | (.ok a, w') => (f a).run w'
      | (.error e, w') => (.error e, w') := rfl

theorem pure_bind (a : α) (f : α → Action κ σ ε β) : (pure a >>= f) = f a := rfl

theorem bind_assoc {γ : Type} (x : Action κ σ ε α) (f : α → Action κ σ ε β) (g : β → Action κ σ ε γ) :
    x >>= f >>= g = x >>= fun a => f a >>= g := by
  have hrun : ∀ w, (x >>= f >>= g).run w = (x >>= fun a => f a >>= g).run w := by
    intro w
    simp only [bind_run]
    rcases x.run w with ⟨e | a, w'⟩ <;> rfl
  exact congrArg mk (funext hrun)

@[simp] theorem pure_run (a : α) (w : Sys κ σ) : (pure a : Action κ σ ε α).run w = (.ok a, w) := rfl

@[simp] theorem fail_run (e : ε) (w : Sys κ σ) :
    (fail e : Action κ σ ε α).run w = (.error e, w) := rfl

@[simp] theorem ofExcept_ok (a : α) : (ofExcept (.ok a) : Action κ σ ε α) = pure a := rfl

@[simp] theorem ofExcept_error (e : ε) : (ofExcept (.error e) : Action κ σ ε α) = fail e := rfl

/-! ## One call, by its fault -/

section Fault

variable [DecidableEq κ] {k : κ} {w w' : Sys κ σ} {text : String}

theorem query_run_of_none {f : σ → α} (h : w.fault k = none) :
    (query k f).run w = (.ok (f w.store), w.spend k) := by
  rw [query_run, h]

theorem query_run_of_some {f : σ → α} (h : w.fault k = some text) :
    (query k f).run w = (.error text, w.spend k) := by
  rw [query_run, h]

theorem call_run_of_none {f : σ → σ} (h : w.fault k = none) :
    (call k f).run w = (.ok (), { w.spend k with store := f w.store }) := by
  rw [call_run, h]

theorem call_run_of_some {f : σ → σ} (h : w.fault k = some text) :
    (call k f).run w = (.error text, w.spend k) := by
  rw [call_run, h]

omit [DecidableEq κ] in
theorem bind_run_of_error {x : Action κ σ ε α} {f : α → Action κ σ ε β} {e : ε}
    (h : x.run w = (.error e, w')) : (x >>= f).run w = (.error e, w') := by
  rw [bind_run, h]

omit [DecidableEq κ] in
theorem mapError_run_of_error {x : Action κ σ ε α} {f : ε → ε'} {e : ε}
    (h : x.run w = (.error e, w')) : (mapError f x).run w = (.error (f e), w') := by
  rw [mapError_run, h]

end Fault

/-! ## Runs in which no call fails -/

section Faultless

variable {s : σ} {a : α}

theorem bind_run_of_ok {x : Action κ σ ε α} {f : α → Action κ σ ε β} {w w' : Sys κ σ}
    (h : x.run w = (.ok a, w')) : (x >>= f).run w = (f a).run w' := by
  rw [bind_run, h]

theorem query_run_faultless [DecidableEq κ] (k : κ) (f : σ → α) :
    (query k f).run (.faultless s) = (.ok (f s), .faultless s) := by
  rw [query_run, Sys.spend_faultless]
  rfl

theorem lookup_run_faultless [DecidableEq κ] {k : κ} {missing : String} {f : σ → Option α}
    (h : f s = some a) : (lookup k missing f).run (.faultless s) = (.ok a, .faultless s) := by
  unfold lookup
  rw [bind_run_of_ok (query_run_faultless k f), h]
  rfl

theorem call_run_faultless [DecidableEq κ] (k : κ) (f : σ → σ) :
    (call k f).run (.faultless s) = (.ok (), .faultless (f s)) := by
  rw [call_run, Sys.spend_faultless]
  rfl

theorem require_run_of {c : Prop} [Decidable c] {e : ε} {w : Sys κ σ} (h : c) :
    (require c e : Action κ σ ε Unit).run w = (.ok (), w) := by
  simp [require, h]

end Faultless

/-! ## Errors that are undone -/

section OnError

variable {x : Action κ σ ε α} {undo : Action κ σ ε Unit} {w w' w'' : Sys κ σ}

theorem onError_run_of_ok {a : α} (h : x.run w = (.ok a, w')) :
    (onError undo x).run w = (.ok a, w') := by
  have hattempt : (attempt x : Action κ σ ε (Except ε α)).run w = (.ok (.ok a), w') := by
    rw [attempt_run, h]
  exact bind_run_of_ok hattempt

theorem onError_run_of_error {e : ε} (h : x.run w = (.error e, w'))
    (hundo : undo.run w' = (.ok (), w'')) : (onError undo x).run w = (.error e, w'') := by
  have hattempt : (attempt x : Action κ σ ε (Except ε α)).run w = (.ok (.error e), w') := by
    rw [attempt_run, h]
  exact (bind_run_of_ok hattempt).trans (bind_run_of_ok hundo)

end OnError

/-! ## Taking a successful run apart -/

section Success

variable {w w' : Sys κ σ} {a : α} {x : Action κ σ ε α} {f : α → Action κ σ ε β}

/-- **A sequence succeeds exactly when each part does**, the second from
where the first ended. -/
theorem bind_run_ok {b : β} : (x >>= f).run w = (.ok b, w') ↔
    ∃ a w₁, x.run w = (.ok a, w₁) ∧ (f a).run w₁ = (.ok b, w') := by
  rw [bind_run]
  rcases x.run w with ⟨_ | a, w₁⟩ <;> simp

theorem pure_run_ok {b : α} : (pure a : Action κ σ ε α).run w = (.ok b, w') ↔ a = b ∧ w = w' := by
  simp

theorem fail_run_ok {e : ε} : (fail e : Action κ σ ε α).run w ≠ (.ok a, w') := by
  simp

theorem require_run_ok {c : Prop} [Decidable c] {e : ε} {u : Unit} :
    (require c e : Action κ σ ε Unit).run w = (.ok u, w') ↔ c ∧ w = w' := by
  by_cases hc : c <;> simp [require, hc]

/-- A condition, and what follows it. -/
theorem require_bind_run_ok {c : Prop} [Decidable c] {e : ε} {f : Unit → Action κ σ ε α} :
    (require c e >>= f).run w = (.ok a, w') ↔ c ∧ (f ()).run w = (.ok a, w') := by
  by_cases hc : c <;> simp [require, hc, bind_run]

theorem get_run_ok {g : σ → α} : (get g : Action κ σ ε α).run w = (.ok a, w') ↔
    g w.store = a ∧ w = w' := by
  simp [get]

theorem query_run_ok [DecidableEq κ] {k : κ} {g : σ → α} (h : (query k g).run w = (.ok a, w')) :
    g w.store = a ∧ w'.store = w.store := by
  rw [query_run] at h
  split at h
  · simp only [Prod.mk.injEq, Except.ok.injEq] at h
    exact ⟨h.1, h.2 ▸ rfl⟩
  · simp at h

theorem lookup_run_ok [DecidableEq κ] {k : κ} {missing : String} {g : σ → Option α}
    (h : (lookup k missing g).run w = (.ok a, w')) :
    g w.store = some a ∧ w'.store = w.store := by
  obtain ⟨o, w₁, hq, ho⟩ := bind_run_ok.mp h
  obtain ⟨hg, hw⟩ := query_run_ok hq
  cases o with
  | none => exact absurd ho fail_run_ok
  | some a' =>
    obtain ⟨rfl, rfl⟩ := pure_run_ok.mp ho
    exact ⟨hg, hw⟩

theorem call_run_ok [DecidableEq κ] {k : κ} {g : σ → σ} {u : Unit} (h : (call k g).run w = (.ok u, w')) :
    w'.store = g w.store := by
  rw [call_run] at h
  split at h
  · simp only [Prod.mk.injEq, true_and] at h
    exact h ▸ rfl
  · simp at h

/-! The same, with what the calls answered. -/

theorem query_run_ok_iff [DecidableEq κ] {k : κ} {g : σ → α} :
    (query k g).run w = (.ok a, w') ↔ w.fault k = none ∧ g w.store = a ∧ w.spend k = w' := by
  rw [query_run]
  cases w.fault k <;> simp

theorem lookup_run_ok_iff [DecidableEq κ] {k : κ} {missing : String} {g : σ → Option α} :
    (lookup k missing g).run w = (.ok a, w') ↔
      w.fault k = none ∧ g w.store = some a ∧ w.spend k = w' := by
  unfold lookup
  rw [bind_run_ok]
  constructor
  · rintro ⟨o, w₁, hq, ho⟩
    obtain ⟨hf, rfl, rfl⟩ := query_run_ok_iff.mp hq
    cases hg : g w.store with
    | none => rw [hg] at ho; exact absurd ho fail_run_ok
    | some a' =>
      rw [hg] at ho
      obtain ⟨rfl, rfl⟩ := pure_run_ok.mp ho
      exact ⟨hf, rfl, rfl⟩
  · rintro ⟨hf, hg, rfl⟩
    exact ⟨some a, _, query_run_ok_iff.mpr ⟨hf, hg, rfl⟩, rfl⟩

theorem call_run_ok_iff [DecidableEq κ] {k : κ} {g : σ → σ} {u : Unit} :
    (call k g).run w = (.ok u, w') ↔
      w.fault k = none ∧ { w.spend k with store := g w.store } = w' := by
  rw [call_run]
  cases w.fault k <;> simp

theorem mapError_run_ok {x : Action κ σ ε' α} {g : ε' → ε} :
    (mapError g x).run w = (.ok a, w') ↔ x.run w = (.ok a, w') := by
  simp only [mapError]
  rcases x.run w with ⟨_ | a, w₁⟩ <;> simp

end Success

/-! ## Loops of writes -/

theorem forM_cons {f : α → Action κ σ ε PUnit} {a : α} {l : List α} :
    (a :: l).forM f = f a >>= fun _ => l.forM f := rfl

/-- How many of the next `n` calls go through before one fails. -/
def landed : List (Option String) → ℕ → ℕ
  | _, 0 => 0
  | [], n => n
  | none :: outcomes, n + 1 => landed outcomes n + 1
  | some _ :: _, _ + 1 => 0

theorem landed_le (outcomes : List (Option String)) (n : ℕ) : landed outcomes n ≤ n := by
  induction n generalizing outcomes with
  | zero => cases outcomes <;> simp [landed]
  | succ n ih =>
    rcases outcomes with _ | ⟨_ | text, outcomes⟩
    · simp [landed]
    · simpa [landed] using ih outcomes
    · simp [landed]

theorem landed_nil (n : ℕ) : landed [] n = n := by
  cases n <;> rfl

/-- **A loop of writes is cut short at the first that fails**: those before
it have taken place, and it succeeds exactly when none fails. -/
theorem forM_call_run [DecidableEq κ] {k : κ} (g : α → σ → σ) (l : List α) (w : Sys κ σ) :
    ((l.forM fun a => call k (g a)).run w).2.store =
        (l.take (landed (w.faults k) l.length)).foldl (fun s a => g a s) w.store ∧
      (((l.forM fun a => call k (g a)).run w).1 = .ok ⟨⟩ ↔
        landed (w.faults k) l.length = l.length) := by
  induction l generalizing w with
  | nil => simp [landed]
  | cons a l ih =>
    rw [forM_cons, bind_run, call_run]
    rcases hfaults : w.faults k with _ | ⟨_ | text, outcomes⟩
    · have hfault : w.fault k = none := by simp [Sys.fault, hfaults]
      have hspend : (w.spend k).faults k = [] := by simp [Sys.spend, hfaults]
      rw [hfault]
      have := ih { w.spend k with store := g a w.store }
      rw [show ({ w.spend k with store := g a w.store } : Sys κ σ).faults k = [] from hspend,
        landed_nil] at this
      simp only [List.length_cons, landed_nil]
      simpa using this
    · have hfault : w.fault k = none := by simp [Sys.fault, hfaults]
      have hspend : (w.spend k).faults k = outcomes := by simp [Sys.spend, hfaults]
      rw [hfault]
      have := ih { w.spend k with store := g a w.store }
      rw [show ({ w.spend k with store := g a w.store } : Sys κ σ).faults k = outcomes from hspend] at this
      simpa [landed] using this
    · have hfault : w.fault k = some text := by simp [Sys.fault, hfaults]
      simp [hfault, landed]

/-- A loop that skips some elements is the loop over the others. -/
theorem forM_filter {x : α → Action κ σ ε PUnit} {p : α → Prop} [DecidablePred p] (l : List α) :
    (l.forM fun a => if p a then x a else pure ⟨⟩) = (l.filter p).forM x := by
  induction l with
  | nil => rfl
  | cons a l ih =>
    rw [forM_cons, ih]
    by_cases h : p a
    · rw [if_pos h, List.filter_cons_of_pos (by simpa using h)]
      rfl
    · rw [if_neg h, List.filter_cons_of_neg (by simpa using h)]
      rfl

/-! ## Pre- and postconditions -/

/-- What a run ended with: `Q` of the value and the store, or `E` of the
error and the store. -/
def Ends (Q : α → σ → Prop) (E : ε → σ → Prop) : Except ε α × Sys κ σ → Prop
  | (.ok a, w) => Q a w.store
  | (.error e, w) => E e w.store

/-- **A triple.** From a store with `P` the program ends, in success with
`Q` or in failure with `E`, whatever its calls answer; only the callees of
`R` are taken not to fail. -/
def Meets (R : κ → Prop) (P : σ → Prop) (x : Action κ σ ε α) (Q : α → σ → Prop)
    (E : ε → σ → Prop) : Prop :=
  ∀ w : Sys κ σ, (∀ k, R k → w.Reliable k) → P w.store →
    Ends Q E (x.run w) ∧ ∀ k, R k → (x.run w).2.Reliable k

namespace Meets

variable {R : κ → Prop} {P P' : σ → Prop} {Q : α → σ → Prop} {E : ε → σ → Prop}
variable {x : Action κ σ ε α}

/-- Where a run of the program ends. -/
theorem ends (h : Meets R P x Q E) {w : Sys κ σ} (hR : ∀ k, R k → w.Reliable k)
    (hw : P w.store) : Ends Q E (x.run w) :=
  (h w hR hw).1

/-- Strengthen the precondition and weaken both postconditions. -/
theorem conseq {Q' : α → σ → Prop} {E' : ε → σ → Prop} (h : Meets R P x Q E)
    (hP : ∀ s, P' s → P s) (hQ : ∀ a s, Q a s → Q' a s) (hE : ∀ e s, E e s → E' e s) :
    Meets R P' x Q' E' := by
  intro w hR hw
  obtain ⟨hend, hrel⟩ := h w hR (hP _ hw)
  refine ⟨?_, hrel⟩
  rcases hx : x.run w with ⟨e | a, w'⟩
  · rw [hx] at hend; exact hE _ _ hend
  · rw [hx] at hend; exact hQ _ _ hend

theorem pure {a : α} (h : ∀ s, P s → Q a s) : Meets R P (Pure.pure a : Action κ σ ε α) Q E :=
  fun w hR hw => ⟨h w.store hw, hR⟩

theorem fail {e : ε} (h : ∀ s, P s → E e s) : Meets R P (Action.fail e : Action κ σ ε α) Q E :=
  fun w hR hw => ⟨h w.store hw, hR⟩

theorem require {c : Prop} [Decidable c] {e : ε} {Q : Unit → σ → Prop}
    (hc : ∀ s, P s → c → Q () s) (hn : ∀ s, P s → ¬ c → E e s) :
    Meets R P (Action.require c e) Q E := by
  unfold Action.require
  split
  · rename_i h; exact pure fun s hs => hc s hs h
  · rename_i h; exact fail fun s hs => hn s hs h

/-- **Sequencing.** The first program's success is the second's start. -/
theorem bind {M : α → σ → Prop} {f : α → Action κ σ ε β} {Q : β → σ → Prop}
    (hx : Meets R P x M E) (hf : ∀ a, Meets R (M a) (f a) Q E) : Meets R P (x >>= f) Q E := by
  intro w hR hw
  obtain ⟨hend, hrel⟩ := hx w hR hw
  rw [bind_run]
  rcases hr : x.run w with ⟨e | a, w₁⟩
  · rw [hr] at hend hrel; exact ⟨hend, hrel⟩
  · rw [hr] at hend hrel; exact hf a w₁ hrel hend

theorem get {g : σ → α} (h : ∀ s, P s → Q (g s) s) : Meets R P (Action.get g) Q E :=
  fun w hR hw => ⟨h w.store hw, hR⟩

theorem modify {g : σ → σ} {Q : Unit → σ → Prop} (h : ∀ s, P s → Q () (g s)) :
    Meets R P (Action.modify g) Q E :=
  fun w hR hw => ⟨h w.store hw, hR⟩

section Calls

variable [DecidableEq κ] {k : κ} {E : String → σ → Prop}

theorem query {g : σ → α} (h : ∀ s, P s → Q (g s) s)
    (he : ¬ R k → ∀ s text, P s → E text s) : Meets R P (Action.query k g) Q E := by
  intro w hR hw
  rw [query_run]
  cases hf : w.fault k with
  | none => exact ⟨h w.store hw, fun j hj => (hR j hj).spend⟩
  | some text =>
    refine ⟨he (fun hk => ?_) w.store text hw, fun j hj => (hR j hj).spend⟩
    rw [(hR k hk).fault] at hf
    nomatch hf

theorem lookup {missing : String} {g : σ → Option α} (h : ∀ s a, P s → g s = some a → Q a s)
    (hn : ∀ s, P s → g s = none → E missing s) (he : ¬ R k → ∀ s text, P s → E text s) :
    Meets R P (Action.lookup k missing g) Q E := by
  refine bind (M := fun o s => P s ∧ g s = o) (query (fun s hs => ⟨hs, rfl⟩) he) ?_
  rintro (_ | a)
  · exact fail fun s hs => hn s hs.1 hs.2
  · exact pure fun s hs => h s a hs.1 hs.2

theorem call {g : σ → σ} {Q : Unit → σ → Prop} (h : ∀ s, P s → Q () (g s))
    (he : ¬ R k → ∀ s text, P s → E text s) : Meets R P (Action.call k g) Q E := by
  intro w hR hw
  rw [call_run]
  cases hf : w.fault k with
  | none => exact ⟨h w.store hw, fun j hj => (hR j hj).spend⟩
  | some text =>
    refine ⟨he (fun hk => ?_) w.store text hw, fun j hj => (hR j hj).spend⟩
    rw [(hR k hk).fault] at hf
    nomatch hf

end Calls

theorem mapError {g : ε' → ε} {x : Action κ σ ε' α}
    (h : Meets R P x Q fun e => E (g e)) : Meets R P (Action.mapError g x) Q E := by
  intro w hR hw
  have := h w hR hw
  rw [mapError_run]
  rcases hr : x.run w with ⟨e | a, w'⟩ <;> rw [hr] at this <;> exact this

theorem attempt {E' : ε' → σ → Prop} {Q' : Except ε α → σ → Prop}
    (h : Meets R P x (fun a => Q' (.ok a)) fun e => Q' (.error e)) :
    Meets R P (Action.attempt x) Q' E' := by
  intro w hR hw
  have := h w hR hw
  rw [attempt_run]
  rcases hr : x.run w with ⟨e | a, w'⟩ <;> rw [hr] at this <;> exact this

/-- **A loop keeps its invariant** when each turn does. -/
theorem forM {I : σ → Prop} {f : α → Action κ σ ε PUnit} {l : List α}
    (h : ∀ a ∈ l, Meets R I (f a) (fun _ => I) E) : Meets R I (l.forM f) (fun _ => I) E := by
  induction l with
  | nil => exact pure fun _ hs => hs
  | cons a l ih =>
    have hl : Meets R I (l.forM f) (fun _ => I) E := ih fun b hb => h b (List.mem_cons_of_mem a hb)
    exact bind (h a List.mem_cons_self) fun _ => hl

/-- A loop of changes is one change, made by folding over the list. -/
theorem forM_modify {g : α → σ → σ} {l : List α} {Q : PUnit → σ → Prop}
    (h : ∀ s, P s → Q ⟨⟩ (l.foldl (fun s a => g a s) s)) :
    Meets R P (l.forM fun a => (Action.modify (g a) : Action κ σ ε Unit)) Q E := by
  induction l generalizing P with
  | nil => exact pure h
  | cons a l ih =>
    refine bind (M := fun _ s' => ∃ s, P s ∧ s' = g a s) (modify fun s hs => ⟨s, hs, rfl⟩) fun _ => ?_
    refine ih fun s' hs' => ?_
    obtain ⟨s, hs, rfl⟩ := hs'
    exact h s hs

end Meets

/-! ## Programs that leave the store as it is -/

/-- The program leaves the store `s` as it is, and where it succeeds it
returns an `a` with `Q a`. -/
def Returns (x : Action κ σ ε α) (s : σ) (Q : α → Prop) : Prop :=
  Meets (fun _ => False) (· = s) x (fun a s' => s' = s ∧ Q a) fun _ s' => s' = s

namespace Returns

variable {s : σ} {Q : α → Prop} {x : Action κ σ ε α}

theorem pure {a : α} (h : Q a) : Returns (Pure.pure a : Action κ σ ε α) s Q :=
  Meets.pure fun _ hs => ⟨hs, h⟩

theorem fail {e : ε} : Returns (Action.fail e : Action κ σ ε α) s Q :=
  Meets.fail fun _ hs => hs

theorem ofExcept {r : Except ε α} (h : ∀ a, r = .ok a → Q a) :
    Returns (Action.ofExcept r : Action κ σ ε α) s Q := by
  cases r with
  | error e => exact fail
  | ok a => exact pure (h a rfl)

theorem conseq {Q' : α → Prop} (h : Returns x s Q) (hQ : ∀ a, Q a → Q' a) : Returns x s Q' :=
  Meets.conseq h (fun _ hs => hs) (fun a _ ha => ⟨ha.1, hQ a ha.2⟩) fun _ _ he => he

theorem bind {f : α → Action κ σ ε β} {M : β → Prop} (hx : Returns x s Q)
    (hf : ∀ a, Q a → Returns (f a) s M) : Returns (x >>= f) s M := by
  refine Meets.bind hx fun a w hR hw => ?_
  exact hf a hw.2 w hR hw.1

theorem mapError {g : ε' → ε} {x : Action κ σ ε' α} (hx : Returns x s Q) :
    Returns (Action.mapError g x) s Q :=
  Meets.mapError hx

theorem get {g : σ → α} (h : Q (g s)) : Returns (Action.get g : Action κ σ ε α) s Q :=
  Meets.get fun s' hs => by subst hs; exact ⟨rfl, h⟩

theorem query [DecidableEq κ] {k : κ} {g : σ → α} (h : Q (g s)) : Returns (Action.query k g) s Q :=
  Meets.query (fun s' hs => by subst hs; exact ⟨rfl, h⟩) fun _ _ _ hs => hs

theorem lookup [DecidableEq κ] {k : κ} {missing : String} {g : σ → Option α}
    (h : ∀ a, g s = some a → Q a) : Returns (Action.lookup k missing g) s Q :=
  Meets.lookup (fun _ a hs hg => ⟨hs, h a (hs ▸ hg)⟩) (fun _ hs _ => hs) fun _ _ _ hs => hs

theorem forM {f : α → Action κ σ ε PUnit} {l : List α} (h : ∀ a ∈ l, Returns (f a) s fun _ => True) :
    Returns (l.forM f) s fun _ => True := by
  induction l with
  | nil => exact pure trivial
  | cons a l ih =>
    exact (h a List.mem_cons_self).bind fun _ _ => ih fun b hb => h b (List.mem_cons_of_mem a hb)

/-- A program on a part of the store. -/
theorem zoom {τ : Type} {part : τ → σ} {withPart : τ → σ → τ} {t : τ} (h : Returns x (part t) Q)
    (ht : withPart t (part t) = t) : Returns (Action.zoom part withPart x) t Q := by
  intro w hR hw
  obtain ⟨hend, hrel⟩ := h ⟨part w.store, w.faults⟩ hR (by rw [hw])
  rw [zoom_run]
  rcases hx : x.run ⟨part w.store, w.faults⟩ with ⟨e | a, w'⟩ <;> rw [hx] at hend hrel
  · have hstore : w'.store = part t := hend
    exact ⟨show withPart w.store w'.store = t by rw [hw, hstore, ht], hrel⟩
  · have hstore : w'.store = part t := hend.1
    exact ⟨⟨show withPart w.store w'.store = t by rw [hw, hstore, ht], hend.2⟩, hrel⟩

theorem run_ok (h : Returns x s Q) {w w' : Sys κ σ} {a : α} (hw : w.store = s)
    (hx : x.run w = (.ok a, w')) : w'.store = s ∧ Q a := by
  have hend := h.ends (w := w) (fun _ hk => hk.elim) hw
  rwa [hx] at hend

theorem run_error (h : Returns x s Q) {w w' : Sys κ σ} {e : ε} (hw : w.store = s)
    (hx : x.run w = (.error e, w')) : w'.store = s := by
  have hend := h.ends (w := w) (fun _ hk => hk.elim) hw
  rwa [hx] at hend

end Returns

/-! ## Programs that only look at a part of the store -/

/-- **The program looks at `f` of the store, and changes nothing.** Where
it succeeds it returns what it returns on every store with the same `f`
when no call fails. -/
def Observes {τ : Type} (f : σ → τ) (x : Action κ σ ε α) : Prop :=
  ∀ w a w', x.run w = (.ok a, w') →
    w'.store = w.store ∧ ∀ s, f s = f w.store → x.run (.faultless s) = (.ok a, .faultless s)

namespace Observes

variable {τ : Type} {f : σ → τ} {x : Action κ σ ε α}

theorem pure {a : α} : Observes f (Pure.pure a : Action κ σ ε α) := by
  intro w b w' h
  obtain ⟨rfl, rfl⟩ := pure_run_ok.mp h
  exact ⟨rfl, fun _ _ => rfl⟩

theorem fail {e : ε} : Observes f (Action.fail e : Action κ σ ε α) :=
  fun _ _ _ h => absurd h fail_run_ok

theorem ofExcept {r : Except ε α} : Observes f (Action.ofExcept r : Action κ σ ε α) := by
  cases r
  · exact fail
  · exact pure

theorem bind {y : α → Action κ σ ε β} (hx : Observes f x) (hy : ∀ a, Observes f (y a)) :
    Observes f (x >>= y) := by
  intro w b w' h
  obtain ⟨a, w₁, h₁, h₂⟩ := bind_run_ok.mp h
  obtain ⟨hw₁, hs₁⟩ := hx w a w₁ h₁
  obtain ⟨hw₂, hs₂⟩ := hy a w₁ b w' h₂
  refine ⟨hw₂.trans hw₁, fun s hs => ?_⟩
  rw [bind_run_of_ok (hs₁ s hs)]
  exact hs₂ s (by rw [hw₁]; exact hs)

theorem query [DecidableEq κ] {k : κ} {g : σ → α} (h : τ → α) (hg : ∀ s, g s = h (f s)) :
    Observes f (Action.query k g) := by
  intro w a w' hrun
  obtain ⟨rfl, hw⟩ := query_run_ok hrun
  refine ⟨hw, fun s hs => ?_⟩
  rw [query_run_faultless, hg, hg, hs]

theorem lookup [DecidableEq κ] {k : κ} {missing : String} {g : σ → Option α} (h : τ → Option α)
    (hg : ∀ s, g s = h (f s)) : Observes f (Action.lookup k missing g) := by
  refine bind (query h hg) fun o => ?_
  cases o
  · exact fail
  · exact pure

end Observes

end Action

end Portainer
