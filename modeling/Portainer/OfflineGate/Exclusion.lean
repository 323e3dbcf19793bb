import Portainer.OfflineGate.Model
/-!
# Exclusion — what the gate keeps out, in any order

A lock is held until its channel is closed. `Excludes` says of a turn that
it passes no request on while the lock that the request found is held, and
that an unlock function opens the gate for its own lock only. The gate
provides this along turns that are `Disciplined`: no request times out on a
lock that is held, and no unlock function is called again on a gate that is
locked (`excludes_of_run`).
-/

namespace Portainer

namespace OfflineGate

variable {p p' : Pool} {t : Turn} {o : OfflineGate} {i j k : ℕ} {c : Call} {stage stage' : Stage}

/-- The call is within `unlock`, past its check. -/
def Stage.unlocking : Stage → Bool
  | .closing | .clearing | .releasing => true
  | _ => false

/-- The call holds the mutex for itself. -/
def Stage.inside : Stage → Bool
  | .acquired => true
  | stage => stage.unlocking

/-- **The turn excludes**: a request that changes state and found a lock is
passed on only once the channel of that lock is closed, and an unlock
function closes and clears only the channel of the lock it is from. -/
def Excludes (p : Pool) (t : Turn) : Prop :=
  match p.calls[t.call]? with
  | some (.request method, .passing (some ch) _) => changesState method = true → ch ∈ p.gate.closed
  | some (.unlock i, .closing) =>
      ∀ ch, p.gate.signalingCh = some ch → ch ∉ p.gate.closed → p.channel i = some ch
  | some (.unlock i, .clearing) => p.gate.signalingCh = p.channel i
  | _ => True

/-- **The turn is disciplined**: a request times out only on a lock that is
not held any more, and an unlock function starts on a gate that is open, or
locked by its own lock with nobody about to open it. -/
def Disciplined (p : Pool) (t : Turn) : Prop :=
  match p.calls[t.call]? with
  | some (.request _, .waiting ch) => t.timesOut = true → ch ∈ p.gate.closed
  | some (.unlock i, .ready) => p.gate.signalingCh = none ∨
      p.gate.signalingCh = p.channel i ∧ ∀ call ∈ p.calls, call.2.unlocking = false
  | _ => True

instance : Decidable (Excludes p t) := by
  unfold Excludes
  split
  · infer_instance
  · rename_i i _
    cases hch : p.gate.signalingCh with
    | none => exact .isTrue nofun
    | some ch =>
      exact decidable_of_iff (ch ∉ p.gate.closed → p.channel i = some ch) ⟨fun h ch' hch' =>
        Option.some.inj hch' ▸ h, fun h => h ch rfl⟩
  all_goals infer_instance

instance : Decidable (Disciplined p t) := by
  unfold Disciplined
  split <;> infer_instance

/-! ## The invariant -/

/-- What the gate is like while a call stands at a stage. -/
def Stands (p : Pool) : Call → Stage → Prop
  | _, .acquired => p.gate.lock = true ∧ p.gate.signalingCh = none
  | .unlock i, .closing => p.gate.lock = true ∧
      ∃ ch, p.gate.signalingCh = some ch ∧ p.channel i = some ch ∧ ch ∉ p.gate.closed
  | .unlock i, .clearing => p.gate.lock = true ∧
      ∃ ch, p.gate.signalingCh = some ch ∧ p.channel i = some ch
  | _, .releasing => p.gate.lock = true ∧ p.gate.signalingCh = none
  | _, .closing => False
  | _, .clearing => False
  | _, .locked ch => ch < p.gate.made
  | .request method, .passing (some ch) _ => changesState method = true → ch ∈ p.gate.closed
  | _, _ => True

theorem Stands.lock (h : Stands p c stage) (hin : stage.inside = true) : p.gate.lock = true := by
  cases stage with
  | acquired => exact h.1
  | closing => cases c <;> first | exact h.1 | exact h.elim
  | clearing => cases c <;> first | exact h.1 | exact h.elim
  | releasing => exact h.1
  | _ => nomatch hin

/-- **The gate is guarded**: at most one call holds the mutex for itself, and
the channel that is current is open, unless its unlock function is about to
clear it. -/
structure Guarded (p : Pool) : Prop where
  stands : ∀ (i : ℕ) c stage, p.calls[i]? = some (c, stage) → Stands p c stage
  one : ∀ (i j : ℕ) c c' stage stage', p.calls[i]? = some (c, stage) → p.calls[j]? = some (c', stage') →
    stage.inside = true → stage'.inside = true → i = j
  current : ∀ ch, p.gate.signalingCh = some ch → p.gate.lock = true ∧ ch < p.gate.made ∧
    (ch ∈ p.gate.closed → ∃ (i : ℕ) (c : Call), p.calls[i]? = some (c, .clearing))
  closed : ∀ ch ∈ p.gate.closed, ch < p.gate.made

theorem guarded_start (calls : List Call) : Guarded (Pool.start calls) := by
  have hready : ∀ (i : ℕ) c stage, (Pool.start calls).calls[i]? = some (c, stage) → stage = .ready := by
    intro i c stage h
    simp only [Pool.start, List.getElem?_map, Option.map_eq_some_iff] at h
    obtain ⟨_, -, h⟩ := h
    exact (Prod.mk.inj h).2.symm
  refine ⟨fun i c stage h => ?_, fun i j c c' stage stage' h _ hin _ => ?_, nofun, nofun⟩
  · rw [hready i c stage h]
    cases c <;> trivial
  · rw [hready i c stage h] at hin
    nomatch hin

/-! ## One turn -/

/-- Nobody but the call `k` holds the mutex for itself. -/
def Alone (p : Pool) (k : ℕ) : Prop :=
  ∀ (i : ℕ) c stage, i ≠ k → p.calls[i]? = some (c, stage) → stage.inside = false

theorem Guarded.alone (h : Guarded p) (hk : p.calls[k]? = some (c, stage))
    (hin : stage.inside = true) : Alone p k := by
  intro i c' stage' hik hi
  by_contra hin'
  exact hik (h.one i k _ _ _ _ hi hk (by simpa using hin') hin)

/-- The mutex is free, so nobody is inside. -/
theorem Guarded.alone_of_free (h : Guarded p) (hfree : p.gate.lock = false) : Alone p k := by
  intro i c stage _ hi
  by_contra hin
  have hlock := (h.stands i c stage hi).lock (by simpa using hin)
  rw [hfree] at hlock
  nomatch hlock

theorem getElem?_set_self {α : Type} {l : List α} {a b : α} (h : l[k]? = some a) :
    (l.set k b)[k]? = some b := by
  obtain ⟨hlt, -⟩ := List.getElem?_eq_some_iff.mp h
  rw [List.getElem?_set_self hlt]

/-- What a call received stays received. -/
theorem channel_set (hk : p.calls[k]? = some (c, stage)) (hstage : ∀ ch, stage ≠ .locked ch) {ch : ℕ}
    (h : p.channel i = some ch) : Pool.channel ⟨o, p.calls.set k (c, stage')⟩ i = some ch := by
  by_cases hik : k = i
  · subst hik
    unfold Pool.channel at h
    rw [hk] at h
    split at h
    · rename_i ch' heq
      exact absurd (Prod.mk.inj (Option.some.inj heq)).2 (hstage ch')
    · nomatch h
  · unfold Pool.channel at h ⊢
    rw [List.getElem?_set_ne hik]
    exact h

/-- **A turn of one call**, where the gate stays as it is or the call is alone
inside. -/
theorem Guarded.next (h : Guarded p) (hk : p.calls[k]? = some (c, stage))
    (hstage : ∀ ch, stage ≠ .locked ch) (hclosed : ∀ ch ∈ p.gate.closed, ch ∈ o.closed)
    (hmade : p.gate.made ≤ o.made) (hgate : o = p.gate ∨ Alone p k)
    (halone : stage'.inside = true → Alone p k)
    (hstands : Stands ⟨o, p.calls.set k (c, stage')⟩ c stage')
    (hcurrent : ∀ ch, o.signalingCh = some ch → o.lock = true ∧ ch < o.made ∧
      (ch ∈ o.closed → stage' = .clearing ∨ ∃ (i : ℕ) (c : Call), i ≠ k ∧ p.calls[i]? = some (c, .clearing)))
    (hfresh : ∀ ch ∈ o.closed, ch < o.made) : Guarded ⟨o, p.calls.set k (c, stage')⟩ := by
  have hother : ∀ i : ℕ, i ≠ k → (p.calls.set k (c, stage'))[i]? = p.calls[i]? := fun i hik =>
    List.getElem?_set_ne (Ne.symm hik)
  have hself : (p.calls.set k (c, stage'))[k]? = some (c, stage') := getElem?_set_self hk
  refine ⟨fun i c₁ stage₁ hi => ?_, fun i j c₁ c₂ stage₁ stage₂ hi hj hin₁ hin₂ => ?_,
    fun ch hch => ?_, hfresh⟩
  · by_cases hik : i = k
    · subst hik
      obtain ⟨rfl, rfl⟩ := Prod.mk.inj (Option.some.inj (hself.symm.trans hi))
      exact hstands
    · rw [hother i hik] at hi
      have hold := h.stands i c₁ stage₁ hi
      rcases hgate with rfl | hgate
      · -- the gate is the same, and what was received stays received
        cases stage₁ with
        | closing =>
          cases c₁ with
          | unlock i₁ =>
            obtain ⟨hlock, ch, hch, hown, hopen⟩ := hold
            exact ⟨hlock, ch, hch, channel_set hk hstage hown, hopen⟩
          | _ => exact hold.elim
        | clearing =>
          cases c₁ with
          | unlock i₁ =>
            obtain ⟨hlock, ch, hch, hown⟩ := hold
            exact ⟨hlock, ch, hch, channel_set hk hstage hown⟩
          | _ => exact hold.elim
        | passing found timedOut => cases c₁ <;> cases found <;> exact hold
        | _ => cases c₁ <;> exact hold
      · have hout := hgate i c₁ stage₁ hik hi
        cases stage₁ with
        | locked ch => cases c₁ <;> exact Nat.lt_of_lt_of_le hold hmade
        | passing found timedOut =>
          cases c₁ <;> cases found <;> first | trivial | exact fun hm => hclosed _ (hold hm)
        | acquired => nomatch hout
        | closing => nomatch hout
        | clearing => nomatch hout
        | releasing => nomatch hout
        | _ => cases c₁ <;> trivial
  · by_cases hik : i = k
    · by_cases hjk : j = k
      · rw [hik, hjk]
      · subst hik
        obtain ⟨-, rfl⟩ := Prod.mk.inj (Option.some.inj (hself.symm.trans hi))
        rw [hother j hjk] at hj
        rw [halone hin₁ j _ _ hjk hj] at hin₂
        nomatch hin₂
    · by_cases hjk : j = k
      · subst hjk
        obtain ⟨-, rfl⟩ := Prod.mk.inj (Option.some.inj (hself.symm.trans hj))
        rw [hother i hik] at hi
        rw [halone hin₂ i _ _ hik hi] at hin₁
        nomatch hin₁
      · rw [hother i hik] at hi
        rw [hother j hjk] at hj
        exact h.one i j _ _ _ _ hi hj hin₁ hin₂
  · obtain ⟨hlock, hlt, hclearing⟩ := hcurrent ch hch
    refine ⟨hlock, hlt, fun hmem => ?_⟩
    rcases hclearing hmem with rfl | ⟨i, c₁, hik, hi⟩
    · exact ⟨k, c, hself⟩
    · exact ⟨i, c₁, (hother i hik).trans hi⟩

/-- A turn moves one call. -/
theorem turn_cases (h : turn p t = some p') : ∃ c stage stage' o,
    p.calls[t.call]? = some (c, stage) ∧ p.available c = true ∧
      advance p.gate t.timesOut c stage = some (stage', o) ∧
      p' = ⟨o, p.calls.set t.call (c, stage')⟩ := by
  unfold turn at h
  split at h
  · nomatch h
  · rename_i c stage hk
    split at h
    · rename_i havailable
      obtain ⟨⟨stage', o⟩, hadvance, rfl⟩ := Option.map_eq_some_iff.mp h
      exact ⟨c, stage, stage', o, hk, havailable, hadvance, rfl⟩
    · nomatch h

section Steps

variable {b : Bool}

/-- What holds of the current channel, where the gate stays as it is and the
call was not about to clear the channel. -/
theorem Guarded.current_of_same (h : Guarded p) (hk : p.calls[k]? = some (c, stage))
    (hstage : stage ≠ .clearing) (ch : ℕ) (hch : p.gate.signalingCh = some ch) :
    p.gate.lock = true ∧ ch < p.gate.made ∧ (ch ∈ p.gate.closed →
      stage' = .clearing ∨ ∃ (i : ℕ) (c : Call), i ≠ k ∧ p.calls[i]? = some (c, .clearing)) := by
  obtain ⟨hlock, hlt, hclearing⟩ := h.current ch hch
  refine ⟨hlock, hlt, fun hmem => ?_⟩
  obtain ⟨i, c', hi⟩ := hclearing hmem
  refine .inr ⟨i, c', fun hik => hstage ?_, hi⟩
  subst hik
  exact (Prod.mk.inj (Option.some.inj (hk.symm.trans hi))).2

/-- A turn that leaves the gate as it is, for a call that is not inside
after it. -/
theorem Guarded.stay (h : Guarded p) (hk : p.calls[k]? = some (c, stage))
    (hstage : ∀ ch, stage ≠ .locked ch) (hclearing : stage ≠ .clearing)
    (hout : stage'.inside = false)
    (hstands : Stands ⟨p.gate, p.calls.set k (c, stage')⟩ c stage') :
    Guarded ⟨p.gate, p.calls.set k (c, stage')⟩ :=
  h.next hk hstage (fun _ hch => hch) (Nat.le_refl _) (.inl rfl)
    (fun hin => by rw [hout] at hin; nomatch hin) hstands (h.current_of_same hk hclearing) h.closed

theorem Guarded.step_lock (h : Guarded p) (hk : p.calls[k]? = some (.lock, stage))
    (hadvance : advance p.gate b .lock stage = some (stage', o)) :
    Guarded ⟨o, p.calls.set k (.lock, stage')⟩ := by
  cases stage with
  | ready =>
    simp only [advance] at hadvance
    split at hadvance
    · nomatch hadvance
    · rename_i hfree
      rw [Bool.not_eq_true] at hfree
      obtain ⟨rfl, rfl⟩ := Prod.mk.inj (Option.some.inj hadvance)
      have halone : Alone p k := h.alone_of_free hfree
      -- a gate with a channel is held
      have hnone : p.gate.signalingCh = none := by
        cases hch : p.gate.signalingCh with
        | none => rfl
        | some ch =>
          have hlock := (h.current ch hch).1
          rw [hfree] at hlock
          nomatch hlock
      refine h.next hk nofun (fun _ hch => hch) (Nat.le_refl _) (.inr halone) (fun _ => halone)
        ⟨rfl, hnone⟩ (fun ch hch => ?_) h.closed
      rw [show p.gate.signalingCh = some ch from hch] at hnone
      nomatch hnone
  | acquired =>
    obtain ⟨rfl, rfl⟩ := Prod.mk.inj (Option.some.inj hadvance)
    have halone : Alone p k := h.alone hk rfl
    refine h.next hk nofun (fun _ hch => hch) (Nat.le_succ _) (.inr halone) nofun
      (Nat.lt_succ_self _) (fun ch hch => ?_) fun ch hch => Nat.lt_succ_of_lt (h.closed ch hch)
    obtain rfl := Option.some.inj hch
    refine ⟨(h.stands k _ _ hk).1, Nat.lt_succ_self _, fun hmem => ?_⟩
    exact absurd (h.closed _ hmem) (Nat.lt_irrefl _)
  | _ => nomatch hadvance

theorem Guarded.step_unlock (h : Guarded p) (hk : p.calls[k]? = some (.unlock i, stage))
    (hready : stage = .ready → p.gate.signalingCh = none ∨
      p.gate.signalingCh = p.channel i ∧ ∀ call ∈ p.calls, call.2.unlocking = false)
    (hadvance : advance p.gate b (.unlock i) stage = some (stage', o)) :
    Guarded ⟨o, p.calls.set k (.unlock i, stage')⟩ := by
  cases stage with
  | ready =>
    simp only [advance] at hadvance
    split at hadvance
    · obtain ⟨rfl, rfl⟩ := Prod.mk.inj (Option.some.inj hadvance)
      exact h.stay hk nofun nofun rfl trivial
    · rename_i ch hch
      obtain ⟨rfl, rfl⟩ := Prod.mk.inj (Option.some.inj hadvance)
      obtain ⟨hlock, -, hclearing⟩ := h.current ch hch
      rcases hready rfl with hnone | ⟨hown, hnobody⟩
      · rw [hch] at hnone
        nomatch hnone
      · -- who is inside without unlocking has found no channel
        have halone : Alone p k := by
          intro j c stage _ hj
          have hout := hnobody _ (List.mem_of_getElem? hj)
          cases stage with
          | acquired =>
            have hnone := (h.stands j c _ hj).2
            rw [hch] at hnone
            nomatch hnone
          | _ => exact hout
        have hopen : ch ∉ p.gate.closed := by
          intro hmem
          obtain ⟨j, c, hj⟩ := hclearing hmem
          nomatch hnobody _ (List.mem_of_getElem? hj)
        exact h.next hk nofun (fun _ hch => hch) (Nat.le_refl _) (.inl rfl) (fun _ => halone)
          ⟨hlock, ch, hch, channel_set hk nofun (hown.symm.trans hch), hopen⟩
          (h.current_of_same hk nofun) h.closed
  | closing =>
    obtain ⟨hlock, ch, hch, hown, hopen⟩ := h.stands k _ _ hk
    simp only [advance, hch, if_neg hopen] at hadvance
    obtain ⟨rfl, rfl⟩ := Prod.mk.inj (Option.some.inj hadvance)
    have halone : Alone p k := h.alone hk rfl
    have hlt := (h.current ch hch).2.1
    refine h.next hk nofun (fun _ hmem => List.mem_cons_of_mem ch hmem) (Nat.le_refl _) (.inr halone)
      (fun _ => halone) ⟨hlock, ch, rfl, channel_set hk nofun hown⟩ (fun ch' hch' => ?_) fun ch' hmem => ?_
    · obtain rfl := Option.some.inj hch'
      exact ⟨hlock, hlt, fun _ => .inl rfl⟩
    · rcases List.mem_cons.mp hmem with rfl | hmem
      · exact hlt
      · exact h.closed ch' hmem
  | clearing =>
    obtain ⟨hlock, -⟩ := h.stands k _ _ hk
    obtain ⟨rfl, rfl⟩ := Prod.mk.inj (Option.some.inj hadvance)
    have halone : Alone p k := h.alone hk rfl
    exact h.next hk nofun (fun _ hmem => hmem) (Nat.le_refl _) (.inr halone) (fun _ => halone)
      ⟨hlock, rfl⟩ nofun h.closed
  | releasing =>
    obtain ⟨hlock, hnone⟩ := h.stands k _ _ hk
    simp only [advance, if_pos hlock] at hadvance
    obtain ⟨rfl, rfl⟩ := Prod.mk.inj (Option.some.inj hadvance)
    have halone : Alone p k := h.alone hk rfl
    refine h.next hk nofun (fun _ hmem => hmem) (Nat.le_refl _) (.inr halone) nofun trivial
      (fun ch hch => ?_) h.closed
    rw [show p.gate.signalingCh = some ch from hch] at hnone
    nomatch hnone
  | _ => nomatch hadvance

theorem Guarded.step_request {method : String} (h : Guarded p)
    (hk : p.calls[k]? = some (.request method, stage))
    (htimeout : ∀ ch, stage = .waiting ch → b = true → ch ∈ p.gate.closed)
    (hadvance : advance p.gate b (.request method) stage = some (stage', o)) :
    Guarded ⟨o, p.calls.set k (.request method, stage')⟩ := by
  cases stage with
  | ready =>
    simp only [advance] at hadvance
    split at hadvance
    · obtain ⟨rfl, rfl⟩ := Prod.mk.inj (Option.some.inj hadvance)
      exact h.stay hk nofun nofun rfl trivial
    · rename_i ch hch
      obtain ⟨rfl, rfl⟩ := Prod.mk.inj (Option.some.inj hadvance)
      by_cases hm : changesState method = true
      · rw [if_pos hm]
        exact h.stay hk nofun nofun rfl trivial
      · rw [if_neg hm]
        exact h.stay hk nofun nofun rfl fun hm' => absurd hm' hm
  | waiting ch =>
    -- the channel is closed on either branch
    have hclosed : o = p.gate ∧ ch ∈ p.gate.closed ∧ ∃ timedOut, stage' = .passing (some ch) timedOut := by
      simp only [advance] at hadvance
      split at hadvance
      · rename_i hb
        obtain ⟨rfl, rfl⟩ := Prod.mk.inj (Option.some.inj hadvance)
        exact ⟨rfl, htimeout ch rfl hb, true, rfl⟩
      · split at hadvance
        · rename_i hmem
          obtain ⟨rfl, rfl⟩ := Prod.mk.inj (Option.some.inj hadvance)
          exact ⟨rfl, hmem, false, rfl⟩
        · nomatch hadvance
    obtain ⟨rfl, hmem, timedOut, rfl⟩ := hclosed
    exact h.stay hk nofun nofun rfl fun _ => hmem
  | passing found timedOut =>
    obtain ⟨rfl, rfl⟩ := Prod.mk.inj (Option.some.inj hadvance)
    exact h.stay hk nofun nofun rfl trivial
  | _ => nomatch hadvance

end Steps

/-- **A disciplined turn keeps the gate guarded.** -/
theorem Guarded.step (h : Guarded p) (hC : Disciplined p t) (hstep : turn p t = some p') :
    Guarded p' := by
  obtain ⟨c, stage, stage', o, hk, -, hadvance, rfl⟩ := turn_cases hstep
  unfold Disciplined at hC
  rw [hk] at hC
  cases c with
  | lock => exact h.step_lock hk hadvance
  | unlock i => exact h.step_unlock hk (fun hready => by subst hready; exact hC) hadvance
  | request method => exact h.step_request hk (fun ch hwaiting => by subst hwaiting; exact hC) hadvance

/-- A guarded gate excludes. -/
theorem Guarded.excludes (h : Guarded p) : Excludes p t := by
  unfold Excludes
  split
  · rename_i hk
    exact h.stands _ _ _ hk
  · rename_i hk
    intro ch hch _
    obtain ⟨-, ch', hch', hown, -⟩ := h.stands _ _ _ hk
    rw [hown, ← hch', hch]
  · rename_i hk
    obtain ⟨-, ch, hch, hown⟩ := h.stands _ _ _ hk
    rw [hch, hown]
  · trivial

/-! ## Runs -/

/-- **Every turn of a disciplined interleaving excludes**, for any calls. -/
theorem excludes_of_run {calls : List Call} {turns : List Turn}
    (hC : interleavings.Along Disciplined (Pool.start calls) turns) :
    interleavings.Along Excludes (Pool.start calls) turns :=
  Machine.along_of_invariant (fun _ _ _ h hC hstep => h.step hC hstep) (fun _ _ h _ => h.excludes)
    (guarded_start calls) hC

/-- A request that waits for the gate, which is then locked again, and the
first unlock function called twice. -/
def lockedTwice : List Call := [.lock, .request "POST", .unlock 0, .unlock 0, .lock, .unlock 4]

theorem excludes_of_run_lockedTwice : interleavings.Along Excludes (Pool.start lockedTwice)
    ([0, 0, 1, 2, 2, 2, 2, 1, 3, 4, 4, 1, 5, 5, 5, 5].map (⟨·, false⟩)) :=
  excludes_of_run (by decide)

/-- **A request that times out is passed on while the gate is locked**, and an
unlock function that is called again opens the gate for the next lock. -/
theorem not_excludes : ¬ interleavings.Along Excludes (Pool.start [.lock, .request "POST"])
      [⟨0, false⟩, ⟨0, false⟩, ⟨1, false⟩, ⟨1, true⟩, ⟨1, false⟩] ∧
    ¬ interleavings.Along Excludes (Pool.start [.lock, .unlock 0, .lock, .unlock 0])
      ([0, 0, 1, 1, 1, 1, 2, 2, 3, 3].map (⟨·, false⟩)) :=
  ⟨by decide, by decide⟩

end OfflineGate

end Portainer
