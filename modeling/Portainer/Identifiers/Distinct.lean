import Portainer.Inventory.Model.Endpoints
import Portainer.Stacks.Helpers.Handlers
/-!
# Identifiers handed out once

A creation sets the counter of its bucket to the identifier that it has in
hand. If another creation has drawn in the meantime, this puts the counter
back, and the next draw hands out an identifier that is in use
(`not_freshIdentifiers`).

Creations that store their record before anybody draws again never meet
(`freshIdentifiers_of_run`).
-/

/-!
## Identifiers — transactions of concurrent requests

A creation of a stack or of an endpoint draws its identifier in one
transaction and stores the record in another, after whatever it does in
between. Any number of creations and deletions take turns at the database.
A turn takes one request through its next transaction.
-/

namespace Portainer

namespace Identifiers

open Stacks (Host onServer)

/-- Which bucket a request works on. -/
inductive Kind
  | stack
  | endpoint
  deriving DecidableEq, Repr

/-- The record of a creation, by the identifier that will be drawn. -/
inductive Draft
  | stack (record : StackID → Stack)
  | endpoint (record : EndpointID → Endpoint)

def Draft.kind : Draft → Kind
  | stack _ => .stack
  | endpoint _ => .endpoint

/-! ## The transactions -/

/-- `GetNextIdentifier`. -/
def getNextIdentifier : Kind → Fallible Host Int
  | .stack => onServer Server.stack.getNextIdentifier
  | .endpoint => onServer Server.endpoint.getNextIdentifier

/-- `CreateStack` and `CreateEndpoint`. -/
def createObject (id : Int) : Draft → Fallible Host Unit
  | .stack record => Stacks.createStack { record id with id := id }
  | .endpoint record => onServer (Inventory.persistEndpoint { record id with id := id })

/-- `DeleteStack` and `DeleteEndpoint`. -/
def deleteObject (id : Int) : Kind → Fallible Host Unit
  | .stack => onServer (Server.stack.deleteObject id)
  | .endpoint => onServer (Server.endpoint.deleteObject id)

/-! ## The requests -/

inductive Request
  | create (draft : Draft)
  | delete (kind : Kind) (id : Int)

def Request.kind : Request → Kind
  | create draft => draft.kind
  | delete kind _ => kind

/-- Where a request stands: before its first transaction; with an
identifier in hand; or at its end. -/
inductive Stage
  | ready
  | drawn (id : Int)
  | succeeded (id : Int)
  | failed (id : Int)
  | returned
  deriving DecidableEq, Repr

/-- The identifier a creation was handed out. -/
def Stage.id? : Stage → Option Int
  | drawn id => some id
  | succeeded id => some id
  | failed id => some id
  | _ => none

/-- The next transaction of a request. -/
def advance : Request → Stage → Fallible Host Stage
  | .create draft, .ready => do
    let id ← getNextIdentifier draft.kind
    return .drawn id
  | .create draft, .drawn id => do
    createObject id draft
    return .succeeded id
  | .delete kind id, .ready => do
    deleteObject id kind
    return .returned
  | _, stage => return stage

/-- Where a request ends whose transaction fails. A creation that stops
before its second transaction ends there as well. -/
def Stage.onFailure : Stage → Stage
  | drawn id => failed id
  | _ => returned

structure Thread where
  request : Request
  stage : Stage := .ready

/-- The requests, and the server they share. -/
structure Pool where
  host : Host
  threads : List Thread

/-- A turn: the request it takes on, and the outcome of its transaction. -/
structure Turn where
  thread : ℕ
  fault : Option String := none
  deriving DecidableEq, Repr

/-- The transaction of a turn succeeds or fails, all calls of it alike. -/
def Turn.faults (t : Turn) : Callee → List (Option String) := fun _ => [t.fault]

/-- The pool with one request at a new stage. -/
def Pool.goTo (p : Pool) (i : ℕ) (request : Request) (stage : Stage) (host : Host) : Pool where
  host := host
  threads := p.threads.set i ⟨request, stage⟩

/-- One turn. A request that has ended has none. -/
def turn (p : Pool) (t : Turn) : Option Pool :=
  match p.threads[t.thread]? with
  | none => none
  | some ⟨_, .succeeded _⟩ => none
  | some ⟨_, .failed _⟩ => none
  | some ⟨_, .returned⟩ => none
  | some ⟨request, stage⟩ =>
    match (advance request stage).run ⟨p.host, t.faults⟩ with
    | (.ok stage', w) => some (p.goTo t.thread request stage' w.store)
    | (.error _, w) => some (p.goTo t.thread request stage.onFailure w.store)

/-- **The interleavings.** -/
def interleavings : Machine Pool Turn := ⟨turn⟩

open Stacks (Host onServer)

variable {h h' : Host} {p p' : Pool} {t : Turn} {k : Kind} {id i : Int} {draft : Draft}

/-! ## What the buckets hold -/

/-- There is a record under the identifier. -/
def holds (k : Kind) (h : Host) (id : Int) : Bool :=
  match k with
  | .stack => (h.server.dataStore.stack.get? id).isSome
  | .endpoint => (h.server.dataStore.endpoint.get? id).isSome

/-- The counter of the bucket. -/
def sequence (k : Kind) (h : Host) : Int :=
  match k with
  | .stack => h.server.dataStore.stack.sequence
  | .endpoint => h.server.dataStore.endpoint.sequence

/-- The server after a draw. -/
def afterDraw (k : Kind) (h : Host) : Host :=
  match k with
  | .stack => { h with server := Server.stack.change Bucket.nextSequence h.server }
  | .endpoint => { h with server := Server.endpoint.change Bucket.nextSequence h.server }

/-- The server after a creation. -/
def afterCreate (id : Int) (draft : Draft) (h : Host) : Host :=
  match draft with
  | .stack record => { h with
      server := Server.stack.change (fun b => (b.setSequence id).put { record id with id := id }) h.server }
  | .endpoint record => { h with
      server := Server.endpoint.change (fun b => (b.setSequence id).put { record id with id := id }) h.server }

/-- The server after a deletion. -/
def afterDelete (id : Int) (k : Kind) (h : Host) : Host :=
  match k with
  | .stack => { h with server := Server.stack.change (·.delete id) h.server }
  | .endpoint => { h with server := Server.endpoint.change (·.delete id) h.server }

theorem holds_afterDraw (j : Kind) : holds j (afterDraw k h) i = holds j h i := by
  cases k <;> cases j <;> rfl

theorem sequence_afterDraw (j : Kind) :
    sequence j (afterDraw k h) = if j = k then sequence k h + 1 else sequence j h := by
  cases k <;> cases j <;> rfl

theorem holds_afterCreate (j : Kind) :
    holds j (afterCreate id draft h) i = if j = draft.kind ∧ id = i then true else holds j h i := by
  cases draft with
  | stack record =>
    cases j with
    | endpoint => rfl
    | stack =>
      have hget : (afterCreate id (.stack record) h).server.dataStore.stack.get? i =
          if id = i then some { record id with id := id } else h.server.dataStore.stack.get? i :=
        Bucket.get?_put
      simp only [holds, hget, Draft.kind, true_and]
      split <;> rfl
  | endpoint record =>
    cases j with
    | stack => rfl
    | endpoint =>
      have hget : (afterCreate id (.endpoint record) h).server.dataStore.endpoint.get? i =
          if id = i then some { record id with id := id } else h.server.dataStore.endpoint.get? i :=
        Bucket.get?_put
      simp only [holds, hget, Draft.kind, true_and]
      split <;> rfl

theorem sequence_afterCreate (j : Kind) :
    sequence j (afterCreate id draft h) = if j = draft.kind then id else sequence j h := by
  cases draft <;> cases j <;> rfl

theorem holds_afterDelete (j : Kind) (hi : holds j (afterDelete id k h) i = true) : holds j h i = true := by
  have hdelete : ∀ {α : Type} [Record α] {b : Bucket α},
      ((b.delete id).get? i).isSome = true → (b.get? i).isSome = true := by
    intro α _ b hb
    rw [Bucket.get?_delete] at hb
    split at hb
    · nomatch hb
    · exact hb
  cases k <;> cases j
  · exact hdelete hi
  · exact hi
  · exact hi
  · exact hdelete hi

theorem sequence_afterDelete (j : Kind) : sequence j (afterDelete id k h) = sequence j h := by
  cases k <;> cases j <;> rfl

/-! ## One turn -/

/-- **What a turn can do.** -/
inductive Outcome (p : Pool) (i : ℕ) (fault : Option String) : Request → Stage → Stage → Host → Prop
  | drawn (draft : Draft) (hfault : fault = none) : Outcome p i fault (.create draft) .ready
      (.drawn (sequence draft.kind p.host + 1)) (afterDraw draft.kind p.host)
  | drawnNothing (draft : Draft) (hfault : fault ≠ none) :
      Outcome p i fault (.create draft) .ready (.drawn 0) p.host
  | created (draft : Draft) (id : Int) (hfault : fault = none) :
      Outcome p i fault (.create draft) (.drawn id) (.succeeded id) (afterCreate id draft p.host)
  | failed (draft : Draft) (id : Int) : Outcome p i fault (.create draft) (.drawn id) (.failed id) p.host
  | deleted (k : Kind) (id : Int) :
      Outcome p i fault (.delete k id) .ready .returned (afterDelete id k p.host)
  | refused (k : Kind) (id : Int) : Outcome p i fault (.delete k id) .ready .returned p.host
  | idle (k : Kind) (id i' : Int) :
      Outcome p i fault (.delete k id) (.drawn i') (.drawn i') p.host

theorem turn_cases (hturn : turn p t = some p') : ∃ request stage stage' h',
    p.threads[t.thread]? = some ⟨request, stage⟩ ∧ p' = p.goTo t.thread request stage' h' ∧
      Outcome p t.thread t.fault request stage stage' h' := by
  obtain ⟨i, fault⟩ := t
  unfold turn at hturn
  cases hthread : p.threads[i]? with
  | none => simp [hthread] at hturn
  | some thread =>
    obtain ⟨request, stage⟩ := thread
    simp only [hthread] at hturn
    cases stage with
    | ready =>
      cases request with
      | create draft =>
        cases fault with
        | none =>
          refine ⟨_, _, _, _, rfl, ?_, .drawn draft rfl⟩
          cases draft <;> exact (Option.some.inj hturn).symm
        | some text =>
          refine ⟨_, _, _, _, rfl, ?_, .drawnNothing draft (Option.some_ne_none text)⟩
          cases draft <;> exact (Option.some.inj hturn).symm
      | delete k id =>
        cases fault with
        | none =>
          refine ⟨_, _, _, _, rfl, ?_, .deleted k id⟩
          cases k <;> exact (Option.some.inj hturn).symm
        | some text =>
          refine ⟨_, _, _, _, rfl, ?_, .refused k id⟩
          cases k <;> exact (Option.some.inj hturn).symm
    | drawn id =>
      cases request with
      | create draft =>
        cases fault with
        | none =>
          refine ⟨_, _, _, _, rfl, ?_, .created draft id rfl⟩
          cases draft <;> exact (Option.some.inj hturn).symm
        | some text =>
          refine ⟨_, _, _, _, rfl, ?_, .failed draft id⟩
          cases draft <;> exact (Option.some.inj hturn).symm
      | delete k id' => exact ⟨_, _, _, _, rfl, (Option.some.inj hturn).symm, .idle k id' id⟩
    | succeeded id => nomatch hturn
    | failed id => nomatch hturn
    | returned => nomatch hturn

theorem threads_goTo {n j : ℕ} {request : Request} {stage stage' : Stage}
    (hthread : p.threads[n]? = some ⟨request, stage⟩) :
    (p.goTo n request stage' h').threads[j]? = if n = j then some ⟨request, stage'⟩ else p.threads[j]? := by
  have hlt : n < p.threads.length := (List.getElem?_eq_some_iff.mp hthread).1
  by_cases hj : n = j
  · subst hj
    simp [Pool.goTo, hlt]
  · simp [Pool.goTo, hj]

/-! ## The properties -/

/-- Two creations of one kind that both succeeded have different
identifiers. -/
def SucceedApart (p : Pool) : Prop :=
  ∀ (n m : ℕ) (a b : Thread) (id : Int), p.threads[n]? = some a → p.threads[m]? = some b →
    a.request.kind = b.request.kind → a.stage = .succeeded id → b.stage = .succeeded id → n = m

/-- The counter of a bucket is no less than any identifier that is stored
or was handed out. -/
def CounterAhead (p : Pool) : Prop :=
  (∀ k id, holds k p.host id = true → id ≤ sequence k p.host) ∧
    ∀ thread ∈ p.threads, ∀ id, thread.stage.id? = some id → id ≤ sequence thread.request.kind p.host

/-- The turn does not store a record where there is one. -/
def OverwritesNothing (p : Pool) (t : Turn) : Prop :=
  ∀ draft id, p.threads[t.thread]? = some ⟨.create draft, .drawn id⟩ → t.fault = none →
    holds draft.kind p.host id = false

/-- **The turn does not put a counter back**: a draw goes through, and a
creation stores its record while the last number drawn is its own. -/
def InOrder (p : Pool) (t : Turn) : Prop :=
  match p.threads[t.thread]? with
  | some ⟨.create _, .ready⟩ => t.fault = none
  | some ⟨.create draft, .drawn id⟩ => t.fault = none → sequence draft.kind p.host ≤ id
  | _ => True

/-- **The pool has handed out each identifier once.** -/
structure Fresh (p : Pool) : Prop where
  bounded : ∀ k id, holds k p.host id = true → id ≤ sequence k p.host
  handed : ∀ (n : ℕ) (a : Thread) (id : Int), p.threads[n]? = some a → a.stage.id? = some id →
    id ≤ sequence a.request.kind p.host
  distinct : ∀ (n m : ℕ) (a b : Thread) (id : Int), p.threads[n]? = some a → p.threads[m]? = some b →
    a.request.kind = b.request.kind → a.stage.id? = some id → b.stage.id? = some id → n = m
  /-- There is no record yet under an identifier that is in hand. -/
  unused : ∀ (n : ℕ) (a : Thread) (id : Int), p.threads[n]? = some a → a.stage = .drawn id →
    holds a.request.kind p.host id = false
  /-- Deletions have no identifier in hand. -/
  deletions : ∀ (n : ℕ) (a : Thread) (k : Kind) (id : Int), p.threads[n]? = some a →
    a.request = .delete k id → a.stage.id? = none

namespace Fresh

variable {n : ℕ} {request : Request} {stage stage' : Stage}

/-- A turn after which the request has what identifier it had, and is not
about to store a record. -/
theorem goTo_same (hp : Fresh p) (hthread : p.threads[n]? = some ⟨request, stage⟩)
    (hid : stage'.id? = stage.id?) (hnot : ∀ id, stage' ≠ .drawn id)
    (hsequence : ∀ k, sequence k h' = sequence k p.host)
    (hbounded : ∀ k id, holds k h' id = true → id ≤ sequence k p.host)
    (hunused : ∀ (m : ℕ) (a : Thread) (id : Int), n ≠ m → p.threads[m]? = some a →
      a.stage = .drawn id → holds a.request.kind h' id = false) :
    Fresh (p.goTo n request stage' h') := by
  -- every request is where it was before, up to the stage of this one
  have hback : ∀ {m : ℕ} {a : Thread}, (p.goTo n request stage' h').threads[m]? = some a →
      ∃ a₀, p.threads[m]? = some a₀ ∧ a.request = a₀.request ∧ a.stage.id? = a₀.stage.id? := by
    intro m a ha
    rw [threads_goTo hthread] at ha
    split at ha
    · rename_i hnm
      obtain rfl := Option.some.inj ha
      exact ⟨⟨request, stage⟩, hnm ▸ hthread, rfl, hid⟩
    · exact ⟨a, ha, rfl, rfl⟩
  constructor
  · intro k id hk
    exact (hbounded k id hk).trans_eq (hsequence k).symm
  · intro m a id ha hi
    obtain ⟨a₀, ha₀, hrequest, hstage⟩ := hback ha
    have hle := hp.handed m a₀ id ha₀ (hstage ▸ hi)
    rw [hrequest]
    exact hle.trans_eq (hsequence _).symm
  · intro m m' a b id ha hb hkind hia hib
    obtain ⟨a₀, ha₀, hra, hsa⟩ := hback ha
    obtain ⟨b₀, hb₀, hrb, hsb⟩ := hback hb
    exact hp.distinct m m' a₀ b₀ id ha₀ hb₀ (by rw [← hra, ← hrb, hkind]) (hsa ▸ hia) (hsb ▸ hib)
  · intro m a id ha hdrawn
    rw [threads_goTo hthread] at ha
    split at ha
    · obtain rfl := Option.some.inj ha
      exact absurd hdrawn (hnot id)
    · rename_i hnm
      exact hunused m a id hnm ha hdrawn
  · intro m a k id ha hdelete
    obtain ⟨a₀, ha₀, hrequest, hstage⟩ := hback ha
    rw [hstage]
    exact hp.deletions m a₀ k id ha₀ (hrequest ▸ hdelete)

/-- A draw hands out a number that is above all others. -/
theorem draw (hp : Fresh p) (hthread : p.threads[n]? = some ⟨.create draft, .ready⟩) :
    Fresh (p.goTo n (.create draft) (.drawn (sequence draft.kind p.host + 1))
      (afterDraw draft.kind p.host)) := by
  have hle : ∀ k, sequence k p.host ≤ sequence k (afterDraw draft.kind p.host) := by
    intro k
    rw [sequence_afterDraw]
    split
    · rename_i hk
      subst hk
      omega
    · exact le_refl _
  have hnew : sequence draft.kind (afterDraw draft.kind p.host) = sequence draft.kind p.host + 1 := by
    rw [sequence_afterDraw, if_pos rfl]
  constructor
  · intro k id hk
    rw [show (p.goTo n (.create draft) _ (afterDraw draft.kind p.host)).host =
      afterDraw draft.kind p.host from rfl, holds_afterDraw] at hk
    exact (hp.bounded k id hk).trans (hle k)
  · intro m a id ha hi
    rw [threads_goTo hthread] at ha
    split at ha
    · obtain rfl := Option.some.inj ha
      obtain rfl := Option.some.inj hi
      exact hnew.ge
    · exact (hp.handed m a id ha hi).trans (hle _)
  · intro m m' a b id ha hb hkind hia hib
    rw [threads_goTo hthread] at ha hb
    -- the new number is larger than those that the others have
    have hother : ∀ {j : ℕ} {c : Thread}, p.threads[j]? = some c → c.request.kind = draft.kind →
        c.stage.id? ≠ some (sequence draft.kind p.host + 1) := by
      intro j c hc hck hci
      have hbound := hp.handed j c _ hc hci
      rw [hck] at hbound
      omega
    split at ha
    · rename_i hm
      obtain rfl := Option.some.inj ha
      obtain rfl := Option.some.inj hia
      split at hb
      · rename_i hm'
        exact hm.symm.trans hm'
      · exact absurd hib (hother hb hkind.symm)
    · split at hb
      · obtain rfl := Option.some.inj hb
        obtain rfl := Option.some.inj hib
        exact absurd hia (hother ha hkind)
      · exact hp.distinct m m' a b id ha hb hkind hia hib
  · intro m a id ha hdrawn
    rw [show (p.goTo n (.create draft) _ (afterDraw draft.kind p.host)).host =
      afterDraw draft.kind p.host from rfl, holds_afterDraw]
    rw [threads_goTo hthread] at ha
    split at ha
    · obtain rfl := Option.some.inj ha
      obtain rfl := Stage.drawn.inj hdrawn
      by_contra hheld
      have hbound := hp.bounded _ _ (by simpa using hheld)
      simp only [Request.kind] at hbound
      omega
    · exact hp.unused m a id ha hdrawn
  · intro m a k id ha hdelete
    rw [threads_goTo hthread] at ha
    split at ha
    · obtain rfl := Option.some.inj ha
      nomatch hdelete
    · exact hp.deletions m a k id ha hdelete

/-- **One turn, in order.** -/
theorem turn (hp : Fresh p) (hC : InOrder p t) (hturn : Identifiers.turn p t = some p') : Fresh p' := by
  obtain ⟨request, stage, stage', h', hthread, rfl, hcase⟩ := turn_cases hturn
  have hsame : ∀ {stage' : Stage}, stage'.id? = stage.id? → (∀ id, stage' ≠ .drawn id) →
      Fresh (p.goTo t.thread request stage' p.host) := fun hid hnot =>
    hp.goTo_same hthread hid hnot (fun _ => rfl) hp.bounded fun m a id _ => hp.unused m a id
  cases hcase with
  | drawn draft hfault => exact hp.draw hthread
  | drawnNothing draft hfault =>
    simp only [InOrder, hthread] at hC
    exact absurd hC hfault
  | created draft id hfault =>
    simp only [InOrder, hthread] at hC
    -- the number in hand is the last one drawn, so the counter stays
    have hcounter : sequence draft.kind p.host = id :=
      le_antisymm (hC hfault) (hp.handed _ _ id hthread rfl)
    have hsequence : ∀ k, sequence k (afterCreate id draft p.host) = sequence k p.host := by
      intro k
      rw [sequence_afterCreate]
      split
      · rename_i hk
        rw [hk, hcounter]
      · rfl
    refine hp.goTo_same hthread rfl (fun _ => nofun) hsequence (fun k i hi => ?_) ?_
    · rw [holds_afterCreate] at hi
      split at hi
      · rename_i hk
        rw [hk.1, hcounter, hk.2]
      · exact hp.bounded k i hi
    · intro m a i hnm ha hdrawn
      rw [holds_afterCreate, if_neg, hp.unused m a i ha hdrawn]
      rintro ⟨hkind, rfl⟩
      exact hnm (hp.distinct _ m _ a id hthread ha hkind.symm rfl (by rw [hdrawn]; rfl))
  | failed draft id => exact hsame rfl fun _ => nofun
  | deleted k id =>
    refine hp.goTo_same hthread rfl (fun _ => nofun) (fun _ => sequence_afterDelete _) ?_ ?_
    · exact fun j i hi => hp.bounded j i (holds_afterDelete j hi)
    · intro m a i _ ha hdrawn
      have hunused := hp.unused m a i ha hdrawn
      by_contra hheld
      rw [holds_afterDelete _ (by simpa using hheld)] at hunused
      nomatch hunused
  | refused k id => exact hsame rfl fun _ => nofun
  | idle k id i =>
    have hnone := hp.deletions _ _ k id hthread rfl
    nomatch hnone

theorem succeedApart (hp : Fresh p) : SucceedApart p := by
  intro n m a b id ha hb hkind hsa hsb
  exact hp.distinct n m a b id ha hb hkind (by rw [hsa]; rfl) (by rw [hsb]; rfl)

theorem counterAhead (hp : Fresh p) : CounterAhead p := by
  refine ⟨hp.bounded, fun thread hmem id hid => ?_⟩
  obtain ⟨n, hn⟩ := List.mem_iff_getElem?.mp hmem
  exact hp.handed n thread id hn hid

theorem overwritesNothing (hp : Fresh p) : OverwritesNothing p t :=
  fun _ id hthread _ => hp.unused _ _ id hthread rfl

end Fresh

/-- The requests before any of them has started, on a server whose counters
are no less than the identifiers stored. -/
structure Start (p : Pool) : Prop where
  stackIDs : p.host.server.dataStore.stack.Bounded
  endpointIDs : p.host.server.dataStore.endpoint.Bounded
  ready : ∀ thread ∈ p.threads, thread.stage = .ready

theorem Start.fresh (hp : Start p) : Fresh p := by
  have hready : ∀ {n : ℕ} {a : Thread}, p.threads[n]? = some a → a.stage = .ready :=
    fun ha => hp.ready _ (List.mem_of_getElem? ha)
  constructor
  · intro k id hk
    cases k with
    | stack =>
      obtain ⟨a, ha⟩ := Option.isSome_iff_exists.mp hk
      exact hp.stackIDs id a ha
    | endpoint =>
      obtain ⟨a, ha⟩ := Option.isSome_iff_exists.mp hk
      exact hp.endpointIDs id a ha
  · intro n a id ha hid
    rw [hready ha] at hid
    nomatch hid
  · intro n m a b id ha _ _ hid
    rw [hready ha] at hid
    nomatch hid
  · intro n a id ha hdrawn
    rw [hready ha] at hdrawn
    nomatch hdrawn
  · intro n a k id ha _
    rw [hready ha]
    rfl

/-- **Identifiers are handed out once** along turns that put no counter
back: creations that succeed are told apart by their identifiers, the
counters stay ahead, and nothing is overwritten on the way. -/
theorem freshIdentifiers_of_run {turns : List Turn} (hp : Start p)
    (hC : interleavings.Along InOrder p turns) :
    interleavings.Along OverwritesNothing p turns ∧
      ∀ p', interleavings.run p turns = some p' → SucceedApart p' ∧ CounterAhead p' := by
  have hkept : ∀ (p : Pool) (t : Turn) (p' : Pool), Fresh p → InOrder p t →
      interleavings.step p t = some p' → Fresh p' := fun _ _ _ hp hC hturn => hp.turn hC hturn
  refine ⟨?_, fun p' hrun => ?_⟩
  · exact Machine.along_of_invariant hkept (fun _ _ hp _ => hp.overwritesNothing) hp.fresh hC
  · have hfresh : Fresh p' := Machine.run_invariant hkept hp.fresh hC hrun
    exact ⟨hfresh.succeedApart, hfresh.counterAhead⟩

/-- Three creations of stacks on a new server. -/
def threeCreations : Pool where
  host := {}
  threads := List.replicate 3 ⟨.create (.stack fun id =>
    { id := id, type := .dockerCompose, endpointID := 1, entryPoint := [] }), .ready⟩

theorem start_threeCreations : Start threeCreations where
  stackIDs := fun i a h => by simp [threeCreations] at h
  endpointIDs := fun i a h => by simp [threeCreations] at h
  ready := by decide

/-- One creation after the other. -/
def oneByOne : List Turn := [⟨0, none⟩, ⟨0, none⟩, ⟨1, none⟩, ⟨1, none⟩]

theorem freshIdentifiers_of_run_oneByOne : interleavings.Along OverwritesNothing threeCreations oneByOne ∧
    ∃ p', interleavings.run threeCreations oneByOne = some p' ∧ SucceedApart p' ∧ CounterAhead p' := by
  have hC : interleavings.Along InOrder threeCreations oneByOne := by
    refine ⟨rfl, fun p₁ h₁ => ?_⟩
    obtain rfl := Option.some.inj h₁
    refine ⟨fun _ => by decide, fun p₂ h₂ => ?_⟩
    obtain rfl := Option.some.inj h₂
    refine ⟨rfl, fun p₃ h₃ => ?_⟩
    obtain rfl := Option.some.inj h₃
    exact ⟨fun _ => by decide, fun _ _ => trivial⟩
  obtain ⟨halong, hend⟩ := freshIdentifiers_of_run start_threeCreations hC
  exact ⟨halong, _, rfl, hend _ rfl⟩

/-- The first creation is slow: the second one draws and stores its record
before the first one does, and the third one draws after both. -/
def slowFirst : List Turn := [⟨0, none⟩, ⟨1, none⟩, ⟨1, none⟩, ⟨0, none⟩, ⟨2, none⟩, ⟨2, none⟩]

/-- **Two creations get one identifier**, and the second one stores its
record over that of the first. -/
theorem not_freshIdentifiers : ¬ ∀ (p : Pool) (turns : List Turn), Start p →
    interleavings.Along OverwritesNothing p turns ∧
      ∀ p', interleavings.run p turns = some p' → SucceedApart p' ∧ CounterAhead p' := by
  intro h
  obtain ⟨-, hend⟩ := h threeCreations slowFirst start_threeCreations
  obtain ⟨hapart, -⟩ := hend _ rfl
  -- the second and the third creation both end with number two
  exact absurd (hapart 1 2 _ _ 2 rfl rfl rfl rfl rfl) (by decide)

end Identifiers

end Portainer
