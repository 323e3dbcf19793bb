import Portainer.Common.Machine
/-!
# The offline gate — model

`OfflineGate` of `http/offlinegate`: a mutex, and a channel that is made by
`Lock` and closed by the unlock function. Requests go through
`WaitingMiddleware`. Every call is cut at its accesses to the gate, so that
any number of calls of `Lock`, of the functions it returned and of requests
run in any order of their turns.
-/

namespace Portainer

/-- The gate: `lock` and `signalingCh`, the number of channels made so far,
which are numbered in that order, and those that are closed. -/
structure OfflineGate where
  lock : Bool := false
  signalingCh : Option ℕ := none
  made : ℕ := 0
  closed : List ℕ := []

namespace OfflineGate

/-- A call. The function a call of `Lock` returned is named by that call. -/
inductive Call
  | lock
  | unlock (receivedFrom : ℕ)
  | request (method : String)
  deriving DecidableEq

/-- Where a call stands: before its first access, within `Lock`, within
`unlock`, or within the middleware. A request keeps the channel it found,
and whether it was answered with a timeout. -/
inductive Stage
  | ready
  | acquired
  | locked (ch : ℕ)
  | closing
  | clearing
  | releasing
  | returned
  | panicked
  | waiting (ch : ℕ)
  | passing (found : Option ℕ) (timedOut : Bool)
  | served (found : Option ℕ) (timedOut : Bool)
  deriving DecidableEq

/-- The methods that do not wait. -/
def changesState (method : String) : Bool :=
  method ≠ "GET" && method ≠ "HEAD" && method ≠ "OPTIONS"

/-- The next access of a call. `timesOut` says which branch of the `select`
is taken. There is none for a call that has ended or waits, and none where
the mutex is unlocked without being held, which ends the process. -/
def advance (o : OfflineGate) (timesOut : Bool) : Call → Stage → Option (Stage × OfflineGate)
  | .lock, .ready => if o.lock then none else some (.acquired, { o with lock := true })
  | .lock, .acquired =>
    some (.locked o.made, { o with signalingCh := some o.made, made := o.made + 1 })
  | .unlock _, .ready =>
    match o.signalingCh with
    | none => some (.returned, o)
    | some _ => some (.closing, o)
  | .unlock _, .closing =>
    match o.signalingCh with
    | none => some (.panicked, o)
    | some ch =>
      if ch ∈ o.closed then some (.panicked, o)
      else some (.clearing, { o with closed := ch :: o.closed })
  | .unlock _, .clearing => some (.releasing, { o with signalingCh := none })
  | .unlock _, .releasing => if o.lock then some (.returned, { o with lock := false }) else none
  | .request method, .ready =>
    match o.signalingCh with
    | none => some (.passing none false, o)
    | some ch => some (if changesState method then .waiting ch else .passing (some ch) false, o)
  | .request _, .waiting ch =>
    -- after the timeout the error is written, and the handler goes on
    if timesOut then some (.passing (some ch) true, o)
    else if ch ∈ o.closed then some (.passing (some ch) false, o)
    else none
  | .request _, .passing found timedOut => some (.served found timedOut, o)
  | _, _ => none

/-- The gate with all calls made to it. -/
structure Pool where
  gate : OfflineGate := {}
  calls : List (Call × Stage)

namespace Pool

/-- The calls before any of them has started. -/
def start (calls : List Call) : Pool := { calls := calls.map (·, .ready) }

/-- The channel that a call of `Lock` made, once it has returned. -/
def channel (p : Pool) (i : ℕ) : Option ℕ :=
  match p.calls[i]? with
  | some (.lock, .locked ch) => some ch
  | _ => none

/-- The call can be made: an unlock function has to be received first. -/
def available (p : Pool) : Call → Bool
  | .unlock receivedFrom => (p.channel receivedFrom).isSome
  | _ => true

end Pool

/-- A turn: the call that is taken over its next access, and which branch its
`select` takes. -/
structure Turn where
  call : ℕ
  timesOut : Bool := false

/-- One turn. -/
def turn (p : Pool) (t : Turn) : Option Pool :=
  match p.calls[t.call]? with
  | none => none
  | some (call, stage) =>
    if p.available call then
      (advance p.gate t.timesOut call stage).map fun r =>
        ⟨r.2, p.calls.set t.call (call, r.1)⟩
    else none

/-- The interleavings. -/
def interleavings : Machine Pool Turn := ⟨turn⟩

end OfflineGate

end Portainer
