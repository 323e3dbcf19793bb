import Portainer.Common.JsonMeaning
import Portainer.DockerProxy.Helpers.Selecting
/-!
# Encoding — a list as it is sent, and as it is returned

An answer is decoded before it is filtered, and encoded again after. So the
objects the filter looks at are maps whose numbers are those a `float64` has
room for, and that is how they are returned. `Listed.finds_returned` carries
what the filter does with decoded objects over to the lists themselves.
-/

namespace Portainer

namespace DockerProxy

open Json (Object)

/-- **An answer as it is received**, with its body decoded. -/
def Response.received (sent : Response) : Response :=
  { sent with body := sent.body.bind fun v => (v.decode.map Json.asMaps).elim (.error errUnmarshal) .ok }

/-- **An answer as it is returned**, with its body encoded. -/
def Response.returned (answer : Response) : Response := { answer with body := answer.body.map Json.encode }

/-- The numbers in the body are in the range of a `float64`. -/
def Response.InRange (sent : Response) : Prop :=
  ∀ v, sent.body = .ok v → ∀ q ∈ v.numbers, (Float64.nearest q).isSome

section Bodies

variable {sent answer : Response} {v w : Json}

theorem received_body (h : sent.received.body = .ok w) : ∃ v, sent.body = .ok v ∧ w = v.asInterface := by
  obtain ⟨status, body⟩ := sent
  cases body with
  | error e => cases h
  | ok v =>
    refine ⟨v, rfl, ?_⟩
    change (v.decode.map Json.asMaps).elim _ _ = _ at h
    cases hdecode : v.decode with
    | none =>
      rw [hdecode] at h
      cases h
    | some decoded =>
      rw [hdecode] at h
      rw [Json.asInterface, ← (Json.decode_eq_some_iff.mp hdecode).2]
      exact (Except.ok.inj h).symm

theorem received_body_of_inRange (h : sent.InRange) (hbody : sent.body = .ok v) :
    sent.received.body = .ok v.asInterface := by
  obtain ⟨status, body⟩ := sent
  obtain rfl : body = .ok v := hbody
  have hdecode : v.decode = some v.toFloat64 := Json.decode_eq_some_iff.mpr ⟨h v rfl, rfl⟩
  change (v.decode.map Json.asMaps).elim _ _ = _
  rw [hdecode]
  rfl

end Bodies

/-- What differs at some members differs there when it is encoded. -/
theorem SameBut.encode {keys : List String} {v v' : Json} (h : SameBut keys v v') :
    SameBut keys v.encode v'.encode := by
  obtain ⟨o, o', rfl, rfl, hsame⟩ := h
  have hwithout : ∀ object : Object, without keys (object.map fun m => (m.1, m.2.encode)) =
      (without keys object).map fun m => (m.1, m.2.encode) := fun object => List.filter_map
  refine ⟨_, _, Json.map_obj _ o, Json.map_obj _ o', ?_⟩
  exact (hwithout o').trans ((congrArg (List.map _) hsame).trans (hwithout o).symm)

namespace Listed

variable {K : Listed} {t : Transport} {executor : OperationExecutor} {sent answer : Response}
variable {db : DataStore} {reliable : Prop} {data : List Json}

/-- **What is returned of a list that is sent**: of what the user is shown,
as Portainer reads it, nothing is left out, unless a read fails and the user
is no administrator. It is returned as it was read, but for the members the
proxy sets. -/
def Returned (K : Listed) (t : Transport) (db : DataStore) (reliable : Prop)
    (executor : OperationExecutor) (sent answer : Response) : Prop :=
  ∃ data kept, K.list sent = some data ∧ K.list answer = some kept ∧
    Selects
      (fun v => (executor.operationContext.isAdmin ∨ reliable) ∧ K.Shown t db executor v.asInterface)
      (fun v => K.Shown t db executor v.asInterface)
      (fun v v' => SameBut K.added v.asInterface.encode v') data kept

/-- The list in a body whose parts are changed. -/
theorem list_inside {f : Json → Json} (hf : Json.Inside f) {status : ℕ} {v : Json} :
    K.list ⟨status, .ok (f v)⟩ = (K.list ⟨status, .ok v⟩).map (List.map f) := by
  cases v with
  | null => rw [hf.null]; cases K <;> rfl
  | bool b => rw [hf.bool]; cases K <;> rfl
  | num q =>
    obtain ⟨q', hq⟩ := hf.num q
    rw [hq]
    cases K <;> rfl
  | str text => rw [hf.str]; cases K <;> rfl
  | arr l => rw [hf.arr]; cases K <;> rfl
  | obj members =>
    obtain ⟨o, ho, hlast⟩ := hf.obj members
    rw [ho]
    cases K with
    | volume =>
      unfold list
      dsimp only
      rw [hf.get hlast]
      cases Object.get members "Volumes" with
      | null => rw [hf.null]; rfl
      | bool b => rw [hf.bool]; rfl
      | num q =>
        obtain ⟨q', hq⟩ := hf.num q
        rw [hq]
        rfl
      | str text => rw [hf.str]; rfl
      | arr l => rw [hf.arr]; rfl
      | obj inner =>
        obtain ⟨o', ho', -⟩ := hf.obj inner
        rw [ho']
        rfl
    | _ => rfl

/-- The list that is received. -/
theorem list_received (h : K.list sent.received = some data) :
    ∃ raw, K.list sent = some raw ∧ data = raw.map Json.asInterface := by
  have hbody : ∃ w, sent.received.body = .ok w := by
    cases hw : sent.received.body with
    | ok w => exact ⟨w, rfl⟩
    | error e =>
      unfold list at h
      rw [hw] at h
      cases K <;> cases h
  obtain ⟨w, hw⟩ := hbody
  obtain ⟨v, hv, rfl⟩ := received_body hw
  have hreceived : sent.received = ⟨sent.statusCode, .ok v.asInterface⟩ := by rw [← hw]; rfl
  have hsent : sent = ⟨sent.statusCode, .ok v⟩ := by rw [← hv]
  rw [hreceived, list_inside Json.inside_asInterface, ← hsent] at h
  obtain ⟨raw, hraw, rfl⟩ := Option.map_eq_some_iff.mp h
  exact ⟨raw, hraw, rfl⟩

theorem list_received_of_inRange (hrange : sent.InRange) (h : K.list sent = some data) :
    K.list sent.received = some (data.map Json.asInterface) := by
  have hbody : ∃ v, sent.body = .ok v := by
    cases hv : sent.body with
    | ok v => exact ⟨v, rfl⟩
    | error e =>
      unfold list at h
      rw [hv] at h
      cases K <;> cases h
  obtain ⟨v, hv⟩ := hbody
  have hreceived : sent.received = ⟨sent.statusCode, .ok v.asInterface⟩ := by
    rw [← received_body_of_inRange hrange hv]
    rfl
  have hsent : sent = ⟨sent.statusCode, .ok v⟩ := by rw [← hv]
  rw [hreceived, list_inside Json.inside_asInterface, ← hsent, h]
  rfl

/-- The list that is returned. -/
theorem list_returned (h : K.list answer = some data) :
    K.list answer.returned = some (data.map Json.encode) := by
  obtain ⟨status, body⟩ := answer
  cases body with
  | error e => cases K <;> cases h
  | ok v => exact (list_inside (Json.inside_map _)).trans (congrArg (Option.map _) h)

/-- **What the filter does is what is returned.** -/
theorem Selected.returned (h : K.Selected t db reliable executor sent.received answer) :
    K.Returned t db reliable executor sent answer.returned := by
  obtain ⟨data, kept, hdata, hkept, hselects⟩ := h
  obtain ⟨raw, hraw, rfl⟩ := list_received hdata
  refine ⟨raw, _, hraw, list_returned hkept, ?_⟩
  have hread : Selects (fun _ => True) (fun _ => True) (fun v w => w = v.asInterface) raw
      (raw.map Json.asInterface) := .map (fun _ => trivial) fun _ => rfl
  have hwritten : Selects (fun _ => True) (fun _ => True) (fun v w => w = v.encode) kept
      (kept.map Json.encode) := .map (fun _ => trivial) fun _ => rfl
  have hboth : Selects
      (fun v => (executor.operationContext.isAdmin ∨ reliable) ∧ K.Shown t db executor v)
      (K.Shown t db executor) (fun v v' => SameBut K.added v.encode v') (raw.map Json.asInterface)
      (kept.map Json.encode) := by
    refine hselects.trans hwritten (fun _ h => h) (fun _ _ _ h => absurd trivial h) ?_
    rintro v v' _ hmay hsame - rfl
    exact ⟨hmay, hsame.encode⟩
  refine hread.trans hboth (fun _ h => absurd trivial h) ?_ ?_
  · rintro v _ rfl h
    exact h
  · rintro v _ v' - rfl hmay hsame
    exact ⟨hmay, hsame⟩

end Listed

end DockerProxy

end Portainer
