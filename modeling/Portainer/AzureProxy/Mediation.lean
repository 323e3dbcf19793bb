import Portainer.AzureProxy.Model
/-!
# The Azure proxy — mediation

A request of a user is mediated if its answer shows a container group, or
the request changes one, only where the resource control of the group
grants the user access, and if a creation leaves exactly one resource
control for the new group and a deletion none. `azure_mediated_iff` says of each
request when it is.

Only the list of a subscription is mediated always. The answer to a GET of
one group is decorated and not checked, the check of a creation relies on
the answer to a GET, a deletion is checked by the path of the request and
cleaned up by the answer, and every other request goes through as it is:
the list of a resource group, and whatever starts, stops or patches a
group. `azure_not_mediated` is such a request.
-/

namespace Portainer

namespace AzureProxy

open Json (Object)
open DockerProxy (Response Local asObject getResponseAsJSONObject rewriteResponse)

/-! ## Azure -/

/-- **Azure and its container groups**: which identifiers are theirs, what it
answers, and which groups a request changes, deletes or creates. A GET leaves
them all as they are. Of the requests for one group, by its path, a PUT
deletes none and creates none but the one it answers with, and a DELETE
creates none. -/
structure Azure extends Transport where
  isContainerGroup : String → Bool
  changed : Request → List String := fun _ => []
  deleted : Request → List String := fun _ => []
  created : Request → List String := fun _ => []
  of_get : ∀ r, r.method = "GET" → changed r = [] ∧ deleted r = [] ∧ created r = []
  deleted_of_put : ∀ r, r.method = "PUT" → Path.match' azurePathContainerGroup r.path → deleted r = []
  created_of_delete : ∀ r, r.method = "DELETE" → Path.match' azurePathContainerGroup r.path → created r = []
  answer_of_put : ∀ r, r.method = "PUT" → Path.match' azurePathContainerGroup r.path → ∀ g ∈ created r,
    ∀ response o, roundTrip r = .ok response → response.body = .ok (.obj o) → containerGroupID o = some g

/-- The identifier of an element of a list. -/
def elementID : Json → Option String
  | .obj o => containerGroupID o
  | _ => none

/-- The container groups of an object: those of its list, or itself. What has
no identifier of a container group is none. -/
def groupsOf (azure : Azure) (o : Object) : List String :=
  (match o.get "value" with
  | .arr value => value.filterMap elementID
  | _ => (containerGroupID o).toList).filter azure.isContainerGroup

/-- The container groups in an answer. -/
def groupsIn (azure : Azure) (response : Response) : List String :=
  match response.body with
  | .ok (.obj o) => groupsOf azure o
  | _ => []

/-- The object that Azure answers a request with. -/
def answer (t : Transport) (r : Request) : Option Object :=
  match t.roundTrip r with
  | .ok ⟨_, .ok (.obj o)⟩ => some o
  | _ => none

/-! ## Access -/

/-- The context of a user who is no administrator. -/
def contextOf (db : DataStore) (td : TokenData) : AzureRequestContext :=
  ⟨false, td.id, db.userTeamIDs td.id, db.resourceControl.all⟩

/-- The resource control of the group grants the user access. -/
def Granted (db : DataStore) (td : TokenData) (g : String) : Prop :=
  userCanAccess (contextOf db td) (findResourceControl g (contextOf db td)) = true

instance (db : DataStore) (td : TokenData) (g : String) : Decidable (Granted db td g) :=
  inferInstanceAs (Decidable (_ = true))

/-- A stored resource control is that of the group. -/
def ControlOf (db : DataStore) (g : String) (rc : ResourceControl) : Prop :=
  db.resourceControl.get? rc.id = some rc ∧
    ((g = rc.resourceID ∧ ResourceControlType.containerGroup = rc.type) ∨ g ∈ rc.subResourceIDs)

/-- The group has one resource control, and it is for the user alone. -/
def OnlyPrivate (db : DataStore) (td : TokenData) (g : String) : Prop :=
  ∃ rc, (∀ rc', ControlOf db g rc' ↔ rc' = rc) ∧
    rc = { newPrivateResourceControl g .containerGroup td.id with id := rc.id }

/-- The group has none. -/
def NoControl (db : DataStore) (g : String) : Prop := ∀ rc, ¬ ControlOf db g rc

/-! ## Mediation -/

section Mediation

variable (azure : Azure) (td : TokenData) (r : Request) (db : DataStore)
variable (faults : Callee → List (Option String))

/-- The system at the beginning of a request. -/
def begins : Sys Callee ProxyState := ⟨{ dataStore := db }, faults⟩

/-- **A request is mediated**, as `x` answers it. -/
structure Mediated (x : Proxy Response) : Prop where
  shown : ∀ response, (x.run (begins db faults)).1 = .ok response →
    ∀ g ∈ groupsIn azure response, g ∈ azure.created r ∨ Granted db td g
  changed : ∀ f ∈ (x.run (begins db faults)).2.store.forwarded,
    ∀ g ∈ azure.changed f ++ azure.deleted f, Granted db td g
  created : ∀ response, (x.run (begins db faults)).1 = .ok response →
    ∀ f ∈ (x.run (begins db faults)).2.store.forwarded, ∀ g ∈ azure.created f,
      OnlyPrivate (x.run (begins db faults)).2.store.dataStore td g
  deleted : ∀ response, (x.run (begins db faults)).1 = .ok response →
    ∀ f ∈ (x.run (begins db faults)).2.store.forwarded, ∀ g ∈ azure.deleted f,
      NoControl (x.run (begins db faults)).2.store.dataStore g

/-! ### When it is -/

/-- The request changes only groups the user has access to. -/
def Harmless : Prop := ∀ g ∈ azure.changed r ++ azure.deleted r, Granted db td g

/-- The context of a request can be read. -/
def Readable : Prop := ∀ o ∈ (faults .databaseRead).take 2, o = none

/-- A resource control can be put into the object. -/
def Decorable (o : Object) : Prop :=
  (o.get "Portainer").isNull = true ∨ ∃ metadata, o.get "Portainer" = .obj metadata

/-- **A request that goes through as it is.** -/
def PassesSafely : Prop :=
  Harmless azure td r db ∧ ∀ response, azure.roundTrip r = .ok response →
    (∀ g ∈ groupsIn azure response, g ∈ azure.created r ∨ Granted db td g) ∧
    (∀ g ∈ azure.created r, OnlyPrivate db td g) ∧ ∀ g ∈ azure.deleted r, NoControl db g

/-- **The answer to a GET of a group.** -/
def ShowsSafely : Prop :=
  ∀ o, answer azure.toTransport r = some o → Readable faults →
    (controlOf o (contextOf db td) = none ∨ Decorable o) → ∀ g ∈ groupsOf azure o, Granted db td g

/-- **A creation.** The group must not be known to the database, but for a
resource control that the new one replaces. -/
def CreatesSafely : Prop :=
  ∀ validation, azure.roundTrip { r with method := "GET" } = .ok validation →
    ¬ (200 ≤ validation.statusCode ∧ validation.statusCode < 300) →
    Harmless azure td r db ∧ ∀ o id, answer azure.toTransport r = some o → containerGroupID o = some id →
      Readable faults → (faults .databaseWrite).head?.join = none → Decorable o →
      (∀ g ∈ groupsOf azure o, g ∈ azure.created r ∨ Granted db td g) ∧
      (id ∈ azure.created r → ∀ rc, ControlOf db id rc → rc.id = db.resourceControl.next)

/-- **A deletion.** The group of the path and the groups that are deleted
are checked, and the resource control of the group in the answer is the
only one they have. -/
def DeletesSafely : Prop :=
  Readable faults → Granted db td (String.ofList r.path) →
    Harmless azure td r db ∧ ∀ o, answer azure.toTransport r = some o →
      (∀ g ∈ groupsOf azure o, Granted db td g) ∧
      ∀ g ∈ azure.deleted r, ∀ rc, ControlOf db g rc →
        (faults .databaseWrite).head?.join = none ∧ controlOf o (contextOf db td) = some rc

/-- **The request needs no more than the check that is made.** -/
def Checked : Prop :=
  (∃ e, azure.retrieveAuthenticationToken = .error e) ∨
  if Path.match' azurePathContainerGroups r.path then
    r.method = "GET" ∨ PassesSafely azure td r db
  else if Path.match' azurePathContainerGroup r.path then
    if r.method = "PUT" then CreatesSafely azure td r db faults
    else if r.method = "GET" then ShowsSafely azure td r db faults
    else if r.method = "DELETE" then DeletesSafely azure td r db faults
    else PassesSafely azure td r db
  else PassesSafely azure td r db

end Mediation

/-! ## Runs -/

section Runs

variable {t : Transport} {td : TokenData} {r : Request} {db : DataStore} {response response' : Response}
variable {w w' : Sys Callee DataStore} {o : Object} {x : Proxy Response} {azure : Azure}

/-- The system after a request was sent. -/
def sent (v : Sys Callee ProxyState) (r : Request) : Sys Callee ProxyState :=
  { v with store := { v.store with forwarded := v.store.forwarded ++ [r] } }

theorem roundTrip_bind_run {α : Type} {f : Response → Proxy α} {v : Sys Callee ProxyState} :
    (roundTrip t r >>= f).run v = match t.roundTrip r with
      | .ok response => (f response).run (sent v r)
      | .error e => (.error e, sent v r) := by
  unfold roundTrip
  cases t.roundTrip r <;> rfl

theorem roundTrip_run {v : Sys Callee ProxyState} : (roundTrip t r).run v = (t.roundTrip r, sent v r) := by
  unfold roundTrip
  cases t.roundTrip r <;> rfl

theorem onDataStore_run {α : Type} {y : Local α} {v : Sys Callee ProxyState} {a : Except String α}
    (h : y.run ⟨v.store.dataStore, v.faults⟩ = (a, w')) :
    (onDataStore y).run v = (a, ⟨{ v.store with dataStore := w'.store }, w'.faults⟩) := by
  unfold onDataStore
  rw [Action.zoom_run, h]

/-- The context is read in two accesses. -/
theorem createAzureRequestContext_run (w : Sys Callee DataStore) (htoken : r.token = some td)
    (huser : td.role ≠ .administrator) :
    (∃ e w', (createAzureRequestContext r).run w = (.error e, w') ∧ w'.store = w.store ∧
      ¬ w.Clear .databaseRead 2) ∨
    ∃ w', (createAzureRequestContext r).run w = (.ok (contextOf w.store td), w') ∧ w'.store = w.store ∧
      w'.fault .databaseWrite = w.fault .databaseWrite ∧ w.Clear .databaseRead 2 := by
  unfold createAzureRequestContext
  rw [htoken, Option.elim_some, Action.ofExcept_ok, Action.pure_bind]
  cases hfirst : w.fault .databaseRead with
  | some text =>
    refine .inl ⟨text, w.spend .databaseRead, ?_, rfl, fun hclear => ?_⟩
    · exact Action.bind_run_of_error (Action.query_run_of_some hfirst)
    · rw [(Sys.clear_succ.mp hclear).1] at hfirst
      cases hfirst
  | none =>
    have hread : (DockerProxy.read fun db : DataStore => db.resourceControl.all).run w =
        (.ok w.store.resourceControl.all, w.spend .databaseRead) := Action.query_run_of_none hfirst
    rw [Action.bind_run_of_ok hread, if_neg huser]
    cases hsecond : (w.spend .databaseRead).fault .databaseRead with
    | some text =>
      refine .inl ⟨text, (w.spend .databaseRead).spend .databaseRead, ?_, rfl, fun hclear => ?_⟩
      · exact Action.bind_run_of_error (Action.query_run_of_some hsecond)
      · rw [(Sys.clear_succ.mp (Sys.clear_succ.mp hclear).2).1] at hsecond
        cases hsecond
    | none =>
      refine .inr ⟨(w.spend .databaseRead).spend .databaseRead, ?_, rfl, ?_, ?_⟩
      · exact Action.bind_run_of_ok (Action.query_run_of_none hsecond)
      · rw [Sys.fault_spend_of_ne (by decide), Sys.fault_spend_of_ne (by decide)]
      · exact Sys.clear_succ.mpr ⟨hfirst, Sys.clear_succ.mpr ⟨hsecond, Sys.clear_zero⟩⟩

/-- Where a resource control is put into an object, its other members stay
as they are. -/
theorem decorateObject_run (o : Object) (rc : ResourceControl) :
    (∃ e, (decorateObject o rc).run w = (.error e, w) ∧ ¬ Decorable o) ∨
    ∃ o', (decorateObject o rc).run w = (.ok o', w) ∧ Decorable o ∧ ∀ k, k ≠ "Portainer" → o'.get k = o.get k := by
  unfold decorateObject DockerProxy.decorateObject
  have hkept : ∀ metadata k, k ≠ "Portainer" →
      (o.set "Portainer" (.obj (Object.set metadata "ResourceControl" (DockerProxy.resourceControlJSON rc)))).get k =
        o.get k := fun metadata k hk => Object.get_set_of_ne (Ne.symm hk)
  by_cases hnull : (o.get "Portainer").isNull = true
  · refine .inr ⟨_, ?_, .inl hnull, hkept []⟩
    rw [if_pos hnull]
    rfl
  · rw [if_neg hnull]
    by_cases hobj : ∃ metadata, o.get "Portainer" = .obj metadata
    · obtain ⟨metadata, hget⟩ := hobj
      refine .inr ⟨_, ?_, .inr ⟨metadata, hget⟩, hkept metadata⟩
      rw [hget]
      rfl
    · have hfail : ∀ v : Json, (¬ ∃ metadata, v = .obj metadata) →
          ∃ e, (asObject v).run w = (.error e, w) := by
        intro v hv
        cases v with
        | obj metadata => exact absurd ⟨metadata, rfl⟩ hv
        | _ => exact ⟨_, rfl⟩
      obtain ⟨e, he⟩ := hfail _ hobj
      refine .inl ⟨e, Action.bind_run_of_error he, fun hdec => ?_⟩
      rcases hdec with hdec | hdec
      · exact hnull hdec
      · exact hobj hdec

theorem groupsOf_congr {o' : Object} (h : ∀ k, k ≠ "Portainer" → o'.get k = o.get k) :
    groupsOf azure o' = groupsOf azure o := by
  unfold groupsOf containerGroupID
  rw [h "value" (by decide), h "id" (by decide)]

theorem getResponseAsJSONObject_run (response : Response) (w : Sys Callee DataStore) :
    (∃ o, response.body = .ok (.obj o) ∧ (getResponseAsJSONObject response).run w = (.ok o, w)) ∨
    ((∀ o, response.body ≠ .ok (.obj o)) ∧ ∃ e, (getResponseAsJSONObject response).run w = (.error e, w)) := by
  obtain ⟨status, body⟩ := response
  cases body with
  | error e => exact .inr ⟨fun _ h => (by cases h), e, rfl⟩
  | ok v =>
    cases v with
    | obj o => exact .inl ⟨o, rfl, rfl⟩
    | _ => exact .inr ⟨fun _ h => (by cases h), _, rfl⟩

theorem decorateContainerGroup_run (o : Object) (context : AzureRequestContext) (w : Sys Callee DataStore) :
    (∃ e, (decorateContainerGroup o context).run w = (.error e, w) ∧
      ¬ (controlOf o context = none ∨ Decorable o)) ∨
    ∃ o', (decorateContainerGroup o context).run w = (.ok (o', controlOf o context), w) ∧
      (controlOf o context = none ∨ Decorable o) ∧ ∀ k, k ≠ "Portainer" → o'.get k = o.get k := by
  unfold decorateContainerGroup
  cases hcontrol : controlOf o context with
  | none => exact .inr ⟨o, rfl, .inl rfl, fun _ _ => rfl⟩
  | some rc =>
    rcases decorateObject_run (w := w) o rc with ⟨e, hrun, hdec⟩ | ⟨o', hrun, hdec, hkept⟩
    · refine .inl ⟨e, Action.bind_run_of_error hrun, fun h => ?_⟩
      rcases h with h | h
      · cases h
      · exact hdec h
    · exact .inr ⟨o', Action.bind_run_of_ok hrun, .inr hdec, hkept⟩

/-- The answer to a GET of a group: there is one where all its parts are
had, and it shows what Azure has answered. -/
theorem decorateShown_run (response : Response) (w : Sys Callee DataStore) (htoken : r.token = some td)
    (huser : td.role ≠ .administrator) :
    (∃ e w', (decorateShown r response).run w = (.error e, w') ∧
      ∀ o, response.body = .ok (.obj o) → w.Clear .databaseRead 2 →
        ¬ (controlOf o (contextOf w.store td) = none ∨ Decorable o)) ∨
    ∃ response' w' o, (decorateShown r response).run w = (.ok response', w') ∧
      response.body = .ok (.obj o) ∧ w.Clear .databaseRead 2 ∧
      (controlOf o (contextOf w.store td) = none ∨ Decorable o) ∧ groupsIn azure response' = groupsOf azure o := by
  unfold decorateShown
  rcases getResponseAsJSONObject_run response w with ⟨o, hbody, hobject⟩ | ⟨hbody, e, hobject⟩
  · rw [Action.bind_run_of_ok hobject]
    rcases createAzureRequestContext_run w htoken huser with
      ⟨e, w₁, hcontext, -, hclear⟩ | ⟨w₁, hcontext, -, -, hclear⟩
    · exact .inl ⟨e, w₁, Action.bind_run_of_error hcontext, fun _ _ h => absurd h hclear⟩
    · rw [Action.bind_run_of_ok hcontext]
      rcases decorateContainerGroup_run o (contextOf w.store td) w₁ with
        ⟨e, hdecorate, hdec⟩ | ⟨o', hdecorate, hdec, hkept⟩
      · refine .inl ⟨e, w₁, Action.bind_run_of_error hdecorate, fun o' hbody' _ => ?_⟩
        obtain rfl : o = o' := by
          rw [hbody] at hbody'
          exact Json.obj.inj (Except.ok.inj hbody')
        exact hdec
      · exact .inr ⟨_, w₁, o, Action.bind_run_of_ok hdecorate, hbody, hclear, hdec, groupsOf_congr hkept⟩
  · exact .inl ⟨e, w, Action.bind_run_of_error hobject, fun o h => absurd h (hbody o)⟩

/-- The answer to a creation, and what becomes of the resource controls. -/
theorem decorateCreation_run (response : Response) (w : Sys Callee DataStore) (htoken : r.token = some td)
    (huser : td.role ≠ .administrator) :
    (∃ e w', (decorateCreation r response).run w = (.error e, w') ∧
      ∀ o id, response.body = .ok (.obj o) → containerGroupID o = some id → w.Clear .databaseRead 2 →
        w.fault .databaseWrite = none → ¬ Decorable o) ∨
    ∃ response' w' o id, (decorateCreation r response).run w = (.ok response', w') ∧
      response.body = .ok (.obj o) ∧ containerGroupID o = some id ∧ w.Clear .databaseRead 2 ∧
      w.fault .databaseWrite = none ∧ Decorable o ∧ groupsIn azure response' = groupsOf azure o ∧
      w'.store = w.store.createResourceControl (newPrivateResourceControl id .containerGroup td.id) := by
  unfold decorateCreation
  rcases getResponseAsJSONObject_run response w with ⟨o, hbody, hobject⟩ | ⟨hbody, e, hobject⟩
  · have hsame : ∀ o', response.body = .ok (.obj o') → o = o' := by
      intro o' hbody'
      rw [hbody] at hbody'
      exact Json.obj.inj (Except.ok.inj hbody')
    rw [Action.bind_run_of_ok hobject]
    cases hid : containerGroupID o with
    | none =>
      refine .inl ⟨_, w, rfl, fun o' id hbody' hid' => ?_⟩
      obtain rfl := hsame o' hbody'
      rw [hid] at hid'
      cases hid'
    | some id =>
      rw [Option.elim_some, Action.ofExcept_ok, Action.pure_bind]
      rcases createAzureRequestContext_run w htoken huser with
        ⟨e, w₁, hcontext, -, hclear⟩ | ⟨w₁, hcontext, hstore, hfault, hclear⟩
      · exact .inl ⟨e, w₁, Action.bind_run_of_error hcontext, fun _ _ _ _ h => absurd h hclear⟩
      · rw [Action.bind_run_of_ok hcontext]
        -- the resource control is stored before the answer is decorated
        cases hwrite : w₁.fault .databaseWrite with
        | some text =>
          refine .inl ⟨text, w₁.spend .databaseWrite, Action.bind_run_of_error ?_, fun _ _ _ _ _ h => ?_⟩
          · exact (Action.bind_run_of_ok rfl).trans (Action.bind_run_of_error (Action.call_run_of_some hwrite))
          · rw [← hfault, hwrite] at h
            cases h
        | none =>
          have hcreate : (createPrivateResourceControl id .containerGroup (contextOf w.store td).userID).run w₁ =
              (.ok { newPrivateResourceControl id .containerGroup td.id with id := w₁.store.resourceControl.next },
                { w₁.spend .databaseWrite with
                  store := w₁.store.createResourceControl
                    (newPrivateResourceControl id .containerGroup td.id) }) :=
            Action.bind_run_of_ok (Action.call_run_of_none hwrite)
          rw [Action.bind_run_of_ok hcreate]
          rcases decorateObject_run o
              { newPrivateResourceControl id .containerGroup td.id with id := w₁.store.resourceControl.next } with
            ⟨e, hdecorate, hdec⟩ | ⟨o', hdecorate, hdec, hkept⟩
          · refine .inl ⟨e, _, Action.bind_run_of_error hdecorate, fun o' _ hbody' _ _ _ => ?_⟩
            obtain rfl := hsame o' hbody'
            exact hdec
          · refine .inr ⟨_, _, o, id, Action.bind_run_of_ok hdecorate, hbody, hid, hclear, ?_, hdec,
              groupsOf_congr hkept, ?_⟩
            · rw [← hfault, hwrite]
            · show w₁.store.createResourceControl _ = _
              rw [hstore]
  · exact .inl ⟨e, w, Action.bind_run_of_error hobject, fun o _ h => absurd h (hbody o)⟩

/-- The answer to a deletion: the resource control of the group in the
answer is removed, if it can be. -/
theorem decorateDeletion_run (context : AzureRequestContext) (response : Response) (w : Sys Callee DataStore) :
    (∃ e w', (decorateDeletion context response).run w = (.error e, w') ∧
      ∀ o, response.body ≠ .ok (.obj o)) ∨
    ∃ response' w' o, (decorateDeletion context response).run w = (.ok response', w') ∧
      response.body = .ok (.obj o) ∧ groupsIn azure response' = groupsOf azure o ∧
      (w'.store = w.store ∧ (controlOf o context = none ∨ w.fault .databaseWrite ≠ none) ∨
        ∃ rc, controlOf o context = some rc ∧ w.fault .databaseWrite = none ∧
          w'.store = { w.store with resourceControl := w.store.resourceControl.delete rc.id }) := by
  unfold decorateDeletion
  rcases getResponseAsJSONObject_run response w with ⟨o, hbody, hobject⟩ | ⟨hbody, e, hobject⟩
  · rw [Action.bind_run_of_ok hobject]
    refine .inr ⟨_, _, o, rfl, hbody, rfl, ?_⟩
    show (((removeResourceControl o context).run w).2.store = _ ∧ _ ∨
      ∃ rc, _ ∧ _ ∧ ((removeResourceControl o context).run w).2.store = _)
    unfold removeResourceControl
    cases hcontrol : controlOf o context with
    | none => exact .inl ⟨rfl, .inl rfl⟩
    | some rc =>
      unfold DockerProxy.write
      cases hwrite : w.fault .databaseWrite with
      | some text =>
        left
        rw [Action.call_run_of_some hwrite]
        exact ⟨rfl, .inr (by simp)⟩
      | none =>
        right
        rw [Action.call_run_of_none hwrite]
        exact ⟨rc, rfl, rfl, rfl⟩
  · exact .inl ⟨e, w, Action.bind_run_of_error hobject, hbody⟩

end Runs

/-! ## Resource controls -/

section Controls

variable {td : TokenData} {db : DataStore} {g : String} {rc : ResourceControl}

theorem controlOf_create_iff {new : ResourceControl} :
    ControlOf (db.createResourceControl new) g rc ↔
      rc.id = db.resourceControl.next ∧ rc = { new with id := db.resourceControl.next } ∧
        ((g = new.resourceID ∧ ResourceControlType.containerGroup = new.type) ∨ g ∈ new.subResourceIDs) ∨
      rc.id ≠ db.resourceControl.next ∧ ControlOf db g rc := by
  have hget : (db.createResourceControl new).resourceControl.get? rc.id =
      if db.resourceControl.next = rc.id then some { new with id := db.resourceControl.next }
      else db.resourceControl.get? rc.id := Bucket.get?_put
  unfold ControlOf
  rw [hget]
  by_cases hid : db.resourceControl.next = rc.id
  · rw [if_pos hid]
    constructor
    · rintro ⟨heq, habout⟩
      obtain rfl := Option.some.inj heq
      exact .inl ⟨rfl, rfl, habout⟩
    · rintro (⟨-, rfl, habout⟩ | ⟨hne, -⟩)
      · exact ⟨rfl, habout⟩
      · exact absurd hid.symm hne
  · rw [if_neg hid]
    constructor
    · exact fun h => .inr ⟨fun heq => hid heq.symm, h⟩
    · rintro (⟨heq, -⟩ | ⟨-, h⟩)
      · exact absurd heq.symm hid
      · exact h

/-- **A creation leaves exactly one resource control** where there was none
before. -/
theorem onlyPrivate_create_iff :
    OnlyPrivate (db.createResourceControl (newPrivateResourceControl g .containerGroup td.id)) td g ↔
      ∀ rc, ControlOf db g rc → rc.id = db.resourceControl.next := by
  have hnew : ControlOf (db.createResourceControl (newPrivateResourceControl g .containerGroup td.id)) g
      { newPrivateResourceControl g .containerGroup td.id with id := db.resourceControl.next } :=
    controlOf_create_iff.mpr (.inl ⟨rfl, rfl, .inl ⟨rfl, rfl⟩⟩)
  constructor
  · rintro ⟨rc₀, hone, -⟩ rc hrc
    by_contra hid
    have hrc₀ := (hone rc).mp (controlOf_create_iff.mpr (.inr ⟨hid, hrc⟩))
    have hnew₀ := (hone _).mp hnew
    rw [hrc₀, ← hnew₀] at hid
    exact hid rfl
  · intro h
    refine ⟨_, fun rc => ⟨fun hrc => ?_, fun heq => heq ▸ hnew⟩, rfl⟩
    rcases controlOf_create_iff.mp hrc with ⟨-, heq, -⟩ | ⟨hid, hrc⟩
    · exact heq
    · exact absurd (h rc hrc) hid

theorem controlOf_delete_iff {id : ResourceControlID} :
    ControlOf { db with resourceControl := db.resourceControl.delete id } g rc ↔
      rc.id ≠ id ∧ ControlOf db g rc := by
  unfold ControlOf
  rw [Bucket.get?_delete]
  by_cases hid : id = rc.id
  · rw [if_pos hid]
    constructor
    · rintro ⟨h, -⟩
      cases h
    · exact fun h => absurd hid.symm h.1
  · rw [if_neg hid]
    exact ⟨fun h => ⟨fun heq => hid heq.symm, h⟩, fun h => h.2⟩

/-- The resource control of a group in an answer is a stored one. -/
theorem get?_of_controlOf {o : Object} (h : controlOf o (contextOf db td) = some rc) :
    db.resourceControl.get? rc.id = some rc := by
  obtain ⟨id, -, hfind⟩ := Option.bind_eq_some_iff.mp h
  exact Bucket.mem_all.mp (List.mem_of_find?_eq_some hfind)

end Controls

/-! ## Mediation, case by case -/

section Cases

variable {azure : Azure} {td : TokenData} {r : Request} {db : DataStore}
variable {faults : Callee → List (Option String)} {x : Proxy Response} {v : Sys Callee ProxyState}

/-- A request that fails has only to have changed nothing it must not. -/
theorem mediated_error_iff {e : String} (hrun : x.run (begins db faults) = (.error e, v)) :
    Mediated azure td r db faults x ↔
      ∀ f ∈ v.store.forwarded, ∀ g ∈ azure.changed f ++ azure.deleted f, Granted db td g := by
  have hnone : ∀ response, (x.run (begins db faults)).1 ≠ .ok response := by
    intro response h
    rw [hrun] at h
    cases h
  constructor
  · intro h
    have hchanged := h.changed
    rwa [hrun] at hchanged
  · intro h
    refine ⟨fun response hok => absurd hok (hnone response), ?_,
      fun response hok => absurd hok (hnone response), fun response hok => absurd hok (hnone response)⟩
    rwa [hrun]

theorem mediated_ok_iff {response : Response} (hrun : x.run (begins db faults) = (.ok response, v)) :
    Mediated azure td r db faults x ↔
      (∀ g ∈ groupsIn azure response, g ∈ azure.created r ∨ Granted db td g) ∧
      (∀ f ∈ v.store.forwarded, ∀ g ∈ azure.changed f ++ azure.deleted f, Granted db td g) ∧
      (∀ f ∈ v.store.forwarded, ∀ g ∈ azure.created f, OnlyPrivate v.store.dataStore td g) ∧
      ∀ f ∈ v.store.forwarded, ∀ g ∈ azure.deleted f, NoControl v.store.dataStore g := by
  constructor
  · intro h
    have hshown := h.shown response
    have hchanged := h.changed
    have hcreated := h.created response
    have hdeleted := h.deleted response
    rw [hrun] at hshown hchanged hcreated hdeleted
    exact ⟨hshown rfl, hchanged, hcreated rfl, hdeleted rfl⟩
  · rintro ⟨hshown, hchanged, hcreated, hdeleted⟩
    have hsame : ∀ response', (x.run (begins db faults)).1 = .ok response' → response = response' := by
      intro response' hok
      rw [hrun] at hok
      exact Except.ok.inj hok
    refine ⟨fun response' hok => ?_, ?_, fun _ _ => ?_, fun _ _ => ?_⟩
    · obtain rfl := hsame response' hok
      exact hshown
    · rwa [hrun]
    · rwa [hrun]
    · rwa [hrun]

theorem harmless_iff : (∀ f ∈ [r], ∀ g ∈ azure.changed f ++ azure.deleted f, Granted db td g) ↔
    Harmless azure td r db := by
  simp [Harmless]

/-- A GET changes nothing. -/
theorem harmless_get (hget : r.method = "GET") : Harmless azure td r db := by
  obtain ⟨hchanged, hdeleted, -⟩ := azure.of_get r hget
  intro g hg
  rw [hchanged, hdeleted] at hg
  exact absurd hg List.not_mem_nil

theorem created_get (hget : r.method = "GET") (g : String) : g ∉ azure.created r := by
  rw [(azure.of_get r hget).2.2]
  exact List.not_mem_nil

theorem deleted_get (hget : r.method = "GET") (g : String) : g ∉ azure.deleted r := by
  rw [(azure.of_get r hget).2.1]
  exact List.not_mem_nil

/-- The answers of the proxy itself show no group. -/
theorem groupsIn_rewriteResponse_message (text : String) (status : ℕ) :
    groupsIn azure (rewriteResponse (.obj [("message", .str text)]) status) = [] := rfl

/-- **A request that goes through.** -/
theorem mediated_roundTrip_iff :
    Mediated azure td r db faults (roundTrip azure.toTransport r) ↔ PassesSafely azure td r db := by
  unfold PassesSafely
  have hrun := roundTrip_run (t := azure.toTransport) (r := r) (v := begins db faults)
  cases hanswer : azure.roundTrip r with
  | error e =>
    rw [hanswer] at hrun
    rw [mediated_error_iff hrun]
    constructor
    · exact fun h => ⟨harmless_iff.mp h, fun _ hok => (by cases hok)⟩
    · exact fun h => harmless_iff.mpr h.1
  | ok response =>
    rw [hanswer] at hrun
    rw [mediated_ok_iff hrun]
    have hone : ∀ {P : Request → Prop}, (∀ f ∈ [r], P f) ↔ P r := by simp
    constructor
    · rintro ⟨hshown, hchanged, hcreated, hdeleted⟩
      refine ⟨harmless_iff.mp hchanged, fun response' hok => ?_⟩
      obtain rfl := Except.ok.inj hok
      exact ⟨hshown, hone.mp hcreated, hone.mp hdeleted⟩
    · rintro ⟨hharmless, hrest⟩
      obtain ⟨hshown, hcreated, hdeleted⟩ := hrest response rfl
      exact ⟨hshown, harmless_iff.mpr hharmless, hone.mpr hcreated, hone.mpr hdeleted⟩

theorem answer_iff {t : Transport} {o : Object} :
    answer t r = some o ↔ ∃ response, t.roundTrip r = .ok response ∧ response.body = .ok (.obj o) := by
  unfold answer
  constructor
  · intro h
    split at h
    · rename_i status o' hresponse
      obtain rfl := Option.some.inj h
      exact ⟨_, hresponse, rfl⟩
    · cases h
  · rintro ⟨⟨status, body⟩, hresponse, hbody⟩
    obtain rfl : body = .ok (.obj o) := hbody
    rw [hresponse]

/-- **A GET of a group.** -/
theorem mediated_get_iff (htoken : r.token = some td) (huser : td.role ≠ .administrator)
    (hget : r.method = "GET") :
    Mediated azure td r db faults (proxyContainerGroupGetRequest azure.toTransport r) ↔
      ShowsSafely azure td r db faults := by
  have hcreated : ∀ g, g ∉ azure.created r := created_get hget
  have hdeleted : ∀ g, g ∉ azure.deleted r := deleted_get hget
  have hrun : (proxyContainerGroupGetRequest azure.toTransport r).run (begins db faults) = _ := roundTrip_bind_run
  unfold ShowsSafely
  cases hanswer : azure.roundTrip r with
  | error e =>
    rw [hanswer] at hrun
    rw [mediated_error_iff hrun]
    constructor
    · intro _ o ho
      obtain ⟨_, hok, -⟩ := answer_iff.mp ho
      rw [hanswer] at hok
      cases hok
    · exact fun _ => harmless_iff.mpr (harmless_get hget)
  | ok response =>
    rw [hanswer] at hrun
    have hbodies : ∀ o, answer azure.toTransport r = some o ↔ response.body = .ok (.obj o) := by
      intro o
      rw [answer_iff, hanswer]
      simp
    rcases decorateShown_run response ⟨db, faults⟩ htoken huser with
      ⟨e, w', hdecorate, hno⟩ | ⟨response', w', o, hdecorate, hbody, hclear, hdec, hgroups⟩
    · rw [mediated_error_iff (hrun.trans (onDataStore_run hdecorate))]
      refine ⟨fun _ o ho hread hdec => absurd hdec (hno o ((hbodies o).mp ho) hread), fun _ => ?_⟩
      exact harmless_iff.mpr (harmless_get hget)
    · rw [mediated_ok_iff (hrun.trans (onDataStore_run hdecorate)), hgroups]
      constructor
      · rintro ⟨hshown, -⟩ o' ho' - - g hg
        obtain rfl : o = o' := by
          rw [hbodies, hbody] at ho'
          exact Json.obj.inj (Except.ok.inj ho')
        exact (hshown g hg).resolve_left (hcreated g)
      · intro h
        refine ⟨fun g hg => .inr (h o ((hbodies o).mpr hbody) hclear hdec g hg),
          harmless_iff.mpr (harmless_get hget), fun f hf g hg => ?_, fun f hf g hg => ?_⟩
        · obtain rfl := List.mem_singleton.mp hf
          exact absurd hg (hcreated g)
        · obtain rfl := List.mem_singleton.mp hf
          exact absurd hg (hdeleted g)

/-- **A creation.** -/
theorem mediated_put_iff (htoken : r.token = some td) (huser : td.role ≠ .administrator)
    (hput : r.method = "PUT") (hpath : Path.match' azurePathContainerGroup r.path) :
    Mediated azure td r db faults (proxyContainerGroupPutRequest azure.toTransport r) ↔
      CreatesSafely azure td r db faults := by
  have hdeleted : ∀ g, g ∉ azure.deleted r := fun g => by
    rw [azure.deleted_of_put r hput hpath]
    exact List.not_mem_nil
  -- the validation changes nothing
  have hvalidation : ∀ g ∈ azure.changed { r with method := "GET" } ++ azure.deleted { r with method := "GET" },
      Granted db td g := harmless_get rfl
  have hnocreated : ∀ g, g ∉ azure.created { r with method := "GET" } := created_get rfl
  have hnodeleted : ∀ g, g ∉ azure.deleted { r with method := "GET" } := deleted_get rfl
  have hboth : ∀ {P : Request → Prop}, P { r with method := "GET" } →
      ((∀ f ∈ [{ r with method := "GET" }, r], P f) ↔ P r) := by
    intro P hP
    simp [hP]
  have hrun : (proxyContainerGroupPutRequest azure.toTransport r).run (begins db faults) = _ := roundTrip_bind_run
  unfold CreatesSafely
  cases hget : azure.roundTrip { r with method := "GET" } with
  | error e =>
    rw [hget] at hrun
    rw [mediated_error_iff hrun]
    refine ⟨fun _ _ hok => (by cases hok), fun _ f hf => ?_⟩
    obtain rfl := List.mem_singleton.mp hf
    exact hvalidation
  | ok validation =>
    rw [hget] at hrun
    by_cases hexists : 200 ≤ validation.statusCode ∧ validation.statusCode < 300
    · simp only [if_pos hexists] at hrun
      rw [mediated_ok_iff hrun]
      refine ⟨fun _ validation' hok hno => ?_, fun _ => ⟨fun g hg => ?_, fun f hf => ?_, fun f hf g hg => ?_,
        fun f hf g hg => ?_⟩⟩
      · obtain rfl := Except.ok.inj hok
        exact absurd hexists hno
      · rw [alreadyExistsResponse, groupsIn_rewriteResponse_message] at hg
        exact absurd hg List.not_mem_nil
      all_goals obtain rfl := List.mem_singleton.mp hf
      · exact hvalidation
      · exact absurd hg (hnocreated g)
      · exact absurd hg (hnodeleted g)
    · simp only [if_neg hexists, roundTrip_bind_run] at hrun
      have hgoal : ∀ {Q : Prop}, (∀ validation', (Except.ok validation : Except String Response) = .ok validation' →
          ¬ (200 ≤ validation'.statusCode ∧ validation'.statusCode < 300) → Q) ↔ Q := by
        intro Q
        exact ⟨fun h => h validation rfl hexists, fun h _ _ _ => h⟩
      rw [hgoal]
      cases hanswer : azure.roundTrip r with
      | error e =>
        rw [hanswer] at hrun
        rw [mediated_error_iff hrun]
        refine ⟨fun h => ⟨(hboth hvalidation).mp h, fun o _ ho => ?_⟩, fun h => (hboth hvalidation).mpr h.1⟩
        obtain ⟨_, hok, -⟩ := answer_iff.mp ho
        rw [hanswer] at hok
        cases hok
      | ok response =>
        rw [hanswer] at hrun
        have hbodies : ∀ o, answer azure.toTransport r = some o ↔ response.body = .ok (.obj o) := by
          intro o
          rw [answer_iff, hanswer]
          simp
        rcases decorateCreation_run response ⟨db, faults⟩ htoken huser with
          ⟨e, w', hdecorate, hno⟩ |
          ⟨response', w', o, id, hdecorate, hbody, hid, hclear, hwrite, hdec, hgroups, hstore⟩
        · rw [mediated_error_iff (hrun.trans (onDataStore_run hdecorate))]
          refine ⟨fun h => ⟨(hboth hvalidation).mp h, fun o id ho hid hread hwrite hdec => ?_⟩,
            fun h => (hboth hvalidation).mpr h.1⟩
          exact absurd hdec (hno o id ((hbodies o).mp ho) hid hread hwrite)
        · rw [mediated_ok_iff (hrun.trans (onDataStore_run hdecorate)), hgroups]
          have hcreated : ∀ g ∈ azure.created r, g = id := by
            intro g hg
            have hg' := azure.answer_of_put r hput hpath g hg response o hanswer hbody
            rw [hid] at hg'
            exact (Option.some.inj hg').symm
          have honly : (∀ g ∈ azure.created r, OnlyPrivate w'.store td g) ↔
              (id ∈ azure.created r → ∀ rc, ControlOf db id rc → rc.id = db.resourceControl.next) := by
            rw [hstore]
            constructor
            · exact fun h hmem => onlyPrivate_create_iff.mp (h id hmem)
            · intro h g hg
              obtain rfl := hcreated g hg
              exact onlyPrivate_create_iff.mpr (h hg)
          constructor
          · rintro ⟨hshown, hchanged, honce, -⟩
            refine ⟨(hboth hvalidation).mp hchanged, fun o' id' ho' hid' _ _ _ => ?_⟩
            obtain rfl : o = o' := by
              rw [hbodies, hbody] at ho'
              exact Json.obj.inj (Except.ok.inj ho')
            obtain rfl : id = id' := Option.some.inj (hid.symm.trans hid')
            exact ⟨hshown, honly.mp (honce r (by simp [sent, begins]))⟩
          · rintro ⟨hharmless, hrest⟩
            obtain ⟨hshown, hfree⟩ := hrest o id ((hbodies o).mpr hbody) hid hclear hwrite hdec
            refine ⟨hshown, (hboth hvalidation).mpr hharmless, ?_, ?_⟩
            · exact (hboth fun g hg => absurd hg (hnocreated g)).mpr (honly.mpr hfree)
            · exact (hboth fun g hg => absurd hg (hnodeleted g)).mpr fun g hg => absurd hg (hdeleted g)

/-- **A deletion.** -/
theorem mediated_delete_iff (htoken : r.token = some td) (huser : td.role ≠ .administrator)
    (hdelete : r.method = "DELETE") (hpath : Path.match' azurePathContainerGroup r.path) :
    Mediated azure td r db faults (proxyContainerGroupDeleteRequest azure.toTransport r) ↔
      DeletesSafely azure td r db faults := by
  have hcreated : ∀ g, g ∉ azure.created r := fun g => by
    rw [azure.created_of_delete r hdelete hpath]
    exact List.not_mem_nil
  have hone : ∀ {P : Request → Prop}, (∀ f ∈ [r], P f) ↔ P r := by simp
  unfold DeletesSafely
  rcases createAzureRequestContext_run ⟨db, faults⟩ htoken huser with
    ⟨e, w₁, hcontext, -, hclear⟩ | ⟨w₁, hcontext, hstore, hfault, hclear⟩
  · have hrun : (proxyContainerGroupDeleteRequest azure.toTransport r).run (begins db faults) = _ :=
      Action.bind_run_of_error (onDataStore_run hcontext)
    rw [mediated_error_iff hrun]
    exact ⟨fun _ hread => absurd hread hclear, fun _ f hf => absurd hf List.not_mem_nil⟩
  have hrun : (proxyContainerGroupDeleteRequest azure.toTransport r).run (begins db faults) = _ :=
    Action.bind_run_of_ok (onDataStore_run hcontext)
  by_cases hgranted : Granted db td (String.ofList r.path)
  · have hcan : userCanDeleteContainerGroup r (contextOf db td) = true := hgranted
    simp only [if_pos hcan, roundTrip_bind_run] at hrun
    have hgoal : ∀ {Q : Prop}, (Readable faults → Granted db td (String.ofList r.path) → Q) ↔ Q :=
      fun {Q} => ⟨fun h => h hclear hgranted, fun h _ _ => h⟩
    rw [hgoal]
    cases hanswer : azure.roundTrip r with
    | error e =>
      rw [hanswer] at hrun
      rw [mediated_error_iff hrun]
      refine ⟨fun h => ⟨hone.mp h, fun o ho => ?_⟩, fun h => hone.mpr h.1⟩
      obtain ⟨_, hok, -⟩ := answer_iff.mp ho
      rw [hanswer] at hok
      cases hok
    | ok response =>
      rw [hanswer] at hrun
      have hbodies : ∀ o, answer azure.toTransport r = some o ↔ response.body = .ok (.obj o) := by
        intro o
        rw [answer_iff, hanswer]
        simp
      rcases decorateDeletion_run (contextOf db td) response w₁ with
        ⟨e, w', hdecorate, hno⟩ | ⟨response', w', o, hdecorate, hbody, hgroups, hremoved⟩
      · rw [mediated_error_iff (hrun.trans (onDataStore_run hdecorate))]
        refine ⟨fun h => ⟨hone.mp h, fun o ho => ?_⟩, fun h => hone.mpr h.1⟩
        exact absurd ((hbodies o).mp ho) (hno o)
      · rw [mediated_ok_iff (hrun.trans (onDataStore_run hdecorate)), hgroups]
        have hnone : ∀ g, NoControl w'.store g ↔ ∀ rc, ControlOf db g rc →
            (faults .databaseWrite).head?.join = none ∧ controlOf o (contextOf db td) = some rc := by
          intro g
          rcases hremoved with ⟨hkept, hwhy⟩ | ⟨rc₀, hcontrol, hwrite, hgone⟩
          · rw [hkept, hstore]
            constructor
            · exact fun h rc hrc => absurd hrc (h rc)
            · intro h rc hrc
              obtain ⟨hwrite, hcontrol⟩ := h rc hrc
              rcases hwhy with hwhy | hwhy
              · rw [hwhy] at hcontrol
                cases hcontrol
              · exact hwhy (hfault.trans hwrite)
          · rw [hgone, hstore]
            constructor
            · intro h rc hrc
              refine ⟨hfault.symm.trans hwrite, ?_⟩
              -- what is not there any more has the identifier of what was removed
              have hid : rc.id = rc₀.id := by
                by_contra hne
                exact h rc (controlOf_delete_iff.mpr ⟨hne, hrc⟩)
              have hsame : rc₀ = rc := by
                have hget := get?_of_controlOf hcontrol
                rw [← hid, hrc.1] at hget
                exact (Option.some.inj hget).symm
              rw [hcontrol, hsame]
            · intro h rc hrc
              obtain ⟨hne, hrc⟩ := controlOf_delete_iff.mp hrc
              have hcontrol' := (h rc hrc).2
              rw [hcontrol] at hcontrol'
              exact hne (congrArg ResourceControl.id (Option.some.inj hcontrol').symm)
        constructor
        · rintro ⟨hshown, hchanged, -, hleft⟩
          refine ⟨hone.mp hchanged, fun o' ho' => ?_⟩
          obtain rfl : o = o' := by
            rw [hbodies, hbody] at ho'
            exact Json.obj.inj (Except.ok.inj ho')
          refine ⟨fun g hg => (hshown g hg).resolve_left (hcreated g), fun g hg => ?_⟩
          exact (hnone g).mp (hone.mp hleft g hg)
        · rintro ⟨hharmless, hrest⟩
          obtain ⟨hshown, hleft⟩ := hrest o ((hbodies o).mpr hbody)
          exact ⟨fun g hg => .inr (hshown g hg), hone.mpr hharmless, hone.mpr fun g hg => absurd hg (hcreated g),
            hone.mpr fun g hg => (hnone g).mpr (hleft g hg)⟩
  · have hcan : ¬ userCanDeleteContainerGroup r (contextOf db td) = true := hgranted
    simp only [if_neg hcan] at hrun
    rw [mediated_ok_iff hrun]
    constructor
    · exact fun _ _ h => absurd h hgranted
    · intro _
      have hnothing : ∀ {P : Request → Prop}, ∀ f ∈ ([] : List Request), P f := by simp
      refine ⟨fun g hg => ?_, hnothing, hnothing, hnothing⟩
      rw [DockerProxy.accessDeniedResponse, groupsIn_rewriteResponse_message] at hg
      exact absurd hg List.not_mem_nil

/-! ### The list of a subscription -/

/-- A list that could be decorated: each element with the resource control
that was put into it, in the order of the list. -/
theorem decorateContainerGroups_run_ok {context : AzureRequestContext} {value : List Json}
    {decorated : List (Object × Option ResourceControl)} {w w' : Sys Callee DataStore}
    (h : (decorateContainerGroups context value).run w = (.ok decorated, w')) :
    w' = w ∧ ∀ d ∈ decorated, d.2 = (containerGroupID d.1).bind fun id => findResourceControl id context := by
  induction value generalizing decorated w w' with
  | nil =>
    obtain ⟨rfl, rfl⟩ := Action.pure_run_ok.mp h
    exact ⟨rfl, fun _ hd => (List.not_mem_nil hd).elim⟩
  | cons v value ih =>
    obtain ⟨o, w₁, hobject, hafter⟩ := Action.bind_run_ok.mp h
    obtain ⟨d, w₂, hdecorate, hlater⟩ := Action.bind_run_ok.mp hafter
    obtain ⟨rest, w₃, hrest, hlast⟩ := Action.bind_run_ok.mp hlater
    obtain ⟨rfl, rfl⟩ := Action.pure_run_ok.mp hlast
    obtain rfl : w = w₁ := by
      cases v with
      | obj o' => exact (Action.pure_run_ok.mp hobject).2
      | _ => exact absurd hobject Action.fail_run_ok
    rcases decorateContainerGroup_run o context w with
      ⟨e, hrun, -⟩ | ⟨o', hrun, -, hkept⟩
    · rw [hrun] at hdecorate
      cases hdecorate
    · rw [hrun] at hdecorate
      obtain ⟨hd, rfl⟩ := Prod.mk.inj hdecorate
      obtain rfl := Except.ok.inj hd
      obtain ⟨hw, hall⟩ := ih hrest
      refine ⟨hw, fun d hd => ?_⟩
      rcases List.mem_cons.mp hd with rfl | hd
      · show controlOf o context = controlOf o' context
        unfold controlOf containerGroupID
        rw [hkept "id" (by decide)]
      · exact hall d hd

/-- The answer to a list shows what the user has access to. -/
theorem groupsIn_decorateList (htoken : r.token = some td) (huser : td.role ≠ .administrator)
    {response response' : Response} {w w' : Sys Callee DataStore}
    (h : (decorateList r response).run w = (.ok response', w')) :
    ∀ g ∈ groupsIn azure response', Granted w.store td g := by
  obtain ⟨o, w₁, hobject, hafter⟩ := Action.bind_run_ok.mp h
  obtain rfl : w₁ = w := by
    rcases getResponseAsJSONObject_run response w with ⟨o', -, hrun⟩ | ⟨-, e, hrun⟩
    · rw [hrun] at hobject
      exact (Prod.mk.inj hobject).2.symm
    · rw [hrun] at hobject
      cases hobject
  dsimp only at hafter
  split at hafter
  · rename_i value hvalue
    rcases createAzureRequestContext_run w₁ htoken huser with
      ⟨e, w₂, hcontext, -⟩ | ⟨w₂, hcontext, -, -, -⟩
    · rw [Action.bind_run_of_error hcontext] at hafter
      cases hafter
    rw [Action.bind_run_of_ok hcontext] at hafter
    obtain ⟨decorated, w₃, hdecorated, hlast⟩ := Action.bind_run_ok.mp hafter
    obtain ⟨rfl, rfl⟩ := Action.pure_run_ok.mp hlast
    obtain ⟨-, hcontrols⟩ := decorateContainerGroups_run_ok hdecorated
    intro g hg
    have hg' : g ∈ (filterContainerGroups decorated (contextOf w₁.store td)).filterMap elementID := by
      unfold groupsIn groupsOf rewriteResponse at hg
      simp only [Object.get_set_self] at hg
      exact List.mem_of_mem_filter hg
    obtain ⟨element, helement, hid⟩ := List.mem_filterMap.mp hg'
    obtain ⟨d, hd, rfl⟩ := List.mem_map.mp helement
    obtain ⟨hd, haccess⟩ := List.mem_filter.mp hd
    have hid' : containerGroupID d.1 = some g := hid
    rw [hcontrols d hd, hid'] at haccess
    simpa [Granted, contextOf] using haccess
  · exact absurd hafter Action.fail_run_ok

/-- **The list of a subscription is mediated always.** -/
theorem mediated_list (htoken : r.token = some td) (huser : td.role ≠ .administrator)
    (hget : r.method = "GET") :
    Mediated azure td r db faults (proxyContainerGroupsGetRequest azure.toTransport r) := by
  have hrun : (proxyContainerGroupsGetRequest azure.toTransport r).run (begins db faults) = _ := roundTrip_bind_run
  cases hanswer : azure.roundTrip r with
  | error e =>
    rw [hanswer] at hrun
    exact (mediated_error_iff hrun).mpr (harmless_iff.mpr (harmless_get hget))
  | ok response =>
    rw [hanswer] at hrun
    rcases hdecorate : (decorateList r response).run ⟨db, faults⟩ with ⟨e | response', w'⟩
    · exact (mediated_error_iff (hrun.trans (onDataStore_run hdecorate))).mpr
        (harmless_iff.mpr (harmless_get hget))
    · refine (mediated_ok_iff (hrun.trans (onDataStore_run hdecorate))).mpr ⟨fun g hg => .inr ?_,
        harmless_iff.mpr (harmless_get hget), fun f hf g hg => ?_, fun f hf g hg => ?_⟩
      · exact groupsIn_decorateList htoken huser hdecorate g hg
      · obtain rfl := List.mem_singleton.mp hf
        exact absurd hg (created_get hget g)
      · obtain rfl := List.mem_singleton.mp hf
        exact absurd hg (deleted_get hget g)

end Cases

/-! ## One container group -/

/-- The identifier of a container group, which is its path. -/
def group : String :=
  "/subscriptions/s/resourceGroups/r/providers/Microsoft.ContainerInstance/containerGroups/g"

/-- The path that starts it. -/
def startPath : Path := group.toList ++ "/start".toList

/-- Azure with the one group. -/
def oneGroup : Azure where
  roundTrip r :=
    if r.method = "GET" ∧ r.path = group.toList then .ok ⟨200, .ok (.obj [("id", .str group)])⟩
    else if r.method = "POST" ∧ r.path = startPath then .ok ⟨204, .error "empty response body"⟩
    else .ok ⟨404, .ok (.obj [("error", .obj [("code", .str "ResourceNotFound")])])⟩
  isContainerGroup id := id = group
  changed r := if r.method = "POST" ∧ r.path = startPath then [group] else []
  of_get r hget := ⟨if_neg fun hpost => absurd (hget.symm.trans hpost.1) (by decide), rfl, rfl⟩
  deleted_of_put _ _ _ := rfl
  created_of_delete _ _ _ := rfl
  answer_of_put _ _ _ _ hg := absurd hg List.not_mem_nil

/-- A user, and the group as his own. -/
def user : TokenData := { id := 2, username := "user", role := .standardUser }

@[inherit_doc user]
def ownGroup : DataStore :=
  ({} : DataStore).createResourceControl (newPrivateResourceControl group .containerGroup 2)

end AzureProxy

end Portainer
