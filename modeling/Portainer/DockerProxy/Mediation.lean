import Portainer.DockerProxy.Helpers.Routing
import Portainer.DockerProxy.Helpers.Open
/-!
# Mediation — every request on a resource is checked for that resource

Docker reads a path, less one leading version segment, as
`/<collection>/<id>` with anything behind it. A request that addresses a
resource in this sense is mediated if the proxy makes the access check for
that very resource before it forwards, or, for an inspection, before the
user sees the object.

`mediated_iff` says for which methods and paths it is. The paths on which
it is not are those on which the proxy reads another identifier than
Docker, takes the identifier for a route of its own, or has no rule.
-/

namespace Portainer

namespace DockerProxy

open Json (Object)

/-! ## What Docker reads in a path -/

/-- The routes that have the form of a resource's but are none: creations,
prunings and the list of the containers. -/
def FixedRoute (method : String) (kind : ResourceControlType) (c rest : Path) : Prop :=
  rest = [] ∧
    ((method = "POST" ∧ c = "create".toList) ∨
      (method = "POST" ∧ c = "prune".toList ∧ kind ∈ [.container, .volume, .network]) ∨
      (method = "GET" ∧ c = "json".toList ∧ kind = .container))

/-- **What is forwarded for a path addresses the resource `c`**, in Docker's
reading, with `rest` behind it. -/
structure Addresses (method : String) (path : Path) (kind : ResourceControlType) (c rest : Path) :
    Prop where
  segment : Path.Segment c
  reading : ∃ coll, collection kind = some coll ∧
    removeLeadingVersion (requestPath path) = coll ++ '/' :: c ++ rest
  behind : rest = [] ∨ ∃ tail, rest = '/' :: tail
  resource : ¬ FixedRoute method kind c rest

/-- Docker shows the resource itself. -/
def Inspects (method : String) (kind : ResourceControlType) (rest : Path) : Prop :=
  method = "GET" ∧ rest = if kind = .container then "/json".toList else []

instance (method : String) (kind : ResourceControlType) (rest : Path) :
    Decidable (Inspects method kind rest) := by
  unfold Inspects
  infer_instance

/-! ## The checks for a resource -/

/-- The identifier resource controls have for a resource: for a volume, its
name with the identifier of the daemon. -/
def resourceIDOf (t : Transport) (kind : ResourceControlType) (c : String) : Option String :=
  match kind with
  | .volume =>
    (match t.snapshotDockerID with
      | some dockerID => some dockerID
      | none => t.daemon.info.toOption).map fun dockerID => s!"{c}_{dockerID}"
  | _ => some c

/-- The attribute of a Docker object that identifies it. -/
def identifierAttribute : ResourceControlType → String
  | .container | .network => "Id"
  | .volume => "Name"
  | _ => "ID"

/-- Where an inspected object has its labels. -/
def labelsOf : ResourceControlType → Object → Option Object
  | .container => objectAt ["Config", "Labels"]
  | .network | .volume => objectAt ["Labels"]
  | _ => objectAt ["Spec", "Labels"]

/-- The user may act on the resource. -/
def ActionGranted (t : Transport) (tokenData : TokenData) (node : String)
    (kind : ResourceControlType) (c : String) (db : DataStore) : Prop :=
  ∃ resourceID, resourceIDOf t kind c = some resourceID ∧
    AccessGranted t db tokenData node kind resourceID c

/-- The user may see the resource, as the daemon shows it. -/
def InspectGranted (t : Transport) (tokenData : TokenData) (kind : ResourceControlType)
    (c : String) (db : DataStore) (object : Object) : Prop :=
  SystemNetwork kind object ∨ ∃ resourceID rc, resourceIDOf t kind c = some resourceID ∧
    Covers t db.resourceControl.all kind resourceID (labelsOf kind object) rc ∧
      userCanAccessResource tokenData.id (db.userTeamIDs tokenData.id) rc

/-- A part of the proxy makes the check for the resource first: before the
user sees it, if that is what is asked, or else before it forwards. -/
def Mediates (t : Transport) (request : Request) (tokenData : TokenData)
    (kind : ResourceControlType) (c rest : Path) (x : Proxy Response) : Prop :=
  if Inspects request.method kind rest then
    GuardsShown t (identifierAttribute kind) (String.ofList c)
      (InspectGranted t tokenData kind (String.ofList c)) x
  else Guards (ActionGranted t tokenData request.agentTarget kind (String.ofList c)) x

/-- **Complete mediation** of a method and a path: for a regular user,
whatever else the request carries and whatever the database and the daemon
hold, the check for the resource comes first. -/
def Mediated (method : String) (path : Path) (kind : ResourceControlType) (c rest : Path) : Prop :=
  ∀ (t : Transport) (request : Request) (tokenData : TokenData),
    request.method = method → request.path = path → request.token = some tokenData →
      tokenData.role ≠ .administrator →
        Mediates t request tokenData kind c rest (proxyDockerRequest t request)

/-- **The paths with a rule for the resource.** The branch the path leads to
is not one of the proxy's fixed routes, and reads the identifier where
Docker does. -/
def Checked (method : String) (path : Path) (kind : ResourceControlType) (c rest : Path) : Prop :=
  match kind with
  | .container =>
    (rest = [] ∧ c ≠ "create".toList ∧ c ≠ "json".toList) ∨
      (OneSegment rest ∧
        (Path.base path = "json".toList → method = "GET" ∧ rest = "/json".toList))
  | .service => (rest = [] ∧ c ≠ "create".toList) ∨ OneSegment rest
  | _ =>
    (rest = [] → c ≠ "create".toList) ∧ (method = "GET" → rest = []) ∧
      (method ≠ "GET" → Path.base path = c)

/-! ## Where the check is made -/

section Checked

variable {t : Transport} {request : Request} {tokenData : TokenData} {c rest : Path}
variable {kind : ResourceControlType}

theorem ofList_ne_empty (hc : c ≠ []) : String.ofList c ≠ "" := by
  intro h
  exact hc (String.ofList_inj.mp h)

theorem reads_getVolumeResourceID {name : String} :
    Reads (fun _ resourceID => resourceIDOf t .volume name = some resourceID)
      (getVolumeResourceID t name) := by
  have hdocker : Reads (fun _ dockerID => resourceIDOf t .volume name = some s!"{name}_{dockerID}")
      (Action.mapError (fun e => "failed fetching docker id: " ++ e) (getDockerID t)) := by
    intro w a w' h
    rw [Action.mapError_run_ok] at h
    unfold getDockerID at h
    unfold resourceIDOf
    cases hs : t.snapshotDockerID with
    | some dockerID =>
      rw [hs] at h
      obtain ⟨rfl, rfl⟩ := Action.pure_run_ok.mp h
      exact ⟨rfl, rfl⟩
    | none =>
      rw [hs] at h
      cases hi : t.daemon.info with
      | error e =>
        rw [hi] at h
        exact absurd h Action.fail_run_ok
      | ok dockerID =>
        rw [hi] at h
        obtain ⟨rfl, rfl⟩ := Action.pure_run_ok.mp h
        exact ⟨rfl, rfl⟩
  exact reads_bind hdocker fun dockerID => reads_pure fun _ h => h

/-- The check for a resource other than a volume, by its identifier. -/
theorem guards_action (hkind : kind ≠ .volume) (htoken : request.token = some tokenData)
    (hrole : tokenData.role ≠ .administrator) (hc : c ≠ []) :
    Guards (ActionGranted t tokenData request.agentTarget kind (String.ofList c))
      (restrictedResourceOperation t request (String.ofList c) (String.ofList c) kind false) := by
  intro w
  refine (guards_restricted htoken hrole (ofList_ne_empty hc) w).imp_right fun h => ?_
  refine ⟨String.ofList c, ?_, h⟩
  cases kind with
  | volume => exact absurd rfl hkind
  | _ => rfl

theorem guards_actionDeletion (hkind : kind ≠ .volume) (htoken : request.token = some tokenData)
    (hrole : tokenData.role ≠ .administrator) (hc : c ≠ []) :
    Guards (ActionGranted t tokenData request.agentTarget kind (String.ofList c))
      (executeGenericResourceDeletionOperation t request (String.ofList c) (String.ofList c)
        kind) :=
  guards_deletion_bind (guards_action hkind htoken hrole hc)

/-- A request for one resource, by any method but `GET`, is guarded by the
check for the base of its path. -/
theorem guards_resourceRequest {inspect : RestrictedOperationRequest} (hkind : kind ≠ .volume)
    (htoken : request.token = some tokenData) (hrole : tokenData.role ≠ .administrator)
    (hbase : Path.base request.path = c) (hc : c ≠ []) (hget : request.method ≠ "GET") :
    Guards (ActionGranted t tokenData request.agentTarget kind (String.ofList c))
      (resourceRequest t request inspect kind) := by
  unfold resourceRequest
  rw [hbase]
  dsimp only
  rw [if_neg hget]
  split
  · exact guards_actionDeletion hkind htoken hrole hc
  · exact guards_action hkind htoken hrole hc

theorem guards_restrictedVolumeOperation (htoken : request.token = some tokenData)
    (hrole : tokenData.role ≠ .administrator) (hbase : Path.base request.path = c) (hc : c ≠ [])
    (hget : request.method ≠ "GET") :
    Guards (ActionGranted t tokenData request.agentTarget .volume (String.ofList c))
      (restrictedVolumeOperation t request) := by
  unfold restrictedVolumeOperation
  rw [hbase, if_neg hget]
  refine guards_bind reads_getVolumeResourceID fun resourceID => ?_
  have hof : ∀ {db}, AccessGranted t db tokenData request.agentTarget .volume resourceID
      (String.ofList c) → resourceIDOf t .volume (String.ofList c) = some resourceID →
      ActionGranted t tokenData request.agentTarget .volume (String.ofList c) db :=
    fun h hid => ⟨resourceID, hid, h⟩
  split
  · intro w
    exact (guards_deletion htoken hrole (ofList_ne_empty hc) w).imp_right hof
  · intro w
    exact (guards_restricted htoken hrole (ofList_ne_empty hc) w).imp_right hof

/-- An inspection that goes by the identifier in the object. -/
theorem guardsShown_inspect {properties : List String} {attr : String} (hkind : kind ≠ .volume)
    (hlabels : labelsOf kind = objectAt properties) (htoken : request.token = some tokenData)
    (hrole : tokenData.role ≠ .administrator) :
    GuardsShown t attr (String.ofList c) (InspectGranted t tokenData kind (String.ofList c))
      (rewriteOperation t request
        (inspectOperation ⟨attr, kind, selectLabels properties⟩ t)) := by
  refine guardsShown_rewrite htoken hrole fun db answer o ho hid => ?_
  unfold inspectOperation getResponseAsJSONObject
  rw [ho]
  refine returns_bind (M := fun object => object = o) ?_ ?_
  · exact returns_pure rfl
  · rintro _ rfl
    refine (returns_applyAccessControlOnResource hid).mono fun shown h => h.imp_right ?_
    rintro (hsystem | ⟨rc, hcovers, hcan⟩)
    · exact .inl hsystem
    · refine .inr ⟨String.ofList c, rc, ?_, hlabels ▸ hcovers, hcan⟩
      cases kind with
      | volume => exact absurd rfl hkind
      | _ => rfl

/-- A volume's identifier is put into its object. -/
theorem returns_decorateVolumeResponse {o : Object} {name : String}
    (hname : o.get "Name" = .str name) :
    Returns (fun decorated => ∃ resourceID, resourceIDOf t .volume name = some resourceID ∧
        decorated = o.set volumeObjectIdentifier (.str resourceID))
      (decorateVolumeResponseWithResourceID t o) := by
  unfold decorateVolumeResponseWithResourceID
  rw [hname, if_neg (by simp [Json.isNull])]
  refine returns_bind returns_asString fun name' h => ?_
  obtain rfl : name = name' := by simpa using h
  refine returns_bind (M := fun resourceID => resourceIDOf t .volume name = some resourceID)
    (returns_mapError fun w a w' hr => (reads_getVolumeResourceID w a w' hr).2)
    fun resourceID hid => returns_pure ⟨resourceID, hid, rfl⟩

/-- The check of a volume is made after that, on the same labels. -/
theorem guardsShown_volumeInspect (htoken : request.token = some tokenData)
    (hrole : tokenData.role ≠ .administrator) :
    GuardsShown t "Name" (String.ofList c) (InspectGranted t tokenData .volume (String.ofList c))
      (rewriteOperation t request (volumeInspectOperation t)) := by
  refine guardsShown_rewrite htoken hrole fun db answer o ho hid => ?_
  unfold volumeInspectOperation getResponseAsJSONObject
  rw [ho]
  refine returns_bind (M := fun object => object = o) (returns_pure rfl) fun object hobject => ?_
  subst hobject
  refine returns_bind (returns_mapError (returns_decorateVolumeResponse hid)) fun decorated hd => ?_
  obtain ⟨resourceID, hof, rfl⟩ := hd
  have hlabels : objectAt ["Labels"] (object.set volumeObjectIdentifier (.str resourceID)) =
      labelsOf .volume object := by
    show objectAt ["Labels"] _ = objectAt ["Labels"] object
    unfold objectAt
    rw [Object.get_set_of_ne (by decide)]
  refine (returns_applyAccessControlOnResource (Object.get_set_self _ _ _)).mono fun shown h =>
    h.imp_right ?_
  rintro (⟨hkind, -⟩ | ⟨rc, hcovers, hcan⟩)
  · cases hkind
  · exact .inr ⟨resourceID, rc, hof, hlabels ▸ hcovers, hcan⟩

/-- A part that is denied to everyone mediates. -/
theorem mediates_of_denied {x : Proxy Response} (h : Guards (fun _ => False) x) :
    Mediates t request tokenData kind c rest x := by
  unfold Mediates
  split
  · exact guardsShown_of_guards h
  · intro w
    exact (h w).imp_right False.elim

/-- **Containers.** -/
theorem mediates_container (hseg : Path.Segment c)
    (hbehind : rest = [] ∨ ∃ tail, rest = '/' :: tail)
    (hpath : request.path = "/containers".toList ++ '/' :: c ++ rest)
    (htoken : request.token = some tokenData) (hrole : tokenData.role ≠ .administrator)
    (h : Checked request.method request.path .container c rest) :
    Mediates t request tokenData .container c rest (proxyContainerRequest t request) := by
  rw [proxyContainerRequest_eq hseg hbehind hpath]
  obtain ⟨hnil, hc, hj⟩ | ⟨hone, hbase⟩ := h
  · rw [if_pos hnil, if_neg hc, if_neg hj]
    have hinspect : ¬ Inspects request.method .container rest := by
      rintro ⟨-, hrest⟩
      rw [hnil] at hrest
      nomatch hrest
    split
    · exact mediates_of_denied (guards_administrator htoken hrole)
    · unfold Mediates
      rw [if_neg hinspect]
      split
      · exact guards_actionDeletion (by decide) htoken hrole hseg.nonempty
      · exact guards_action (by decide) htoken hrole hseg.nonempty
  · have hnil : rest ≠ [] := by
      rintro rfl
      exact not_oneSegment_nil hone
    rw [if_neg hnil, if_pos hone]
    by_cases hb : Path.base request.path = "json".toList
    · have hinspect : Inspects request.method .container rest := hbase hb
      unfold Mediates
      rw [if_pos hb, if_pos hinspect]
      exact guardsShown_inspect (by decide) rfl htoken hrole
    · have hinspect : ¬ Inspects request.method .container rest := by
        rintro ⟨-, hrest⟩
        refine hb ?_
        rw [hpath, hrest]
        exact Path.base_snoc (show "json".toList ≠ [] by decide) (show '/' ∉ "json".toList by decide)
      unfold Mediates
      rw [if_neg hb, if_neg hinspect]
      exact guards_action (by decide) htoken hrole hseg.nonempty

/-- A request for one resource of another kind. -/
theorem mediates_resourceRequest {properties : List String} {attr : String}
    (hkind : kind ≠ .volume) (hcontainer : kind ≠ .container)
    (hlabels : labelsOf kind = objectAt properties) (hattr : identifierAttribute kind = attr)
    (hc : c ≠ []) (htoken : request.token = some tokenData)
    (hrole : tokenData.role ≠ .administrator) (hget : request.method = "GET" → rest = [])
    (hbase : request.method ≠ "GET" → Path.base request.path = c) :
    Mediates t request tokenData kind c rest
      (resourceRequest t request (inspectOperation ⟨attr, kind, selectLabels properties⟩ t)
        kind) := by
  have hinspects : Inspects request.method kind rest ↔ request.method = "GET" := by
    unfold Inspects
    rw [if_neg hcontainer]
    exact ⟨fun h => h.1, fun h => ⟨h, hget h⟩⟩
  unfold Mediates
  split
  · rename_i h
    unfold resourceRequest
    dsimp only
    rw [if_pos (hinspects.mp h), hattr]
    exact guardsShown_inspect hkind hlabels htoken hrole
  · rename_i h
    have hm := mt hinspects.mpr h
    exact guards_resourceRequest hkind htoken hrole (hbase hm) hc hm

/-- **Services.** -/
theorem mediates_service (hseg : Path.Segment c)
    (hbehind : rest = [] ∨ ∃ tail, rest = '/' :: tail)
    (hpath : request.path = "/services".toList ++ '/' :: c ++ rest)
    (htoken : request.token = some tokenData) (hrole : tokenData.role ≠ .administrator)
    (h : Checked request.method request.path .service c rest) :
    Mediates t request tokenData .service c rest (proxyServiceRequest t request) := by
  rw [proxyServiceRequest_eq hseg hbehind hpath]
  obtain ⟨hnil, hc⟩ | hone := h
  · rw [if_pos hnil, if_neg hc]
    exact mediates_resourceRequest (by decide) (by decide) rfl rfl hseg.nonempty htoken hrole
      (fun _ => hnil) fun _ => base_alone hseg hnil hpath
  · have hnil : rest ≠ [] := by
      rintro rfl
      exact not_oneSegment_nil hone
    have hinspect : ¬ Inspects request.method .service rest := fun h => hnil h.2
    rw [if_neg hnil, if_pos hone]
    unfold Mediates
    rw [if_neg hinspect]
    exact guards_action (by decide) htoken hrole hseg.nonempty

/-- **Volumes.** -/
theorem mediates_volume (hseg : Path.Segment c)
    (hbehind : rest = [] ∨ ∃ tail, rest = '/' :: tail)
    (hpath : request.path = "/volumes".toList ++ '/' :: c ++ rest)
    (htoken : request.token = some tokenData) (hrole : tokenData.role ≠ .administrator)
    (h : Checked request.method request.path .volume c rest) :
    Mediates t request tokenData .volume c rest (proxyVolumeRequest t request) := by
  obtain ⟨hcreate, hget, hbase⟩ := h
  rw [proxyVolumeRequest_eq hbehind hpath, if_neg fun h => hcreate h.1 h.2]
  split
  · exact mediates_of_denied (guards_administrator htoken hrole)
  · unfold Mediates
    split
    · rename_i h
      unfold restrictedVolumeOperation
      rw [if_pos h.1]
      exact guardsShown_volumeInspect htoken hrole
    · rename_i h
      have hm : request.method ≠ "GET" := fun hm => h ⟨hm, hget hm⟩
      exact guards_restrictedVolumeOperation htoken hrole (hbase hm) hseg.nonempty hm

/-- **Networks, secrets and configs.** -/
theorem mediates_generic {x create : Proxy Response} {properties : List String} {attr : String}
    (hx : x = if rest = [] ∧ c = "create".toList then create
      else resourceRequest t request (inspectOperation ⟨attr, kind, selectLabels properties⟩ t) kind)
    (hkind : kind ≠ .volume) (hcontainer : kind ≠ .container)
    (hlabels : labelsOf kind = objectAt properties) (hattr : identifierAttribute kind = attr)
    (hc : c ≠ []) (htoken : request.token = some tokenData)
    (hrole : tokenData.role ≠ .administrator)
    (h : (rest = [] → c ≠ "create".toList) ∧ (request.method = "GET" → rest = []) ∧
      (request.method ≠ "GET" → Path.base request.path = c)) :
    Mediates t request tokenData kind c rest x := by
  obtain ⟨hcreate, hget, hbase⟩ := h
  rw [hx, if_neg fun h => hcreate h.1 h.2]
  exact mediates_resourceRequest hkind hcontainer hlabels hattr hc htoken hrole hget hbase

/-- **The functions of the collections** make the check on every path with a
rule for the resource. -/
theorem mediates_collection {coll : Path} (hcoll : collection kind = some coll)
    (hseg : Path.Segment c) (hbehind : rest = [] ∨ ∃ tail, rest = '/' :: tail)
    (hpath : request.path = coll ++ '/' :: c ++ rest) (htoken : request.token = some tokenData)
    (hrole : tokenData.role ≠ .administrator)
    (h : Checked request.method request.path kind c rest) :
    Mediates t request tokenData kind c rest (collectionRequest t request kind) := by
  cases kind with
  | stack => nomatch hcoll
  | customTemplate => nomatch hcoll
  | containerGroup => nomatch hcoll
  | container =>
    obtain rfl := Option.some.inj hcoll
    exact mediates_container hseg hbehind hpath htoken hrole h
  | service =>
    obtain rfl := Option.some.inj hcoll
    exact mediates_service hseg hbehind hpath htoken hrole h
  | volume =>
    obtain rfl := Option.some.inj hcoll
    exact mediates_volume hseg hbehind hpath htoken hrole h
  | network =>
    obtain rfl := Option.some.inj hcoll
    exact mediates_generic (proxyNetworkRequest_eq hbehind hpath) (by decide) (by decide) rfl rfl
      hseg.nonempty htoken hrole h
  | secret =>
    obtain rfl := Option.some.inj hcoll
    exact mediates_generic (proxySecretRequest_eq hbehind hpath) (by decide) (by decide) rfl rfl
      hseg.nonempty htoken hrole h
  | config =>
    obtain rfl := Option.some.inj hcoll
    exact mediates_generic (proxyConfigRequest_eq hbehind hpath) (by decide) (by decide) rfl rfl
      hseg.nonempty htoken hrole h

/-- What mediates every request of that kind mediates after a part that
prepares one. -/
theorem mediates_bind {y : Local Request} {f : Request → Proxy Response} {P : Request → Prop}
    (hy : Reads (fun _ r => P r ∧ r.method = request.method ∧
      r.agentTarget = request.agentTarget) y)
    (hf : ∀ r, P r → r.method = request.method →
      Mediates t r tokenData kind c rest (f r)) :
    Mediates t request tokenData kind c rest ((liftM y : Proxy Request) >>= f) := by
  unfold Mediates
  split
  · rename_i h
    refine guardsShown_bind hy fun r ⟨_, hr, hm, _⟩ => ?_
    have hmed := hf r hr hm
    unfold Mediates at hmed
    rwa [if_pos (hm.symm ▸ h)] at hmed
  · rename_i h
    refine guards_bind hy fun r w => ?_
    by_cases hr : P r ∧ r.method = request.method ∧ r.agentTarget = request.agentTarget
    · obtain ⟨hP, hm, hagent⟩ := hr
      have hmed := hf r hP hm
      unfold Mediates at hmed
      rw [if_neg (hm.symm ▸ h), hagent] at hmed
      exact (hmed w).imp_right fun hgranted _ => hgranted
    · exact .inr fun h => absurd h hr

end Checked

/-! ## Where it is not made -/

section Unchecked

variable {answer : Response} {db : DataStore} {x : Proxy Response}
variable {method : String} {path c rest : Path} {kind : ResourceControlType} {resourceID : String}

/-- The daemon shows a resource, with nothing but its identifier. -/
def bareAnswer (kind : ResourceControlType) (c : Path) : Response where
  body := .ok (.obj [(identifierAttribute kind, .str (String.ofList c))])

theorem statusCode_bareAnswer : (bareAnswer kind c).statusCode ≠ 201 :=
  show (200 : ℕ) ≠ 201 by omega

theorem not_actionGranted {node : String}
    (hid : resourceIDOf (openTransport answer) kind (String.ofList c) = some resourceID)
    (hnone : getResourceControlByResourceIDAndType resourceID kind db.resourceControl.all = none) :
    ¬ ActionGranted (openTransport answer) { id := 1 } node kind (String.ofList c) db := by
  rintro ⟨resourceID', hid', rc, hdecides, -⟩
  obtain rfl := Option.some.inj (hid.symm.trans hid')
  cases hdecides with
  | own h => exact nomatch hnone.symm.trans h
  | inherited _ hlabels h =>
    obtain rfl := Except.ok.inj hlabels
    cases kind <;> nomatch h

theorem not_inspectGranted
    (hid : resourceIDOf (openTransport answer) kind (String.ofList c) = some resourceID)
    (hnone : getResourceControlByResourceIDAndType resourceID kind db.resourceControl.all = none) :
    ¬ InspectGranted (openTransport answer) { id := 1 } kind (String.ofList c) db
      [(identifierAttribute kind, .str (String.ofList c))] := by
  rintro (⟨rfl, name, hname, -⟩ | ⟨resourceID', rc, hid', hcovers, -⟩)
  · nomatch hname
  · obtain rfl := Option.some.inj (hid.symm.trans hid')
    have hlabels : labelsOf kind [(identifierAttribute kind, .str (String.ofList c))] = none := by
      cases kind <;> rfl
    cases hcovers with
    | own h => exact nomatch hnone.symm.trans h
    | service hl _ _ => exact nomatch hlabels.symm.trans hl
    | stack hl _ _ _ => exact nomatch hlabels.symm.trans hl
    | portainerLabels hl _ => exact nomatch hlabels.symm.trans hl

/-- **Forwarding for a user without access is not mediated.** -/
theorem not_mediates_of_sends (hsends : Sends x db) (hinspects : ¬ Inspects method kind rest)
    (hid : resourceIDOf (openTransport answer) kind (String.ofList c) = some resourceID)
    (hnone : getResourceControlByResourceIDAndType resourceID kind db.resourceControl.all = none) :
    ¬ Mediates (openTransport answer) (plainRequest method path) { id := 1 } kind c rest x := by
  intro h
  unfold Mediates at h
  rw [if_neg (show ¬ Inspects (plainRequest method path).method kind rest from hinspects)] at h
  obtain ⟨hf, -⟩ | hgranted := h (.faultless { dataStore := db })
  · exact hsends hf
  · exact not_actionGranted hid hnone hgranted

/-- **Nor is passing the daemon's answer on.** -/
theorem not_mediates_of_passes (hpasses : Passes x (bareAnswer kind c) db)
    (hid : resourceIDOf (openTransport (bareAnswer kind c)) kind (String.ofList c) =
      some resourceID)
    (hnone : getResourceControlByResourceIDAndType resourceID kind db.resourceControl.all = none) :
    ¬ Mediates (openTransport (bareAnswer kind c)) (plainRequest method path) { id := 1 } kind c
      rest x := by
  by_cases hinspects : Inspects method kind rest
  · intro h
    unfold Mediates at h
    rw [if_pos (show Inspects (plainRequest method path).method kind rest from hinspects)] at h
    obtain ⟨r, w', hrun, hw'⟩ := hpasses
    obtain ⟨hf, -⟩ | ⟨r', answer, -, hanswer, hshown⟩ := h _ _ _ hrun
    · rw [hw'] at hf
      nomatch hf
    · obtain rfl := Except.ok.inj hanswer
      obtain hdenied | hgranted := hshown _ rfl (by simp [Object.get, lastOf])
      · have hstatus : (200 : ℕ) = 403 := congrArg Response.statusCode hdenied
        omega
      · exact not_inspectGranted hid hnone hgranted
  · exact not_mediates_of_sends hpasses.sends hinspects hid hnone

theorem exists_resourceIDOf (answer : Response) (kind : ResourceControlType) (c : Path) :
    ∃ resourceID,
    resourceIDOf (openTransport answer) kind (String.ofList c) = some resourceID ∧
      getResourceControlByResourceIDAndType resourceID kind
        (openStore {}).resourceControl.all = none := by
  cases kind <;> exact ⟨_, rfl, by simp [openStoreWith, getResourceControlByResourceIDAndType]⟩

/-- The identifier a volume has in the open environment. -/
def volumeID (name : Path) : String :=
  let dockerID := ""
  s!"{String.ofList name}_{dockerID}"

theorem volumeID_inj {name name' : Path} (h : volumeID name = volumeID name') : name = name' := by
  have hof : toString (String.ofList name) = toString (String.ofList name') := by
    simpa [volumeID] using h
  exact String.ofList_inj.mp hof

/-- Passing on the daemon's answer, in a database without resource
controls. -/
theorem not_mediates_open_of_passes (hpasses : Passes x (bareAnswer kind c) (openStore {})) :
    ¬ Mediates (openTransport (bareAnswer kind c)) (plainRequest method path) { id := 1 } kind c
      rest x := by
  obtain ⟨resourceID, hid, hnone⟩ := exists_resourceIDOf (bareAnswer kind c) kind c
  exact not_mediates_of_passes hpasses hid hnone

theorem not_mediates_open_of_sends (hsends : Sends x (openStore {}))
    (hinspects : ¬ Inspects method kind rest) :
    ¬ Mediates (openTransport answer) (plainRequest method path) { id := 1 } kind c rest x := by
  obtain ⟨resourceID, hid, hnone⟩ := exists_resourceIDOf answer kind c
  exact not_mediates_of_sends hsends hinspects hid hnone

end Unchecked

/-! ## The paths that are mediated -/

section Main

variable {method : String} {p f c rest : Path} {kind : ResourceControlType}

/-- What a mediated request means in the open environment, for the function
of the collection. -/
def MediatedOpen (method : String) (p f : Path) (kind : ResourceControlType) (c rest : Path) :
    Prop :=
  ∀ answer, Mediates (openTransport answer) (plainRequest method p) { id := 1 } kind c rest
    (collectionRequest (openTransport answer) (plainRequest method f) kind)

theorem checked_of_container (hseg : Path.Segment c)
    (hbehind : rest = [] ∨ ∃ tail, rest = '/' :: tail)
    (hf : f = "/containers".toList ++ '/' :: c ++ rest)
    (h : MediatedOpen method p f .container c rest) :
    Checked method f .container c rest := by
  have h := h (bareAnswer .container c)
  rw [collectionRequest, proxyContainerRequest_eq hseg hbehind hf] at h
  by_cases hnil : rest = []
  · have hinspects : ¬ Inspects method .container rest := by
      rintro ⟨-, hrest⟩
      rw [hnil] at hrest
      cases hrest
    rw [if_pos hnil] at h
    refine .inl ⟨hnil, fun hc => ?_, fun hc => ?_⟩
    · rw [if_pos hc] at h
      exact not_mediates_open_of_passes (passes_containerCreation statusCode_bareAnswer rfl rfl) h
    · rw [if_neg (by rw [hc]; decide), if_neg (by rw [hc]; decide), if_pos hc] at h
      exact not_mediates_open_of_sends sends_rewriteWithLabelFiltering hinspects h
  · rw [if_neg hnil] at h
    by_cases hone : OneSegment rest
    · rw [if_pos hone] at h
      refine .inr ⟨hone, fun hb => ?_⟩
      rw [if_pos (show Path.base (plainRequest method f).path = _ from hb)] at h
      by_contra hinspect
      have hinspects : ¬ Inspects method .container rest := hinspect
      exact not_mediates_open_of_sends sends_rewrite hinspects h
    · have hinspects : ¬ Inspects method .container rest := by
        rintro ⟨-, hrest⟩
        rw [hrest] at hone
        exact hone (by decide)
      rw [if_neg hone] at h
      exact absurd h (not_mediates_open_of_sends passes_execute.sends hinspects)

theorem checked_of_service (hseg : Path.Segment c)
    (hbehind : rest = [] ∨ ∃ tail, rest = '/' :: tail)
    (hf : f = "/services".toList ++ '/' :: c ++ rest)
    (h : MediatedOpen method p f .service c rest) :
    Checked method f .service c rest := by
  have h := h (bareAnswer .service c)
  rw [collectionRequest, proxyServiceRequest_eq hseg hbehind hf] at h
  by_cases hnil : rest = []
  · rw [if_pos hnil] at h
    refine .inl ⟨hnil, fun hc => ?_⟩
    rw [if_pos hc] at h
    exact not_mediates_open_of_passes (passes_serviceCreation statusCode_bareAnswer rfl rfl) h
  · rw [if_neg hnil] at h
    by_cases hone : OneSegment rest
    · exact .inr hone
    · have hinspects : ¬ Inspects method .service rest := fun hi => hnil hi.2
      rw [if_neg hone] at h
      exact absurd h (not_mediates_open_of_sends passes_execute.sends hinspects)

/-- The rule of the other kinds, from what goes wrong where it is broken:
for a creation, for a `GET` with something behind the resource, and for the
check of another resource. -/
theorem checked_of_other
    (hcontainer : kind ≠ .container)
    (h : MediatedOpen method p f kind c rest)
    (hcreate : rest = [] → c = "create".toList →
      Passes (collectionRequest (openTransport (bareAnswer kind c)) (plainRequest method f) kind)
        (bareAnswer kind c) (openStore {}))
    (hget : method = "GET" → rest ≠ [] →
      Sends (collectionRequest (openTransport (bareAnswer kind c)) (plainRequest method f) kind)
        (openStore {}))
    (hother : method ≠ "GET" → Path.base f ≠ c → ∃ resourceID other,
      resourceIDOf (openTransport (bareAnswer kind c)) kind (String.ofList c) = some resourceID ∧
        resourceID ≠ other ∧
        Sends (collectionRequest (openTransport (bareAnswer kind c)) (plainRequest method f) kind)
          (openStore (controlled other kind))) :
    (rest = [] → c ≠ "create".toList) ∧ (method = "GET" → rest = []) ∧
      (method ≠ "GET" → Path.base f = c) := by
  have h := h (bareAnswer kind c)
  refine ⟨fun hnil hc => ?_, fun hm => ?_, fun hm => ?_⟩
  · exact not_mediates_open_of_passes (hcreate hnil hc) h
  · by_contra hnil
    have hinspects : ¬ Inspects method kind rest := by
      rintro ⟨-, hrest⟩
      rw [if_neg hcontainer] at hrest
      exact hnil hrest
    exact not_mediates_open_of_sends (hget hm hnil) hinspects h
  · by_contra hb
    obtain ⟨resourceID, other, hid, hne, hsends⟩ := hother hm hb
    exact not_mediates_of_sends hsends (fun hi => hm hi.1) hid (get_controlled_of_ne hne) h

/-- **Networks, secrets and configs.** -/
theorem checked_of_generic {attr : String} {inspect : RestrictedOperationRequest}
    (hx : collectionRequest (openTransport (bareAnswer kind c)) (plainRequest method f) kind =
      if rest = [] ∧ c = "create".toList then
        decorateGenericResourceCreationOperation (openTransport (bareAnswer kind c))
          (plainRequest method f) attr kind
      else resourceRequest (openTransport (bareAnswer kind c)) (plainRequest method f) inspect kind)
    (hkind : kind ≠ .volume) (hcontainer : kind ≠ .container)
    (hbase : rest = [] → Path.base f = c) (h : MediatedOpen method p f kind c rest) :
    (rest = [] → c ≠ "create".toList) ∧ (method = "GET" → rest = []) ∧
      (method ≠ "GET" → Path.base f = c) := by
  refine checked_of_other hcontainer h (fun hnil hc => ?_) (fun hm hrest => ?_) fun hm hb => ?_
  · rw [hx, if_pos ⟨hnil, hc⟩]
    exact passes_genericCreation statusCode_bareAnswer
  · rw [hx, if_neg fun h => hrest h.1]
    unfold resourceRequest
    dsimp only
    rw [if_pos (show (plainRequest method f).method = "GET" from hm)]
    exact sends_rewrite
  · obtain ⟨rc, hrc, hcan⟩ := get_controlled {} (String.ofList (Path.base f)) kind
    refine ⟨String.ofList c, String.ofList (Path.base f), ?_, ?_, ?_⟩
    · cases kind with
      | volume => exact absurd rfl hkind
      | _ => rfl
    · exact fun h => hb (String.ofList_inj.mp h).symm
    · rw [hx, if_neg fun h => hb (hbase h.1)]
      unfold resourceRequest
      dsimp only
      rw [if_neg (show (plainRequest method f).method ≠ "GET" from hm)]
      split
      · exact sends_deletion hrc hcan
      · exact sends_restricted hrc hcan

/-- **Volumes.** -/
theorem checked_of_volume (hseg : Path.Segment c)
    (hbehind : rest = [] ∨ ∃ tail, rest = '/' :: tail)
    (hf : f = "/volumes".toList ++ '/' :: c ++ rest)
    (h : MediatedOpen method p f .volume c rest) : Checked method f .volume c rest := by
  have hx : ∀ answer, collectionRequest (openTransport answer) (plainRequest method f) .volume = _ :=
    fun _ => proxyVolumeRequest_eq hbehind hf
  refine checked_of_other (by decide) h (fun hnil hc => ?_) (fun hm hrest => ?_) fun hm hb => ?_
  · rw [hx, if_pos ⟨hnil, hc⟩]
    exact passes_volumeCreation statusCode_bareAnswer
  · rw [hx, if_neg fun h => hrest h.1, if_neg fun h => hrest h.1]
    unfold restrictedVolumeOperation
    rw [if_pos (show (plainRequest method f).method = "GET" from hm)]
    exact sends_rewrite
  · have hrest : rest ≠ [] := fun hnil => hb (base_alone hseg hnil hf)
    obtain ⟨rc, hrc, hcan⟩ := get_controlled {} (volumeID (Path.base f)) .volume
    refine ⟨volumeID c, volumeID (Path.base f), rfl, fun h => hb (volumeID_inj h).symm, ?_⟩
    rw [hx, if_neg fun h => hrest h.1, if_neg fun h => hrest h.1]
    unfold restrictedVolumeOperation
    rw [if_neg (show (plainRequest method f).method ≠ "GET" from hm)]
    refine sends_bind (a := volumeID (Path.base f)) rfl ?_
    split
    · exact sends_deletion hrc hcan
    · exact sends_restricted hrc hcan

theorem checked_of_collection {coll : Path} (hcoll : collection kind = some coll)
    (hseg : Path.Segment c) (hbehind : rest = [] ∨ ∃ tail, rest = '/' :: tail)
    (hf : f = coll ++ '/' :: c ++ rest) (h : MediatedOpen method p f kind c rest) :
    Checked method f kind c rest := by
  have hbase : rest = [] → Path.base f = c := fun hnil => base_alone hseg hnil hf
  cases kind with
  | stack => nomatch hcoll
  | customTemplate => nomatch hcoll
  | containerGroup => nomatch hcoll
  | container =>
    obtain rfl := Option.some.inj hcoll
    exact checked_of_container hseg hbehind hf h
  | service =>
    obtain rfl := Option.some.inj hcoll
    exact checked_of_service hseg hbehind hf h
  | volume =>
    obtain rfl := Option.some.inj hcoll
    exact checked_of_volume hseg hbehind hf h
  | network =>
    obtain rfl := Option.some.inj hcoll
    have hx : collectionRequest (openTransport (bareAnswer .network c)) (plainRequest method f)
        .network = _ := proxyNetworkRequest_eq hbehind hf
    exact checked_of_generic hx (by decide) (by decide) hbase h
  | secret =>
    obtain rfl := Option.some.inj hcoll
    have hx : collectionRequest (openTransport (bareAnswer .secret c)) (plainRequest method f)
        .secret = _ := proxySecretRequest_eq hbehind hf
    exact checked_of_generic hx (by decide) (by decide) hbase h
  | config =>
    obtain rfl := Option.some.inj hcoll
    have hx : collectionRequest (openTransport (bareAnswer .config c)) (plainRequest method f)
        .config = _ := proxyConfigRequest_eq hbehind hf
    exact checked_of_generic hx (by decide) (by decide) hbase h

/-- What is mediated has a rule: on every other path there is a run in the
open environment that forwards for a user without access. -/
theorem checked_of_mediated (h : Addresses method p kind c rest)
    (hmediated : Mediated method p kind c rest) :
    leadingVersion (requestPath p) = 0 ∧ Checked method (requestPath p) kind c rest := by
  obtain ⟨hseg, ⟨coll, hcoll, hreading⟩, hbehind, -⟩ := h
  have hopen : ∀ answer, Mediates (openTransport answer) (plainRequest method p) { id := 1 } kind
      c rest (proxyRequest (openTransport answer) (plainRequest method (requestPath p))) :=
    fun answer => hmediated (openTransport answer) (plainRequest method p) { id := 1 } rfl rfl rfl
      (by decide)
  have hversion : leadingVersion (requestPath p) = 0 := by
    by_contra hne
    have h := hopen (bareAnswer kind c)
    rw [proxyRequest_of_leadingVersion hne] at h
    exact not_mediates_open_of_passes passes_execute h
  have hf : requestPath p = coll ++ '/' :: c ++ rest := by
    rwa [removeLeadingVersion, hversion, List.drop_zero] at hreading
  have hcollection : MediatedOpen method p (requestPath p) kind c rest := by
    intro answer
    have hroute : proxyRequest (openTransport answer) (plainRequest method (requestPath p)) = _ :=
      proxyRequest_of_collection hcoll hf
    exact hroute ▸ hopen answer
  exact ⟨hversion, checked_of_collection hcoll hseg hbehind hf hcollection⟩

/-- What has a rule is mediated. -/
theorem mediated_of_checked (h : Addresses method p kind c rest)
    (hversion : leadingVersion (requestPath p) = 0)
    (hchecked : Checked method (requestPath p) kind c rest) : Mediated method p kind c rest := by
  obtain ⟨hseg, ⟨coll, hcoll, hreading⟩, hbehind, -⟩ := h
  rintro t request tokenData rfl rfl htoken hrole
  have hf : requestPath request.path = coll ++ '/' :: c ++ rest := by
    rwa [removeLeadingVersion, hversion, List.drop_zero] at hreading
  refine mediates_bind (P := fun r => r.path = requestPath request.path ∧ r.token = some tokenData)
    (reads_signedRequest.mono fun _ r hsigned => ?_) fun r hr hm => ?_
  · obtain ⟨b, hr⟩ := hsigned
    exact hr ▸ ⟨⟨rfl, htoken⟩, rfl, rfl⟩
  obtain ⟨hpath, ht⟩ := hr
  have hr : r.path = coll ++ '/' :: c ++ rest := hpath.trans hf
  rw [proxyRequest_of_collection hcoll hr]
  refine mediates_collection hcoll hseg hbehind hr ht hrole ?_
  rw [hpath, hm]
  exact hchecked

/-- **Which requests are mediated**: those on whose path no version segment
is left for the proxy, and for which it has a rule. -/
theorem mediated_iff (h : Addresses method p kind c rest) :
    Mediated method p kind c rest ↔
      leadingVersion (requestPath p) = 0 ∧ Checked method (requestPath p) kind c rest :=
  ⟨checked_of_mediated h, fun hc => mediated_of_checked h hc.1 hc.2⟩

end Main

theorem segment_abc : Path.Segment "abc".toList := ⟨by decide, by decide, by decide, by decide⟩

theorem mediated_stop :
    Mediated "POST" "/v1.40/containers/abc/stop".toList .container "abc".toList "/stop".toList :=
  (mediated_iff ⟨segment_abc, ⟨_, rfl, rfl⟩, .inr ⟨_, rfl⟩, fun h => absurd h.1 (by decide)⟩).mpr
    ⟨by decide, .inr ⟨by decide, fun h => absurd h (by decide)⟩⟩

/-- **A counterexample**: two segments behind a container are behind every
rule, and so the terminal of anyone's container is open to everyone. -/
theorem not_mediated_attach :
    Addresses "GET" "/containers/abc/attach/ws".toList .container "abc".toList
        "/attach/ws".toList ∧
      ¬ Mediated "GET" "/containers/abc/attach/ws".toList .container "abc".toList
        "/attach/ws".toList := by
  have h : Addresses "GET" "/containers/abc/attach/ws".toList .container "abc".toList
      "/attach/ws".toList :=
    ⟨segment_abc, ⟨_, rfl, rfl⟩, .inr ⟨_, rfl⟩, fun h => absurd h.1 (by decide)⟩
  refine ⟨h, fun hmediated => ?_⟩
  obtain ⟨-, ⟨hnil, -⟩ | ⟨hone, -⟩⟩ := checked_of_mediated h hmediated
  · exact absurd hnil (by decide)
  · exact absurd hone (by decide)

end DockerProxy

end Portainer
