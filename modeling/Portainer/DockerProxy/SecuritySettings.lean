import Portainer.DockerProxy.Helpers.Routing
import Portainer.DockerProxy.Helpers.Open
/-!
# Security settings — what a regular user's container or service may ask for

The settings of an environment switch features off for regular users. A
creation is checked against them before it is forwarded, on the part of its
body the proxy decodes. What Docker takes a body to ask for is a parameter:
in the fields that the proxy decodes it is what the proxy sees, and there
are other fields, and one more route, the update of a service.

`settingsHold_iff` says for which routes, bodies and settings a request is
forwarded only if what Docker reads in it is not switched off.
-/

namespace Portainer

namespace DockerProxy

/-! ## Features -/

/-- What the settings can switch off for regular users. -/
inductive Feature
  | privilegedMode
  | hostNamespace
  | deviceMapping
  | sysctlSetting
  | containerCapabilities
  | bindMounts
  deriving DecidableEq

/-- A feature is not switched off. -/
def Feature.allowedBy (settings : EndpointSecuritySettings) : Feature → Bool
  | privilegedMode => settings.allowPrivilegedModeForRegularUsers
  | hostNamespace => settings.allowHostNamespaceForRegularUsers
  | deviceMapping => settings.allowDeviceMappingForRegularUsers
  | sysctlSetting => settings.allowSysctlSettingForRegularUsers
  | containerCapabilities => settings.allowContainerCapabilitiesForRegularUsers
  | bindMounts => settings.allowBindMountsForRegularUsers

/-! ## What the proxy sees in a body -/

/-- The proxy sees a container ask for a feature. -/
def PartialHostConfig.Shows (c : PartialHostConfig) : Feature → Prop
  | .privilegedMode => c.privileged = true
  | .hostNamespace => c.pidMode = "host"
  | .deviceMapping => c.devices.elements ≠ []
  | .sysctlSetting => c.sysctls ≠ []
  | .containerCapabilities => c.capAdd.elements ≠ [] ∨ c.capDrop.elements ≠ []
  | .bindMounts => c.binds.elements ≠ []

/-- The proxy sees a service ask for a feature. -/
def PartialService.Shows (s : PartialService) : Feature → Prop
  | .bindMounts => ∃ m ∈ s.mounts.elements, m.type = "bind"
  | _ => False

/-! ## Routes -/

/-- The routes on which Docker reads a container or a service. -/
inductive BodyRoute
  | containerCreate
  | serviceCreate
  | serviceUpdate (id : Path)

namespace BodyRoute

def path : BodyRoute → Path
  | containerCreate => "/containers/create".toList
  | serviceCreate => "/services/create".toList
  | serviceUpdate id => "/services".toList ++ '/' :: id ++ "/update".toList

/-- The service of an update has an identifier. -/
def WellFormed : BodyRoute → Prop
  | serviceUpdate id => Path.Segment id
  | _ => True

/-- The proxy can read the body, and sees nothing in it that is switched
off. -/
def Accepts (settings : EndpointSecuritySettings) (body : Body) : BodyRoute → Prop
  | containerCreate =>
    ∃ c, body.unmarshal.bind (Decode.partialContainer {}) = some c ∧
      ∀ feature : Feature, feature.allowedBy settings = false → ¬ c.hostConfig.Shows feature
  | serviceCreate =>
    ∃ s, body.unmarshal.bind (Decode.partialService {}) = some s ∧
      ∀ feature : Feature, feature.allowedBy settings = false → ¬ s.Shows feature
  | serviceUpdate _ => True

end BodyRoute

/-! ## What Docker reads in a body -/

/-- **What Docker takes a body to ask for**, on each route. -/
structure Docker where
  /-- In the fields that the proxy decodes, too. -/
  shows : BodyRoute → Body → Feature → Prop
  /-- In any other field, and in any other form it accepts. -/
  asksOtherwise : BodyRoute → Body → Feature → Prop

/-- The fields that the proxy decodes are decoded by the rules of
`encoding/json` on either side, so that Docker is shown no more in them than
the proxy is. -/
structure Docker.Decodes (docker : Docker) : Prop where
  container : ∀ {body c feature}, body.unmarshal.bind (Decode.partialContainer {}) = some c →
    docker.shows .containerCreate body feature → c.hostConfig.Shows feature
  service : ∀ {body s feature}, body.unmarshal.bind (Decode.partialService {}) = some s →
    docker.shows .serviceCreate body feature → s.Shows feature

namespace BodyRoute

/-- The body asks for a feature. -/
def Asks (docker : Docker) (body : Body) (feature : Feature) (route : BodyRoute) : Prop :=
  docker.shows route body feature ∨ docker.asksOtherwise route body feature

/-- The body asks for a feature in a form the proxy does not look at on the
route. On the update of a service it looks at nothing. -/
def AsksUnseen (docker : Docker) (body : Body) (feature : Feature) : BodyRoute → Prop
  | serviceUpdate id => (serviceUpdate id).Asks docker body feature
  | route => docker.asksOtherwise route body feature

end BodyRoute

/-- **The settings hold** on a route, for a path that leads there, a body
and settings: whatever else a regular user's request carries, and in every
run, it is forwarded only if it asks for nothing that is switched off, and
then with the body it came with. -/
def SettingsHold (docker : Docker) (route : BodyRoute) (path : Path) (body : Body)
    (settings : EndpointSecuritySettings) : Prop :=
  ∀ (t : Transport) (request : Request) (tokenData : TokenData) (endpoint : Endpoint)
    (w : Sys Callee ProxyState),
    request.method = "POST" → request.path = path → request.body = body →
      request.token = some tokenData → tokenData.role ≠ .administrator →
      w.store.dataStore.endpoint.get? t.endpoint.id = some endpoint →
      endpoint.securitySettings = settings → w.store.forwarded = [] →
        ∀ r ∈ ((proxyDockerRequest t request).run w).2.store.forwarded,
          (∀ feature, feature.allowedBy settings = false → ¬ route.Asks docker body feature) ∧
            r.body = body

section Conditions

variable {docker : Docker} {route : BodyRoute} {body : Body} {settings : EndpointSecuritySettings}
  {feature : Feature}

/-- What the proxy has accepted asks for what is switched off in unseen
forms alone. -/
theorem asksUnseen_of_accepts (hdocker : docker.Decodes) (haccepts : route.Accepts settings body)
    (hoff : feature.allowedBy settings = false) (hasks : route.Asks docker body feature) :
    route.AsksUnseen docker body feature := by
  cases route with
  | containerCreate =>
    obtain ⟨c, hc, hshows⟩ := haccepts
    exact hasks.resolve_left fun h => hshows feature hoff (hdocker.container hc h)
  | serviceCreate =>
    obtain ⟨s, hs, hshows⟩ := haccepts
    exact hasks.resolve_left fun h => hshows feature hoff (hdocker.service hs h)
  | serviceUpdate id => exact hasks

theorem asks_of_asksUnseen (h : route.AsksUnseen docker body feature) : route.Asks docker body feature := by
  cases route with
  | containerCreate => exact .inr h
  | serviceCreate => exact .inr h
  | serviceUpdate id => exact h

/-! ## The checks -/

variable {w w' : Sys Callee DataStore} {u : Unit}

theorem Feature.forall_iff {P : Feature → Prop} : (∀ feature, P feature) ↔
    P .privilegedMode ∧ P .hostNamespace ∧ P .deviceMapping ∧ P .sysctlSetting ∧
      P .containerCapabilities ∧ P .bindMounts := by
  constructor
  · intro h
    exact ⟨h _, h _, h _, h _, h _, h _⟩
  · rintro ⟨h₁, h₂, h₃, h₄, h₅, h₆⟩ feature
    cases feature <;> assumption

theorem off_imp {allowed : Bool} {P : Prop} : (allowed = false → P) ↔ (allowed = true ∨ P) := by
  cases allowed <;> simp

/-- The check of a container passes exactly when the proxy sees nothing that
is switched off. -/
theorem checkPartialContainer_run_ok {c : PartialContainer} :
    (checkPartialContainer settings c).run w = (.ok u, w') ↔
      (∀ feature : Feature, feature.allowedBy settings = false → ¬ c.hostConfig.Shows feature) ∧
        w = w' := by
  rw [Feature.forall_iff]
  unfold checkPartialContainer
  simp only [off_imp, Action.require_bind_run_ok, Action.require_run_ok, Feature.allowedBy,
    PartialHostConfig.Shows, List.length_eq_zero_iff, ne_eq, not_or, not_not, and_assoc]

theorem checkPartialService_run_ok {c : PartialService} :
    (checkPartialService settings c).run w = (.ok u, w') ↔
      (∀ feature : Feature, feature.allowedBy settings = false → ¬ c.Shows feature) ∧ w = w' := by
  rw [Feature.forall_iff]
  unfold checkPartialService
  simp only [off_imp, Action.require_run_ok, Feature.allowedBy, PartialService.Shows, not_exists,
    not_and, not_false_eq_true, or_true, true_and, ne_eq]

end Conditions

/-! ## What the proxy does on the routes -/

section Routes

variable {t : Transport} {request : Request} {tokenData : TokenData} {route : BodyRoute}

/-- The operation on a route. -/
def routeRequest (t : Transport) (request : Request) : BodyRoute → Proxy Response
  | .containerCreate =>
    decorateContainerCreationOperation t request containerObjectIdentifier .container
  | .serviceCreate => decorateServiceCreationOperation t request
  | .serviceUpdate id =>
    restrictedResourceOperation t request (String.ofList id) (String.ofList id) .service false

theorem proxyRequest_of_route (hroute : route.WellFormed) (h : request.path = route.path) :
    proxyRequest t request = routeRequest t request route := by
  cases route with
  | containerCreate =>
    have hpath : request.path = "/containers".toList ++ '/' :: "create".toList ++ [] := h
    have hcoll : collection .container = some "/containers".toList := rfl
    rw [proxyRequest_of_collection hcoll hpath]
    exact if_pos h
  | serviceCreate =>
    have hpath : request.path = "/services".toList ++ '/' :: "create".toList ++ [] := h
    have hcoll : collection .service = some "/services".toList := rfl
    rw [proxyRequest_of_collection hcoll hpath]
    exact if_pos h
  | serviceUpdate id =>
    have hpath : request.path = "/services".toList ++ '/' :: id ++ "/update".toList := h
    have hcoll : collection .service = some "/services".toList := rfl
    have hbehind : "/update".toList = [] ∨ ∃ tail, "/update".toList = '/' :: tail := .inr ⟨_, rfl⟩
    rw [proxyRequest_of_collection hcoll hpath, collectionRequest,
      proxyServiceRequest_eq hroute hbehind hpath, if_neg (by decide), if_pos (by decide)]
    rfl

/-- **The settings check** lets a regular user's request pass only if the
body can be read and passes it, under the settings in the database. -/
theorem reads_checkedRequest {α : Type} {d : Json.Decoder α} {zero : α}
    {check : EndpointSecuritySettings → α → Local Unit}
    {Ok : EndpointSecuritySettings → α → Prop} (htoken : request.token = some tokenData)
    (hrole : tokenData.role ≠ .administrator)
    (hcheck : ∀ {settings a w u w'}, (check settings a).run w = (.ok u, w') →
      Ok settings a ∧ w = w') :
    Reads (fun db _ => ∃ endpoint a, db.endpoint.get? t.endpoint.id = some endpoint ∧
        request.body.unmarshal.bind (d zero) = some a ∧ Ok endpoint.securitySettings a)
      (checkedRequest t request d zero check) := by
  have hadmin : Reads (fun _ admin => admin = false) (isAdminOrEndpointAdmin request) := by
    refine reads_bind reads_retrieveTokenData fun tokenData' => reads_pure fun _ h => ?_
    obtain rfl := Option.some.inj (htoken.symm.trans h)
    simpa using hrole
  have hsettings : Reads (fun db settings => ∃ endpoint, db.endpoint.get? t.endpoint.id =
      some endpoint ∧ settings = endpoint.securitySettings) (fetchEndpointSecuritySettings t) :=
    reads_bind (reads_readObject fun _ _ h => h) fun endpoint =>
      reads_pure fun _ h => ⟨endpoint, h, rfl⟩
  have hunmarshal : ∀ v : Option Json, Reads (fun _ a => v.bind (d zero) = some a)
      (unmarshal d zero v) := by
    intro v
    unfold unmarshal
    split
    · exact reads_fail
    · rename_i a ha
      exact reads_pure fun _ => ha
  refine reads_bind hadmin fun admin => ?_
  cases admin with
  | true => exact reads_pure fun _ h => nomatch h
  | false =>
    refine reads_bind hsettings fun settings => ?_
    refine reads_bind (M := fun _ body => body = request.body) (reads_query fun _ => rfl)
      fun body => ?_
    refine reads_bind (hunmarshal body.unmarshal) fun a => ?_
    have hpassed : Reads (fun _ _ => Ok settings a) (check settings a) := by
      intro w u w' h
      obtain ⟨hok, rfl⟩ := hcheck h
      exact ⟨rfl, hok⟩
    refine reads_bind hpassed fun _ => reads_pure fun db hok ha hbody hs _ => ?_
    obtain ⟨endpoint, hendpoint, rfl⟩ := hs
    exact ⟨endpoint, a, hendpoint, hbody ▸ ha, hok⟩

/-- **A request is forwarded only if the proxy accepts its body.** -/
theorem guards_routeRequest (htoken : request.token = some tokenData)
    (hrole : tokenData.role ≠ .administrator) :
    Guards (fun db => ∀ endpoint, db.endpoint.get? t.endpoint.id = some endpoint →
        route.Accepts endpoint.securitySettings request.body) (routeRequest t request route) := by
  cases route with
  | containerCreate =>
    refine guards_bind (M := fun _ _ => True) (reads_retrieveTokenData.mono fun _ _ _ => trivial)
      fun _ => ?_
    refine guards_bind (reads_checkedRequest htoken hrole fun h =>
      checkPartialContainer_run_ok.mp h) fun _ => guards_of_forall ?_
    rintro db ⟨endpoint, c, hendpoint, hc, hok⟩ _ endpoint' hendpoint'
    obtain rfl := Option.some.inj (hendpoint.symm.trans hendpoint')
    exact ⟨c, hc, hok⟩
  | serviceCreate =>
    refine guards_bind (reads_checkedRequest htoken hrole fun h =>
      checkPartialService_run_ok.mp h) fun _ => guards_of_forall ?_
    rintro db ⟨endpoint, s, hendpoint, hs, hok⟩ endpoint' hendpoint'
    obtain rfl := Option.some.inj (hendpoint.symm.trans hendpoint')
    exact ⟨s, hs, hok⟩
  | serviceUpdate id => exact guards_of_forall fun _ _ _ => trivial

/-- The body that is forwarded is the one that came. -/
theorem forwards_routeRequest {body : Body} (h : request.body = body) :
    Forwards (fun r => r.body = body) (routeRequest t request route) := by
  cases route with
  | containerCreate => exact forwards_containerCreation h
  | serviceCreate => exact forwards_serviceCreation fun _ => h
  | serviceUpdate id => exact forwards_restricted h

end Routes

/-! ## Where the settings hold -/

section Main

variable {docker : Docker} {route : BodyRoute} {p : Path} {body : Body} {settings : EndpointSecuritySettings}

/-- **The condition.** Where the proxy finds its route, what it accepts asks
for nothing that is switched off in a form it does not look at; and where a
version segment keeps it from finding it, the body asks for nothing that is
switched off at all. -/
def Covered (docker : Docker) (route : BodyRoute) (path : Path) (body : Body)
    (settings : EndpointSecuritySettings) : Prop :=
  if leadingVersion (requestPath path) = 0 then
    route.Accepts settings body →
      ∀ feature : Feature, feature.allowedBy settings = false → ¬ route.AsksUnseen docker body feature
  else ∀ feature : Feature, feature.allowedBy settings = false → ¬ route.Asks docker body feature

section Dispatch

variable {t : Transport} {request : Request} {tokenData : TokenData}

/-- The path the request is dispatched on, once the proxy finds a route. -/
theorem proxyRequest_of_signed (hroute : route.WellFormed)
    (hpath : removeLeadingVersion (requestPath request.path) = route.path)
    (hversion : leadingVersion (requestPath request.path) = 0) (signed : Bool) :
    proxyRequest t { request with path := requestPath request.path, signed := signed } =
      routeRequest t { request with path := requestPath request.path, signed := signed } route := by
  rw [removeLeadingVersion, hversion, List.drop_zero] at hpath
  exact proxyRequest_of_route hroute hpath

theorem guards_proxyDockerRequest (hroute : route.WellFormed)
    (hpath : removeLeadingVersion (requestPath request.path) = route.path)
    (hversion : leadingVersion (requestPath request.path) = 0)
    (htoken : request.token = some tokenData) (hrole : tokenData.role ≠ .administrator) :
    Guards (fun db => ∀ endpoint, db.endpoint.get? t.endpoint.id = some endpoint →
        route.Accepts endpoint.securitySettings request.body) (proxyDockerRequest t request) := by
  refine guards_bind reads_signedRequest fun signed => ?_
  by_cases hsigned : ∃ b, signed = { request with path := requestPath request.path, signed := b }
  · obtain ⟨b, hb⟩ := hsigned
    have htoken' : signed.token = some tokenData := by
      rw [hb]
      exact htoken
    have hbody : signed.body = request.body := by rw [hb]
    have hrouted : proxyRequest t signed = routeRequest t signed route := by
      rw [hb]
      exact proxyRequest_of_signed hroute hpath hversion b
    have hguards : Guards _ (routeRequest t signed route) := guards_routeRequest htoken' hrole
    rw [hbody] at hguards
    rw [hrouted]
    intro w
    exact (hguards w).imp_right fun h _ => h
  · exact guards_of_forall fun _ h => absurd h hsigned

theorem forwards_body (hroute : route.WellFormed)
    (hpath : removeLeadingVersion (requestPath request.path) = route.path) :
    Forwards (fun r => r.body = request.body) (proxyDockerRequest t request) := by
  refine forwards_local_bind returns_signedRequest fun signed hs => ?_
  obtain ⟨b, hb⟩ := hs
  have hbody : signed.body = request.body := by rw [hb]
  by_cases hversion : leadingVersion (requestPath request.path) = 0
  · have hrouted : proxyRequest t signed = routeRequest t signed route := by
      rw [hb]
      exact proxyRequest_of_signed hroute hpath hversion b
    rw [hrouted]
    exact forwards_routeRequest hbody
  · have hversion' : leadingVersion signed.path ≠ 0 := by
      rw [hb]
      exact hversion
    rw [proxyRequest_of_leadingVersion hversion']
    exact forwards_execute hbody

end Dispatch

theorem settingsHold_of_covered (hdocker : docker.Decodes) (hroute : route.WellFormed)
    (hpath : removeLeadingVersion (requestPath p) = route.path)
    (hcovered : Covered docker route p body settings) : SettingsHold docker route p body settings := by
  rintro t request tokenData endpoint w - rfl rfl htoken hrole hendpoint rfl hw r hr
  constructor
  · by_cases hversion : leadingVersion (requestPath request.path) = 0
    · -- nothing is forwarded unless the body is accepted
      obtain ⟨hf, -⟩ | haccepts :=
        guards_proxyDockerRequest hroute hpath hversion htoken hrole w
      · rw [hf, hw] at hr
        nomatch hr
      · have haccepted := haccepts endpoint hendpoint
        unfold Covered at hcovered
        rw [if_pos hversion] at hcovered
        intro feature hoff hasks
        exact hcovered haccepted feature hoff (asksUnseen_of_accepts hdocker haccepted hoff hasks)
    · unfold Covered at hcovered
      rwa [if_neg hversion] at hcovered
  · exact forwards_body hroute hpath w (by simp [hw]) r hr

/-- What the proxy accepts is forwarded in the open environment, given
access to the service that is updated. -/
theorem exists_sends_routeRequest {f : Path} (haccepts : route.Accepts settings body) :
    ∃ rcs, Sends (routeRequest (openTransport {}) (requestWith "POST" f body) route)
      (openStoreWith settings rcs) := by
  have hstatus : ({} : Response).statusCode ≠ 201 := by decide
  cases route with
  | containerCreate =>
    obtain ⟨c, hc, hshows⟩ := haccepts
    exact ⟨{}, (passes_containerCreation hstatus hc
      (checkPartialContainer_run_ok.mpr ⟨hshows, rfl⟩)).sends⟩
  | serviceCreate =>
    obtain ⟨s, hs, hshows⟩ := haccepts
    exact ⟨{}, (passes_serviceCreation hstatus hs
      (checkPartialService_run_ok.mpr ⟨hshows, rfl⟩)).sends⟩
  | serviceUpdate id =>
    obtain ⟨rc, hrc, hcan⟩ := get_controlled settings (String.ofList id) .service
    exact ⟨controlled (String.ofList id) .service, sends_restricted hrc hcan⟩

/-- What is sent in the open environment asks for nothing switched off, if
the settings hold. -/
theorem not_asks_of_sends {rcs : Bucket ResourceControl} (h : SettingsHold docker route p body settings)
    (hsends : Sends (proxyRequest (openTransport {}) (requestWith "POST" (requestPath p) body))
      (openStoreWith settings rcs)) (feature : Feature) (hoff : feature.allowedBy settings = false) :
    ¬ route.Asks docker body feature := by
  obtain ⟨r, hr⟩ := List.exists_mem_of_ne_nil _ hsends
  have hendpoint : (openStoreWith settings rcs).endpoint.get? 1 =
      some { id := 1, securitySettings := settings } := Bucket.get?_put_self
  exact (h (openTransport {}) (requestWith "POST" p body) { id := 1 } _
    (.faultless { dataStore := openStoreWith settings rcs }) rfl rfl rfl rfl (by decide) hendpoint
    rfl rfl r hr).1 feature hoff

theorem covered_of_settingsHold (hroute : route.WellFormed)
    (hpath : removeLeadingVersion (requestPath p) = route.path)
    (h : SettingsHold docker route p body settings) : Covered docker route p body settings := by
  unfold Covered
  split
  · rename_i hversion
    intro haccepts feature hoff hunseen
    obtain ⟨rcs, hsends⟩ := exists_sends_routeRequest (f := requestPath p) haccepts
    have hf : (requestWith "POST" (requestPath p) body).path = route.path := by
      rwa [removeLeadingVersion, hversion, List.drop_zero] at hpath
    rw [← proxyRequest_of_route hroute hf] at hsends
    exact not_asks_of_sends h hsends feature hoff (asks_of_asksUnseen hunseen)
  · rename_i hversion
    intro feature hoff
    have hsends : Sends (proxyRequest (openTransport {}) (requestWith "POST" (requestPath p) body))
        (openStoreWith settings {}) := by
      rw [proxyRequest_of_leadingVersion hversion]
      exact passes_execute.sends
    exact not_asks_of_sends h hsends feature hoff

/-- **Where the settings hold.** -/
theorem settingsHold_iff (hdocker : docker.Decodes) (hroute : route.WellFormed)
    (hpath : removeLeadingVersion (requestPath p) = route.path) :
    SettingsHold docker route p body settings ↔ Covered docker route p body settings :=
  ⟨covered_of_settingsHold hroute hpath, settingsHold_of_covered hdocker hroute hpath⟩

end Main

/-! ### The root of the host, bound in two forms -/

/-- The source of a bind is a path on the host, and not the name of a
volume, which has two characters at least and no slash. -/
def isHostPath (bind : String) : Bool :=
  match bind.toList with
  | '/' :: _ => true
  | '\\' :: _ => true
  | _ :: ':' :: _ => true
  | _ => false

/-- The mounts of a container. -/
def containerMounts : Json.Decoder (Json.Slice PartialMount) :=
  Json.Decoder.struct [("HostConfig", Json.Decoder.struct [("Mounts", Json.Decoder.slice Decode.mount {})])]

/-- Docker, as far as the creation of a container goes, with the binds and
the mounts of its host configuration. -/
def engine : Docker where
  shows route body feature := route = .containerCreate ∧ ∃ c,
    body.unmarshal.bind (Decode.partialContainer {}) = some c ∧ c.hostConfig.Shows feature ∧
      (feature = .bindMounts → ∃ bind ∈ c.hostConfig.binds.elements, isHostPath bind)
  asksOtherwise route body feature := route = .containerCreate ∧ feature = .bindMounts ∧ ∃ mounts,
    body.decode.bind (containerMounts {}) = some mounts ∧ ∃ m ∈ mounts.elements, m.type = "bind"

theorem decodes_engine : engine.Decodes where
  container hc h := by
    obtain ⟨-, c, hc', hshows, -⟩ := h
    obtain rfl := Option.some.inj (hc.symm.trans hc')
    exact hshows
  service _ h := by
    obtain ⟨heq, -⟩ := h
    cases heq

/-- As a bind. -/
def bodyWithBind : Body :=
  .client "\x7b\"HostConfig\":\x7b\"Binds\":[\"/:/host\"]\x7d\x7d"
    (some (.obj [("HostConfig", .obj [("Binds", .arr [.str "/:/host"])])])) false

/-- As a mount of type bind. -/
def bodyWithMount : Body :=
  .client "\x7b\"HostConfig\":\x7b\"Mounts\":[\x7b\"Type\":\"bind\",\"Source\":\"/\"\x7d]\x7d\x7d"
    (some (.obj [("HostConfig",
      .obj [("Mounts", .arr [.obj [("Type", .str "bind"), ("Source", .str "/")]])])])) false

theorem settingsHold_bind :
    SettingsHold engine .containerCreate "/v1.40/containers/create".toList bodyWithBind {} := by
  have hroute : BodyRoute.containerCreate.WellFormed := trivial
  refine (settingsHold_iff decodes_engine hroute rfl).mpr ?_
  unfold Covered
  rw [if_pos (by decide)]
  rintro ⟨c, hc, hshows⟩
  obtain rfl := Option.some.inj hc
  exact absurd (List.cons_ne_nil _ _) (hshows .bindMounts rfl)

/-- **A counterexample**: with everything switched off, the mount is
forwarded. -/
theorem not_settingsHold_mount :
    ¬ SettingsHold engine .containerCreate "/containers/create".toList bodyWithMount {} := by
  intro h
  have hroute : BodyRoute.containerCreate.WellFormed := trivial
  have hcovered := covered_of_settingsHold hroute rfl h
  unfold Covered at hcovered
  rw [if_pos (by decide)] at hcovered
  have haccepts : BodyRoute.containerCreate.Accepts {} bodyWithMount := by
    refine ⟨{}, rfl, fun feature _ hshows => ?_⟩
    cases feature with
    | privilegedMode => nomatch hshows
    | hostNamespace =>
      have hhost : ("" : String) = "host" := hshows
      exact absurd hhost (by decide)
    | deviceMapping => exact hshows rfl
    | sysctlSetting => exact hshows rfl
    | containerCapabilities => exact hshows.elim (fun h => h rfl) fun h => h rfl
    | bindMounts => exact hshows rfl
  have hunseen : BodyRoute.containerCreate.AsksUnseen engine bodyWithMount .bindMounts :=
    ⟨rfl, rfl, _, rfl, ⟨"bind"⟩, List.mem_singleton_self _, rfl⟩
  exact hcovered haccepts .bindMounts rfl hunseen

end DockerProxy

end Portainer
