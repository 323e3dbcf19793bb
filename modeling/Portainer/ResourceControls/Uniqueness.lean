import Portainer.DockerProxy.Helpers.Making
import Portainer.ResourceControls.Helpers.Handlers
import Portainer.ResourceControls.Lookups
import Portainer.Stacks.Helpers.Creation
/-!
# One control for each resource

A resource should have one resource control. The handler of a creation
looks for the control of the resource, but not for those of the
sub-resources; the creation of a stack looks for a stack of the name and
for no control; the proxy looks into the controls that were there before
the answer of the daemon.

`uniqueControls_of_run` shows that each identifier has one control of a
type at most along the runs in which no request brings a second one;
`not_uniqueControls` lists two tasks of one service.
-/

namespace Portainer

open Action (Leaves)

/-! ## The lookup of the handlers -/

namespace DataStore

open resourceControlByResourceIDAndType (scan)

variable {db : DataStore} {resourceID : String} {resourceType : ResourceControlType}
  {found : Option ResourceControl} {rcs : List ResourceControl}

/-- A scan without a result has met nothing that matches. -/
theorem not_covers_of_scan (h : scan resourceID resourceType found rcs = none) :
    found = none ∧ ∀ rc ∈ rcs, ¬ Covers resourceID resourceType rc := by
  induction rcs generalizing found with
  | nil => exact ⟨h, fun _ hrc => absurd hrc List.not_mem_nil⟩
  | cons first rcs ih =>
    by_cases habout : IsAbout resourceID resourceType first
    · rw [scan_cons_of_isAbout habout] at h
      exact absurd h (Option.some_ne_none first)
    by_cases hsub : resourceID ∈ first.subResourceIDs
    · rw [scan_cons_of_mem habout hsub] at h
      exact absurd (ih h).1 (Option.some_ne_none first)
    · have hnot : ¬ Covers resourceID resourceType first := not_or.mpr ⟨habout, hsub⟩
      rw [scan_cons_of_not_covers hnot] at h
      obtain ⟨hfound, hrest⟩ := ih h
      refine ⟨hfound, fun rc hrc => ?_⟩
      obtain rfl | hrc := List.mem_cons.mp hrc
      · exact hnot
      · exact hrest rc hrc

/-- What the handlers do not find, no control bears. -/
theorem unborne_of_lookup (h : db.resourceControlByResourceIDAndType resourceID resourceType = none) :
    DockerProxy.Unborne db resourceType resourceID := by
  intro rc hrc hbears
  obtain ⟨htype, hid | hsub⟩ := hbears
  · exact (not_covers_of_scan h).2 rc hrc (.inl ⟨hid, htype⟩)
  · exact (not_covers_of_scan h).2 rc hrc (.inr hsub)

end DataStore

namespace ResourceControls

open DockerProxy (UniqueControls Unborne AnswersApart dispatched)
open Stacks (Host Services nameTaken leaves_behind_authenticatedAccess leaves_behind_adminAccess)

variable {services : Services} {h h' : Host} {R : Callee → Prop}

/-- **The request brings no second control for an identifier**: the
sub-resources of a new control have none, nor has a new Docker stack, and
the daemon's answer asks for none. -/
def BringsNoSecond (services : Services) (h : Host) (a : Attempt) : Prop :=
  match a.request with
  | .create payload => ∀ type, payload.validate = .ok () → resourceControlTypeOf payload.type = some type →
      h.server.dataStore.resourceControlByResourceIDAndType payload.resourceID type = none →
        ∀ id ∈ payload.subResourceIDs, Unborne h.server.dataStore type id
  | .stack _ (.create endpointID request) => ∀ type name filePath,
      request.made services = some (type, name, filePath) → type ≠ .kubernetes →
        nameTaken services h.server.dataStore.stack.all endpointID name 0 = false →
          Unborne h.server.dataStore .stack (stackResourceControlID endpointID name)
  | .docker t request => AnswersApart t h.server.dataStore (dispatched t request)
  | _ => False

/-! ## One request -/

theorem leaves_create {payload : ResourceControlCreatePayload} {s : Server} (hs : UniqueControls s.dataStore)
    (hsub : ∀ type, payload.validate = .ok () → resourceControlTypeOf payload.type = some type →
      s.dataStore.resourceControlByResourceIDAndType payload.resourceID type = none →
        ∀ id ∈ payload.subResourceIDs, Unborne s.dataStore type id) :
    Leaves R (resourceControlCreate payload) s (fun _ s' => UniqueControls s'.dataStore)
      fun s' => UniqueControls s'.dataStore := by
  let I : Server → Prop := fun s => UniqueControls s.dataStore
  have hI : I s := hs
  refine leaves_resourceControlCreate hI fun type hvalid htype hnone => ?_
  refine DockerProxy.UniqueControls.create hs fun id hbears => ?_
  obtain ⟨-, hid | hid⟩ := hbears
  · obtain rfl : payload.resourceID = id := hid
    exact DataStore.unborne_of_lookup hnone
  · exact hsub type hvalid htype hnone id hid

/-- The control of a new stack. -/
theorem uniqueControls_creationKeeps {context : RequestContext} {endpoint : Endpoint} {type : StackType}
    {name : String} {entryPoint : Path} (hu : UniqueControls h.server.dataStore)
    (hfree : type ≠ .kubernetes →
      Unborne h.server.dataStore .stack (stackResourceControlID endpoint.id name)) :
    Stacks.CreationKeeps R services context h endpoint type name entryPoint
      (fun h => UniqueControls h.server.dataStore) fun _ => True where
  init := hu
  tolerates _ _ _ hu' := hu'
  draw := hu
  reads _ _ _ _ := trivial
  deploys _ _ _ _ _ := Stacks.deploymentKeeps_of_tolerates (G := fun _ => True) (fun _ _ _ hu' => hu')
    fun _ _ => trivial
  remove _ _ := trivial
  add _ _ _ _ _ hu' _ := hu'
  control hdocker stack h' h'' rc hm hd hu'' hserver hrc := by
    have hsame : h''.server.dataStore.resourceControl = h.server.dataStore.resourceControl := by
      rw [hserver]
      rcases hd with ⟨rfl, -⟩ | ⟨rfl, -⟩
      · rfl
      · rfl
    refine DockerProxy.UniqueControls.create hu'' fun id hbears => ?_
    have hplain : rc.subResourceIDs = [] ∧ rc.type = .stack ∧
        rc.resourceID = stackResourceControlID stack.endpointID stack.name := by
      rcases hrc with rfl | rfl
      · exact ⟨rfl, rfl, rfl⟩
      · exact ⟨rfl, rfl, rfl⟩
    obtain ⟨hsub, htype, hid⟩ := hplain
    obtain ⟨-, rfl⟩ := (DockerProxy.bears_iff_of_plain hsub).mp hbears
    rw [htype, hid, hm.endpointID, hm.name]
    unfold Unborne
    rw [hsame]
    exact hfree hdocker

theorem leaves_proxyDocker {t : DockerProxy.Transport} {request : DockerProxy.Request} {s : Server}
    (hs : UniqueControls s.dataStore) (hC : AnswersApart t s.dataStore (dispatched t request)) :
    Leaves R (proxyDocker t request) s (fun _ s' => UniqueControls s'.dataStore)
      fun s' => UniqueControls s'.dataStore := by
  have hproxy : Leaves R (DockerProxy.proxyDockerRequest t request) { dataStore := s.dataStore }
      (fun _ => DockerProxy.OnStore UniqueControls) (DockerProxy.OnStore UniqueControls) := by
    refine Action.Meets.conseq (DockerProxy.unifies_proxyDockerRequest hC) ?_ (fun _ _ hs => hs) fun _ _ hs => hs
    rintro p rfl
    exact ⟨hs, rfl⟩
  have hzoom : Leaves R (proxyDocker t request) s
      (fun _ s' => ∃ p : DockerProxy.ProxyState, s' = { s with dataStore := p.dataStore } ∧ UniqueControls p.dataStore)
      fun s' => ∃ p : DockerProxy.ProxyState, s' = { s with dataStore := p.dataStore } ∧ UniqueControls p.dataStore :=
    .zoom hproxy
  refine hzoom.conseq (fun _ s' hs' => ?_) fun s' hs' => ?_
  · obtain ⟨p, rfl, hp⟩ := hs'
    exact hp
  · obtain ⟨p, rfl, hp⟩ := hs'
    exact hp

/-- **One request, successful or not.** -/
theorem uniqueControls_step {a : Attempt} (hu : UniqueControls h.server.dataStore)
    (hC : BringsNoSecond services h a) (hstep : (machine services).step h a = some h') :
    UniqueControls h'.server.dataStore := by
  obtain rfl := Option.some.inj hstep
  obtain ⟨request, token, faults⟩ := a
  let I : Host → Prop := fun h => UniqueControls h.server.dataStore
  have hI : I h := hu
  have hleaves : ∀ {x : Handler Host Response}, Leaves (fun _ => False) x h (fun _ => I) I →
      I (x.run ⟨h, faults⟩).2.store := fun hx => hx.store rfl fun _ hk => hk.elim
  refine hleaves ?_
  cases request with
  | create payload =>
    exact leaves_behind_adminAccess (I := I) hI fun context _ => leaves_onServer (leaves_create hu hC)
  | stack outside request =>
    cases request with
    | create endpointID request =>
      refine Leaves.bind (M := fun _ => I) ?_ fun _ _ hh' => .pure hh'
      refine leaves_behind_authenticatedAccess (I := I) hI fun context _ =>
        Stacks.leaves_stackCreate (G := fun _ => True) hI ?_
      rintro endpoint type name filePath - rfl hmade hfree
      exact ⟨uniqueControls_creationKeeps hu fun hdocker => hC type name filePath hmade hdocker (hfree hdocker),
        fun _ _ _ _ _ => trivial⟩
    | _ => exact hC.elim
  | docker t request => exact leaves_answer (leaves_proxyDocker hu hC)
  | update id payload => exact hC.elim
  | delete id => exact hC.elim
  | azure t request => exact hC.elim

/-- **Each identifier has one control** along the requests that bring no
second one. -/
theorem uniqueControls_of_run {attempts : List Attempt} (hu : UniqueControls h.server.dataStore)
    (hC : (machine services).Along (BringsNoSecond services) h attempts)
    (hrun : (machine services).run h attempts = some h') : UniqueControls h'.server.dataStore := by
  let I : Host → Prop := fun h => UniqueControls h.server.dataStore
  have hkept : ∀ (h : Host) (a : Attempt) (h' : Host), I h → BringsNoSecond services h a →
      (machine services).step h a = some h' → I h' := fun _ _ _ hu hC hstep => uniqueControls_step hu hC hstep
  have hI : I h := hu
  have hdone : I h' := Machine.run_invariant hkept hI hC hrun
  exact hdone

/-! ## Tasks of one service -/

/-- A server with an administrator who has signed in. -/
def signedIn : Host where
  server := {
    dataStore := {
      user := ({} : Bucket User).put { id := 1, username := "admin", role := .administrator } }
    issuedTokens := [⟨1, "admin", .administrator⟩] }

/-- The server with the control of a container. -/
def controlled : Host where
  server := { signedIn.server with
    dataStore := { signedIn.server.dataStore with
      resourceControl :=
        ({} : Bucket ResourceControl).nextSequence.put { id := 1, resourceID := "cache", type := .container } } }

/-- The administrator makes a public control for two containers. -/
def controlBoth : Attempt where
  request := .create { resourceID := "web", type := "container", subResourceIDs := ["db"], isPublic := true }
  token := some ⟨1, "admin", .administrator⟩

/-- A task of a service whose containers are labelled as public. -/
def publicTask (taskID : String) : Json :=
  .obj [("ID", .str taskID), ("ServiceID", .str "shop"),
    ("Spec", .obj [("ContainerSpec", .obj [("Labels",
      .obj [(DockerProxy.resourceLabelForPortainerPublicResourceControl, .str "true")])])])]

/-- The administrator lists the tasks that there are. -/
def listTasks (taskIDs : List String) : Attempt where
  request := .docker
    { endpoint := { id := 1 }
      daemon := { roundTrip := fun _ => .ok ⟨200, .ok (.arr (taskIDs.map publicTask))⟩ } }
    { method := "GET", path := "/tasks".toList, token := some ⟨1, "admin", .administrator⟩ }

/-- A list of tasks creates nothing. -/
theorem not_creates_tasks : ∀ K, ¬ DockerProxy.Creates "GET" "/tasks".toList K := by
  intro K
  unfold DockerProxy.Creates
  cases K <;> decide

/-- One task makes a control for its service, beside those of the
containers. -/
theorem uniqueControls_of_run_controlled : ∃ h',
    (machine Stacks.plainServices).run controlled [controlBoth, listTasks ["one"]] = some h' ∧
    UniqueControls h'.server.dataStore ∧
    h'.server.dataStore.resourceControl.all.map ResourceControl.resourceID = ["cache", "web", "shop"] := by
  have hu : UniqueControls controlled.server.dataStore := by
    refine Bucket.unique_iff_all.mpr fun rc hrc rc' hrc' _ => ?_
    obtain rfl := List.mem_singleton.mp hrc
    exact congrArg ResourceControl.id (List.mem_singleton.mp hrc').symm
  have hC : (machine Stacks.plainServices).Along (BringsNoSecond Stacks.plainServices) controlled
      [controlBoth, listTasks ["one"]] := by
    refine ⟨fun type _ htype _ id hid => ?_, fun h' hstep => ⟨⟨?_, ?_⟩, fun _ _ => trivial⟩⟩
    · obtain rfl := Option.some.inj htype
      obtain rfl := List.mem_singleton.mp hid
      intro rc hrc hbears
      obtain rfl := List.mem_singleton.mp hrc
      exact absurd hbears (by unfold DockerProxy.Bears; decide)
    · rintro K hpath response data hresponse hdata
      have htask : K = .task := by
        cases K with
        | task => rfl
        | _ => exact absurd hpath (by decide)
      subst htask
      obtain rfl := Except.ok.inj hresponse
      obtain rfl := Option.some.inj hdata
      exact List.pairwise_singleton _ _
    · exact fun K hcreates => absurd hcreates (not_creates_tasks K)
  exact ⟨_, rfl, uniqueControls_of_run hu hC rfl, rfl⟩

theorem uniqueControls_signedIn : UniqueControls signedIn.server.dataStore :=
  Bucket.unique_iff_all.mpr fun _ hrc => absurd hrc List.not_mem_nil

/-- **A list of two tasks makes two controls** for their service. -/
theorem not_uniqueControls : UniqueControls signedIn.server.dataStore ∧
    ∃ h', (machine Stacks.plainServices).run signedIn [listTasks ["one", "two"]] = some h' ∧
      ¬ UniqueControls h'.server.dataStore := by
  refine ⟨uniqueControls_signedIn, _, rfl, fun hu => ?_⟩
  exact absurd (@UniqueControls.pair _ 1 2 _ _ hu rfl rfl rfl rfl) (by decide)

end ResourceControls

end Portainer
