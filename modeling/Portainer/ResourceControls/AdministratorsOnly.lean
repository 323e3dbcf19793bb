import Portainer.AzureProxy.Helpers.Controls
import Portainer.ResourceControls.Helpers.Handlers
import Portainer.Stacks.Helpers.Creation
/-!
# Administrators only

A resource control with the flag `AdministratorsOnly` should give the
resource to no other user. Nothing looks at the flag when a user is let
through: what counts are the lists and the flag `Public`. The proxies and
the handlers of stacks set it with empty lists, and the checks of a payload
exclude it together with `Public`, but not together with users or teams.

`excludesOthers_of_run` shows such controls to exclude everybody along the
runs in which no administrator sets the flag and names somebody;
`not_excludesOthers` lets a user in.
-/

namespace Portainer

open Action (Leaves)

namespace ResourceControls

open Stacks (Host Services leaves_behind_authenticatedAccess leaves_behind_adminAccess)

variable {services : Services} {h h' : Host} {rc : ResourceControl}

/-- **The control gives the resource to no regular user** if it is for
administrators only, whoever the user is and whatever their teams are. -/
def ExcludesOthers (rc : ResourceControl) : Prop :=
  rc.administratorsOnly = true → ∀ userID teamIDs, userCanAccessResource userID teamIDs rc = false

/-- The control is not public and lists nobody. -/
theorem excludesOthers_iff : ExcludesOthers rc ↔ (rc.administratorsOnly = true →
    rc.userAccesses = [] ∧ rc.teamAccesses = [] ∧ rc.isPublic = false) := by
  refine forall_congr' fun _ => ?_
  constructor
  · intro hall
    refine ⟨?_, ?_, ?_⟩
    · rw [List.eq_nil_iff_forall_not_mem]
      intro a ha
      have hnot := hall a.userID []
      simp only [userCanAccessResource, Bool.or_eq_false_iff, List.any_eq_false] at hnot
      simpa using hnot.1.1 a ha
    · rw [List.eq_nil_iff_forall_not_mem]
      intro a ha
      have hnot := hall 0 [a.teamID]
      simp only [userCanAccessResource, Bool.or_eq_false_iff, List.any_eq_false] at hnot
      simpa using hnot.1.2 a ha
    · have hnot := hall 0 []
      simp only [userCanAccessResource, Bool.or_eq_false_iff] at hnot
      exact hnot.2
  · rintro ⟨husers, hteams, hpublic⟩ userID teamIDs
    simp [userCanAccessResource, husers, hteams, hpublic]

theorem excludesOthers_of_not (hrc : rc.administratorsOnly = false) : ExcludesOthers rc := by
  intro hadmin
  rw [hrc] at hadmin
  nomatch hadmin

/-- **No stored control for administrators lets anybody else in.** -/
def AdministratorsExclusive (s : Server) : Prop :=
  s.dataStore.resourceControl.Every ExcludesOthers

/-- **A payload that an administrator sends with the flag names nobody.** -/
def NamesNobody (_ : Host) (a : Attempt) : Prop :=
  match a.request with
  | .create payload => payload.administratorsOnly = true → payload.users = [] ∧ payload.teams = []
  | .update _ payload => a.token.map TokenData.role = some .administrator →
      payload.administratorsOnly = true → payload.users = [] ∧ payload.teams = []
  | _ => True

/-! ## Payloads -/

/-- The flags of an accepted payload exclude each other. -/
theorem not_public_of_checkAccesses {isPublic administratorsOnly : Bool} {users : List UserID}
    {teams : List TeamID} {both : String}
    (h : checkAccesses isPublic administratorsOnly users teams both = .ok ())
    (hadmin : administratorsOnly = true) : isPublic = false := by
  unfold checkAccesses at h
  split at h
  · nomatch h
  · split at h
    · nomatch h
    · rename_i hboth
      simpa [hadmin] using hboth

theorem excludesOthers_of_lists {users : List UserID} {teams : List TeamID}
    (husers : rc.userAccesses = userAccessesOf users) (hteams : rc.teamAccesses = teamAccessesOf teams)
    (hnone : rc.administratorsOnly = true → users = [] ∧ teams = [])
    (hpublic : rc.administratorsOnly = true → rc.isPublic = false) : ExcludesOthers rc := by
  rw [excludesOthers_iff]
  intro hadmin
  obtain ⟨rfl, rfl⟩ := hnone hadmin
  exact ⟨husers, hteams, hpublic hadmin⟩

theorem excludesOthers_of_create {payload : ResourceControlCreatePayload} {type : ResourceControlType}
    (hvalid : payload.validate = .ok ())
    (hnone : payload.administratorsOnly = true → payload.users = [] ∧ payload.teams = []) :
    ExcludesOthers (payload.resourceControl type) := by
  refine excludesOthers_of_lists rfl rfl hnone fun hadmin => ?_
  unfold ResourceControlCreatePayload.validate at hvalid
  split at hvalid
  · nomatch hvalid
  · split at hvalid
    · nomatch hvalid
    · exact not_public_of_checkAccesses hvalid hadmin

/-- A regular user may not set the flag. -/
theorem isAdmin_of_update {context : RestrictedRequestContext}
    (hupdate : authorizedResourceControlUpdate rc context = true) (hadmin : rc.administratorsOnly = true)
    (hpublic : rc.isPublic = false) : context.isAdmin = true := by
  by_contra hnot
  simp [authorizedResourceControlUpdate, hadmin, hpublic, hnot] at hupdate

theorem excludesOthers_of_update {payload : ResourceControlUpdatePayload}
    {context : RestrictedRequestContext} (hvalid : payload.validate = .ok ())
    (hupdate : authorizedResourceControlUpdate (payload.update rc) context = true)
    (hnone : context.isAdmin = true → payload.administratorsOnly = true →
      payload.users = [] ∧ payload.teams = []) : ExcludesOthers (payload.update rc) := by
  have hpublic : payload.administratorsOnly = true → payload.isPublic = false :=
    not_public_of_checkAccesses hvalid
  refine excludesOthers_of_lists rfl rfl (fun hadmin => ?_) hpublic
  exact hnone (isAdmin_of_update hupdate hadmin (hpublic hadmin)) hadmin

/-! ## Records -/

namespace AdministratorsExclusive

variable {s : Server}

theorem addControl (hs : AdministratorsExclusive s) (hrc : ExcludesOthers rc) :
    AdministratorsExclusive (addControl rc s) :=
  Bucket.Every.put (b := s.dataStore.resourceControl.nextSequence) hs hrc

theorem putControl (hs : AdministratorsExclusive s) (hrc : ExcludesOthers rc) :
    AdministratorsExclusive (putControl rc s) :=
  Bucket.Every.put hs hrc

theorem dropControl {id : ResourceControlID} (hs : AdministratorsExclusive s) :
    AdministratorsExclusive (dropControl id s) :=
  Bucket.Every.delete hs

end AdministratorsExclusive

/-- The control that a creation of a stack makes lists at most its user. -/
theorem excludesOthers_of_isDecoration {context : RequestContext} {stack : Stack}
    (hrc : Stacks.IsDecoration context stack rc) : ExcludesOthers rc := by
  rcases hrc with rfl | rfl
  · rw [excludesOthers_iff]
    exact fun _ => ⟨rfl, rfl, rfl⟩
  · exact excludesOthers_of_not rfl

/-- The proxies set no flag. -/
theorem controlInvariant_excludesOthers :
    DockerProxy.ControlInvariant fun db => db.resourceControl.Every ExcludesOthers where
  create db rc hrc hdb := by
    have hnew : ExcludesOthers { rc with id := db.resourceControl.next } := excludesOthers_of_not hrc
    exact Bucket.Every.put (b := db.resourceControl.nextSequence) hdb hnew
  delete _ _ hdb := hdb.delete

/-! ## Requests about stacks -/

/-- A control keeps its accesses when its stack goes to another
environment. -/
theorem AdministratorsExclusive.withMovedControl {stack : Stack} {endpointID : EndpointID}
    (hs : AdministratorsExclusive h.server) : AdministratorsExclusive
      (Stacks.withMovedControl stack endpointID (Stacks.controlOf h.server stack) h).server := by
  cases hcontrol : Stacks.controlOf h.server stack with
  | none => exact hs
  | some rc =>
    have hrc : ExcludesOthers rc :=
      hs _ _ (DataStore.get?_of_resourceControlByResourceIDAndType hcontrol)
    have hmoved : ExcludesOthers { rc with
        resourceID := stackResourceControlID endpointID stack.name } := hrc
    exact hs.putControl hmoved

theorem AdministratorsExclusive.withoutControl {rc : Option ResourceControl}
    (hs : AdministratorsExclusive h.server) :
    AdministratorsExclusive (Stacks.withoutControl rc h).server := by
  cases rc with
  | none => exact hs
  | some rc => exact hs.dropControl

theorem AdministratorsExclusive.creationKeeps {R : Callee → Prop} {context : RequestContext}
    {endpoint : Endpoint} {type : StackType} {name : String} {entryPoint : Path}
    (hs : AdministratorsExclusive h.server) :
    Stacks.CreationKeeps R services context h endpoint type name entryPoint
      (fun h => AdministratorsExclusive h.server) fun _ => True where
  init := hs
  tolerates := Stacks.tolerates_of_server
  draw := hs
  reads _ _ _ _ := trivial
  deploys _ _ _ _ _ := Stacks.deploymentKeeps_of_tolerates (G := fun _ => True) (fun _ _ _ hs' => hs')
    fun _ _ => trivial
  remove _ _ := trivial
  add _ _ _ _ _ hs' _ := hs'
  control _ _ _ h'' _ _ _ hs' _ hrc := hs'.addControl (excludesOthers_of_isDecoration hrc)

theorem leaves_stacks {R : Callee → Prop} {outside : Stacks.Outside} {token : Option TokenData}
    {request : Stacks.Request} (hs : AdministratorsExclusive h.server) :
    Leaves R (Stacks.handle services outside token request) h
      (fun _ h' => AdministratorsExclusive h'.server) fun h' => AdministratorsExclusive h'.server := by
  let I : Host → Prop := fun h => AdministratorsExclusive h.server
  have hI : I h := hs
  have hT : Stacks.Tolerates I fun _ => True := Stacks.tolerates_of_server
  cases request with
  | create endpointID request =>
    refine leaves_behind_authenticatedAccess (I := I) hI fun context _ =>
      Stacks.leaves_stackCreate (G := fun _ => True) hI ?_
    exact fun _ _ _ _ _ _ _ _ => ⟨hs.creationKeeps, fun _ _ _ _ _ => trivial⟩
  | update stackID endpointID payload =>
    exact leaves_behind_authenticatedAccess (I := I) hI fun context _ => Stacks.leaves_stackUpdate hI hT
      (fun _ _ _ _ _ => trivial) (fun _ _ _ _ _ _ _ => trivial) fun _ _ _ _ _ _ _ _ hI' _ => hI'
  | updateGit stackID endpointID payload =>
    exact leaves_behind_authenticatedAccess (I := I) hI fun context _ => Stacks.leaves_stackUpdateGit hI hT
      (fun _ _ _ _ _ => trivial) (fun _ _ _ _ _ _ _ => trivial) fun _ _ _ _ _ _ _ _ _ hI' _ => hI'
  | migrate stackID payload =>
    exact leaves_behind_authenticatedAccess (I := I) hI fun context _ => Stacks.leaves_stackMigrate hI hT
      (fun _ _ _ _ _ => trivial) fun _ _ _ _ _ hI' _ => hI'
  | start stackID =>
    exact leaves_behind_authenticatedAccess (I := I) hI fun context _ => Stacks.leaves_stackStart hI hT
      (fun _ _ _ _ _ => trivial) fun _ _ _ _ hI' _ => hI'
  | stop stackID =>
    exact leaves_behind_authenticatedAccess (I := I) hI fun context _ => Stacks.leaves_stackStop hI hT
      (fun _ _ _ _ _ => trivial) fun _ _ _ _ hI' _ => hI'
  | associate stackID endpointID swarmID orphanedRunning =>
    exact leaves_behind_adminAccess (I := I) hI fun context _ => Stacks.leaves_stackAssociate hI
      (fun _ _ _ => hs.withMovedControl) fun _ _ _ _ _ => hs.withMovedControl
  | delete stackID endpointID =>
    refine leaves_behind_authenticatedAccess (I := I) hI fun context _ => Stacks.leaves_stackDelete hI hT
      (fun _ _ _ _ _ => trivial) (fun _ _ _ => trivial) ?_
    intro stack h₁ _ _ hI₁ _
    have hdropped : I (Stacks.dropStack stackID h₁) := hI₁
    exact ⟨hdropped, AdministratorsExclusive.withoutControl hdropped⟩
  | deleteExternal stackName endpointID =>
    exact leaves_behind_authenticatedAccess (I := I) hI fun context _ =>
      Stacks.leaves_deleteExternalStack hI hT fun _ => trivial
  | inspect stackID =>
    exact leaves_behind_authenticatedAccess (I := I) hI fun context _ => Stacks.leaves_stackInspect hI
  | file stackID =>
    exact leaves_behind_authenticatedAccess (I := I) hI fun context _ =>
      Stacks.leaves_stackFile hI hT fun _ _ _ _ _ => trivial

/-! ## Steps and runs -/

theorem keeps_proxyDocker {t : DockerProxy.Transport} {request : DockerProxy.Request} :
    (proxyDocker t request).Keeps AdministratorsExclusive :=
  .zoom (DockerProxy.keeps_proxyDockerRequest controlInvariant_excludesOthers) (fun _ hs => hs)
    fun _ _ _ hs => hs

theorem keeps_proxyAzure {t : AzureProxy.Transport} {request : AzureProxy.Request} :
    (proxyAzure t request).Keeps AdministratorsExclusive :=
  .zoom (AzureProxy.keeps_proxyAzureRequest controlInvariant_excludesOthers) (fun _ hs => hs)
    fun _ _ _ hs => hs

/-- **One request, successful or not.** -/
theorem AdministratorsExclusive.step {a : Attempt} (hs : AdministratorsExclusive h.server)
    (hC : NamesNobody h a) (hstep : (machine services).step h a = some h') :
    AdministratorsExclusive h'.server := by
  obtain rfl := Option.some.inj hstep
  obtain ⟨request, token, faults⟩ := a
  let I : Host → Prop := fun h => AdministratorsExclusive h.server
  have hI : I h := hs
  have hleaves : ∀ {x : Handler Host Response}, Leaves (fun _ => False) x h (fun _ => I) I →
      I (x.run ⟨h, faults⟩).2.store := fun hx => hx.store rfl fun _ hk => hk.elim
  refine hleaves ?_
  cases request with
  | create payload =>
    refine leaves_behind_adminAccess (I := I) hI fun context _ => leaves_onServer ?_
    exact leaves_resourceControlCreate hs fun type hvalid _ _ =>
      hs.addControl (excludesOthers_of_create hvalid hC)
  | update id payload =>
    refine leaves_behind_authenticatedAccess (I := I) hI fun context hcontext => leaves_onServer ?_
    refine leaves_resourceControlUpdate hs fun rc hvalid _ _ hupdate => hs.putControl ?_
    refine excludesOthers_of_update hvalid hupdate fun hadmin => hC ?_
    rw [hcontext.token_eq, Option.map_some, hcontext.isAdmin.mp hadmin]
  | delete id =>
    refine leaves_behind_adminAccess (I := I) hI fun context _ => leaves_onServer ?_
    exact leaves_resourceControlDelete hs hs.dropControl
  | stack outside request => exact (leaves_stacks hs).bind fun _ _ hh' => .pure hh'
  | docker t request => exact leaves_answer (.of_keeps keeps_proxyDocker hs)
  | azure t request => exact leaves_answer (.of_keeps keeps_proxyAzure hs)

/-- **Controls for administrators exclude everybody else** along requests
that set the flag for nobody in particular. -/
theorem excludesOthers_of_run {attempts : List Attempt} (hs : AdministratorsExclusive h.server)
    (hC : (machine services).Along NamesNobody h attempts)
    (hrun : (machine services).run h attempts = some h') : AdministratorsExclusive h'.server := by
  let I : Host → Prop := fun h => AdministratorsExclusive h.server
  have hkept : ∀ (h : Host) (a : Attempt) (h' : Host), I h → NamesNobody h a →
      (machine services).step h a = some h' → I h' := fun _ _ _ hs hC hstep => hs.step hC hstep
  have hI : I h := hs
  have hdone : I h' := Machine.run_invariant hkept hI hC hrun
  exact hdone

/-- A server with an administrator who has signed in. -/
def administered : Host where
  server := {
    dataStore := {
      user := ({} : Bucket User).put { id := 1, username := "admin", role := .administrator } }
    issuedTokens := [⟨1, "admin", .administrator⟩] }

/-- The administrator creates a resource control for administrators. -/
def createForAdministrators (users : List UserID) : Attempt where
  request := .create { resourceID := "web", type := "container", administratorsOnly := true, users := users }
  token := some ⟨1, "admin", .administrator⟩

theorem excludesOthers_of_run_administered : ∃ h',
    (machine Stacks.plainServices).run administered [createForAdministrators []] = some h' ∧
      AdministratorsExclusive h'.server := by
  have hs : AdministratorsExclusive administered.server := Bucket.every_empty
  have hC : (machine Stacks.plainServices).Along NamesNobody administered
      [createForAdministrators []] := ⟨fun _ => ⟨rfl, rfl⟩, fun _ _ => trivial⟩
  exact ⟨_, rfl, excludesOthers_of_run hs hC rfl⟩

/-- **A control for administrators lets user 2 in.** -/
theorem not_excludesOthers : ∃ h',
    (machine Stacks.plainServices).run administered [createForAdministrators [2]] = some h' ∧
      ¬ AdministratorsExclusive h'.server := by
  refine ⟨_, rfl, fun hs => ?_⟩
  have hout := hs 1 _ rfl rfl 2 []
  exact absurd hout (by decide)

end ResourceControls

end Portainer
