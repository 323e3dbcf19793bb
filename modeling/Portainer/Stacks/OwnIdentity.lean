import Portainer.Stacks.Helpers.Creation
/-!
# Own identity — on what a request for a stack is authorised

A request names a stack, and may name an environment as well. What it does
should be open to its user by what is stored with the stack: its
environment, and the resource control of its environment and its name. The
two updates put the environment of the query into the record first, and ask
about that one.

`onOwnIdentity_of_run` is about the runs in which regular users name the
environment that is stored; `not_onOwnIdentity` replaces the file of a stack
on another environment by way of one that has its name.
-/

namespace Portainer

open Action (Leaves Ensures)

namespace Stacks

variable {services : Services} {outside : Outside} {h h' : Host} {context : RequestContext}
variable {tokenData : TokenData} {stackID : StackID} {endpointID : Option EndpointID}

/-- The stored stack that a request is about. -/
def Request.target : Request → Option StackID
  | .create _ _ => none
  | .update stackID _ _ => some stackID
  | .updateGit stackID _ _ => some stackID
  | .migrate stackID _ => some stackID
  | .start stackID => some stackID
  | .stop stackID => some stackID
  | .associate stackID _ _ _ => some stackID
  | .delete stackID _ => some stackID
  | .deleteExternal _ _ => none
  | .inspect stackID => some stackID
  | .file stackID => some stackID

/-- The environment that an update puts into the record. -/
def Request.overwrites : Request → Option (StackID × EndpointID)
  | .update stackID endpointID _ => some (stackID, endpointID.getD 0)
  | .updateGit stackID endpointID _ => some (stackID, endpointID.getD 0)
  | _ => none

/-- The stack that a file or a deployment is for. -/
def Act.about : Act → Option StackID
  | .readFile stackID _ => some stackID
  | .openFile stackID _ => some stackID
  | .writeFile stackID _ _ => some stackID
  | .deploy stack _ _ _ => some stack.id
  | .takeDown stack _ => some stack.id
  | .mkdirAll _ => none
  | .removeAll _ => none
  | .rename _ _ => none

/-- Neither the token nor the record of the user says administrator. -/
def Regular (s : Server) (tokenData : TokenData) : Prop :=
  tokenData.role ≠ .administrator ∧
    ∀ user, s.dataStore.user.get? tokenData.id = some user → user.role ≠ .administrator

/-- **The stack is open to the user by what is stored with it.** -/
structure OwnAccess (s : Server) (tokenData : TokenData) (stack : Stack) : Prop where
  endpoint : ∃ endpoint group, s.dataStore.endpoint.get? stack.endpointID = some endpoint ∧
    s.dataStore.endpointGroup.get? endpoint.groupID = some group ∧
    authorizedEndpointAccess endpoint group tokenData.id
      (s.dataStore.teamMembershipsByUserID tokenData.id) = true
  control : ∃ rc, controlOf s stack = some rc ∧ userCanAccessResource tokenData.id
    ((s.dataStore.teamMembershipsByUserID tokenData.id).map TeamMembership.teamID) rc = true

/-- **Nothing happens to other stacks**: their records stay, and no file is
touched and nothing deployed for them. -/
structure OnlyAbout (stackID : StackID) (h h' : Host) : Prop where
  records : ∀ id, id ≠ stackID → h'.server.dataStore.stack.get? id = h.server.dataStore.stack.get? id
  acts : ∃ l, h'.history = h.history ++ l ∧ ∀ a ∈ l, a.about = none ∨ a.about = some stackID

/-- **A request for a stack is authorised on the stack's own identity**, if it
succeeds for a regular user, and is about no other stack. -/
def OnOwnIdentity (services : Services) (h : Host) (a : Attempt) : Prop :=
  ∀ stackID, a.request.target = some stackID →
    OnlyAbout stackID h (a.run services h).2.store ∧
    ∀ tokenData r, a.token = some tokenData → Regular h.server tokenData → (a.run services h).1 = .ok r →
      ∃ stack, Stored h stack ∧ stack.id = stackID ∧ OwnAccess h.server tokenData stack

/-- **An update of a regular user names the environment of the stack.** -/
def NamesOwnEndpoint (h : Host) (a : Attempt) : Prop :=
  ∀ stackID endpointID, a.request.overwrites = some (stackID, endpointID) →
    ∀ tokenData stack, a.token = some tokenData → Regular h.server tokenData →
      Stored h stack → stack.id = stackID → endpointID = stack.endpointID

/-! ## What the handlers have seen -/

/-- What the bouncer hands on for a regular user. -/
def regularContext (s : Server) (tokenData : TokenData) : RequestContext where
  tokenData := tokenData
  restricted := {
    isAdmin := false
    userID := tokenData.id
    userMemberships := s.dataStore.teamMembershipsByUserID tokenData.id
    isTeamLeader := (s.dataStore.teamMembershipsByUserID tokenData.id).any fun m => m.role = .teamLeader }

/-- A read, and what follows it. -/
theorem ensures_of_read {α β ε : Type} {x : Action Callee Host ε α} {f : α → Action Callee Host ε β}
    {P : α → Prop} {Q : β → Host → Prop}
    (hx : Leaves (fun _ => False) x h (fun a h' => h' = h ∧ P a) fun _ => True)
    (hf : ∀ a, P a → Ensures (f a) h Q) : Ensures (x >>= f) h Q := by
  refine hx.ensures.bind fun a h' hh' => ?_
  obtain ⟨rfl, ha⟩ := hh'
  exact hf a ha

/-- What is settled before a program runs. -/
theorem ensures_of_true {α ε : Type} {x : Action Callee Host ε α} {P : Prop} (hP : P) :
    Ensures x h fun _ _ => P :=
  fun _ _ _ _ _ => hP

/-- **A handler has asked about the stack and its environment**, as they are
stored. -/
def Asked (h : Host) (context : RequestContext) (stackID : StackID) : Prop :=
  ∃ stack endpoint, Stored h stack ∧ stack.id = stackID ∧
    h.server.dataStore.endpoint.get? stack.endpointID = some endpoint ∧
    EndpointOpen h.server context.tokenData endpoint ∧
    StackOpen h.server context.restricted (controlOf h.server stack)

/-- For a regular user, what the handler has asked about gives access. -/
theorem Asked.ownAccess (hr : Regular h.server tokenData)
    (ha : Asked h (regularContext h.server tokenData) stackID) :
    ∃ stack, Stored h stack ∧ stack.id = stackID ∧ OwnAccess h.server tokenData stack := by
  obtain ⟨stack, endpoint, hstored, hid, hendpoint, hopen, user, huser, hcontrol⟩ := ha
  refine ⟨stack, hstored, hid, ?_, ?_⟩
  · obtain ⟨group, hgroup, haccess⟩ := hopen.resolve_left hr.1
    exact ⟨endpoint, group, hendpoint, hgroup, haccess⟩
  · have hany := hcontrol.resolve_right (hr.2 user huser)
    rw [Option.any_eq_true] at hany
    exact hany

theorem ensures_stackStart :
    Ensures (stackStart services outside context stackID) h fun _ _ => Asked h context stackID := by
  refine ensures_of_read (leaves_findStack trivial) fun stack ⟨hstored, hid⟩ => ?_
  refine ensures_of_read (leaves_findEndpoint trivial) fun endpoint hendpoint => ?_
  refine ensures_of_read (leaves_permitEndpoint trivial) fun _ hopen => ?_
  refine ensures_of_read (leaves_requireUniqueName trivial) fun _ _ => ?_
  refine ensures_of_read (leaves_findResourceControl trivial) fun rc hrc => ?_
  obtain rfl : rc = controlOf h.server stack := hrc
  refine ensures_of_read (leaves_permitStack trivial) fun _ hstack => ?_
  exact ensures_of_true ⟨stack, endpoint, hstored, hid, hendpoint, hopen, hstack⟩

theorem ensures_stackStop :
    Ensures (stackStop services context stackID) h fun _ _ => Asked h context stackID := by
  refine ensures_of_read (leaves_findStack trivial) fun stack ⟨hstored, hid⟩ => ?_
  refine ensures_of_read (leaves_findEndpoint trivial) fun endpoint hendpoint => ?_
  refine ensures_of_read (leaves_permitEndpoint trivial) fun _ hopen => ?_
  refine ensures_of_read (leaves_findResourceControl trivial) fun rc hrc => ?_
  obtain rfl : rc = controlOf h.server stack := hrc
  refine ensures_of_read (leaves_permitStack trivial) fun _ hstack => ?_
  exact ensures_of_true ⟨stack, endpoint, hstored, hid, hendpoint, hopen, hstack⟩

theorem ensures_stackMigrate {payload : StackMigratePayload} :
    Ensures (stackMigrate services outside context stackID payload) h
      fun _ _ => Asked h context stackID := by
  refine ensures_of_read (leaves_invalidPayload trivial) fun _ _ => ?_
  refine ensures_of_read (leaves_findStack trivial) fun stack ⟨hstored, hid⟩ => ?_
  refine ensures_of_read (leaves_findEndpoint trivial) fun endpoint hendpoint => ?_
  refine ensures_of_read (leaves_permitEndpoint trivial) fun _ hopen => ?_
  refine ensures_of_read (leaves_findResourceControl trivial) fun rc hrc => ?_
  obtain rfl : rc = controlOf h.server stack := hrc
  refine ensures_of_read (leaves_permitStack trivial) fun _ hstack => ?_
  exact ensures_of_true ⟨stack, endpoint, hstored, hid, hendpoint, hopen, hstack⟩

/-- What the updates ask about is the stack on the environment of the
query. -/
theorem asked_of_findForUpdate {stack : Stack} (hstored : Stored h stack) (hid : stack.id = stackID)
    (hown : endpointID.getD 0 = stack.endpointID) {α : Type} {f : Stack × Endpoint → Handler Host α} :
    Ensures (findForUpdate context stack endpointID >>= f) h fun _ _ => Asked h context stackID := by
  have hsame : { stack with endpointID := endpointID.getD 0 } = stack := by rw [hown]
  unfold findForUpdate
  simp only [hsame, Action.bind_assoc]
  refine ensures_of_read (leaves_findEndpoint trivial) fun endpoint hendpoint => ?_
  rw [hown] at hendpoint
  refine ensures_of_read (leaves_permitEndpoint trivial) fun _ hopen => ?_
  refine ensures_of_read (leaves_findResourceControl trivial) fun rc hrc => ?_
  obtain rfl : rc = controlOf h.server stack := hrc
  refine ensures_of_read (leaves_permitStack trivial) fun _ hstack => ?_
  exact ensures_of_true ⟨stack, endpoint, hstored, hid, hendpoint, hopen, hstack⟩

theorem ensures_stackUpdate {payload : UpdateStackPayload}
    (hown : ∀ stack, Stored h stack → stack.id = stackID → endpointID.getD 0 = stack.endpointID) :
    Ensures (stackUpdate services outside context stackID endpointID payload) h
      fun _ _ => Asked h context stackID := by
  refine ensures_of_read (leaves_findStack trivial) fun stack ⟨hstored, hid⟩ => ?_
  exact asked_of_findForUpdate hstored hid (hown stack hstored hid)

theorem ensures_stackUpdateGit {payload : UpdateStackGitPayload}
    (hown : ∀ stack, Stored h stack → stack.id = stackID → endpointID.getD 0 = stack.endpointID) :
    Ensures (stackUpdateGit services outside context stackID endpointID payload) h
      fun _ _ => Asked h context stackID := by
  refine ensures_of_read (leaves_findStack trivial) fun stack ⟨hstored, hid⟩ => ?_
  refine ensures_of_read (P := fun _ => True) (.ofExcept (fun _ _ => ⟨rfl, trivial⟩) trivial) fun _ _ => ?_
  exact asked_of_findForUpdate hstored hid (hown stack hstored hid)

/-- Only an administrator may name another environment here. -/
theorem ensures_stackDelete (hadmin : context.restricted.isAdmin = false) :
    Ensures (stackDelete services context stackID endpointID) h fun _ _ => Asked h context stackID := by
  refine ensures_of_read (leaves_findStack trivial) fun stack ⟨hstored, hid⟩ => ?_
  refine .require_bind fun hcheck => ?_
  have horphaned : decide (endpointID.getD 0 ≠ stack.endpointID) = false := by
    rcases hcheck with hcheck | hcheck
    · exact hcheck
    · rw [hadmin] at hcheck
      exact nomatch hcheck
  have hown : endpointID.getD 0 = stack.endpointID := by simpa using horphaned
  refine ensures_of_read (leaves_findEndpoint trivial) fun endpoint hendpoint => ?_
  refine ensures_of_read (leaves_findResourceControl trivial) fun rc hrc => ?_
  obtain rfl : rc = controlOf h.server stack := hrc
  refine ensures_of_read (leaves_permitDeletion trivial) fun _ hpermitted => ?_
  obtain ⟨hopen, hstack⟩ := hpermitted horphaned
  rw [hown] at hendpoint
  exact ensures_of_true ⟨stack, endpoint, hstored, hid, hendpoint, hopen, hstack⟩

/-- A stack that is read, on its own environment. -/
theorem asked_of_permitReading (hadmin : context.restricted.isAdmin = false) {stack : Stack}
    (hstored : Stored h stack) (hid : stack.id = stackID) {α : Type}
    {f : Option ResourceControl → Handler Host α} :
    Ensures (findEndpointOrAdmin context stack >>= fun endpoint =>
      permitReading context stack endpoint >>= f) h fun _ _ => Asked h context stackID := by
  refine ensures_of_read (leaves_findEndpointOrAdmin trivial) fun endpoint ⟨hendpoint, hsome⟩ => ?_
  rw [hadmin, or_iff_left nofun, Option.isSome_iff_exists] at hsome
  obtain ⟨endpoint, rfl⟩ := hsome
  refine ensures_of_read (leaves_permitReading trivial) fun _ hpermitted => ?_
  obtain ⟨hopen, hstack⟩ := hpermitted endpoint rfl
  exact ensures_of_true ⟨stack, endpoint, hstored, hid, hendpoint.symm, hopen, hstack⟩

theorem ensures_stackInspect (hadmin : context.restricted.isAdmin = false) :
    Ensures (stackInspect context stackID) h fun _ _ => Asked h context stackID := by
  refine ensures_of_read (leaves_findStack trivial) fun stack ⟨hstored, hid⟩ => ?_
  exact asked_of_permitReading hadmin hstored hid

theorem ensures_stackFile (hadmin : context.restricted.isAdmin = false) :
    Ensures (stackFile context stackID) h fun _ _ => Asked h context stackID := by
  refine ensures_of_read (leaves_findStack trivial) fun stack ⟨hstored, hid⟩ => ?_
  exact asked_of_permitReading hadmin hstored hid

/-! ## Behind the bouncer -/

theorem leaves_authenticatedAccess_regular {R : Callee → Prop} {s : Server} {E : Server → Prop}
    (hrole : tokenData.role ≠ .administrator) (hs : E s) :
    Leaves R (authenticatedAccess (some tokenData)) s
      (fun context s' => s' = s ∧ context = regularContext s tokenData) E := by
  refine .read_bind (Users.leaves_mwCheckAuthentication hs) fun given ⟨htoken, _, _⟩ => ?_
  obtain rfl := Option.some.inj htoken
  unfold mwUpgradeToRestrictedRequest newRestrictedContextRequest
  rw [if_neg hrole]
  refine .read_bind (P := (· = (regularContext s tokenData).restricted)) (.mapError ?_)
    fun restricted hrestricted => .pure ⟨rfl, by rw [hrestricted]; rfl⟩
  refine .read_bind (P := (· = s.dataStore.teamMembershipsByUserID tokenData.id))
    (.query ⟨rfl, rfl⟩ hs) fun memberships hmemberships => ?_
  subst hmemberships
  exact .pure ⟨rfl, rfl⟩

theorem ensures_behind {α β : Type} {answer : α → β} {handler : RequestContext → Handler Host α}
    (hrole : tokenData.role ≠ .administrator)
    (hx : Ensures (handler (regularContext h.server tokenData)) h fun _ _ =>
      Asked h (regularContext h.server tokenData) stackID) :
    Ensures (behind (authenticatedAccess (some tokenData)) answer handler) h fun _ _ =>
      Asked h (regularContext h.server tokenData) stackID := by
  refine ensures_of_read (leaves_read trivial (leaves_authenticatedAccess_regular hrole rfl))
    fun context hcontext => ?_
  subst hcontext
  exact hx.bind fun _ _ hasked => ensures_of_true hasked

/-- An association is for administrators. -/
theorem ensures_behind_admin {α β : Type} {answer : α → β} {handler : RequestContext → Handler Host α}
    (hrole : tokenData.role ≠ .administrator) {P : Prop} :
    Ensures (behind (adminAccess (some tokenData)) answer handler) h fun _ _ => P := by
  refine ensures_of_read (leaves_read trivial (Users.leaves_adminAccess rfl)) fun context hcontext => ?_
  obtain ⟨hadmitted, hadmin⟩ := hcontext
  obtain rfl := Option.some.inj hadmitted.token_eq
  exact absurd hadmin hrole

/-- **One successful request of a regular user.** -/
theorem asked_of_success {a : Attempt} {r : Response} (htarget : a.request.target = some stackID)
    (htoken : a.token = some tokenData) (hr : Regular h.server tokenData)
    (hown : NamesOwnEndpoint h a) (hrun : (a.run services h).1 = .ok r) :
    Asked h (regularContext h.server tokenData) stackID := by
  have hnames : ∀ {id : StackID} {endpointID : Option EndpointID},
      a.request.overwrites = some (id, endpointID.getD 0) →
        ∀ stack, Stored h stack → stack.id = id → endpointID.getD 0 = stack.endpointID :=
    fun hover stack hstored hid => hown _ _ hover tokenData stack htoken hr hstored hid
  have hadmin : (regularContext h.server tokenData).restricted.isAdmin = false := rfl
  suffices hensures : Ensures (handle services a.outside a.token a.request) h fun _ _ =>
      Asked h (regularContext h.server tokenData) stackID from
    hensures (a.sys h) r (a.run services h).2 rfl (Prod.ext hrun rfl)
  rw [htoken]
  cases hrequest : a.request with
  | create | deleteExternal =>
    rw [hrequest] at htarget
    exact nomatch htarget
  | update id endpointID payload =>
    rw [hrequest] at htarget hnames
    obtain rfl := Option.some.inj htarget
    exact ensures_behind hr.1 (ensures_stackUpdate (hnames rfl))
  | updateGit id endpointID payload =>
    rw [hrequest] at htarget hnames
    obtain rfl := Option.some.inj htarget
    exact ensures_behind hr.1 (ensures_stackUpdateGit (hnames rfl))
  | migrate id payload =>
    rw [hrequest] at htarget
    obtain rfl := Option.some.inj htarget
    exact ensures_behind hr.1 ensures_stackMigrate
  | start id =>
    rw [hrequest] at htarget
    obtain rfl := Option.some.inj htarget
    exact ensures_behind hr.1 ensures_stackStart
  | stop id =>
    rw [hrequest] at htarget
    obtain rfl := Option.some.inj htarget
    exact ensures_behind hr.1 ensures_stackStop
  | associate => exact ensures_behind_admin hr.1
  | delete id endpointID =>
    rw [hrequest] at htarget
    obtain rfl := Option.some.inj htarget
    exact ensures_behind hr.1 (ensures_stackDelete hadmin)
  | inspect id =>
    rw [hrequest] at htarget
    obtain rfl := Option.some.inj htarget
    exact ensures_behind hr.1 (ensures_stackInspect hadmin)
  | file id =>
    rw [hrequest] at htarget
    obtain rfl := Option.some.inj htarget
    exact ensures_behind hr.1 (ensures_stackFile hadmin)

/-! ## Other stacks -/

namespace OnlyAbout

theorem refl : OnlyAbout stackID h h :=
  ⟨fun _ _ => rfl, [], (List.append_nil _).symm, fun _ ha => (List.not_mem_nil ha).elim⟩

theorem tolerates : Tolerates (OnlyAbout stackID h) fun a => a.about = none ∨ a.about = some stackID := by
  rintro h' a ha ⟨hrecords, l, hl, hall⟩
  refine ⟨hrecords, l ++ [a], by simp [Host.perform, hl], fun b hb => ?_⟩
  rcases List.mem_append.mp hb with hb | hb
  · exact hall b hb
  · rw [List.mem_singleton] at hb
    exact hb ▸ ha

theorem putStack {stack : Stack} (ho : OnlyAbout stackID h h') (hid : stack.id = stackID) :
    OnlyAbout stackID h (Stacks.putStack stack h') := by
  refine ⟨fun id hne => ?_, ho.acts⟩
  have hkey : stack.id ≠ id := fun heq => hne (heq.symm.trans hid)
  exact (Bucket.get?_put_of_ne hkey).trans (ho.records id hne)

theorem dropStack (ho : OnlyAbout stackID h h') : OnlyAbout stackID h (Stacks.dropStack stackID h') :=
  ⟨fun id hne => (Bucket.get?_delete_of_ne hne.symm).trans (ho.records id hne), ho.acts⟩

theorem deploys {stack : Stack} (hid : stack.id = stackID) {a : Act} (ha : Deploys stack a) :
    a.about = none ∨ a.about = some stackID := by
  cases ha <;> exact .inr (congrArg some hid)

theorem stores {stack : Stack} (hid : stack.id = stackID) {a : Act}
    (ha : Stores services stack.id stack.entryPoint a) : a.about = none ∨ a.about = some stackID := by
  cases ha with
  | mkdirAll => exact .inl rfl
  | openFile => exact .inr (congrArg some hid)
  | writeFile => exact .inr (congrArg some hid)

theorem replaces {stack : Stack} (hid : stack.id = stackID) {repository : List RepositoryFile} {a : Act}
    (ha : Replaces repository stack a) : a.about = none ∨ a.about = some stackID := by
  cases ha with
  | backUp => exact .inl rfl
  | restore => exact .inl rfl
  | removeBackup => exact .inl rfl
  | clone ha =>
    cases ha with
    | mkdirAll => exact .inl rfl
    | openFile => exact .inr (congrArg some hid)
    | writeFile => exact .inr (congrArg some hid)

end OnlyAbout

/-- **A request is about its stack only**, successful or not. -/
theorem onlyAbout_run {a : Attempt} (htarget : a.request.target = some stackID) :
    OnlyAbout stackID h (a.run services h).2.store := by
  have hrefl : OnlyAbout stackID h h := .refl
  have hT : Tolerates (OnlyAbout stackID h) fun a => a.about = none ∨ a.about = some stackID :=
    OnlyAbout.tolerates
  have hleaves : ∀ {x : Handler Host Response},
      Leaves (a.sys h).Reliable x h (fun _ => OnlyAbout stackID h) (OnlyAbout stackID h) →
        OnlyAbout stackID h (x.run (a.sys h)).2.store := fun hx => hx.store rfl fun _ hk => hk
  have hdeploys : ∀ stack, Stored h stack → stack.id = stackID →
      ∀ act, Deploys stack act → act.about = none ∨ act.about = some stackID :=
    fun _ _ hid _ ha => OnlyAbout.deploys hid ha
  refine hleaves ?_
  cases hrequest : a.request with
  | create | deleteExternal =>
    rw [hrequest] at htarget
    exact nomatch htarget
  | update id endpointID payload =>
    rw [hrequest] at htarget
    obtain rfl := Option.some.inj htarget
    refine leaves_behind_authenticatedAccess hrefl fun context _ => leaves_stackUpdate hrefl hT
      (fun stack _ hid act ha => OnlyAbout.stores hid ha)
      (fun stack stack' _ hid hup act ha => OnlyAbout.deploys (hup.id.trans hid) ha) ?_
    intro stack stack' endpoint h₁ _ hid _ hup ho _
    exact ho.putStack (hup.id.trans hid)
  | updateGit id endpointID payload =>
    rw [hrequest] at htarget
    obtain rfl := Option.some.inj htarget
    refine leaves_behind_authenticatedAccess hrefl fun context _ => leaves_stackUpdateGit hrefl hT
      (fun stack _ hid act ha => OnlyAbout.replaces hid ha)
      (fun stack stack' _ hid hup act ha => OnlyAbout.deploys (hup.id.trans hid) ha) ?_
    intro stack stack' endpoint h₁ _ hid _ _ hup ho _
    exact ho.putStack (hup.id.trans hid)
  | migrate id payload =>
    rw [hrequest] at htarget
    obtain rfl := Option.some.inj htarget
    refine leaves_behind_authenticatedAccess hrefl fun context _ => leaves_stackMigrate hrefl hT ?_ ?_
    · intro stack _ hid act ha
      rcases ha with ha | ha
      · have hmigrated : (payload.migrated stack).id = id := hid
        exact OnlyAbout.deploys hmigrated ha
      · have hmigrated : ({ payload.migrated stack with name := stack.name } : Stack).id = id := hid
        exact OnlyAbout.deploys hmigrated ha
    · intro stack h₁ _ hid _ ho _
      exact ho.putStack hid
  | start id =>
    rw [hrequest] at htarget
    obtain rfl := Option.some.inj htarget
    refine leaves_behind_authenticatedAccess hrefl fun context _ => leaves_stackStart hrefl hT hdeploys ?_
    intro stack h₁ _ hid ho _
    exact ho.putStack hid
  | stop id =>
    rw [hrequest] at htarget
    obtain rfl := Option.some.inj htarget
    refine leaves_behind_authenticatedAccess hrefl fun context _ => leaves_stackStop hrefl hT hdeploys ?_
    intro stack h₁ _ hid ho _
    exact ho.putStack hid
  | associate id endpointID swarmID orphanedRunning =>
    rw [hrequest] at htarget
    obtain rfl := Option.some.inj htarget
    have hmoved : ∀ stack rc, OnlyAbout id h (withMovedControl stack endpointID rc h) := by
      intro stack rc
      cases rc with
      | none => exact hrefl
      | some rc => exact ⟨hrefl.records, hrefl.acts⟩
    refine leaves_behind_adminAccess hrefl fun context _ =>
      leaves_stackAssociate hrefl (fun stack _ _ => hmoved stack _) ?_
    intro stack stack' _ hid has
    exact (hmoved stack _).putStack (has.id.trans hid)
  | delete id endpointID =>
    rw [hrequest] at htarget
    obtain rfl := Option.some.inj htarget
    refine leaves_behind_authenticatedAccess hrefl fun context _ => leaves_stackDelete hrefl hT hdeploys
      (fun _ _ _ => .inl rfl) ?_
    intro stack h₁ _ _ ho _
    have hdropped : OnlyAbout id h (Stacks.dropStack id h₁) := ho.dropStack
    refine ⟨hdropped, ?_⟩
    cases controlOf h.server stack with
    | none => exact hdropped
    | some rc => exact ⟨hdropped.records, hdropped.acts⟩
  | inspect id =>
    exact leaves_behind_authenticatedAccess hrefl fun context _ => leaves_stackInspect hrefl
  | file id =>
    rw [hrequest] at htarget
    obtain rfl := Option.some.inj htarget
    exact leaves_behind_authenticatedAccess hrefl fun context _ => leaves_stackFile hrefl hT hdeploys

/-- **Every request of a run is authorised on the stack's own identity**, if
regular users name the environment of the stack in their updates. -/
theorem onOwnIdentity_of_run {attempts : List Attempt}
    (hC : (machine services).Along NamesOwnEndpoint h attempts) :
    (machine services).Along (OnOwnIdentity services) h attempts := by
  have hany : ∀ (h : Host) (a : Attempt) (h' : Host), True → NamesOwnEndpoint h a →
      (machine services).step h a = some h' → True := fun _ _ _ _ _ _ => trivial
  refine Machine.along_of_invariant hany
    (fun h a _ hown stackID htarget => ⟨onlyAbout_run htarget, ?_⟩) trivial hC
  intro tokenData r htoken hr hrun
  exact (asked_of_success htarget htoken hr hown hrun).ownAccess hr

/-- Two environments, with a stack called shop on each. User 2 may use the
second one, and its shop. -/
def twoOwners : Host where
  server := {
    dataStore := {
      user := (({} : Bucket User).put { id := 1, username := "admin", role := .administrator }).put
        { id := 2, username := "eve", role := .standardUser }
      endpointGroup := ({} : Bucket EndpointGroup).put { id := 1 }
      endpoint := (({} : Bucket Endpoint).put { id := 1 }).put
        { id := 2, userAccessPolicies := (∅ : UserAccessPolicies).insert 2 {} }
      stack := (({} : Bucket Stack).put (shopOn 1 1)).put (shopOn 2 2)
      resourceControl := ({} : Bucket ResourceControl).put
        { id := 1, resourceID := "2_shop", type := .stack, userAccesses := [{ userID := 2 }] } }
    issuedTokens := [⟨2, "eve", .standardUser⟩] }
where
  shopOn (stackID : StackID) (endpointID : EndpointID) : Stack := {
    id := stackID
    name := "shop"
    type := .dockerCompose
    endpointID := endpointID
    entryPoint := composeFileDefaultName
    projectPath := plainServices.getStackProjectPath (itoa stackID) }

/-- User 2 updates a stack, on the second environment. -/
def updateShop (stackID : StackID) : Attempt where
  request := .update stackID (some 2) { stackFileContent := "services:" }
  token := some ⟨2, "eve", .standardUser⟩

theorem onOwnIdentity_of_run_own :
    (machine plainServices).Along (OnOwnIdentity plainServices) twoOwners [updateShop 2] := by
  have hC : (machine plainServices).Along NamesOwnEndpoint twoOwners [updateShop 2] := by
    refine ⟨fun stackID endpointID hover tokenData stack _ _ hstored hid => ?_, fun _ _ => trivial⟩
    obtain ⟨rfl, rfl⟩ : 2 = stackID ∧ 2 = endpointID := by
      simpa [updateShop, Request.overwrites] using hover
    rw [Stored, hid] at hstored
    exact congrArg Stack.endpointID (Option.some.inj hstored)
  exact onOwnIdentity_of_run hC

/-- **User 2 replaces the file of the first shop**, which they have no access
to, and moves it to their environment. -/
theorem not_onOwnIdentity :
    ¬ (machine plainServices).Along (OnOwnIdentity plainServices) twoOwners [updateShop 1] := by
  intro hall
  have hregular : Regular twoOwners.server ⟨2, "eve", .standardUser⟩ := by
    refine ⟨by decide, fun user huser => ?_⟩
    obtain rfl := Option.some.inj huser
    decide
  obtain ⟨-, haccess⟩ := hall.1 1 rfl
  obtain ⟨stack, hstored, hid, hown⟩ := haccess _ _ rfl hregular rfl
  rw [Stored, hid] at hstored
  obtain rfl := Option.some.inj hstored
  obtain ⟨rc, hcontrol, -⟩ := hown.control
  cases hcontrol

end Stacks

end Portainer
