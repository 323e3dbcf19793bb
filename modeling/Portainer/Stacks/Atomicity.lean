import Portainer.Stacks.Helpers.Sparing
/-!
# Atomicity — what a failed update leaves

`stackUpdate` stores the new stack file over the old one and then goes on to
steps that can fail, with nothing to put the old file back.
-/

namespace Portainer

open Action (Leaves)
open HandlerError (internalServerError)
open Path (locate join Below Location)

namespace Stacks

variable {services : Services} {outside : Outside} {context : RequestContext} {stackID : StackID}
variable {stack : Stack} {endpointID : Option EndpointID} {endpoint : Endpoint}
variable {payload : UpdateStackPayload} {config : DeploymentConfig} {T U : Location → Prop}
variable {w : Sys Callee Host} {R : Callee → Prop} {h : Host}

/-! ## `stackUpdate`, in parts -/

/-- The checks of an update, on the environment of the query. -/
def checkForUpdate (context : RequestContext) (stack : Stack) (endpointID : Option EndpointID) :
    Handler Host Endpoint := do
  let endpoint ← findEndpoint stackEndpointNotFound (endpointID.getD 0)
  permitEndpoint context endpoint
  let resourceControl ← findResourceControl { stack with endpointID := endpointID.getD 0 }
  permitStack context resourceControl
  return endpoint

theorem findForUpdate_eq : findForUpdate context stack endpointID =
    checkForUpdate context stack endpointID >>= fun endpoint =>
      pure ({ stack with endpointID := endpointID.getD 0 }, endpoint) := by
  simp only [findForUpdate, checkForUpdate, Action.bind_assoc, Action.pure_bind]

/-- Where `stackUpdate` stores the stack file. -/
def storedFilePath (services : Services) (stack : Stack) : Path :=
  join [services.fileStorePath, join [join ["compose".toList, itoa stack.id], stack.entryPoint]]

def unpersistedFile : String → HandlerError :=
  internalServerError "Unable to persist updated Compose file on disk"

/-- Until the stack file is opened. -/
def openStackFile (services : Services) (context : RequestContext) (endpointID : Option EndpointID)
    (payload : UpdateStackPayload) (stack : Stack) : Handler Host Endpoint := do
  let endpoint ← checkForUpdate context stack endpointID
  invalidPayload payload.validate
  (perform (.mkdirAll (join [services.fileStorePath, join ["compose".toList, itoa stack.id]]))).mapError
    unpersistedFile
  (perform (.openFile stack.id (storedFilePath services stack))).mapError unpersistedFile
  return endpoint

/-- From there until the stack file is deployed. -/
def writeStackFile (services : Services) (context : RequestContext) (endpointID : Option EndpointID)
    (payload : UpdateStackPayload) (stack : Stack) (endpoint : Endpoint) :
    Handler Host DeploymentConfig := do
  (perform (.writeFile stack.id (storedFilePath services stack) payload.stackFileContent)).mapError
    unpersistedFile
  createDeployConfig context { stack with endpointID := endpointID.getD 0, env := payload.env } endpoint
    (payload.prune && stack.type = .dockerSwarm)

/-- The stack of an update, as it is deployed and stored. -/
def updatedStack (outside : Outside) (endpointID : Option EndpointID) (payload : UpdateStackPayload)
    (stack : Stack) (config : DeploymentConfig) : Stack :=
  { stack with
    endpointID := endpointID.getD 0
    env := payload.env
    updateDate := outside.now
    updatedBy := config.user.username
    status := .active }

/-- The rest. -/
def deployUpdate (services : Services) (outside : Outside) (endpointID : Option EndpointID)
    (payload : UpdateStackPayload) (stack : Stack) (config : DeploymentConfig) : Handler Host Stack := do
  let stack' := updatedStack outside endpointID payload stack config
  (deployAs services stack.type { config with stack := stack' }).mapError
    fun err => internalServerError err err
  (updateStack stack').mapError unpersistedChanges
  return stack'

theorem stackUpdate_eq : stackUpdate services outside context stackID endpointID payload =
    findStack stackID >>= fun stack => openStackFile services context endpointID payload stack >>=
      fun endpoint => writeStackFile services context endpointID payload stack endpoint >>=
        deployUpdate services outside endpointID payload stack := by
  simp only [stackUpdate, findForUpdate_eq, updateAndDeployStack, openStackFile, writeStackFile,
    storeStackFileFromBytes, createFile, Action.mapError_bind, Action.mapError_pure, Action.bind_assoc,
    Action.pure_bind]
  rfl

/-! ## The file of variables -/

/-- The file of variables is written. -/
def WritesEnv (services : Services) (stack : Stack) (payload : UpdateStackPayload) : Prop :=
  stack.type ≠ .dockerSwarm ∧ services.composeStackManager = .dockerCompose ∧ payload.env ≠ []

/-- The path of the file of variables. -/
def envFilePath (stack : Stack) : Path := join [stack.projectPath, "stack.env".toList]

def deploymentError : String → HandlerError := fun err => internalServerError err err

/-- Until the file of variables is opened, once the configuration is
there. -/
def openEnvFile (services : Services) (outside : Outside) (endpointID : Option EndpointID)
    (payload : UpdateStackPayload) (stack : Stack) (config : DeploymentConfig) :
    Handler Host DeploymentConfig := do
  (checkStackFile services
    (restrictsCompose config.endpoint.securitySettings && config.user.role ≠ .administrator)
    { config with stack := updatedStack outside endpointID payload stack config }).mapError deploymentError
  (login config.registries).mapError deploymentError
  (connect services config.endpoint).mapError deploymentError
  (perform (.openFile stack.id (envFilePath stack))).mapError deploymentError
  return config

/-- From there to the end. -/
def writeEnvFile (outside : Outside) (endpointID : Option EndpointID)
    (payload : UpdateStackPayload) (stack : Stack) (config : DeploymentConfig) : Handler Host Stack := do
  let stack' := updatedStack outside endpointID payload stack config
  (writeEnv stack.id (envFilePath stack) "" payload.env).mapError deploymentError
  (handOver stack' config.endpoint false).mapError deploymentError
  logout.mapError deploymentError
  (updateStack stack').mapError unpersistedChanges
  return stack'

theorem deployUpdate_eq (henv : WritesEnv services stack payload) :
    deployUpdate services outside endpointID payload stack config =
      openEnvFile services outside endpointID payload stack config >>=
        writeEnvFile outside endpointID payload stack := by
  obtain ⟨htype, hmanager, hne⟩ := henv
  have hprepare : prepareEnv services (updatedStack outside endpointID payload stack config) =
      perform (.openFile stack.id (envFilePath stack)) >>= fun _ =>
        writeEnv stack.id (envFilePath stack) "" payload.env := by
    unfold prepareEnv createEnvFile
    rw [hmanager]
    exact if_neg hne
  simp only [deployUpdate, deployAs, if_neg htype, deployComposeStack, composeUp, hprepare,
    openEnvFile, writeEnvFile, Action.mapError_bind, Action.bind_assoc, Action.pure_bind]
  rfl

/-! ## On two disks -/

theorem respects_checkForUpdate :
    (checkForUpdate context stack endpointID).Respects (AgreeOff T U) := by
  refine .bind (.mapError respects_onServer) fun endpoint => ?_
  refine .bind (.mapError respects_onServer) fun _ => .bind (.mapError respects_onServer) fun rc => ?_
  refine .bind (.bind (.mapError ?_) fun access => .require) fun _ => .pure
  exact .bind respects_onServer fun _ => .pure

/-- What was in the stack file makes no difference once it is open. -/
theorem relates_openStackFile : (openStackFile services context endpointID payload stack).Relates
    (AgreeOff T U) (AgreeOff (fun k => T k ∧ k ≠ locate (storedFilePath services stack)) U)
    fun _ _ => True := by
  have hreads : ∀ {α : Type} {x : Handler Host α}, x.Respects (AgreeOff T U) →
      x.Relates (AgreeOff T U) (AgreeOff T U) fun _ _ => True :=
    fun hx => .of_respects hx (fun _ _ ha => ha) fun _ _ _ => trivial
  refine .bind (hreads respects_checkForUpdate) fun endpoint => ?_
  refine .bind (hreads (.mapError .ofExcept)) fun _ => ?_
  refine .bind (hreads (.mapError (respects_perform fun _ _ => nofun))) fun _ => ?_
  refine .bind (.mapError (.call (fun _ _ ha => ha.write fun _ => rfl) fun _ _ _ => trivial)) fun _ => ?_
  exact .pure fun _ _ ha => ha

theorem respects_writeStackFile :
    (writeStackFile services context endpointID payload stack endpoint).Respects (AgreeOff T U) :=
  .bind (.mapError (respects_perform fun _ _ => nofun)) fun _ => respects_createDeployConfig

theorem relates_openEnvFile (hfile : ¬ T (locate (stackFilePath stack))) :
    (openEnvFile services outside endpointID payload stack config).Relates
      (AgreeOff T U) (AgreeOff (fun k => T k ∧ k ≠ locate (envFilePath stack)) U) fun _ _ => True := by
  have hreads : ∀ {α : Type} {x : Handler Host α}, x.Respects (AgreeOff T U) →
      x.Relates (AgreeOff T U) (AgreeOff T U) fun _ _ => True :=
    fun hx => .of_respects hx (fun _ _ ha => ha) fun _ _ _ => trivial
  refine .bind (hreads (.mapError (respects_checkStackFile hfile))) fun _ => ?_
  refine .bind (hreads (.mapError respects_login)) fun _ => ?_
  refine .bind (hreads (.mapError respects_connect)) fun _ => ?_
  refine .bind (.mapError (.call (fun _ _ ha => ha.write fun _ => rfl) fun _ _ _ => trivial)) fun _ => ?_
  exact .pure fun _ _ ha => ha

/-! ## What the parts leave -/

theorem leaves_checkForUpdate {E : Host → Prop} (hE : E h) :
    Leaves R (checkForUpdate context stack endpointID) h (fun _ h' => h' = h ∧ True) E := by
  refine .read_bind (leaves_findEndpoint hE) fun endpoint hendpoint => ?_
  refine .read_bind (leaves_permitEndpoint hE) fun _ _ => ?_
  refine .read_bind (leaves_findResourceControl hE) fun rc _ => ?_
  exact .read_bind (leaves_permitStack hE) fun _ _ => .pure ⟨rfl, trivial⟩

/-- **Until the stack file is opened nothing is lost**, nor is it then if
the file lies elsewhere. -/
theorem leaves_openStackFile :
    Leaves R (openStackFile services context endpointID payload stack) h
      (fun _ h' => ¬ Below (projectDirectory services stack.id) (locate (storedFilePath services stack)) →
        Intact (projectDirectory services stack.id) h h')
      (Intact (projectDirectory services stack.id) h) := by
  refine .read_bind (leaves_checkForUpdate .refl) fun endpoint _ => ?_
  refine .read_bind (leaves_invalidPayload .refl) fun _ _ => ?_
  have hmkdir := keeps_perform (tolerates_intact (h := h)) (a := .mkdirAll
    (join [services.fileStorePath, join ["compose".toList, itoa stack.id]])) locate_storePath
  refine .bind (.of_keeps (.mapError hmkdir) .refl) fun _ h₁ hintact => ?_
  refine .bind (.mapError (.call (Q := fun _ h' => ¬ Below (projectDirectory services stack.id)
    (locate (storedFilePath services stack)) → Intact (projectDirectory services stack.id) h h')
    (fun hfile => ?_) hintact)) fun _ h₂ hh₂ => .pure hh₂
  exact tolerates_intact h₁ _ hfile hintact

variable {d : Location} {h₀ : Host}

theorem leaves_writeStackFile (hintact : Intact d h₀ h)
    (hfile : ¬ Below d (locate (storedFilePath services stack))) :
    Leaves R (writeStackFile services context endpointID payload stack endpoint) h
      (fun _ => Intact d h₀) (Intact d h₀) := by
  have hwrite := keeps_perform (tolerates_intact (h := h₀)) (a := .writeFile stack.id
    (storedFilePath services stack) payload.stackFileContent) hfile
  refine .bind (.of_keeps (.mapError hwrite) hintact) fun _ h₁ hintact₁ => ?_
  exact (leaves_createDeployConfig hintact₁).conseq (fun _ _ hh' => hh'.1 ▸ hintact₁) fun _ hE => hE

theorem keeps_checkStackFile_intact {checked : Bool} :
    (checkStackFile services checked config).Keeps (Intact d h₀) :=
  .ite (fun _ => .bind (keeps_getFileContent tolerates_intact trivial) fun _ => .ofExcept) fun _ => .pure

theorem keeps_handOver_intact {prune : Bool} :
    (handOver stack endpoint prune).Keeps (Intact d h₀) :=
  .bind (keeps_getFileContent tolerates_intact trivial) fun _ =>
    .bind (keeps_modify tolerates_intact trivial) fun _ => .call fun _ hh => hh

/-- The file of variables is the last to be opened. -/
theorem leaves_openEnvFile (hintact : Intact d h₀ h) :
    Leaves R (openEnvFile services outside endpointID payload stack config) h
      (fun _ _ => True) (Intact d h₀) := by
  refine .bind (.of_keeps (.mapError keeps_checkStackFile_intact) hintact) fun _ h₁ hintact₁ => ?_
  refine .bind (.of_keeps (.mapError keeps_login) hintact₁) fun _ h₂ hintact₂ => ?_
  refine .bind (.of_keeps (.mapError keeps_connect) hintact₂) fun _ h₃ hintact₃ => ?_
  exact .bind (.mapError (.call (Q := fun _ _ => True) trivial hintact₃)) fun _ _ _ => .pure trivial

theorem keeps_prepareEnv_intact (henv : ¬ WritesEnv services stack payload)
    (htype : stack.type ≠ .dockerSwarm) :
    (prepareEnv services (updatedStack outside endpointID payload stack config)).Keeps (Intact d h₀) := by
  unfold prepareEnv
  split
  · rename_i hmanager
    have hempty : payload.env = [] := by
      by_contra hne
      exact henv ⟨htype, hmanager, hne⟩
    unfold createEnvFile
    exact .ite (fun _ => .pure) fun hne => absurd hempty hne
  · exact .bind (.attempt (keeps_getFileContent tolerates_intact trivial)) fun _ => .pure

/-- Without a file of variables a deployment touches no file. -/
theorem leaves_deployUpdate (hintact : Intact d h₀ h) (henv : ¬ WritesEnv services stack payload) :
    Leaves R (deployUpdate services outside endpointID payload stack config) h
      (fun _ _ => True) (Intact d h₀) := by
  have hdeploy : (deployAs services stack.type { config with
      stack := updatedStack outside endpointID payload stack config }).Keeps (Intact d h₀) := by
    refine .ite (fun _ => ?_) fun htype => ?_
    · exact .bind keeps_checkStackFile_intact fun _ => .bind keeps_login fun _ =>
        .bind keeps_handOver_intact fun _ => .call fun _ hh => hh
    · exact .bind keeps_checkStackFile_intact fun _ => .bind keeps_login fun _ =>
        .bind (.bind keeps_connect fun _ => .bind (keeps_prepareEnv_intact henv htype) fun _ =>
          keeps_handOver_intact) fun _ => .call fun _ hh => hh
  refine .bind (.of_keeps (.mapError hdeploy) hintact) fun _ h₁ hintact₁ => ?_
  exact .bind (leaves_updateStack (Q := fun _ _ => True) hintact₁ trivial) fun _ _ _ => .pure trivial

/-! ## Which failures are spared -/

/-- The rest of `stackUpdate`, once the stack is read. -/
def updateRead (services : Services) (outside : Outside) (context : RequestContext)
    (endpointID : Option EndpointID) (payload : UpdateStackPayload) (stack : Stack) :
    Handler Host Stack :=
  openStackFile services context endpointID payload stack >>= fun endpoint =>
    writeStackFile services context endpointID payload stack endpoint >>=
      deployUpdate services outside endpointID payload stack

/-- Until the file of variables is opened. -/
def untilEnvFile (services : Services) (outside : Outside) (context : RequestContext)
    (endpointID : Option EndpointID) (payload : UpdateStackPayload) (stack : Stack) :
    Handler Host DeploymentConfig :=
  openStackFile services context endpointID payload stack >>= fun endpoint =>
    writeStackFile services context endpointID payload stack endpoint >>=
      openEnvFile services outside endpointID payload stack

/-- **`stackUpdate` fails before it opens a file of the stack.** The first one
is the stack file, or the file of variables where the stack file lies
elsewhere. -/
structure UpdateFailsEarly (services : Services) (outside : Outside) (context : RequestContext)
    (endpointID : Option EndpointID) (payload : UpdateStackPayload) (stack : Stack)
    (w : Sys Callee Host) : Prop where
  stackFile : Below (projectDirectory services stack.id) (locate (stackFilePath stack)) →
    Fails (findStack stack.id >>= openStackFile services context endpointID payload) w
  envFile : ¬ Below (projectDirectory services stack.id) (locate (stackFilePath stack)) →
    WritesEnv services stack payload →
      Fails (findStack stack.id >>= untilEnvFile services outside context endpointID payload) w

theorem Own.locate_storedFilePath (hown : Own services stack) :
    locate (storedFilePath services stack) = locate (stackFilePath stack) := by
  unfold storedFilePath stackFilePath
  rw [locate_stores, hown]

theorem Own.below_envFilePath (hown : Own services stack) :
    Below (projectDirectory services stack.id) (locate (envFilePath stack)) :=
  hown.below_join segment_stackEnv

/-- **A stack file that is opened is lost**, if it is one of the stack's. -/
theorem atomic_iff_of_below (hown : Own services stack)
    (hfile : Below (projectDirectory services stack.id) (locate (stackFilePath stack))) :
    Atomic services stack.id (updateRead services outside context endpointID payload stack) w ↔
      Fails (openStackFile services context endpointID payload stack) w ∨
        ∀ fs, Succeeds (updateRead services outside context endpointID payload stack) (withDisk w fs) := by
  have hsame : ∀ fs, Fails (openStackFile services context endpointID payload stack) w ↔
      Fails (openStackFile services context endpointID payload stack) (withDisk w fs) :=
    fun fs => fails_iff_of_relates relates_openStackFile agreeOff_withDisk
  constructor
  · intro hatomic
    by_cases hfails : Fails (openStackFile services context endpointID payload stack) w
    · exact .inl hfails
    right
    refine succeeds_of_atomic (hown.locate_storedFilePath ▸ hfile) ?_
      (fun fs hfs => hfails ((hsame fs).mpr hfs)) hatomic
    exact relates_openStackFile.conseq fun s s' hs => hs.eq (fun k hk => hk.2 hk.1) fun _ hk => hk
  · rintro (hfails | hsucceeds) fs
    · exact ((hsame fs).mp hfails).spares_bind (spares_of_leaves leaves_openStackFile)
    · exact (hsucceeds fs).spares

/-- **So is a file of variables**, where the stack file lies elsewhere. -/
theorem atomic_iff_of_writesEnv (hown : Own services stack)
    (hfile : ¬ Below (projectDirectory services stack.id) (locate (stackFilePath stack)))
    (henv : WritesEnv services stack payload) :
    Atomic services stack.id (updateRead services outside context endpointID payload stack) w ↔
      Fails (untilEnvFile services outside context endpointID payload stack) w ∨
        ∀ fs, Succeeds (updateRead services outside context endpointID payload stack) (withDisk w fs) := by
  have hsplit : updateRead services outside context endpointID payload stack =
      untilEnvFile services outside context endpointID payload stack >>=
        writeEnvFile outside endpointID payload stack := by
    have hdeploy : deployUpdate services outside endpointID payload stack = fun config =>
        openEnvFile services outside endpointID payload stack config >>=
          writeEnvFile outside endpointID payload stack := funext fun _ => deployUpdate_eq henv
    unfold updateRead untilEnvFile
    simp only [hdeploy, Action.bind_assoc]
  have hstored := hown.locate_storedFilePath
  -- what was in the stack file is overwritten before it is read
  have hrelates : ∀ T U : Location → Prop,
      (untilEnvFile services outside context endpointID payload stack).Relates (AgreeOff T U)
        (AgreeOff (fun k => (T k ∧ k ≠ locate (stackFilePath stack)) ∧ k ≠ locate (envFilePath stack)) U)
        fun _ _ => True := by
    intro T U
    have hopen : (openStackFile services context endpointID payload stack).Relates (AgreeOff T U)
        (AgreeOff (fun k => T k ∧ k ≠ locate (storedFilePath services stack)) U) fun _ _ => True :=
      relates_openStackFile
    rw [hstored] at hopen
    refine .bind hopen fun endpoint => ?_
    refine .bind (.of_respects respects_writeStackFile (fun _ _ ha => ha) fun _ _ _ => trivial)
      fun config => ?_
    exact relates_openEnvFile fun hk => hk.2 rfl
  have hsame : ∀ fs, Fails (untilEnvFile services outside context endpointID payload stack) w ↔
      Fails (untilEnvFile services outside context endpointID payload stack) (withDisk w fs) :=
    fun fs => fails_iff_of_relates (hrelates _ _) agreeOff_withDisk
  rw [hsplit]
  constructor
  · intro hatomic
    by_cases hfails : Fails (untilEnvFile services outside context endpointID payload stack) w
    · exact .inl hfails
    right
    refine succeeds_of_atomic hown.below_envFilePath ?_ (fun fs hfs => hfails ((hsame fs).mpr hfs)) hatomic
    exact (hrelates _ _).conseq fun s s' hs => hs.eq (fun k hk => hk.2 hk.1.1) fun _ hk => hk
  · rintro (hfails | hsucceeds) fs
    · refine ((hsame fs).mp hfails).spares_bind (spares_of_leaves (Q := fun _ _ => True) ?_)
      rw [← hstored] at hfile
      refine .bind leaves_openStackFile fun endpoint h₁ hh₁ => ?_
      exact .bind (leaves_writeStackFile (hh₁ hfile) hfile) fun config h₂ hh₂ => leaves_openEnvFile hh₂
    · exact (hsucceeds fs).spares

/-- Where neither is the stack's, an update touches no file of it. -/
theorem atomic_of_not_writesEnv (hown : Own services stack)
    (hfile : ¬ Below (projectDirectory services stack.id) (locate (stackFilePath stack)))
    (henv : ¬ WritesEnv services stack payload) :
    Atomic services stack.id (updateRead services outside context endpointID payload stack) w := by
  refine fun fs => spares_of_leaves (Q := fun _ _ => True) ?_
  rw [← hown.locate_storedFilePath] at hfile
  refine .bind leaves_openStackFile fun endpoint h₁ hh₁ => ?_
  exact .bind (leaves_writeStackFile (hh₁ hfile) hfile) fun config h₂ hh₂ => leaves_deployUpdate hh₂ henv

/-- The read of a stored stack fails, or returns it. -/
theorem run_findStack (hstored : Stored w.store stack) :
    (∃ e faults', ∀ fs, (findStack stack.id).run (withDisk w fs) =
        (.error e, ⟨(withDisk w fs).store, faults'⟩)) ∨
      ∃ faults', ∀ fs, (findStack stack.id).run (withDisk w fs) =
        (.ok stack, ⟨(withDisk w fs).store, faults'⟩) := by
  obtain ⟨r, faults', hrun⟩ := glances_findStack.run w
  cases r with
  | error e => exact .inl ⟨e, faults', hrun⟩
  | ok found =>
    have hensures : Action.Ensures (findStack stack.id) w.store
        (fun found h' => h' = w.store ∧ Stored w.store found ∧ found.id = stack.id) :=
      (leaves_findStack (E := fun _ => True) trivial).ensures
    obtain ⟨-, hfound, hid⟩ := hensures w found _ rfl (hrun w.store.fileSystem)
    obtain rfl : found = stack := by
      rw [Stored, hid, hstored] at hfound
      exact (Option.some.inj hfound).symm
    exact .inr ⟨faults', hrun⟩

/-- **An error of `stackUpdate` spares the stack** exactly where it comes
before a file of the stack is opened. -/
theorem atomic_stackUpdate_iff (hown : Own services stack) (hstored : Stored w.store stack) :
    Atomic services stack.id (stackUpdate services outside context stack.id endpointID payload) w ↔
      UpdateFailsEarly services outside context endpointID payload stack w ∨
        ∀ fs, Succeeds (stackUpdate services outside context stack.id endpointID payload)
          (withDisk w fs) := by
  have hread : stackUpdate services outside context stack.id endpointID payload =
      findStack stack.id >>= updateRead services outside context endpointID payload := stackUpdate_eq
  rw [hread]
  rcases run_findStack hstored with ⟨e, faults', hrun⟩ | ⟨faults', hrun⟩
  · have hfails : ∀ {α : Type} {f : Stack → Handler Host α}, Fails (findStack stack.id >>= f) w :=
      Fails.bind ⟨e, _, hrun w.store.fileSystem⟩
    exact ⟨fun _ => .inl ⟨fun _ => hfails, fun _ _ => hfails⟩, fun _ => atomic_of_error hrun⟩
  · have hsucceeds : (∀ fs, Succeeds (findStack stack.id >>=
        updateRead services outside context endpointID payload) (withDisk w fs)) ↔
        ∀ fs, Succeeds (updateRead services outside context endpointID payload stack)
          (withDisk ⟨w.store, faults'⟩ fs) :=
      forall_congr' fun fs => succeeds_bind_iff (hrun fs)
    have hfails : ∀ {α : Type} {f : Stack → Handler Host α},
        Fails (findStack stack.id >>= f) w ↔ Fails (f stack) ⟨w.store, faults'⟩ :=
      fails_bind_iff (hrun w.store.fileSystem)
    rw [atomic_bind_iff hrun, hsucceeds]
    by_cases hfile : Below (projectDirectory services stack.id) (locate (stackFilePath stack))
    · rw [atomic_iff_of_below hown hfile, ← hfails]
      exact or_congr_left ⟨fun h => ⟨fun _ => h, fun hno => absurd hfile hno⟩, fun h => h.stackFile hfile⟩
    by_cases henv : WritesEnv services stack payload
    · rw [atomic_iff_of_writesEnv hown hfile henv, ← hfails]
      exact or_congr_left
        ⟨fun h => ⟨fun hyes => absurd hyes hfile, fun _ _ => h⟩, fun h => h.envFile hfile henv⟩
    · exact ⟨fun _ => .inl ⟨fun hyes => absurd hyes hfile, fun _ hyes => absurd hyes henv⟩,
        fun _ => atomic_of_not_writesEnv hown hfile henv⟩

end Stacks

end Portainer
