import Portainer.Stacks.Helpers.Reads
/-!
# What the handlers leave

One specification for each handler: an invariant that the host has before,
that tolerates the acts the handler does, and that the records it stores do
not break, holds after, in success and in failure. What the handler has
seen by the time of a write comes with the write. Until the first write to
the database, the server is as it was.
-/

namespace Portainer

open Action (Leaves)

namespace Stacks

variable {services : Services} {outside : Outside} {R : Callee → Prop} {h : Host}
variable {I : Host → Prop} {G : Act → Prop} {context : RequestContext}

/-! ## The writes -/

/-- The host with the record of a stack replaced. -/
def putStack (stack : Stack) (h : Host) : Host :=
  { h with server := Server.stack.change (·.put stack) h.server }

/-- The host with the record of a new stack. -/
def addStack (stack : Stack) (h : Host) : Host :=
  { h with server := Server.stack.change (fun b => (b.setSequence stack.id).put stack) h.server }

/-- The host without the record of a stack. -/
def dropStack (stackID : StackID) (h : Host) : Host :=
  { h with server := Server.stack.change (·.delete stackID) h.server }

/-- The host once an identifier was drawn. -/
def drawStack (h : Host) : Host := { h with server := Server.stack.change Bucket.nextSequence h.server }

/-- The host with a new resource control. -/
def addControl (rc : ResourceControl) (h : Host) : Host :=
  { h with server := Server.resourceControl.change (fun b => b.nextSequence.put
      { rc with id := h.server.dataStore.resourceControl.next }) h.server }

/-- The host with a resource control replaced. -/
def putControl (rc : ResourceControl) (h : Host) : Host :=
  { h with server := Server.resourceControl.change (·.put rc) h.server }

/-- The host without a resource control. -/
def dropControl (id : ResourceControlID) (h : Host) : Host :=
  { h with server := Server.resourceControl.change (·.delete id) h.server }

theorem leaves_updateStack_of {stack : Stack} {g : String → HandlerError} {Q : Unit → Host → Prop}
    {E : Host → Prop} (hE : ¬ R .databaseWrite → E h) (hQ : Q () (putStack stack h)) :
    Leaves R ((updateStack stack).mapError g) h Q E :=
  .mapError ((leaves_write_of hE).conseq (fun _ _ hh' => hh' ▸ hQ) fun _ he => he)

theorem leaves_updateStack {stack : Stack} {g : String → HandlerError} {Q : Unit → Host → Prop}
    {E : Host → Prop} (hE : E h) (hQ : Q () (putStack stack h)) :
    Leaves R ((updateStack stack).mapError g) h Q E :=
  leaves_updateStack_of (fun _ => hE) hQ

theorem leaves_createStack {stack : Stack} {g : String → HandlerError} {Q : Unit → Host → Prop}
    {E : Host → Prop} (hE : E h) (hQ : Q () (addStack stack h)) :
    Leaves R ((createStack stack).mapError g) h Q E :=
  .mapError ((leaves_write hE).conseq (fun _ _ hh' => hh' ▸ hQ) fun _ he => he)

/-- An identifier is the next one, or zero if the draw failed. -/
theorem leaves_getNextIdentifier {E : Host → Prop} :
    Leaves R (onServer Server.stack.getNextIdentifier : Handler Host Int) h
      (fun id h' => h' = drawStack h ∧ id = h.server.dataStore.stack.next ∨
        h' = h ∧ id = 0 ∧ ¬ R .databaseWrite) E := by
  refine Leaves.conseq (Leaves.zoom (Q := fun id s =>
      s = Server.stack.change Bucket.nextSequence h.server ∧ id = h.server.dataStore.stack.next ∨
        s = h.server ∧ id = 0 ∧ ¬ R .databaseWrite) (E := fun _ => False) ?_)
    (fun id h' hh' => ?_) fun _ he => he.elim fun _ he => he.2.elim
  · refine Leaves.bind (M := fun r s =>
        (∃ u, r = Except.ok u) ∧ s = Server.stack.change Bucket.nextSequence h.server ∨
        (∃ text, r = Except.error text) ∧ s = h.server ∧ ¬ R .databaseWrite)
      (.attempt_call (.inl ⟨⟨(), rfl⟩, rfl⟩) fun hR text => .inr ⟨⟨text, rfl⟩, rfl, hR⟩)
      fun r s hr => ?_
    rcases hr with ⟨⟨u, rfl⟩, rfl⟩ | ⟨⟨text, rfl⟩, rfl, hR⟩
    · exact .get (.inl ⟨rfl, rfl⟩)
    · exact .pure (.inr ⟨rfl, rfl, hR⟩)
  · obtain ⟨s, rfl, ⟨rfl, hid⟩ | ⟨rfl, hid⟩⟩ := hh'
    · exact .inl ⟨rfl, hid⟩
    · exact .inr ⟨rfl, hid⟩

/-! ## Deployments -/

/-- What does acts only, from a host with the invariant. -/
theorem leaves_acts {α : Type} {x : Fallible Host α} {g : String → HandlerError} {E : Host → Prop}
    (hI : I h) (hx : x.Keeps fun h' => I h' ∧ h'.server = h.server) (hE : ∀ h', I h' → E h') :
    Leaves R (x.mapError g) h (fun _ h' => I h' ∧ h'.server = h.server) E :=
  (Leaves.of_keeps hx.mapError ⟨hI, rfl⟩).conseq (fun _ _ hh' => hh') fun _ he => hE _ he.1

/-- **A deployment of the stack on the endpoint keeps the invariant**, for
the user of the request. -/
def DeploymentKeeps (services : Services) (context : RequestContext) (s : Server) (endpoint : Endpoint)
    (stack : Stack) (I : Host → Prop) : Prop :=
  ∀ config : DeploymentConfig, config.stack = stack → config.endpoint = endpoint →
    s.dataStore.user.get? context.restricted.userID = some config.user →
      (deployAs services stack.type config).Keeps fun h => I h ∧ h.server = s

/-- An invariant that tolerates the acts of the managers. -/
theorem deploymentKeeps_of_tolerates {s : Server} {endpoint : Endpoint} {stack : Stack} (hT : Tolerates I G)
    (hG : ∀ a, Deploys stack a → G a) : DeploymentKeeps services context s endpoint stack I := by
  rintro config rfl - -
  exact keeps_deployAs (hT.and_server _) hG

/-! ## Starting and stopping -/

theorem leaves_stackStart_of {stackID : StackID} (hI : I h)
    (hstart : ∀ stack endpoint, Stored h stack → stack.id = stackID →
      h.server.dataStore.endpoint.get? stack.endpointID = some endpoint → stack.status ≠ .active →
        Leaves R (startStack services stack endpoint) h (fun _ h' => I h' ∧ h'.server = h.server) I)
    (hput : ∀ stack h', Stored h stack → stack.id = stackID → I h' → h'.server = h.server →
      I (putStack { stack with status := .active } h')) :
    Leaves R (stackStart services outside context stackID) h (fun _ => I) I := by
  refine .read_bind (leaves_findStack hI) fun stack ⟨hstored, hid⟩ => ?_
  refine .read_bind (leaves_findEndpoint hI) fun endpoint hendpoint => ?_
  refine .read_bind (leaves_permitEndpoint hI) fun _ _ => ?_
  refine .read_bind (leaves_requireUniqueName hI) fun _ _ => ?_
  refine .read_bind (leaves_findResourceControl hI) fun rc _ => ?_
  refine .read_bind (leaves_permitStack hI) fun _ _ => .require_bind hI fun hinactive => ?_
  refine .bind (.mapError (hstart stack endpoint hstored hid hendpoint hinactive)) fun _ h' ⟨hI', hserver⟩ => ?_
  refine .bind (leaves_updateStack (Q := fun _ => I) hI' (hput stack h' hstored hid hI' hserver))
    fun _ _ hh' => .pure hh'

theorem leaves_stackStart {stackID : StackID} (hI : I h) (hT : Tolerates I G)
    (hG : ∀ stack, Stored h stack → stack.id = stackID → ∀ a, Deploys stack a → G a)
    (hput : ∀ stack h', Stored h stack → stack.id = stackID → I h' → h'.server = h.server →
      I (putStack { stack with status := .active } h')) :
    Leaves R (stackStart services outside context stackID) h (fun _ => I) I := by
  refine leaves_stackStart_of hI (fun stack endpoint hstored hid _ _ => ?_) hput
  have hstart : (startStack services stack endpoint).Keeps fun h' => I h' ∧ h'.server = h.server :=
    keeps_startStack (hT.and_server _) (hG stack hstored hid)
  exact (Leaves.of_keeps hstart ⟨hI, rfl⟩).conseq (fun _ _ hh' => hh') fun _ he => he.1

theorem leaves_stackStop_of {stackID : StackID} (hI : I h)
    (hstop : ∀ stack endpoint, Stored h stack → stack.id = stackID →
      (stopStack services stack endpoint).Keeps fun h' => I h' ∧ h'.server = h.server)
    (hput : ∀ stack h', Stored h stack → stack.id = stackID → I h' → h'.server = h.server →
      I (putStack { stack with status := .inactive } h')) :
    Leaves R (stackStop services context stackID) h (fun _ => I) I := by
  refine .read_bind (leaves_findStack hI) fun stack ⟨hstored, hid⟩ => ?_
  refine .read_bind (leaves_findEndpoint hI) fun endpoint _ => ?_
  refine .read_bind (leaves_permitEndpoint hI) fun _ _ => ?_
  refine .read_bind (leaves_findResourceControl hI) fun rc _ => ?_
  refine .read_bind (leaves_permitStack hI) fun _ _ => .require_bind hI fun _ => ?_
  refine .bind (leaves_acts hI (hstop stack endpoint hstored hid) fun _ hE => hE) fun _ h' ⟨hI', hserver⟩ => ?_
  refine .bind (leaves_updateStack (Q := fun _ => I) hI' (hput stack h' hstored hid hI' hserver))
    fun _ _ hh' => .pure hh'

theorem leaves_stackStop {stackID : StackID} (hI : I h) (hT : Tolerates I G)
    (hG : ∀ stack, Stored h stack → stack.id = stackID → ∀ a, Deploys stack a → G a)
    (hput : ∀ stack h', Stored h stack → stack.id = stackID → I h' → h'.server = h.server →
      I (putStack { stack with status := .inactive } h')) :
    Leaves R (stackStop services context stackID) h (fun _ => I) I :=
  leaves_stackStop_of hI (fun stack _ hstored hid => keeps_stopStack (hT.and_server _) (hG stack hstored hid)) hput

/-! ## Updates -/

theorem leaves_findForUpdate {stack : Stack} {endpointID : Option EndpointID} {E : Host → Prop}
    (hE : E h) : Leaves R (findForUpdate context stack endpointID) h (fun r h' => h' = h ∧
      r.1 = { stack with endpointID := endpointID.getD 0 } ∧
      h.server.dataStore.endpoint.get? (endpointID.getD 0) = some r.2) E := by
  refine .read_bind (leaves_findEndpoint hE) fun endpoint hendpoint => ?_
  refine .read_bind (leaves_permitEndpoint hE) fun _ _ => ?_
  refine .read_bind (leaves_findResourceControl hE) fun rc _ => ?_
  exact .read_bind (leaves_permitStack hE) fun _ _ => .pure ⟨rfl, rfl, hendpoint⟩

/-- The record that an update stores: the stack on the environment of the
query, with what an update changes. -/
structure Updated (stack : Stack) (endpointID : EndpointID) (stack' : Stack) : Prop where
  id : stack'.id = stack.id
  name : stack'.name = stack.name
  type : stack'.type = stack.type
  endpointID : stack'.endpointID = endpointID
  swarmID : stack'.swarmID = stack.swarmID
  entryPoint : stack'.entryPoint = stack.entryPoint
  projectPath : stack'.projectPath = stack.projectPath

theorem leaves_updateAndDeployStack {stack : Stack} {endpoint : Endpoint}
    {payload : UpdateStackPayload} (hI : I h) (hT : Tolerates I G)
    (hstores : ∀ a, Stores services stack.id stack.entryPoint a → G a)
    (hdeploys : ∀ stack', Updated stack stack.endpointID stack' → stack'.env = payload.env →
      DeploymentKeeps services context h.server endpoint stack' I) :
    Leaves R (updateAndDeployStack services outside context stack endpoint payload) h
      (fun stack' h' => (I h' ∧ h'.server = h.server) ∧ Updated stack stack.endpointID stack') I := by
  refine .read_bind (leaves_invalidPayload hI) fun _ _ => ?_
  refine .bind (leaves_acts hI (keeps_storeStackFileFromBytes (hT.and_server _) hstores)
    fun _ hE => hE) fun _ h₁ ⟨hI₁, hserver₁⟩ => ?_
  refine .read_bind (leaves_createDeployConfig hI₁) fun config ⟨_, hendpoint, huser⟩ => ?_
  rw [hserver₁] at huser
  have hupdated : Updated stack stack.endpointID { stack with
      env := payload.env
      updateDate := outside.now
      updatedBy := config.user.username
      status := .active } := ⟨rfl, rfl, rfl, rfl, rfl, rfl, rfl⟩
  have hdeployed := hdeploys _ hupdated rfl { config with stack := _ } rfl hendpoint huser
  rw [← hserver₁] at hdeployed
  refine .bind (leaves_acts hI₁ hdeployed fun _ hE => hE) fun _ h₂ ⟨hI₂, hserver₂⟩ => ?_
  exact .pure ⟨⟨hI₂, hserver₂.trans hserver₁⟩, hupdated⟩

theorem leaves_stackUpdate_of {stackID : StackID} {endpointID : Option EndpointID}
    {payload : UpdateStackPayload} (hI : I h) (hT : Tolerates I G)
    (hstores : ∀ stack, Stored h stack → stack.id = stackID →
      ∀ a, Stores services stack.id stack.entryPoint a → G a)
    (hdeploys : ∀ stack stack' endpoint, Stored h stack → stack.id = stackID →
      h.server.dataStore.endpoint.get? (endpointID.getD 0) = some endpoint →
      Updated stack (endpointID.getD 0) stack' → stack'.env = payload.env →
        DeploymentKeeps services context h.server endpoint stack' I)
    (hput : ∀ stack stack' endpoint h', Stored h stack → stack.id = stackID →
      h.server.dataStore.endpoint.get? (endpointID.getD 0) = some endpoint →
      Updated stack (endpointID.getD 0) stack' → I h' → h'.server = h.server → I (putStack stack' h')) :
    Leaves R (stackUpdate services outside context stackID endpointID payload) h (fun _ => I) I := by
  refine .read_bind (leaves_findStack hI) fun stack ⟨hstored, hid⟩ => ?_
  refine .read_bind (leaves_findForUpdate hI) fun r ⟨hr, hendpoint⟩ => ?_
  obtain ⟨found, endpoint⟩ := r
  obtain rfl : found = { stack with endpointID := endpointID.getD 0 } := hr
  have hlift : ∀ stack', Updated { stack with endpointID := endpointID.getD 0 } (endpointID.getD 0)
      stack' → Updated stack (endpointID.getD 0) stack' := fun stack' hup =>
    ⟨hup.id, hup.name, hup.type, hup.endpointID, hup.swarmID, hup.entryPoint, hup.projectPath⟩
  refine .bind (leaves_updateAndDeployStack hI hT (hstores stack hstored hid) fun stack' hup =>
    hdeploys stack stack' endpoint hstored hid hendpoint (hlift stack' hup))
    fun stack' h' ⟨⟨hI', hserver⟩, hup⟩ => ?_
  have hdone := hput stack stack' endpoint h' hstored hid hendpoint (hlift stack' hup) hI' hserver
  refine .bind (leaves_updateStack (Q := fun _ => I) hI' hdone) fun _ _ hh' => .pure hh'

theorem leaves_stackUpdate {stackID : StackID} {endpointID : Option EndpointID}
    {payload : UpdateStackPayload} (hI : I h) (hT : Tolerates I G)
    (hstores : ∀ stack, Stored h stack → stack.id = stackID →
      ∀ a, Stores services stack.id stack.entryPoint a → G a)
    (hdeploys : ∀ stack stack', Stored h stack → stack.id = stackID →
      Updated stack (endpointID.getD 0) stack' → ∀ a, Deploys stack' a → G a)
    (hput : ∀ stack stack' endpoint h', Stored h stack → stack.id = stackID →
      h.server.dataStore.endpoint.get? (endpointID.getD 0) = some endpoint →
      Updated stack (endpointID.getD 0) stack' → I h' → h'.server = h.server → I (putStack stack' h')) :
    Leaves R (stackUpdate services outside context stackID endpointID payload) h (fun _ => I) I :=
  leaves_stackUpdate_of hI hT hstores (fun stack stack' _ hstored hid _ hup _ =>
    deploymentKeeps_of_tolerates hT (hdeploys stack stack' hstored hid hup)) hput

/-- The acts that replace the files of a stack by those of its repository. -/
inductive Replaces (repository : List RepositoryFile) (stack : Stack) : Act → Prop
  | backUp : Replaces repository stack (.rename stack.projectPath (backupProjectPath stack))
  | restore : Replaces repository stack (.rename (backupProjectPath stack) stack.projectPath)
  | removeBackup : Replaces repository stack (.removeAll (backupProjectPath stack))
  | clone {a : Act} (ha : Clones stack.id stack.projectPath repository a) : Replaces repository stack a

theorem keeps_replaceProject {stack : Stack} (hT : Tolerates I G)
    (hG : ∀ a, Replaces outside.repository stack a → G a) : (replaceProject outside stack).Keeps I := by
  refine keeps_onError ?_ ?_
  · exact .mapError (keeps_cloneRepository hT fun a ha => hG a (.clone ha))
  · exact .bind (.attempt (keeps_moveDirectory hT (hG _ .restore))) fun _ => .pure

theorem keeps_removeBackup {stack : Stack} (hT : Tolerates I G)
    (hG : G (.removeAll (backupProjectPath stack))) : (removeBackup stack).Keeps I :=
  .bind (.attempt (keeps_perform hT hG)) fun _ => .pure

theorem leaves_defer {α : Type} {last : Handler Host Unit} {x : Handler Host α}
    (hx : Leaves R x h (fun _ => I) I) (hlast : last.Keeps I) :
    Leaves R (Action.defer last x) h (fun _ => I) I := by
  refine .bind (M := fun _ => I) (.attempt (hx.conseq (fun _ _ hh' => hh') fun _ hh' _ => hh'))
    fun r h' hh' => ?_
  exact .bind (.of_keeps hlast hh') fun _ _ hh' => .ofExcept (fun _ _ => hh') hh'

theorem leaves_stackUpdateGit_of {stackID : StackID} {endpointID : Option EndpointID}
    {payload : UpdateStackGitPayload} (hI : I h) (hT : Tolerates I G)
    (hreplaces : ∀ stack, Stored h stack → stack.id = stackID →
      ∀ a, Replaces outside.repository stack a → G a)
    (hdeploys : ∀ stack stack' endpoint, Stored h stack → stack.id = stackID →
      stack.gitConfig.isSome = true →
      h.server.dataStore.endpoint.get? (endpointID.getD 0) = some endpoint →
      Updated stack (endpointID.getD 0) stack' → stack'.env = stack.env →
        DeploymentKeeps services context h.server endpoint stack' I)
    (hput : ∀ stack stack' endpoint h', Stored h stack → stack.id = stackID →
      stack.gitConfig.isSome = true →
      h.server.dataStore.endpoint.get? (endpointID.getD 0) = some endpoint →
      Updated stack (endpointID.getD 0) stack' → I h' → h'.server = h.server → I (putStack stack' h')) :
    Leaves R (stackUpdateGit services outside context stackID endpointID payload) h (fun _ => I) I := by
  refine .read_bind (leaves_findStack hI) fun stack ⟨hstored, hid⟩ => ?_
  refine .read_bind (P := fun _ => stack.gitConfig.isSome = true) (.ofExcept ?_ hI) fun gitConfig hgit => ?_
  · intro gitConfig hgit
    cases hconfig : stack.gitConfig with
    | none => simp [hconfig] at hgit
    | some _ => exact ⟨rfl, rfl⟩
  refine .read_bind (leaves_findForUpdate hI) fun r ⟨hr, hendpoint⟩ => ?_
  obtain ⟨found, endpoint⟩ := r
  obtain rfl : found = { stack with endpointID := endpointID.getD 0 } := hr
  refine .read_bind (leaves_invalidPayload hI) fun _ _ => ?_
  have hrep := hreplaces stack hstored hid
  refine .bind (leaves_acts hI (keeps_moveDirectory (hT.and_server _) (hrep _ .backUp)) fun _ hE => hE)
    fun _ h₁ ⟨hI₁, hserver₁⟩ => ?_
  have hreplace : (replaceProject outside { stack with
      endpointID := endpointID.getD 0
      gitConfig := some { gitConfig with referenceName := payload.repositoryReferenceName } }).Keeps
      fun h' => I h' ∧ h'.server = h.server := by
    refine keeps_replaceProject (hT.and_server _) fun a ha => hrep a ?_
    -- where the files lie does not depend on the environment
    cases ha with
    | backUp => exact .backUp
    | restore => exact .restore
    | removeBackup => exact .removeBackup
    | clone ha => exact .clone ha
  refine .bind ((Leaves.of_keeps hreplace ⟨hI₁, hserver₁⟩).conseq (fun _ _ hh' => hh')
    fun _ hh' => hh'.1) fun _ h₂ ⟨hI₂, hserver₂⟩ => ?_
  refine leaves_defer ?_ (keeps_removeBackup hT (hrep _ .removeBackup))
  have hupdated : ∀ date username, Updated stack (endpointID.getD 0) { stack with
      endpointID := endpointID.getD 0
      gitConfig := some { gitConfig with referenceName := payload.repositoryReferenceName }
      updateDate := date
      updatedBy := username
      status := .active } := fun _ _ => ⟨rfl, rfl, rfl, rfl, rfl, rfl, rfl⟩
  have hplain : Updated stack (endpointID.getD 0) { stack with
      endpointID := endpointID.getD 0
      gitConfig := some { gitConfig with referenceName := payload.repositoryReferenceName } } :=
    ⟨rfl, rfl, rfl, rfl, rfl, rfl, rfl⟩
  refine .bind (M := fun stack' h' => Updated stack (endpointID.getD 0) stack' ∧ I h' ∧
    h'.server = h.server) ?_ fun stack' h₃ ⟨hup, hI₃, hserver₃⟩ => ?_
  · refine .read_bind (leaves_createDeployConfig hI₂) fun config ⟨hstack, hconfig, huser⟩ => ?_
    rw [hserver₂] at huser
    have hdeployed := hdeploys stack _ endpoint hstored hid hgit hendpoint hplain rfl config hstack hconfig huser
    rw [← hserver₂] at hdeployed
    refine .bind (leaves_acts hI₂ hdeployed fun _ hE => hE) fun _ h₃ ⟨hI₃, hserver₃⟩ => ?_
    exact .pure ⟨hupdated _ _, hI₃, hserver₃.trans hserver₂⟩
  · have hdone := hput stack stack' endpoint h₃ hstored hid hgit hendpoint hup hI₃ hserver₃
    exact .bind (leaves_updateStack (Q := fun _ => I) hI₃ hdone) fun _ _ hh' => .pure hh'

theorem leaves_stackUpdateGit {stackID : StackID} {endpointID : Option EndpointID}
    {payload : UpdateStackGitPayload} (hI : I h) (hT : Tolerates I G)
    (hreplaces : ∀ stack, Stored h stack → stack.id = stackID →
      ∀ a, Replaces outside.repository stack a → G a)
    (hdeploys : ∀ stack stack', Stored h stack → stack.id = stackID →
      Updated stack (endpointID.getD 0) stack' → ∀ a, Deploys stack' a → G a)
    (hput : ∀ stack stack' endpoint h', Stored h stack → stack.id = stackID →
      stack.gitConfig.isSome = true →
      h.server.dataStore.endpoint.get? (endpointID.getD 0) = some endpoint →
      Updated stack (endpointID.getD 0) stack' → I h' → h'.server = h.server → I (putStack stack' h')) :
    Leaves R (stackUpdateGit services outside context stackID endpointID payload) h (fun _ => I) I :=
  leaves_stackUpdateGit_of hI hT hreplaces (fun stack stack' _ hstored hid _ _ hup _ =>
    deploymentKeeps_of_tolerates hT (hdeploys stack stack' hstored hid hup)) hput

/-! ## Migration and association -/

theorem leaves_stackMigrate {stackID : StackID} {payload : StackMigratePayload} (hI : I h)
    (hT : Tolerates I G)
    (hdeploys : ∀ stack, Stored h stack → stack.id = stackID →
      ∀ a, Deploys (payload.migrated stack) a ∨ Deploys { payload.migrated stack with name := stack.name } a →
        G a)
    (hput : ∀ stack h', Stored h stack → stack.id = stackID →
      nameTaken services h.server.dataStore.stack.all payload.endpointID (payload.migrated stack).name
        stack.id = false →
      I h' → h'.server = h.server → I (putStack { payload.migrated stack with name := stack.name } h')) :
    Leaves R (stackMigrate services outside context stackID payload) h (fun _ => I) I := by
  refine .read_bind (leaves_invalidPayload hI) fun _ _ => ?_
  refine .read_bind (leaves_findStack hI) fun stack ⟨hstored, hid⟩ => ?_
  refine .read_bind (leaves_findEndpoint hI) fun endpoint _ => ?_
  refine .read_bind (leaves_permitEndpoint hI) fun _ _ => ?_
  refine .read_bind (leaves_findResourceControl hI) fun rc _ => ?_
  refine .read_bind (leaves_permitStack hI) fun _ _ => ?_
  refine .read_bind (leaves_findEndpoint hI) fun target htarget => ?_
  refine .read_bind (leaves_requireUniqueName hI) fun _ hfree => ?_
  have htargetID : target.id = payload.endpointID := Bucket.key_of_get? htarget
  rw [htargetID] at hfree
  have hdep := hdeploys stack hstored hid
  refine .bind (M := fun _ h' => I h' ∧ h'.server = h.server) ?_ fun _ h₁ ⟨hI₁, hserver₁⟩ => ?_
  · refine .read_bind (leaves_createDeployConfig hI) fun config ⟨hstack, _, _⟩ => ?_
    exact leaves_acts hI (keeps_deployAs (hT.and_server _) fun a ha => hdep a (.inl (hstack ▸ ha)))
      fun _ hE => hE
  refine .bind (leaves_acts hI₁ (keeps_deleteStack (hT.and_server _) fun a ha => hdep a (.inr ha))
    fun _ hE => hE) fun _ h₂ ⟨hI₂, hserver₂⟩ => ?_
  have hdone := hput stack h₂ hstored hid hfree hI₂ (hserver₂.trans hserver₁)
  exact .bind (leaves_updateStack (Q := fun _ => I) hI₂ hdone) fun _ _ hh' => .pure hh'

/-- The record that an association stores. -/
structure Associated (stack : Stack) (endpointID : EndpointID) (swarmID : String) (stack' : Stack) :
    Prop where
  id : stack'.id = stack.id
  name : stack'.name = stack.name
  type : stack'.type = stack.type
  endpointID : stack'.endpointID = endpointID
  swarmID : stack'.swarmID = swarmID
  entryPoint : stack'.entryPoint = stack.entryPoint
  projectPath : stack'.projectPath = stack.projectPath

/-- The resource control of the environment and the name of a stack. -/
def controlOf (s : Server) (stack : Stack) : Option ResourceControl :=
  s.dataStore.resourceControlByResourceIDAndType
    (stackResourceControlID stack.endpointID stack.name) .stack

/-- The host once the resource control of a stack has followed it. -/
def withMovedControl (stack : Stack) (endpointID : EndpointID) (rc : Option ResourceControl)
    (h : Host) : Host :=
  rc.elim h fun rc => putControl { rc with resourceID := stackResourceControlID endpointID stack.name } h

theorem leaves_stackAssociate_of {stackID : StackID} {endpointID : EndpointID} {swarmID : String}
    {orphanedRunning : Bool} (hI : I h)
    (hmove : ∀ stack, Stored h stack → stack.id = stackID → ¬ R .databaseWrite →
      I (withMovedControl stack endpointID (controlOf h.server stack) h))
    (hput : ∀ stack stack', Stored h stack → stack.id = stackID →
      Associated stack endpointID swarmID stack' →
      I (putStack stack' (withMovedControl stack endpointID (controlOf h.server stack) h))) :
    Leaves R (stackAssociate outside context stackID endpointID swarmID orphanedRunning) h
      (fun _ => I) I := by
  refine .read_bind (.mapError (leaves_getObject hI)) fun user _ => ?_
  refine .read_bind (leaves_findStack hI) fun stack ⟨hstored, hid⟩ => ?_
  refine .read_bind (leaves_findResourceControl hI) fun rc hrc => ?_
  obtain rfl : rc = controlOf h.server stack := hrc
  have hmoved := hmove stack hstored hid
  refine .bind (M := fun _ h' => h' = withMovedControl stack endpointID (controlOf h.server stack) h)
    ?_ fun _ h' hh' => ?_
  · cases hcontrol : controlOf h.server stack with
    | none => exact .pure rfl
    | some rc => exact .mapError (leaves_write hI)
  · subst hh'
    refine .bind (leaves_updateStack_of (Q := fun _ => I) hmoved
      (hput stack _ hstored hid ⟨rfl, rfl, rfl, rfl, rfl, rfl, rfl⟩)) fun _ _ hh' => .pure hh'

theorem leaves_stackAssociate {stackID : StackID} {endpointID : EndpointID} {swarmID : String}
    {orphanedRunning : Bool} (hI : I h)
    (hmove : ∀ stack, Stored h stack → stack.id = stackID →
      I (withMovedControl stack endpointID (controlOf h.server stack) h))
    (hput : ∀ stack stack', Stored h stack → stack.id = stackID →
      Associated stack endpointID swarmID stack' →
      I (putStack stack' (withMovedControl stack endpointID (controlOf h.server stack) h))) :
    Leaves R (stackAssociate outside context stackID endpointID swarmID orphanedRunning) h
      (fun _ => I) I :=
  leaves_stackAssociate_of hI (fun stack hstored hid _ => hmove stack hstored hid) hput

/-! ## Deletion -/

/-- The host once the resource control of a stack is gone. -/
def withoutControl (rc : Option ResourceControl) (h : Host) : Host :=
  rc.elim h fun rc => dropControl rc.id h

theorem leaves_permitDeletion {endpoint : Endpoint} {resourceControl : Option ResourceControl}
    {isOrphaned : Bool} {E : Host → Prop} (hE : E h) :
    Leaves R (permitDeletion context endpoint resourceControl isOrphaned) h
      (fun _ h' => h' = h ∧ (isOrphaned = false → EndpointOpen h.server context.tokenData endpoint ∧
        StackOpen h.server context.restricted resourceControl)) E := by
  refine .ite (fun hc => .pure ⟨rfl, fun hn => by simp [hn] at hc⟩) fun _ => ?_
  refine .read_bind (leaves_permitEndpoint hE) fun _ hopen => ?_
  exact (leaves_permitStack hE).conseq (fun _ _ hh' => ⟨hh'.1, fun _ => ⟨hopen, hh'.2⟩⟩) fun _ he => he

theorem leaves_stackDelete_of {stackID : StackID} {endpointID : Option EndpointID} (hI : I h)
    (hT : Tolerates I G)
    (hdeploys : ∀ stack, Stored h stack → stack.id = stackID → ∀ a, Deploys stack a → G a)
    (hremove : ∀ stack, Stored h stack → stack.id = stackID → G (.removeAll stack.projectPath))
    (hdrop : ∀ stack h', Stored h stack → stack.id = stackID → I h' → h'.server = h.server →
      (¬ R .databaseWrite → I (dropStack stackID h')) ∧
        I (withoutControl (controlOf h.server stack) (dropStack stackID h'))) :
    Leaves R (stackDelete services context stackID endpointID) h (fun _ => I) I := by
  refine .read_bind (leaves_findStack hI) fun stack ⟨hstored, hid⟩ => .require_bind hI fun _ => ?_
  refine .read_bind (leaves_findEndpoint hI) fun endpoint _ => ?_
  refine .read_bind (leaves_findResourceControl hI) fun rc hrc => ?_
  obtain rfl : rc = controlOf h.server stack := hrc
  refine .read_bind (leaves_permitDeletion hI) fun _ _ => ?_
  refine .bind (leaves_acts hI (keeps_deleteStack (hT.and_server _) (hdeploys stack hstored hid))
    fun _ hE => hE) fun _ h₁ ⟨hI₁, hserver₁⟩ => ?_
  obtain ⟨hdropped, hdone⟩ := hdrop stack h₁ hstored hid hI₁ hserver₁
  refine .bind (.mapError (leaves_write hI₁)) fun _ h₂ hh₂ => ?_
  obtain rfl : h₂ = dropStack stackID h₁ := hh₂
  refine .bind (M := fun _ => I) ?_ fun _ h₃ hI₃ => ?_
  · cases hcontrol : controlOf h.server stack with
    | none =>
      rw [hcontrol] at hdone
      exact .pure hdone
    | some rc =>
      rw [hcontrol] at hdone
      exact .mapError ((leaves_write_of hdropped).conseq (fun _ _ hh' => hh' ▸ hdone) fun _ he => he)
  · exact Leaves.of_keeps (.mapError (keeps_perform hT (hremove stack hstored hid))) hI₃

theorem leaves_stackDelete {stackID : StackID} {endpointID : Option EndpointID} (hI : I h)
    (hT : Tolerates I G)
    (hdeploys : ∀ stack, Stored h stack → stack.id = stackID → ∀ a, Deploys stack a → G a)
    (hremove : ∀ stack, Stored h stack → stack.id = stackID → G (.removeAll stack.projectPath))
    (hdrop : ∀ stack h', Stored h stack → stack.id = stackID → I h' → h'.server = h.server →
      I (dropStack stackID h') ∧ I (withoutControl (controlOf h.server stack) (dropStack stackID h'))) :
    Leaves R (stackDelete services context stackID endpointID) h (fun _ => I) I :=
  leaves_stackDelete_of hI hT hdeploys hremove fun stack h' hstored hid hI' hserver =>
    ⟨fun _ => (hdrop stack h' hstored hid hI' hserver).1, (hdrop stack h' hstored hid hI' hserver).2⟩

theorem leaves_deleteExternalStack {stackName : String} {endpointID : EndpointID} (hI : I h)
    (hT : Tolerates I G) (htake : ∀ endpoint, G (.takeDown
      { id := 0, name := stackName, type := .dockerSwarm, endpointID := 0, entryPoint := [] } endpoint)) :
    Leaves R (deleteExternalStack services context stackName endpointID) h (fun _ => I) I := by
  refine .require_bind hI fun _ => ?_
  refine .read_bind (P := fun _ => True) (.mapError (leaves_read hI (.query ⟨rfl, trivial⟩ rfl)))
    fun found _ => .require_bind hI fun _ => ?_
  refine .read_bind (leaves_findEndpoint hI) fun endpoint _ => ?_
  refine .read_bind (leaves_permitEndpoint hI) fun _ _ => ?_
  exact Leaves.of_keeps
    (.mapError (.ite (fun _ => keeps_takeDown hT (htake _)) fun hc => absurd rfl hc)) hI

/-! ## Reading -/

theorem leaves_findEndpointOrAdmin {stack : Stack} {E : Host → Prop} (hE : E h) :
    Leaves R (findEndpointOrAdmin context stack) h (fun o h' => h' = h ∧
      o = h.server.dataStore.endpoint.get? stack.endpointID ∧
      (o.isSome = true ∨ context.restricted.isAdmin = true)) E := by
  refine .read_bind (.mapError (leaves_read hE (.query ⟨rfl, rfl⟩ rfl))) fun o ho => ?_
  exact .require_bind hE fun hc => .pure ⟨rfl, ho.symm, hc⟩

theorem leaves_permitReading {stack : Stack} {endpoint : Option Endpoint} {E : Host → Prop} (hE : E h) :
    Leaves R (permitReading context stack endpoint) h (fun _ h' => h' = h ∧
      ∀ e, endpoint = some e → EndpointOpen h.server context.tokenData e ∧
        StackOpen h.server context.restricted (controlOf h.server stack)) E := by
  cases endpoint with
  | none => exact .pure ⟨rfl, fun _ he => nomatch he⟩
  | some endpoint =>
    refine .read_bind (leaves_permitEndpoint hE) fun _ hopen => ?_
    refine .read_bind (leaves_findResourceControl hE) fun rc hrc => ?_
    obtain rfl : rc = controlOf h.server stack := hrc
    refine .read_bind (leaves_permitStack hE) fun _ hstack => .pure ⟨rfl, fun e he => ?_⟩
    obtain rfl := Option.some.inj he
    exact ⟨hopen, hstack⟩

theorem leaves_stackInspect {stackID : StackID} (hI : I h) :
    Leaves R (stackInspect context stackID) h (fun _ => I) I := by
  refine .read_bind (leaves_findStack hI) fun stack _ => ?_
  refine .read_bind (leaves_findEndpointOrAdmin hI) fun endpoint _ => ?_
  exact .read_bind (leaves_permitReading hI) fun rc _ => .pure hI

theorem leaves_stackFile {stackID : StackID} (hI : I h) (hT : Tolerates I G)
    (hG : ∀ stack, Stored h stack → stack.id = stackID → ∀ a, Deploys stack a → G a) :
    Leaves R (stackFile context stackID) h (fun _ => I) I := by
  refine .read_bind (leaves_findStack hI) fun stack ⟨hstored, hid⟩ => ?_
  refine .read_bind (leaves_findEndpointOrAdmin hI) fun endpoint _ => ?_
  refine .read_bind (leaves_permitReading hI) fun rc _ => ?_
  exact .of_keeps (.mapError (keeps_getFileContent hT (hG stack hstored hid _ .readStackFile))) hI

/-! ## Handlers behind a check -/

theorem leaves_behind_authenticatedAccess {α β : Type} {token : Option TokenData} {answer : α → β}
    {handler : RequestContext → Handler Host α} (hI : I h)
    (hx : ∀ context, Users.Admitted h.server token context →
      Leaves R (handler context) h (fun _ => I) I) :
    Leaves R (behind (authenticatedAccess token) answer handler) h (fun _ => I) I :=
  .read_bind (leaves_read hI (Users.leaves_authenticatedAccess rfl)) fun context hcontext =>
    (hx context hcontext).bind fun _ _ hh' => .pure hh'

theorem leaves_behind_adminAccess {α β : Type} {token : Option TokenData} {answer : α → β}
    {handler : RequestContext → Handler Host α} (hI : I h)
    (hx : ∀ context, Users.Admitted h.server token context →
      Leaves R (handler context) h (fun _ => I) I) :
    Leaves R (behind (adminAccess token) answer handler) h (fun _ => I) I :=
  .read_bind (leaves_read hI (Users.leaves_adminAccess rfl)) fun context hcontext =>
    (hx context hcontext.1).bind fun _ _ hh' => .pure hh'

end Stacks

end Portainer
