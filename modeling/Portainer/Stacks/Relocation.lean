import Portainer.Stacks.Helpers.Handlers
/-!
# Migration — the record and what runs

A migration deploys the stack on the environment it is moved to, under its
new name if it is given one, and then takes it down where it was. It is
taken down under the old name, and the record is stored with the old name
too. `leaves_stackMigrate_operations` says what a migration hands to the
managers, and `migration_iff` when the record names what runs after it.
-/

namespace Portainer

open Action (Leaves)

namespace Stacks

variable {services : Services} {outside : Outside} {R : Callee → Prop} {h h' : Host}
variable {context : RequestContext} {stack : Stack} {endpoint : Endpoint} {payload : StackMigratePayload}

/-! ## Deployments -/

/-- What is handed to a manager, as opposed to what is done on the disk. -/
def Act.isOperation : Act → Bool
  | .deploy _ _ _ _ => true
  | .takeDown _ _ => true
  | _ => false

/-- The operations of the managers, in order. -/
def Host.operations (h : Host) : List Act := h.history.filter Act.isOperation

/-- What an operation makes of the deployment on an environment under a
name. -/
def onDeployment (endpointID : EndpointID) (name : String) (running : Option Stack) : Act → Option Stack
  | .deploy stack endpoint _ _ => if endpoint.id = endpointID ∧ stack.name = name then some stack else running
  | .takeDown stack endpoint => if endpoint.id = endpointID ∧ stack.name = name then none else running
  | _ => running

/-- **The stack that operations leave running** on an environment under a
name. -/
def deployed (endpointID : EndpointID) (name : String) (operations : List Act) : Option Stack :=
  operations.foldl (onDeployment endpointID name) none

/-- **The record names what runs**: what was done since leaves a deployment on
the environment of the record under its name, made with its environment and
its cluster. -/
def RecordsWhatRuns (stackID : StackID) (h h' : Host) : Prop :=
  ∃ stack operations running, h'.server.dataStore.stack.get? stackID = some stack ∧
    h'.operations = h.operations ++ operations ∧
    deployed stack.endpointID stack.name operations = some running ∧
    running.endpointID = stack.endpointID ∧ running.swarmID = stack.swarmID

/-! ## Acts that are no operations -/

/-- The host has had no operation. -/
def Quiet (h h' : Host) : Prop := h'.operations = h.operations ∧ h'.server = h.server

theorem tolerates_quiet : Tolerates (Quiet h) (fun a => a.isOperation = false) := by
  rintro h' a ha ⟨hoperations, hserver⟩
  refine ⟨?_, hserver⟩
  unfold Host.operations Host.perform
  rw [List.filter_append, List.filter_cons_of_neg (by rw [ha]; nofun), List.filter_nil, List.append_nil]
  exact hoperations

theorem Quiet.trans {h'' : Host} (hq : Quiet h h') (hq' : Quiet h' h'') : Quiet h h'' :=
  ⟨hq'.1.trans hq.1, hq'.2.trans hq.2⟩

/-- An operation is added to those before. -/
theorem operations_perform {a : Act} (ha : a.isOperation = true) :
    (h.perform a).operations = h.operations ++ [a] := by
  unfold Host.operations Host.perform
  rw [List.filter_append, List.filter_cons_of_pos ha, List.filter_nil]

/-- What a function leaves that does no operation. -/
theorem leaves_quiet {ε α : Type} {x : Action Callee Host ε α}
    (hx : ∀ h, x.Keeps (Quiet h)) : Leaves R x h (fun _ => Quiet h) fun h' => h'.server = h.server :=
  (Leaves.of_keeps (hx h) ⟨rfl, rfl⟩).conseq (fun _ _ hq => hq) fun _ hq => hq.2

theorem keeps_quiet_checkStackFile {checked : Bool} {config : DeploymentConfig} :
    (checkStackFile services checked config).Keeps (Quiet h) :=
  .ite (fun _ => .bind (keeps_getFileContent tolerates_quiet rfl) fun _ => .ofExcept) fun _ => .pure

theorem keeps_quiet_prepareEnv : (prepareEnv services stack).Keeps (Quiet h) := by
  unfold prepareEnv
  split
  · exact keeps_createEnvFile tolerates_quiet rfl fun _ => rfl
  · exact .bind (.attempt (keeps_getFileContent tolerates_quiet rfl)) fun _ => .pure

/-! ## The operations of a migration -/

/-- The host once a stack was deployed. -/
def Deployed (stack : Stack) (endpoint : Endpoint) (h h' : Host) : Prop :=
  (∃ prune content, h'.operations = h.operations ++ [.deploy stack endpoint prune content]) ∧
    h'.server = h.server

theorem Deployed.of_quiet {h'' : Host} (hq : Quiet h h') (hd : Deployed stack endpoint h' h'') :
    Deployed stack endpoint h h'' := by
  obtain ⟨⟨prune, content, hoperations⟩, hserver⟩ := hd
  exact ⟨⟨prune, content, by rw [hoperations, hq.1]⟩, hserver.trans hq.2⟩

theorem leaves_handOver {prune : Bool} : Leaves R (handOver stack endpoint prune) h
    (fun _ => Deployed stack endpoint h) fun h' => h'.server = h.server := by
  refine .bind (leaves_quiet fun _ => keeps_getFileContent tolerates_quiet rfl) fun content h₁ hq => ?_
  refine .bind (M := fun _ => Deployed stack endpoint h) (.modify ?_) fun _ h₂ hd => ?_
  · rintro _ rfl
    exact ⟨⟨prune, content, by rw [operations_perform rfl, hq.1]⟩, hq.2⟩
  · exact .call hd hd.2

/-- What has no operation comes first. -/
theorem leaves_of_quiet {ε α β : Type} {x : Action Callee Host ε α} {f : α → Action Callee Host ε β}
    (hx : ∀ h, x.Keeps (Quiet h)) (hf : ∀ a h', Leaves R (f a) h' (fun _ => Deployed stack endpoint h')
      fun h'' => h''.server = h'.server) :
    Leaves R (x >>= f) h (fun _ => Deployed stack endpoint h) fun h' => h'.server = h.server := by
  refine .bind (leaves_quiet hx) fun a h' hq => ?_
  exact (hf a h').conseq (fun _ _ hd => hd.of_quiet hq) fun _ hserver => hserver.trans hq.2

/-- What follows a deployment logs out. -/
theorem leaves_logout {x : Fallible Host Unit} (hx : Leaves R x h (fun _ => Deployed stack endpoint h)
    fun h' => h'.server = h.server) : Leaves R (x >>= fun _ => logout) h
      (fun _ => Deployed stack endpoint h) fun h' => h'.server = h.server :=
  .bind hx fun _ _ hd => .call hd hd.2

/-- **A deployment** is one operation, and leaves the database as it is. -/
theorem leaves_deployAs {type : StackType} {config : DeploymentConfig} :
    Leaves R (deployAs services type config) h (fun _ => Deployed config.stack config.endpoint h)
      fun h' => h'.server = h.server := by
  unfold deployAs
  refine .ite (fun _ => ?_) fun _ => ?_
  · refine leaves_of_quiet (fun _ => keeps_quiet_checkStackFile) fun _ _ => ?_
    refine leaves_of_quiet (fun _ => keeps_login) fun _ _ => ?_
    exact leaves_logout leaves_handOver
  · refine leaves_of_quiet (fun _ => keeps_quiet_checkStackFile) fun _ _ => ?_
    refine leaves_of_quiet (fun _ => keeps_login) fun _ _ => leaves_logout ?_
    refine leaves_of_quiet (fun _ => keeps_connect) fun _ _ => ?_
    exact leaves_of_quiet (fun _ => keeps_quiet_prepareEnv) fun _ _ => leaves_handOver

/-- The host once a stack was taken down. -/
def TakenDown (stack : Stack) (endpoint : Endpoint) (h h' : Host) : Prop :=
  h'.operations = h.operations ++ [.takeDown stack endpoint] ∧ h'.server = h.server

theorem leaves_takeDown : Leaves R (takeDown stack endpoint) h (fun _ => TakenDown stack endpoint h)
    fun h' => h'.server = h.server := by
  refine .bind (M := fun _ => TakenDown stack endpoint h) (.modify ?_) fun _ _ ht => .call ht ht.2
  rintro _ rfl
  exact ⟨operations_perform rfl, rfl⟩

/-- **Taking a stack down** is one operation, and leaves the database as it
is. -/
theorem leaves_deleteStack : Leaves R (deleteStack services stack endpoint) h
    (fun _ => TakenDown stack endpoint h) fun h' => h'.server = h.server := by
  refine .ite (fun _ => leaves_takeDown) fun _ => ?_
  refine .bind (leaves_quiet fun _ => keeps_connect) fun _ h₁ hq₁ => ?_
  refine .bind ((leaves_quiet fun _ => keeps_getFileContent tolerates_quiet rfl).conseq (fun _ _ hq => hq)
    fun _ hserver => hserver.trans hq₁.2) fun _ h₂ hq₂ => ?_
  have hq : Quiet h h₂ := hq₁.trans hq₂
  exact leaves_takeDown.conseq (fun _ _ ht => ⟨by rw [ht.1, hq.1], ht.2.trans hq.2⟩) fun _ hserver =>
    hserver.trans hq.2

/-- The record that a migration stores: with the old name. -/
def StackMigratePayload.recorded (payload : StackMigratePayload) (stack : Stack) : Stack :=
  { payload.migrated stack with name := stack.name }

/-- What a migration leaves where it succeeds: the stack is deployed with its
new name, taken down with its old one, and recorded. -/
structure Migrated (payload : StackMigratePayload) (stackID : StackID) (stack : Stack) (h h' : Host) : Prop where
  stored : h.server.dataStore.stack.get? stackID = some stack
  operations : ∃ target prune content endpoint, target.id = payload.endpointID ∧ endpoint.id = stack.endpointID ∧
    h'.operations = h.operations ++ [.deploy (payload.migrated stack) target prune content,
      .takeDown (payload.recorded stack) endpoint]
  server : h'.server = Server.stack.change (·.put (payload.recorded stack)) h.server

/-- **What a migration does**: where it fails the database is as it was. -/
theorem leaves_stackMigrate_operations {stackID : StackID} :
    Leaves R (stackMigrate services outside context stackID payload) h
      (fun _ h' => ∃ stack, Migrated payload stackID stack h h') fun h' => h'.server = h.server := by
  refine .read_bind (leaves_invalidPayload rfl) fun _ _ => ?_
  refine .read_bind (leaves_findStack rfl) fun stack ⟨hstored, hid⟩ => ?_
  refine .read_bind (leaves_findEndpoint rfl) fun endpoint hendpoint => ?_
  refine .read_bind (leaves_permitEndpoint rfl) fun _ _ => ?_
  refine .read_bind (leaves_findResourceControl rfl) fun rc _ => ?_
  refine .read_bind (leaves_permitStack rfl) fun _ _ => ?_
  refine .read_bind (leaves_findEndpoint rfl) fun target htarget => ?_
  refine .read_bind (leaves_requireUniqueName rfl) fun _ _ => ?_
  refine .bind (M := fun _ => Deployed (payload.migrated stack) target h) ?_ fun _ h₁ hd => ?_
  · refine .read_bind (leaves_createDeployConfig rfl) fun config ⟨hstack, htarget', _⟩ => ?_
    rw [← hstack, ← htarget']
    exact .mapError leaves_deployAs
  obtain ⟨⟨prune, content, hoperations⟩, hserver⟩ := hd
  refine .bind (.mapError (leaves_deleteStack.conseq (fun _ _ ht => ht) fun _ hserver' => hserver'.trans hserver))
    fun _ h₂ ht => ?_
  have hserver₂ : h₂.server = h.server := ht.2.trans hserver
  refine .bind (leaves_updateStack (Q := fun _ h' => h' = putStack (payload.recorded stack) h₂) hserver₂ rfl)
    fun _ h₃ hput => .pure ⟨stack, ?_⟩
  subst hput
  refine ⟨?_, ⟨target, prune, content, endpoint, Bucket.key_of_get? htarget, Bucket.key_of_get? hendpoint, ?_⟩, ?_⟩
  · rw [← hid]
    exact hstored
  · have hhistory : (putStack (payload.recorded stack) h₂).operations = h₂.operations := rfl
    rw [hhistory, ht.1, hoperations, List.append_assoc]
    rfl
  · exact congrArg (Server.stack.change (·.put (payload.recorded stack))) hserver₂

/-! ## When the record names what runs -/

/-- **The record names what runs** exactly if the name stayed and the
environment changed. -/
theorem Migrated.recordsWhatRuns_iff {stackID : StackID} (hm : Migrated payload stackID stack h h') :
    RecordsWhatRuns stackID h h' ↔
      (payload.name = "" ∨ payload.name = stack.name) ∧ payload.endpointID ≠ stack.endpointID := by
  obtain ⟨target, prune, content, endpoint, htarget, hendpoint, hoperations⟩ := hm.operations
  have hid : stack.id = stackID := Bucket.key_of_get? hm.stored
  have hrecord : h'.server.dataStore.stack.get? stackID = some (payload.recorded stack) := by
    rw [hm.server, ← hid]
    exact Bucket.get?_put_self
  have hname : (payload.migrated stack).name = stack.name ↔ payload.name = "" ∨ payload.name = stack.name := by
    unfold StackMigratePayload.migrated
    by_cases hnone : payload.name = ""
    · simp [hnone]
    · simp [hnone]
  have hrunning : deployed (payload.recorded stack).endpointID (payload.recorded stack).name
      [.deploy (payload.migrated stack) target prune content, .takeDown (payload.recorded stack) endpoint] =
      if stack.endpointID = payload.endpointID then none
      else if (payload.migrated stack).name = stack.name then some (payload.migrated stack) else none := by
    simp only [deployed, List.foldl_cons, List.foldl_nil, onDeployment, htarget, hendpoint]
    simp [StackMigratePayload.recorded, StackMigratePayload.migrated]
  constructor
  · rintro ⟨record, operations, running, hrecord', hoperations', hdeployed, -, -⟩
    obtain rfl : payload.recorded stack = record := Option.some.inj (hrecord.symm.trans hrecord')
    obtain rfl := List.append_cancel_left (hoperations.symm.trans hoperations')
    rw [hrunning] at hdeployed
    by_cases hsame : stack.endpointID = payload.endpointID
    · rw [if_pos hsame] at hdeployed
      cases hdeployed
    · rw [if_neg hsame] at hdeployed
      by_cases hkept : (payload.migrated stack).name = stack.name
      · exact ⟨hname.mp hkept, Ne.symm hsame⟩
      · rw [if_neg hkept] at hdeployed
        cases hdeployed
  · rintro ⟨hkept, hmoved⟩
    refine ⟨_, _, payload.migrated stack, hrecord, hoperations, ?_, rfl, rfl⟩
    rw [hrunning, if_neg (Ne.symm hmoved), if_pos (hname.mpr hkept)]

/-- **A migration records what runs if and only if it keeps the name and
changes the environment**, and one that fails leaves the database as it was:
for every host, every answer of the calls and every request. -/
theorem migration_iff {stackID : StackID} {w w' : Sys Callee Host} :
    (∀ record, (stackMigrate services outside context stackID payload).run w = (.ok record, w') →
      ∃ stack, w.store.server.dataStore.stack.get? stackID = some stack ∧
        (RecordsWhatRuns stackID w.store w'.store ↔
          (payload.name = "" ∨ payload.name = stack.name) ∧ payload.endpointID ≠ stack.endpointID)) ∧
    ∀ e, (stackMigrate services outside context stackID payload).run w = (.error e, w') →
      w'.store.server = w.store.server := by
  obtain ⟨hend, -⟩ := leaves_stackMigrate_operations (R := fun _ => False) w (fun _ hk => hk.elim) rfl
  refine ⟨fun record hrun => ?_, fun e hrun => ?_⟩
  · rw [hrun] at hend
    obtain ⟨stack, hm⟩ := hend
    exact ⟨stack, hm.stored, hm.recordsWhatRuns_iff⟩
  · rw [hrun] at hend
    exact hend

/-- A Compose stack called blog. -/
def blog : Stack where
  id := 1
  name := "blog"
  type := .dockerCompose
  endpointID := 1
  entryPoint := composeFileDefaultName
  projectPath := plainServices.getStackProjectPath (itoa 1)

/-- Two local environments, with the stack on the first. -/
def blogHost : Host where
  server := {
    dataStore := {
      user := ({} : Bucket User).put { id := 1, username := "admin", role := .administrator }
      endpoint := (({} : Bucket Endpoint).put { id := 1, url := "unix:///run/docker.sock" }).put
        { id := 2, url := "unix:///run/docker.sock" }
      stack := ({} : Bucket Stack).put blog } }
  fileSystem := { files := fun l => if l = Path.locate (stackFilePath blog) then some "services:" else none }

/-- The administrator. -/
def blogContext : RequestContext where
  tokenData := ⟨1, "admin", .administrator⟩
  restricted := { isAdmin := true, userID := 1 }

/-- The administrator migrates the stack to the second environment. -/
def migrateBlog (name : String) : Handler Host Stack :=
  stackMigrate plainServices {} blogContext 1 { endpointID := 2, name := name }

theorem migration_iff_blog : ∃ record w', (migrateBlog "").run (.faultless blogHost) = (.ok record, w') ∧
    RecordsWhatRuns 1 blogHost w'.store := by
  obtain ⟨record, w', hrun⟩ : ∃ record w', (migrateBlog "").run (.faultless blogHost) = (.ok record, w') :=
    ⟨_, _, rfl⟩
  refine ⟨record, w', hrun, ?_⟩
  obtain ⟨stack, hstored, hiff⟩ := migration_iff.1 record hrun
  obtain rfl : blog = stack := Option.some.inj hstored
  exact hiff.mpr (by decide)

/-- **Under a new name** the stack is recorded with the old one. -/
theorem not_recordsWhatRuns : ¬ ∀ (w w' : Sys Callee Host) (record : Stack),
    (migrateBlog "journal").run w = (.ok record, w') → RecordsWhatRuns 1 w.store w'.store := by
  intro h
  obtain ⟨record, w', hrun⟩ : ∃ record w', (migrateBlog "journal").run (.faultless blogHost) = (.ok record, w') :=
    ⟨_, _, rfl⟩
  have hrecords := h _ w' record hrun
  obtain ⟨stack, hm⟩ := leaves_stackMigrate_operations.ensures _ _ _ rfl hrun
  obtain rfl : blog = stack := Option.some.inj hm.stored
  exact absurd (hm.recordsWhatRuns_iff.mp hrecords) (by decide)

end Stacks

end Portainer
