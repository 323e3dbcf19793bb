import Portainer.Common.Leaves
import Portainer.Stacks.Model.Requests
/-!
# What the handlers do on the disk

Every act on the disk is one of a few kinds, on paths that follow from the
stack it is done for. An invariant that tolerates those acts is kept by
whatever does nothing else; what tolerates them is shown act by act, and
never function by function.
-/

namespace Portainer

namespace Stacks

variable {services : Services} {I : Host → Prop} {G : Act → Prop}

/-- The invariant survives the acts of `G`. -/
def Tolerates (I : Host → Prop) (G : Act → Prop) : Prop := ∀ h a, G a → I h → I (h.perform a)

/-- What is said about the server alone survives every act. -/
theorem tolerates_of_server {P : Server → Prop} : Tolerates (fun h => P h.server) G :=
  fun _ _ _ h => h

/-- An act leaves the server as it is. -/
theorem Tolerates.and_server (hI : Tolerates I G) (s : Server) :
    Tolerates (fun h => I h ∧ h.server = s) G :=
  fun h a ha hh => ⟨hI h a ha hh.1, hh.2⟩

/-! ## Single acts -/

theorem keeps_perform (hI : Tolerates I G) {a : Act} (ha : G a) : (perform a).Keeps I :=
  .call fun h => hI h a ha

theorem keeps_modify (hI : Tolerates I G) {a : Act} (ha : G a) :
    (Action.modify (Host.perform a) : Fallible Host Unit).Keeps I :=
  fun _ => .modify fun h => hI h a ha

theorem keeps_getFileContent (hI : Tolerates I G) {stackID : StackID} {path : Path}
    (ha : G (.readFile stackID path)) : (getFileContent stackID path).Keeps I :=
  .bind .lookup fun _ => .bind (keeps_modify hI ha) fun _ => .pure

theorem keeps_createFile (hI : Tolerates I G) {stackID : StackID} {path : Path} {content : String}
    (ho : G (.openFile stackID path)) (hw : G (.writeFile stackID path content)) :
    (createFile stackID path content).Keeps I :=
  .bind (keeps_perform hI ho) fun _ => keeps_perform hI hw

theorem keeps_defer {α : Type} {last : Handler Host Unit} {x : Handler Host α} (hx : x.Keeps I)
    (hlast : last.Keeps I) : (Action.defer last x).Keeps I :=
  .bind (.attempt hx) fun _ => .bind hlast fun _ => .ofExcept

theorem keeps_onError {α : Type} {undo : Handler Host Unit} {x : Handler Host α} (hx : x.Keeps I)
    (hundo : undo.Keeps I) : (Action.onError undo x).Keeps I := by
  refine .bind (.attempt hx) fun r => ?_
  cases r with
  | ok a => exact .pure
  | error e => exact .bind hundo fun _ => .fail

/-! ## Placing files -/

/-- The acts that put a stack file in its place. -/
inductive Stores (services : Services) (stackID : StackID) (fileName : Path) : Act → Prop
  | mkdirAll : Stores services stackID fileName (.mkdirAll
      (Path.join [services.fileStorePath, Path.join ["compose".toList, itoa stackID]]))
  | openFile : Stores services stackID fileName (.openFile stackID (Path.join
      [services.fileStorePath, Path.join [Path.join ["compose".toList, itoa stackID], fileName]]))
  | writeFile {content : String} : Stores services stackID fileName (.writeFile stackID (Path.join
      [services.fileStorePath, Path.join [Path.join ["compose".toList, itoa stackID], fileName]])
      content)

theorem keeps_storeStackFileFromBytes {stackID : StackID} {fileName : Path} {data : String}
    (hI : Tolerates I G) (hG : ∀ a, Stores services stackID fileName a → G a) :
    (storeStackFileFromBytes services stackID fileName data).Keeps I :=
  .bind (keeps_perform hI (hG _ .mkdirAll)) fun _ =>
    .bind (keeps_createFile hI (hG _ .openFile) (hG _ .writeFile)) fun _ => .pure

/-- The acts that clone a repository. -/
inductive Clones (stackID : StackID) (destination : Path) (repository : List RepositoryFile) : Act → Prop
  | mkdirAll : Clones stackID destination repository (.mkdirAll destination)
  | openFile {file : RepositoryFile} (h : file ∈ repository) :
      Clones stackID destination repository (.openFile stackID (Path.join (destination :: file.path)))
  | writeFile {file : RepositoryFile} (h : file ∈ repository) : Clones stackID destination repository
      (.writeFile stackID (Path.join (destination :: file.path)) file.content)

theorem keeps_cloneRepository {stackID : StackID} {destination : Path}
    {repository : List RepositoryFile} (hI : Tolerates I G)
    (hG : ∀ a, Clones stackID destination repository a → G a) :
    (cloneRepository stackID destination repository).Keeps I :=
  .bind .query fun _ => .bind (keeps_perform hI (hG _ .mkdirAll)) fun _ =>
    .forM fun _ hf => keeps_createFile hI (hG _ (.openFile hf)) (hG _ (.writeFile hf))

theorem keeps_moveDirectory {old new : Path} (hI : Tolerates I G) (ha : G (.rename old new)) :
    (moveDirectory old new).Keeps I :=
  .bind .query fun _ => .bind .require fun _ => .bind .query fun _ => .bind .require fun _ =>
    keeps_perform hI ha

theorem keeps_cleanUp {stack : Stack} (hI : Tolerates I G) (ha : G (.removeAll stack.projectPath)) :
    (cleanUp stack).Keeps I :=
  .bind (.attempt (keeps_perform hI ha)) fun _ => .pure

/-! ## Deploying -/

/-- The acts of the managers, and of the check of the stack file. -/
inductive Deploys (stack : Stack) : Act → Prop
  | readStackFile : Deploys stack (.readFile stack.id (stackFilePath stack))
  | readEnv : Deploys stack (.readFile stack.id (Path.join [stack.projectPath, ".env".toList]))
  | openEnv : Deploys stack (.openFile stack.id (Path.join [stack.projectPath, "stack.env".toList]))
  | writeEnv {content : String} : Deploys stack
      (.writeFile stack.id (Path.join [stack.projectPath, "stack.env".toList]) content)
  | deploy {endpoint : Endpoint} {prune : Bool} {content : String} :
      Deploys stack (.deploy stack endpoint prune content)
  | takeDown {endpoint : Endpoint} : Deploys stack (.takeDown stack endpoint)

variable {stack : Stack} {endpoint : Endpoint} {config : DeploymentConfig}

theorem keeps_handOver {prune : Bool} (hI : Tolerates I G) (hG : ∀ a, Deploys stack a → G a) :
    (handOver stack endpoint prune).Keeps I :=
  .bind (keeps_getFileContent hI (hG _ .readStackFile)) fun _ =>
    .bind (keeps_modify hI (hG _ .deploy)) fun _ => .call fun _ h => h

theorem keeps_connect : (connect services endpoint).Keeps I := by
  unfold connect fetchEndpointProxy
  split
  · exact .ite (fun _ => .pure) fun _ => .call fun _ h => h
  · exact .call fun _ h => h

theorem keeps_writeEnv (hI : Tolerates I G) {stackID : StackID} {path : Path} {content : String} {env : List Pair}
    (hw : ∀ content, G (.writeFile stackID path content)) : (writeEnv stackID path content env).Keeps I := by
  induction env generalizing content with
  | nil => exact .pure
  | cons v env ih =>
    refine .bind (.attempt (keeps_perform hI (hw _))) fun written => ?_
    cases written with
    | ok u => exact ih
    | error e => exact ih

theorem keeps_createEnvFile (hI : Tolerates I G)
    (ho : G (.openFile stack.id (Path.join [stack.projectPath, "stack.env".toList])))
    (hw : ∀ content, G (.writeFile stack.id (Path.join [stack.projectPath, "stack.env".toList]) content)) :
    (createEnvFile stack).Keeps I :=
  .ite (fun _ => .pure) fun _ => .bind (keeps_perform hI ho) fun _ => keeps_writeEnv hI hw

theorem keeps_prepareEnv (hI : Tolerates I G) (hG : ∀ a, Deploys stack a → G a) :
    (prepareEnv services stack).Keeps I := by
  unfold prepareEnv
  split
  · exact keeps_createEnvFile hI (hG _ .openEnv) fun _ => hG _ .writeEnv
  · exact .bind (.attempt (keeps_getFileContent hI (hG _ .readEnv))) fun _ => .pure

theorem keeps_composeUp (hI : Tolerates I G) (hG : ∀ a, Deploys stack a → G a) :
    (composeUp services stack endpoint).Keeps I :=
  .bind keeps_connect fun _ => .bind (keeps_prepareEnv hI hG) fun _ => keeps_handOver hI hG

theorem keeps_takeDown (hI : Tolerates I G) (ha : G (.takeDown stack endpoint)) :
    (takeDown stack endpoint).Keeps I :=
  .bind (keeps_modify hI ha) fun _ => .call fun _ h => h

theorem keeps_composeDown (hI : Tolerates I G) (hG : ∀ a, Deploys stack a → G a) :
    (composeDown services stack endpoint).Keeps I :=
  .bind keeps_connect fun _ => .bind (keeps_getFileContent hI (hG _ .readStackFile)) fun _ =>
    keeps_takeDown hI (hG _ .takeDown)

theorem keeps_deleteStack (hI : Tolerates I G) (hG : ∀ a, Deploys stack a → G a) :
    (deleteStack services stack endpoint).Keeps I :=
  .ite (fun _ => keeps_takeDown hI (hG _ .takeDown)) fun _ => keeps_composeDown hI hG

theorem keeps_startStack (hI : Tolerates I G) (hG : ∀ a, Deploys stack a → G a) :
    (startStack services stack endpoint).Keeps I := by
  unfold startStack
  split
  · exact keeps_composeUp hI hG
  · exact keeps_handOver hI hG
  · exact .pure

theorem keeps_stopStack (hI : Tolerates I G) (hG : ∀ a, Deploys stack a → G a) :
    (stopStack services stack endpoint).Keeps I := by
  unfold stopStack
  split
  · exact keeps_composeDown hI hG
  · exact keeps_takeDown hI (hG _ .takeDown)
  · exact .pure

theorem keeps_login {registries : List Registry} : (login registries).Keeps I :=
  .forM fun _ _ => .bind (.attempt (.call fun _ h => h)) fun _ => .pure

theorem keeps_checkStackFile {checked : Bool} (hI : Tolerates I G)
    (hG : ∀ a, Deploys config.stack a → G a) : (checkStackFile services checked config).Keeps I :=
  .ite (fun _ => .bind (keeps_getFileContent hI (hG _ .readStackFile)) fun _ => .ofExcept)
    fun _ => .pure

/-- **Deploying does the acts of the managers only.** -/
theorem keeps_deployAs {type : StackType} (hI : Tolerates I G)
    (hG : ∀ a, Deploys config.stack a → G a) : (deployAs services type config).Keeps I := by
  unfold deployAs
  refine .ite (fun _ => ?_) fun _ => ?_
  · exact .bind (keeps_checkStackFile hI hG) fun _ => .bind keeps_login fun _ =>
      .bind (keeps_handOver hI hG) fun _ => .call fun _ h => h
  · exact .bind (keeps_checkStackFile hI hG) fun _ => .bind keeps_login fun _ =>
      .bind (keeps_composeUp hI hG) fun _ => .call fun _ h => h

theorem keeps_deployKubernetesStack {outside : Outside} {stackConfig : String} {composeFormat : Bool} :
    (deployKubernetesStack outside stackConfig composeFormat).Keeps I :=
  .bind (.ite (fun _ => .query) fun _ => .pure) fun _ => .query

end Stacks

end Portainer
