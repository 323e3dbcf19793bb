import Portainer.Common.Alike
import Portainer.Stacks.Helpers.Disks
/-!
# Differences — runs on disks that are not the same

Two hosts that agree except for some files and some directories. What a
handler does not read makes no difference to its run, and a file that it
opens for writing is the same on both from then on. Every part of a handler
is gone through once here, with the places that it reads.
-/

namespace Portainer

open Path (locate join Location)

namespace Stacks

variable {services : Services} {T U : Location → Prop} {h h' : Host}

/-- **Two hosts that agree** except for the files of `T` and the directories
of `U`. -/
structure AgreeOff (T U : Location → Prop) (h h' : Host) : Prop where
  server : h'.server = h.server
  history : h'.history = h.history
  files : ∀ k, ¬ T k → h'.fileSystem.files k = h.fileSystem.files k
  directories : ∀ k, ¬ U k → h'.fileSystem.directories k = h.fileSystem.directories k

namespace AgreeOff

theorem eq (ha : AgreeOff T U h h') (hT : ∀ k, ¬ T k) (hU : ∀ k, ¬ U k) : h = h' := by
  obtain ⟨server, ⟨files, directories⟩, history⟩ := h
  obtain ⟨server', ⟨files', directories'⟩, history'⟩ := h'
  obtain rfl : server' = server := ha.server
  obtain rfl : history' = history := ha.history
  obtain rfl : files' = files := funext fun k => ha.files k (hT k)
  obtain rfl : directories' = directories := funext fun k => ha.directories k (hU k)
  rfl

theorem mono {T' U' : Location → Prop} (ha : AgreeOff T U h h') (hT : ∀ k, T k → T' k)
    (hU : ∀ k, U k → U' k) : AgreeOff T' U' h h' :=
  ⟨ha.server, ha.history, fun k hk => ha.files k fun hT' => hk (hT k hT'),
    fun k hk => ha.directories k fun hU' => hk (hU k hU')⟩

/-- A file that is written is the same from then on. -/
theorem write (ha : AgreeOff T U h h') {a : Act} {path : Path} {content : String}
    (hdisk : ∀ fs, a.onDisk fs = fs.write (locate path) content) :
    AgreeOff (fun k => T k ∧ k ≠ locate path) U (h.perform a) (h'.perform a) := by
  refine ⟨ha.server, by simp [Host.perform, ha.history], fun k hk => ?_, fun k hk => ?_⟩
  · simp only [Host.perform, hdisk, FileSystem.write]
    split
    · rfl
    · rename_i hne
      exact ha.files k fun hT => hk ⟨hT, hne⟩
  · simp only [Host.perform, hdisk, FileSystem.write]
    exact ha.directories k hk

/-- **An act does the same to both.** A difference is moved along with the
directory that it is in. -/
theorem perform (ha : AgreeOff T U h h') {a : Act}
    (hmove : ∀ old new, a = .rename old new → ∀ l,
      (T ((locate old).under l) → T ((locate new).under l)) ∧
      (U ((locate old).under l) → U ((locate new).under l))) :
    AgreeOff T U (h.perform a) (h'.perform a) := by
  have hplain : (∀ fs, a.onDisk fs = fs) → AgreeOff T U (h.perform a) (h'.perform a) := by
    intro hdisk
    refine ⟨ha.server, by simp [Host.perform, ha.history], ?_, ?_⟩ <;>
      simp only [Host.perform, hdisk]
    · exact ha.files
    · exact ha.directories
  cases a with
  | readFile | deploy | takeDown => exact hplain fun _ => rfl
  | openFile | writeFile =>
    exact (ha.write fun _ => rfl).mono (fun _ hk => hk.1) fun _ hk => hk
  | mkdirAll path =>
    refine ⟨ha.server, by simp [Host.perform, ha.history], ha.files, fun k hk => ?_⟩
    simp [Host.perform, Act.onDisk, FileSystem.mkdirAll, ha.directories k hk]
  | removeAll path =>
    refine ⟨ha.server, by simp [Host.perform, ha.history], fun k hk => ?_, fun k hk => ?_⟩
    · simp [Host.perform, Act.onDisk, FileSystem.removeAll, ha.files k hk]
    · simp [Host.perform, Act.onDisk, FileSystem.removeAll, ha.directories k hk]
  | rename old new =>
    have hmove := hmove old new rfl
    have hback : ∀ k, Path.Inside (locate new) k → ∃ l, k = (locate new).under l ∧
        (⟨(locate old).rooted, (locate old).elements ++ k.elements.drop (locate new).elements.length⟩ :
          Location) = (locate old).under l := by
      intro k hk
      obtain ⟨l, rfl⟩ := Path.inside_iff.mp hk
      refine ⟨l, rfl, ?_⟩
      simp [Location.under]
    refine ⟨ha.server, by simp [Host.perform, ha.history], fun k hk => ?_, fun k hk => ?_⟩
    · simp only [Host.perform, Act.onDisk, FileSystem.rename]
      split
      · rename_i hin
        obtain ⟨l, rfl, hl⟩ := hback k hin
        rw [hl]
        exact ha.files _ fun hT => hk ((hmove l).1 hT)
      · rw [ha.files k hk]
    · simp only [Host.perform, Act.onDisk, FileSystem.rename]
      split
      · rename_i hin
        obtain ⟨l, rfl, hl⟩ := hback k hin
        rw [hl]
        exact ha.directories _ fun hU => hk ((hmove l).2 hU)
      · rw [ha.directories k hk]

end AgreeOff

/-! ## Single acts -/

theorem respects_onServer {ε α : Type} {x : Action Callee Server ε α} :
    (onServer x).Respects (AgreeOff T U) := by
  refine .zoom (fun _ _ ha => ha.server.symm) fun _ _ _ ha => ?_
  exact ⟨rfl, ha.history, ha.files, ha.directories⟩

theorem respects_perform {a : Act} (hmove : ∀ old new, a ≠ .rename old new) :
    (perform a).Respects (AgreeOff T U) :=
  .call fun _ _ ha => ha.perform fun old new heq => absurd heq (hmove old new)

theorem respects_modify {ε : Type} {a : Act} (hmove : ∀ old new, a ≠ .rename old new) :
    (Action.modify (Host.perform a) : Action Callee Host ε Unit).Respects (AgreeOff T U) :=
  .modify fun _ _ ha => ha.perform fun old new heq => absurd heq (hmove old new)

theorem respects_getFileContent {stackID : StackID} {path : Path} (hpath : ¬ T (locate path)) :
    (getFileContent stackID path).Respects (AgreeOff T U) := by
  refine .bind (.lookup fun _ _ ha => (ha.files _ hpath).symm) fun content => ?_
  exact .bind (respects_modify fun _ _ => nofun) fun _ => .pure

theorem respects_createFile {stackID : StackID} {path : Path} {content : String} :
    (createFile stackID path content).Respects (AgreeOff T U) :=
  .bind (respects_perform fun _ _ => nofun) fun _ => respects_perform fun _ _ => nofun

theorem respects_moveDirectory {old new : Path} (hold : ¬ T (locate old) ∧ ¬ U (locate old))
    (hnew : ¬ T (locate new) ∧ ¬ U (locate new))
    (hmove : ∀ l, (T ((locate old).under l) → T ((locate new).under l)) ∧
      (U ((locate old).under l) → U ((locate new).under l))) :
    (moveDirectory old new).Respects (AgreeOff T U) := by
  have hexists : ∀ path, ¬ T (locate path) ∧ ¬ U (locate path) → ∀ h h', AgreeOff T U h h' →
      h.fileSystem.exists? (locate path) = h'.fileSystem.exists? (locate path) := by
    intro path hpath h h' ha
    unfold FileSystem.exists?
    rw [ha.files _ hpath.1, ha.directories _ hpath.2]
  refine .bind (.query (hexists old hold)) fun found => .bind .require fun _ => ?_
  refine .bind (.query (hexists new hnew)) fun found => .bind .require fun _ => .call fun _ _ ha => ?_
  refine ha.perform fun old' new' heq => ?_
  obtain ⟨rfl, rfl⟩ := Act.rename.inj heq
  exact hmove

theorem respects_cloneRepository {stackID : StackID} {destination : Path}
    {repository : List RepositoryFile} :
    (cloneRepository stackID destination repository).Respects (AgreeOff T U) := by
  refine .bind (.query fun _ _ _ => rfl) fun _ => .bind (respects_perform fun _ _ => nofun) fun _ => ?_
  exact .forM fun _ _ => respects_createFile

/-! ## Deploying -/

variable {stack : Stack} {endpoint : Endpoint} {config : DeploymentConfig}

theorem respects_handOver {prune : Bool} (hfile : ¬ T (locate (stackFilePath stack))) :
    (handOver stack endpoint prune).Respects (AgreeOff T U) := by
  refine .bind (respects_getFileContent hfile) fun _ => ?_
  exact .bind (respects_modify fun _ _ => nofun) fun _ => .call fun _ _ ha => ha

theorem respects_connect : (connect services endpoint).Respects (AgreeOff T U) := by
  unfold connect fetchEndpointProxy
  split
  · exact .ite .pure (.call fun _ _ ha => ha)
  · exact .call fun _ _ ha => ha

theorem respects_writeEnv {stackID : StackID} {path : Path} {content : String} {env : List Pair} :
    (writeEnv stackID path content env).Respects (AgreeOff T U) := by
  induction env generalizing content with
  | nil => exact .pure
  | cons v env ih =>
    refine .bind (.attempt (respects_perform fun _ _ => nofun)) fun written => ?_
    cases written with
    | ok u => exact ih
    | error e => exact ih

theorem respects_prepareEnv (henv : ¬ T (locate (join [stack.projectPath, ".env".toList]))) :
    (prepareEnv services stack).Respects (AgreeOff T U) := by
  unfold prepareEnv createEnvFile
  split
  · exact .ite .pure (.bind (respects_perform fun _ _ => nofun) fun _ => respects_writeEnv)
  · exact .bind (.attempt (respects_getFileContent henv)) fun _ => .pure

theorem respects_checkStackFile {checked : Bool} (hfile : ¬ T (locate (stackFilePath config.stack))) :
    (checkStackFile services checked config).Respects (AgreeOff T U) :=
  .ite (.bind (respects_getFileContent hfile) fun _ => .ofExcept) .pure

theorem respects_login {registries : List Registry} : (login registries).Respects (AgreeOff T U) :=
  .forM fun _ _ => .bind (.attempt (.call fun _ _ ha => ha)) fun _ => .pure

/-- **Deploying reads the stack file, and the file of variables that the
library looks for.** -/
theorem respects_deployAs {type : StackType} (hfile : ¬ T (locate (stackFilePath config.stack)))
    (henv : ¬ T (locate (join [config.stack.projectPath, ".env".toList]))) :
    (deployAs services type config).Respects (AgreeOff T U) := by
  refine .ite ?_ ?_
  · exact .bind (respects_checkStackFile hfile) fun _ => .bind respects_login fun _ =>
      .bind (respects_handOver hfile) fun _ => .call fun _ _ ha => ha
  · exact .bind (respects_checkStackFile hfile) fun _ => .bind respects_login fun _ =>
      .bind (.bind respects_connect fun _ => .bind (respects_prepareEnv henv) fun _ =>
        respects_handOver hfile) fun _ => .call fun _ _ ha => ha

/-! ## Reads of the server -/

variable {context : RequestContext}

theorem respects_findStack {stackID : StackID} : (findStack stackID).Respects (AgreeOff T U) :=
  .mapError respects_onServer

theorem respects_createDeployConfig {prune : Bool} :
    (createDeployConfig context stack endpoint prune).Respects (AgreeOff T U) :=
  .bind (.mapError respects_onServer) fun _ => .bind (.mapError respects_onServer) fun _ => .pure

end Stacks

end Portainer
