import Portainer.Stacks.Helpers.Creation
/-!
# Confinement — the files of a stack

What the server reads, opens and writes for a stack should lie in the
directory of the stack. The names that it gives to files itself are single
segments, and so are the names in a repository, but the path of the stack
file in a repository is the client's and is joined as it comes. It is then
the entry point of the record, which every later reader joins again.

`confined_of_run` shows every file in the directory of its stack along the
runs in which no creation from a repository names a file outside;
`not_confined` reads the file of another stack.
-/

namespace Portainer

open Action (Leaves)
open Path (locate join Inside)

namespace Stacks

variable {services : Services} {h h' : Host}

/-- A file that is touched for a stack lies in its directory. -/
def Act.Confined (services : Services) : Act → Prop
  | .readFile stackID path => Inside (projectDirectory services stackID) (locate path)
  | .openFile stackID path => Inside (projectDirectory services stackID) (locate path)
  | .writeFile stackID path _ => Inside (projectDirectory services stackID) (locate path)
  | _ => True

/-- The files of a record lie in its directory, its stack file among
them. -/
structure ConfinedStack (services : Services) (stack : Stack) : Prop where
  placed : Placed services stack
  stackFile : Inside (projectDirectory services stack.id) (locate (stackFilePath stack))

/-- **Every file that was touched lies in the directory of its stack**, and
every record leads there. -/
structure Confined (services : Services) (h : Host) : Prop where
  history : ∀ a ∈ h.history, a.Confined services
  records : h.server.dataStore.stack.Every (ConfinedStack services)

/-- **A creation from a repository names a file inside**, under the
identifier that is drawn for it, or under zero where the draw may fail. -/
def NamesFileInside (services : Services) (h : Host) (a : Attempt) : Prop :=
  match a.request with
  | .create _ request => ∀ type name filePath, request.made services = some (type, name, some filePath) →
      ∀ stackID, stackID = h.server.dataStore.stack.next ∨
        stackID = 0 ∧ ¬ (a.sys h).Reliable .databaseWrite →
        Inside (projectDirectory services stackID)
          (locate (join [services.getStackProjectPath (itoa stackID), filePath]))
  | _ => True

/-! ## Paths of files -/

theorem Placed.inside_join {stack : Stack} (hp : Placed services stack) {l : List Path}
    (hl : ∀ s ∈ l, Path.Segment s) :
    Inside (projectDirectory services stack.id) (locate (join (stack.projectPath :: l))) := by
  have hinside := Path.inside_join_segments hp.nonempty hl
  rwa [hp.directory] at hinside

theorem segments_singleton {s : Path} (hs : Path.Segment s) : ∀ t ∈ [s], Path.Segment t := by
  intro t ht
  rw [List.mem_singleton] at ht
  exact ht ▸ hs

/-! ## Kinds of acts -/

theorem ConfinedStack.deploys {stack : Stack} (hc : ConfinedStack services stack) {a : Act}
    (ha : Deploys stack a) : a.Confined services := by
  cases ha with
  | readStackFile => exact hc.stackFile
  | readEnv => exact hc.placed.inside_join (segments_singleton segment_env)
  | openEnv => exact hc.placed.inside_join (segments_singleton segment_stackEnv)
  | writeEnv => exact hc.placed.inside_join (segments_singleton segment_stackEnv)
  | deploy => trivial
  | takeDown => trivial

/-- A file is stored where the record will look for it. -/
theorem confined_of_stores {stackID : StackID} {fileName : Path}
    (hfile : Inside (projectDirectory services stackID)
      (locate (join [services.getStackProjectPath (itoa stackID), fileName])))
    {a : Act} (ha : Stores services stackID fileName a) : a.Confined services := by
  rw [← locate_stores] at hfile
  cases ha with
  | mkdirAll => trivial
  | openFile => exact hfile
  | writeFile => exact hfile

theorem ConfinedStack.stores {stack : Stack} (hc : ConfinedStack services stack) {a : Act}
    (ha : Stores services stack.id stack.entryPoint a) : a.Confined services := by
  refine confined_of_stores ?_ ha
  have hfile := hc.stackFile
  unfold stackFilePath at hfile
  rwa [hc.placed.locate_join] at hfile

/-- The names in a repository do not lead out of the clone. -/
theorem confined_of_clones {stackID : StackID} {destination : Path} {repository : List RepositoryFile}
    (hne : destination ≠ []) (hplace : locate destination = projectDirectory services stackID)
    {a : Act} (ha : Clones stackID destination repository a) : a.Confined services := by
  have hinside : ∀ file ∈ repository, Inside (projectDirectory services stackID)
      (locate (join (destination :: file.path))) := by
    intro file _
    have hfile := Path.inside_join_segments hne file.segments
    rwa [hplace] at hfile
  cases ha with
  | mkdirAll => trivial
  | openFile hf => exact hinside _ hf
  | writeFile hf => exact hinside _ hf

theorem ConfinedStack.replaces {stack : Stack} (hc : ConfinedStack services stack)
    {repository : List RepositoryFile} {a : Act} (ha : Replaces repository stack a) :
    a.Confined services := by
  cases ha with
  | backUp => trivial
  | restore => trivial
  | removeBackup => trivial
  | clone ha => exact confined_of_clones hc.placed.nonempty hc.placed.directory ha

/-! ## Records -/

/-- A record with the same identifier and the same files. -/
theorem ConfinedStack.congr {stack stack' : Stack} (hc : ConfinedStack services stack)
    (hid : stack'.id = stack.id) (hpath : stack'.projectPath = stack.projectPath)
    (hentry : stack'.entryPoint = stack.entryPoint) : ConfinedStack services stack' := by
  refine ⟨⟨hpath ▸ hc.placed.nonempty, ?_⟩, ?_⟩
  · rw [hpath, hid]
    exact hc.placed.directory
  · unfold stackFilePath
    rw [hid, hpath, hentry]
    exact hc.stackFile

namespace Confined

theorem of_stored {stack : Stack} (hc : Confined services h) (hstored : Stored h stack) :
    ConfinedStack services stack :=
  hc.records _ _ hstored

theorem tolerates : Tolerates (Confined services) (Act.Confined services) := by
  intro h a ha hc
  refine ⟨fun b hb => ?_, hc.records⟩
  rcases List.mem_append.mp hb with hb | hb
  · exact hc.history b hb
  · rw [List.mem_singleton] at hb
    exact hb ▸ ha

theorem putStack {stack : Stack} (hc : Confined services h) (hnew : ConfinedStack services stack) :
    Confined services (putStack stack h) :=
  ⟨hc.history, hc.records.put hnew⟩

theorem addStack {stack : Stack} (hc : Confined services h) (hnew : ConfinedStack services stack) :
    Confined services (addStack stack h) :=
  ⟨hc.history, Bucket.Every.put (b := h.server.dataStore.stack.setSequence stack.id) hc.records hnew⟩

theorem dropStack {stackID : StackID} (hc : Confined services h) :
    Confined services (Stacks.dropStack stackID h) :=
  ⟨hc.history, hc.records.delete⟩

end Confined

/-- The record of a creation that names a file inside. -/
theorem Made.confinedStack {endpoint : Endpoint} {type : StackType} {name : String} {entryPoint : Path}
    {stack : Stack} (hm : Made services endpoint type name entryPoint stack)
    (hfile : Inside (projectDirectory services stack.id)
      (locate (join [services.getStackProjectPath (itoa stack.id), entryPoint]))) :
    ConfinedStack services stack := by
  refine ⟨hm.placed, ?_⟩
  unfold stackFilePath
  rw [hm.placed.locate_join, hm.entryPoint]
  exact hfile

theorem Confined.creationKeeps {R : Callee → Prop} {context : RequestContext} {endpoint : Endpoint}
    {type : StackType} {name : String} {entryPoint : Path} (hc : Confined services h)
    (hfile : ∀ stackID h', Drawn R h stackID h' → Inside (projectDirectory services stackID)
      (locate (join [services.getStackProjectPath (itoa stackID), entryPoint]))) :
    CreationKeeps R services context h endpoint type name entryPoint (Confined services)
      (Act.Confined services) where
  init := hc
  tolerates := Confined.tolerates
  draw := ⟨hc.history, hc.records⟩
  reads _ _ hm hd := (hm.confinedStack (hfile _ _ hd)).deploys .readStackFile
  deploys _ _ _ hm hd := deploymentKeeps_of_tolerates Confined.tolerates fun _ ha =>
    (hm.confinedStack (hfile _ _ hd)).deploys ha
  remove _ _ := trivial
  add _ _ _ hm hd hc' _ := hc'.addStack (hm.confinedStack (hfile _ _ hd))
  control _ _ _ _ _ _ _ hc' _ _ := ⟨hc'.history, hc'.records⟩

/-! ## Steps and runs -/

/-- The stack file of a new record lies in its directory: a default name is
a segment, and the condition is about the others. -/
theorem NamesFileInside.entryPoint {a : Attempt} {endpointID : EndpointID} {request : CreateRequest}
    (hC : NamesFileInside services h a) (hrequest : a.request = .create endpointID request)
    {type : StackType} {name : String} {filePath : Option Path}
    (hmade : request.made services = some (type, name, filePath)) {stackID : StackID} {h' : Host}
    (hd : Drawn (a.sys h).Reliable h stackID h') : Inside (projectDirectory services stackID)
      (locate (join [services.getStackProjectPath (itoa stackID), entryPointOf type filePath])) := by
  cases filePath with
  | none =>
    refine Path.inside_join_segments (Path.join_ne services.fileStorePath_ne) (segments_singleton ?_)
    by_cases htype : type = .kubernetes
    · simpa [entryPointOf, htype] using segment_manifestFile
    · simpa [entryPointOf, htype] using segment_composeFile
  | some filePath =>
    simp only [NamesFileInside, hrequest] at hC
    refine hC type name filePath hmade stackID ?_
    rcases hd with ⟨-, hnext⟩ | ⟨-, hzero⟩
    · exact .inl hnext
    · exact .inr hzero

/-- **One request, successful or not.** -/
theorem Confined.step {a : Attempt} (hc : Confined services h) (hC : NamesFileInside services h a)
    (hstep : (machine services).step h a = some h') : Confined services h' := by
  obtain rfl := Option.some.inj hstep
  have hT : Tolerates (Confined services) (Act.Confined services) := Confined.tolerates
  have hleaves : ∀ {x : Handler Host Response},
      Leaves (a.sys h).Reliable x h (fun _ => Confined services) (Confined services) →
        Confined services (x.run (a.sys h)).2.store := fun hx => hx.store rfl fun _ hk => hk
  have hdeploys : ∀ stackID stack, Stored h stack → stack.id = stackID →
      ∀ act, Deploys stack act → act.Confined services :=
    fun _ stack hstored _ act ha => (hc.of_stored hstored).deploys ha
  have hupdated : ∀ stackID endpointID stack stack', Stored h stack → stack.id = stackID →
      Updated stack endpointID stack' → ConfinedStack services stack' :=
    fun _ _ stack stack' hstored _ hup =>
      (hc.of_stored hstored).congr hup.id hup.projectPath hup.entryPoint
  refine hleaves ?_
  cases hrequest : a.request with
  | create endpointID request =>
    refine leaves_behind_authenticatedAccess hc fun context _ =>
      leaves_stackCreate (G := Act.Confined services) hc ?_
    intro endpoint type name filePath _ _ hmade _
    refine ⟨hc.creationKeeps fun _ _ hd => hC.entryPoint hrequest hmade hd, fun stackID h' hd act ha => ?_⟩
    have hfile := hC.entryPoint hrequest hmade hd
    cases ha with
    | stores ha => exact confined_of_stores hfile ha
    | clones ha => exact confined_of_clones (Path.join_ne services.fileStorePath_ne) rfl ha
  | update stackID endpointID payload =>
    refine leaves_behind_authenticatedAccess hc fun context _ => leaves_stackUpdate hc hT
      (fun stack hstored _ act ha => (hc.of_stored hstored).stores ha)
      (fun stack stack' hstored hid hup act ha =>
        (hupdated _ _ stack stack' hstored hid hup).deploys ha) ?_
    intro stack stack' endpoint h₁ hstored hid _ hup hc₁ _
    exact hc₁.putStack (hupdated _ _ stack stack' hstored hid hup)
  | updateGit stackID endpointID payload =>
    refine leaves_behind_authenticatedAccess hc fun context _ => leaves_stackUpdateGit hc hT
      (fun stack hstored _ act ha => (hc.of_stored hstored).replaces ha)
      (fun stack stack' hstored hid hup act ha =>
        (hupdated _ _ stack stack' hstored hid hup).deploys ha) ?_
    intro stack stack' endpoint h₁ hstored hid _ _ hup hc₁ _
    exact hc₁.putStack (hupdated _ _ stack stack' hstored hid hup)
  | migrate stackID payload =>
    refine leaves_behind_authenticatedAccess hc fun context _ => leaves_stackMigrate hc hT ?_ ?_
    · intro stack hstored _ act ha
      have hstack := hc.of_stored hstored
      rcases ha with ha | ha
      · have hmigrated : ConfinedStack services (payload.migrated stack) := hstack.congr rfl rfl rfl
        exact hmigrated.deploys ha
      · have hstored : ConfinedStack services { payload.migrated stack with name := stack.name } :=
          hstack.congr rfl rfl rfl
        exact hstored.deploys ha
    · intro stack h₁ hstored _ _ hc₁ _
      exact hc₁.putStack ((hc.of_stored hstored).congr rfl rfl rfl)
  | start stackID =>
    refine leaves_behind_authenticatedAccess hc fun context _ =>
      leaves_stackStart hc hT (hdeploys stackID) ?_
    intro stack h₁ hstored hid hc₁ _
    exact hc₁.putStack ((hc.of_stored hstored).congr rfl rfl rfl)
  | stop stackID =>
    refine leaves_behind_authenticatedAccess hc fun context _ =>
      leaves_stackStop hc hT (hdeploys stackID) ?_
    intro stack h₁ hstored hid hc₁ _
    exact hc₁.putStack ((hc.of_stored hstored).congr rfl rfl rfl)
  | associate stackID endpointID swarmID orphanedRunning =>
    have hmoved : ∀ stack rc, Confined services (withMovedControl stack endpointID rc h) := by
      intro stack rc
      cases rc with
      | none => exact hc
      | some rc => exact ⟨hc.history, hc.records⟩
    refine leaves_behind_adminAccess hc fun context _ =>
      leaves_stackAssociate hc (fun stack _ _ => hmoved stack _) ?_
    intro stack stack' hstored hid has
    refine (hmoved stack _).putStack ?_
    exact (hc.of_stored hstored).congr has.id has.projectPath has.entryPoint
  | delete stackID endpointID =>
    refine leaves_behind_authenticatedAccess hc fun context _ => leaves_stackDelete hc hT
      (hdeploys stackID) (fun _ _ _ => trivial) ?_
    intro stack h₁ _ _ hc₁ _
    have hdropped : Confined services (Stacks.dropStack stackID h₁) := hc₁.dropStack
    refine ⟨hdropped, ?_⟩
    cases controlOf h.server stack with
    | none => exact hdropped
    | some rc => exact ⟨hdropped.history, hdropped.records⟩
  | deleteExternal stackName endpointID =>
    exact leaves_behind_authenticatedAccess hc fun context _ => leaves_deleteExternalStack hc hT fun _ => trivial
  | inspect stackID =>
    exact leaves_behind_authenticatedAccess hc fun context _ => leaves_stackInspect hc
  | file stackID =>
    exact leaves_behind_authenticatedAccess hc fun context _ => leaves_stackFile hc hT (hdeploys stackID)

/-- **Files stay confined** along requests that name files inside. -/
theorem confined_of_run {attempts : List Attempt} (hc : Confined services h)
    (hC : (machine services).Along (NamesFileInside services) h attempts)
    (hrun : (machine services).run h attempts = some h') : Confined services h' :=
  Machine.run_invariant (fun _ _ _ hc hC hstep => hc.step hC hstep) hc hC hrun

/-- A cluster that user 2 may use, on a machine with a file of its own. -/
def sharedCluster : Host where
  server := {
    dataStore := {
      user := ({} : Bucket User).put { id := 2, username := "eve", role := .standardUser }
      endpointGroup := ({} : Bucket EndpointGroup).put { id := 1 }
      endpoint := ({} : Bucket Endpoint).put
        { id := 1, type := .kubernetesLocalEnvironment, userAccessPolicies := (∅ : UserAccessPolicies).insert 2 {} } }
    issuedTokens := [⟨2, "eve", .standardUser⟩] }
  fileSystem := { files := fun l => if l = locate "/etc/shadow".toList then some "root:" else none }

/-- User 2 deploys a manifest from a repository. -/
def deployManifest (filePath : String) : Attempt where
  request := .create 1 (.kubernetesRepository {
    deploymentNamespace := "default"
    repositoryURL := "repository"
    filePathInRepository := filePath.toList })
  token := some ⟨2, "eve", .standardUser⟩

theorem confined_sharedCluster : Confined plainServices sharedCluster :=
  ⟨fun _ ha => (List.not_mem_nil ha).elim, Bucket.every_empty⟩

theorem confined_of_run_manifest : ∃ h', (machine plainServices).run sharedCluster
    [deployManifest "app/../app/manifest.yml"] = some h' ∧ Confined plainServices h' := by
  have hC : (machine plainServices).Along (NamesFileInside plainServices) sharedCluster
      [deployManifest "app/../app/manifest.yml"] := by
    refine ⟨?_, fun _ _ => trivial⟩
    intro type name filePath hmade stackID hdrawn
    obtain ⟨-, -, hpath⟩ : .kubernetes = type ∧ "" = name ∧ "app/../app/manifest.yml".toList = filePath := by
      simpa [CreateRequest.made] using hmade
    subst hpath
    rcases hdrawn with rfl | ⟨-, hfault⟩
    · decide
    · exact absurd (fun _ ho => (List.not_mem_nil ho).elim) hfault
  exact ⟨_, rfl, confined_of_run confined_sharedCluster hC rfl⟩

/-- **A regular user reads a file of the machine** as the manifest of their
stack. -/
theorem not_confined : Confined plainServices sharedCluster ∧ ∃ h', (machine plainServices).run
    sharedCluster [deployManifest "../../../etc/shadow"] = some h' ∧ ¬ Confined plainServices h' := by
  refine ⟨confined_sharedCluster, _, rfl, fun hc => ?_⟩
  have hread : Act.readFile 1 "/etc/shadow".toList ∈ ((deployManifest "../../../etc/shadow").run
      plainServices sharedCluster).2.store.history := .tail _ (.head _)
  have hinside : Inside (projectDirectory plainServices 1) (locate "/etc/shadow".toList) :=
    hc.history _ hread
  exact absurd hinside (by decide)

end Stacks

end Portainer
