import Portainer.Stacks.Helpers.Handlers
/-!
# What a creation leaves

The eight routes of a creation are four: a Docker stack from content or
from a repository, and a Kubernetes stack from content or from a
repository. The parts that they share come first, the routes follow, and
`leaves_stackCreate` puts them together: an invariant that tolerates what a
creation may do is kept by it.
-/

namespace Portainer

open Action (Leaves)
open Path (locate join)

namespace Stacks

variable {services : Services} {outside : Outside} {R : Callee → Prop} {h : Host}
variable {I : Host → Prop} {G : Act → Prop} {context : RequestContext} {endpoint : Endpoint}

/-! ## Project directories -/

/-- The directory of the files of a stack. -/
def projectDirectory (services : Services) (stackID : StackID) : Path.Location :=
  locate (services.getStackProjectPath (itoa stackID))

/-- The files of the stack lie in its own directory. -/
structure Placed (services : Services) (stack : Stack) : Prop where
  nonempty : stack.projectPath ≠ []
  directory : locate stack.projectPath = projectDirectory services stack.id

theorem locate_storePath {stackID : StackID} : locate (join [services.fileStorePath,
    join ["compose".toList, itoa stackID]]) = projectDirectory services stackID :=
  Path.locate_join_join_right services.fileStorePath_ne (by decide) (by decide)

/-- The folder of a stored file is the project path, also as a text. -/
theorem storePath_eq {stackID : StackID} : join [services.fileStorePath,
    join ["compose".toList, itoa stackID]] = services.getStackProjectPath (itoa stackID) :=
  Path.join_eq_of_locate services.fileStorePath_ne services.fileStorePath_ne locate_storePath

theorem Placed.locate_join {stack : Stack} (hp : Placed services stack) {l : List Path} :
    locate (join (stack.projectPath :: l)) =
      locate (join (services.getStackProjectPath (itoa stack.id) :: l)) := by
  have hne : services.getStackProjectPath (itoa stack.id) ≠ [] :=
    Path.join_ne services.fileStorePath_ne
  have hd := hp.directory
  simp only [projectDirectory, Path.locate, Path.Location.mk.injEq, List.reverse_inj] at hd
  rw [Path.locate_join hp.nonempty, Path.locate_join hne, List.foldl_cons, List.foldl_cons, hd.1]
  rw [hd.1] at hd
  rw [hd.2]

/-- The paths of a stored file and of a record's entry point lead to one
place. -/
theorem locate_stores {stackID : StackID} {fileName : Path} :
    locate (join [services.fileStorePath, join [join ["compose".toList, itoa stackID], fileName]]) =
      locate (join [services.getStackProjectPath (itoa stackID), fileName]) := by
  have hne : join ["compose".toList, itoa stackID] ≠ [] := Path.join_ne (by decide)
  have hrel : (join ["compose".toList, itoa stackID]).rooted = false := Path.rooted_join (by decide)
  have hstore := services.fileStorePath_ne
  unfold Services.getStackProjectPath
  rw [Path.locate_join_join_left hstore, Path.locate_join_join_right hstore hne hrel,
    Path.locate_join hstore, List.cons_append, List.cons_append, List.nil_append, Path.locate_join hstore,
    List.foldl_cons, List.foldl_cons, Path.walk_join (by decide) (by simp [Path.rooted])]
  rfl

/-! ### Names of files -/

theorem segment_composeFile : Path.Segment composeFileDefaultName :=
  ⟨by decide, by decide, by decide, by decide⟩

theorem segment_manifestFile : Path.Segment manifestFileDefaultName :=
  ⟨by decide, by decide, by decide, by decide⟩

theorem segment_env : Path.Segment ".env".toList := ⟨by decide, by decide, by decide, by decide⟩

theorem segment_stackEnv : Path.Segment "stack.env".toList :=
  ⟨by decide, by decide, by decide, by decide⟩

/-! ## Records -/

/-- An identifier was drawn, or the draw failed and it is zero. -/
def Drawn (R : Callee → Prop) (h : Host) (stackID : StackID) (h' : Host) : Prop :=
  h' = drawStack h ∧ stackID = h.server.dataStore.stack.next ∨
    h' = h ∧ stackID = 0 ∧ ¬ R .databaseWrite

/-- The record of a stack that is made on an environment. -/
structure Made (services : Services) (endpoint : Endpoint) (type : StackType) (name : String)
    (entryPoint : Path) (stack : Stack) : Prop where
  name : stack.name = name
  type : stack.type = type
  endpointID : stack.endpointID = endpoint.id
  entryPoint : stack.entryPoint = entryPoint
  placed : Placed services stack
  own : stack.projectPath = services.getStackProjectPath (itoa stack.id)

/-- A resource control that a creation may make. -/
def IsDecoration (context : RequestContext) (stack : Stack) (rc : ResourceControl) : Prop :=
  let resourceID := stackResourceControlID stack.endpointID stack.name
  rc = newAdministratorsOnlyResourceControl resourceID .stack ∨
    rc = newPrivateResourceControl resourceID .stack context.tokenData.id

/-! ## Parts -/

theorem leaves_createResourceControl {rc : ResourceControl} {E : Host → Prop} (hE : ¬ R .databaseWrite → E h) :
    Leaves R (onServer (Server.createResourceControl rc)) h (fun _ h' => h' = addControl rc h) E := by
  refine Leaves.conseq (Leaves.zoom (Q := fun _ s => s = (addControl rc h).server)
    (E := fun s => s = h.server ∧ ¬ R .databaseWrite) ?_) (fun _ h' hh' => ?_) fun h' hh' => ?_
  · exact Leaves.bind (M := fun _ s => s = (addControl rc h).server)
      (Table.leaves_createObject_of (fun hR => ⟨rfl, hR⟩) rfl) fun _ _ hs => .pure hs
  · obtain ⟨s, rfl, rfl⟩ := hh'
    rfl
  · obtain ⟨s, rfl, rfl, hR⟩ := hh'
    exact hE hR

/-- The user is read, and a control of the stack is created. -/
theorem leaves_decorateStackResponse_of {stack : Stack} {Q : Host → Prop} {E : Host → Prop}
    (hread : ¬ R .databaseRead ∨ h.server.dataStore.user.get? context.tokenData.id = none → E h)
    (hwrite : ¬ R .databaseWrite → E h) (hadd : ∀ rc, IsDecoration context stack rc → Q (addControl rc h)) :
    Leaves R (decorateStackResponse stack context.tokenData.id) h (fun _ => Q) E := by
  refine .read_bind (P := fun _ => True) (.mapError ?_) fun isAdmin _ => ?_
  · refine .read_bind (P := fun _ => True) ?_ fun _ _ => .pure ⟨rfl, trivial⟩
    refine Leaves.conseq (Leaves.zoom (Q := fun _ s => s = h.server) (E := fun s => s = h.server ∧
      (¬ R .databaseRead ∨ h.server.dataStore.user.get? context.tokenData.id = none)) ?_)
      (fun _ h' hh' => ?_) fun h' hh' => ?_
    · exact .lookup_of (fun _ _ => rfl) fun hfailed => ⟨rfl, hfailed⟩
    · obtain ⟨s, rfl, rfl⟩ := hh'
      exact ⟨rfl, trivial⟩
    · obtain ⟨s, rfl, rfl, hfailed⟩ := hh'
      exact hread hfailed
  · refine .bind (.mapError (leaves_createResourceControl hwrite)) fun rc h' hh' => .pure ?_
    subst hh'
    refine hadd _ ?_
    cases isAdmin with
    | true => exact .inl rfl
    | false => exact .inr rfl

theorem leaves_decorateStackResponse {stack : Stack} {E : Host → Prop} (hE : E h)
    (hadd : ∀ rc, IsDecoration context stack rc → E (addControl rc h)) :
    Leaves R (decorateStackResponse stack context.tokenData.id) h (fun _ => E) E :=
  leaves_decorateStackResponse_of (fun _ => hE) (fun _ => hE) hadd

/-- Deploying and storing a record: the record is the last thing that is
done, if all goes well. -/
theorem leaves_deployAndCreate {stack : Stack} (hI : I h)
    (hdeploys : DeploymentKeeps services context h.server endpoint stack I) :
    Leaves R (deployAndCreate services context endpoint stack) h
      (fun created h' => (∃ h₁, I h₁ ∧ h₁.server = h.server ∧ h' = addStack created h₁) ∧
        ∃ username, created = { stack with createdBy := username })
      fun h' => I h' ∧ h'.server = h.server := by
  refine .read_bind (leaves_createDeployConfig ⟨hI, rfl⟩) fun config ⟨hstack, hconfig, huser⟩ => ?_
  refine .bind (M := fun _ h' => I h' ∧ h'.server = h.server) (Leaves.of_keeps
    (.mapError (hdeploys config hstack hconfig huser)) ⟨hI, rfl⟩) fun _ h' ⟨hI', hserver⟩ => ?_
  refine .bind (leaves_createStack (Q := fun _ h'' => h'' = addStack _ h') ⟨hI', hserver⟩ rfl)
    fun _ h'' hh'' => .pure ?_
  exact ⟨⟨h', hI', hserver, hh''⟩, _, rfl⟩

theorem leaves_onError {α : Type} {undo : Handler Host Unit} {x : Handler Host α}
    {Q : α → Host → Prop} {E E' : Host → Prop} (hx : Leaves R x h Q E)
    (hundo : ∀ h', E h' → Leaves R undo h' (fun _ => E') E') : Leaves R (Action.onError undo x) h Q E' := by
  refine .bind (M := fun r h' => (∃ a, r = Except.ok a ∧ Q a h') ∨ (∃ e, r = Except.error e) ∧ E h')
    (.attempt (hx.conseq (fun a _ ha => .inl ⟨a, rfl, ha⟩) fun _ he e => .inr ⟨⟨e, rfl⟩, he⟩)) ?_
  rintro r h' (⟨a, rfl, ha⟩ | ⟨⟨e, rfl⟩, he⟩)
  · exact .pure ha
  · exact (hundo h' he).bind fun _ _ hh' => .fail hh'

/-- What an invariant has to tolerate of the creation of a stack. -/
structure CreationKeeps (R : Callee → Prop) (services : Services) (context : RequestContext) (h : Host)
    (endpoint : Endpoint) (type : StackType) (name : String) (entryPoint : Path) (I : Host → Prop)
    (G : Act → Prop) : Prop where
  init : I h
  tolerates : Tolerates I G
  draw : I (drawStack h)
  reads : ∀ stack h', Made services endpoint type name entryPoint stack → Drawn R h stack.id h' →
    G (.readFile stack.id (stackFilePath stack))
  deploys : type ≠ .kubernetes → ∀ stack h', Made services endpoint type name entryPoint stack →
    Drawn R h stack.id h' → DeploymentKeeps services context h'.server endpoint stack I
  remove : ∀ stack, Placed services stack → G (.removeAll stack.projectPath)
  add : ∀ stack h' h'', Made services endpoint type name entryPoint stack → Drawn R h stack.id h' →
    I h'' → h''.server = h'.server → I (addStack stack h'')
  control : type ≠ .kubernetes → ∀ stack h' h'' rc, Made services endpoint type name entryPoint stack →
    Drawn R h stack.id h' → I h'' → h''.server = (addStack stack h').server →
    IsDecoration context stack rc → I (addControl rc h'')

/-- What a creation needs of an invariant: what it has to tolerate until the
record is stored, and that the steps from there on keep it together. -/
structure CreationLeaves (R : Callee → Prop) (services : Services) (context : RequestContext) (h : Host)
    (endpoint : Endpoint) (type : StackType) (name : String) (entryPoint : Path) (I : Host → Prop)
    (G : Act → Prop) : Prop where
  init : I h
  tolerates : Tolerates I G
  draw : I (drawStack h)
  reads : ∀ stack h', Made services endpoint type name entryPoint stack → Drawn R h stack.id h' →
    G (.readFile stack.id (stackFilePath stack))
  deploys : type ≠ .kubernetes → ∀ stack h', Made services endpoint type name entryPoint stack →
    Drawn R h stack.id h' → DeploymentKeeps services context h'.server endpoint stack I
  remove : ∀ stack, Placed services stack → G (.removeAll stack.projectPath)
  store : type = .kubernetes → ∀ stack h' h'', Made services endpoint type name entryPoint stack →
    Drawn R h stack.id h' → I h'' → h''.server = h'.server → I (addStack stack h'')
  decorate : type ≠ .kubernetes → ∀ stack h' h'', Made services endpoint type name entryPoint stack →
    Drawn R h stack.id h' → I h'' → h''.server = h'.server →
      Leaves R (decorateStackResponse stack context.tokenData.id) (addStack stack h'') (fun _ => I) I

theorem CreationKeeps.creationLeaves {type : StackType} {name : String} {entryPoint : Path}
    (hc : CreationKeeps R services context h endpoint type name entryPoint I G) :
    CreationLeaves R services context h endpoint type name entryPoint I G where
  init := hc.init
  tolerates := hc.tolerates
  draw := hc.draw
  reads := hc.reads
  deploys := hc.deploys
  remove := hc.remove
  store _ := hc.add
  decorate hdocker stack h' h'' hm hd hI hserver := by
    have hadded := hc.add stack h' h'' hm hd hI hserver
    refine leaves_decorateStackResponse hadded fun rc hrc =>
      hc.control hdocker stack h' _ rc hm hd hadded ?_ hrc
    simp only [addStack, hserver]

namespace CreationLeaves

variable {type : StackType} {name : String} {entryPoint : Path}

theorem of_drawn (hc : CreationLeaves R services context h endpoint type name entryPoint I G)
    {stackID : StackID} {h' : Host} (hd : Drawn R h stackID h') : I h' := by
  rcases hd with ⟨rfl, -⟩ | ⟨rfl, -⟩
  · exact hc.draw
  · exact hc.init

/-- Draw an identifier, and go on. -/
theorem leaves_draw_bind {α : Type} {f : StackID → Handler Host α}
    (hc : CreationLeaves R services context h endpoint type name entryPoint I G)
    (hf : ∀ stackID h', Drawn R h stackID h' → I h' → Leaves R (f stackID) h' (fun _ => I) I) :
    Leaves R (onServer Server.stack.getNextIdentifier >>= f) h (fun _ => I) I := by
  refine .bind leaves_getNextIdentifier fun stackID h' hh' => ?_
  have hd : Drawn R h stackID h' := hh'
  exact hf stackID h' hd (hc.of_drawn hd)

/-- The part of the routes for Docker after the files are in place. -/
theorem leaves_deployAndDecorate
    (hc : CreationLeaves R services context h endpoint type name entryPoint I G)
    (hdocker : type ≠ .kubernetes) {stack : Stack} {h' h'' : Host}
    (hm : Made services endpoint type name entryPoint stack)
    (hd : Drawn R h stack.id h') (hI : I h'') (hserver : h''.server = h'.server) :
    Leaves R (Action.onError (cleanUp stack) (deployAndCreate services context endpoint stack) >>=
      fun created => decorateStackResponse created context.tokenData.id) h'' (fun _ => I) I := by
  have hdeploys := hc.deploys hdocker stack h' hm hd
  rw [← hserver] at hdeploys
  refine .bind (leaves_onError (leaves_deployAndCreate hI hdeploys)
    fun h₁ hh₁ => .of_keeps (keeps_cleanUp hc.tolerates (hc.remove stack hm.placed)) hh₁.1)
    fun created h₁ hcreated => ?_
  obtain ⟨⟨h₂, hI₂, hserver₂, rfl⟩, username, rfl⟩ := hcreated
  have hm' : Made services endpoint type name entryPoint { stack with createdBy := username } :=
    ⟨hm.name, hm.type, hm.endpointID, hm.entryPoint, ⟨hm.placed.nonempty, hm.placed.directory⟩, hm.own⟩
  exact hc.decorate hdocker _ h' h₂ hm' hd hI₂ (hserver₂.trans hserver)

end CreationLeaves

/-- A stack file that is put in its place. -/
theorem leaves_storeStackFileFromBytes {stackID : StackID} {fileName : Path} {data : String}
    (hI : I h) (hT : Tolerates I G) (hG : ∀ a, Stores services stackID fileName a → G a) :
    Leaves R (storeStackFileFromBytes services stackID fileName data) h
      (fun path h' => (I h' ∧ h'.server = h.server) ∧
        path = join [services.fileStorePath, join ["compose".toList, itoa stackID]]) I := by
  refine .bind (M := fun _ h' => I h' ∧ h'.server = h.server) ?_ fun _ h₁ hh₁ => ?_
  · exact (Leaves.of_keeps (keeps_perform (hT.and_server _) (hG _ .mkdirAll)) ⟨hI, rfl⟩).conseq
      (fun _ _ hh' => hh') fun _ he => he.1
  refine .bind (M := fun _ h' => I h' ∧ h'.server = h.server) ?_ fun _ h₂ hh₂ => .pure ⟨hh₂, rfl⟩
  exact (Leaves.of_keeps (keeps_createFile (hT.and_server _) (hG _ .openFile) (hG _ .writeFile))
    hh₁).conseq (fun _ _ hh' => hh') fun _ he => he.1

/-! ## Docker stacks -/

variable {d : DockerStack}

/-- The name of an upload is the one in the form. -/
theorem name_of_validateSwarm {payload : StackFromFileUploadPayload}
    {form : String × String × String × List Pair} (h : payload.validateSwarm = .ok form) :
    form.1 = payload.name := by
  unfold StackFromFileUploadPayload.validateSwarm at h
  cases hname : isNull payload.name <;> cases hswarm : isNull payload.swarmID <;>
    cases hcontent : payload.stackFileContent <;> cases henv : payload.env <;>
    simp_all [Except.mapError, bind, Except.bind, pure, Except.pure]
  rw [← h]

theorem name_of_decodeRequestForm {payload : StackFromFileUploadPayload}
    {form : String × String × List Pair} (h : payload.decodeRequestForm = .ok form) :
    form.1 = payload.name := by
  unfold StackFromFileUploadPayload.decodeRequestForm at h
  cases hname : isNull payload.name <;> cases hcontent : payload.stackFileContent <;>
    cases henv : payload.env <;>
    simp_all [Except.mapError, bind, Except.bind, pure, Except.pure]
  rw [← h]

theorem leaves_createFromContent {content : String} (hdocker : d.type ≠ .kubernetes)
    (hc : CreationLeaves R services context h endpoint d.type d.name composeFileDefaultName I G)
    (hstores : ∀ stackID h', Drawn R h stackID h' →
      ∀ a, Stores services stackID composeFileDefaultName a → G a) :
    Leaves R (createFromContent services outside context endpoint d content) h (fun _ => I) I := by
  refine hc.leaves_draw_bind fun stackID h' hd hI => ?_
  -- the record only says where the files lie once they do
  refine .bind (M := fun path h'' => (I h'' ∧ h''.server = h'.server) ∧
    path = join [services.fileStorePath, join ["compose".toList, itoa stackID]]) (.mapError ?_)
    fun path h'' ⟨⟨hI'', hserver⟩, hpath⟩ => ?_
  · exact leaves_storeStackFileFromBytes hI hc.tolerates (hstores stackID h' hd)
  · subst hpath
    exact hc.leaves_deployAndDecorate hdocker
      ⟨rfl, rfl, rfl, rfl, ⟨Path.join_ne services.fileStorePath_ne, locate_storePath⟩,
        storePath_eq⟩ hd hI'' hserver

theorem leaves_createFromRepository {repositoryURL referenceName : String} {configFilePath : Path}
    (hdocker : d.type ≠ .kubernetes)
    (hc : CreationLeaves R services context h endpoint d.type d.name configFilePath I G)
    (hclones : ∀ stackID h', Drawn R h stackID h' → ∀ a, Clones stackID
      (services.getStackProjectPath (itoa stackID)) outside.repository a → G a) :
    Leaves R (createFromRepository services outside context endpoint d repositoryURL referenceName
      configFilePath) h (fun _ => I) I := by
  refine hc.leaves_draw_bind fun stackID h' hd hI => ?_
  have hplaced : Placed services { d.toStack outside endpoint stackID configFilePath with
      projectPath := services.getStackProjectPath (itoa stackID) } :=
    ⟨Path.join_ne services.fileStorePath_ne, rfl⟩
  have hm : ∀ username gitConfig, Made services endpoint d.type d.name configFilePath
      { d.toStack outside endpoint stackID configFilePath with
        projectPath := services.getStackProjectPath (itoa stackID)
        gitConfig := gitConfig
        createdBy := username } :=
    fun _ _ => ⟨rfl, rfl, rfl, rfl, ⟨hplaced.nonempty, hplaced.directory⟩, rfl⟩
  refine .bind (M := fun created h'' => (∃ h₁, I h₁ ∧ h₁.server = h'.server ∧ h'' = addStack created h₁) ∧
      Made services endpoint d.type d.name configFilePath created ∧ created.id = stackID)
    (leaves_onError (E := I) ?_ fun h₁ hh₁ =>
      .of_keeps (keeps_cleanUp hc.tolerates (hc.remove _ hplaced)) hh₁)
    fun created h'' hcreated => ?_
  · refine .bind (M := fun cloned h'' => (I h'' ∧ h''.server = h'.server) ∧ ∃ gitConfig, cloned =
      { d.toStack outside endpoint stackID configFilePath with
        projectPath := services.getStackProjectPath (itoa stackID)
        gitConfig := gitConfig }) (.mapError ?_) fun cloned h₁ ⟨⟨hI₁, hserver₁⟩, gitConfig, hcloned⟩ => ?_
    · refine .bind (M := fun _ h'' => I h'' ∧ h''.server = h'.server) (.mapError ?_)
        fun _ h₁ hh₁ => .pure ⟨hh₁, _, rfl⟩
      exact (Leaves.of_keeps (keeps_cloneRepository (hc.tolerates.and_server _)
        (hclones stackID h' hd)) ⟨hI, rfl⟩).conseq (fun _ _ hh' => hh') fun _ he => he.1
    · subst hcloned
      have hdeploys := hc.deploys hdocker _ h' (hm "" gitConfig) hd
      rw [← hserver₁] at hdeploys
      refine (leaves_deployAndCreate hI₁ hdeploys).conseq ?_ fun _ he => he.1
      rintro created h₂ ⟨⟨h₃, hI₃, hserver₃, rfl⟩, username, rfl⟩
      exact ⟨⟨h₃, hI₃, hserver₃.trans hserver₁, rfl⟩, hm _ _, rfl⟩
  · obtain ⟨⟨h₁, hI₁, hserver₁, rfl⟩, hmade, rfl⟩ := hcreated
    exact hc.decorate hdocker created h' h₁ hmade hd hI₁ hserver₁

/-! ## Kubernetes stacks -/

theorem leaves_createKubernetesStackFromFileContent {payload : KubernetesStringDeploymentPayload}
    (hc : CreationLeaves R services context h endpoint .kubernetes "" manifestFileDefaultName I G)
    (hstores : ∀ stackID h', Drawn R h stackID h' →
      ∀ a, Stores services stackID manifestFileDefaultName a → G a) :
    Leaves R (createKubernetesStackFromFileContent services outside endpoint payload) h
      (fun _ => I) I := by
  refine .read_bind (leaves_invalidPayload hc.init) fun _ _ => ?_
  refine hc.leaves_draw_bind fun stackID h' hd hI => ?_
  refine .bind (M := fun path h'' => (I h'' ∧ h''.server = h'.server) ∧
    path = join [services.fileStorePath, join ["compose".toList, itoa stackID]]) (.mapError ?_)
    fun path h'' ⟨⟨hI'', hserver⟩, hpath⟩ => ?_
  · exact leaves_storeStackFileFromBytes hI hc.tolerates (hstores stackID h' hd)
  · subst hpath
    have hm : Made services endpoint .kubernetes "" manifestFileDefaultName
        { kubernetesStack outside endpoint stackID manifestFileDefaultName with
          projectPath := join [services.fileStorePath, join ["compose".toList, itoa stackID]] } :=
      ⟨rfl, rfl, rfl, rfl, ⟨Path.join_ne services.fileStorePath_ne, locate_storePath⟩,
        storePath_eq⟩
    refine leaves_defer ?_ (keeps_cleanUp hc.tolerates (hc.remove _ hm.placed))
    refine .bind (leaves_acts hI'' keeps_deployKubernetesStack fun _ he => he)
      fun output h₁ ⟨hI₁, hserver₁⟩ => ?_
    have hadded := hc.store rfl _ h' h₁ hm hd hI₁ (hserver₁.trans hserver)
    exact .bind (leaves_createStack (Q := fun _ => I) hI₁ hadded) fun _ _ hh' => .pure hh'

theorem leaves_createKubernetesStackFromGitRepository {payload : KubernetesGitDeploymentPayload}
    (hc : CreationLeaves R services context h endpoint .kubernetes "" payload.filePathInRepository I G)
    (hclones : ∀ stackID h', Drawn R h stackID h' → ∀ a, Clones stackID
      (services.getStackProjectPath (itoa stackID)) outside.repository a → G a) :
    Leaves R (createKubernetesStackFromGitRepository services outside endpoint payload) h
      (fun _ => I) I := by
  refine .read_bind (leaves_invalidPayload hc.init) fun _ _ => ?_
  refine hc.leaves_draw_bind fun stackID h' hd hI => ?_
  have hm : Made services endpoint .kubernetes "" payload.filePathInRepository
      { kubernetesStack outside endpoint stackID payload.filePathInRepository with
        projectPath := services.getStackProjectPath (itoa stackID) } :=
    ⟨rfl, rfl, rfl, rfl, ⟨Path.join_ne services.fileStorePath_ne, rfl⟩, rfl⟩
  have hreads := hc.reads _ h' hm hd
  refine leaves_defer ?_ (keeps_cleanUp hc.tolerates (hc.remove _ hm.placed))
  refine .bind (leaves_acts hI (.bind (keeps_cloneRepository (hc.tolerates.and_server _)
    (hclones stackID h' hd)) fun _ => keeps_getFileContent (hc.tolerates.and_server _) hreads) fun _ he => he)
    fun content h₁ ⟨hI₁, hserver₁⟩ => ?_
  refine .bind (leaves_acts hI₁ keeps_deployKubernetesStack fun _ he => he)
    fun output h₂ ⟨hI₂, hserver₂⟩ => ?_
  have hadded := hc.store rfl _ h' h₂ hm hd hI₂ (hserver₂.trans hserver₁)
  exact .bind (leaves_createStack (Q := fun _ => I) hI₂ hadded) fun _ _ hh' => .pure hh'

/-! ## All routes -/

/-- What a creation makes: the type and the name of the stack, and the path
of its file in a repository, if it is from one. -/
def CreateRequest.made (services : Services) : CreateRequest → Option (StackType × String × Option Path)
  | .swarmString payload => some (.dockerSwarm, payload.name, none)
  | .swarmRepository payload => some (.dockerSwarm, payload.name, some payload.filePath)
  | .swarmFile payload => some (.dockerSwarm, payload.name, none)
  | .composeString payload => some (.dockerCompose, services.normalizeStackName payload.name, none)
  | .composeRepository payload =>
    some (.dockerCompose, services.normalizeStackName payload.name, some payload.filePath)
  | .composeFile payload => some (.dockerCompose, services.normalizeStackName payload.name, none)
  | .kubernetesString _ => some (.kubernetes, "", none)
  | .kubernetesRepository payload => some (.kubernetes, "", some payload.filePathInRepository)
  | .otherMethod _ => none
  | .otherType => none

/-- The file that a stack of a type is deployed from. -/
def entryPointOf (type : StackType) (filePath : Option Path) : Path :=
  filePath.getD (if type = .kubernetes then manifestFileDefaultName else composeFileDefaultName)

/-- The acts that put the files of a new stack in their place. -/
inductive Places (services : Services) (outside : Outside) (stackID : StackID) (type : StackType) :
    Option Path → Act → Prop
  | stores {a : Act} (ha : Stores services stackID (entryPointOf type none) a) :
      Places services outside stackID type none a
  | clones {filePath : Path} {a : Act} (ha : Clones stackID
      (services.getStackProjectPath (itoa stackID)) outside.repository a) :
      Places services outside stackID type (some filePath) a

variable {endpointID : EndpointID} {request : CreateRequest}

theorem leaves_createStackFrom (hI : I h)
    (hc : ∀ type name filePath, request.made services = some (type, name, filePath) →
      (type ≠ .kubernetes →
        nameTaken services h.server.dataStore.stack.all endpoint.id name 0 = false) →
      CreationLeaves R services context h endpoint type name (entryPointOf type filePath) I G ∧
        ∀ stackID h', Drawn R h stackID h' → ∀ a, Places services outside stackID type filePath a → G a) :
    Leaves R (createStackFrom services outside context endpoint request) h (fun _ => I) I := by
  have hswarm : StackType.dockerSwarm ≠ .kubernetes := by decide
  have hcompose : StackType.dockerCompose ≠ .kubernetes := by decide
  cases request with
  | swarmString payload =>
    refine .read_bind (leaves_invalidPayload hI) fun _ _ => ?_
    refine .read_bind (leaves_requireUniqueName hI) fun _ hfree => ?_
    obtain ⟨hkeeps, hplaces⟩ := hc _ _ _ rfl fun _ => hfree
    exact leaves_createFromContent hswarm hkeeps fun i h' hd a ha => hplaces i h' hd a (.stores ha)
  | swarmRepository payload =>
    refine .read_bind (leaves_invalidPayload hI) fun _ _ => ?_
    refine .read_bind (leaves_requireUniqueName hI) fun _ hfree => ?_
    obtain ⟨hkeeps, hplaces⟩ := hc _ _ _ rfl fun _ => hfree
    exact leaves_createFromRepository hswarm hkeeps fun i h' hd a ha => hplaces i h' hd a (.clones ha)
  | swarmFile payload =>
    refine .read_bind (leaves_invalidPayload hI) fun form hform => ?_
    obtain ⟨name, swarmID, content, env⟩ := form
    obtain rfl : name = payload.name := name_of_validateSwarm hform
    refine .read_bind (leaves_requireUniqueName hI) fun _ hfree => ?_
    obtain ⟨hkeeps, hplaces⟩ := hc _ _ _ rfl fun _ => hfree
    exact leaves_createFromContent hswarm hkeeps fun i h' hd a ha => hplaces i h' hd a (.stores ha)
  | composeString payload =>
    refine .read_bind (leaves_invalidPayload hI) fun _ _ => ?_
    refine .read_bind (leaves_requireUniqueName hI) fun _ hfree => ?_
    obtain ⟨hkeeps, hplaces⟩ := hc _ _ _ rfl fun _ => hfree
    exact leaves_createFromContent hcompose hkeeps fun i h' hd a ha => hplaces i h' hd a (.stores ha)
  | composeRepository payload =>
    refine .read_bind (leaves_invalidPayload hI) fun _ _ => ?_
    refine .read_bind (leaves_requireUniqueName hI) fun _ hfree => ?_
    obtain ⟨hkeeps, hplaces⟩ := hc _ _ _ rfl fun _ => hfree
    exact leaves_createFromRepository hcompose hkeeps fun i h' hd a ha => hplaces i h' hd a (.clones ha)
  | composeFile payload =>
    refine .read_bind (leaves_invalidPayload hI) fun form hform => ?_
    obtain ⟨name, content, env⟩ := form
    obtain rfl : name = payload.name := name_of_decodeRequestForm hform
    refine .read_bind (leaves_requireUniqueName hI) fun _ hfree => ?_
    obtain ⟨hkeeps, hplaces⟩ := hc _ _ _ rfl fun _ => hfree
    exact leaves_createFromContent hcompose hkeeps fun i h' hd a ha => hplaces i h' hd a (.stores ha)
  | kubernetesString payload =>
    obtain ⟨hkeeps, hplaces⟩ := hc _ _ _ rfl fun hk => absurd rfl hk
    exact leaves_createKubernetesStackFromFileContent hkeeps
      fun i h' hd a ha => hplaces i h' hd a (.stores ha)
  | kubernetesRepository payload =>
    obtain ⟨hkeeps, hplaces⟩ := hc _ _ _ rfl fun hk => absurd rfl hk
    exact leaves_createKubernetesStackFromGitRepository hkeeps
      fun i h' hd a ha => hplaces i h' hd a (.clones ha)
  | otherMethod type => exact .fail hI
  | otherType => exact .fail hI

theorem leaves_permitCreation {E : Host → Prop} (hE : E h) :
    Leaves R (permitCreation context endpoint) h (fun _ h' => h' = h ∧ True) E := by
  refine .ite (fun _ => ?_) fun _ => .pure ⟨rfl, trivial⟩
  refine .read_bind (P := fun _ => True) (.mapError ?_) fun _ _ => .require (fun _ => ⟨rfl, trivial⟩) hE
  exact .read_bind (leaves_getObject hE) fun _ _ => .pure ⟨rfl, trivial⟩

theorem leaves_stackCreate_of (hI : I h)
    (hc : ∀ endpoint type name filePath,
      h.server.dataStore.endpoint.get? endpointID = some endpoint → endpoint.id = endpointID →
      request.made services = some (type, name, filePath) →
      (type ≠ .kubernetes →
        nameTaken services h.server.dataStore.stack.all endpointID name 0 = false) →
      CreationLeaves R services context h endpoint type name (entryPointOf type filePath) I G ∧
        ∀ stackID h', Drawn R h stackID h' → ∀ a, Places services outside stackID type filePath a → G a) :
    Leaves R (stackCreate services outside context endpointID request) h (fun _ => I) I := by
  refine .read_bind (leaves_findEndpoint hI) fun endpoint hendpoint => ?_
  have hid : endpoint.id = endpointID := Bucket.key_of_get? hendpoint
  refine .read_bind (leaves_permitCreation hI) fun _ _ => ?_
  refine .read_bind (leaves_permitEndpoint hI) fun _ _ => ?_
  refine leaves_createStackFrom (G := G) hI fun type name filePath hmade hfree => ?_
  exact hc endpoint type name filePath hendpoint hid hmade fun hk => hid ▸ hfree hk

/-- **A creation keeps what tolerates its parts.** -/
theorem leaves_stackCreate (hI : I h)
    (hc : ∀ endpoint type name filePath,
      h.server.dataStore.endpoint.get? endpointID = some endpoint → endpoint.id = endpointID →
      request.made services = some (type, name, filePath) →
      (type ≠ .kubernetes →
        nameTaken services h.server.dataStore.stack.all endpointID name 0 = false) →
      CreationKeeps R services context h endpoint type name (entryPointOf type filePath) I G ∧
        ∀ stackID h', Drawn R h stackID h' → ∀ a, Places services outside stackID type filePath a → G a) :
    Leaves R (stackCreate services outside context endpointID request) h (fun _ => I) I := by
  refine leaves_stackCreate_of (G := G) hI fun endpoint type name filePath hendpoint hid hmade hfree => ?_
  obtain ⟨hkeeps, hplaces⟩ := hc endpoint type name filePath hendpoint hid hmade hfree
  exact ⟨hkeeps.creationLeaves, hplaces⟩

end Stacks

end Portainer
