import Mathlib.Data.Fintype.EquivFin
import Portainer.Stacks.Helpers.Moves
import Portainer.Stacks.Atomicity
import Portainer.Stacks.Placement
/-!
# Atomicity of an update from Git

`stackUpdateGit` moves the project of a stack away, clones its repository
anew, and moves the old files back only where the clone is refused before it
has made the directory. From then on an error leaves the new files, or part
of them, and the old ones are removed.
-/

namespace Portainer

open Action (Leaves)
open HandlerError (internalServerError badRequest)
open Path (locate join Below Location)

namespace Stacks

variable {services : Services} {outside : Outside} {context : RequestContext} {stackID : StackID}
variable {stack : Stack} {endpointID : Option EndpointID} {endpoint : Endpoint}
variable {payload : UpdateStackGitPayload} {T U : Location → Prop}
variable {w : Sys Callee Host} {h : Host}

/-! ## `stackUpdateGit`, in parts -/

/-- Until the project is moved. -/
def checkForGitUpdate (context : RequestContext) (endpointID : Option EndpointID)
    (payload : UpdateStackGitPayload) (stack : Stack) : Handler Host (Stack × Endpoint) := do
  let gitConfig ← .ofExcept
    (stack.gitConfig.elim (.error (badRequest "Stack is not created from git" "")) .ok)
  let endpoint ← checkForUpdate context stack endpointID
  invalidPayload payload.validate
  return ({ stack with
    endpointID := endpointID.getD 0
    gitConfig := some { gitConfig with referenceName := payload.repositoryReferenceName } }, endpoint)

/-- Once the new files are there. -/
def deployGit (services : Services) (outside : Outside) (context : RequestContext) (stack : Stack)
    (endpoint : Endpoint) : Handler Host Stack :=
  Action.defer (removeBackup stack) do
    let stack ← deployStack services outside context stack endpoint
    (updateStack stack).mapError unpersistedChanges
    return stack

/-- The rest. -/
def replaceAndDeploy (services : Services) (outside : Outside) (context : RequestContext)
    (r : Stack × Endpoint) : Handler Host Stack := do
  (moveDirectory r.1.projectPath (backupProjectPath r.1)).mapError
    (internalServerError "Unable to move git repository directory")
  replaceProject outside r.1
  deployGit services outside context r.1 r.2

theorem stackUpdateGit_eq : stackUpdateGit services outside context stackID endpointID payload =
    (findStack stackID >>= checkForGitUpdate context endpointID payload) >>=
      replaceAndDeploy services outside context := by
  simp only [stackUpdateGit, findForUpdate_eq, checkForGitUpdate, replaceAndDeploy, deployGit,
    Action.bind_assoc, Action.pure_bind]

/-- What is configured is the stack that is given. -/
theorem createDeployConfig_bind {α : Type} {prune : Bool} {f : DeploymentConfig → Handler Host α} :
    createDeployConfig context stack endpoint prune >>= f =
      createDeployConfig context stack endpoint prune >>= fun config =>
        f { config with stack := stack } := by
  simp only [createDeployConfig, Action.bind_assoc, Action.pure_bind]

/-! ## On two disks -/

theorem respects_deployStack (hfile : ¬ T (locate (stackFilePath stack)))
    (henv : ¬ T (locate (join [stack.projectPath, ".env".toList]))) :
    (deployStack services outside context stack endpoint).Respects (AgreeOff T U) := by
  unfold deployStack
  rw [createDeployConfig_bind]
  refine .bind respects_createDeployConfig fun config => ?_
  exact .bind (.mapError (respects_deployAs hfile henv)) fun _ => .pure

/-- **A place and its place in the backup**: what is in one before the move is
in the other after it. -/
theorem respects_replaceAndDeploy (hfile : ¬ T (locate (stackFilePath stack)))
    (henv : ¬ T (locate (join [stack.projectPath, ".env".toList])))
    (hproject : ¬ T (locate stack.projectPath)) (hbackup : ¬ T (locate (backupProjectPath stack)))
    (hmove : ∀ l, T ((locate stack.projectPath).under l) ↔ T ((locate (backupProjectPath stack)).under l)) :
    (replaceAndDeploy services outside context (stack, endpoint)).Respects
      (AgreeOff T fun _ => False) := by
  have hmoved : ∀ l, (T ((locate stack.projectPath).under l) → T ((locate (backupProjectPath stack)).under l)) ∧
      (False → False) := fun l => ⟨(hmove l).mp, id⟩
  have hback : ∀ l, (T ((locate (backupProjectPath stack)).under l) → T ((locate stack.projectPath).under l)) ∧
      (False → False) := fun l => ⟨(hmove l).mpr, id⟩
  refine .bind (.mapError (respects_moveDirectory ⟨hproject, id⟩ ⟨hbackup, id⟩ hmoved)) fun _ => ?_
  refine .bind (.onError (.mapError respects_cloneRepository) ?_) fun _ => .defer ?_ ?_
  · exact .bind (.attempt (respects_moveDirectory ⟨hbackup, id⟩ ⟨hproject, id⟩ hback)) fun _ => .pure
  · refine .bind (respects_deployStack hfile henv) fun stack' => ?_
    exact .bind (.mapError respects_onServer) fun _ => .pure
  · exact .bind (.attempt (respects_perform fun _ _ => nofun)) fun _ => .pure

/-! ## What the parts leave -/

theorem glances_checkForGitUpdate :
    Glances (findStack stackID >>= checkForGitUpdate context endpointID payload) := by
  refine .of_leaves (P := fun _ _ => True) ?_ fun h => ?_
  · refine .bind respects_findStack fun stack => .bind .ofExcept fun gitConfig => ?_
    exact .bind respects_checkForUpdate fun _ => .bind (.mapError .ofExcept) fun _ => .pure
  · refine .read_bind (leaves_findStack rfl) fun stack _ => ?_
    refine .read_bind (P := fun _ => True) (.ofExcept (fun _ _ => ⟨rfl, trivial⟩) rfl) fun gitConfig _ => ?_
    refine .read_bind (leaves_checkForUpdate rfl) fun endpoint _ => ?_
    exact .read_bind (leaves_invalidPayload rfl) fun _ _ => .pure ⟨rfl, trivial⟩

/-- Which stack is updated, and on which environment. -/
theorem ensures_checkForGitUpdate (hown : Own services stack) (hstored : Stored h stack) :
    Action.Ensures (findStack stack.id >>= checkForGitUpdate context endpointID payload) h
      fun r _ => Own services r.1 ∧ r.1.id = stack.id := by
  refine Leaves.ensures (E := fun _ => True) ?_
  refine .read_bind (leaves_findStack trivial) fun found ⟨hfound, hid⟩ => ?_
  obtain rfl : found = stack := by
    rw [Stored, hid, hstored] at hfound
    exact (Option.some.inj hfound).symm
  refine .read_bind (P := fun _ => True) (.ofExcept (fun _ _ => ⟨rfl, trivial⟩) trivial) fun gitConfig _ => ?_
  refine .read_bind (leaves_checkForUpdate trivial) fun endpoint _ => ?_
  exact .read_bind (leaves_invalidPayload trivial) fun _ _ => .pure ⟨hown, rfl⟩

/-- The checks make no call to the file service, nor to the Git service. -/
theorem untouched_checkForGitUpdate {k : Callee} (hk : k ≠ .databaseRead) :
    (findStack stackID >>= checkForGitUpdate context endpointID payload).Untouched k := by
  have hlookup : ∀ {α : Type} {missing : String} {g : Server → Option α} {f : String → HandlerError},
      ((onServer (Action.lookup .databaseRead missing g)).mapError f).Untouched k :=
    .mapError (.zoom (.lookup hk))
  refine .bind hlookup fun stack => .bind .ofExcept fun gitConfig => .bind ?_ fun endpoint => ?_
  · refine .bind hlookup fun endpoint => .bind ?_ fun _ => .bind ?_ fun rc => .bind ?_ fun _ => .pure
    · refine .mapError (.zoom (.bind .pure fun tokenData => .ite .pure ?_))
      exact .bind (.query hk) fun _ => .bind (.lookup hk) fun _ => .require
    · exact .mapError (.zoom (.query hk))
    · exact .bind (.mapError (.bind (.zoom (.lookup hk)) fun _ => .pure)) fun _ => .require
  · exact .bind (.mapError .ofExcept) fun _ => .pure

/-! ## Files that are gone -/

/-- An act that does not make the file. -/
def Act.Misses (m : Location) (a : Act) : Prop :=
  ∀ fs : FileSystem, fs.files m = none → (a.onDisk fs).files m = none

theorem tolerates_misses {m : Location} :
    Tolerates (fun h => h.fileSystem.files m = none) (Act.Misses m) :=
  fun h _ ha hm => ha h.fileSystem hm

theorem misses_write {m : Location} {a : Act} {path : Path} {content : String}
    (hdisk : ∀ fs, a.onDisk fs = fs.write (locate path) content) (hne : m ≠ locate path) :
    a.Misses m := by
  intro fs hm
  rw [hdisk]
  simp [FileSystem.write, hne, hm]

theorem misses_deploys {m : Location} {a : Act} (hne : m ≠ locate (envFilePath stack))
    (ha : Deploys stack a) : a.Misses m := by
  cases ha with
  | openEnv => exact misses_write (fun _ => rfl) hne
  | writeEnv => exact misses_write (fun _ => rfl) hne
  | readStackFile => exact fun _ hm => hm
  | readEnv => exact fun _ hm => hm
  | deploy => exact fun _ hm => hm
  | takeDown => exact fun _ hm => hm

/-- Once the new files are there, no file comes back. -/
theorem keeps_deployGit {m : Location} (hne : m ≠ locate (envFilePath stack)) :
    (deployGit services outside context stack endpoint).Keeps fun h => h.fileSystem.files m = none := by
  have hserver : ∀ {α ε : Type} {x : Action Callee Server ε α}, x.Keeps (fun _ => True) →
      (onServer x).Keeps fun h => h.fileSystem.files m = none :=
    fun hx => .zoom hx (fun _ _ => trivial) fun _ _ hm _ => hm
  refine keeps_defer ?_ (keeps_removeBackup tolerates_misses fun fs hm => by
    simp [Act.onDisk, FileSystem.removeAll, hm])
  refine .bind ?_ fun stack' => ?_
  · unfold deployStack
    rw [createDeployConfig_bind]
    refine .bind ?_ fun config => .bind (.mapError ?_) fun _ => .pure
    · exact .bind (.mapError (hserver .lookup)) fun user =>
        .bind (.mapError (hserver .query)) fun registries => .pure
    · exact keeps_deployAs tolerates_misses fun a ha => misses_deploys hne ha
  · exact .bind (.mapError (hserver (.call fun _ _ => trivial))) fun _ => .pure

/-- **A project that was moved away and not back is gone.** -/
theorem files_replaceAndDeploy {m : Location} (hown : Own services stack)
    (hm : Below (projectDirectory services stack.id) m) (hclear : w.Clear .fileService 3)
    (hmovable : Movable w.store.fileSystem (projectDirectory services stack.id)
      (backupDirectory services stack.id)) (hno : ¬ MovesBack w 3)
    (hfresh : ∀ file ∈ outside.repository, m ≠ locate (join (stack.projectPath :: file.path)))
    (hne : m ≠ locate (envFilePath stack)) :
    ((replaceAndDeploy services outside context (stack, endpoint)).run w).2.store.fileSystem.files m = none := by
  rw [← hown.locate_projectPath, ← hown.locate_backup] at hmovable
  let w₁ : Sys Callee Host :=
    ⟨w.store.perform (.rename stack.projectPath (backupProjectPath stack)), afterMove w⟩
  have hmoved : ((moveDirectory stack.projectPath (backupProjectPath stack)).mapError
      (internalServerError "Unable to move git repository directory")).run w = (.ok (), w₁) :=
    Action.mapError_run_ok.mpr (moveDirectory_run_ok.mpr ⟨hclear, hmovable, rfl⟩)
  have hgone : w₁.store.fileSystem.files m = none := by
    refine FileSystem.files_rename_old ?_ ?_
    · rw [hown.locate_projectPath, hown.locate_backup]
      exact apart_backup
    · rw [hown.locate_projectPath]
      exact hm.1
  have hreplaced : ((replaceProject outside stack).run w₁).2.store.fileSystem.files m = none :=
    files_replaceProject (mt movesBack_afterMove.mp hno) hgone hfresh
  have hrun : (replaceAndDeploy services outside context (stack, endpoint)).run w =
      (replaceProject outside stack >>= fun _ =>
        deployGit services outside context stack endpoint).run w₁ := Action.bind_run_of_ok hmoved
  rw [hrun]
  exact Action.Keeps.store_bind hreplaced fun _ => keeps_deployGit hne

/-! ## Files that are spared -/

/-- **A project that is not moved, or moved back, is spared.** -/
theorem spares_replaceAndDeploy (hown : Own services stack)
    (h : ¬ (w.Clear .fileService 3 ∧ Movable w.store.fileSystem (projectDirectory services stack.id)
      (backupDirectory services stack.id)) ∨ MovesBack w 3) :
    Spares services stack.id (replaceAndDeploy services outside context (stack, endpoint)) w := by
  have hproject := hown.locate_projectPath
  have hbackup := hown.locate_backup
  by_cases hmove : w.Clear .fileService 3 ∧ Movable w.store.fileSystem
      (projectDirectory services stack.id) (backupDirectory services stack.id)
  · have hback := h.resolve_left fun hno => hno hmove
    obtain ⟨hclear, hmovable⟩ := hmove
    rw [← hproject, ← hbackup] at hmovable
    let w₁ : Sys Callee Host :=
      ⟨w.store.perform (.rename stack.projectPath (backupProjectPath stack)), afterMove w⟩
    have hmoved : ((moveDirectory stack.projectPath (backupProjectPath stack)).mapError
        (internalServerError "Unable to move git repository directory")).run w = (.ok (), w₁) :=
      Action.mapError_run_ok.mpr (moveDirectory_run_ok.mpr ⟨hclear, hmovable, rfl⟩)
    have hthere : Movable w₁.store.fileSystem (locate (backupProjectPath stack))
        (locate stack.projectPath) := by
      refine ⟨?_, ?_⟩
      · exact FileSystem.exists_rename_new.trans hmovable.1
      · refine FileSystem.exists_rename_old ?_
        rw [hproject, hbackup]
        exact apart_backup
    obtain ⟨e, w₂, hrestored, hstore⟩ : ∃ e w₂, (replaceProject outside stack).run w₁ = (.error e, w₂) ∧
        w₂.store = w₁.store.perform (.rename (backupProjectPath stack) stack.projectPath) :=
      replaceProject_restores (movesBack_afterMove.mpr hback) hthere
    have hrun : (replaceAndDeploy services outside context (stack, endpoint)).run w = (.error e, w₂) :=
      (Action.bind_run_of_ok hmoved).trans (Action.bind_run_of_error hrestored)
    intro e' w' hrun'
    rw [hrun] at hrun'
    obtain ⟨-, rfl⟩ := Prod.mk.inj hrun'
    rw [hstore]
    refine ⟨rfl, ?_⟩
    rw [← hproject]
    exact sameBelow_rename_rename
  · rw [← hproject, ← hbackup] at hmove
    obtain ⟨text, w₁, hfails, hstore⟩ := moveDirectory_fails hmove
    have hrun : (replaceAndDeploy services outside context (stack, endpoint)).run w = (.error _, w₁) :=
      Action.bind_run_of_error (Action.mapError_run_of_error hfails)
    intro e' w' hrun'
    rw [hrun] at hrun'
    obtain ⟨-, rfl⟩ := Prod.mk.inj hrun'
    rw [hstore]
    exact ⟨rfl, .refl⟩

/-! ## Which failures are spared -/

/-- **A name that the request does not know of**: no element of the places
that it looks at or writes. -/
structure Fresh (services : Services) (outside : Outside) (stack : Stack) (n : Path) : Prop where
  project : n ∉ (projectDirectory services stack.id).elements
  backup : n ∉ (backupDirectory services stack.id).elements
  stackFile : n ∉ (locate (stackFilePath stack)).elements
  readEnv : n ∉ (locate (join [stack.projectPath, ".env".toList])).elements
  writtenEnv : n ∉ (locate (envFilePath stack)).elements
  cloned : ∀ file ∈ outside.repository, n ∉ (locate (join (stack.projectPath :: file.path))).elements

theorem exists_fresh (services : Services) (outside : Outside) (stack : Stack) :
    ∃ n, Fresh services outside stack n := by
  obtain ⟨n, hn⟩ := Infinite.exists_notMem_finset ((projectDirectory services stack.id ::
    backupDirectory services stack.id :: locate (stackFilePath stack) ::
    locate (join [stack.projectPath, ".env".toList]) :: locate (envFilePath stack) ::
    outside.repository.map fun file => locate (join (stack.projectPath :: file.path))).flatMap
      Location.elements).toFinset
  rw [List.mem_toFinset, List.mem_flatMap] at hn
  have hn : ∀ k ∈ projectDirectory services stack.id :: backupDirectory services stack.id ::
      locate (stackFilePath stack) :: locate (join [stack.projectPath, ".env".toList]) ::
      locate (envFilePath stack) ::
      outside.repository.map (fun file => locate (join (stack.projectPath :: file.path))),
      n ∉ k.elements := fun k hk hmem => hn ⟨k, hk, hmem⟩
  simp only [List.forall_mem_cons, List.forall_mem_map] at hn
  obtain ⟨hproject, hbackup, hfile, hread, hwritten, hcloned⟩ := hn
  exact ⟨n, hproject, hbackup, hfile, hread, hwritten, hcloned⟩

theorem under_ne {d k : Location} {n : Path} (hk : n ∉ k.elements) : d.under [n] ≠ k := by
  rintro rfl
  simp [Location.under] at hk

/-- A file under a fresh name makes no difference, before the move and after
it. -/
theorem Fresh.respects {n : Path} (hn : Fresh services outside stack n) (hown : Own services stack) :
    (replaceAndDeploy services outside context (stack, endpoint)).Respects
      (AgreeOff (fun k => k = (projectDirectory services stack.id).under [n] ∨
        k = (backupDirectory services stack.id).under [n]) fun _ => False) := by
  have hmarks : ∀ {k : Location}, n ∉ k.elements → ¬ (k = (projectDirectory services stack.id).under [n] ∨
      k = (backupDirectory services stack.id).under [n]) := by
    rintro k hk (heq | heq)
    · exact under_ne hk heq.symm
    · exact under_ne hk heq.symm
  have hunder : ∀ {d : Location} {l l' : List Path}, d.under l = d.under l' ↔ l = l' := by
    intro d l l'
    simp [Location.under]
  have happart : ∀ l l', (projectDirectory services stack.id).under l ≠
      (backupDirectory services stack.id).under l' := by
    intro l l' heq
    have hin : Path.Inside (projectDirectory services stack.id)
        ((projectDirectory services stack.id).under l) := Path.inside_under
    exact apart_backup _ hin (heq ▸ Path.inside_under)
  refine respects_replaceAndDeploy (hmarks hn.stackFile) (hmarks hn.readEnv) ?_ ?_ fun l => ?_
  · rw [hown.locate_projectPath]
    exact hmarks hn.project
  · rw [hown.locate_backup]
    exact hmarks hn.backup
  · rw [hown.locate_projectPath, hown.locate_backup, hunder, hunder, or_iff_left (happart l [n]),
      or_iff_right (happart [n] l).symm]

/-- Where a request fails once the project was moved away for good, it fails
as well on a disk with one file more, which it loses. -/
theorem not_atomic_of_fails {fs : FileSystem} (hown : Own services stack)
    (hclear : w.Clear .fileService 3) (hno : ¬ MovesBack w 3)
    (hmovable : Movable fs (projectDirectory services stack.id) (backupDirectory services stack.id))
    (hfails : Fails (replaceAndDeploy services outside context (stack, endpoint)) (withDisk w fs)) :
    ¬ Atomic services stack.id (replaceAndDeploy services outside context (stack, endpoint)) w := by
  intro hatomic
  obtain ⟨n, hn⟩ := exists_fresh services outside stack
  let m := (projectDirectory services stack.id).under [n]
  let w₁ := withDisk w (fs.write m "")
  have hbelow : Below (projectDirectory services stack.id) m := ⟨Path.inside_under, under_ne hn.project⟩
  have hagree : AgreeOff (fun k => k = m ∨ k = (backupDirectory services stack.id).under [n])
      (fun _ => False) (withDisk w fs).store w₁.store :=
    agreeOff_write.mono (fun k hk => .inl hk) fun _ hk => hk
  have hrelates : (replaceAndDeploy services outside context (stack, endpoint)).Relates
      (AgreeOff (fun k => k = m ∨ k = (backupDirectory services stack.id).under [n]) fun _ => False)
      (fun _ _ => True) fun _ _ => True :=
    .of_respects (hn.respects hown) (fun _ _ _ => trivial) fun _ _ _ => trivial
  obtain ⟨e, w', hrun⟩ := (fails_iff_of_relates hrelates hagree).mp hfails
  have hexists : ∀ d : Location, d ≠ m → (fs.write m "").exists? d = fs.exists? d := by
    intro d hd
    simp [FileSystem.exists?, FileSystem.write, hd]
  have hmovable₁ : Movable w₁.store.fileSystem (projectDirectory services stack.id)
      (backupDirectory services stack.id) :=
    ⟨(hexists _ (under_ne hn.project).symm).trans hmovable.1,
      (hexists _ (under_ne hn.backup).symm).trans hmovable.2⟩
  have hgone : ((replaceAndDeploy services outside context (stack, endpoint)).run w₁).2.store.fileSystem.files
      m = none :=
    files_replaceAndDeploy hown hbelow hclear hmovable₁ hno
      (fun file hfile => under_ne (hn.cloned file hfile)) (under_ne hn.writtenEnv)
  have hrun₁ : (replaceAndDeploy services outside context (stack, endpoint)).run w₁ = (.error e, w') := hrun
  have hkept : w'.store.fileSystem.files m = w₁.store.fileSystem.files m :=
    ((hatomic (fs.write m "") e w' hrun₁).2 m hbelow).1
  have hwritten : w₁.store.fileSystem.files m = some "" := by
    simp [w₁, withDisk, FileSystem.write]
  rw [hrun₁] at hgone
  rw [hwritten] at hkept
  exact Option.some_ne_none _ (hkept.symm.trans hgone)

theorem atomic_replaceAndDeploy_iff (hown : Own services stack) :
    Atomic services stack.id (replaceAndDeploy services outside context (stack, endpoint)) w ↔
      (¬ w.Clear .fileService 3 ∨ MovesBack w 3) ∨
        ∀ fs, Movable fs (projectDirectory services stack.id) (backupDirectory services stack.id) →
          Succeeds (replaceAndDeploy services outside context (stack, endpoint)) (withDisk w fs) := by
  constructor
  · intro hatomic
    by_cases hearly : ¬ w.Clear .fileService 3 ∨ MovesBack w 3
    · exact .inl hearly
    rw [not_or, not_not] at hearly
    refine .inr fun fs hmovable => succeeds_of_not_fails fun hfails => ?_
    exact not_atomic_of_fails hown hearly.1 hearly.2 hmovable hfails hatomic
  · rintro ((hclear | hback) | hsucceeds) fs
    · exact spares_replaceAndDeploy hown (.inl fun hmove => hclear hmove.1)
    · exact spares_replaceAndDeploy hown (.inr hback)
    · by_cases hmovable : Movable fs (projectDirectory services stack.id) (backupDirectory services stack.id)
      · exact (hsucceeds fs hmovable).spares
      · exact spares_replaceAndDeploy hown (.inl fun hmove => hmovable hmove.2)

/-- **`stackUpdateGit` fails before it moves the project away for good**: a
check fails, or one of the three calls of the move, or the files are moved
back. -/
def GitUpdateFailsEarly (context : RequestContext) (endpointID : Option EndpointID)
    (payload : UpdateStackGitPayload) (stack : Stack) (w : Sys Callee Host) : Prop :=
  Fails (findStack stack.id >>= checkForGitUpdate context endpointID payload) w ∨
    ¬ w.Clear .fileService 3 ∨ MovesBack w 3

/-- **An error of `stackUpdateGit` spares the stack** exactly where the project
is not moved away for good. A project that is not there, or whose backup is,
is not moved at all. -/
theorem atomic_stackUpdateGit_iff (hown : Own services stack) (hstored : Stored w.store stack) :
    Atomic services stack.id (stackUpdateGit services outside context stack.id endpointID payload) w ↔
      GitUpdateFailsEarly context endpointID payload stack w ∨
        ∀ fs, Movable fs (projectDirectory services stack.id) (backupDirectory services stack.id) →
          Succeeds (stackUpdateGit services outside context stack.id endpointID payload)
            (withDisk w fs) := by
  have huntouched : ∀ k, k ≠ .databaseRead → ((findStack stack.id >>=
      checkForGitUpdate context endpointID payload).run w).2.faults k = w.faults k :=
    fun k hk => untouched_checkForGitUpdate hk w
  rw [stackUpdateGit_eq]
  have hglances : Glances (findStack stack.id >>= checkForGitUpdate context endpointID payload) :=
    glances_checkForGitUpdate
  obtain ⟨r, faults', hrun⟩ := hglances.run w
  have hhere := hrun w.store.fileSystem
  cases r with
  | error e => exact ⟨fun _ => .inl (.inl ⟨e, _, hhere⟩), fun _ => atomic_of_error hrun⟩
  | ok r =>
    obtain ⟨moved, endpoint⟩ := r
    obtain ⟨hmoved, hid⟩ : Own services moved ∧ moved.id = stack.id :=
      ensures_checkForGitUpdate hown hstored w _ _ rfl hhere
    let w₁ : Sys Callee Host := ⟨w.store, faults'⟩
    have hfaults : ∀ k, k ≠ .databaseRead → w₁.faults k = w.faults k := by
      intro k hk
      have hk' := huntouched k hk
      rwa [show (findStack stack.id >>= checkForGitUpdate context endpointID payload).run w = _ from hhere]
        at hk'
    have hfile : w₁.faults .fileService = w.faults .fileService := hfaults _ (by decide)
    have hgit : w₁.faults .gitService = w.faults .gitService := hfaults _ (by decide)
    have hnot : ¬ Fails (findStack stack.id >>= checkForGitUpdate context endpointID payload) w :=
      Succeeds.not_fails ⟨_, _, hhere⟩
    have hclear : w₁.Clear .fileService 3 ↔ w.Clear .fileService 3 := by
      unfold Sys.Clear
      rw [hfile]
    have hback : MovesBack w₁ 3 ↔ MovesBack w 3 := by
      refine movesBack_congr ?_ ?_
      · rw [Sys.fault, hgit, Sys.fault]
      · rw [hfile]
    have hiff : Atomic services moved.id (replaceAndDeploy services outside context (moved, endpoint)) w₁ ↔
        (¬ w₁.Clear .fileService 3 ∨ MovesBack w₁ 3) ∨
          ∀ fs, Movable fs (projectDirectory services moved.id) (backupDirectory services moved.id) →
            Succeeds (replaceAndDeploy services outside context (moved, endpoint)) (withDisk w₁ fs) :=
      atomic_replaceAndDeploy_iff hmoved
    rw [hid, hclear, hback] at hiff
    have hsucceeds : ∀ fs, Succeeds ((findStack stack.id >>= checkForGitUpdate context endpointID payload) >>=
        replaceAndDeploy services outside context) (withDisk w fs) ↔
        Succeeds (replaceAndDeploy services outside context (moved, endpoint))
          (withDisk w₁ fs) := fun fs => succeeds_bind_iff (hrun fs)
    rw [atomic_bind_iff hrun, hiff]
    refine or_congr ?_ (forall_congr' fun fs => imp_congr_right fun _ => (hsucceeds fs).symm)
    unfold GitUpdateFailsEarly
    rw [or_iff_right hnot]

/-! ## Every stack -/

/-- **Which errors of an update spare the stack.** After any requests, from a
host without stacks. -/
theorem updates_atomic_iff {attempts : List Attempt} {gitPayload : UpdateStackGitPayload}
    {updatePayload : UpdateStackPayload} (hinit : ∀ id, h.server.dataStore.stack.get? id = none)
    (hrun : (machine services).run h attempts = some w.store) (hstored : Stored w.store stack) :
    (Atomic services stack.id (stackUpdate services outside context stack.id endpointID updatePayload) w ↔
      UpdateFailsEarly services outside context endpointID updatePayload stack w ∨
        ∀ fs, Succeeds (stackUpdate services outside context stack.id endpointID updatePayload)
          (withDisk w fs)) ∧
    (Atomic services stack.id (stackUpdateGit services outside context stack.id endpointID gitPayload) w ↔
      GitUpdateFailsEarly context endpointID gitPayload stack w ∨
        ∀ fs, Movable fs (projectDirectory services stack.id) (backupDirectory services stack.id) →
          Succeeds (stackUpdateGit services outside context stack.id endpointID gitPayload)
            (withDisk w fs)) := by
  have hown : Own services stack := allOwn_of_run hinit hrun _ _ hstored
  exact ⟨atomic_stackUpdate_iff hown hstored, atomic_stackUpdateGit_iff hown hstored⟩

/-- One environment, and its administrator. -/
def emptyCluster : Host where
  server := {
    dataStore := {
      user := ({} : Bucket User).put { id := 1, username := "admin", role := .administrator }
      endpointGroup := ({} : Bucket EndpointGroup).put { id := 1 }
      endpoint := ({} : Bucket Endpoint).put { id := 1 } }
    issuedTokens := [⟨1, "admin", .administrator⟩] }

/-- A repository with a Compose file. -/
def composeRepository (content : String) : Outside where
  repository := [⟨[composeFileDefaultName], by simpa using segment_composeFile, content, false⟩]
  plain := List.forall_mem_singleton.mpr rfl

/-- The administrator makes a stack from the repository. -/
def createShop : Attempt where
  request := .create 1 (.composeRepository { name := "shop", repositoryURL := "https://git" })
  token := some ⟨1, "admin", .administrator⟩
  outside := composeRepository "old"

/-- The host with the stack. -/
def shopCluster : Host := (createShop.run plainServices emptyCluster).2.store

/-- What the administrator's requests carry. -/
def adminContext : RequestContext where
  tokenData := ⟨1, "admin", .administrator⟩
  restricted := { isAdmin := true, userID := 1 }

/-- The host where the manager of Compose stacks fails once. -/
def deployFails : Sys Callee Host where
  store := shopCluster
  faults k := if k = .stackManager then [some "exit status 1"] else []

theorem exists_shop : ∃ stack, Stored shopCluster stack ∧ stack.id = 1 := by
  have hsome : (shopCluster.server.dataStore.stack.get? 1).isSome = true := by decide
  obtain ⟨stack, hstack⟩ := Option.isSome_iff_exists.mp hsome
  have hid : stack.id = 1 := Bucket.key_of_get? hstack
  exact ⟨stack, by rw [Stored, hid]; exact hstack, hid⟩

theorem updates_atomic_iff_shop : ∃ stack, Stored shopCluster stack ∧
    (Atomic plainServices stack.id (stackUpdate plainServices {} adminContext stack.id (some 1)
        { stackFileContent := "new" }) deployFails ↔
      UpdateFailsEarly plainServices {} adminContext (some 1) { stackFileContent := "new" } stack
          deployFails ∨
        ∀ fs, Succeeds (stackUpdate plainServices {} adminContext stack.id (some 1)
          { stackFileContent := "new" }) (withDisk deployFails fs)) ∧
    (Atomic plainServices stack.id (stackUpdateGit plainServices {} adminContext stack.id (some 1) {})
        deployFails ↔
      GitUpdateFailsEarly adminContext (some 1) {} stack deployFails ∨
        ∀ fs, Movable fs (projectDirectory plainServices stack.id) (backupDirectory plainServices stack.id) →
          Succeeds (stackUpdateGit plainServices {} adminContext stack.id (some 1) {})
            (withDisk deployFails fs)) := by
  obtain ⟨stack, hstored, -⟩ := exists_shop
  have hinit : ∀ id, emptyCluster.server.dataStore.stack.get? id = none := fun id => by
    simp [emptyCluster]
  have hrun : (machine plainServices).run emptyCluster [createShop] = some deployFails.store := rfl
  exact ⟨stack, hstored, updates_atomic_iff hinit hrun hstored⟩

/-- **An update that cannot be deployed** has replaced the stack file, and an
update from Git has replaced the project. -/
theorem not_spares_of_deploy_error : ∃ stack, Stored shopCluster stack ∧
    (machine plainServices).run emptyCluster [createShop] = some shopCluster ∧
    ¬ Spares plainServices stack.id (stackUpdate plainServices {} adminContext stack.id (some 1)
      { stackFileContent := "new" }) deployFails ∧
    ¬ Spares plainServices stack.id (stackUpdateGit plainServices (composeRepository "new") adminContext
      stack.id (some 1) {}) deployFails := by
  obtain ⟨stack, hstored, hid⟩ := exists_shop
  have hbelow : Below (projectDirectory plainServices 1) (locate "/data/compose/1/docker-compose.yml".toList) := by
    decide
  refine ⟨stack, hstored, rfl, ?_⟩
  rw [hid]
  refine ⟨fun hspares => ?_, fun hspares => ?_⟩
  · have hkept := ((hspares _ _ rfl).2 _ hbelow).1
    exact absurd hkept (by decide)
  · have hkept := ((hspares _ _ rfl).2 _ hbelow).1
    exact absurd hkept (by decide)

end Stacks

end Portainer
