import Portainer.Stacks.Helpers.Creation
/-!
# Security settings of deployments

The settings of an environment forbid regular users some of what a Compose
file can ask for, and a file is checked before it is deployed for such a
user. The check of a Swarm stack is made under one of the settings only,
a start makes no check, and between the check of a Compose stack and its
deployment the variables are written to a file of their own, which may be
the stack file.

`allPermitted_of_run` shows that what is deployed is permitted along the
runs in which every file is checked, or permitted anyway where it is
started; `not_allPermitted` deploys a Swarm stack with a privileged service.
-/

namespace Portainer

open Action (Leaves Meets)
open Path (locate join)

namespace Stacks

variable {services : Services} {h h' : Host} {s : Server} {stack : Stack} {endpoint : Endpoint}
variable {R : Callee → Prop}

/-- **The content asks for nothing that the settings of the environment
forbid**, if they forbid anything. -/
def Permits (services : Services) (endpoint : Endpoint) (content : String) : Prop :=
  restrictsCompose endpoint.securitySettings = true →
    isValidStackFile services content endpoint.securitySettings = .ok ()

/-- A deployment is permitted by the settings in force on its
environment. -/
def Act.Permitted (services : Services) (s : Server) : Act → Prop
  | .deploy _ endpoint _ content =>
    s.dataStore.endpoint.get? endpoint.id = some endpoint ∧ Permits services endpoint content
  | _ => True

/-- **Whatever was deployed was permitted.** -/
def AllPermitted (services : Services) (h : Host) : Prop :=
  ∀ a ∈ h.history, a.Permitted services h.server

/-- The variables of the stack are written over its stack file. -/
def Overwrites (services : Services) (stack : Stack) : Prop :=
  services.composeStackManager = .dockerCompose ∧ stack.env ≠ [] ∧
    locate (stackFilePath stack) = locate (join [stack.projectPath, "stack.env".toList])

instance : Decidable (Overwrites services stack) := inferInstanceAs (Decidable (_ ∧ _ ∧ _))

/-- The content of a file of variables. -/
def envFile (env : List Pair) : String := String.join (env.map envLine)

/-- What a manager may find in the stack file when the stack is started: what
it holds, or those of the variables whose lines could be written over it. -/
def HandedOver (services : Services) (fs : FileSystem) (stack : Stack) (content : String) : Prop :=
  if stack.type ≠ .dockerSwarm ∧ Overwrites services stack then
    ∃ env, env.Sublist stack.env ∧ content = envFile env
  else fs.files (locate (stackFilePath stack)) = some content

/-- **The stack file is checked, and is deployed as it was checked**, where
the settings forbid anything. -/
def Checked (services : Services) (stack : Stack) (endpoint : Endpoint) : Prop :=
  restrictsCompose endpoint.securitySettings = true →
    if stack.type = .dockerSwarm then endpoint.securitySettings.allowBindMountsForRegularUsers = false
    else ¬ Overwrites services stack

/-- **A regular user's request deploys only what was checked**, or starts a
stack whose file is permitted. -/
def DeploysChecked (services : Services) (h : Host) (a : Attempt) : Prop :=
  (∀ tokenData user, a.token = some tokenData → h.server.dataStore.user.get? tokenData.id = some user →
    user.role ≠ .administrator) ∧
  match a.request with
  | .create endpointID request => ∀ endpoint type name filePath stack,
      h.server.dataStore.endpoint.get? endpointID = some endpoint → type ≠ .kubernetes →
        request.made services = some (type, name, filePath) →
          Made services endpoint type name (entryPointOf type filePath) stack → Checked services stack endpoint
  | .update stackID endpointID payload => ∀ stack endpoint, Stored h stack → stack.id = stackID →
      h.server.dataStore.endpoint.get? (endpointID.getD 0) = some endpoint →
        Checked services { stack with env := payload.env } endpoint
  | .updateGit stackID endpointID _ => ∀ stack endpoint, Stored h stack → stack.id = stackID →
      stack.gitConfig.isSome = true → h.server.dataStore.endpoint.get? (endpointID.getD 0) = some endpoint →
        Checked services stack endpoint
  | .start stackID => ∀ stack endpoint, Stored h stack → stack.id = stackID → stack.type ≠ .kubernetes →
      stack.status ≠ .active → h.server.dataStore.endpoint.get? stack.endpointID = some endpoint →
        ∀ content, HandedOver services h.fileSystem stack content → Permits services endpoint content
  | .stop _ => True
  | _ => False

/-! ## Handing over -/

/-- Nothing is deployed. -/
def Act.Quiet : Act → Prop
  | .deploy _ _ _ _ => False
  | _ => True

theorem Act.Quiet.permitted {a : Act} (ha : a.Quiet) : a.Permitted services s := by
  cases a with
  | deploy stack endpoint prune content => exact ha.elim
  | _ => trivial

theorem AllPermitted.perform {a : Act} (hall : AllPermitted services h) (ha : a.Permitted services h.server) :
    AllPermitted services (h.perform a) := by
  intro b hb
  rcases List.mem_append.mp hb with hb | hb
  · exact hall b hb
  · rw [List.mem_singleton] at hb
    exact hb ▸ ha

theorem tolerates_allPermitted : Tolerates (AllPermitted services) Act.Quiet :=
  fun _ _ ha hall => hall.perform ha.permitted

/-- Nothing that was not permitted was deployed on the server. -/
abbrev On (services : Services) (s : Server) (h : Host) : Prop := AllPermitted services h ∧ h.server = s

/-- What the stack file holds is permitted on the environment. -/
def FilePermitted (services : Services) (stack : Stack) (endpoint : Endpoint) (h : Host) : Prop :=
  ∀ content, h.fileSystem.files (locate (stackFilePath stack)) = some content → Permits services endpoint content

theorem meets_handOver {prune : Bool} (hendpoint : s.dataStore.endpoint.get? endpoint.id = some endpoint) :
    Meets R (fun h => On services s h ∧ FilePermitted services stack endpoint h) (handOver stack endpoint prune)
      (fun _ => On services s) fun _ => On services s := by
  refine .bind (M := fun content h => On services s h ∧ Permits services endpoint content) ?_ fun content => ?_
  · refine .bind (M := fun content h => On services s h ∧ Permits services endpoint content) ?_ fun content => ?_
    · exact .lookup (fun h content hh hget => ⟨hh.1, hh.2 content hget⟩) (fun _ hh _ => hh.1) fun _ _ _ hh => hh.1
    · refine .bind (M := fun _ h => On services s h ∧ Permits services endpoint content) ?_
        fun _ => .pure fun _ hh => hh
      exact .modify fun h hh => ⟨⟨hh.1.1.perform trivial, hh.1.2⟩, hh.2⟩
  · refine .bind (M := fun _ => On services s) (.modify fun h hh => ?_)
      fun _ => .call (fun _ hh => hh) fun _ _ _ hh => hh
    obtain ⟨⟨hall, hserver⟩, hpermits⟩ := hh
    exact ⟨hall.perform ⟨hserver ▸ hendpoint, hpermits⟩, hserver⟩

section Variables

variable {fs : FileSystem} {content : String}

theorem handedOver_of_not (hnot : ¬ Overwrites services stack) :
    HandedOver services fs stack content ↔ fs.files (locate (stackFilePath stack)) = some content := by
  rw [HandedOver, if_neg fun h => hnot h.2]

theorem envFile_append (written : List Pair) (v : Pair) : envFile (written ++ [v]) = envFile written ++ envLine v := by
  simp [envFile]

/-- What is written to the file of the variables does not matter: it is
elsewhere, or it is what is handed over anyway. -/
theorem handedOver_writeEnv {written : String} (htype : stack.type ≠ .dockerSwarm)
    (hmanager : services.composeStackManager = .dockerCompose) (henv : stack.env ≠ []) :
    HandedOver services (fs.write (locate (join [stack.projectPath, "stack.env".toList])) written) stack content ↔
      HandedOver services fs stack content := by
  by_cases hpath : locate (stackFilePath stack) = locate (join [stack.projectPath, "stack.env".toList])
  · have hover : stack.type ≠ .dockerSwarm ∧ Overwrites services stack := ⟨htype, hmanager, henv, hpath⟩
    rw [HandedOver, HandedOver, if_pos hover, if_pos hover]
  · have hnot : ¬ Overwrites services stack := fun hover => hpath hover.2.2
    rw [handedOver_of_not hnot, handedOver_of_not hnot]
    unfold FileSystem.write
    dsimp only
    rw [if_neg hpath]

end Variables

/-- What a manager will find is permitted on the environment. -/
def FindsPermitted (services : Services) (stack : Stack) (endpoint : Endpoint) (h : Host) : Prop :=
  ∀ content, HandedOver services h.fileSystem stack content → Permits services endpoint content

/-- The file of the variables holds some of them. -/
def HoldsEnv (stack : Stack) (h : Host) : Prop :=
  ∃ env, env.Sublist stack.env ∧
    h.fileSystem.files (locate (join [stack.projectPath, "stack.env".toList])) = some (envFile env)

section Files

variable (htype : stack.type ≠ .dockerSwarm) (hmanager : services.composeStackManager = .dockerCompose)
  (henv : stack.env ≠ [])

include htype hmanager henv

theorem tolerates_findsPermitted : Tolerates (fun h => On services s h ∧ FindsPermitted services stack endpoint h)
    fun a => a = .openFile stack.id (join [stack.projectPath, "stack.env".toList]) ∨
      ∃ content, a = .writeFile stack.id (join [stack.projectPath, "stack.env".toList]) content := by
  rintro h a ha ⟨hon, hfinds⟩
  have hdisk : ∃ content, a.onDisk h.fileSystem =
      h.fileSystem.write (locate (join [stack.projectPath, "stack.env".toList])) content := by
    rcases ha with rfl | ⟨content, rfl⟩
    · exact ⟨"", rfl⟩
    · exact ⟨content, rfl⟩
  obtain ⟨written, hwritten⟩ := hdisk
  have hpermitted : a.Permitted services h.server := by
    rcases ha with rfl | ⟨content, rfl⟩ <;> trivial
  refine ⟨⟨hon.1.perform hpermitted, hon.2⟩, fun content hcontent => hfinds content ?_⟩
  rw [Host.perform, hwritten] at hcontent
  exact (handedOver_writeEnv htype hmanager henv).mp hcontent

/-- **Line by line.** A line is there, or it is left out. -/
theorem meets_writeEnv {written env : List Pair} (hsub : (written ++ env).Sublist stack.env) :
    Meets R (fun h => (On services s h ∧ FindsPermitted services stack endpoint h) ∧
        h.fileSystem.files (locate (join [stack.projectPath, "stack.env".toList])) = some (envFile written))
      (writeEnv stack.id (join [stack.projectPath, "stack.env".toList]) (envFile written) env)
      (fun _ h => (On services s h ∧ FindsPermitted services stack endpoint h) ∧ HoldsEnv stack h)
      fun _ => On services s := by
  induction env generalizing written with
  | nil =>
    rw [List.append_nil] at hsub
    exact .pure fun h hh => ⟨hh.1, written, hsub, hh.2⟩
  | cons v env ih =>
    have htolerates : Tolerates (fun h => On services s h ∧ FindsPermitted services stack endpoint h) _ :=
      tolerates_findsPermitted htype hmanager henv
    rw [writeEnv, ← envFile_append]
    refine .bind (M := fun r h => (On services s h ∧ FindsPermitted services stack endpoint h) ∧
      h.fileSystem.files (locate (join [stack.projectPath, "stack.env".toList])) =
        some (envFile (written ++ r.toOption.toList.map fun _ => v)))
      (.attempt (.call (fun h hh => ?_) fun e h _ hh => ?_)) fun r => ?_
    · exact ⟨htolerates h _ (.inr ⟨_, rfl⟩) hh.1, if_pos rfl⟩
    · exact ⟨hh.1, hh.2.trans (congrArg (some <| envFile ·) (List.append_nil written).symm)⟩
    · cases r with
      | ok u => exact @ih (written ++ [v]) (by rwa [List.append_assoc, List.singleton_append])
      | error e =>
        simp only [Except.toOption, Option.toList_none, List.map_nil, List.append_nil]
        exact ih ((List.Sublist.append_left (List.sublist_cons_self v env) written).trans hsub)

end Files

/-- The variables may be written over the stack file. -/
theorem meets_prepareEnv (htype : stack.type ≠ .dockerSwarm) :
    Meets R (fun h => On services s h ∧ FindsPermitted services stack endpoint h) (prepareEnv services stack)
      (fun _ h => On services s h ∧ FilePermitted services stack endpoint h) fun _ => On services s := by
  have hplain : ∀ h : Host, ¬ Overwrites services stack →
      On services s h ∧ FindsPermitted services stack endpoint h →
        On services s h ∧ FilePermitted services stack endpoint h := by
    rintro h hnot ⟨hon, hfinds⟩
    exact ⟨hon, fun content hcontent => hfinds content ((handedOver_of_not hnot).mpr hcontent)⟩
  unfold prepareEnv createEnvFile
  split
  · rename_i hmanager
    by_cases henv : stack.env = []
    · rw [if_pos henv]
      exact .pure fun h hh => hplain h (fun hover => hover.2.1 henv) hh
    · rw [if_neg henv]
      refine .bind (M := fun _ h => (On services s h ∧ FindsPermitted services stack endpoint h) ∧
        h.fileSystem.files (locate (join [stack.projectPath, "stack.env".toList])) = some (envFile []))
        (.call (fun h hh => ?_) fun _ _ _ hh => hh.1) fun _ => ?_
      · exact ⟨tolerates_findsPermitted htype hmanager henv h _ (.inl rfl) hh, if_pos rfl⟩
      · refine (meets_writeEnv htype hmanager henv (List.Sublist.refl _)).conseq (fun _ hh => hh) ?_ fun _ _ hh => hh
        rintro _ h ⟨hh, env, hsub, hfile⟩
        by_cases hpath : locate (stackFilePath stack) = locate (join [stack.projectPath, "stack.env".toList])
        · refine ⟨hh.1, fun content hcontent => hh.2 content ?_⟩
          rw [HandedOver, if_pos ⟨htype, hmanager, henv, hpath⟩]
          rw [hpath] at hcontent
          exact ⟨env, hsub, Option.some.inj (hcontent.symm.trans hfile)⟩
        · exact hplain h (fun hover => hpath hover.2.2) hh
  · rename_i hmanager
    have hnot : ¬ Overwrites services stack := by
      rintro ⟨hcompose, -⟩
      rw [hmanager] at hcompose
      exact absurd hcompose (by decide)
    -- reading a file changes none
    have htolerates : Tolerates (fun h => On services s h ∧ FindsPermitted services stack endpoint h)
        fun a => ∃ stackID path, a = .readFile stackID path := by
      rintro h a ⟨stackID, path, rfl⟩ hh
      exact ⟨⟨hh.1.1.perform trivial, hh.1.2⟩, hh.2⟩
    have hread : (readEnvFile stack).Keeps fun h => On services s h ∧ FindsPermitted services stack endpoint h :=
      .bind (.attempt (keeps_getFileContent htolerates ⟨_, _, rfl⟩)) fun _ => .pure
    exact (hread R).conseq (fun _ hh => hh) (fun _ h hh => hplain h hnot hh) fun _ _ hh => hh.1

theorem meets_composeUp (htype : stack.type ≠ .dockerSwarm)
    (hendpoint : s.dataStore.endpoint.get? endpoint.id = some endpoint) :
    Meets R (fun h => On services s h ∧ FindsPermitted services stack endpoint h) (composeUp services stack endpoint)
      (fun _ => On services s) fun _ => On services s := by
  refine .bind (M := fun _ h => On services s h ∧ FindsPermitted services stack endpoint h) ?_ fun _ => ?_
  · exact (keeps_connect R).conseq (fun _ hh => hh) (fun _ _ hh => hh) fun _ _ hh => hh.1
  · exact .bind (meets_prepareEnv htype) fun _ => meets_handOver hendpoint

theorem meets_startStack (hendpoint : s.dataStore.endpoint.get? endpoint.id = some endpoint) :
    Meets R (fun h => On services s h ∧ (stack.type ≠ .kubernetes → FindsPermitted services stack endpoint h))
      (startStack services stack endpoint) (fun _ => On services s) fun _ => On services s := by
  unfold startStack
  split
  · rename_i htype
    have hdocker : stack.type ≠ .kubernetes := by rw [htype]; decide
    refine (meets_composeUp (by rw [htype]; decide) hendpoint).conseq ?_ (fun _ _ hh => hh) fun _ _ hh => hh
    exact fun h hh => ⟨hh.1, hh.2 hdocker⟩
  · rename_i htype
    have hdocker : stack.type ≠ .kubernetes := by rw [htype]; decide
    refine (meets_handOver hendpoint).conseq ?_ (fun _ _ hh => hh) fun _ _ hh => hh
    refine fun h hh => ⟨hh.1, fun content hcontent => hh.2 hdocker content ?_⟩
    rw [HandedOver, if_neg fun hover => hover.1 htype]
    exact hcontent
  · exact .pure fun _ hh => hh.1

/-! ## Checks -/

section Checks

variable {config : DeploymentConfig} {checked : Bool}

/-- **What passes the check is permitted.** -/
theorem meets_checkStackFile (hchecked : restrictsCompose config.endpoint.securitySettings = true → checked = true) :
    Meets R (On services s) (checkStackFile services checked config)
      (fun _ h => On services s h ∧ FilePermitted services config.stack config.endpoint h) fun _ => On services s := by
  unfold checkStackFile
  by_cases hc : checked = true
  · rw [if_pos hc]
    refine .bind (M := fun content h => On services s h ∧
      h.fileSystem.files (locate (stackFilePath config.stack)) = some content) ?_ fun content => ?_
    · refine .bind (M := fun content h => On services s h ∧
        h.fileSystem.files (locate (stackFilePath config.stack)) = some content) ?_ fun content => ?_
      · exact .lookup (fun h content hh hget => ⟨hh, hget⟩) (fun _ hh _ => hh) fun _ _ _ hh => hh
      · refine .bind (M := fun _ h => On services s h ∧
          h.fileSystem.files (locate (stackFilePath config.stack)) = some content)
          (.modify fun h hh => ?_) fun _ => .pure fun _ hh => hh
        exact ⟨⟨hh.1.1.perform trivial, hh.1.2⟩, hh.2⟩
    · cases hvalid : isValidStackFile services content config.endpoint.securitySettings with
      | error e => exact .fail fun _ hh => hh.1
      | ok u =>
        refine .pure fun h hh => ⟨hh.1, fun content' hcontent' _ => ?_⟩
        obtain rfl := Option.some.inj (hh.2.symm.trans hcontent')
        exact hvalid
  · rw [if_neg hc]
    exact .pure fun h hh => ⟨hh, fun _ _ hrestricts => absurd (hchecked hrestricts) hc⟩

/-- **A deployment for a regular user that is checked is permitted.** -/
theorem deploymentKeeps_of_checked {context : RequestContext}
    (hendpoint : s.dataStore.endpoint.get? endpoint.id = some endpoint)
    (hregular : ∀ user, s.dataStore.user.get? context.restricted.userID = some user → user.role ≠ .administrator)
    (hchecked : Checked services stack endpoint) :
    DeploymentKeeps services context s endpoint stack (AllPermitted services) := by
  rintro config rfl rfl huser R
  have hrole := hregular config.user huser
  have hlogin : ∀ {P : Host → Prop}, (login config.registries).Keeps P := keeps_login
  have hlogout : Meets R (On services s) logout (fun _ => On services s) fun _ => On services s :=
    .call (fun _ hh => hh) fun _ _ _ hh => hh
  unfold deployAs
  by_cases htype : config.stack.type = .dockerSwarm
  · rw [if_pos htype]
    refine .bind (meets_checkStackFile fun hrestricts => ?_) fun _ => ?_
    · have hbind := hchecked hrestricts
      rw [if_pos htype] at hbind
      rw [hbind, decide_eq_true hrole]
      rfl
    · refine .bind ((hlogin R).conseq (fun _ hh => hh) (fun _ _ hh => hh) fun _ _ hh => hh.1) fun _ => ?_
      exact .bind (meets_handOver hendpoint) fun _ => hlogout
  · rw [if_neg htype]
    refine .bind (meets_checkStackFile fun hrestricts => ?_) fun _ => ?_
    · rw [hrestricts, decide_eq_true hrole]
      rfl
    · refine .bind ((hlogin R).conseq (fun _ hh => hh) (fun _ _ hh => hh) fun _ _ hh => hh.1) fun _ => ?_
      refine .bind ((meets_composeUp htype hendpoint).conseq ?_ (fun _ _ hh => hh) fun _ _ hh => hh) fun _ => hlogout
      -- nothing is forbidden, or the file is not overwritten
      rintro h ⟨hon, hfile⟩
      refine ⟨hon, fun content hcontent hrestricts => ?_⟩
      have hnot := hchecked hrestricts
      rw [if_neg htype] at hnot
      rw [handedOver_of_not hnot] at hcontent
      exact hfile content hcontent hrestricts

end Checks

/-- What matters for the check. -/
theorem Checked.congr {stack' : Stack} (hchecked : Checked services stack endpoint) (htype : stack'.type = stack.type)
    (henv : stack'.env = stack.env) (hentry : stack'.entryPoint = stack.entryPoint)
    (hproject : stack'.projectPath = stack.projectPath) : Checked services stack' endpoint := by
  unfold Checked Overwrites stackFilePath at hchecked ⊢
  rw [htype, henv, hentry, hproject]
  exact hchecked

/-- A record lies under its identifier. -/
theorem get?_id {id : EndpointID} (hendpoint : s.dataStore.endpoint.get? id = some endpoint) :
    s.dataStore.endpoint.get? endpoint.id = some endpoint := by
  have hid : endpoint.id = id := Bucket.key_of_get? hendpoint
  rw [hid]
  exact hendpoint

/-! ## Steps and runs -/

theorem AllPermitted.creationKeeps {context : RequestContext} {type : StackType} {name : String} {entryPoint : Path}
    (hall : AllPermitted services h) (hendpoint : h.server.dataStore.endpoint.get? endpoint.id = some endpoint)
    (hregular : ∀ user, h.server.dataStore.user.get? context.restricted.userID = some user →
      user.role ≠ .administrator)
    (hchecked : type ≠ .kubernetes → ∀ stack, Made services endpoint type name entryPoint stack →
      Checked services stack endpoint) :
    CreationKeeps R services context h endpoint type name entryPoint (AllPermitted services) Act.Quiet where
  init := hall
  tolerates := tolerates_allPermitted
  draw := hall
  reads _ _ _ _ := trivial
  deploys hdocker stack h' hm hd := by
    refine deploymentKeeps_of_checked ?_ ?_ (hchecked hdocker stack hm)
    · rcases hd with ⟨rfl, -⟩ | ⟨rfl, -⟩
      · exact hendpoint
      · exact hendpoint
    · rcases hd with ⟨rfl, -⟩ | ⟨rfl, -⟩
      · exact hregular
      · exact hregular
  remove _ _ := trivial
  add _ _ _ _ _ hall' _ := hall'
  control _ _ _ _ _ _ _ hall' _ _ := hall'

theorem quiet_of_stores {stackID : StackID} {fileName : Path} {a : Act} (ha : Stores services stackID fileName a) :
    a.Quiet := by
  cases ha with
  | mkdirAll => trivial
  | openFile => trivial
  | writeFile => trivial

theorem quiet_of_clones {stackID : StackID} {destination : Path} {repository : List RepositoryFile} {a : Act}
    (ha : Clones stackID destination repository a) : a.Quiet := by
  cases ha with
  | mkdirAll => trivial
  | openFile hf => trivial
  | writeFile hf => trivial

theorem quiet_of_places {outside : Outside} {stackID : StackID} {type : StackType} {filePath : Option Path} {a : Act}
    (ha : Places services outside stackID type filePath a) : a.Quiet := by
  cases ha with
  | stores ha => exact quiet_of_stores ha
  | clones ha => exact quiet_of_clones ha

theorem quiet_of_replaces {repository : List RepositoryFile} {a : Act} (ha : Replaces repository stack a) :
    a.Quiet := by
  cases ha with
  | backUp => trivial
  | restore => trivial
  | removeBackup => trivial
  | clone ha => exact quiet_of_clones ha

theorem keeps_stopStack_quiet {I : Host → Prop} (hI : Tolerates I Act.Quiet) :
    (stopStack services stack endpoint).Keeps I := by
  unfold stopStack composeDown
  split
  · exact .bind keeps_connect fun _ => .bind (keeps_getFileContent hI trivial) fun _ => keeps_takeDown hI trivial
  · exact keeps_takeDown hI trivial
  · exact .pure

/-- **One request, successful or not.** -/
theorem AllPermitted.step {a : Attempt} (hall : AllPermitted services h) (hC : DeploysChecked services h a)
    (hstep : (machine services).step h a = some h') : AllPermitted services h' := by
  obtain rfl := Option.some.inj hstep
  obtain ⟨request, token, outside, faults⟩ := a
  obtain ⟨hregular, hC⟩ := hC
  have hleaves : ∀ {x : Handler Host Response},
      Leaves (fun _ => False) x h (fun _ => AllPermitted services) (AllPermitted services) →
        AllPermitted services (x.run ⟨h, faults⟩).2.store := fun hx => hx.store rfl fun _ hk => hk.elim
  have hT : Tolerates (AllPermitted services) Act.Quiet := tolerates_allPermitted
  have hrole : ∀ {context : RequestContext}, Users.Admitted h.server token context → ∀ user,
      h.server.dataStore.user.get? context.restricted.userID = some user → user.role ≠ .administrator := by
    intro context hcontext user huser
    rw [hcontext.userID] at huser
    exact hregular context.tokenData user hcontext.token_eq huser
  refine hleaves ?_
  cases request with
  | create endpointID request =>
    refine leaves_behind_authenticatedAccess hall fun context hcontext => leaves_stackCreate (G := Act.Quiet) hall ?_
    intro endpoint type name filePath hendpoint hid hmade _
    rw [← hid] at hendpoint
    refine ⟨hall.creationKeeps hendpoint (hrole hcontext) fun hdocker stack hm => ?_,
      fun _ _ _ _ ha => quiet_of_places ha⟩
    exact hC endpoint type name filePath stack (hid ▸ hendpoint) hdocker hmade hm
  | update stackID endpointID payload =>
    refine leaves_behind_authenticatedAccess hall fun context hcontext => leaves_stackUpdate_of hall hT
      (fun _ _ _ _ ha => quiet_of_stores ha) ?_ fun _ _ _ _ _ _ _ _ hall' _ => hall'
    intro stack stack' endpoint hstored hid hendpoint hup henv
    have hchecked : Checked services { stack with env := payload.env } endpoint :=
      hC stack endpoint hstored hid hendpoint
    refine deploymentKeeps_of_checked (get?_id hendpoint) (hrole hcontext) ?_
    exact hchecked.congr hup.type henv hup.entryPoint hup.projectPath
  | updateGit stackID endpointID payload =>
    refine leaves_behind_authenticatedAccess hall fun context hcontext => leaves_stackUpdateGit_of hall hT
      (fun _ _ _ _ ha => quiet_of_replaces ha) ?_ fun _ _ _ _ _ _ _ _ _ hall' _ => hall'
    intro stack stack' endpoint hstored hid hgit hendpoint hup henv
    have hchecked : Checked services stack endpoint := hC stack endpoint hstored hid hgit hendpoint
    refine deploymentKeeps_of_checked (get?_id hendpoint) (hrole hcontext) ?_
    exact hchecked.congr hup.type henv hup.entryPoint hup.projectPath
  | start stackID =>
    refine leaves_behind_authenticatedAccess hall fun context _ => leaves_stackStart_of hall ?_
      fun _ _ _ _ hall' _ => hall'
    intro stack endpoint hstored hid hendpoint hinactive
    refine Meets.conseq (meets_startStack (get?_id hendpoint)) ?_ (fun _ _ hh => hh) fun _ _ hh => hh.1
    rintro h' rfl
    exact ⟨⟨hall, rfl⟩, fun hdocker => hC stack endpoint hstored hid hdocker hinactive hendpoint⟩
  | stop stackID =>
    refine leaves_behind_authenticatedAccess hall fun context _ => leaves_stackStop_of hall
      (fun _ _ _ _ => keeps_stopStack_quiet (hT.and_server _)) fun _ _ _ _ hall' _ => hall'
  | _ => exact hC.elim

/-- **Deployments are permitted** along requests that deploy what was
checked. -/
theorem allPermitted_of_run {attempts : List Attempt} (hall : AllPermitted services h)
    (hC : (machine services).Along (DeploysChecked services) h attempts)
    (hrun : (machine services).run h attempts = some h') : AllPermitted services h' :=
  Machine.run_invariant (fun _ _ _ hall hC hstep => hall.step hC hstep) hall hC hrun

/-- Services that read one privileged service in the file `privileged`, and
a plain one in any other. -/
def watchfulServices : Services :=
  { plainServices with loadCompose := fun content => .ok [{ privileged := decide (content = "privileged") }] }

/-- A cluster where user 2 may manage stacks, with bind mounts or without
them. -/
def sharedSwarm (bindMounts : Bool) : Host where
  server := {
    dataStore := {
      user := ({} : Bucket User).put { id := 2, username := "eve", role := .standardUser }
      endpointGroup := ({} : Bucket EndpointGroup).put { id := 1 }
      endpoint := ({} : Bucket Endpoint).put {
        id := 1
        userAccessPolicies := (∅ : UserAccessPolicies).insert 2 {}
        securitySettings := {
          allowBindMountsForRegularUsers := bindMounts
          allowStackManagementForRegularUsers := true } } }
    issuedTokens := [⟨2, "eve", .standardUser⟩] }

/-- User 2 creates a Swarm stack. -/
def createSwarmStack (content : String) : Attempt where
  request := .create 1 (.swarmString { name := "shop", swarmID := "swarm", stackFileContent := content })
  token := some ⟨2, "eve", .standardUser⟩

theorem allPermitted_sharedSwarm {bindMounts : Bool} : AllPermitted watchfulServices (sharedSwarm bindMounts) :=
  fun _ ha => absurd ha List.not_mem_nil

theorem allPermitted_of_run_plain : ∃ h', (machine watchfulServices).run (sharedSwarm false)
    [createSwarmStack "plain"] = some h' ∧ AllPermitted watchfulServices h' := by
  have hC : (machine watchfulServices).Along (DeploysChecked watchfulServices) (sharedSwarm false)
      [createSwarmStack "plain"] := by
    refine ⟨⟨?_, ?_⟩, fun _ _ => trivial⟩
    · rintro tokenData user htoken huser
      obtain rfl := Option.some.inj htoken
      obtain rfl := Option.some.inj huser
      decide
    · intro endpoint type name filePath stack hendpoint hdocker hmade hm _
      obtain rfl := Option.some.inj hendpoint
      obtain ⟨htype, -⟩ := Prod.mk.inj (Option.some.inj hmade)
      rw [if_pos (hm.type.trans htype.symm)]
  exact ⟨_, rfl, allPermitted_of_run allPermitted_sharedSwarm hC rfl⟩

/-- **A privileged service is deployed for a regular user** where only bind
mounts are allowed. -/
theorem not_allPermitted : AllPermitted watchfulServices (sharedSwarm true) ∧
    ∃ h', (machine watchfulServices).run (sharedSwarm true) [createSwarmStack "privileged"] = some h' ∧
      ¬ AllPermitted watchfulServices h' := by
  refine ⟨allPermitted_sharedSwarm, _, rfl, fun hall => ?_⟩
  have hact := List.getElem_mem (l := ((createSwarmStack "privileged").run watchfulServices
    (sharedSwarm true)).2.store.history) (n := 4) (by decide)
  obtain ⟨-, hpermits⟩ := hall _ hact
  have hok := hpermits rfl
  exact absurd hok (by decide)

end Stacks

end Portainer
