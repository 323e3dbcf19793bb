import Portainer.Stacks.Helpers.Disks
/-!
# Placement — every stack has a directory of its own

A creation gives the record of a stack the path of its directory, under the
identifier of the stack, and nothing changes it afterwards. So the record of
every stack that is stored leads to the files of that stack.
-/

namespace Portainer

open Action (Leaves)

namespace Stacks

variable {services : Services} {h h' : Host}

/-- The records of all stacks lead to the directories of the stacks. -/
def AllOwn (services : Services) (h : Host) : Prop := h.server.dataStore.stack.Every (Own services)

/-- The record keeps its identifier and its path. -/
theorem Own.congr {stack stack' : Stack} (hown : Own services stack) (hid : stack'.id = stack.id)
    (hpath : stack'.projectPath = stack.projectPath) : Own services stack' := by
  unfold Own
  rw [hid, hpath]
  exact hown

namespace AllOwn

theorem tolerates : Tolerates (AllOwn services) (fun _ => True) :=
  tolerates_of_server (P := fun s => s.dataStore.stack.Every (Own services))

theorem putStack {stack : Stack} (hall : AllOwn services h) (hown : Own services stack) :
    AllOwn services (Stacks.putStack stack h) :=
  Bucket.Every.put hall hown

theorem addStack {stack : Stack} (hall : AllOwn services h) (hown : Own services stack) :
    AllOwn services (Stacks.addStack stack h) :=
  Bucket.Every.put (b := h.server.dataStore.stack.setSequence stack.id) hall hown

theorem dropStack {stackID : StackID} (hall : AllOwn services h) :
    AllOwn services (Stacks.dropStack stackID h) :=
  Bucket.Every.delete hall

theorem creationKeeps {R : Callee → Prop} {context : RequestContext} {endpoint : Endpoint}
    {type : StackType} {name : String} {entryPoint : Path} (hall : AllOwn services h) :
    CreationKeeps R services context h endpoint type name entryPoint (AllOwn services) fun _ => True where
  init := hall
  tolerates := tolerates
  draw := hall
  reads _ _ _ _ := trivial
  deploys _ _ _ _ _ := deploymentKeeps_of_tolerates tolerates fun _ _ => trivial
  remove _ _ := trivial
  add _ _ _ hm _ hall' _ := hall'.addStack hm.own
  control _ _ _ _ _ _ _ hall' _ _ := hall'

/-- **One request, successful or not.** -/
theorem step {a : Attempt} (hall : AllOwn services h)
    (hstep : (machine services).step h a = some h') : AllOwn services h' := by
  obtain rfl := Option.some.inj hstep
  have hleaves : ∀ {x : Handler Host Response},
      Leaves (a.sys h).Reliable x h (fun _ => AllOwn services) (AllOwn services) →
        AllOwn services (x.run (a.sys h)).2.store := fun hx => hx.store rfl fun _ hk => hk
  have hacts : ∀ stackID stack, Stored h stack → stack.id = stackID →
      ∀ act, Deploys stack act → True := fun _ _ _ _ _ _ => trivial
  refine hleaves ?_
  cases a.request with
  | create endpointID request =>
    refine leaves_behind_authenticatedAccess hall fun context _ =>
      leaves_stackCreate (G := fun _ => True) hall ?_
    intro endpoint type name filePath _ _ _ _
    exact ⟨hall.creationKeeps, fun _ _ _ _ _ => trivial⟩
  | update stackID endpointID payload =>
    refine leaves_behind_authenticatedAccess hall fun context _ => leaves_stackUpdate hall tolerates
      (fun _ _ _ _ _ => trivial) (fun _ _ _ _ _ _ _ => trivial) ?_
    intro stack stack' endpoint h₁ hstored _ _ hup hall₁ _
    exact hall₁.putStack ((hall _ _ hstored).congr hup.id hup.projectPath)
  | updateGit stackID endpointID payload =>
    refine leaves_behind_authenticatedAccess hall fun context _ => leaves_stackUpdateGit hall tolerates
      (fun _ _ _ _ _ => trivial) (fun _ _ _ _ _ _ _ => trivial) ?_
    intro stack stack' endpoint h₁ hstored _ _ _ hup hall₁ _
    exact hall₁.putStack ((hall _ _ hstored).congr hup.id hup.projectPath)
  | migrate stackID payload =>
    refine leaves_behind_authenticatedAccess hall fun context _ => leaves_stackMigrate hall tolerates
      (fun _ _ _ _ _ => trivial) ?_
    intro stack h₁ hstored _ _ hall₁ _
    exact hall₁.putStack ((hall _ _ hstored).congr rfl rfl)
  | start stackID =>
    refine leaves_behind_authenticatedAccess hall fun context _ =>
      leaves_stackStart hall tolerates (hacts stackID) ?_
    intro stack h₁ hstored _ hall₁ _
    exact hall₁.putStack ((hall _ _ hstored).congr rfl rfl)
  | stop stackID =>
    refine leaves_behind_authenticatedAccess hall fun context _ =>
      leaves_stackStop hall tolerates (hacts stackID) ?_
    intro stack h₁ hstored _ hall₁ _
    exact hall₁.putStack ((hall _ _ hstored).congr rfl rfl)
  | associate stackID endpointID swarmID orphanedRunning =>
    have hmoved : ∀ stack rc, AllOwn services (withMovedControl stack endpointID rc h) := by
      intro stack rc
      cases rc with
      | none => exact hall
      | some rc => exact hall
    refine leaves_behind_adminAccess hall fun context _ =>
      leaves_stackAssociate hall (fun stack _ _ => hmoved stack _) ?_
    intro stack stack' hstored _ has
    exact (hmoved stack _).putStack ((hall _ _ hstored).congr has.id has.projectPath)
  | delete stackID endpointID =>
    refine leaves_behind_authenticatedAccess hall fun context _ => leaves_stackDelete hall tolerates
      (hacts stackID) (fun _ _ _ => trivial) ?_
    intro stack h₁ _ _ hall₁ _
    have hdropped : AllOwn services (Stacks.dropStack stackID h₁) := hall₁.dropStack
    refine ⟨hdropped, ?_⟩
    cases controlOf h.server stack with
    | none => exact hdropped
    | some rc => exact hdropped
  | deleteExternal stackName endpointID =>
    exact leaves_behind_authenticatedAccess hall fun context _ =>
      leaves_deleteExternalStack hall tolerates fun _ => trivial
  | inspect stackID =>
    exact leaves_behind_authenticatedAccess hall fun context _ => leaves_stackInspect hall
  | file stackID =>
    exact leaves_behind_authenticatedAccess hall fun context _ => leaves_stackFile hall tolerates (hacts stackID)

end AllOwn

theorem AllOwn.run {attempts : List Attempt} (hall : AllOwn services h)
    (hrun : (machine services).run h attempts = some h') : AllOwn services h' := by
  induction attempts generalizing h with
  | nil => exact Option.some.inj hrun ▸ hall
  | cons a attempts ih =>
    obtain ⟨h₁, hstep, hrun⟩ := Machine.run_cons.mp hrun
    exact ih (hall.step hstep) hrun

/-- **Along every run** from a host without stacks. -/
theorem allOwn_of_run {attempts : List Attempt} (hinit : ∀ id, h.server.dataStore.stack.get? id = none)
    (hrun : (machine services).run h attempts = some h') : AllOwn services h' := by
  have hall : AllOwn services h := fun id stack hget => nomatch (hinit id).symm.trans hget
  exact hall.run hrun

end Stacks

end Portainer
