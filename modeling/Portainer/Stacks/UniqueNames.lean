import Portainer.Stacks.Helpers.Creation
/-!
# Stack names

A stack runs on its environment under its name, so two Docker stacks of an
environment should not have one name, up to case. Creations, starts and
migrations look whether the name they deploy under is free. An update
moves the stack to the environment of the query and does not look, an
association does not look, and a migration looks for the new name and then
stores the old one.

`uniqueStackNames_of_run` shows names unique along every run in which no
request moves a stack to an environment where another has its name;
`not_uniqueStackNames` moves one there by an update.
-/

namespace Portainer

open Action (Leaves)

namespace Stacks

variable {services : Services} {h h' : Host}

/-- Two Docker stacks of one environment with one name, up to case. -/
def SameName (services : Services) (stack stack' : Stack) : Prop :=
  (stack.type ≠ .kubernetes ∧ stack'.type ≠ .kubernetes) ∧ stack.endpointID = stack'.endpointID ∧
    services.equalFold stack.name stack'.name = true

theorem SameName.symm {stack stack' : Stack} (h : SameName services stack stack') :
    SameName services stack' stack := by
  obtain ⟨⟨htype, htype'⟩, hendpoint, hname⟩ := h
  refine ⟨⟨htype', htype⟩, hendpoint.symm, ?_⟩
  unfold Services.equalFold at hname ⊢
  rw [decide_eq_true_eq] at hname ⊢
  exact hname.symm

/-- **No two stored Docker stacks of an environment have one name.** -/
def UniqueStackNames (services : Services) (h : Host) : Prop :=
  h.server.dataStore.stack.Unique (SameName services)

/-- Another stack has the name of this one on an environment. -/
def OtherNamed (services : Services) (h : Host) (stack : Stack) (endpointID : EndpointID) : Prop :=
  ∃ other, Stored h other ∧ SameName services { stack with endpointID := endpointID } other ∧
    other.id ≠ stack.id

/-- **The request moves no stack to an environment where another has its
name**, where its handler does not look: an update to an environment that
is there, a migration to a name that is free, and every association. -/
def KeepsNamesApart (services : Services) (h : Host) (a : Attempt) : Prop :=
  match a.request with
  | .update stackID endpointID _ => ∀ stack, Stored h stack → stack.id = stackID →
      (h.server.dataStore.endpoint.get? (endpointID.getD 0)).isSome →
        ¬ OtherNamed services h stack (endpointID.getD 0)
  | .updateGit stackID endpointID _ => ∀ stack, Stored h stack → stack.id = stackID →
      stack.gitConfig.isSome → (h.server.dataStore.endpoint.get? (endpointID.getD 0)).isSome →
        ¬ OtherNamed services h stack (endpointID.getD 0)
  | .migrate stackID payload => ∀ stack, Stored h stack → stack.id = stackID →
      nameTaken services h.server.dataStore.stack.all payload.endpointID (payload.migrated stack).name
        stack.id = false →
        ¬ OtherNamed services h stack payload.endpointID
  | .associate stackID endpointID _ _ => ∀ stack, Stored h stack → stack.id = stackID →
      ¬ OtherNamed services h stack endpointID
  | _ => True

/-- What is done on the disk changes no name. -/
theorem tolerates_uniqueStackNames : Tolerates (UniqueStackNames services) fun _ => True :=
  fun _ _ _ h => h

/-! ## Storing a stack -/

namespace UniqueStackNames

/-- A stack is stored with a name that no other has on its environment. -/
theorem putStack (stack : Stack) {stack' : Stack} (hu : UniqueStackNames services h)
    (hserver : h.server = h'.server) (hid : stack'.id = stack.id) (hname : stack'.name = stack.name)
    (htype : stack'.type = stack.type) (hnot : ¬ OtherNamed services h' stack stack'.endpointID) :
    UniqueStackNames services (putStack stack' h) := by
  refine Bucket.Unique.put hu (fun _ _ => SameName.symm) fun j other hother hsame => ?_
  have hkey : other.id = j := Bucket.key_of_get? hother
  show j = stack'.id
  by_contra hne
  refine hnot ⟨other, ?_, ?_, ?_⟩
  · rw [Stored, ← hserver, hkey]
    exact hother
  · obtain ⟨⟨hdocker, hdocker'⟩, hendpoint, hfold⟩ := hsame
    exact ⟨⟨htype ▸ hdocker, hdocker'⟩, hendpoint, hname ▸ hfold⟩
  · rw [hkey, ← hid]
    exact hne

/-- A stack whose name and environment stay is no other. -/
theorem not_otherNamed {stack : Stack} (hu : UniqueStackNames services h) (hstored : Stored h stack) :
    ¬ OtherNamed services h stack stack.endpointID := by
  rintro ⟨other, hother, hsame, hne⟩
  exact hne (hu _ _ _ _ hother hstored hsame.symm)

end UniqueStackNames

/-- A stack that is made under a free name has the name of no other. -/
theorem not_sameName_of_made {endpoint : Endpoint} {type : StackType} {name : String} {entryPoint : Path}
    {stack other : Stack} (hm : Made services endpoint type name entryPoint stack)
    (hfree : type ≠ .kubernetes →
      nameTaken services h.server.dataStore.stack.all endpoint.id name 0 = false)
    (hother : other ∈ h.server.dataStore.stack.all) : ¬ SameName services stack other := by
  rintro hsame
  have hdocker : type ≠ .kubernetes := hm.type ▸ hsame.1.1
  have hnone := hfree hdocker
  simp only [nameTaken, List.any_eq_false] at hnone
  have := hnone other hother
  obtain ⟨-, hendpoint, hfold⟩ := hsame.symm
  rw [hm.name] at hfold
  rw [hm.endpointID] at hendpoint
  simp [hfold, hendpoint] at this

theorem UniqueStackNames.creationKeeps {R : Callee → Prop} {context : RequestContext} {endpoint : Endpoint}
    {type : StackType} {name : String} {entryPoint : Path} (hu : UniqueStackNames services h)
    (hfree : type ≠ .kubernetes →
      nameTaken services h.server.dataStore.stack.all endpoint.id name 0 = false) :
    CreationKeeps R services context h endpoint type name entryPoint (UniqueStackNames services)
      fun _ => True where
  init := hu
  tolerates := tolerates_uniqueStackNames
  draw := hu
  reads _ _ _ _ := trivial
  deploys _ _ _ _ _ := deploymentKeeps_of_tolerates tolerates_uniqueStackNames fun _ _ => trivial
  remove _ _ := trivial
  add stack h' h'' hm hd hu' hserver := by
    refine Bucket.Unique.put (b := h''.server.dataStore.stack.setSequence stack.id) hu'
      (fun _ _ => SameName.symm) fun j other hother hsame => ?_
    have hget : h.server.dataStore.stack.get? j = some other := by
      have hother' : h''.server.dataStore.stack.get? j = some other := hother
      rw [hserver] at hother'
      rcases hd with ⟨rfl, -⟩ | ⟨rfl, -⟩
      · exact hother'
      · exact hother'
    exact absurd hsame (not_sameName_of_made hm hfree (Bucket.mem_all_of_get? hget))
  control _ _ _ _ _ _ _ hu' _ _ := hu'

/-! ## Steps and runs -/

/-- **One request, successful or not.** -/
theorem UniqueStackNames.step {a : Attempt} (hu : UniqueStackNames services h)
    (hC : KeepsNamesApart services h a) (hstep : (machine services).step h a = some h') :
    UniqueStackNames services h' := by
  obtain rfl := Option.some.inj hstep
  obtain ⟨request, token, outside, faults⟩ := a
  have hleaves : ∀ {x : Handler Host Response},
      Leaves (fun _ => False) x h (fun _ => UniqueStackNames services) (UniqueStackNames services) →
        UniqueStackNames services (x.run ⟨h, faults⟩).2.store := fun hx => hx.store rfl fun _ hk => hk.elim
  have hT : Tolerates (UniqueStackNames services) fun _ => True := tolerates_uniqueStackNames
  refine hleaves ?_
  cases request with
  | create endpointID request =>
    refine leaves_behind_authenticatedAccess hu fun context _ => leaves_stackCreate (G := fun _ => True) hu ?_
    intro endpoint type name filePath _ hid _ hfree
    exact ⟨hu.creationKeeps (hid ▸ hfree), fun _ _ _ _ _ => trivial⟩
  | update stackID endpointID payload =>
    refine leaves_behind_authenticatedAccess hu fun context _ => leaves_stackUpdate hu hT
      (fun _ _ _ _ _ => trivial) (fun _ _ _ _ _ _ _ => trivial) ?_
    intro stack stack' endpoint h₁ hstored hid hendpoint hup hu₁ hserver
    have hnot := hC stack hstored hid (by rw [hendpoint]; rfl)
    exact hu₁.putStack stack hserver hup.id hup.name hup.type (hup.endpointID ▸ hnot)
  | updateGit stackID endpointID payload =>
    refine leaves_behind_authenticatedAccess hu fun context _ => leaves_stackUpdateGit hu hT
      (fun _ _ _ _ _ => trivial) (fun _ _ _ _ _ _ _ => trivial) ?_
    intro stack stack' endpoint h₁ hstored hid hgit hendpoint hup hu₁ hserver
    have hnot := hC stack hstored hid hgit (by rw [hendpoint]; rfl)
    exact hu₁.putStack stack hserver hup.id hup.name hup.type (hup.endpointID ▸ hnot)
  | migrate stackID payload =>
    refine leaves_behind_authenticatedAccess hu fun context _ => leaves_stackMigrate hu hT
      (fun _ _ _ _ _ => trivial) ?_
    intro stack h₁ hstored hid hfree hu₁ hserver
    exact hu₁.putStack stack hserver rfl rfl rfl (hC stack hstored hid hfree)
  | start stackID =>
    refine leaves_behind_authenticatedAccess hu fun context _ => leaves_stackStart hu hT
      (fun _ _ _ _ _ => trivial) ?_
    intro stack h₁ hstored hid hu₁ hserver
    have hnot := hu.not_otherNamed hstored
    exact hu₁.putStack stack hserver rfl rfl rfl hnot
  | stop stackID =>
    refine leaves_behind_authenticatedAccess hu fun context _ => leaves_stackStop hu hT
      (fun _ _ _ _ _ => trivial) ?_
    intro stack h₁ hstored hid hu₁ hserver
    have hnot := hu.not_otherNamed hstored
    exact hu₁.putStack stack hserver rfl rfl rfl hnot
  | associate stackID endpointID swarmID orphanedRunning =>
    have hmoved : ∀ stack rc, UniqueStackNames services (withMovedControl stack endpointID rc h) ∧
        (withMovedControl stack endpointID rc h).server.dataStore.stack = h.server.dataStore.stack := by
      intro stack rc
      cases rc with
      | none => exact ⟨hu, rfl⟩
      | some rc => exact ⟨hu, rfl⟩
    refine leaves_behind_adminAccess hu fun context _ => leaves_stackAssociate hu
      (fun stack _ _ => (hmoved stack _).1) ?_
    intro stack stack' hstored hid has
    obtain ⟨hu₁, hsame⟩ := hmoved stack (controlOf h.server stack)
    refine hu₁.putStack stack rfl has.id has.name has.type fun hother => ?_
    obtain ⟨other, hstored', hname, hne⟩ := hother
    refine hC stack hstored hid ⟨other, ?_, has.endpointID ▸ hname, hne⟩
    rw [Stored, ← hsame]
    exact hstored'
  | delete stackID endpointID =>
    refine leaves_behind_authenticatedAccess hu fun context _ => leaves_stackDelete hu hT
      (fun _ _ _ _ _ => trivial) (fun _ _ _ => trivial) ?_
    intro stack h₁ _ _ hu₁ _
    have hdropped : UniqueStackNames services (dropStack stackID h₁) := Bucket.Unique.delete hu₁
    refine ⟨hdropped, ?_⟩
    cases controlOf h.server stack with
    | none => exact hdropped
    | some rc => exact hdropped
  | deleteExternal stackName endpointID =>
    exact leaves_behind_authenticatedAccess hu fun context _ => leaves_deleteExternalStack hu hT fun _ => trivial
  | inspect stackID =>
    exact leaves_behind_authenticatedAccess hu fun context _ => leaves_stackInspect hu
  | file stackID =>
    exact leaves_behind_authenticatedAccess hu fun context _ => leaves_stackFile hu hT
      fun _ _ _ _ _ => trivial

/-- **Stack names stay unique** along requests that keep them apart. -/
theorem uniqueStackNames_of_run {attempts : List Attempt} (hu : UniqueStackNames services h)
    (hC : (machine services).Along (KeepsNamesApart services) h attempts)
    (hrun : (machine services).run h attempts = some h') : UniqueStackNames services h' :=
  Machine.run_invariant (fun _ _ _ hu hC hstep => hu.step hC hstep) hu hC hrun

instance (stack stack' : Stack) : Decidable (SameName services stack stack') :=
  inferInstanceAs (Decidable (_ ∧ _))

/-- A Compose stack called shop. -/
def shop (stackID : StackID) (endpointID : EndpointID) : Stack where
  id := stackID
  name := "shop"
  type := .dockerCompose
  endpointID := endpointID
  entryPoint := composeFileDefaultName
  projectPath := plainServices.getStackProjectPath (itoa stackID)

/-- Two environments, with a stack of one name on each. -/
def twoShops : Host where
  server := {
    dataStore := {
      user := ({} : Bucket User).put { id := 1, username := "admin", role := .administrator }
      endpointGroup := ({} : Bucket EndpointGroup).put { id := 1 }
      endpoint := (({} : Bucket Endpoint).put { id := 1 }).put { id := 2 }
      stack := (({} : Bucket Stack).put (shop 1 1)).put (shop 2 2) }
    issuedTokens := [⟨1, "admin", .administrator⟩] }

/-- The administrator updates the first stack, on the environment that the
query names. -/
def updateOn (endpointID : EndpointID) : Attempt where
  request := .update 1 (some endpointID) { stackFileContent := "services:" }
  token := some ⟨1, "admin", .administrator⟩

theorem uniqueStackNames_twoShops : UniqueStackNames plainServices twoShops := by
  unfold UniqueStackNames
  rw [Bucket.unique_iff_all]
  decide

theorem uniqueStackNames_of_run_updated : ∃ h', (machine plainServices).run twoShops [updateOn 1] = some h' ∧
    UniqueStackNames plainServices h' := by
  have hC : (machine plainServices).Along (KeepsNamesApart plainServices) twoShops [updateOn 1] := by
    refine ⟨fun stack hstored hid _ => ?_, fun _ _ => trivial⟩
    have hone : stack = shop 1 1 := by
      rw [Stored, hid] at hstored
      exact (Option.some.inj hstored).symm
    subst hone
    exact uniqueStackNames_twoShops.not_otherNamed hstored
  exact ⟨_, rfl, uniqueStackNames_of_run uniqueStackNames_twoShops hC rfl⟩

/-- **An update moves a stack** to an environment where another has its
name. -/
theorem not_uniqueStackNames : UniqueStackNames plainServices twoShops ∧
    ∃ h', (machine plainServices).run twoShops [updateOn 2] = some h' ∧
      ¬ UniqueStackNames plainServices h' := by
  refine ⟨uniqueStackNames_twoShops, _, rfl, fun h => ?_⟩
  exact absurd (h 1 2 _ _ rfl rfl (by decide)) (by decide)

end Stacks

end Portainer
