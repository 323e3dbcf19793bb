import Portainer.Common.Decimal
import Portainer.Common.Pairing
import Portainer.Common.Text
import Portainer.ResourceControls.Lookups
import Portainer.Stacks.Helpers.Creation
/-!
# Own controls — a resource control for each Docker stack, and a stack for each

A Docker stack and its resource control are tied by the environment and the
name of the stack, and are stored one after the other. `Corresponds` says
that the stacks and the controls of type stack are tied one to one, so that
a stack made later under a name that is free again meets no control of the
stack before. It is kept along all runs in which no request takes a stack
to another environment without its control, and in which the database does
not fail between the two records (`corresponds_of_run`).
-/

namespace Portainer

open Action (Leaves)
open DataStore (IsAbout)

namespace Stacks

variable {services : Services} {h h' : Host} {s : Server} {stack stack' : Stack} {rc : ResourceControl}
variable {R : Callee → Prop}

/-- The resource control is that of the stack. -/
def Controls (rc : ResourceControl) (stack : Stack) : Prop :=
  rc.type = .stack ∧ rc.resourceID = stackResourceControlID stack.endpointID stack.name

/-- The server has the resource control. -/
def StoredControl (h : Host) (rc : ResourceControl) : Prop :=
  h.server.dataStore.resourceControl.get? rc.id = some rc

/-- **Every Docker stack has one resource control, and every resource
control of a stack is that of one Docker stack.** -/
structure Corresponds (h : Host) : Prop where
  controlled : ∀ stack, Stored h stack → stack.type ≠ .kubernetes →
    ∃! rc, StoredControl h rc ∧ Controls rc stack
  owned : ∀ rc, StoredControl h rc → rc.type = .stack →
    ∃! stack, Stored h stack ∧ stack.type ≠ .kubernetes ∧ Controls rc stack

/-- The stack has no counterpart: no control goes with it. -/
def Uncontrolled (h : Host) (stack : Stack) : Prop :=
  stack.type = .kubernetes → h.server.dataStore.resourceControlByResourceIDAndType
    (stackResourceControlID stack.endpointID stack.name) .stack = none

/-- **The request keeps stacks and controls together**: an update or a
migration stays on the environment of the stack, an association is to an
environment where no other stack has the name, and where two records are
written the database does not fail. -/
def KeepsControls (h : Host) (a : Attempt) : Prop :=
  match a.request with
  | .create _ _ => (a.sys h).Reliable .databaseRead ∧ (a.sys h).Reliable .databaseWrite
  | .update stackID endpointID _ => ∀ stack, Stored h stack → stack.id = stackID →
      stack.type ≠ .kubernetes → (h.server.dataStore.endpoint.get? (endpointID.getD 0)).isSome →
        endpointID.getD 0 = stack.endpointID
  | .updateGit stackID endpointID _ => ∀ stack, Stored h stack → stack.id = stackID →
      stack.type ≠ .kubernetes → stack.gitConfig.isSome →
        (h.server.dataStore.endpoint.get? (endpointID.getD 0)).isSome →
          endpointID.getD 0 = stack.endpointID
  | .migrate stackID payload => ∀ stack, Stored h stack → stack.id = stackID →
      stack.type ≠ .kubernetes → payload.endpointID = stack.endpointID
  | .associate stackID endpointID _ _ => (a.sys h).Reliable .databaseWrite ∧
      ∀ stack, Stored h stack → stack.id = stackID → Uncontrolled h stack ∧
        ∀ other, Stored h other → other.type ≠ .kubernetes → other.endpointID = endpointID →
          other.name = stack.name → other.id = stack.id
  | .delete stackID _ => (a.sys h).Reliable .databaseWrite ∧
      ∀ stack, Stored h stack → stack.id = stackID → Uncontrolled h stack
  | _ => True

/-! ## Keys -/

/-- The environment and the name of a stack can be read off the text. -/
theorem stackResourceControlID_inj {e e' : EndpointID} {name name' : String}
    (heq : stackResourceControlID e name = stackResourceControlID e' name') : e = e' ∧ name = name' := by
  have hnot : ∀ n : Int, '_' ∉ (Path.itoa n).toList := by
    intro n hmem
    rw [Path.toList_itoa] at hmem
    have hdigits : ∀ m : ℕ, '_' ∉ Nat.toDigits 10 m := fun m hm =>
      absurd (Nat.isDigit_of_mem_toDigits (by omega) (by omega) hm) (by decide)
    split at hmem
    · exact hdigits _ hmem
    · rcases List.mem_cons.mp hmem with heq | hmem
      · exact absurd heq (by decide)
      · exact hdigits _ hmem
  have hlist : ∀ (n : Int) (text : String), (stackResourceControlID n text).toList =
      (Path.itoa n).toList ++ '_' :: text.toList := by
    intro n text
    simp [stackResourceControlID, Path.itoa, String.toList_append]
    rfl
  have htexts := congrArg String.toList heq
  rw [hlist, hlist] at htexts
  obtain ⟨he, hname⟩ := Text.eq_of_append_cons (hnot e) (hnot e') htexts
  exact ⟨Path.itoa_injective (String.toList_inj.mp he), String.toList_inj.mp hname⟩

/-- What ties a Docker stack to its control. -/
def stackKey (stack : Stack) : Option String :=
  if stack.type = .kubernetes then none else some (stackResourceControlID stack.endpointID stack.name)

/-- What ties a control of a stack to it. -/
def controlKey (rc : ResourceControl) : Option String := if rc.type = .stack then some rc.resourceID else none

theorem stackKey_of_docker (hdocker : stack.type ≠ .kubernetes) :
    stackKey stack = some (stackResourceControlID stack.endpointID stack.name) := if_neg hdocker

theorem stackKey_of_kubernetes (htype : stack.type = .kubernetes) : stackKey stack = none := if_pos htype

theorem stackKey_congr (htype : stack'.type = stack.type) (hname : stack'.name = stack.name)
    (hendpoint : stack.type ≠ .kubernetes → stack'.endpointID = stack.endpointID) :
    stackKey stack' = stackKey stack := by
  by_cases hkubernetes : stack.type = .kubernetes
  · rw [stackKey_of_kubernetes hkubernetes, stackKey_of_kubernetes (htype.trans hkubernetes)]
  · rw [stackKey_of_docker hkubernetes, stackKey_of_docker (htype ▸ hkubernetes), hname, hendpoint hkubernetes]

theorem stackKey_eq_some {k : String} : stackKey stack = some k ↔
    stack.type ≠ .kubernetes ∧ stackResourceControlID stack.endpointID stack.name = k := by
  rw [stackKey, Option.ite_none_left_eq_some, Option.some_inj]

theorem controlKey_eq_some {k : String} : controlKey rc = some k ↔ rc.type = .stack ∧ rc.resourceID = k := by
  rw [controlKey, Option.ite_none_right_eq_some, Option.some_inj]

/-- The stacks and the controls of the server are in step. -/
abbrev TiedUp (s : Server) : Prop :=
  Bucket.InStep stackKey controlKey s.dataStore.stack s.dataStore.resourceControl

theorem corresponds_iff : Corresponds h ↔ TiedUp h.server := by
  constructor
  · intro hcorr
    refine ⟨fun i j x y hx hy hsame => ?_, fun i j x y hx hy hsame => ?_, fun k => ⟨?_, ?_⟩⟩
    · obtain ⟨k, hkx, hky⟩ := hsame
      obtain ⟨hdx, hx'⟩ := stackKey_eq_some.mp hkx
      obtain ⟨hdy, hy'⟩ := stackKey_eq_some.mp hky
      obtain rfl : x.id = i := Bucket.key_of_get? hx
      obtain rfl : y.id = j := Bucket.key_of_get? hy
      obtain ⟨rc, ⟨hrc, htype, hid⟩, -⟩ := hcorr.controlled x hx hdx
      obtain ⟨owner, -, hunique⟩ := hcorr.owned rc hrc htype
      rw [hunique x ⟨hx, hdx, htype, hid⟩, hunique y ⟨hy, hdy, htype, hid.trans (hx'.trans hy'.symm)⟩]
    · obtain ⟨k, hkx, hky⟩ := hsame
      obtain ⟨htx, hx'⟩ := controlKey_eq_some.mp hkx
      obtain ⟨hty, hy'⟩ := controlKey_eq_some.mp hky
      obtain rfl : x.id = i := Bucket.key_of_get? hx
      obtain rfl : y.id = j := Bucket.key_of_get? hy
      obtain ⟨owner, ⟨howner, hdocker, -, hid⟩, -⟩ := hcorr.owned x hx htx
      obtain ⟨rc, -, hunique⟩ := hcorr.controlled owner howner hdocker
      rw [hunique x ⟨hx, htx, hid⟩, hunique y ⟨hy, hty, hy'.trans (hx'.symm.trans hid)⟩]
    · rintro ⟨i, x, hx, hk⟩
      obtain ⟨hdocker, rfl⟩ := stackKey_eq_some.mp hk
      obtain rfl : x.id = i := Bucket.key_of_get? hx
      obtain ⟨rc, ⟨hrc, htype, hresource⟩, -⟩ := hcorr.controlled x hx hdocker
      exact ⟨rc.id, rc, hrc, controlKey_eq_some.mpr ⟨htype, hresource⟩⟩
    · rintro ⟨j, y, hy, hk⟩
      obtain ⟨htype, rfl⟩ := controlKey_eq_some.mp hk
      obtain rfl : y.id = j := Bucket.key_of_get? hy
      obtain ⟨owner, ⟨howner, hdocker, -, hresource⟩, -⟩ := hcorr.owned y hy htype
      exact ⟨owner.id, owner, howner, stackKey_eq_some.mpr ⟨hdocker, hresource.symm⟩⟩
  · intro htied
    refine ⟨fun stack hstored hdocker => ?_, fun rc hrc htype => ?_⟩
    · have hkey : stackKey stack = some _ := stackKey_of_docker hdocker
      obtain ⟨j, rc, hget, hk⟩ := (htied.keys _).mp (Bucket.hasKey_of_get? hstored hkey)
      obtain rfl : rc.id = j := Bucket.key_of_get? hget
      refine ⟨rc, ⟨hget, controlKey_eq_some.mp hk⟩, ?_⟩
      rintro other ⟨hother, hcontrols⟩
      have hsame := htied.right _ _ _ _ hother hget ⟨_, controlKey_eq_some.mpr hcontrols, hk⟩
      rw [StoredControl, hsame] at hother
      exact Option.some.inj (hother.symm.trans hget)
    · have hkey : controlKey rc = some rc.resourceID := if_pos htype
      obtain ⟨i, stack, hget, hk⟩ := (htied.keys _).mpr (Bucket.hasKey_of_get? hrc hkey)
      obtain rfl : stack.id = i := Bucket.key_of_get? hget
      obtain ⟨hdocker, hresource⟩ := stackKey_eq_some.mp hk
      refine ⟨stack, ⟨hget, hdocker, htype, hresource.symm⟩, ?_⟩
      rintro other ⟨hother, hdocker', -, hresource'⟩
      have hsame := htied.left _ _ _ _ hother hget ⟨_, stackKey_eq_some.mpr ⟨hdocker', hresource'.symm⟩, hk⟩
      rw [Stored, hsame] at hother
      exact Option.some.inj (hother.symm.trans hget)

/-! ## Writes -/

/-- Stacks and controls are tied, and the next identifiers are free. -/
structure Tied (h : Host) : Prop where
  tied : TiedUp h.server
  stackBound : h.server.dataStore.stack.Bounded
  controlBound : h.server.dataStore.resourceControl.Bounded

namespace Tied

theorem tolerates : Tolerates Tied fun _ => True := fun _ _ _ hh => ⟨hh.tied, hh.stackBound, hh.controlBound⟩

/-- The record of a stack is replaced, its key stays. -/
theorem putStack (ht : Tied h') (hserver : h'.server = h.server) (hstored : Stored h stack)
    (hid : stack'.id = stack.id) (hkey : stackKey stack' = stackKey stack) : Tied (putStack stack' h') := by
  have hget : h'.server.dataStore.stack.get? (key stack') = some stack := by
    show h'.server.dataStore.stack.get? stack'.id = some stack
    rw [hid, hserver]
    exact hstored
  refine ⟨ht.tied.put_same hget hkey, ht.stackBound.put ?_, ht.controlBound⟩
  exact ht.stackBound _ _ hget

theorem draw (ht : Tied h) : Tied (drawStack h) :=
  ⟨ht.tied.congr (fun _ => rfl) fun _ => rfl, ht.stackBound.nextSequence, ht.controlBound⟩

/-- Only the server matters. -/
theorem congr (ht : Tied h) (hserver : h'.server = h.server) : Tied h' :=
  ⟨hserver ▸ ht.tied, hserver ▸ ht.stackBound, hserver ▸ ht.controlBound⟩

/-- A record is stored under the identifier that was drawn. -/
theorem bounded_addStack (ht : Tied h) {h₁ : Host} (hserver : h₁.server = (drawStack h).server)
    (hid : stack.id = h.server.dataStore.stack.next) : (addStack stack h₁).server.dataStore.stack.Bounded ∧
      h₁.server.dataStore.stack.get? stack.id = none := by
  have hdrawn : h₁.server.dataStore.stack = h.server.dataStore.stack.nextSequence := by
    rw [hserver]
    rfl
  have hfree : h.server.dataStore.stack.get? stack.id = none := hid ▸ ht.stackBound.get?_next
  refine ⟨?_, hdrawn ▸ hfree⟩
  show ((h₁.server.dataStore.stack.setSequence stack.id).put stack).Bounded
  rw [hdrawn, hid]
  exact ht.stackBound.create hid

theorem addKubernetes (ht : Tied h) {h₁ : Host} (hserver : h₁.server = (drawStack h).server)
    (hid : stack.id = h.server.dataStore.stack.next) (htype : stack.type = .kubernetes) :
    Tied (addStack stack h₁) := by
  obtain ⟨hbounded, hfree⟩ := ht.bounded_addStack hserver hid
  have ht₁ : Tied h₁ := ht.draw.congr hserver
  have hcounted : Bucket.InStep stackKey controlKey (h₁.server.dataStore.stack.setSequence stack.id)
      h₁.server.dataStore.resourceControl := ht₁.tied.congr (fun _ => rfl) fun _ => rfl
  exact ⟨hcounted.put_none hfree (stackKey_of_kubernetes htype), hbounded, ht₁.controlBound⟩

/-- **A Docker stack is stored, and then its control.** -/
theorem addBoth (ht : Tied h) {h₁ : Host} (hserver : h₁.server = (drawStack h).server)
    (hid : stack.id = h.server.dataStore.stack.next) (hdocker : stack.type ≠ .kubernetes)
    (hfree : ¬ h.server.dataStore.stack.HasKey stackKey (stackResourceControlID stack.endpointID stack.name))
    (hrc : Controls rc stack) : Tied (addControl rc (addStack stack h₁)) := by
  obtain ⟨hbounded, hnone⟩ := ht.bounded_addStack hserver hid
  have ht₁ : Tied h₁ := ht.draw.congr hserver
  have hnot : ¬ h₁.server.dataStore.stack.HasKey stackKey (stackResourceControlID stack.endpointID stack.name) := by
    rw [hserver]
    exact hfree
  have hkey : controlKey { rc with id := h₁.server.dataStore.resourceControl.next } =
      some (stackResourceControlID stack.endpointID stack.name) := controlKey_eq_some.mpr hrc
  have hcounted : Bucket.InStep stackKey controlKey (h₁.server.dataStore.stack.setSequence stack.id)
      h₁.server.dataStore.resourceControl.nextSequence := ht₁.tied.congr (fun _ => rfl) fun _ => rfl
  exact ⟨hcounted.create hnone ht₁.controlBound.get?_next (stackKey_of_docker hdocker) hkey hnot, hbounded,
    ht₁.controlBound.create rfl⟩

/-- **The control of a Docker stack is found.** -/
theorem controlOf_eq_some (ht : Tied h) (hstored : Stored h stack) (hdocker : stack.type ≠ .kubernetes) :
    ∃ rc, controlOf h.server stack = some rc ∧ StoredControl h rc ∧ Controls rc stack := by
  obtain ⟨j, rc, hget, hk⟩ := (ht.tied.keys _).mp (Bucket.hasKey_of_get? hstored (stackKey_of_docker hdocker))
  obtain ⟨htype, hresource⟩ := controlKey_eq_some.mp hk
  have habout : IsAbout (stackResourceControlID stack.endpointID stack.name) .stack rc := ⟨hresource, htype⟩
  obtain ⟨found, hfound, habout⟩ := DataStore.exists_of_isAbout hget habout
  refine ⟨found, hfound, ?_, habout.2, habout.1⟩
  exact DataStore.get?_of_resourceControlByResourceIDAndType hfound

/-- **A stack is removed, and then its control.** -/
theorem dropBoth (ht : Tied h) {h₁ : Host} (hserver : h₁.server = h.server) (hstored : Stored h stack)
    (hun : Uncontrolled h stack) :
    Tied (withoutControl (controlOf h.server stack) (dropStack stack.id h₁)) := by
  obtain ⟨htied, hstacks, hcontrols⟩ := ht.congr hserver
  have hget : h₁.server.dataStore.stack.get? stack.id = some stack := hserver ▸ hstored
  by_cases htype : stack.type = .kubernetes
  · rw [show controlOf h.server stack = none from hun htype]
    exact ⟨htied.remove_none hget (stackKey_of_kubernetes htype), hstacks.delete, hcontrols⟩
  · obtain ⟨rc, hfound, hrc, hcontrolsStack⟩ := ht.controlOf_eq_some hstored htype
    rw [hfound]
    have hgetControl : h₁.server.dataStore.resourceControl.get? rc.id = some rc := hserver ▸ hrc
    exact ⟨htied.remove hget hgetControl (stackKey_of_docker htype) (controlKey_eq_some.mpr hcontrolsStack),
      hstacks.delete, hcontrols.delete⟩

/-- **The control follows its stack** to a pair that no other stack has. -/
theorem moveBoth (ht : Tied h) {endpointID : EndpointID} {swarmID : String} (hstored : Stored h stack)
    (has : Associated stack endpointID swarmID stack') (hun : Uncontrolled h stack)
    (hfree : ∀ other, Stored h other → other.type ≠ .kubernetes → other.endpointID = endpointID →
      other.name = stack.name → other.id = stack.id) :
    Tied (Stacks.putStack stack' (withMovedControl stack endpointID (controlOf h.server stack) h)) := by
  have hget : h.server.dataStore.stack.get? (key stack') = some stack := by
    show h.server.dataStore.stack.get? stack'.id = some stack
    rw [has.id]
    exact hstored
  have hstacks : (h.server.dataStore.stack.put stack').Bounded := ht.stackBound.put (ht.stackBound _ _ hget)
  by_cases htype : stack.type = .kubernetes
  · rw [show controlOf h.server stack = none from hun htype]
    refine ⟨ht.tied.put_same hget ?_, hstacks, ht.controlBound⟩
    rw [stackKey_of_kubernetes htype, stackKey_of_kubernetes (has.type.trans htype)]
  · obtain ⟨rc, hfound, hrc, hcontrolsStack⟩ := ht.controlOf_eq_some hstored htype
    rw [hfound]
    have hkey : stackKey stack' = some (stackResourceControlID endpointID stack.name) := by
      rw [stackKey_of_docker (has.type ▸ htype), has.endpointID, has.name]
    have hgetControl : h.server.dataStore.resourceControl.get?
        (key { rc with resourceID := stackResourceControlID endpointID stack.name }) = some rc := hrc
    refine ⟨ht.tied.rekey hget hgetControl (stackKey_of_docker htype) (controlKey_eq_some.mpr hcontrolsStack) hkey
      (controlKey_eq_some.mpr ⟨hcontrolsStack.1, rfl⟩) ?_, hstacks, ht.controlBound.put (ht.controlBound _ _ hrc)⟩
    rintro hne ⟨i, other, hother, hk⟩
    obtain ⟨hdocker, heq⟩ := stackKey_eq_some.mp hk
    obtain ⟨hendpoint, hname⟩ := stackResourceControlID_inj heq
    obtain rfl : other.id = i := Bucket.key_of_get? hother
    -- the only stack of the pair is the one that moves, and it is there already
    rw [hfree other hother hdocker hendpoint hname] at hother
    obtain rfl := Option.some.inj (hother.symm.trans hstored)
    exact hne heq.symm

end Tied

/-! ## Steps and runs -/

/-- No Docker stack has the environment and the name of one that may be
made. -/
theorem not_hasKey_of_nameTaken {endpointID : EndpointID} {name : String}
    (hfree : nameTaken services h.server.dataStore.stack.all endpointID name 0 = false) :
    ¬ h.server.dataStore.stack.HasKey stackKey (stackResourceControlID endpointID name) := by
  rintro ⟨i, other, hother, hk⟩
  obtain ⟨-, heq⟩ := stackKey_eq_some.mp hk
  obtain ⟨hendpoint, hname⟩ := stackResourceControlID_inj heq
  simp only [nameTaken, List.any_eq_false] at hfree
  have hnot := hfree other (Bucket.mem_all_of_get? hother)
  simp [hendpoint, hname, Services.equalFold] at hnot

/-- An identifier is drawn where the database does not fail. -/
theorem drawn_of_reliable {id : StackID} (hR : R .databaseWrite) (hd : Drawn R h id h') :
    h' = drawStack h ∧ id = h.server.dataStore.stack.next := by
  rcases hd with hd | ⟨-, -, hnot⟩
  · exact hd
  · exact absurd hR hnot

theorem Tied.creationLeaves {context : RequestContext} {endpoint : Endpoint} {type : StackType} {name : String}
    {entryPoint : Path} (ht : Tied h) (hread : R .databaseRead) (hwrite : R .databaseWrite)
    (huser : ∃ u, h.server.dataStore.user.get? context.tokenData.id = some u)
    (hfree : type ≠ .kubernetes →
      nameTaken services h.server.dataStore.stack.all endpoint.id name 0 = false) :
    CreationLeaves R services context h endpoint type name entryPoint Tied fun _ => True where
  init := ht
  tolerates := Tied.tolerates
  draw := ht.draw
  reads _ _ _ _ := trivial
  deploys _ _ _ _ _ := deploymentKeeps_of_tolerates Tied.tolerates fun _ _ => trivial
  remove _ _ := trivial
  store htype stack h' h'' hm hd _ hserver := by
    obtain ⟨rfl, hid⟩ := drawn_of_reliable hwrite hd
    exact ht.addKubernetes hserver hid (hm.type.trans htype)
  decorate hdocker stack h' h'' hm hd _ hserver := by
    obtain ⟨rfl, hid⟩ := drawn_of_reliable hwrite hd
    refine leaves_decorateStackResponse_of (fun hfailed => ?_) (fun hnot => absurd hwrite hnot) fun rc hrc => ?_
    · rcases hfailed with hnot | hnone
      · exact absurd hread hnot
      · obtain ⟨u, hu⟩ := huser
        have hu' : (addStack stack h'').server.dataStore.user.get? context.tokenData.id = some u := by
          simp only [addStack, hserver]
          exact hu
        exact absurd (hnone.symm.trans hu') (Option.some_ne_none u).symm
    · refine ht.addBoth hserver hid (hm.type ▸ hdocker) ?_ ?_
      · rw [hm.endpointID, hm.name]
        exact not_hasKey_of_nameTaken (hfree hdocker)
      · rcases hrc with rfl | rfl
        · exact ⟨rfl, rfl⟩
        · exact ⟨rfl, rfl⟩

/-- **One request, successful or not.** -/
theorem Tied.step {a : Attempt} (ht : Tied h) (hC : KeepsControls h a)
    (hstep : (machine services).step h a = some h') : Tied h' := by
  obtain rfl := Option.some.inj hstep
  have hleaves : ∀ {x : Handler Host Response},
      Leaves (a.sys h).Reliable x h (fun _ => Tied) Tied → Tied (x.run (a.sys h)).2.store :=
    fun hx => hx.store rfl fun _ hk => hk
  have hT : Tolerates Tied fun _ => True := Tied.tolerates
  refine hleaves ?_
  unfold KeepsControls at hC
  cases hrequest : a.request with
  | create endpointID request =>
    rw [hrequest] at hC
    obtain ⟨hread, hwrite⟩ := hC
    refine leaves_behind_authenticatedAccess ht fun context hcontext =>
      leaves_stackCreate_of (G := fun _ => True) ht ?_
    intro endpoint type name filePath _ hid _ hfree
    exact ⟨ht.creationLeaves hread hwrite hcontext.stored (hid ▸ hfree), fun _ _ _ _ _ => trivial⟩
  | update stackID endpointID payload =>
    rw [hrequest] at hC
    refine leaves_behind_authenticatedAccess ht fun context _ => leaves_stackUpdate ht hT
      (fun _ _ _ _ _ => trivial) (fun _ _ _ _ _ _ _ => trivial) ?_
    intro stack stack' endpoint h₁ hstored hid hendpoint hup ht₁ hserver
    refine ht₁.putStack hserver hstored hup.id
      (stackKey_congr hup.type hup.name fun hdocker => ?_)
    rw [hup.endpointID]
    exact hC stack hstored hid hdocker (by rw [hendpoint]; rfl)
  | updateGit stackID endpointID payload =>
    rw [hrequest] at hC
    refine leaves_behind_authenticatedAccess ht fun context _ => leaves_stackUpdateGit ht hT
      (fun _ _ _ _ _ => trivial) (fun _ _ _ _ _ _ _ => trivial) ?_
    intro stack stack' endpoint h₁ hstored hid hgit hendpoint hup ht₁ hserver
    refine ht₁.putStack hserver hstored hup.id
      (stackKey_congr hup.type hup.name fun hdocker => ?_)
    rw [hup.endpointID]
    exact hC stack hstored hid hdocker hgit (by rw [hendpoint]; rfl)
  | migrate stackID payload =>
    rw [hrequest] at hC
    refine leaves_behind_authenticatedAccess ht fun context _ => leaves_stackMigrate ht hT
      (fun _ _ _ _ _ => trivial) ?_
    intro stack h₁ hstored hid _ ht₁ hserver
    exact ht₁.putStack hserver hstored rfl
      (stackKey_congr rfl rfl fun hdocker => hC stack hstored hid hdocker)
  | start stackID =>
    refine leaves_behind_authenticatedAccess ht fun context _ => leaves_stackStart ht hT
      (fun _ _ _ _ _ => trivial) ?_
    intro stack h₁ hstored hid ht₁ hserver
    exact ht₁.putStack hserver hstored rfl rfl
  | stop stackID =>
    refine leaves_behind_authenticatedAccess ht fun context _ => leaves_stackStop ht hT
      (fun _ _ _ _ _ => trivial) ?_
    intro stack h₁ hstored hid ht₁ hserver
    exact ht₁.putStack hserver hstored rfl rfl
  | associate stackID endpointID swarmID orphanedRunning =>
    rw [hrequest] at hC
    obtain ⟨hwrite, hmove⟩ := hC
    refine leaves_behind_adminAccess ht fun context _ => leaves_stackAssociate_of ht
      (fun _ _ _ hnot => absurd hwrite hnot) ?_
    intro stack stack' hstored hid has
    obtain ⟨hun, hfree⟩ := hmove stack hstored hid
    exact ht.moveBoth hstored has hun hfree
  | delete stackID endpointID =>
    rw [hrequest] at hC
    obtain ⟨hwrite, hun⟩ := hC
    refine leaves_behind_authenticatedAccess ht fun context _ => leaves_stackDelete_of ht hT
      (fun _ _ _ _ _ => trivial) (fun _ _ _ => trivial) ?_
    rintro stack h₁ hstored rfl ht₁ hserver
    exact ⟨fun hnot => absurd hwrite hnot, ht.dropBoth hserver hstored (hun stack hstored rfl)⟩
  | deleteExternal stackName endpointID =>
    exact leaves_behind_authenticatedAccess ht fun context _ => leaves_deleteExternalStack ht hT fun _ => trivial
  | inspect stackID =>
    exact leaves_behind_authenticatedAccess ht fun context _ => leaves_stackInspect ht
  | file stackID =>
    exact leaves_behind_authenticatedAccess ht fun context _ => leaves_stackFile ht hT
      fun _ _ _ _ _ => trivial

/-- **Stacks and controls stay tied one to one** along requests that keep
them together. -/
theorem corresponds_of_run {attempts : List Attempt} (hcorr : Corresponds h)
    (hstacks : h.server.dataStore.stack.Bounded) (hcontrols : h.server.dataStore.resourceControl.Bounded)
    (hC : (machine services).Along KeepsControls h attempts)
    (hrun : (machine services).run h attempts = some h') : Corresponds h' := by
  have ht : Tied h := ⟨corresponds_iff.mp hcorr, hstacks, hcontrols⟩
  have ht' : Tied h' := Machine.run_invariant (fun _ _ _ ht hC hstep => ht.step hC hstep) ht hC hrun
  exact corresponds_iff.mpr ht'.tied

/-- A server with one environment and no stacks. -/
def emptyShelf : Host where
  server := {
    dataStore := {
      user := ({} : Bucket User).put { id := 1, username := "admin", role := .administrator }
      endpointGroup := ({} : Bucket EndpointGroup).put { id := 1 }
      endpoint := ({} : Bucket Endpoint).put { id := 1 } }
    issuedTokens := [⟨1, "admin", .administrator⟩] }

/-- The administrator creates a stack on the environment. -/
def stockShelf (name : String) : Attempt where
  request := .create 1 (.swarmString { name := name, swarmID := "swarm", stackFileContent := "services:" })
  token := some ⟨1, "admin", .administrator⟩

/-- They give a stack another file. -/
def restockShelf (stackID : StackID) : Attempt where
  request := .update stackID (some 1) { stackFileContent := "services: {}" }
  token := some ⟨1, "admin", .administrator⟩

/-- They delete a stack. -/
def clearShelf (stackID : StackID) : Attempt where
  request := .delete stackID (some 1)
  token := some ⟨1, "admin", .administrator⟩

/-- Of two stacks the first is updated and the second deleted. -/
theorem corresponds_of_run_shelf : ∃ h', (machine plainServices).run emptyShelf
      [stockShelf "shop", stockShelf "blog", restockShelf 1, clearShelf 2] = some h' ∧ Corresponds h' ∧
    h'.server.dataStore.stack.all.map Stack.name = ["shop"] := by
  have hreliable : ∀ (a : Attempt) (h : Host) (c : Callee), a.faults c = [] → (a.sys h).Reliable c := by
    intro a h c hnone o ho
    have hmem : o ∈ a.faults c := ho
    rw [hnone] at hmem
    exact absurd hmem List.not_mem_nil
  have hC : (machine plainServices).Along KeepsControls emptyShelf
      [stockShelf "shop", stockShelf "blog", restockShelf 1, clearShelf 2] := by
    refine ⟨⟨hreliable _ _ _ rfl, hreliable _ _ _ rfl⟩, fun h₁ hfirst => ?_⟩
    refine ⟨⟨hreliable _ _ _ rfl, hreliable _ _ _ rfl⟩, fun h₂ hsecond => ?_⟩
    obtain rfl := Option.some.inj hfirst
    obtain rfl := Option.some.inj hsecond
    refine ⟨fun stack hstored hid _ _ => ?_, fun h₃ hthird => ?_⟩
    · rw [Stored, hid] at hstored
      exact congrArg Stack.endpointID (Option.some.inj hstored)
    · obtain rfl := Option.some.inj hthird
      refine ⟨⟨hreliable _ _ _ rfl, fun stack hstored hid hkubernetes => ?_⟩, fun _ _ => trivial⟩
      rw [Stored, hid] at hstored
      have htype : StackType.dockerSwarm = stack.type := congrArg Stack.type (Option.some.inj hstored)
      rw [hkubernetes] at htype
      cases htype
  have hcorr : Corresponds emptyShelf :=
    ⟨fun _ hstored => absurd (hstored.symm.trans Bucket.get?_empty) (Option.some_ne_none _),
      fun _ hstored => absurd (hstored.symm.trans Bucket.get?_empty) (Option.some_ne_none _)⟩
  have hstacks : emptyShelf.server.dataStore.stack.Bounded :=
    fun _ _ hget => absurd (hget.symm.trans Bucket.get?_empty) (Option.some_ne_none _)
  have hcontrols : emptyShelf.server.dataStore.resourceControl.Bounded :=
    fun _ _ hget => absurd (hget.symm.trans Bucket.get?_empty) (Option.some_ne_none _)
  exact ⟨_, rfl, corresponds_of_run hcorr hstacks hcontrols hC rfl, rfl⟩

end Stacks

end Portainer
