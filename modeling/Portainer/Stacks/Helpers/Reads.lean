import Portainer.Stacks.Helpers.Acts
import Portainer.Users.Helpers.Handlers
/-!
# What the handlers read

The lookups and the checks that the handlers share. They leave the host as
it is; what they have seen of it when they succeed is what is said of them
here.
-/

namespace Portainer

open Action (Leaves)

namespace Stacks

variable {services : Services} {outside : Outside} {R : Callee → Prop} {h : Host} {E : Host → Prop}
variable {context : RequestContext} {ε α : Type}

/-- A read of the server. -/
theorem leaves_read {x : Action Callee Server ε α} {P : α → Prop} (hE : E h)
    (hx : Leaves R x h.server (fun a s => s = h.server ∧ P a) (· = h.server)) :
    Leaves R (onServer x) h (fun a h' => h' = h ∧ P a) E := by
  refine hx.zoom.conseq (fun a h' hh' => ?_) fun h' hh' => ?_
  · obtain ⟨s, rfl, rfl, ha⟩ := hh'
    exact ⟨rfl, ha⟩
  · obtain ⟨s, rfl, rfl⟩ := hh'
    exact hE

/-- A write to the server, which may not fail at all. -/
theorem leaves_write_of {f : Server → Server} {E : Host → Prop} (hE : ¬ R .databaseWrite → E h) :
    Leaves R (onServer (Action.call .databaseWrite f : Fallible Server Unit)) h
      (fun _ h' => h' = { h with server := f h.server }) E := by
  refine Leaves.conseq (Leaves.zoom (Leaves.call_of (Q := fun _ s => s = f h.server)
    (E := fun s => s = h.server ∧ ¬ R .databaseWrite) rfl fun hR => ⟨rfl, hR⟩)) (fun _ h' hh' => ?_)
    fun h' hh' => ?_
  · obtain ⟨s, rfl, rfl⟩ := hh'
    rfl
  · obtain ⟨s, rfl, rfl, hR⟩ := hh'
    exact hE hR

/-- A write to the server. -/
theorem leaves_write {f : Server → Server} {E : Host → Prop} (hE : E h) :
    Leaves R (onServer (Action.call .databaseWrite f : Fallible Server Unit)) h
      (fun _ h' => h' = { h with server := f h.server }) E :=
  leaves_write_of fun _ => hE

theorem leaves_getObject {β : Type} [Record β] {t : Table β} {id : Int} (hE : E h) :
    Leaves R (onServer (t.getObject id)) h
      (fun a h' => h' = h ∧ (t.bucket h.server.dataStore).get? id = some a) E :=
  leaves_read hE (.lookup (fun _ ha => ⟨rfl, ha⟩) rfl)

theorem leaves_getAll {β : Type} [Record β] {t : Table β} (hE : E h) :
    Leaves R (onServer t.getAll) h
      (fun l h' => h' = h ∧ l = (t.bucket h.server.dataStore).all) E :=
  leaves_read hE (.query ⟨rfl, rfl⟩ rfl)

/-- The server has the stack. -/
def Stored (h : Host) (stack : Stack) : Prop :=
  h.server.dataStore.stack.get? stack.id = some stack

theorem leaves_findStack {stackID : StackID} (hE : E h) :
    Leaves R (findStack stackID) h (fun stack h' => h' = h ∧ Stored h stack ∧ stack.id = stackID) E := by
  refine .mapError ((leaves_getObject hE).conseq (fun stack h' hh' => ?_) fun _ he => he)
  obtain ⟨rfl, hget⟩ := hh'
  have hid : stack.id = stackID := Bucket.key_of_get? hget
  exact ⟨rfl, by rw [Stored, hid]; exact hget, hid⟩

theorem leaves_findEndpoint {message : String} {id : EndpointID} (hE : E h) :
    Leaves R (findEndpoint message id) h (fun endpoint h' => h' = h ∧
      h.server.dataStore.endpoint.get? id = some endpoint) E :=
  .mapError (leaves_getObject hE)

/-- The user of the token may use the environment. -/
def EndpointOpen (s : Server) (tokenData : TokenData) (endpoint : Endpoint) : Prop :=
  tokenData.role = .administrator ∨
    ∃ group, s.dataStore.endpointGroup.get? endpoint.groupID = some group ∧
      authorizedEndpointAccess endpoint group tokenData.id
        (s.dataStore.teamMembershipsByUserID tokenData.id) = true

theorem leaves_permitEndpoint {endpoint : Endpoint} (hE : E h) :
    Leaves R (permitEndpoint context endpoint) h
      (fun _ h' => h' = h ∧ EndpointOpen h.server context.tokenData endpoint) E := by
  refine .mapError (leaves_read hE ?_)
  refine .read_bind (P := (· = context.tokenData)) (.pure ⟨rfl, rfl⟩) fun tokenData htoken => ?_
  subst htoken
  refine .ite (fun hrole => .pure ⟨rfl, .inl hrole⟩) fun _ => ?_
  refine .read_bind (P := (· = h.server.dataStore.teamMembershipsByUserID context.tokenData.id))
    (.query ⟨rfl, rfl⟩ rfl) fun memberships hmemberships => ?_
  subst hmemberships
  refine .read_bind (P := fun group => h.server.dataStore.endpointGroup.get? endpoint.groupID = some group)
    (.lookup (fun _ ha => ⟨rfl, ha⟩) rfl) fun group hgroup => ?_
  exact .require (fun hc => ⟨rfl, .inr ⟨group, hgroup, hc⟩⟩) rfl

theorem leaves_findResourceControl {stack : Stack} (hE : E h) :
    Leaves R (findResourceControl stack) h (fun rc h' => h' = h ∧
      rc = h.server.dataStore.resourceControlByResourceIDAndType
        (stackResourceControlID stack.endpointID stack.name) .stack) E :=
  .mapError (leaves_read hE (.query ⟨rfl, rfl⟩ rfl))

/-- The resource control gives the user of the request the stack, or the
user is stored as an administrator. -/
def StackOpen (s : Server) (context : RestrictedRequestContext)
    (resourceControl : Option ResourceControl) : Prop :=
  ∃ user, s.dataStore.user.get? context.userID = some user ∧
    (resourceControl.any (userCanAccessResource context.userID
      (context.userMemberships.map TeamMembership.teamID)) = true ∨ user.role = .administrator)

theorem leaves_permitStack {resourceControl : Option ResourceControl} (hE : E h) :
    Leaves R (permitStack context resourceControl) h
      (fun _ h' => h' = h ∧ StackOpen h.server context.restricted resourceControl) E := by
  refine .read_bind (P := fun access => access = true →
    StackOpen h.server context.restricted resourceControl) (.mapError ?_) fun access haccess => ?_
  · refine .read_bind (leaves_getObject hE) fun user huser => .pure ⟨rfl, fun haccess => ?_⟩
    refine ⟨user, huser, ?_⟩
    simpa using haccess
  · exact .require (fun hc => ⟨rfl, haccess hc⟩) hE

theorem leaves_requireUniqueName {endpoint : Endpoint} {name errorMessage : String}
    {stackID : StackID} {swarmMode : Bool} (hE : E h) :
    Leaves R (requireUniqueName services outside endpoint name stackID swarmMode errorMessage) h
      (fun _ h' => h' = h ∧
        nameTaken services h.server.dataStore.stack.all endpoint.id name stackID = false) E := by
  refine .read_bind (P := fun isUnique => isUnique = true →
    nameTaken services h.server.dataStore.stack.all endpoint.id name stackID = false)
    (.mapError ?_) fun isUnique hunique => .require (fun hc => ⟨rfl, hunique hc⟩) hE
  refine .read_bind (leaves_getAll hE) fun existing hexisting => ?_
  subst hexisting
  refine .ite (fun _ => .pure ⟨rfl, fun h => nomatch h⟩) fun hfree => ?_
  have hfree : nameTaken services h.server.dataStore.stack.all endpoint.id name stackID = false := by
    simpa [Server.stack] using hfree
  -- what the daemon runs does not matter for what is stored
  refine .read_bind (P := fun _ => True) (.query ⟨rfl, trivial⟩ hE) fun _ _ => ?_
  refine .read_bind (P := fun _ => True) ?_ fun _ _ => .ite (fun _ => .pure ⟨rfl, fun _ => hfree⟩) fun _ => ?_
  · exact .ite (fun _ => .query ⟨rfl, trivial⟩ hE) fun _ => .pure ⟨rfl, trivial⟩
  · exact .read_bind (P := fun _ => True) (.query ⟨rfl, trivial⟩ hE) fun _ _ => .pure ⟨rfl, fun _ => hfree⟩

/-- What a configuration of a deployment is about. -/
theorem leaves_createDeployConfig {stack : Stack} {endpoint : Endpoint} {prune : Bool} (hE : E h) :
    Leaves R (createDeployConfig context stack endpoint prune) h (fun config h' => h' = h ∧
      config.stack = stack ∧ config.endpoint = endpoint ∧
      h.server.dataStore.user.get? context.restricted.userID = some config.user) E := by
  refine .read_bind (.mapError (leaves_getObject hE)) fun user huser => ?_
  exact .read_bind (.mapError (leaves_getAll hE)) fun _ _ => .pure ⟨rfl, rfl, rfl, huser⟩

theorem leaves_invalidPayload {checked : Except String α} (hE : E h) :
    Leaves R (invalidPayload checked) h (fun a h' => h' = h ∧ checked = .ok a) E :=
  .mapError (.ofExcept (fun _ ha => ⟨rfl, ha⟩) hE)

end Stacks

end Portainer
