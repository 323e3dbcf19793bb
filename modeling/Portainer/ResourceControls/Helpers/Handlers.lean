import Portainer.ResourceControls.Model.Requests
import Portainer.Users.Helpers.Handlers
/-!
# What the handlers of resource controls leave

An invariant of the server that the record of the handler does not break is
kept, in success and in failure. What the handler has checked by the time
of the write comes with the record.
-/

namespace Portainer

open Action (Leaves)

namespace ResourceControls

variable {R : Callee → Prop} {s : Server} {I : Server → Prop} {context : RequestContext}

/-- The server with a new resource control. -/
def addControl (rc : ResourceControl) (s : Server) : Server :=
  Server.resourceControl.change (fun b => b.nextSequence.put
    { rc with id := s.dataStore.resourceControl.next }) s

/-- The server with a resource control replaced. -/
def putControl (rc : ResourceControl) (s : Server) : Server := Server.resourceControl.change (·.put rc) s

/-- The server without a resource control. -/
def dropControl (id : ResourceControlID) (s : Server) : Server :=
  Server.resourceControl.change (·.delete id) s

theorem leaves_findResourceControl {id : ResourceControlID} (hI : I s) :
    Leaves R (findResourceControl id) s (fun rc s' => s' = s ∧
      s.dataStore.resourceControl.get? id = some rc) I :=
  .mapError (.lookup (fun _ hrc => ⟨rfl, hrc⟩) hI)

theorem leaves_resourceControlCreate {payload : ResourceControlCreatePayload} (hI : I s)
    (hadd : ∀ type, payload.validate = .ok () → resourceControlTypeOf payload.type = some type →
      s.dataStore.resourceControlByResourceIDAndType payload.resourceID type = none →
        I (addControl (payload.resourceControl type) s)) :
    Leaves R (resourceControlCreate payload) s (fun _ => I) I := by
  refine .read_bind (P := fun _ => payload.validate = .ok ())
    (.mapError (.ofExcept (fun _ hvalid => ⟨rfl, hvalid⟩) hI)) fun _ hvalid => ?_
  refine .read_bind (P := fun type => resourceControlTypeOf payload.type = some type)
    (.ofExcept ?_ hI) fun type htype => ?_
  · intro type htype
    cases hfound : resourceControlTypeOf payload.type with
    | none => simp [hfound] at htype
    | some found =>
      simp only [hfound, Option.elim_some, Except.ok.injEq] at htype
      exact ⟨rfl, htype ▸ rfl⟩
  refine .query_bind hI (.require_bind hI fun hnone => .mapError ?_)
  refine Leaves.bind (M := fun _ => I) (Table.leaves_createObject hI ?_) fun _ _ hs => .pure hs
  exact hadd type hvalid htype hnone

theorem leaves_resourceControlUpdate {id : ResourceControlID} {payload : ResourceControlUpdatePayload}
    (hI : I s) (hput : ∀ rc, payload.validate = .ok () → s.dataStore.resourceControl.get? id = some rc →
      authorizedResourceControlAccess rc context.restricted = true →
      authorizedResourceControlUpdate (payload.update rc) context.restricted = true →
      I (putControl (payload.update rc) s)) :
    Leaves R (resourceControlUpdate context id payload) s (fun _ => I) I := by
  refine .read_bind (P := fun _ => payload.validate = .ok ())
    (.mapError (.ofExcept (fun _ hvalid => ⟨rfl, hvalid⟩) hI)) fun _ hvalid => ?_
  refine .read_bind (leaves_findResourceControl hI) fun rc hrc => ?_
  refine .require_bind hI fun haccess => .require_bind hI fun hupdate => ?_
  exact .call_bind hI (.pure (hput rc hvalid hrc haccess hupdate))

theorem leaves_resourceControlDelete {id : ResourceControlID} (hI : I s) (hdrop : I (dropControl id s)) :
    Leaves R (resourceControlDelete id) s (fun _ => I) I :=
  .read_bind (leaves_findResourceControl hI) fun _ _ => .mapError (.call hdrop hI)

/-! ## On the host -/

section Host

open Stacks (Host onServer)

variable {h : Host}

/-- A part that works on the server. -/
theorem leaves_onServer {ε α : Type} {x : Action Callee Server ε α} (hx : Leaves R x h.server (fun _ => I) I) :
    Leaves R (onServer x) h (fun _ h' => I h'.server) fun h' => I h'.server := by
  refine hx.zoom.conseq (fun _ h' hh' => ?_) fun h' hh' => ?_
  · obtain ⟨s, rfl, hs⟩ := hh'
    exact hs
  · obtain ⟨s, rfl, hs⟩ := hh'
    exact hs

/-- The answer of a proxy that ends with the invariant. -/
theorem leaves_answer {x : Fallible Server DockerProxy.Response} (hx : Leaves R x h.server (fun _ => I) I) :
    Leaves R (answer x) h (fun _ h' => I h'.server) fun h' => I h'.server := by
  refine .bind (M := fun _ h' => I h'.server) (.attempt ?_) fun _ _ hh' => .pure hh'
  exact (leaves_onServer hx).conseq (fun _ _ hh' => hh') fun _ hh' _ => hh'

end Host

end ResourceControls

end Portainer
