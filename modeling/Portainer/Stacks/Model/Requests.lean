import Portainer.Common.Machine
import Portainer.Stacks.Model.Operations
/-!
# Requests — stacks as one machine

A request with the token it carries, and an attempt with what is found
outside the server and the outcomes of its calls. Every route needs a
token; the association needs that of an administrator.
-/

namespace Portainer

namespace Stacks

/-- A request to one of the handlers. -/
inductive Request
  | create (endpointID : EndpointID) (request : CreateRequest)
  | update (stackID : StackID) (endpointID : Option EndpointID) (payload : UpdateStackPayload)
  | updateGit (stackID : StackID) (endpointID : Option EndpointID) (payload : UpdateStackGitPayload)
  | migrate (stackID : StackID) (payload : StackMigratePayload)
  | start (stackID : StackID)
  | stop (stackID : StackID)
  | associate (stackID : StackID) (endpointID : EndpointID) (swarmID : String)
    (orphanedRunning : Bool)
  | delete (stackID : StackID) (endpointID : Option EndpointID)
  | deleteExternal (stackName : String) (endpointID : EndpointID)
  | inspect (stackID : StackID)
  | file (stackID : StackID)

/-- A handler behind a check. -/
def behind {α β : Type} (access : Handler Server RequestContext) (answer : α → β)
    (handler : RequestContext → Handler Host α) : Handler Host β := do
  let context ← onServer access
  let a ← handler context
  return answer a

/-- What a request is answered. -/
inductive Response
  | created (response : CreateResponse)
  | stack (stack : Stack)
  | inspected (stack : Stack) (resourceControl : Option ResourceControl)
  | file (stackFileContent : String)
  | empty

/-- The handler of a request with a token, behind its check. -/
def handle (services : Services) (outside : Outside) (token : Option TokenData) :
    Request → Handler Host Response
  | .create endpointID request => behind (authenticatedAccess token) .created fun context =>
    stackCreate services outside context endpointID request
  | .update stackID endpointID payload => behind (authenticatedAccess token) .stack fun context =>
    stackUpdate services outside context stackID endpointID payload
  | .updateGit stackID endpointID payload => behind (authenticatedAccess token) .stack fun context =>
    stackUpdateGit services outside context stackID endpointID payload
  | .migrate stackID payload => behind (authenticatedAccess token) .stack fun context =>
    stackMigrate services outside context stackID payload
  | .start stackID => behind (authenticatedAccess token) .stack fun context =>
    stackStart services outside context stackID
  | .stop stackID => behind (authenticatedAccess token) .stack fun context =>
    stackStop services context stackID
  | .associate stackID endpointID swarmID orphanedRunning =>
    behind (adminAccess token) .stack fun context =>
      stackAssociate outside context stackID endpointID swarmID orphanedRunning
  | .delete stackID endpointID => behind (authenticatedAccess token) (fun _ => .empty) fun context =>
    stackDelete services context stackID endpointID
  | .deleteExternal stackName endpointID =>
    behind (authenticatedAccess token) (fun _ => .empty) fun context =>
      deleteExternalStack services context stackName endpointID
  | .inspect stackID => behind (authenticatedAccess token) (fun r => .inspected r.1 r.2) fun context =>
    stackInspect context stackID
  | .file stackID => behind (authenticatedAccess token) .file fun context => stackFile context stackID

/-- A request with its token, what is found outside and the outcomes of its
calls. -/
structure Attempt where
  request : Request
  token : Option TokenData := none
  outside : Outside := {}
  faults : Callee → List (Option String) := fun _ => []

/-- The system an attempt starts in. -/
def Attempt.sys (a : Attempt) (h : Host) : Sys Callee Host := ⟨h, a.faults⟩

/-- What an attempt ends with. -/
def Attempt.run (services : Services) (a : Attempt) (h : Host) :
    Except HandlerError Response × Sys Callee Host :=
  (handle services a.outside a.token a.request).run (a.sys h)

/-- **The host under requests**, which succeed or fail. -/
def machine (services : Services) : Machine Host Attempt where
  step h a := some (a.run services h).2.store

end Stacks

end Portainer
