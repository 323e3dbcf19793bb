import Portainer.DockerProxy.Model.AccessControl
/-!
# The Azure proxy — container groups

A request for the management API of Azure goes through a transport, which
lists, shows, creates and deletes container groups under their resource
controls and forwards everything else. A container group is known by the
identifier in the answer of Azure, its resource control by that identifier.

The answers of Azure are a parameter. The access token that is put into a
request is not part of the model.
-/

namespace Portainer

namespace AzureProxy

open Json (Object)
open DockerProxy (Response Local asObject getResponseAsJSONObject rewriteResponse accessDeniedResponse)

/-- A request, with the token data of its session. -/
structure Request where
  method : String
  path : Path
  token : Option TokenData

/-- The transport of an environment: what Azure answers, and whether an
access token can be had. -/
structure Transport where
  roundTrip : Request → Except String Response
  retrieveAuthenticationToken : Except String Unit := .ok ()

/-- The database, and the requests that were forwarded. -/
structure ProxyState where
  dataStore : DataStore := {}
  forwarded : List Request := []

/-- A part of the proxy. -/
abbrev Proxy (α : Type) := Fallible ProxyState α

/-- A part that works on the database alone. -/
def onDataStore {α : Type} (x : Local α) : Proxy α :=
  x.zoom ProxyState.dataStore fun s db => { s with dataStore := db }

/-- `http.DefaultTransport.RoundTrip`. -/
def roundTrip (t : Transport) (request : Request) : Proxy Response := do
  .modify fun s => { s with forwarded := s.forwarded ++ [request] }
  .ofExcept (t.roundTrip request)

/-! ## Access control -/

/-- `azureRequestContext`. -/
structure AzureRequestContext where
  isAdmin : Bool
  userID : UserID
  userTeamIDs : List TeamID := []
  resourceControls : List ResourceControl

/-- `createAzureRequestContext`. -/
def createAzureRequestContext (request : Request) : Local AzureRequestContext := do
  let tokenData ← .ofExcept
    (request.token.elim (.error "Unable to find JWT data in request context") .ok)
  let resourceControls ← DockerProxy.read fun db => db.resourceControl.all
  if tokenData.role = .administrator then pure ⟨true, tokenData.id, [], resourceControls⟩
  else do
    let userTeamIDs ← DockerProxy.read fun db => db.userTeamIDs tokenData.id
    pure ⟨false, tokenData.id, userTeamIDs, resourceControls⟩

/-- `decorateObject`, which is that of the Docker proxy. -/
def decorateObject : Object → ResourceControl → Local Object := DockerProxy.decorateObject

/-- `createPrivateResourceControl`. -/
def createPrivateResourceControl (resourceIdentifier : String) (resourceType : ResourceControlType)
    (userID : UserID) : Local ResourceControl :=
  DockerProxy.createResourceControl (newPrivateResourceControl resourceIdentifier resourceType userID)

/-- `findResourceControl`. -/
def findResourceControl (containerGroupId : String) (context : AzureRequestContext) :
    Option ResourceControl :=
  getResourceControlByResourceIDAndType containerGroupId .containerGroup context.resourceControls

/-- `UserCanAccessResource`, of a resource that may have no control. -/
def userCanAccess (context : AzureRequestContext) (resourceControl : Option ResourceControl) : Bool :=
  resourceControl.any (userCanAccessResource context.userID context.userTeamIDs)

/-- `userCanDeleteContainerGroup`: by the path of the request. -/
def userCanDeleteContainerGroup (request : Request) (context : AzureRequestContext) : Bool :=
  context.isAdmin || userCanAccess context (findResourceControl (String.ofList request.path) context)

/-- The identifier in a container group, if it is a text. -/
def containerGroupID (containerGroup : Object) : Option String :=
  match containerGroup.get "id" with
  | .str id => some id
  | _ => none

/-- The resource control of a container group. -/
def controlOf (containerGroup : Object) (context : AzureRequestContext) : Option ResourceControl :=
  (containerGroupID containerGroup).bind fun id => findResourceControl id context

/-- `decorateContainerGroup`: the group, and the resource control that is
put into it. -/
def decorateContainerGroup (containerGroup : Object) (context : AzureRequestContext) :
    Local (Object × Option ResourceControl) :=
  match controlOf containerGroup context with
  | none => pure (containerGroup, none)
  | some rc => do
    let decorated ← decorateObject containerGroup rc
    pure (decorated, some rc)

/-- `decorateContainerGroups`. -/
def decorateContainerGroups (context : AzureRequestContext) :
    List Json → Local (List (Object × Option ResourceControl))
  | [] => pure []
  | containerGroup :: containerGroups => do
    let object ← asObject containerGroup
    let decorated ← decorateContainerGroup object context
    let rest ← decorateContainerGroups context containerGroups
    pure (decorated :: rest)

/-- `filterContainerGroups`: a group is kept for its own resource control
only, and not for one that Azure may have sent. -/
def filterContainerGroups (containerGroups : List (Object × Option ResourceControl))
    (context : AzureRequestContext) : List Json :=
  (containerGroups.filter fun g => context.isAdmin || userCanAccess context g.2).map fun g => .obj g.1

/-- `removeResourceControl`. -/
def removeResourceControl (containerGroup : Object) (context : AzureRequestContext) : Local Unit :=
  match controlOf containerGroup context with
  | none => pure ()
  | some rc => DockerProxy.write fun db => { db with resourceControl := db.resourceControl.delete rc.id }

/-! ## One container group -/

def alreadyExistsResponse : Response := rewriteResponse (.obj [("message",
  .str "A container instance with the same name already exists inside the selected resource group")]) 409

/-- The answer to a creation: the container group gets a private resource
control. -/
def decorateCreation (request : Request) (response : Response) : Local Response := do
  let responseObject ← getResponseAsJSONObject response
  let id ← .ofExcept ((containerGroupID responseObject).elim (.error "Missing container group ID") .ok)
  let context ← createAzureRequestContext request
  let resourceControl ← createPrivateResourceControl id .containerGroup context.userID
  let decorated ← decorateObject responseObject resourceControl
  pure (rewriteResponse (.obj decorated) 200)

/-- `proxyContainerGroupPutRequest`: a container group must not exist under
the path. -/
def proxyContainerGroupPutRequest (t : Transport) (request : Request) : Proxy Response := do
  let validationResponse ← roundTrip t { request with method := "GET" }
  if 200 ≤ validationResponse.statusCode ∧ validationResponse.statusCode < 300 then
    pure alreadyExistsResponse
  else do
    let response ← roundTrip t request
    onDataStore (decorateCreation request response)

/-- The answer that shows a container group. -/
def decorateShown (request : Request) (response : Response) : Local Response := do
  let responseObject ← getResponseAsJSONObject response
  let context ← createAzureRequestContext request
  let decorated ← decorateContainerGroup responseObject context
  pure (rewriteResponse (.obj decorated.1) 200)

/-- `proxyContainerGroupGetRequest`. -/
def proxyContainerGroupGetRequest (t : Transport) (request : Request) : Proxy Response := do
  let response ← roundTrip t request
  onDataStore (decorateShown request response)

/-- The answer to a deletion. The error of the removal is dropped. -/
def decorateDeletion (context : AzureRequestContext) (response : Response) : Local Response := do
  let responseObject ← getResponseAsJSONObject response
  let _ ← (removeResourceControl responseObject context).attempt
  pure (rewriteResponse (.obj responseObject) 200)

/-- `proxyContainerGroupDeleteRequest`. -/
def proxyContainerGroupDeleteRequest (t : Transport) (request : Request) : Proxy Response := do
  let context ← onDataStore (createAzureRequestContext request)
  if userCanDeleteContainerGroup request context then do
    let response ← roundTrip t request
    onDataStore (decorateDeletion context response)
  else pure accessDeniedResponse

/-- `proxyContainerGroupRequest`. -/
def proxyContainerGroupRequest (t : Transport) (request : Request) : Proxy Response :=
  if request.method = "PUT" then proxyContainerGroupPutRequest t request
  else if request.method = "GET" then proxyContainerGroupGetRequest t request
  else if request.method = "DELETE" then proxyContainerGroupDeleteRequest t request
  else roundTrip t request

/-! ## Lists -/

/-- The answer to a list: decorated, then filtered. -/
def decorateList (request : Request) (response : Response) : Local Response := do
  let responseObject ← getResponseAsJSONObject response
  match responseObject.get "value" with
  | .arr value => do
    let context ← createAzureRequestContext request
    let decorated ← decorateContainerGroups context value
    let filtered := filterContainerGroups decorated context
    pure (rewriteResponse (.obj (responseObject.set "value" (.arr filtered))) 200)
  | _ => .fail "The container groups response has no value property"

/-- `proxyContainerGroupsGetRequest`. -/
def proxyContainerGroupsGetRequest (t : Transport) (request : Request) : Proxy Response := do
  let response ← roundTrip t request
  onDataStore (decorateList request response)

/-- `proxyContainerGroupsRequest`. -/
def proxyContainerGroupsRequest (t : Transport) (request : Request) : Proxy Response :=
  if request.method = "GET" then proxyContainerGroupsGetRequest t request else roundTrip t request

/-! ## The entry point -/

/-- `AzurePathContainerGroups`. -/
def azurePathContainerGroups : Path :=
  "/subscriptions/*/providers/Microsoft.ContainerInstance/containerGroups".toList

/-- `AzurePathContainerGroup`. -/
def azurePathContainerGroup : Path :=
  "/subscriptions/*/resourceGroups/*/providers/Microsoft.ContainerInstance/containerGroups/*".toList

/-- `proxyAzureRequest`. -/
def proxyAzureRequest (t : Transport) (request : Request) : Proxy Response := do
  .ofExcept t.retrieveAuthenticationToken
  if Path.match' azurePathContainerGroups request.path then proxyContainerGroupsRequest t request
  else if Path.match' azurePathContainerGroup request.path then proxyContainerGroupRequest t request
  else roundTrip t request

end AzureProxy

end Portainer
