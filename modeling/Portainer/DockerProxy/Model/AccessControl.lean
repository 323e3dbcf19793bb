import Portainer.DockerProxy.Model.Transport
/-!
# The Docker proxy — access control on requests and on answers

Before a request on a resource is forwarded, `restrictedResourceOperation`
finds the resource control of the resource: its own, or the one it inherits
through the labels the daemon reports for it. When an answer that lists or
shows resources comes back, `findResourceControl` finds the control of each
object from the identifier and the labels in the object itself, and the
user gets the objects they may use.
-/

namespace Portainer

namespace DockerProxy

open Json (Object)

/-! ## Labels -/

def resourceLabelForPortainerTeamResourceControl : String := "io.portainer.accesscontrol.teams"
def resourceLabelForPortainerUserResourceControl : String := "io.portainer.accesscontrol.users"
def resourceLabelForPortainerPublicResourceControl : String := "io.portainer.accesscontrol.public"
def resourceLabelForDockerSwarmStackName : String := "com.docker.stack.namespace"
def resourceLabelForDockerServiceID : String := "com.docker.swarm.service.id"
def resourceLabelForDockerComposeStackName : String := "com.docker.compose.project"

/-- `unicode.IsSpace`. -/
def isSpace (c : Char) : Bool :=
  c ∈ ['\t', '\n', '\x0b', '\x0c', '\r', ' ', '\u0085', '\u00a0', '\u1680', '\u2028', '\u2029',
    '\u202f', '\u205f', '\u3000'] || ('\u2000' ≤ c && c ≤ '\u200a')

/-- `strings.TrimSpace`. -/
def trimSpace (l : List Char) : List Char := (l.dropWhile isSpace).rdropWhile isSpace

/-- `getUniqueElements`: the distinct names in a comma-separated list. -/
def getUniqueElements (items : String) : List String :=
  (items.toList.splitOn ',').foldl
    (fun result item =>
      let v := String.ofList (trimSpace item)
      if v = "" ∨ v ∈ result then result else result ++ [v]) []

/-! ## Inherited resource controls, from the daemon's labels -/

/-- `getStackResourceIDFromLabels`: of the Swarm stack, or else of the
Compose project. -/
def getStackResourceIDFromLabels (labels : Labels) (endpointID : EndpointID) : String :=
  if labels.get resourceLabelForDockerSwarmStackName ≠ "" then
    stackResourceControlID endpointID (labels.get resourceLabelForDockerSwarmStackName)
  else if labels.get resourceLabelForDockerComposeStackName ≠ "" then
    stackResourceControlID endpointID (labels.get resourceLabelForDockerComposeStackName)
  else ""

/-- The resource control of the stack the labels name. -/
def stackResourceControl (endpointID : EndpointID) (labels : Labels)
    (resourceControls : List ResourceControl) : Option ResourceControl :=
  let stackResourceID := getStackResourceIDFromLabels labels endpointID
  if stackResourceID ≠ "" then
    getResourceControlByResourceIDAndType stackResourceID .stack resourceControls
  else none

/-- The resource control a container inherits: of its service, or else of
its stack. -/
def containerResourceControl (endpointID : EndpointID) (labels : Labels)
    (resourceControls : List ResourceControl) : Option ResourceControl :=
  let serviceName := labels.get resourceLabelForDockerServiceID
  let service :=
    if serviceName ≠ "" then
      getResourceControlByResourceIDAndType serviceName .service resourceControls
    else none
  service.or (stackResourceControl endpointID labels resourceControls)

/-- Inspect a resource, and take the resource control its labels lead
to. -/
def inheritedFromLabels
    (choose : EndpointID → Labels → List ResourceControl → Option ResourceControl)
    (kind : ResourceControlType) (t : Transport) (client resourceID : String)
    (resourceControls : List ResourceControl) : Local (Option ResourceControl) := do
  let labels ← Action.ofExcept (t.daemon.inspect client kind resourceID)
  pure (choose t.endpoint.id labels resourceControls)

def getInheritedResourceControlFromContainerLabels :=
  inheritedFromLabels containerResourceControl .container

def getInheritedResourceControlFromNetworkLabels :=
  inheritedFromLabels stackResourceControl .network

def getInheritedResourceControlFromVolumeLabels :=
  inheritedFromLabels stackResourceControl .volume

def getInheritedResourceControlFromServiceLabels :=
  inheritedFromLabels stackResourceControl .service

def getInheritedResourceControlFromConfigLabels :=
  inheritedFromLabels stackResourceControl .config

def getInheritedResourceControlFromSecretLabels :=
  inheritedFromLabels stackResourceControl .secret

/-- `getInheritedResourceControlFromServiceOrStack`. -/
def getInheritedResourceControlFromServiceOrStack (t : Transport)
    (resourceIdentifier nodeName : String) (resourceType : ResourceControlType)
    (resourceControls : List ResourceControl) : Local (Option ResourceControl) := do
  let client ← clientFor t nodeName
  match resourceType with
  | .container =>
    getInheritedResourceControlFromContainerLabels t client resourceIdentifier resourceControls
  | .network =>
    getInheritedResourceControlFromNetworkLabels t client resourceIdentifier resourceControls
  | .volume =>
    getInheritedResourceControlFromVolumeLabels t client resourceIdentifier resourceControls
  | .service =>
    getInheritedResourceControlFromServiceLabels t client resourceIdentifier resourceControls
  | .config =>
    getInheritedResourceControlFromConfigLabels t client resourceIdentifier resourceControls
  | .secret =>
    getInheritedResourceControlFromSecretLabels t client resourceIdentifier resourceControls
  | _ => pure none

/-! ## Requests -/

/-- `fetchEndpointSecuritySettings`. -/
def fetchEndpointSecuritySettings (t : Transport) : Local EndpointSecuritySettings := do
  let endpoint ← readObject fun db => db.endpoint.get? t.endpoint.id
  pure endpoint.securitySettings

/-- Whether regular users may browse volumes, where that is asked. -/
def allowsVolumeBrowser (t : Transport) (volumeBrowseRestrictionCheck : Bool) : Local Bool :=
  if volumeBrowseRestrictionCheck then do
    let securitySettings ← fetchEndpointSecuritySettings t
    pure securitySettings.allowVolumeBrowserForRegularUsers
  else pure true

/-- The resource control that decides on a request: the resource's own, or
the one it inherits. -/
def effectiveResourceControl (t : Transport) (request : Request)
    (resourceID dockerResourceID : String) (resourceType : ResourceControlType)
    (resourceControls : List ResourceControl) : Local (Option ResourceControl) :=
  match getResourceControlByResourceIDAndType resourceID resourceType resourceControls with
  | some resourceControl => pure (some resourceControl)
  | none =>
    getInheritedResourceControlFromServiceOrStack t
      (if dockerResourceID = "" then resourceID else dockerResourceID) request.agentTarget
      resourceType resourceControls

/-- The checks for a regular user: whether the request may go on. -/
def regularUserAllowed (t : Transport) (request : Request) (tokenData : TokenData)
    (resourceID dockerResourceID : String) (resourceType : ResourceControlType)
    (volumeBrowseRestrictionCheck : Bool) : Local Bool := do
  let allowed ← allowsVolumeBrowser t volumeBrowseRestrictionCheck
  if !allowed then pure false
  else do
    let userTeamIDs ← read fun db => db.userTeamIDs tokenData.id
    let resourceControls ← read fun db => db.resourceControl.all
    let resourceControl ← effectiveResourceControl t request resourceID dockerResourceID
      resourceType resourceControls
    pure (resourceControl.any (userCanAccessResource tokenData.id userTeamIDs))

/-- `restrictedResourceOperation`: forward for an administrator, or after
the checks. -/
def restrictedResourceOperation (t : Transport) (request : Request)
    (resourceID dockerResourceID : String) (resourceType : ResourceControlType)
    (volumeBrowseRestrictionCheck : Bool) : Proxy Response := do
  let tokenData ← retrieveTokenData request
  if tokenData.role = .administrator then executeDockerRequest t request
  else do
    let allowed ← regularUserAllowed t request tokenData resourceID dockerResourceID resourceType
      volumeBrowseRestrictionCheck
    if allowed then executeDockerRequest t request else pure accessDeniedResponse

/-- `administratorOperation`. -/
def administratorOperation (t : Transport) (request : Request) : Proxy Response := do
  let tokenData ← retrieveTokenData request
  if tokenData.role ≠ .administrator then pure accessDeniedResponse
  else executeDockerRequest t request

/-- Once a resource is gone, its resource control goes too. -/
def deleteResourceControl (resourceIdentifierAttribute : String)
    (resourceType : ResourceControlType) : Local Unit := do
  let resourceControl ← read fun db =>
    db.resourceControlByResourceIDAndType resourceIdentifierAttribute resourceType
  match resourceControl with
  | none => pure ()
  | some rc => write fun db => { db with resourceControl := db.resourceControl.delete rc.id }

/-- `executeGenericResourceDeletionOperation`. -/
def executeGenericResourceDeletionOperation (t : Transport) (request : Request)
    (resourceIdentifierAttribute volumeName : String) (resourceType : ResourceControlType) :
    Proxy Response := do
  let response ← restrictedResourceOperation t request resourceIdentifierAttribute volumeName
    resourceType false
  if response.statusCode = 204 ∨ response.statusCode = 200 then do
    deleteResourceControl resourceIdentifierAttribute resourceType
    pure response
  else pure response

/-! ## The resource control of an object in an answer -/

/-- `TeamByName` and `UserByUsername`, whose errors are logged and passed
over. -/
def knownIDs {α : Type} (byName : DataStore → String → Option α) (id : α → Int) :
    List String → Local (List Int)
  | [] => pure []
  | name :: names => do
    let found ← Action.attempt (readObject fun db => byName db name)
    let ids ← knownIDs byName id names
    match found with
    | .error _ => pure ids
    | .ok a => pure (id a :: ids)

/-- The names in a label, none if the object has no such label. -/
def labelNames (labelsObject : Object) (label : String) : Local (List String) :=
  if (labelsObject.get label).isNull then pure []
  else getUniqueElements <$> asString (labelsObject.get label)

/-- Store a resource control, and give it back with its identifier. -/
def createResourceControl (rc : ResourceControl) : Local ResourceControl := do
  let id ← Action.get fun db => db.resourceControl.next
  write fun db => db.createResourceControl rc
  pure { rc with id := id }

/-- `newResourceControlFromPortainerLabels`. -/
def newResourceControlFromPortainerLabels (t : Transport) (labelsObject : Object)
    (resourceID : String) (resourceType : ResourceControlType) : Local (Option ResourceControl) :=
  if !(labelsObject.get resourceLabelForPortainerPublicResourceControl).isNull then
    some <$> createResourceControl (newPublicResourceControl resourceID resourceType)
  else do
    let teamNames ← labelNames labelsObject resourceLabelForPortainerTeamResourceControl
    let userNames ← labelNames labelsObject resourceLabelForPortainerUserResourceControl
    if teamNames.length > 0 ∨ userNames.length > 0 then do
      let teamIDs ← knownIDs
        (fun db name => db.team.all.find? fun team => t.equalFold team.name name) Team.id teamNames
      let userIDs ← knownIDs
        (fun db name => db.user.all.find? fun user => t.equalFold user.username name) User.id
        userNames
      some <$> createResourceControl
        (newRestrictedResourceControl resourceID resourceType userIDs teamIDs)
    else pure none

/-- The resource control a label of the object leads to, if it has one. -/
def resourceControlOfLabel (labelsObject : Object) (label : String)
    (resourceID : String → String) (resourceType : ResourceControlType)
    (resourceControls : List ResourceControl) : Local (Option ResourceControl) :=
  if (labelsObject.get label).isNull then pure none
  else do
    let name ← asString (labelsObject.get label)
    pure (getResourceControlByResourceIDAndType (resourceID name) resourceType resourceControls)

/-- Go on with the second where the first finds nothing. -/
def orElse (x y : Local (Option ResourceControl)) : Local (Option ResourceControl) := do
  match ← x with
  | some rc => pure (some rc)
  | none => y

/-- `findResourceControl`: the resource's own control, or else that of its
service, its Swarm stack, its Compose project, or a new one made from its
Portainer labels. -/
def findResourceControl (t : Transport) (resourceIdentifier : String)
    (resourceType : ResourceControlType) (resourceLabelsObject : Option Object)
    (resourceControls : List ResourceControl) : Local (Option ResourceControl) :=
  match getResourceControlByResourceIDAndType resourceIdentifier resourceType resourceControls with
  | some rc => pure (some rc)
  | none =>
    match resourceLabelsObject with
    | none => pure none
    | some labels =>
      orElse (resourceControlOfLabel labels resourceLabelForDockerServiceID id .service
        resourceControls) <|
      orElse (resourceControlOfLabel labels resourceLabelForDockerSwarmStackName
        (stackResourceControlID t.endpoint.id) .stack resourceControls) <|
      orElse (resourceControlOfLabel labels resourceLabelForDockerComposeStackName
        (stackResourceControlID t.endpoint.id) .stack resourceControls) <|
      newResourceControlFromPortainerLabels t labels resourceIdentifier resourceType

/-! ## Decoration -/

/-- A resource control as JSON. -/
def resourceControlJSON (rc : ResourceControl) : Json :=
  .obj [("Id", .num rc.id), ("ResourceId", .str rc.resourceID),
    ("SubResourceIds", .arr (rc.subResourceIDs.map .str)),
    ("Type", .num (typeNumber rc.type)),
    ("UserAccesses", .arr (rc.userAccesses.map fun a =>
      .obj [("UserId", .num a.userID), ("AccessLevel", .num 1)])),
    ("TeamAccesses", .arr (rc.teamAccesses.map fun a =>
      .obj [("TeamId", .num a.teamID), ("AccessLevel", .num 1)])),
    ("Public", .bool rc.isPublic), ("AdministratorsOnly", .bool rc.administratorsOnly),
    ("System", .bool rc.system)]
where
  typeNumber : ResourceControlType → ℚ
    | .container => 1
    | .service => 2
    | .volume => 3
    | .network => 4
    | .secret => 5
    | .stack => 6
    | .config => 7
    | .customTemplate => 8
    | .containerGroup => 9

/-- `decorateObject`. -/
def decorateObject (object : Object) (rc : ResourceControl) : Local Object := do
  let metadata ← if (object.get "Portainer").isNull then pure []
    else asObject (object.get "Portainer")
  pure (object.set "Portainer" (.obj (Object.set metadata "ResourceControl" (resourceControlJSON rc))))

/-- `decorateObject`, where there may be no resource control. -/
def decorateObjectWith (object : Object) : Option ResourceControl → Local Object
  | none => pure object
  | some rc => decorateObject object rc

/-! ## Answers with one resource -/

/-- `restrictedDockerOperationContext`. -/
structure RestrictedDockerOperationContext where
  isAdmin : Bool
  userID : UserID
  userTeamIDs : List TeamID
  resourceControls : List ResourceControl

/-- `operationExecutor`. -/
structure OperationExecutor where
  operationContext : RestrictedDockerOperationContext
  labelBlackList : Option (List Pair) := none

/-- `resourceOperationParameters`. -/
structure ResourceOperationParameters where
  resourceIdentifierAttribute : String
  resourceType : ResourceControlType
  labelsObjectSelector : Object → Local (Option Object)

/-- `restrictedOperationRequest`: what is done to the answer. -/
abbrev RestrictedOperationRequest := Response → OperationExecutor → Local Response

/-- `findSystemNetworkResourceControl`. -/
def findSystemNetworkResourceControl (networkObject : Object) : Local (Option ResourceControl) :=
  if (networkObject.get "Name").isNull then pure none
  else do
    let networkID ← asString (networkObject.get "Id")
    let networkName ← asString (networkObject.get "Name")
    pure <| if networkName = "bridge" ∨ networkName = "host" ∨ networkName = "none" then
      some (newSystemResourceControl networkID .network)
    else none

/-- The resource control of a system network, for networks only. -/
def systemResourceControl (parameters : ResourceOperationParameters) (object : Object) :
    Local (Option ResourceControl) :=
  if parameters.resourceType = .network then findSystemNetworkResourceControl object else pure none

/-- Whether the user of the context may see what a resource control is
about. -/
def mayAccess (context : RestrictedDockerOperationContext) (rc : ResourceControl) : Bool :=
  userCanAccessResource context.userID context.userTeamIDs rc

/-- The answer once the resource control is known. -/
def decideOnResource (responseObject : Object) (context : RestrictedDockerOperationContext) :
    Option ResourceControl → Local Response
  | none =>
    if context.isAdmin then pure (rewriteResponse (.obj responseObject) 200)
    else pure accessDeniedResponse
  | some rc =>
    if context.isAdmin || mayAccess context rc then do
      let decorated ← decorateObject responseObject rc
      pure (rewriteResponse (.obj decorated) 200)
    else pure accessDeniedResponse

/-- `applyAccessControlOnResource`. An object without the identifier is
passed on as it came. -/
def applyAccessControlOnResource (t : Transport) (parameters : ResourceOperationParameters)
    (responseObject : Object) (response : Response) (executor : OperationExecutor) :
    Local Response :=
  if (responseObject.get parameters.resourceIdentifierAttribute).isNull then pure response
  else do
    match ← systemResourceControl parameters responseObject with
    | some rc => do
      let decorated ← decorateObject responseObject rc
      pure (rewriteResponse (.obj decorated) 200)
    | none => do
      let resourceIdentifier ←
        asString (responseObject.get parameters.resourceIdentifierAttribute)
      let labels ← parameters.labelsObjectSelector responseObject
      let rc ← findResourceControl t resourceIdentifier parameters.resourceType labels
        executor.operationContext.resourceControls
      decideOnResource responseObject executor.operationContext rc

/-! ## Answers with a list of resources -/

/-- One element of the list, for an administrator. -/
def decorateResource (t : Transport) (parameters : ResourceOperationParameters)
    (resourceControls : List ResourceControl) (resource : Json) : Local (List Json) := do
  let object ← asObject resource
  if (Object.get object parameters.resourceIdentifierAttribute).isNull then pure []
  else do
    match ← systemResourceControl parameters object with
    | some rc => do
      let decorated ← decorateObject object rc
      pure [.obj decorated]
    | none => do
      let resourceIdentifier ← asString (Object.get object parameters.resourceIdentifierAttribute)
      let labels ← parameters.labelsObjectSelector object
      let rc ← findResourceControl t resourceIdentifier parameters.resourceType labels
        resourceControls
      let decorated ← decorateObjectWith object rc
      pure [.obj decorated]

/-- One element of the list, for a regular user: kept or left out. -/
def filterResource (t : Transport) (parameters : ResourceOperationParameters)
    (context : RestrictedDockerOperationContext) (resource : Json) : Local (List Json) := do
  let object ← asObject resource
  if (Object.get object parameters.resourceIdentifierAttribute).isNull then pure []
  else do
    let resourceIdentifier ← asString (Object.get object parameters.resourceIdentifierAttribute)
    let labels ← parameters.labelsObjectSelector object
    match ← systemResourceControl parameters object with
    | some rc => do
      let decorated ← decorateObject object rc
      pure [.obj decorated]
    | none => do
      let found ← findResourceControl t resourceIdentifier parameters.resourceType labels
        context.resourceControls
      match found with
      | none => pure (if context.isAdmin then [.obj object] else [])
      | some rc =>
        if context.isAdmin || mayAccess context rc then do
          let decorated ← decorateObject object rc
          pure [.obj decorated]
        else pure []

/-- What is kept of a list, element by element. -/
def collect (f : Json → Local (List Json)) : List Json → Local (List Json)
  | [] => pure []
  | resource :: resourceData => do
    let kept ← f resource
    let rest ← collect f resourceData
    pure (kept ++ rest)

/-- `decorateResourceList`. -/
def decorateResourceList (t : Transport) (parameters : ResourceOperationParameters)
    (resourceData : List Json) (resourceControls : List ResourceControl) : Local (List Json) :=
  collect (decorateResource t parameters resourceControls) resourceData

/-- `filterResourceList`. -/
def filterResourceList (t : Transport) (parameters : ResourceOperationParameters)
    (resourceData : List Json) (context : RestrictedDockerOperationContext) : Local (List Json) :=
  collect (filterResource t parameters context) resourceData

/-- `applyAccessControlOnResourceList`. -/
def applyAccessControlOnResourceList (t : Transport) (parameters : ResourceOperationParameters)
    (resourceData : List Json) (executor : OperationExecutor) : Local (List Json) :=
  if executor.operationContext.isAdmin then
    decorateResourceList t parameters resourceData executor.operationContext.resourceControls
  else filterResourceList t parameters resourceData executor.operationContext

end DockerProxy

end Portainer
