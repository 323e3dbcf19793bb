import Portainer.Common.Json
import Portainer.Inventory.Model.Edge
/-!
# Services — what the handlers share

What a handler is given besides the store, and the loops that several
handlers have in common: the tags of a list changed one by one, and the
tags of an endpoint or of a group replaced by those of a payload.
-/

namespace Portainer

namespace Inventory

/-- `AgentPlatform`, as an agent reports it: any number but zero. -/
inductive AgentPlatform
  | docker
  | kubernetes
  | other
  deriving DecidableEq, Repr

/-- What the handlers are given. The fields stand for the configuration,
for what a parser of the standard library or a validator makes of a text,
and for the answer of an agent. -/
structure Services where
  fileStorePath : String := "/data"
  goos : String := "linux"
  /-- `url.Parse`, and the host of the result without its port. -/
  portainerHost : String → Except String String
  /-- The platform the agent behind a URL reports. -/
  agentPlatform : String → AgentPlatform
  /-- `govalidator.IsURL`. -/
  isURL : String → Bool
  /-- `strings.EqualFold`. -/
  equalFold : String → String → Bool := fun s t => Json.foldName s = Json.foldName t

/-- Services on which every text is a URL, of one host. -/
def plainServices : Services where
  portainerHost _ := .ok "portainer"
  agentPlatform _ := .docker
  isURL _ := true

/-- The store as `Init` sets it up: the default group, and nothing else. -/
def newServer : Server where
  dataStore :=
    { endpointGroup := ({} : Bucket EndpointGroup).nextSequence.put
        { id := 1, name := "Unassigned", description := "Unassigned endpoints" } }

/-- `TLSFileType`. -/
inductive TLSFileType
  | ca
  | cert
  | key
  deriving DecidableEq, Repr

/-- The file name of a kind of TLS file. -/
def TLSFileType.fileName : TLSFileType → String
  | .ca => "ca.pem"
  | .cert => "cert.pem"
  | .key => "key.pem"

namespace Services

variable (services : Services)

/-- `GetPathForTLSFile`. -/
def getPathForTLSFile (folder : String) (fileType : TLSFileType) : String :=
  services.fileStorePath ++ "/tls/" ++ folder ++ "/" ++ fileType.fileName

/-- `StoreTLSFileFromBytes`: the path of the file. -/
def storeTLSFile (folder : String) (fileType : TLSFileType) : Fallible Server String := do
  .call .fileService id
  return services.getPathForTLSFile folder fileType

/-- `GetEdgeStackProjectPath`. -/
def getEdgeStackProjectPath (edgeStackIdentifier : String) : String :=
  services.fileStorePath ++ "/edge_stacks/" ++ edgeStackIdentifier

/-- `StoreEdgeStackFileFromBytes`: the path of the folder. -/
def storeEdgeStackFile (edgeStackIdentifier : String) : Fallible Server String := do
  .call .fileService id
  return services.getEdgeStackProjectPath edgeStackIdentifier

end Services

/-- `DeleteTLSFiles`. -/
def deleteTLSFiles : Fallible Server Unit := .call .fileService id

/-- `DeleteTLSFile`, by a caller that drops the error. -/
def deleteTLSFile : Handler Server Unit := do
  let _ ← (Action.call .fileService id).attempt

/-! ## The tags of a list -/

/-- Look up each tag of a list, change it and persist it. The callers have
their own answers to a failure. -/
def changeTags (unfound unpersisted : String → HandlerError) (change : Tag → Tag)
    (tagIDs : List TagID) : Handler Server Unit :=
  tagIDs.forM fun tagID => do
    let tag ← (Server.tag.getObject tagID).mapError unfound
    (Server.tag.updateObject (change tag)).mapError unpersisted

/-- The tag with an endpoint: `tag.Endpoints[endpointID] = true`. -/
def withEndpoint (endpointID : EndpointID) (tag : Tag) : Tag :=
  { tag with endpoints := insert endpointID tag.endpoints }

/-- The tag without an endpoint: `delete(tag.Endpoints, endpointID)`. -/
def withoutEndpoint (endpointID : EndpointID) (tag : Tag) : Tag :=
  { tag with endpoints := tag.endpoints.erase endpointID }

/-- The tag with a group. -/
def withEndpointGroup (endpointGroupID : EndpointGroupID) (tag : Tag) : Tag :=
  { tag with endpointGroups := insert endpointGroupID tag.endpointGroups }

/-- The tag without a group. -/
def withoutEndpointGroup (endpointGroupID : EndpointGroupID) (tag : Tag) : Tag :=
  { tag with endpointGroups := tag.endpointGroups.erase endpointGroupID }

/-- The two lists of tags are not one set. -/
def tagsChanged (tagIDs : List TagID) : Option (List TagID) → Bool
  | none => false
  | some payloadTagIDs =>
    let payloadTagSet := Tags.set payloadTagIDs
    let tagSet := Tags.set tagIDs
    (Tags.intersection payloadTagSet tagSet).card < (Tags.union payloadTagSet tagSet).card

def findTag : String → HandlerError := .internalServerError "Unable to find a tag inside the database"

def persistTag : String → HandlerError :=
  .internalServerError "Unable to persist tag changes inside the database"

/-- The part of `endpointUpdate` and of `endpointGroupUpdate` about tags.
`off` and `on` take the endpoint or the group off a tag and put it on; the
result is the list it has afterwards. -/
def replaceTags (off on : Tag → Tag) (tagIDs : List TagID) :
    Option (List TagID) → Handler Server (List TagID)
  | none => pure tagIDs
  | some payloadTagIDs =>
    if tagsChanged tagIDs (some payloadTagIDs) then do
      let removeTags := Tags.difference (Tags.set tagIDs) (Tags.set payloadTagIDs)
      changeTags findTag persistTag off (elements removeTags)
      changeTags findTag persistTag on payloadTagIDs
      return payloadTagIDs
    else pure tagIDs

end Inventory

end Portainer
