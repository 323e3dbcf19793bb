import Portainer.Common.Json
import Portainer.Model.Authorization
/-!
# The Docker proxy — requests, the transport and the daemon

A user's request to the Docker API of an environment goes through a
`Transport`, which may refuse it, change it, forward it to the daemon and
change the answer. What the transport forwards is recorded in the order it
happens.

The daemon, reached by forwarding and by the Docker client, is a parameter.
A type assertion that fails panics in the source; here it is an error like
any other, since in both cases the request is not answered.
-/

namespace Portainer

namespace DockerProxy

/-- Credentials for a registry, as the daemon reads them. -/
structure RegistryAuthenticationHeader where
  username : String := ""
  password : String := ""
  serveraddress : String := ""
  deriving DecidableEq, Repr

/-- The header `X-Registry-Auth`: absent, sent by a client (with the
registry it names, or the text of its decoding error), or put in place by
the proxy. -/
inductive RegistryAuth
  | absent
  | client (registryID : Except String RegistryID)
  | docker (header : Option RegistryAuthenticationHeader)

/-- The body of a request: the client's, with the first JSON value in it
and whether text follows that, or one the proxy put in place. -/
inductive Body
  | client (text : String) (value : Option Json) (trailing : Bool)
  | registry (registry : Registry)
  | tar (dockerfileContent : String)

namespace Body

/-- What `json.Unmarshal` reads: one value, with nothing behind it. -/
def unmarshal : Body → Option Json
  | client _ v false => v
  | _ => none

/-- What `Decode` of a `json.Decoder` reads: the first value. -/
def decode : Body → Option Json
  | client _ v _ => v
  | _ => none

def text : Body → String
  | client t _ _ => t
  | _ => ""

end Body

/-- A request for the Docker API, with the parts the proxy reads. The token
data are those the session check has put into its context. -/
structure Request where
  method : String
  path : Path
  /-- The values of the query parameter `volumeID`. -/
  volumeID : List String := []
  contentType : String := ""
  /-- The header `X-PortainerAgent-Target`. -/
  agentTarget : String := ""
  /-- The header `X-Portainer-VolumeName`. -/
  volumeName : String := ""
  registryAuth : RegistryAuth := .absent
  /-- Whether the agent's public key and signature headers are set. -/
  signed : Bool := false
  body : Body := .client "" none false
  token : Option TokenData

/-- An answer: its status and what its body decodes to. -/
structure Response where
  statusCode : ℕ := 200
  body : Except String Json := .error "unable to parse response: empty response body"

abbrev Labels := List (String × String)

/-- The value of a label, empty if there is none. -/
def Labels.get (labels : Labels) (k : String) : String := (lastOf labels k).getD ""

/-- The daemon of the environment: what it answers to a forwarded request,
and to the Docker client of a node (the empty name is the environment's
own client). `inspect` gives the labels of a resource, `info` the
identifier of the cluster or else of the daemon. -/
structure Daemon where
  roundTrip : Request → Except String Response
  createClient : String → Except String Unit := fun _ => .ok ()
  inspect : String → ResourceControlType → String → Except String Labels := fun _ _ _ => .ok []
  info : Except String String := .ok ""

/-- The transport of an environment. `snapshotDockerID` is what
`FetchDockerID` reads from its first snapshot, `equalFold` is the standard
library's `strings.EqualFold`. -/
structure Transport where
  endpoint : Endpoint
  daemon : Daemon
  snapshotDockerID : Option String := none
  equalFold : String → String → Bool := fun s t => Json.foldName s = Json.foldName t

/-- What the transport does to the world outside the database. -/
inductive Event
  | roundTrip (request : Request)
  | setTunnelStatusToActive (endpointID : EndpointID)
  | setTunnelStatusToIdle (endpointID : EndpointID)

/-- The database, and what has happened, in the order of the steps. -/
structure ProxyState where
  dataStore : DataStore := {}
  events : List Event := []

/-- A part of the proxy. -/
abbrev Proxy (α : Type) := Fallible ProxyState α

/-- A part that works on the database alone, and so forwards nothing. -/
abbrev Local (α : Type) := Fallible DataStore α

/-- A local part, within the proxy. -/
def onDataStore {α : Type} (x : Local α) : Proxy α :=
  Action.zoom ProxyState.dataStore (fun s db => { s with dataStore := db }) x

instance : MonadLift (Fallible DataStore) (Fallible ProxyState) := ⟨onDataStore⟩

namespace ProxyState

def record (s : ProxyState) (e : Event) : ProxyState := { s with events := s.events ++ [e] }

end ProxyState

/-! ## Reading -/

/-- A read of the database. -/
def read {α : Type} (f : DataStore → α) : Local α :=
  Action.query .databaseRead f

/-- A read of one object. -/
def readObject {α : Type} (f : DataStore → Option α) : Local α :=
  Action.lookup .databaseRead errObjectNotFound f

/-- A write. -/
def write (f : DataStore → DataStore) : Local Unit :=
  Action.call .databaseWrite f

/-- `ioutil.ReadAll` of the request body. -/
def readBody (request : Request) : Local Body := Action.query .requestBody fun _ => request.body

/-- `security.RetrieveTokenData`. -/
def retrieveTokenData (request : Request) : Local TokenData :=
  match request.token with
  | none => Action.fail "Unable to find JWT data in request context"
  | some tokenData => pure tokenData

/-- `isAdminOrEndpointAdmin`. -/
def isAdminOrEndpointAdmin (request : Request) : Local Bool := do
  let tokenData ← retrieveTokenData request
  pure (tokenData.role = .administrator)

/-- The error of a body that is not what `Unmarshal` expects. -/
def errUnmarshal : String := "json: cannot unmarshal"

/-- `json.Unmarshal` into a variable. -/
def unmarshal {α : Type} (d : Json.Decoder α) (zero : α) (value : Option Json) : Local α :=
  match value.bind (d zero) with
  | none => Action.fail errUnmarshal
  | some a => pure a

/-! ## Type assertions on decoded values -/

def errInterfaceConversion : String := "interface conversion"

def asString : Json → Local String
  | .str s => pure s
  | _ => Action.fail errInterfaceConversion

def asObject : Json → Local Json.Object
  | .obj o => pure o
  | _ => Action.fail errInterfaceConversion

def asArray : Json → Local (List Json)
  | .arr l => pure l
  | _ => Action.fail errInterfaceConversion

/-- `utils.GetJSONObject`: the object at a key, or nil. -/
def getJSONObject (o : Json.Object) (property : String) : Local (Option Json.Object) :=
  if (o.get property).isNull then pure none else some <$> asObject (o.get property)

/-! ## Responses -/

/-- `utils.RewriteResponse`. -/
def rewriteResponse (value : Json) (statusCode : ℕ) : Response := ⟨statusCode, .ok value⟩

/-- `utils.WriteAccessDeniedResponse` and `RewriteAccessDeniedResponse`. -/
def accessDeniedResponse : Response :=
  rewriteResponse (.obj [("message", .str "access denied to resource")]) 403

/-- `utils.GetResponseAsJSONObject`. -/
def getResponseAsJSONObject (response : Response) : Local Json.Object := do
  asObject (← Action.ofExcept response.body)

/-- The array of a list response, or why it is none. -/
def jsonArray : Json → Local (List Json)
  | .arr l => pure l
  | .obj o =>
    if (Json.Object.get o "message").isNull then
      Action.fail "unable to parse response: expected JSON array, got JSON object"
    else do
      let message ← asString (Json.Object.get o "message")
      Action.fail message
  | _ => Action.fail "unable to parse response: expected JSON array"

/-- `utils.GetResponseAsJSONArray`. -/
def getResponseAsJSONArray (response : Response) : Local (List Json) := do
  jsonArray (← Action.ofExcept response.body)

/-! ## Forwarding -/

/-- An environment behind a tunnel reports how the call went. -/
def reportTunnel (t : Transport) (result : Except String Response) : Proxy Unit :=
  if t.endpoint.type ≠ .edgeAgentOnDockerEnvironment then pure ()
  else Action.modify fun s => s.record <|
    match result with
    | .ok _ => .setTunnelStatusToActive t.endpoint.id
    | .error _ => .setTunnelStatusToIdle t.endpoint.id

/-- `executeDockerRequest`: hand the request to the daemon. -/
def executeDockerRequest (t : Transport) (request : Request) : Proxy Response := do
  Action.modify fun s => s.record (.roundTrip request)
  reportTunnel t (t.daemon.roundTrip request)
  Action.ofExcept (t.daemon.roundTrip request)

/-! ## The Docker client -/

/-- The client for a node, by the name it is reached under. -/
def clientFor (t : Transport) (nodeName : String) : Local String :=
  if nodeName = "" then pure ""
  else do
    Action.ofExcept (t.daemon.createClient nodeName)
    pure nodeName

/-- `getDockerID`. -/
def getDockerID (t : Transport) : Local String :=
  match t.snapshotDockerID with
  | some dockerID => pure dockerID
  | none => Action.ofExcept t.daemon.info

/-- `getVolumeResourceID`. -/
def getVolumeResourceID (t : Transport) (volumeName : String) : Local String := do
  let dockerID ← Action.mapError (fun e => "failed fetching docker id: " ++ e) (getDockerID t)
  pure s!"{volumeName}_{dockerID}"

end DockerProxy

end Portainer
