import Portainer.Common.GoPath
import Portainer.Common.JsonMeaning
/-!
# The proxy of Kubernetes secrets

`factory/kubernetes/secrets.go`, with the bodies of `factory/utils`. The body
of a request or of an answer is read into an `interface{}`, looked at with
casts that are not checked, and written again. A cast that fails is a panic.
-/

namespace Portainer

namespace SecretProxy

open Json (Object)

/-! ## Messages -/

/-- A text: its value as JSON, none if it is not well formed, and the
characters it is spelt with, which another decoder may look at. -/
structure Text where
  value : Option Json
  spelling : String := ""
  isGzip : Bool := false

structure Header where
  contentType : String := ""
  contentEncoding : String := ""

structure Request where
  method : String
  requestURI : Path
  header : Header := {}
  body : Option Text := none
  /-- Whether the token of the context is one of an administrator. -/
  isAdmin : Except String Bool

structure Response where
  statusCode : ℕ
  header : Header := {}
  body : Option Text

/-- What ends an operation: a cast that fails, an error of the code, or one
of the reader of a text. -/
inductive Failure
  | typeAssertion
  | error (text : String)
  | malformed
  deriving DecidableEq, Repr

/-- A package for a format: what a text is decoded to, if it is, and the
value of the text that a value is encoded as. -/
structure Format where
  read : Text → Option Json
  write : Json → Json

/-- Package `encoding/json`. -/
def json : Format where
  read text := text.value.bind Json.decode
  write := Json.encode

/-- The formats of the proxy. `yaml` is that of package `yaml.v3`, which may
decode and encode as it will. -/
def formatOf (yaml : Format) (contentType : String) : Option Format :=
  if contentType = "application/yaml" then some yaml
  else if contentType = "application/json" ∨ contentType = "" then some json
  else none

/-- Nothing is decoded of a text that is none. -/
def unmarshal (yaml : Format) (contentType : String) (text : Option Text) : Except Failure Json :=
  match formatOf yaml contentType with
  | none => .error (.error ("content type is not supported for unmarshaling: " ++ contentType))
  | some format =>
    match text.bind format.read with
    | none => .error .malformed
    | some v => .ok v

def marshal (yaml : Format) (contentType : String) (data : Json) : Except Failure Text :=
  match formatOf yaml contentType with
  | none => .error (.error ("content type is not supported for marshaling: " ++ contentType))
  | some format => .ok { value := some (format.write data) }

def getBody (yaml : Format) (body : Option Text) (contentType : String) (isGzip : Bool) :
    Except Failure Json :=
  match body with
  | none => .error (.error "unable to parse response: empty response body")
  | some text =>
    match isGzip, text.isGzip with
    | true, false => .error .malformed
    | false, true => unmarshal yaml contentType none
    | _, _ => unmarshal yaml contentType (some text)

/-- The cast to a map. -/
def asObject : Json → Except Failure Object
  | .obj members => .ok members
  | _ => .error .typeAssertion

/-- `GetRequestAsMap`. -/
def getRequestAsMap (yaml : Format) (request : Request) : Except Failure Object := do
  asObject (← getBody yaml request.body request.header.contentType (request.header.contentEncoding = "gzip"))

def rewriteRequest (yaml : Format) (request : Request) (newData : Object) : Except Failure Request := do
  let data ← marshal yaml request.header.contentType (.obj newData)
  return { request with body := some data }

/-- The header of a response, once its body is read. -/
def Header.opened (header : Header) : Header :=
  if header.contentEncoding = "gzip" then { header with contentEncoding := "" } else header

def getResponseAsJSONObject (yaml : Format) (response : Response) : Except Failure Object := do
  asObject (← getBody yaml response.body response.header.contentType (response.header.contentEncoding = "gzip"))

def rewriteResponse (yaml : Format) (response : Response) (newResponseData : Object) (statusCode : ℕ) :
    Except Failure Response := do
  let data ← marshal yaml response.header.contentType (.obj newResponseData)
  return { response with statusCode := statusCode, body := some data }

/-- `WriteAccessDeniedResponse`. -/
def writeAccessDeniedResponse (yaml : Format) : Except Failure Response :=
  rewriteResponse yaml { statusCode := 0, body := none } [("message", .str "access denied to resource")] 403

/-! ## Registry secrets -/

/-- `GetJSONObject`. No object is one without members. -/
def getJSONObject (jsonObject : Object) (property : String) : Except Failure Object :=
  match Object.get jsonObject property with
  | .null => .ok []
  | object => asObject object

/-- `GetArrayObject`. -/
def getArrayObject (jsonObject : Object) (property : String) : Except Failure (Option (List Json)) :=
  match Object.get jsonObject property with
  | .null => .ok none
  | .arr elements => .ok (some elements)
  | _ => .error .typeAssertion

/-- `v1.SecretTypeDockerConfigJson`. -/
def secretTypeDockerConfigJson : String := "kubernetes.io/dockerconfigjson"

/-- `privateregistries.RegistryIDLabel`. -/
def registryIDLabel : String := "portainer.io/registry.id"

def isSecretRepresentPrivateRegistry (secret : Object) : Except Failure Bool :=
  match Object.get secret "type" with
  | .str type =>
    if type ≠ secretTypeDockerConfigJson then .ok false
    else do
      let metadata ← getJSONObject secret "metadata"
      let labels ← getJSONObject metadata "annotations"
      return (lastOf labels registryIDLabel).isSome
  | _ => .error .typeAssertion

/-! ## The cluster -/

/-- A secret of the cluster. -/
structure StoredSecret where
  type : String
  annotations : List (String × String) := []

/-- The cluster: the API server behind the transport, and the client of the
endpoint. -/
structure Cluster where
  roundTrip : Request → Except String Response
  kubeClient : Except String Unit := .ok ()
  secret : String → String → Except String (Option StoredSecret)

/-- An error from outside. -/
def outside {α : Type} (answer : Except String α) : Except Failure α := answer.mapError .error

/-- `IsRegistrySecret`. -/
def Cluster.isRegistrySecret (cluster : Cluster) (namespaceName secretName : String) : Except String Bool := do
  match ← cluster.secret namespaceName secretName with
  | none => return false
  | some secret => return secret.type = secretTypeDockerConfigJson

/-! ## Operations -/

/-- What an operation does: the request that it forwards, if any, and what it
returns. -/
structure Outcome where
  forwarded : Option Request := none
  answer : Except Failure Response

/-- `executeKubernetesRequest`. -/
def executeKubernetesRequest (cluster : Cluster) (request : Request) : Outcome :=
  { forwarded := some request, answer := outside (cluster.roundTrip request) }

/-- A request with the secret as its body: a creation or an update. -/
def proxySecretWriteOperation (yaml : Format) (cluster : Cluster) (request : Request) : Outcome :=
  match getRequestAsMap yaml request with
  | .error failure => { answer := .error failure }
  | .ok body =>
    match isSecretRepresentPrivateRegistry body with
    | .error failure => { answer := .error failure }
    | .ok true => { answer := writeAccessDeniedResponse yaml }
    | .ok false =>
      match rewriteRequest yaml request body with
      | .error failure => { answer := .error failure }
      | .ok request => executeKubernetesRequest cluster request

def proxySecretCreationOperation (yaml : Format) (cluster : Cluster) (request : Request) : Outcome :=
  proxySecretWriteOperation yaml cluster request

/-- The items of a list that represent no registry. -/
def filterItems : List Json → Except Failure (List Json)
  | [] => .ok []
  | item :: items => do
    let isRegistry ← isSecretRepresentPrivateRegistry (← asObject item)
    let filteredItems ← filterItems items
    return if isRegistry then filteredItems else item :: filteredItems

/-- The response of a list, whose rewriting is not checked for an error. -/
def rewriteList (yaml : Format) (response : Response) (body : Object) : Response :=
  match rewriteResponse yaml response body response.statusCode with
  | .error _ => { response with body := some { value := none } }
  | .ok response => response

def proxySecretListOperation (yaml : Format) (cluster : Cluster) (request : Request) : Outcome where
  forwarded := some request
  answer := do
    let response ← outside (cluster.roundTrip request)
    let isAdmin ← outside request.isAdmin
    if isAdmin then return response
    let body ← getResponseAsJSONObject yaml response
    let response := { response with header := response.header.opened }
    match ← getArrayObject body "items" with
    | none => return rewriteList yaml response body
    | some items =>
      let filteredItems ← filterItems items
      return rewriteList yaml response (Object.set body "items" (.arr filteredItems))

def proxySecretInspectOperation (yaml : Format) (cluster : Cluster) (request : Request) : Outcome where
  forwarded := some request
  answer := do
    let response ← outside (cluster.roundTrip request)
    let isAdmin ← outside request.isAdmin
    if isAdmin then return response
    let body ← getResponseAsJSONObject yaml response
    let isRegistry ← isSecretRepresentPrivateRegistry body
    if isRegistry then writeAccessDeniedResponse yaml
    else rewriteResponse yaml { response with header := response.header.opened } body response.statusCode

def proxySecretUpdateOperation (yaml : Format) (cluster : Cluster) (request : Request) : Outcome :=
  proxySecretWriteOperation yaml cluster request

/-- The name of a secret: the last element of a path. -/
def secretName (path : Path) : String := String.ofList path.base

/-- `proxySecretDeleteOperation`. -/
def proxySecretDeleteOperation (yaml : Format) (cluster : Cluster) (request : Request) (namespaceName : String) :
    Outcome :=
  match outside (do cluster.kubeClient; cluster.isRegistrySecret namespaceName (secretName request.requestURI)) with
  | .error failure => { answer := .error failure }
  | .ok true => { answer := writeAccessDeniedResponse yaml }
  | .ok false => executeKubernetesRequest cluster request

def proxySecretRequest (yaml : Format) (cluster : Cluster) (request : Request) (namespaceName : String)
    (requestPath : Path) : Outcome :=
  match request.method with
  | "POST" => proxySecretCreationOperation yaml cluster request
  | "GET" =>
    if secretName requestPath = "secrets" then proxySecretListOperation yaml cluster request
    else proxySecretInspectOperation yaml cluster request
  | "PUT" => proxySecretUpdateOperation yaml cluster request
  | "DELETE" => proxySecretDeleteOperation yaml cluster request namespaceName
  | _ => executeKubernetesRequest cluster request

end SecretProxy

end Portainer
