import Portainer.Common.Action
import Portainer.Model.Types
/-!
# The data store — buckets, callees and handler errors

One bucket for each kind of record. A handler is an `Action` whose callees
are the database and the services it is wired to; each of them can fail at
any call.
-/

namespace Portainer

/-- The database. -/
structure DataStore where
  endpoint : Bucket Endpoint := {}
  endpointGroup : Bucket EndpointGroup := {}
  endpointRelation : Bucket EndpointRelation := {}
  edgeGroup : Bucket EdgeGroup := {}
  edgeStack : Bucket EdgeStack := {}
  edgeJob : Bucket EdgeJob := {}
  registry : Bucket Registry := {}
  resourceControl : Bucket ResourceControl := {}
  settings : Settings := {}
  stack : Bucket Stack := {}
  tag : Bucket Tag := {}
  team : Bucket Team := {}
  teamMembership : Bucket TeamMembership := {}
  user : Bucket User := {}

/-- The services a handler calls, as far as they fail on their own. -/
inductive Callee
  | databaseRead
  | databaseWrite
  | fileService
  | digitalSignature
  | requestBody
  | kubernetesClient
  | kubernetesRead
  | kubernetesWrite
  | azureAuthentication
  | proxyManager
  | snapshotService
  | agentPing
  | gitService
  | cryptoService
  | jwtService
  | ldapService
  | oauthService
  | dockerClient
  | stackManager
  | kubernetesDeployer
  deriving DecidableEq, Repr

/-- `ErrObjectNotFound`. -/
def errObjectNotFound : String := "Object not found inside the database"

/-- `httperror.HandlerError`: the status code, the message and the text of
the error. -/
structure HandlerError where
  statusCode : ℕ
  message : String
  err : String
  deriving DecidableEq, Repr

/-- A handler over the stores `σ`. -/
abbrev Handler (σ α : Type) := Action Callee σ HandlerError α

/-- A function of the data store, which returns a plain error. -/
abbrev Fallible (σ α : Type) := Action Callee σ String α

namespace HandlerError

/-- `http.StatusBadRequest`. -/
def badRequest (message err : String) : HandlerError := ⟨400, message, err⟩

/-- `http.StatusForbidden`. -/
def forbidden (message err : String) : HandlerError := ⟨403, message, err⟩

/-- `http.StatusInternalServerError`. -/
def internalServerError (message err : String) : HandlerError := ⟨500, message, err⟩

/-- The answer to a failed lookup: not found if that is what the database
says, a server error otherwise, with one message for both. -/
def ofLookup (message err : String) : HandlerError :=
  if err = errObjectNotFound then ⟨404, message, err⟩ else internalServerError message err

end HandlerError

end Portainer
