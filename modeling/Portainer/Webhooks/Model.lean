import Portainer.Common.Text
import Portainer.Model.DataStore
/-!
# Webhooks — model

`handler/webhooks`: a token stands for a service of a Swarm, and whoever
posts to the webhook of the token has the service deployed again, on the
image it has or on another tag of it.
-/

namespace Portainer

namespace Webhooks

/-- `WebhookType`. Services are the only kind there is; the number is that
of the database. -/
inductive WebhookType
  | serviceWebhook
  | unknown (n : Int)
  deriving DecidableEq, Repr

/-- A webhook. -/
structure Webhook where
  id : Int
  token : String
  resourceID : String
  endpointID : EndpointID
  webhookType : WebhookType := .serviceWebhook

instance : Record Webhook := ⟨Webhook.id⟩

/-- What the update of a service changes of its specification:
`TaskTemplate.ContainerSpec.Image` and `TaskTemplate.ForceUpdate`, which
has 64 bits. -/
structure ServiceSpec where
  image : String
  forceUpdate : ℕ := 0
  deriving DecidableEq, Repr

/-- A service of a Swarm, with the version that an update has to name. -/
structure Service where
  version : ℕ
  spec : ServiceSpec
  deriving DecidableEq, Repr

/-- A request to the Docker daemon of an endpoint to update a service. -/
structure ServiceUpdate where
  endpointID : EndpointID
  serviceID : String
  version : ℕ
  spec : ServiceSpec
  deriving DecidableEq, Repr

/-- The database, the services of the endpoints, and the updates that the
daemons have accepted, the last one last. -/
structure Server where
  endpoint : Bucket Endpoint := {}
  webhook : Bucket Webhook := {}
  services : EndpointID → String → Option Service := fun _ _ => none
  updates : List ServiceUpdate := []

namespace Server

/-- `WebhookByToken`: the first webhook of the token. -/
def webhookByToken (token : String) : Fallible Server Webhook :=
  .lookup .databaseRead errObjectNotFound fun s => s.webhook.all.find? (·.token = token)

def getEndpoint (endpointID : EndpointID) : Fallible Server Endpoint :=
  .lookup .databaseRead errObjectNotFound fun s => s.endpoint.get? endpointID

/-- `CreateClient`. -/
def createClient (endpoint : Endpoint) : Fallible Server Unit := do
  .require (endpoint.type ≠ .azureEnvironment) "Environment not supported"
  .query .dockerClient fun _ => ()

/-- `ServiceInspectWithRaw`. -/
def serviceInspect (endpointID : EndpointID) (serviceID : String) : Fallible Server Service :=
  .lookup .dockerClient ("Error: No such service: " ++ serviceID) fun s =>
    s.services endpointID serviceID

/-- `ServiceUpdate`. -/
def serviceUpdate (update : ServiceUpdate) : Fallible Server Unit :=
  .call .dockerClient fun s =>
    { s with
      updates := s.updates ++ [update]
      services := fun endpointID serviceID =>
        if endpointID = update.endpointID ∧ serviceID = update.serviceID then
          some ⟨update.version + 1, update.spec⟩
        else s.services endpointID serviceID }

end Server

open Server

/-- The image a service is updated to: what stands before the first colon
of the one it has, with the given tag; or, where no tag is given, what
stands before the digest. -/
def updatedImage (image imageTag : String) : String :=
  if imageTag ≠ "" then String.ofList (Text.before [':'] image.toList) ++ ":" ++ imageTag
  else String.ofList (Text.before ['@', 's', 'h', 'a'] image.toList)

/-- The update of a service that is asked for. -/
def requestedUpdate (endpointID : EndpointID) (resourceID imageTag : String) (service : Service) :
    ServiceUpdate where
  endpointID := endpointID
  serviceID := resourceID
  version := service.version
  spec :=
    { image := updatedImage service.spec.image imageTag
      forceUpdate := (service.spec.forceUpdate + 1) % 2 ^ 64 }

def executeServiceWebhook (endpoint : Endpoint) (resourceID imageTag : String) :
    Handler Server Unit := do
  (createClient endpoint).mapError (.internalServerError "Error creating docker client")
  let service ← (serviceInspect endpoint.id resourceID).mapError
    (.internalServerError "Error looking up service")
  (serviceUpdate (requestedUpdate endpoint.id resourceID imageTag service)).mapError
    (.internalServerError "Error updating service")

/-- The answer to a token whose webhook was not found. -/
def webhookError (err : String) : HandlerError :=
  if err = errObjectNotFound then ⟨404, "Unable to find a webhook with this token", err⟩
  else .internalServerError "Unable to retrieve webhook from the database" err

/-- `webhookExecute`. `imageTag` is the query parameter `tag`, empty where
there is none. -/
def webhookExecute (token imageTag : String) : Handler Server Unit := do
  let webhook ← (webhookByToken token).mapError webhookError
  let endpoint ← (getEndpoint webhook.endpointID).mapError
    (.ofLookup "Unable to find an endpoint with the specified identifier inside the database")
  match webhook.webhookType with
  | .serviceWebhook => executeServiceWebhook endpoint webhook.resourceID imageTag
  | .unknown _ =>
    .fail (.internalServerError "Unsupported webhook type"
      "Webhooks for this resource are not currently supported")

end Webhooks

end Portainer
