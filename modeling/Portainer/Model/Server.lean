import Portainer.Model.Authorization
/-!
# The server — data services and the clusters' config maps

What the handlers work on: the database, the config map that Portainer
keeps in the cluster of each Kubernetes environment, and the tokens that it
has signed. A data service reads
and writes one bucket, and the services differ in the bucket only, so a
`Table` says which one, and the operations are defined once.
-/

namespace Portainer

open Std

/-- The config map of Portainer in a cluster. `accessPolicies` is what the
text under `NamespaceAccessPolicies` decodes to; it is `none` where the
text does not decode. The API server counts the versions. -/
structure ConfigMap where
  resourceVersion : ℕ := 0
  accessPolicies : Option NamespaceAccessPolicies
  deriving DecidableEq

/-- What the handlers work on. The signing key is drawn when the server
starts, so the tokens that verify are those it has signed since. -/
structure Server where
  dataStore : DataStore := {}
  configMaps : ExtTreeMap EndpointID ConfigMap := ∅
  issuedTokens : List TokenData := []

/-- The bucket a data service works on. -/
structure Table (α : Type) [Record α] where
  bucket : DataStore → Bucket α
  withBucket : DataStore → Bucket α → DataStore

namespace Table

variable {α : Type} [Record α] (t : Table α)

/-- `GetObject`. -/
def getObject (id : Int) : Fallible Server α :=
  .lookup .databaseRead errObjectNotFound fun s => (t.bucket s.dataStore).get? id

/-- All the objects of the bucket, in the order of the keys. -/
def getAll : Fallible Server (List α) := .query .databaseRead fun s => (t.bucket s.dataStore).all

/-- A change of the bucket, in one transaction. -/
def change (f : Bucket α → Bucket α) (s : Server) : Server :=
  { s with dataStore := t.withBucket s.dataStore (f (t.bucket s.dataStore)) }

/-- `UpdateObject`. Every caller gives the identifier of the object. -/
def updateObject (a : α) : Fallible Server Unit := .call .databaseWrite (t.change (·.put a))

/-- `DeleteObject`: deleting what is not there is no error. -/
def deleteObject (id : Int) : Fallible Server Unit := .call .databaseWrite (t.change (·.delete id))

/-- `GetNextIdentifier`: it drops the error of the draw and then returns
zero. -/
def getNextIdentifier {ε : Type} : Action Callee Server ε Int := do
  match ← (Action.call .databaseWrite (t.change Bucket.nextSequence)).attempt with
  | .ok _ => .get fun s => (t.bucket s.dataStore).sequence
  | .error _ => pure 0

/-- Create an object under a number drawn in the same transaction. It
returns the number. -/
def createObject (a : Int → α) : Fallible Server Int := do
  let id ← .get fun s => (t.bucket s.dataStore).next
  .call .databaseWrite (t.change fun b => b.nextSequence.put (a id))
  return id

end Table

namespace Server

def endpoint : Table Endpoint := ⟨DataStore.endpoint, fun db b => { db with endpoint := b }⟩

def endpointGroup : Table EndpointGroup :=
  ⟨DataStore.endpointGroup, fun db b => { db with endpointGroup := b }⟩

def endpointRelation : Table EndpointRelation :=
  ⟨DataStore.endpointRelation, fun db b => { db with endpointRelation := b }⟩

def edgeGroup : Table EdgeGroup := ⟨DataStore.edgeGroup, fun db b => { db with edgeGroup := b }⟩

def edgeStack : Table EdgeStack := ⟨DataStore.edgeStack, fun db b => { db with edgeStack := b }⟩

def registry : Table Registry := ⟨DataStore.registry, fun db b => { db with registry := b }⟩

def resourceControl : Table ResourceControl :=
  ⟨DataStore.resourceControl, fun db b => { db with resourceControl := b }⟩

def stack : Table Stack := ⟨DataStore.stack, fun db b => { db with stack := b }⟩

def tag : Table Tag := ⟨DataStore.tag, fun db b => { db with tag := b }⟩

def team : Table Team := ⟨DataStore.team, fun db b => { db with team := b }⟩

def teamMembership : Table TeamMembership :=
  ⟨DataStore.teamMembership, fun db b => { db with teamMembership := b }⟩

def user : Table User := ⟨DataStore.user, fun db b => { db with user := b }⟩

/-- `Settings`. -/
def getSettings : Fallible Server Settings := .query .databaseRead fun s => s.dataStore.settings

/-- `UpdateSettings`. -/
def updateSettings (settings : Settings) : Fallible Server Unit :=
  .call .databaseWrite fun s => { s with dataStore := { s.dataStore with settings := settings } }

/-- `TeamMembershipsByUserID`. -/
def teamMembershipsByUserID (userID : UserID) : Fallible Server (List TeamMembership) :=
  .query .databaseRead fun s => s.dataStore.teamMembershipsByUserID userID

/-- `ResourceControlByResourceIDAndType`. -/
def resourceControlByResourceIDAndType (resourceID : String) (resourceType : ResourceControlType) :
    Fallible Server (Option ResourceControl) :=
  .query .databaseRead fun s => s.dataStore.resourceControlByResourceIDAndType resourceID resourceType

/-- `CreateResourceControl`, which puts the identifier into the caller's
record. -/
def createResourceControl (rc : ResourceControl) : Fallible Server ResourceControl := do
  let id ← resourceControl.createObject fun id => { rc with id := id }
  return { rc with id := id }

end Server

end Portainer
