import Portainer.Common.Json
import Portainer.Model.DataStore
/-!
# The migration to database version 32

`migrate_dbversion31.go`, with what starts it. A database that is older
than the program is converted at the start, step by step, and its version
is stored at the end. The conversions of this version rewrite the accesses
of the registries, turn the account at the Docker Hub into a registry, and
give the resource controls of volumes new resource identifiers.

Every write leaves a store that an interruption would leave, so the
database keeps all of them beside the present one.
-/

namespace Portainer

open Std

namespace Migration

/-! ## The stored records -/

/-- `portainer.DBVersion`. -/
def dbVersion : Int := 32

/-- `portainer.DockerSnapshot`: the raw answers of the engine as they are
decoded, without their types. -/
structure DockerSnapshot where
  swarm : Bool := false
  info : Json := .null
  volumes : Json := .null

structure StoredEndpoint extends Endpoint where
  snapshots : List DockerSnapshot := []

instance : Record StoredEndpoint := ⟨fun endpoint => endpoint.id⟩

/-- A registry with the policies that version 31 had for it on every
endpoint. -/
structure StoredRegistry extends Registry where
  userAccessPolicies : UserAccessPolicies := ∅
  teamAccessPolicies : TeamAccessPolicies := ∅
  deriving DecidableEq

instance : Record StoredRegistry := ⟨fun registry => registry.id⟩

/-- `portainer.DockerHub`. -/
structure DockerHub where
  authentication : Bool := false
  username : String := ""
  password : String := ""
  deriving DecidableEq, Repr

/-- What the migration reads and writes of the database. -/
structure Store where
  version : Int
  /-- No conversion to an older version is due. -/
  recent : 31 ≤ version
  registry : Bucket StoredRegistry := {}
  endpoint : Bucket StoredEndpoint := {}
  dockerHub : Option DockerHub := none
  resourceControl : Bucket ResourceControl := {}

/-- The database, with the stores it held after each write. -/
structure Database where
  store : Store
  passed : List Store := []

/-- A write. -/
def Database.write (f : Store → Store) (d : Database) : Database where
  store := f d.store
  passed := d.passed ++ [f d.store]

/-- A transaction that reads. -/
def read {α : Type} (f : Store → α) : Fallible Database α := .query .databaseRead fun d => f d.store

/-- A transaction that writes. -/
def write (f : Store → Store) : Fallible Database Unit := .call .databaseWrite (Database.write f)

namespace Store

/-- `UpdateRegistry`. -/
def updateRegistry (registry : StoredRegistry) (s : Store) : Store :=
  { s with registry := s.registry.put registry }

/-- `CreateRegistry`. -/
def createRegistry (registry : StoredRegistry) (s : Store) : Store :=
  { s with registry := s.registry.nextSequence.put { registry with id := s.registry.next } }

/-- `UpdateResourceControl`. -/
def updateResourceControl (resourceControl : ResourceControl) (s : Store) : Store :=
  { s with resourceControl := s.resourceControl.put resourceControl }

/-- `DeleteResourceControl`. -/
def deleteResourceControl (id : ResourceControlID) (s : Store) : Store :=
  { s with resourceControl := s.resourceControl.delete id }

/-- `StoreDBVersion`, for the version of the program. -/
def storeDBVersion (s : Store) : Store := { s with version := dbVersion, recent := by decide }

end Store

/-! ## Registries -/

/-- The policies of the registry for those whom the endpoint knows. -/
def registryAccess (registry : StoredRegistry) (endpoint : StoredEndpoint) : RegistryAccessPolicies where
  userAccessPolicies := registry.userAccessPolicies.filter fun userID _ =>
    endpoint.userAccessPolicies.contains userID
  teamAccessPolicies := registry.teamAccessPolicies.filter fun teamID _ =>
    endpoint.teamAccessPolicies.contains teamID
  namespaces := []

/-- The registry with its accesses computed from the deprecated policies. -/
def convertRegistry (endpoints : List StoredEndpoint) (registry : StoredRegistry) : StoredRegistry :=
  { registry with
    registryAccesses := endpoints.foldl
      (fun accesses endpoint => accesses.insert endpoint.id (registryAccess registry endpoint)) ∅ }

/-- One registry. The error of the write is dropped. -/
def updateRegistryToDB32 (endpoints : List StoredEndpoint) (registry : StoredRegistry) :
    Fallible Database PUnit := do
  let _ ← Action.attempt (write (.updateRegistry (convertRegistry endpoints registry)))
  return ⟨⟩

def updateRegistriesToDB32 : Fallible Database Unit := do
  let registries ← read fun s => s.registry.all
  let endpoints ← read fun s => s.endpoint.all
  registries.forM (updateRegistryToDB32 endpoints)

/-! ## The Docker Hub -/

/-- Everyone whom the endpoint knows, with no role. -/
def dockerhubAccess (endpoint : StoredEndpoint) : RegistryAccessPolicies where
  userAccessPolicies := endpoint.userAccessPolicies.map fun _ _ => { roleID := 0 }
  teamAccessPolicies := endpoint.teamAccessPolicies.map fun _ _ => { roleID := 0 }
  namespaces := []

/-- The registry that stands for the account at the Docker Hub. -/
def dockerhubRegistry (dockerhub : DockerHub) (endpoints : List StoredEndpoint) : StoredRegistry where
  type := .dockerHub
  name := "Dockerhub (authenticated - migrated)"
  url := "docker.io"
  authentication := true
  username := dockerhub.username
  password := dockerhub.password
  registryAccesses := endpoints.foldl
    (fun accesses endpoint =>
      if endpoint.type ≠ .kubernetesLocalEnvironment ∧ endpoint.type ≠ .agentOnKubernetesEnvironment ∧
          endpoint.type ≠ .edgeAgentOnKubernetesEnvironment then
        accesses.insert endpoint.id (dockerhubAccess endpoint)
      else
        accesses) ∅

def updateDockerhubToDB32 : Fallible Database Unit := do
  match ← read Store.dockerHub with
  | none => return ()
  | some dockerhub =>
    if dockerhub.authentication then do
      let endpoints ← read fun s => s.endpoint.all
      write (.createRegistry (dockerhubRegistry dockerhub endpoints))
    else
      return ()

/-! ## Volumes -/

/-- How a computation ends that does not succeed: with an error, or where a
type assertion does not hold, in a panic. -/
inductive Stop
  | error (text : String)
  | panic
  deriving DecidableEq, Repr

namespace Stop

/-- `fmt.Errorf`, for an error; a panic passes through. -/
def wrap (before : String) : Stop → Stop
  | error text => error (before ++ text)
  | panic => panic

/-- What the program ends with. -/
def text : Stop → String
  | error text => text
  | panic => "interface conversion"

end Stop

/-- `v.(string)`. -/
def asString : Json → Except Stop String
  | .str s => .ok s
  | _ => .error .panic

/-- `v.([]interface\x7b\x7d)`. -/
def asArray : Json → Except Stop (List Json)
  | .arr elements => .ok elements
  | _ => .error .panic

/-- `v.(map[string]interface\x7b\x7d)`. -/
def asObject : Json → Except Stop Json.Object
  | .obj members => .ok members
  | _ => .error .panic

/-- The cluster's identifier for a swarm, the engine's otherwise. -/
def fetchDockerID (snapshot : DockerSnapshot) : Except Stop String :=
  match snapshot.info with
  | .obj info =>
    if !snapshot.swarm then
      asString (Json.Object.get info "ID")
    else if (Json.Object.get info "Swarm").isNull then
      .error (.error "swarm endpoint is missing swarm info snapshot")
    else do
      let swarmInfo ← asObject (Json.Object.get info "Swarm")
      if (swarmInfo.get "Cluster").isNull then
        .error (.error "swarm endpoint is missing cluster info snapshot")
      else do
        let clusterInfo ← asObject (swarmInfo.get "Cluster")
        asString (clusterInfo.get "ID")
  | _ => .error (.error "failed getting snapshot info")

/-- The controls of volumes by the identifier of the resource. Of two for
one resource the later one is found. -/
def volumeResourceControls (resourceControls : List ResourceControl) : ExtTreeMap String ResourceControl :=
  resourceControls.foldl
    (fun controls resourceControl =>
      if resourceControl.type = .volume then
        controls.insert resourceControl.resourceID resourceControl
      else
        controls) ∅

/-- Note the new resource identifier of a control, by that of the control. -/
def noteUpdate (controls : ExtTreeMap String ResourceControl)
    (toUpdate : ExtTreeMap ResourceControlID String) (oldResourceID newResourceID : String) :
    ExtTreeMap ResourceControlID String :=
  match controls[oldResourceID]? with
  | some resourceControl => toUpdate.insert resourceControl.id newResourceID
  | none => toUpdate

/-- One volume of a snapshot. -/
def findResourceToUpdateForDB32 (dockerID : String) (controls : ExtTreeMap String ResourceControl)
    (toUpdate : ExtTreeMap ResourceControlID String) (volumeMeta : Json) :
    Except Stop (ExtTreeMap ResourceControlID String) := do
  let volume ← asObject volumeMeta
  let volumeName ← asString (volume.get "Name")
  let createdAt ← asString (volume.get "CreatedAt")
  return noteUpdate controls toUpdate (volumeName ++ createdAt) (volumeName ++ "_" ++ dockerID)

def findResourcesToUpdateForDB32 (dockerID : String) (volumesData : Json.Object)
    (toUpdate : ExtTreeMap ResourceControlID String) (controls : ExtTreeMap String ResourceControl) :
    Except Stop (ExtTreeMap ResourceControlID String) := do
  let volumes ← asArray (volumesData.get "Volumes")
  volumes.foldlM (findResourceToUpdateForDB32 dockerID controls) toUpdate

/-- The volumes of an endpoint's last snapshot. -/
def findInEndpoint (controls : ExtTreeMap String ResourceControl)
    (toUpdate : ExtTreeMap ResourceControlID String) (endpoint : StoredEndpoint) :
    Except Stop (ExtTreeMap ResourceControlID String) :=
  if !isDockerEndpoint endpoint.toEndpoint then
    .ok toUpdate
  else
    match endpoint.snapshots.getLast? with
    | none => .ok toUpdate
    | some snapshot => do
      let endpointDockerID ← (fetchDockerID snapshot).mapError
        (.wrap "failed fetching endpoint docker id: ")
      match snapshot.volumes with
      | .obj volumesData =>
        if (Json.Object.get volumesData "Volumes").isNull then
          return toUpdate
        else
          findResourcesToUpdateForDB32 endpointDockerID volumesData toUpdate controls
      | _ => return toUpdate

/-- How a program iterates over a map: in no order that it could rely on. -/
structure MapOrder where
  list : ExtTreeMap String ResourceControl → List ResourceControl
  /-- Each value comes once. -/
  perm : ∀ controls, (list controls).Perm (controls.toList.map Prod.snd)

/-- The order of the keys. -/
def MapOrder.ofKeys : MapOrder where
  list controls := controls.toList.map Prod.snd
  perm _ := .refl _

/-- Give a control its new resource identifier, or remove it. -/
def migrateResourceControl (toUpdate : ExtTreeMap ResourceControlID String)
    (resourceControl : ResourceControl) : Fallible Database PUnit :=
  match toUpdate[resourceControl.id]? with
  | some newResourceID =>
    (write (.updateResourceControl { resourceControl with resourceID := newResourceID })).mapError
      (s!"failed updating resource control {resourceControl.id}: " ++ ·)
  | none =>
    (write (.deleteResourceControl resourceControl.id)).mapError
      (s!"failed deleting resource control {resourceControl.id}: " ++ ·)

def updateVolumeResourceControlToDB32 (order : MapOrder) : Fallible Database Unit := do
  let endpoints ← (read fun s => s.endpoint.all).mapError ("failed fetching endpoints: " ++ ·)
  let resourceControls ← (read fun s => s.resourceControl.all).mapError
    ("failed fetching resource controls: " ++ ·)
  let controls := volumeResourceControls resourceControls
  let toUpdate ← .ofExcept ((endpoints.foldlM (findInEndpoint controls) ∅).mapError Stop.text)
  (order.list controls).forM (migrateResourceControl toUpdate)

/-! ## The migration -/

def migrateDBVersionToDB32 (order : MapOrder) : Fallible Database Unit := do
  updateRegistriesToDB32
  updateDockerhubToDB32
  updateVolumeResourceControlToDB32 order

/-- The step of `Migrate` to version 32, where it is due. -/
def migrateTo32 (order : MapOrder) (currentDBVersion : Int) : Fallible Database Unit :=
  if currentDBVersion < 32 then migrateDBVersionToDB32 order else pure ()

/-- `Migrate`, from version 31 on: of the older conversions none is due. -/
def migrate (order : MapOrder) (currentDBVersion : Int) : Fallible Database Unit := do
  migrateTo32 order currentDBVersion
  write .storeDBVersion

/-- `MigrateData`, on an existing database. -/
def migrateData (order : MapOrder) : Fallible Database Unit := do
  let version ← read Store.version
  if version < dbVersion then
    migrate order version
  else
    return ()

end Migration

end Portainer
