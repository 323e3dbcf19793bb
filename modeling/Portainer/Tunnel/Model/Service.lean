import Portainer.Common.Machine
import Portainer.Model.Types
/-!
# The reverse tunnel service — model

`api/chisel`: one record for each endpoint that has been asked for a
tunnel, and the user registry of the chisel server. The records are shared
through pointers: what an operation writes to a record it got from the map
is seen at once, whether or not it then stores the record again.
`Service.touch` is such a write.
-/

namespace Portainer

open Std

namespace Tunnel

/-- Time in nanoseconds. -/
abbrev Time := Int

def second : Time := 1000000000

def minAvailablePort : ℕ := 49152
def maxAvailablePort : ℕ := 65535
def requiredTimeout : Time := 15 * second
def activeTimeout : Time := 4 * 60 * second + 30 * second

/-- `EdgeAgentIdle`, `EdgeAgentManagementRequired`, `EdgeAgentActive`. -/
inductive Status
  | idle
  | required
  | active
  deriving DecidableEq, Repr

/-- The tunnel of an endpoint. `lastActivity` is `none` for the zero
time. -/
structure TunnelDetails where
  status : Status := .idle
  lastActivity : Option Time := none
  port : ℕ := 0
  jobs : List EdgeJob := []
  credentials : String := ""
  deriving DecidableEq

/-! ## What the service calls -/

/-- A user of the chisel server and the remotes it may open. -/
structure ChiselUser where
  password : String
  addrs : List String
  deriving DecidableEq, Repr

/-- The chisel server, of which the service uses the user registry: a map
by user name. -/
class ChiselServer (S : Type) where
  user : S → String → Option ChiselUser
  addUser : S → String → ChiselUser → S
  deleteUser : S → String → S
  user_addUser : ∀ s name u n, user (addUser s name u) n = if name = n then some u else user s n
  user_deleteUser : ∀ s name n, user (deleteUser s name) n = if name = n then none else user s n

/-- A registry that is a map. -/
instance : ChiselServer (ExtTreeMap String ChiselUser) where
  user users name := users[name]?
  addUser users name u := users.insert name u
  deleteUser users name := users.erase name
  user_addUser users name u n := by simp [ExtTreeMap.getElem?_insert]
  user_deleteUser users name n := by simp [ExtTreeMap.getElem?_erase]

/-- `libcrypto.Encrypt`: it prefixes the ciphertext with a nonce, so what
it returns is not empty. -/
structure Cipher where
  encrypt : String → String → Except String (List UInt8)
  ne_nil : ∀ data key bytes, encrypt data key = .ok bytes → bytes ≠ []

/-- What the outside answers during one `SetTunnelStatusToRequired`. -/
structure RequiredCall where
  /-- The endpoint as the database returns it. -/
  endpoint : Except String Endpoint
  /-- The numbers drawn from the random source. -/
  draws : List (Fin (maxAvailablePort - minAvailablePort))
  now : Time
  username : String
  password : String
  /-- The error of `AddUser`, if it fails. -/
  addUserErr : Option String := none
  cipher : Cipher

/-! ## Credentials -/

/-- A character of the standard base64 alphabet. -/
def base64Char (n : ℕ) : Char :=
  "ABCDEFGHIJKLMNOPQRSTUVWXYZabcdefghijklmnopqrstuvwxyz0123456789+/".toList.getD n 'A'

/-- `base64.RawStdEncoding`: the standard alphabet, without padding. -/
def rawStdEncoding : List UInt8 → List Char
  | [] => []
  | [a] => [base64Char (a.toNat / 4), base64Char (a.toNat % 4 * 16)]
  | [a, b] => [base64Char (a.toNat / 4), base64Char (a.toNat % 4 * 16 + b.toNat / 16),
      base64Char (b.toNat % 16 * 4)]
  | a :: b :: c :: rest => base64Char (a.toNat / 4) :: base64Char (a.toNat % 4 * 16 + b.toNat / 16) ::
      base64Char (b.toNat % 16 * 4 + c.toNat / 64) :: base64Char (c.toNat % 64) ::
      rawStdEncoding rest

def encryptCredentials (cipher : Cipher) (username password key : String) :
    Except String String :=
  match cipher.encrypt (username ++ ":" ++ password) key with
  | .ok bytes => .ok (String.ofList (rawStdEncoding bytes))
  | .error err => .error err

/-- The remote a tunnel user is allowed to open. -/
def authorizedRemote (port : ℕ) : String := "^R:0.0.0.0:" ++ toString port ++ "$"

/-- `strings.Split(credentials, ":")[0]`. -/
def splitHead (credentials : String) : String :=
  String.ofList (credentials.toList.takeWhile (· ≠ ':'))

/-! ## The service -/

/-- The tunnel map and the chisel server. -/
structure Service (S : Type) where
  tunnelDetailsMap : ExtTreeMap EndpointID TunnelDetails := ∅
  chiselServer : S

namespace Service

variable {S : Type}

/-- `tunnelDetailsMap.Set`. -/
def set (s : Service S) (endpointID : EndpointID) (tunnel : TunnelDetails) : Service S :=
  { s with tunnelDetailsMap := s.tunnelDetailsMap.insert endpointID tunnel }

/-- A write through the pointer `GetTunnelDetails` returned: it reaches the
map if that is where the record came from. -/
def touch (s : Service S) (endpointID : EndpointID) (tunnel : TunnelDetails) : Service S :=
  if endpointID ∈ s.tunnelDetailsMap then s.set endpointID tunnel else s

def getTunnelDetails (s : Service S) (endpointID : EndpointID) : TunnelDetails :=
  s.tunnelDetailsMap[endpointID]?.getD {}

/-- A port no tunnel holds. It draws until it finds one; `none` is a call
that has not found one after these draws. -/
def getUnusedPort (s : Service S) :
    List (Fin (maxAvailablePort - minAvailablePort)) → Option ℕ
  | [] => none
  | n :: draws =>
    let port := minAvailablePort + n
    if s.tunnelDetailsMap.toList.any (fun item => item.2.port == port) then
      s.getUnusedPort draws
    else some port

def setTunnelStatusToActive (s : Service S) (endpointID : EndpointID) (now : Time) : Service S :=
  let tunnel := s.getTunnelDetails endpointID
  s.set endpointID { tunnel with status := .active, credentials := "", lastActivity := some now }

/-- The jobs with one added, in place of the first of the same identifier
or at the end. -/
def upsert (jobs : List EdgeJob) (edgeJob : EdgeJob) : List EdgeJob :=
  match jobs.findIdx? (fun existingJob => existingJob.id == edgeJob.id) with
  | none => jobs ++ [edgeJob]
  | some idx => jobs.set idx edgeJob

def addEdgeJob (s : Service S) (endpointID : EndpointID) (edgeJob : EdgeJob) : Service S :=
  let tunnel := s.getTunnelDetails endpointID
  s.set endpointID { tunnel with jobs := upsert tunnel.jobs edgeJob }

def removeEdgeJob (s : Service S) (edgeJobID : EdgeJobID) : Service S :=
  { s with tunnelDetailsMap := s.tunnelDetailsMap.map fun _ tunnel =>
      { tunnel with jobs := tunnel.jobs.filter (fun edgeJob => edgeJob.id != edgeJobID) } }

variable [ChiselServer S]

def setTunnelStatusToIdle (s : Service S) (endpointID : EndpointID) (now : Time) : Service S :=
  let tunnel := s.getTunnelDetails endpointID
  let credentials := tunnel.credentials
  let tunnel := { tunnel with status := .idle, port := 0, lastActivity := some now }
  if credentials ≠ "" then
    { s with chiselServer := ChiselServer.deleteUser s.chiselServer (splitHead credentials) }.set
      endpointID { tunnel with credentials := "" }
  else s.set endpointID tunnel

/-- The error of the call, or none, and the service after it. `none` is a
call still drawing ports. -/
def setTunnelStatusToRequired (s : Service S) (endpointID : EndpointID) (c : RequiredCall) :
    Option (Except String Unit × Service S) :=
  let tunnel := s.getTunnelDetails endpointID
  if tunnel.port = 0 then
    match c.endpoint with
    | .error err => some (.error err, s)
    | .ok endpoint =>
      match s.getUnusedPort c.draws with
      | none => none
      | some port =>
        let tunnel := { tunnel with status := .required, port := port, lastActivity := some c.now }
        -- the record is shared: status, port and time are in the map from here on
        let s := s.touch endpointID tunnel
        match c.addUserErr with
        | some err => some (.error err, s)
        | none =>
          let user := ⟨c.password, [authorizedRemote port]⟩
          let s := { s with chiselServer := ChiselServer.addUser s.chiselServer c.username user }
          match encryptCredentials c.cipher c.username c.password endpoint.edgeID with
          | .error err => some (.error err, s)
          | .ok credentials =>
            some (.ok (), s.set endpointID { tunnel with credentials := credentials })
  else some (.ok (), s)

/-! ## Expiry -/

/-- The clock during one `checkTunnels`: when each tunnel is looked at, and
when it is set idle. -/
structure Clock where
  check : EndpointID → Time
  idle : EndpointID → Time

end Service

/-- The tunnel has been inactive for its timeout. An idle tunnel, and one
that never was active, is skipped. -/
def TunnelDetails.expired (tunnel : TunnelDetails) (now : Time) : Bool :=
  match tunnel.lastActivity, tunnel.status with
  | none, _ => false
  | some _, .idle => false
  | some last, .required => !decide (now - last < requiredTimeout)
  | some last, .active => !decide (now - last < activeTimeout)

namespace Service

variable {S : Type} [ChiselServer S]

/-- One turn of the loop of `checkTunnels`. -/
def checkTunnel (clock : Clock) (s : Service S) (endpointID : EndpointID) : Service S :=
  match s.tunnelDetailsMap[endpointID]? with
  | none => s
  | some tunnel =>
    if tunnel.expired (clock.check endpointID) then
      if tunnel.jobs.length > 0 then s.setTunnelStatusToIdle endpointID (clock.idle endpointID)
      else { s with tunnelDetailsMap := s.tunnelDetailsMap.erase endpointID }
    else s

def checkTunnels (s : Service S) (clock : Clock) : Service S :=
  s.tunnelDetailsMap.keys.foldl (checkTunnel clock) s

end Service

/-! ## The service as a machine -/

/-- An operation on the tunnels, with everything it is given. -/
inductive Op
  | required (endpointID : EndpointID) (call : RequiredCall)
  | active (endpointID : EndpointID) (now : Time)
  | idle (endpointID : EndpointID) (now : Time)
  | addEdgeJob (endpointID : EndpointID) (edgeJob : EdgeJob)
  | removeEdgeJob (edgeJobID : EdgeJobID)
  | checkTunnels (clock : Service.Clock)

/-- The tunnel service under its operations, each executed atomically. -/
def machine (S : Type) [ChiselServer S] : Machine (Service S) Op where
  step s
    | .required e c => (s.setTunnelStatusToRequired e c).map Prod.snd
    | .active e now => some (s.setTunnelStatusToActive e now)
    | .idle e now => some (s.setTunnelStatusToIdle e now)
    | .addEdgeJob e job => some (s.addEdgeJob e job)
    | .removeEdgeJob id => some (s.removeEdgeJob id)
    | .checkTunnels clock => some (s.checkTunnels clock)

end Tunnel

end Portainer
