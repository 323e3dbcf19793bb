import Portainer.Common.Decimal
import Portainer.Environments.Model
import Portainer.Tunnel.Helpers.Service
/-!
# The monitoring of the tunnels — model

The loop that `StartTunnelServer` leaves in the background looks at every
tunnel now and then. Here the keys of the map are the texts that they are
in the code, and an active tunnel that has expired is used once more, for a
snapshot of its environment. What fails is logged, and the loop goes on.
-/

namespace Portainer

open Std

namespace Tunnel

/-- What the monitoring works on: the tunnels, the chisel server and the
database. -/
structure Monitor (S : Type) where
  tunnelDetailsMap : ExtTreeMap String TunnelDetails := ∅
  chiselServer : S
  server : Server := {}

/-- The clock and the snapshots during one `checkTunnels`, by the key of the
tunnel: when it is looked at, when it is set idle, and what is taken. -/
structure Rounds where
  check : String → Time
  idle : String → Time
  snapshot : String → Option String := fun _ => none

namespace Monitor

variable {S : Type}

/-- `tunnelDetailsMap.Get`, of the key of an endpoint. -/
def getTunnelDetails (m : Monitor S) (endpointID : EndpointID) : TunnelDetails :=
  m.tunnelDetailsMap[Path.itoa endpointID]?.getD {}

/-- `tunnelDetailsMap.Set`. -/
def set (m : Monitor S) (endpointID : EndpointID) (tunnel : TunnelDetails) : Monitor S :=
  { m with tunnelDetailsMap := m.tunnelDetailsMap.insert (Path.itoa endpointID) tunnel }

/-- `tunnelDetailsMap.Remove`. -/
def remove (m : Monitor S) (key : String) : Monitor S :=
  { m with tunnelDetailsMap := m.tunnelDetailsMap.erase key }

def setTunnelStatusToIdle [ChiselServer S] (m : Monitor S) (endpointID : EndpointID) (now : Time) : Monitor S :=
  let tunnel := m.getTunnelDetails endpointID
  let credentials := tunnel.credentials
  let tunnel := { tunnel with status := .idle, port := 0, lastActivity := some now }
  if credentials ≠ "" then
    { m with chiselServer := ChiselServer.deleteUser m.chiselServer (splitHead credentials) }.set
      endpointID { tunnel with credentials := "" }
  else m.set endpointID tunnel

end Monitor

/-- `snapshotEnvironment`: the snapshot is taken through the tunnel, and the
record is written back with its own address. -/
def snapshotEnvironment (snapshot : Option String) (endpointID : EndpointID) (tunnelPort : ℕ) :
    Fallible Server Unit := do
  let endpoint ← Server.endpoint.getObject endpointID
  let endpoint ← Environments.snapshotThroughTunnel snapshot tunnelPort endpoint
  Server.endpoint.updateObject endpoint

variable {S : Type}

/-- The number that `strconv.Atoi` returns, with an error or without: 0 where
the text spells none, the nearest of 64 bits where it spells one too large. -/
def nearestAtoi : Path → Int
  | '-' :: q => max (-2 ^ 63) (-((Path.digits q).getD 0 : ℕ))
  | '+' :: q => min (2 ^ 63 - 1) ((Path.digits q).getD 0 : ℕ)
  | q => min (2 ^ 63 - 1) ((Path.digits q).getD 0 : ℕ)

/-- The last use of an active tunnel. A key that is no identifier is logged,
and the environment of the number returned with the error is asked for; an
error of the snapshot is logged. -/
def snapshotExpired (rounds : Rounds) (key : String) (tunnel : TunnelDetails) (elapsed : Time) :
    Action Callee (Monitor S) String Unit :=
  if tunnel.status = .active ∧ activeTimeout < elapsed then do
    let endpointID := nearestAtoi key.toList
    let snapshot := snapshotEnvironment (rounds.snapshot key) endpointID tunnel.port
    let _ ← (snapshot.zoom Monitor.server fun m server => { m with server := server }).attempt
    pure ()
  else pure ()

variable [ChiselServer S]

/-- An expired tunnel with jobs is set idle, under the number that its key
is; one without is removed. -/
def expireTunnel (rounds : Rounds) (key : String) (tunnel : TunnelDetails) :
    Action Callee (Monitor S) String Unit :=
  if tunnel.jobs.length > 0 then
    match Path.atoi key.toList with
    | none => pure ()
    | some endpointID => .modify (·.setTunnelStatusToIdle endpointID (rounds.idle key))
  else .modify (·.remove key)

/-- One turn of the loop, for a tunnel that has been active at some time. -/
def checkActivity (rounds : Rounds) (key : String) (tunnel : TunnelDetails) (lastActivity : Time) :
    Action Callee (Monitor S) String Unit :=
  let elapsed := rounds.check key - lastActivity
  if tunnel.status = .idle then pure ()
  else if tunnel.status = .required ∧ elapsed < requiredTimeout then pure ()
  else if tunnel.status = .active ∧ elapsed < activeTimeout then pure ()
  else do
    snapshotExpired rounds key tunnel elapsed
    expireTunnel rounds key tunnel

/-- One turn of the loop: the zero time is no activity. -/
def checkTunnel (rounds : Rounds) (key : String) : Action Callee (Monitor S) String Unit := do
  let item ← .get fun m => m.tunnelDetailsMap[key]?
  match item.bind fun tunnel => tunnel.lastActivity.map (Prod.mk tunnel) with
  | none => pure ()
  | some (tunnel, lastActivity) => checkActivity rounds key tunnel lastActivity

/-- `checkTunnels`. -/
def checkTunnels (rounds : Rounds) : Action Callee (Monitor S) String Unit := do
  let keys ← .get fun m => m.tunnelDetailsMap.keys
  keys.forM (checkTunnel rounds)

end Tunnel

end Portainer
