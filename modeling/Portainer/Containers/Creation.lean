import Portainer.Common.ShellWords
import Portainer.Containers.EnvVars
import Portainer.Containers.Ports
/-!
# Containers — the creation form

`views/containers/create`. A container that is edited is loaded into the form,
a field after the other, and the configuration of the new one is prepared from
it. `splitargs` stands for the package that splits a command as a shell does.
An absent list and an empty one are written alike by Docker.
-/

namespace Portainer

namespace Creation

abbrev Text := List Char

/-- `PathOnHost`, `PathInContainer` and `CgroupPermissions`. -/
structure Device where
  pathOnHost : String
  pathInContainer : String
  cgroupPermissions : String
deriving DecidableEq

/-- `Type` and `Config`. -/
structure LogConfig where
  type : String
  config : Option Properties
deriving DecidableEq

/-- A mount; what it has not is the empty text. -/
structure Mount where
  name : String
  source : String
  destination : String
  rw : Bool
deriving DecidableEq

structure HostConfig where
  binds : Option (List String)
  portBindings : Ports.PortMap
  devices : Option (List Device)
  dns : Option (List String)
  extraHosts : Option (List String)
  sysctls : Option Properties
  capAdd : Option (List String)
  capDrop : Option (List String)
  logConfig : LogConfig
deriving DecidableEq

/-- A configuration, as it is reported and as it is sent. -/
structure Config where
  cmd : Option (List Text)
  env : Option (List Text)
  labels : Option Properties
  hostConfig : HostConfig
deriving DecidableEq

structure Container where
  config : Config
  mounts : List Mount

/-! ## The form -/

inductive CmdMode where
  | default
  | override
deriving DecidableEq

structure Volume where
  name : String
  containerPath : String
  readOnly : Bool

structure ContainerCapability where
  capability : String
  allowed : Bool
deriving DecidableEq

/-- `pathOnHost` and `pathInContainer`. -/
structure FormDevice where
  pathOnHost : String
  pathInContainer : String

/-- `$scope.config` where the form has its own shape for it, and
`$scope.formValues`. -/
structure Form where
  cmd : Option Text
  portBindings : List Ports.PortBinding
  devices : List FormDevice
  logConfig : LogConfig
  cmdMode : CmdMode
  volumes : List Volume
  env : List EnvVars.Variable
  labels : Properties
  sysctls : Properties
  dnsPrimary : String
  dnsSecondary : String
  extraHosts : List String
  capabilities : List ContainerCapability
  logDriverName : String
  logDriverOpts : Properties

/-! ## The command -/

def commandArrayToString (array : List Text) : Text := ShellWords.joinQuoted array

def loadFromContainerCmd (cmd : Option (List Text)) : Option Text × CmdMode :=
  match cmd with
  | some array => (some (commandArrayToString array), .override)
  | none => (none, .default)

def prepareCmd (splitargs : Text → List Text) (cmd : Option Text) (cmdMode : CmdMode) : Option (List Text) :=
  if cmd.getD [] = [] ∨ cmdMode = .default then none else some (splitargs (cmd.getD []))

/-! ## Volumes -/

/-- `name:destination`, with `:ro` if it is read-only; nothing without a name
and a destination. -/
def bindText (name containerPath : String) (readOnly : Bool) : Option String :=
  if name ≠ "" ∧ containerPath ≠ "" then some (name ++ ":" ++ containerPath ++ if readOnly then ":ro" else "")
  else none

/-- The name, or else the source. -/
def Mount.nameOrSource (m : Mount) : String := if m.name ≠ "" then m.name else m.source

/-- What `configFromContainer` makes of a mount. -/
def Mount.bind (m : Mount) : Option String := bindText m.nameOrSource m.destination (m.rw = false)

def configFromContainer (c : Container) : Config :=
  { c.config with hostConfig := { c.config.hostConfig with binds := some (c.mounts.filterMap Mount.bind) } }

def loadFromContainerVolumes (mounts : List Mount) : List Volume :=
  mounts.map fun m => { name := m.nameOrSource, containerPath := m.destination, readOnly := m.rw = false }

def prepareVolumes (volumes : List Volume) : List String :=
  volumes.filterMap fun volume => bindText volume.name volume.containerPath volume.readOnly

/-! ## Name servers and hosts -/

/-- `DnsPrimary` and `DnsSecondary`: what is not there is as good as the empty
text. -/
def loadDns (dns : Option (List String)) : String × String :=
  let primary := (dns.getD [])[0]?.getD ""
  let secondary := (dns.getD [])[1]?.getD ""
  (primary, if primary ≠ "" then secondary else "")

def prepareDns (dnsPrimary dnsSecondary : String) : List String :=
  (if dnsPrimary ≠ "" then [dnsPrimary] else []) ++ if dnsSecondary ≠ "" then [dnsSecondary] else []

def prepareExtraHosts (extraHosts : List String) : List String := extraHosts.filter (· ≠ "")

/-! ## Properties -/

def prepareLabels (labels : Properties) : Properties :=
  labels.foldl (fun o label => if label.1 ≠ "" then setProperty o label.1 label.2 else o) []

def prepareSysctls (sysctls : Properties) : Properties :=
  sysctls.foldl (fun o sysctl => if sysctl.1 ≠ "" ∧ sysctl.2 ≠ "" then setProperty o sysctl.1 sysctl.2 else o) []

/-! ## Devices -/

def loadFromContainerDevices (devices : Option (List Device)) : List FormDevice :=
  (devices.getD []).map fun device => { pathOnHost := device.pathOnHost, pathInContainer := device.pathInContainer }

def prepareDevices (devices : List FormDevice) : List Device :=
  devices.filterMap fun p =>
    if p.pathOnHost ≠ "" then
      some { pathOnHost := p.pathOnHost
             pathInContainer := if p.pathInContainer = "" then p.pathOnHost else p.pathInContainer
             cgroupPermissions := "rwm" }
    else none

/-! ## The log driver -/

/-- The options are written if there are any and the constructor of their
object is that of objects, which an option of this name hides. A type that is
empty leaves what was there. -/
def prepareLogDriver (logConfig : LogConfig) (logDriverName : String) (logDriverOpts : Properties) : LogConfig :=
  if logDriverName ≠ "" then
    let logOpts := logDriverOpts.foldl (fun o opt => if opt.1 ≠ "" then setProperty o opt.1 opt.2 else o) []
    if logDriverName ≠ "none" ∧ logOpts ≠ [] ∧ "constructor" ∉ logOpts.map Prod.fst then ⟨logDriverName, some logOpts⟩
    else ⟨logDriverName, none⟩
  else logConfig

/-! ## Capabilities -/

/-- The capabilities of the form, before they are sorted. -/
def capabilityList : List ContainerCapability :=
  [⟨"SETPCAP", true⟩, ⟨"MKNOD", true⟩, ⟨"AUDIT_WRITE", true⟩, ⟨"CHOWN", true⟩, ⟨"NET_RAW", true⟩,
    ⟨"DAC_OVERRIDE", true⟩, ⟨"FOWNER", true⟩, ⟨"FSETID", true⟩, ⟨"KILL", true⟩, ⟨"SETGID", true⟩, ⟨"SETUID", true⟩,
    ⟨"NET_BIND_SERVICE", true⟩, ⟨"SYS_CHROOT", true⟩, ⟨"SETFCAP", true⟩, ⟨"SYS_MODULE", false⟩, ⟨"SYS_RAWIO", false⟩,
    ⟨"SYS_PACCT", false⟩, ⟨"SYS_ADMIN", false⟩, ⟨"SYS_NICE", false⟩, ⟨"SYS_RESOURCE", false⟩, ⟨"SYS_TIME", false⟩,
    ⟨"SYS_TTY_CONFIG", false⟩, ⟨"AUDIT_CONTROL", false⟩, ⟨"MAC_ADMIN", false⟩, ⟨"MAC_OVERRIDE", false⟩,
    ⟨"NET_ADMIN", false⟩, ⟨"SYSLOG", false⟩, ⟨"DAC_READ_SEARCH", false⟩, ⟨"LINUX_IMMUTABLE", false⟩,
    ⟨"NET_BROADCAST", false⟩, ⟨"IPC_LOCK", false⟩, ⟨"IPC_OWNER", false⟩, ⟨"SYS_PTRACE", false⟩, ⟨"SYS_BOOT", false⟩,
    ⟨"LEASE", false⟩, ⟨"WAKE_ALARM", false⟩, ⟨"BLOCK_SUSPEND", false⟩]

def ContainerCapabilities : List ContainerCapability := sortBy ContainerCapability.capability capabilityList

/-- A capability that is not mentioned is added. -/
def mention (capabilities : List ContainerCapability) (cap : ContainerCapability) : List ContainerCapability :=
  if cap.capability ∈ capabilities.map ContainerCapability.capability then capabilities else capabilities ++ [cap]

def loadFromContainerCapabilities (capAdd capDrop : Option (List String)) : List ContainerCapability :=
  sortBy ContainerCapability.capability (ContainerCapabilities.foldl mention
    ((capAdd.getD []).map (fun cap => ⟨cap, true⟩) ++ (capDrop.getD []).map fun cap => ⟨cap, false⟩))

/-- `CapAdd` and `CapDrop`. -/
def prepareCapabilities (capabilities : List ContainerCapability) : List String × List String :=
  ((capabilities.filter (·.allowed = true)).map ContainerCapability.capability,
    (capabilities.filter (·.allowed = false)).map ContainerCapability.capability)

/-! ## Loading and preparing -/

/-- Nothing where it throws. -/
def loadFromContainerSpec (d : Container) : Option Form := do
  let config := configFromContainer d
  let host := config.hostConfig
  let portBindings ← Ports.sortAndCombinePorts host.portBindings
  some
    { cmd := (loadFromContainerCmd config.cmd).1
      portBindings := portBindings
      devices := loadFromContainerDevices host.devices
      logConfig := host.logConfig
      cmdMode := (loadFromContainerCmd config.cmd).2
      volumes := loadFromContainerVolumes d.mounts
      env := EnvVars.parseArrayOfStrings config.env
      labels := config.labels.getD []
      sysctls := host.sysctls.getD []
      dnsPrimary := (loadDns host.dns).1
      dnsSecondary := (loadDns host.dns).2
      extraHosts := host.extraHosts.getD []
      capabilities := loadFromContainerCapabilities host.capAdd host.capDrop
      logDriverName := host.logConfig.type
      logDriverOpts := host.logConfig.config.getD [] }

def prepareConfiguration (splitargs : Text → List Text) (form : Form) : Option Config := do
  let portBindings ← Ports.preparePortBindings form.portBindings
  some
    { cmd := prepareCmd splitargs form.cmd form.cmdMode
      env := some (EnvVars.convertToArrayOfStrings (some form.env))
      labels := some (prepareLabels form.labels)
      hostConfig :=
        { binds := some (prepareVolumes form.volumes)
          portBindings := portBindings
          devices := some (prepareDevices form.devices)
          dns := some (prepareDns form.dnsPrimary form.dnsSecondary)
          extraHosts := some (prepareExtraHosts form.extraHosts)
          sysctls := some (prepareSysctls form.sysctls)
          capAdd := some (prepareCapabilities form.capabilities).1
          capDrop := some (prepareCapabilities form.capabilities).2
          logConfig := prepareLogDriver form.logConfig form.logDriverName form.logDriverOpts } }

end Creation

end Portainer
