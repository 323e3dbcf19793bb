import Portainer.Common.Collections
/-!
# Applications — the configurations of an application

`helpers/application` and `converters/application.js`. An application loads a
configuration, a config map or a secret, any number of times: as a whole, each
key into an environment variable, or overridden, each key into a variable, into
a file or not at all. What is written are variables and volumes; the form is
put together again from these.
-/

namespace Portainer

namespace Applications

/-! ## Configurations -/

/-- `KubernetesConfigurationTypes`. -/
inductive ConfigurationType
  | configMap
  | secret
  deriving DecidableEq, Repr

/-- `KubernetesConfiguration`. Its keys are the properties of its data. -/
structure Configuration where
  type : ConfigurationType
  name : String
  keys : List String
  nodup_keys : keys.Nodup

/-- `KubernetesApplicationConfigurationFormValueOverridenKeyTypes`. -/
inductive OverridenKeyType
  | none
  | environment
  | filesystem
  deriving DecidableEq, Repr

/-- `KubernetesApplicationConfigurationFormValueOverridenKey`. -/
structure OverridenKey where
  key : String
  path : String := ""
  type : OverridenKeyType := .environment

/-- `KubernetesApplicationConfigurationFormValue`. -/
structure ConfigurationFormValue where
  selectedConfiguration : Configuration
  overriden : Bool := false
  overridenKeys : List OverridenKey := []

/-! ## Applications -/

/-- A key of a configuration, as a variable refers to it: by a
`configMapKeyRef` or a `secretKeyRef`. -/
structure KeyRef where
  type : ConfigurationType
  name : String
  key : String
  deriving DecidableEq, Repr

/-- An environment variable; one with a value of its own refers to no key. -/
structure EnvEntry where
  name : String
  valueFrom : Option KeyRef := none
  deriving DecidableEq, Repr

structure VolumeEntry where
  key : String
  path : String

/-- The `configMap` or the `secret` of a volume. -/
structure VolumeSource where
  type : ConfigurationType
  configurationName : String
  items : Option (List VolumeEntry)

/-- A volume; one of another kind has no source. -/
structure Volume where
  name : String
  source : Option VolumeSource := none

structure VolumeMount where
  name : String
  mountPath : String
  readOnly : Bool := false

structure Application where
  name : String
  env : List EnvEntry := []
  volumes : List Volume := []
  volumeMounts : List VolumeMount := []

/-! ## Writing -/

/-- The reference to a key of a configuration. -/
def Configuration.ref (cfg : Configuration) (key : String) : KeyRef :=
  { type := cfg.type, name := cfg.name, key := key }

/-- The keys that become variables. -/
def ConfigurationFormValue.envKeys (config : ConfigurationFormValue) : List String :=
  if !config.overriden then config.selectedConfiguration.keys
  else (config.overridenKeys.filter (·.type = .environment)).map OverridenKey.key

/-- The keys that become files, by the paths they are mounted at. -/
def ConfigurationFormValue.groupedVolKeys (config : ConfigurationFormValue) : List (String × List OverridenKey) :=
  if !config.overriden then []
  else groupBy OverridenKey.path (config.overridenKeys.filter (·.type = .filesystem))

/-- The variable of a key. -/
def KeyRef.envEntry (ref : KeyRef) : EnvEntry := { name := ref.key, valueFrom := some ref }

def ConfigurationFormValue.env (config : ConfigurationFormValue) : List EnvEntry :=
  config.envKeys.map fun key => (config.selectedConfiguration.ref key).envEntry

def generatedApplicationConfigVolumeName (name uuid : String) : String := "config-" ++ name ++ "-" ++ uuid

/-- The volume of a group of keys, and its mount. -/
def configVolume (volumeName : String) (cfg : Configuration) (group : String × List OverridenKey) :
    Volume × VolumeMount :=
  ({ name := volumeName
     source := some {
       type := cfg.type
       configurationName := cfg.name
       items := some (group.2.map fun item => { key := item.key, path := item.key }) } },
    { name := volumeName, mountPath := group.1, readOnly := cfg.type = .secret })

/-- The groups of all configurations, one after the other. -/
def volumeGroups (configurations : List ConfigurationFormValue) :
    List (Configuration × String × List OverridenKey) :=
  configurations.flatMap fun config => config.groupedVolKeys.map fun group => (config.selectedConfiguration, group)

/-- `generateEnvOrVolumesFromConfigurations`. The calls of `uuidv4` are
numbered. -/
def generateEnvOrVolumesFromConfigurations (uuidv4 : ℕ → String) (app : Application)
    (configurations : List ConfigurationFormValue) : Application :=
  let generated := (volumeGroups configurations).zipIdx.map fun g =>
    configVolume (generatedApplicationConfigVolumeName app.name (uuidv4 g.2)) g.1.1 g.1.2
  { app with
    env := app.env ++ configurations.flatMap ConfigurationFormValue.env
    volumes := app.volumes ++ generated.map Prod.fst
    volumeMounts := app.volumeMounts ++ generated.map Prod.snd }

/-! ## The API server -/

structure Container where
  env : Option (List EnvEntry)
  volumeMounts : Option (List VolumeMount)

/-- The specification of the pods of a workload. -/
structure PodSpec where
  containers : List Container
  volumes : Option (List Volume)

/-- `assignOrDeleteIfEmpty`, of a list. -/
def assignOrDeleteIfEmpty {α : Type} (value : List α) : Option (List α) := if value.isEmpty then none else some value

/-- The specification of `createPayload`, which the API server keeps. -/
def createPayload (app : Application) : PodSpec where
  containers := [{ env := assignOrDeleteIfEmpty app.env, volumeMounts := assignOrDeleteIfEmpty app.volumeMounts }]
  volumes := assignOrDeleteIfEmpty app.volumes

/-! ## Reading -/

/-- `KubernetesApplicationConfigurationVolume`. -/
structure ConfigurationVolume where
  fileMountPath : String
  rootMountPath : String
  configurationKey : String := ""
  configurationName : String

/-- The configuration volumes of a volume that is mounted. -/
def VolumeSource.configurationVolumes (source : VolumeSource) (mountPath : String) : List ConfigurationVolume :=
  match source.items with
  | none => [{
      fileMountPath := mountPath
      rootMountPath := mountPath
      configurationName := source.configurationName }]
  | some items => items.map fun item => {
      fileMountPath := mountPath ++ "/" ++ item.path
      rootMountPath := mountPath
      configurationKey := item.key
      configurationName := source.configurationName }

/-- The variables of `applicationCommon`. -/
def PodSpec.env (data : PodSpec) : List EnvEntry := data.containers.flatMap fun container => container.env.getD []

/-- The configuration volumes of `applicationCommon`. -/
def PodSpec.configurationVolumes (data : PodSpec) : List ConfigurationVolume :=
  let volumeMounts := data.containers.flatMap fun container => container.volumeMounts.getD []
  (data.volumes.getD []).flatMap fun volume =>
    match volume.source with
    | none => []
    | some source =>
      match volumeMounts.find? (·.name = volume.name) with
      | none => []
      | some mount => source.configurationVolumes mount.mountPath

/-- What is found of a key of a configuration. -/
structure KeyCount where
  key : String
  count : ℕ
  sum : List (EnvEntry ⊕ ConfigurationVolume)
  envCount : ℕ
  volCount : ℕ

def keyCount (cfgEnv : List EnvEntry) (cfgVol : List ConfigurationVolume) (key : String) : KeyCount :=
  let keyEnv := cfgEnv.filter (·.name = key)
  let keyVol := cfgVol.filter (·.configurationKey = key)
  { key := key
    count := keyEnv.length + keyVol.length
    sum := keyEnv.map .inl ++ keyVol.map .inr
    envCount := keyEnv.length
    volCount := keyVol.length }

/-- A variable has no such path. -/
def rootMountPath : EnvEntry ⊕ ConfigurationVolume → String
  | .inl _ => ""
  | .inr volume => volume.rootMountPath

/-- A key of the form value of an index. `none` is the exception of an index
beyond what was found. -/
def overridenKey (index : ℕ) (k : KeyCount) : Option OverridenKey :=
  if k.count = 0 then some { key := k.key, type := .none }
  else if index < k.envCount then some { key := k.key, type := .environment }
  else k.sum[index]?.map fun item => { key := k.key, type := .filesystem, path := rootMountPath item }

/-- Whether the form value of an index is overridden. The number that a
comparison fails with is that of no keys. -/
def isOverriden (max maxVol : Option ℕ) (index : ℕ) : Bool :=
  match max, maxVol with
  | some max, some maxVol => max - maxVol ≤ index
  | _, _ => false

/-- The form value of an index. -/
def formValue (cfg : Configuration) (keys : List KeyCount) (index : ℕ) : Option ConfigurationFormValue :=
  if isOverriden (keys.map KeyCount.count).max? (keys.map KeyCount.volCount).max? index then
    (keys.mapM (overridenKey index)).map fun overridenKeys =>
      { selectedConfiguration := cfg, overriden := true, overridenKeys := overridenKeys }
  else some { selectedConfiguration := cfg }

/-- The variables of a configuration. -/
def envOf (env : List EnvEntry) (cfg : Configuration) : List EnvEntry :=
  env.filter fun entry => entry.valueFrom.any fun ref => ref.type = cfg.type && ref.name = cfg.name

/-- The form values of one configuration. An array of an undefined length has
one element. -/
def formValuesOf (env : List EnvEntry) (volumes : List ConfigurationVolume) (cfg : Configuration) :
    Option (List ConfigurationFormValue) :=
  let cfgEnv := envOf env cfg
  let cfgVol := volumes.filter (·.configurationName = cfg.name)
  if cfgEnv.isEmpty && cfgVol.isEmpty then some []
  else
    let keys := cfg.keys.map (keyCount cfgEnv cfgVol)
    (List.range ((keys.map KeyCount.count).max?.getD 1)).mapM (formValue cfg keys)

def generateConfigurationFormValuesFromEnvAndVolumes (env : List EnvEntry) (volumes : List ConfigurationVolume)
    (configurations : List Configuration) : Option (List ConfigurationFormValue) :=
  (configurations.mapM (formValuesOf env volumes)).map List.flatten

end Applications

end Portainer
