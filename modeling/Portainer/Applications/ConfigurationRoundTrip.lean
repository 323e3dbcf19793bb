import Portainer.Applications.Configurations
import Portainer.Common.Slots
import Portainer.Common.Tally
import Portainer.Common.Traverse
/-!
# Applications — configurations, written and read back

The form values that are read back from the variables and volumes of an
application generate the same ones exactly if each configuration is
`Balanced`: its keys are used equally often, or each not at all or as often as
one that is only ever a file, and no key of it is a file of a configuration of
the other type with its name. `generate_readBack_iff` says so.
-/

namespace Portainer

namespace Applications

variable {uuidv4 : ℕ → String} {app : Application} {formValues : List ConfigurationFormValue}
variable {cfg : Configuration} {key : String}

/-! ## The property -/

/-- What the volumes that are mounted hold. -/
def mounted {β : Type} (of : VolumeSource → String → List β) (volumes : List Volume) (mounts : List VolumeMount) :
    List β :=
  volumes.flatMap fun volume =>
    match volume.source with
    | none => []
    | some source =>
      match mounts.find? (·.name = volume.name) with
      | none => []
      | some mount => of source mount.mountPath

/-- The items of a volume, each with the path it is mounted at. -/
def VolumeSource.mountedItems (source : VolumeSource) (mountPath : String) : List (KeyRef × String) :=
  (source.items.getD []).map fun item =>
    ({ type := source.type, name := source.configurationName, key := item.key }, mountPath)

/-- The items of the volumes of an application: the configuration, the key
and the mount path. -/
def Application.volumeItems (app : Application) : List (KeyRef × String) :=
  mounted VolumeSource.mountedItems app.volumes app.volumeMounts

/-- **The form values are read back**, without exception, as form values that
generate the same variables and the same items of volumes. -/
def ReadBack (uuidv4 : ℕ → String) (app : Application) (configurations : List Configuration)
    (formValues : List ConfigurationFormValue) : Prop :=
  let written := generateEnvOrVolumesFromConfigurations uuidv4 app formValues
  let data := createPayload written
  ∃ formValues', generateConfigurationFormValuesFromEnvAndVolumes data.env data.configurationVolumes configurations =
      some formValues' ∧
    (generateEnvOrVolumesFromConfigurations uuidv4 app formValues').env.Perm written.env ∧
    (generateEnvOrVolumesFromConfigurations uuidv4 app formValues').volumeItems.Perm written.volumeItems

/-- An application before its configurations: its variables have values, its
volumes are of another kind, and none of its mounts has a name that is
generated. -/
structure Plain (uuidv4 : ℕ → String) (app : Application) : Prop where
  env : ∀ entry ∈ app.env, entry.valueFrom = none
  volumes : ∀ volume ∈ app.volumes, volume.source = none
  fresh : ∀ mount ∈ app.volumeMounts, ∀ n, mount.name ≠ generatedApplicationConfigVolumeName app.name (uuidv4 n)

/-! ## Uses of keys -/

/-- The uses of keys by a form value: in a variable, or in a file at a
path. -/
def ConfigurationFormValue.uses (config : ConfigurationFormValue) : List (KeyRef × Option String) :=
  if !config.overriden then config.selectedConfiguration.keys.map fun key => (config.selectedConfiguration.ref key, none)
  else config.overridenKeys.filterMap fun item =>
    match item.type with
    | .none => none
    | .environment => some (config.selectedConfiguration.ref item.key, none)
    | .filesystem => some (config.selectedConfiguration.ref item.key, some item.path)

def uses (formValues : List ConfigurationFormValue) : List (KeyRef × Option String) :=
  formValues.flatMap ConfigurationFormValue.uses

/-- The uses of one key: a variable, or a file at a path. -/
def used (formValues : List ConfigurationFormValue) (ref : KeyRef) : List (Option String) :=
  Tally.entries ref (uses formValues)

/-- The other type of configuration. -/
def ConfigurationType.other : ConfigurationType → ConfigurationType
  | .configMap => .secret
  | .secret => .configMap

/-- **The uses of a configuration can be told apart** by what is written of
them: only its own keys are used; none of these is a file of the configuration
of the other type with its name; and its keys are used equally often, or else
each is not used or used as often as some key that never is a variable. -/
structure Balanced (formValues : List ConfigurationFormValue) (cfg : Configuration) : Prop where
  known : ∀ key, key ∉ cfg.keys → used formValues (cfg.ref key) = []
  apart : ∀ key ∈ cfg.keys, ∀ path,
    some path ∉ used formValues { type := cfg.type.other, name := cfg.name, key := key }
  even :
    (∀ key ∈ cfg.keys, ∀ key' ∈ cfg.keys,
      (used formValues (cfg.ref key)).length = (used formValues (cfg.ref key')).length) ∨
    ∃ times, (∀ key ∈ cfg.keys, used formValues (cfg.ref key) = [] ∨
        (used formValues (cfg.ref key)).length = times) ∧
      ∃ key ∈ cfg.keys, (used formValues (cfg.ref key)).length = times ∧ none ∉ used formValues (cfg.ref key)

/-! ## What is written -/

theorem ref_injective (cfg : Configuration) : Function.Injective cfg.ref := fun _ _ h => congrArg KeyRef.key h

theorem envEntry_injective : Function.Injective KeyRef.envEntry := by
  intro ref ref' h
  exact Option.some.inj (congrArg EnvEntry.valueFrom h)

/-- The uses in variables. -/
def envRefs (l : List (KeyRef × Option String)) : List KeyRef := l.filterMap fun p => if p.2 = none then some p.1 else none

/-- The uses in files. -/
def files (l : List (KeyRef × Option String)) : List (KeyRef × String) := l.filterMap fun p => p.2.map (Prod.mk p.1)

theorem env_eq (config : ConfigurationFormValue) : config.env = (envRefs config.uses).map KeyRef.envEntry := by
  unfold ConfigurationFormValue.env ConfigurationFormValue.envKeys envRefs ConfigurationFormValue.uses
  cases config.overriden with
  | false =>
    simp only [Bool.not_false, if_true, List.filterMap_map]
    have hall : (config.selectedConfiguration.keys.filterMap
        ((fun p : KeyRef × Option String => if p.2 = none then some p.1 else none) ∘
          fun key => (config.selectedConfiguration.ref key, none))) =
        config.selectedConfiguration.keys.map config.selectedConfiguration.ref := by
      rw [← List.filterMap_eq_map]
      rfl
    rw [hall, List.map_map]
    rfl
  | true =>
    simp only [Bool.not_true, Bool.false_eq_true, if_false]
    induction config.overridenKeys with
    | nil => rfl
    | cons item items ih =>
      cases htype : item.type <;>
        simp only [List.filter_cons, List.filterMap_cons, htype, reduceCtorEq, decide_false, decide_true,
          Bool.false_eq_true, if_false, if_true, List.map_cons, ih]

/-- The items of the volumes of a form value. -/
def ConfigurationFormValue.items (config : ConfigurationFormValue) : List (KeyRef × String) :=
  config.groupedVolKeys.flatMap fun group => group.2.map fun item =>
    (config.selectedConfiguration.ref item.key, group.1)

/-- **The items of the volumes** are the uses in files, grouped. -/
theorem items_perm (config : ConfigurationFormValue) : config.items.Perm (files config.uses) := by
  unfold ConfigurationFormValue.items ConfigurationFormValue.groupedVolKeys files ConfigurationFormValue.uses
  cases config.overriden with
  | false =>
    simp only [Bool.not_false, if_true, List.flatMap_nil, List.filterMap_map]
    refine List.Perm.of_eq (Eq.symm (List.filterMap_eq_nil_iff.mpr fun key _ => rfl))
  | true =>
    simp only [Bool.not_true, Bool.false_eq_true, if_false]
    have hpaths : (groupBy OverridenKey.path (config.overridenKeys.filter (·.type = .filesystem))).flatMap
          (fun group => group.2.map fun item => (config.selectedConfiguration.ref item.key, group.1)) =
        ((groupBy OverridenKey.path (config.overridenKeys.filter (·.type = .filesystem))).flatMap Prod.snd).map
          fun item => (config.selectedConfiguration.ref item.key, item.path) := by
      rw [List.map_flatMap]
      refine List.flatMap_congr fun group hgroup => ?_
      obtain ⟨path, -, rfl⟩ := List.mem_map.mp hgroup
      refine List.map_congr_left fun item hitem => ?_
      rw [of_decide_eq_true (List.mem_filter.mp hitem).2]
    rw [hpaths]
    refine ((groupBy_perm _ _).map _).trans (List.Perm.of_eq ?_)
    induction config.overridenKeys with
    | nil => rfl
    | cons item items ih =>
      cases htype : item.type <;>
        simp only [List.filter_cons, List.filterMap_cons, htype, reduceCtorEq, decide_false, decide_true,
          Bool.false_eq_true, if_false, if_true, List.map_cons, ih, Option.map_none, Option.map_some]

theorem count_envRefs (l : List (KeyRef × Option String)) (ref : KeyRef) :
    (envRefs l).count ref = l.count (ref, none) := by
  induction l with
  | nil => rfl
  | cons p l ih =>
    obtain ⟨ref', use⟩ := p
    cases use <;> simp [envRefs, List.count_cons, ← ih, Prod.ext_iff]

/-- **The same uses** are the same variables and the same files. -/
theorem uses_perm_iff {l l' : List (KeyRef × Option String)} :
    l.Perm l' ↔ (envRefs l).Perm (envRefs l') ∧ (files l).Perm (files l') := by
  have hfiles : ∀ (l : List (KeyRef × Option String)) (ref : KeyRef) (path : String),
      (files l).count (ref, path) = l.count (ref, some path) := by
    intro l ref path
    induction l with
    | nil => rfl
    | cons p l ih =>
      obtain ⟨ref', use⟩ := p
      cases use <;> simp [files, List.filterMap_cons, List.count_cons, ← ih, Prod.ext_iff]
  constructor
  · exact fun h => ⟨h.filterMap _, h.filterMap _⟩
  · rintro ⟨hsame, hsame'⟩
    refine List.perm_iff_count.mpr fun p => ?_
    obtain ⟨ref, use⟩ := p
    cases use with
    | none => rw [← count_envRefs, ← count_envRefs, hsame.count_eq]
    | some path => rw [← hfiles, ← hfiles, hsame'.count_eq]

theorem volumeName_injective (huuid : Function.Injective uuidv4) (name : String) :
    Function.Injective fun n => generatedApplicationConfigVolumeName name (uuidv4 n) := by
  intro n n' h
  refine huuid (String.toList_injective ?_)
  have hlist := congrArg String.toList h
  simp only [generatedApplicationConfigVolumeName, String.toList_append] at hlist
  exact List.append_cancel_left hlist

/-- **What is written is mounted**, each group at its path. -/
theorem mounted_generate {β : Type} (huuid : Function.Injective uuidv4) (hplain : Plain uuidv4 app)
    (of : VolumeSource → String → List β) (formValues : List ConfigurationFormValue) :
    mounted of (generateEnvOrVolumesFromConfigurations uuidv4 app formValues).volumes
        (generateEnvOrVolumesFromConfigurations uuidv4 app formValues).volumeMounts =
      (volumeGroups formValues).flatMap fun g => of {
        type := g.1.type
        configurationName := g.1.name
        items := some (g.2.2.map fun item => { key := item.key, path := item.key }) } g.2.1 := by
  let name := fun n => generatedApplicationConfigVolumeName app.name (uuidv4 n)
  let written := fun g : (Configuration × String × List OverridenKey) × ℕ => configVolume (name g.2) g.1.1 g.1.2
  have hfind : ∀ g ∈ (volumeGroups formValues).zipIdx,
      (app.volumeMounts ++ ((volumeGroups formValues).zipIdx.map written).map Prod.snd).find?
        (·.name = (written g).1.name) = some (written g).2 := by
    intro g hg
    refine find?_eq_some_of_unique ?_ (decide_eq_true rfl) ?_
    · exact List.mem_append_right _ (List.mem_map_of_mem (List.mem_map_of_mem hg))
    · intro mount hmount hname
      have hname := of_decide_eq_true hname
      obtain hmount | hmount := List.mem_append.mp hmount
      · exact absurd hname (hplain.fresh mount hmount g.2)
      · obtain ⟨pair, hpair, rfl⟩ := List.mem_map.mp hmount
        obtain ⟨g', hg', rfl⟩ := List.mem_map.mp hpair
        have hindex : g'.2 = g.2 := volumeName_injective huuid app.name hname
        have hgroup := List.mem_zipIdx_iff_getElem?.mp hg
        rw [← hindex, List.mem_zipIdx_iff_getElem?.mp hg', Option.some.injEq] at hgroup
        rw [Prod.ext hgroup hindex]
  have hplainVolumes : mounted of app.volumes
      (app.volumeMounts ++ ((volumeGroups formValues).zipIdx.map written).map Prod.snd) = [] := by
    refine List.flatMap_eq_nil_iff.mpr fun volume hvolume => ?_
    rw [hplain.volumes volume hvolume]
  have hgroups : (volumeGroups formValues) = (volumeGroups formValues).zipIdx.map Prod.fst :=
    (List.zipIdx_map_fst 0 _).symm
  change mounted of (app.volumes ++ ((volumeGroups formValues).zipIdx.map written).map Prod.fst)
    (app.volumeMounts ++ ((volumeGroups formValues).zipIdx.map written).map Prod.snd) = _
  unfold mounted at hplainVolumes ⊢
  rw [List.flatMap_append, hplainVolumes, List.nil_append, List.flatMap_map, List.flatMap_map]
  conv_rhs => rw [hgroups, List.flatMap_map]
  refine List.flatMap_congr fun g hg => ?_
  have hsource : (written g).1.source = some {
      type := g.1.1.type
      configurationName := g.1.1.name
      items := some (g.1.2.2.map fun item => { key := item.key, path := item.key }) } := rfl
  rw [hsource]
  dsimp only
  rw [hfind g hg]
  rfl

/-- **The items of what is written.** -/
theorem volumeItems_generate (huuid : Function.Injective uuidv4) (hplain : Plain uuidv4 app)
    (formValues : List ConfigurationFormValue) :
    (generateEnvOrVolumesFromConfigurations uuidv4 app formValues).volumeItems =
      formValues.flatMap ConfigurationFormValue.items := by
  rw [Application.volumeItems, mounted_generate huuid hplain, volumeGroups, List.flatMap_assoc]
  refine List.flatMap_congr fun config _ => ?_
  rw [List.flatMap_map]
  refine List.flatMap_congr fun group _ => ?_
  unfold VolumeSource.mountedItems
  rw [Option.getD_some, List.map_map]
  rfl

theorem flatMap_items_perm (formValues : List ConfigurationFormValue) :
    (formValues.flatMap ConfigurationFormValue.items).Perm (files (uses formValues)) := by
  unfold uses files
  rw [List.filterMap_flatMap]
  exact List.Perm.flatMap_left _ fun config _ => items_perm config

theorem flatMap_env_eq (formValues : List ConfigurationFormValue) :
    formValues.flatMap ConfigurationFormValue.env = (envRefs (uses formValues)).map KeyRef.envEntry := by
  unfold uses envRefs
  rw [List.filterMap_flatMap, List.map_flatMap]
  exact List.flatMap_congr fun config _ => env_eq config

/-- **The same is generated** by the same uses. -/
theorem generate_perm_iff (huuid : Function.Injective uuidv4) (hplain : Plain uuidv4 app)
    {formValues' : List ConfigurationFormValue} :
    ((generateEnvOrVolumesFromConfigurations uuidv4 app formValues').env.Perm
        (generateEnvOrVolumesFromConfigurations uuidv4 app formValues).env ∧
      (generateEnvOrVolumesFromConfigurations uuidv4 app formValues').volumeItems.Perm
        (generateEnvOrVolumesFromConfigurations uuidv4 app formValues).volumeItems) ↔
    (uses formValues').Perm (uses formValues) := by
  have hitems : ((generateEnvOrVolumesFromConfigurations uuidv4 app formValues').volumeItems.Perm
      (generateEnvOrVolumesFromConfigurations uuidv4 app formValues).volumeItems) ↔
      (files (uses formValues')).Perm (files (uses formValues)) := by
    rw [volumeItems_generate huuid hplain, volumeItems_generate huuid hplain]
    have hleft := flatMap_items_perm formValues'
    have hright := flatMap_items_perm formValues
    exact ⟨fun h => (hleft.symm.trans h).trans hright, fun h => (hleft.trans h).trans hright.symm⟩
  have henv : ((generateEnvOrVolumesFromConfigurations uuidv4 app formValues').env.Perm
      (generateEnvOrVolumesFromConfigurations uuidv4 app formValues).env) ↔
      (envRefs (uses formValues')).Perm (envRefs (uses formValues)) := by
    change (app.env ++ formValues'.flatMap ConfigurationFormValue.env).Perm
      (app.env ++ formValues.flatMap ConfigurationFormValue.env) ↔ _
    rw [List.perm_append_left_iff, flatMap_env_eq, flatMap_env_eq, List.map_perm_map_iff envEntry_injective]
  rw [hitems, henv, uses_perm_iff]

/-! ## What is read -/

/-- How often a key becomes a variable. -/
def envCount (formValues : List ConfigurationFormValue) (cfg : Configuration) (key : String) : ℕ :=
  (used formValues (cfg.ref key)).count none

/-- The paths of a key. -/
def paths (formValues : List ConfigurationFormValue) (ref : KeyRef) : List String :=
  (used formValues ref).filterMap id

/-- The paths of a key that are read, whatever the type of the
configuration. -/
def namedPaths (formValues : List ConfigurationFormValue) (name key : String) : List String :=
  (formValues.flatMap ConfigurationFormValue.items).filterMap fun p =>
    if p.1.name = name ∧ p.1.key = key then some p.2 else none

/-- **The paths that are read** are those of both types. -/
theorem namedPaths_perm (formValues : List ConfigurationFormValue) (cfg : Configuration) (key : String) :
    (namedPaths formValues cfg.name key).Perm (paths formValues (cfg.ref key) ++
      paths formValues { type := cfg.type.other, name := cfg.name, key := key }) := by
  refine ((flatMap_items_perm formValues).filterMap _).trans ?_
  unfold paths used
  induction uses formValues with
  | nil => exact .nil
  | cons p l ih =>
    obtain ⟨ref, use⟩ := p
    rw [Tally.entries_cons, Tally.entries_cons]
    cases use with
    | none =>
      have hfiles : files ((ref, none) :: l) = files l := rfl
      rw [hfiles]
      refine ih.trans (List.Perm.of_eq ?_)
      congr 1 <;> split <;> rfl
    | some path =>
      have hfiles : files ((ref, some path) :: l) = (ref, path) :: files l := rfl
      rw [hfiles, List.filterMap_cons]
      by_cases hmatch : ref.name = cfg.name ∧ ref.key = key
      · have hother : cfg.type ≠ cfg.type.other := by cases cfg.type <;> decide
        obtain ⟨type, name, key'⟩ := ref
        obtain ⟨rfl, rfl⟩ := hmatch
        by_cases htype : type = cfg.type
        · have hself : ({ type := type, name := cfg.name, key := key' } : KeyRef) = cfg.ref key' := by
            rw [htype]
            rfl
          have hnot : ¬ ({ type := type, name := cfg.name, key := key' } : KeyRef) =
              { type := cfg.type.other, name := cfg.name, key := key' } := fun h =>
            hother (htype.symm.trans (congrArg KeyRef.type h))
          rw [if_pos hself, if_neg hnot]
          simp only [and_self, if_true]
          exact ih.cons path
        · have hself : ({ type := type, name := cfg.name, key := key' } : KeyRef) =
              { type := cfg.type.other, name := cfg.name, key := key' } := by
            have htype' : type = cfg.type.other := by
              revert htype
              cases type <;> cases cfg.type <;> decide
            rw [htype']
          have hnot : ¬ ({ type := type, name := cfg.name, key := key' } : KeyRef) = cfg.ref key' := fun h =>
            htype (congrArg KeyRef.type h)
          rw [if_neg hnot, if_pos hself]
          simp only [and_self, if_true]
          exact (ih.cons path).trans List.perm_middle.symm
      · have hnot : ¬ ref = cfg.ref key := by
          rintro rfl
          exact hmatch ⟨rfl, rfl⟩
        have hnot' : ¬ ref = { type := cfg.type.other, name := cfg.name, key := key } := by
          rintro rfl
          exact hmatch ⟨rfl, rfl⟩
        rw [if_neg hnot, if_neg hnot']
        simp only [hmatch, if_false]
        exact ih

theorem getD_assignOrDeleteIfEmpty {α : Type} (l : List α) : (assignOrDeleteIfEmpty l).getD [] = l := by
  cases l <;> rfl

theorem env_createPayload (app : Application) : (createPayload app).env = app.env := by
  change (assignOrDeleteIfEmpty app.env).getD [] ++ [] = app.env
  rw [getD_assignOrDeleteIfEmpty, List.append_nil]

theorem configurationVolumes_createPayload (app : Application) : (createPayload app).configurationVolumes =
    mounted VolumeSource.configurationVolumes app.volumes app.volumeMounts := by
  have hmounts : (createPayload app).containers.flatMap (fun container => container.volumeMounts.getD []) =
      app.volumeMounts := by
    change (assignOrDeleteIfEmpty app.volumeMounts).getD [] ++ [] = app.volumeMounts
    rw [getD_assignOrDeleteIfEmpty, List.append_nil]
  unfold PodSpec.configurationVolumes mounted
  dsimp only
  rw [hmounts]
  change ((assignOrDeleteIfEmpty app.volumes).getD []).flatMap _ = _
  exact congrArg (List.flatMap _) (getD_assignOrDeleteIfEmpty app.volumes)

/-- **The configuration volumes that are read** are the items, without the
type of their configuration. -/
theorem configurationVolumes_generate (huuid : Function.Injective uuidv4) (hplain : Plain uuidv4 app)
    (formValues : List ConfigurationFormValue) :
    (createPayload (generateEnvOrVolumesFromConfigurations uuidv4 app formValues)).configurationVolumes =
      (formValues.flatMap ConfigurationFormValue.items).map fun p => {
        fileMountPath := p.2 ++ "/" ++ p.1.key
        rootMountPath := p.2
        configurationKey := p.1.key
        configurationName := p.1.name } := by
  rw [configurationVolumes_createPayload, mounted_generate huuid hplain, volumeGroups, List.flatMap_assoc,
    List.map_flatMap]
  refine List.flatMap_congr fun config _ => ?_
  unfold ConfigurationFormValue.items
  rw [List.flatMap_map, List.map_flatMap]
  refine List.flatMap_congr fun group _ => ?_
  unfold VolumeSource.configurationVolumes
  dsimp only
  rw [List.map_map, List.map_map]
  rfl

/-- The variables of a key that are read. -/
theorem length_keyEnv (hplain : Plain uuidv4 app) (formValues : List ConfigurationFormValue) (cfg : Configuration)
    (key : String) :
    ((envOf (createPayload (generateEnvOrVolumesFromConfigurations uuidv4 app formValues)).env cfg).filter
      (·.name = key)).length = envCount formValues cfg key := by
  have happ : envOf app.env cfg = [] := by
    refine List.filter_eq_nil_iff.mpr fun entry hentry => ?_
    rw [hplain.env entry hentry]
    exact Bool.false_ne_true
  have hsplit : envOf (app.env ++ formValues.flatMap ConfigurationFormValue.env) cfg =
      envOf ((envRefs (uses formValues)).map KeyRef.envEntry) cfg := by
    rw [← flatMap_env_eq]
    unfold envOf at happ ⊢
    rw [List.filter_append, happ, List.nil_append]
  rw [env_createPayload]
  change ((envOf (app.env ++ formValues.flatMap ConfigurationFormValue.env) cfg).filter (·.name = key)).length = _
  rw [hsplit, envCount, used, Tally.count_entries, ← count_envRefs]
  unfold envOf
  induction envRefs (uses formValues) with
  | nil => rfl
  | cons ref refs ih =>
    rw [List.map_cons, List.filter_cons, List.count_cons, ← ih]
    by_cases hcfg : ref.type = cfg.type ∧ ref.name = cfg.name
    · have htest : (ref.envEntry.valueFrom.any fun ref => ref.type = cfg.type && ref.name = cfg.name) = true := by
        simp [KeyRef.envEntry, hcfg]
      have hname : ref.envEntry.name = ref.key := rfl
      rw [if_pos htest, List.filter_cons, hname]
      by_cases hkey : ref.key = key
      · have href : (ref == cfg.ref key) = true := by
          rw [beq_iff_eq, ← hkey, Configuration.ref, ← hcfg.1, ← hcfg.2]
        rw [if_pos (decide_eq_true hkey), href, List.length_cons, if_pos rfl]
      · have href : (ref == cfg.ref key) = false := by
          rw [beq_eq_false_iff_ne]
          exact fun h => hkey (congrArg KeyRef.key h)
        rw [if_neg (by simpa using hkey), href]
        rfl
    · have htest : (ref.envEntry.valueFrom.any fun ref => ref.type = cfg.type && ref.name = cfg.name) = false := by
        simpa [KeyRef.envEntry] using hcfg
      have href : (ref == cfg.ref key) = false := by
        rw [beq_eq_false_iff_ne]
        rintro rfl
        exact hcfg ⟨rfl, rfl⟩
      rw [htest, href]
      rfl

/-- The paths of a key that are read. -/
theorem map_keyVol (huuid : Function.Injective uuidv4) (hplain : Plain uuidv4 app)
    (formValues : List ConfigurationFormValue) (cfg : Configuration) (key : String) :
    ((((createPayload (generateEnvOrVolumesFromConfigurations uuidv4 app formValues)).configurationVolumes.filter
      (·.configurationName = cfg.name)).filter (·.configurationKey = key)).map ConfigurationVolume.rootMountPath) =
    namedPaths formValues cfg.name key := by
  rw [configurationVolumes_generate huuid hplain, namedPaths]
  induction formValues.flatMap ConfigurationFormValue.items with
  | nil => rfl
  | cons p items ih =>
    rw [List.map_cons, List.filter_cons, List.filterMap_cons]
    by_cases hname : p.1.name = cfg.name
    · rw [if_pos (decide_eq_true hname), List.filter_cons]
      by_cases hkey : p.1.key = key
      · rw [if_pos (decide_eq_true hkey), List.map_cons, ih, if_pos ⟨hname, hkey⟩]
      · rw [if_neg (by simpa using hkey), ih, if_neg fun h => hkey h.2]
    · rw [if_neg (by simpa using hname), ih, if_neg fun h => hname h.1]

/-! ## What is put together again -/

section Rebuilding

variable {cfgEnv : List EnvEntry} {cfgVol : List ConfigurationVolume} {index most mostPlaced : ℕ}

/-- The variables of a key that were found. -/
def keyEnvCount (cfgEnv : List EnvEntry) (key : String) : ℕ := (cfgEnv.filter (·.name = key)).length

/-- The paths of a key that were found. -/
def keyPaths (cfgVol : List ConfigurationVolume) (key : String) : List String :=
  (cfgVol.filter (·.configurationKey = key)).map ConfigurationVolume.rootMountPath

theorem count_keyCount : (keyCount cfgEnv cfgVol key).count = keyEnvCount cfgEnv key + (keyPaths cfgVol key).length := by
  rw [keyPaths, List.length_map]
  rfl

theorem volCount_keyCount : (keyCount cfgEnv cfgVol key).volCount = (keyPaths cfgVol key).length := by
  rw [keyPaths, List.length_map]
  rfl

/-- **A key of a form value**: not used, a variable, or the file at the next
of its paths. -/
theorem overridenKey_keyCount : overridenKey index (keyCount cfgEnv cfgVol key) =
    if keyEnvCount cfgEnv key + (keyPaths cfgVol key).length = 0 then some { key := key, type := .none }
    else if index < keyEnvCount cfgEnv key then some { key := key, type := .environment }
    else (keyPaths cfgVol key)[index - keyEnvCount cfgEnv key]?.map fun path =>
      { key := key, type := .filesystem, path := path } := by
  unfold overridenKey
  rw [count_keyCount]
  split
  · rfl
  · change (if index < keyEnvCount cfgEnv key then _ else _) = _
    split
    · rfl
    · rename_i hnot
      have hsum : (keyCount cfgEnv cfgVol key).sum[index]? =
          ((cfgVol.filter (·.configurationKey = key)).map Sum.inr)[index - keyEnvCount cfgEnv key]? := by
        change ((cfgEnv.filter (·.name = key)).map Sum.inl ++ (cfgVol.filter (·.configurationKey = key)).map
          Sum.inr)[index]? = _
        unfold keyEnvCount at hnot ⊢
        rw [List.getElem?_append_right (by rw [List.length_map]; omega), List.length_map]
      rw [hsum, keyPaths, List.getElem?_map, List.getElem?_map, Option.map_map, Option.map_map]
      rfl

/-- The use of a key by a form value. -/
def OverridenKey.use (item : OverridenKey) : Option (Option String) :=
  match item.type with
  | .none => none
  | .environment => some none
  | .filesystem => some (some item.path)

theorem uses_overriden (cfg : Configuration) (items : List OverridenKey) :
    ({ selectedConfiguration := cfg, overriden := true, overridenKeys := items } : ConfigurationFormValue).uses =
      items.filterMap fun item => item.use.map (Prod.mk (cfg.ref item.key)) := by
  refine List.filterMap_congr fun item _ => ?_
  unfold OverridenKey.use
  cases item.type <;> rfl

/-- A key that is overridden has the use of its slot. -/
theorem use_overridenKey {item : OverridenKey} (h : overridenKey index (keyCount cfgEnv cfgVol key) = some item) :
    item.key = key ∧
      item.use = Slots.slot 0 (keyEnvCount cfgEnv key) (keyPaths cfgVol key) index := by
  rw [overridenKey_keyCount] at h
  unfold Slots.slot
  rw [if_neg (Nat.not_lt_zero _)]
  split at h
  · rename_i hunused
    cases Option.some.inj h
    exact ⟨rfl, (if_pos hunused).symm⟩
  · rename_i hused
    rw [if_neg hused]
    split at h
    · rename_i hvariable
      cases Option.some.inj h
      exact ⟨rfl, (if_pos hvariable).symm⟩
    · rename_i hfile
      obtain ⟨path, hpath, rfl⟩ := Option.map_eq_some_iff.mp h
      rw [if_neg hfile, hpath]
      exact ⟨rfl, rfl⟩

theorem isSome_overridenKey : (overridenKey index (keyCount cfgEnv cfgVol key)).isSome ↔
    (keyEnvCount cfgEnv key + (keyPaths cfgVol key).length ≠ 0 →
      index < keyEnvCount cfgEnv key + (keyPaths cfgVol key).length) := by
  rw [overridenKey_keyCount]
  split
  · rename_i hunused
    exact iff_of_true rfl fun h => absurd hunused h
  · rename_i hused
    split
    · refine iff_of_true rfl fun _ => ?_
      omega
    · have hplace : (keyPaths cfgVol key)[index - keyEnvCount cfgEnv key]?.isSome ↔
          index - keyEnvCount cfgEnv key < (keyPaths cfgVol key).length := by simp
      rw [Option.isSome_map, hplace]
      constructor
      · intro h _
        omega
      · intro h
        have hlt := h hused
        omega

/-- The slot of a key in a form value. -/
abbrev slotOf (cfgEnv : List EnvEntry) (cfgVol : List ConfigurationVolume) (threshold index : ℕ) (key : String) :
    Option (Option String) :=
  Slots.slot threshold (keyEnvCount cfgEnv key) (keyPaths cfgVol key) index

/-- **The form value of an index** is there if every key that is used has a
use left, and then has the uses of its slot. -/
theorem formValue_spec (hmost : ((cfg.keys.map (keyCount cfgEnv cfgVol)).map KeyCount.count).max? = some most)
    (hplaced : ((cfg.keys.map (keyCount cfgEnv cfgVol)).map KeyCount.volCount).max? = some mostPlaced) :
    ((formValue cfg (cfg.keys.map (keyCount cfgEnv cfgVol)) index).isSome ↔
      Slots.Fits cfg.keys (keyEnvCount cfgEnv) (keyPaths cfgVol) (most - mostPlaced) index) ∧
    ∀ config, formValue cfg (cfg.keys.map (keyCount cfgEnv cfgVol)) index = some config →
      config.uses = cfg.keys.filterMap fun key =>
        (slotOf cfgEnv cfgVol (most - mostPlaced) index key).map (Prod.mk (cfg.ref key)) := by
  unfold formValue
  rw [hmost, hplaced]
  by_cases hbelow : index < most - mostPlaced
  · have hwhole : isOverriden (some most) (some mostPlaced) index = false := decide_eq_false (by omega)
    rw [hwhole, if_neg Bool.false_ne_true]
    refine ⟨iff_of_true rfl fun h => absurd hbelow (by omega), ?_⟩
    rintro config ⟨⟩
    change cfg.keys.map (fun key => (cfg.ref key, none)) = _
    rw [← List.filterMap_eq_map]
    refine List.filterMap_congr fun key _ => ?_
    unfold slotOf Slots.slot
    rw [if_pos hbelow]
    rfl
  · have hoverriden : isOverriden (some most) (some mostPlaced) index = true := decide_eq_true (by omega)
    rw [hoverriden, if_pos rfl, Option.isSome_map]
    constructor
    · rw [Option.isSome_iff_exists]
      unfold Slots.Fits
      constructor
      · rintro ⟨items, hitems⟩ _ key hkey
        have hsome := Traverse.isSome_of_mapM hitems (keyCount cfgEnv cfgVol key) (List.mem_map_of_mem hkey)
        exact isSome_overridenKey.mp hsome
      · intro hfits
        refine ⟨_, (Traverse.mapM_eq_some_iff { key := "" }).mpr ⟨?_, rfl⟩⟩
        intro k hk
        obtain ⟨key, hkey, rfl⟩ := List.mem_map.mp hk
        exact isSome_overridenKey.mpr (hfits (by omega) key hkey)
    · intro config hconfig
      obtain ⟨items, hitems, rfl⟩ := Option.map_eq_some_iff.mp hconfig
      obtain ⟨hall, rfl⟩ := (Traverse.mapM_eq_some_iff { key := "" }).mp hitems
      rw [uses_overriden, List.filterMap_map, List.filterMap_map]
      refine List.filterMap_congr fun key hkey => ?_
      obtain ⟨item, hitem⟩ := Option.isSome_iff_exists.mp (hall _ (List.mem_map_of_mem hkey))
      obtain ⟨rfl, huse⟩ := use_overridenKey hitem
      have hslot : slotOf cfgEnv cfgVol (most - mostPlaced) index item.key = item.use := by
        rw [huse]
        unfold slotOf Slots.slot
        rw [if_neg hbelow, if_neg (Nat.not_lt_zero _)]
      rw [hslot]
      dsimp only [Function.comp_apply]
      rw [hitem, Option.getD_some]

variable {env : List EnvEntry} {volumes : List ConfigurationVolume} {rebuilt : List ConfigurationFormValue}

/-- The configuration volumes with the name of a configuration. -/
abbrev volumesOf (volumes : List ConfigurationVolume) (cfg : Configuration) : List ConfigurationVolume :=
  volumes.filter (·.configurationName = cfg.name)

/-- **The form values of a configuration with keys** deal out again the uses
that were found. -/
theorem formValuesOf_spec
    (hmost : ((cfg.keys.map (keyCount (envOf env cfg) (volumesOf volumes cfg))).map KeyCount.count).max? = some most)
    (hplaced : ((cfg.keys.map (keyCount (envOf env cfg) (volumesOf volumes cfg))).map KeyCount.volCount).max? =
      some mostPlaced) :
    ((formValuesOf env volumes cfg).isSome ↔ ∀ index < most,
      Slots.Fits cfg.keys (keyEnvCount (envOf env cfg)) (keyPaths (volumesOf volumes cfg)) (most - mostPlaced) index) ∧
    ∀ rebuilt, formValuesOf env volumes cfg = some rebuilt → ∀ key ∈ cfg.keys,
      used rebuilt (cfg.ref key) = Slots.dealt most (most - mostPlaced) (keyEnvCount (envOf env cfg) key)
        (keyPaths (volumesOf volumes cfg) key) := by
  let counts := cfg.keys.map (keyCount (envOf env cfg) (volumesOf volumes cfg))
  have hspec : ∀ index, ((formValue cfg counts index).isSome ↔ Slots.Fits cfg.keys
        (keyEnvCount (envOf env cfg)) (keyPaths (volumesOf volumes cfg)) (most - mostPlaced) index) ∧
      ∀ config, formValue cfg counts index = some config → config.uses = cfg.keys.filterMap fun key =>
        (slotOf (envOf env cfg) (volumesOf volumes cfg) (most - mostPlaced) index key).map
          (Prod.mk (cfg.ref key)) :=
    fun _ => formValue_spec hmost hplaced
  unfold formValuesOf
  dsimp only
  rw [hmost, Option.getD_some]
  by_cases hnothing : ((envOf env cfg).isEmpty && (volumesOf volumes cfg).isEmpty) = true
  · rw [if_pos hnothing]
    obtain ⟨henv, hvolumes⟩ := (Bool.and_eq_true _ _).mp hnothing
    rw [List.isEmpty_iff] at henv hvolumes
    have hzero : most = 0 := by
      have hmem := List.max?_mem hmost
      obtain ⟨k, hk, rfl⟩ := List.mem_map.mp hmem
      obtain ⟨key, -, rfl⟩ := List.mem_map.mp hk
      rw [henv, hvolumes]
      rfl
    subst hzero
    refine ⟨iff_of_true rfl fun index h => absurd h (Nat.not_lt_zero _), ?_⟩
    rintro rebuilt ⟨⟩ key _
    rfl
  · rw [if_neg hnothing]
    constructor
    · rw [Option.isSome_iff_exists]
      constructor
      · rintro ⟨rebuilt, hrebuilt⟩ index hindex
        exact (hspec index).1.mp (Traverse.isSome_of_mapM hrebuilt index (List.mem_range.mpr hindex))
      · intro hfits
        refine ⟨_, (Traverse.mapM_eq_some_iff { selectedConfiguration := cfg }).mpr ⟨fun index hindex => ?_, rfl⟩⟩
        exact (hspec index).1.mpr (hfits index (List.mem_range.mp hindex))
    · intro rebuilt hrebuilt key hkey
      obtain ⟨hall, rfl⟩ := (Traverse.mapM_eq_some_iff { selectedConfiguration := cfg }).mp hrebuilt
      unfold used uses Slots.dealt
      rw [Tally.entries_flatMap, List.flatMap_map, List.filterMap_eq_flatMap_toList]
      refine List.flatMap_congr fun index hindex => ?_
      obtain ⟨config, hconfig⟩ := Option.isSome_iff_exists.mp (hall index hindex)
      rw [hconfig, Option.getD_some, (hspec index).2 config hconfig]
      exact Tally.entries_filterMap (ref_injective cfg) cfg.nodup_keys _ hkey

/-- What is put together again uses keys of the configuration only. -/
theorem ref_of_formValuesOf (h : formValuesOf env volumes cfg = some rebuilt) :
    ∀ p ∈ uses rebuilt, ∃ key ∈ cfg.keys, p.1 = cfg.ref key := by
  have hwhole : ∀ p ∈ ({ selectedConfiguration := cfg } : ConfigurationFormValue).uses,
      ∃ key ∈ cfg.keys, p.1 = cfg.ref key := by
    intro p hp
    obtain ⟨key, hkey, rfl⟩ := List.mem_map.mp hp
    exact ⟨key, hkey, rfl⟩
  have hall : ∀ index config,
      formValue cfg (cfg.keys.map (keyCount (envOf env cfg) (volumesOf volumes cfg))) index = some config →
      ∀ p ∈ config.uses, ∃ key ∈ cfg.keys, p.1 = cfg.ref key := by
    intro index config hconfig
    unfold formValue at hconfig
    split at hconfig
    · obtain ⟨items, hitems, rfl⟩ := Option.map_eq_some_iff.mp hconfig
      obtain ⟨hsome, rfl⟩ := (Traverse.mapM_eq_some_iff { key := "" }).mp hitems
      rw [uses_overriden, List.filterMap_map, List.filterMap_map]
      intro p hp
      obtain ⟨key, hkey, hp⟩ := List.mem_filterMap.mp hp
      obtain ⟨item, hitem⟩ := Option.isSome_iff_exists.mp (hsome _ (List.mem_map_of_mem hkey))
      dsimp only [Function.comp_apply] at hp
      rw [hitem, Option.getD_some] at hp
      obtain ⟨use, -, rfl⟩ := Option.map_eq_some_iff.mp hp
      exact ⟨key, hkey, by rw [(use_overridenKey hitem).1]⟩
    · cases Option.some.inj hconfig
      exact hwhole
  unfold formValuesOf at h
  dsimp only at h
  split at h
  · cases Option.some.inj h
    exact fun p hp => absurd hp List.not_mem_nil
  · obtain ⟨hsome, rfl⟩ := (Traverse.mapM_eq_some_iff { selectedConfiguration := cfg }).mp h
    intro p hp
    obtain ⟨config, hconfig, hp⟩ := List.mem_flatMap.mp hp
    obtain ⟨index, hindex, rfl⟩ := List.mem_map.mp hconfig
    obtain ⟨config, hconfig⟩ := Option.isSome_iff_exists.mp (hsome index hindex)
    rw [hconfig, Option.getD_some] at hp
    exact hall index config hconfig p hp

/-- Without keys there is nothing to use, and no exception. -/
theorem isSome_formValuesOf_of_nil (h : cfg.keys = []) : (formValuesOf env volumes cfg).isSome := by
  unfold formValuesOf
  dsimp only
  rw [h]
  split <;> rfl

end Rebuilding

/-! ## Main result -/

section Main

variable {configurations : List Configuration}

/-- What is read of an application. -/
abbrev readEnv (uuidv4 : ℕ → String) (app : Application) (formValues : List ConfigurationFormValue) : List EnvEntry :=
  (createPayload (generateEnvOrVolumesFromConfigurations uuidv4 app formValues)).env

abbrev readVolumes (uuidv4 : ℕ → String) (app : Application) (formValues : List ConfigurationFormValue) :
    List ConfigurationVolume :=
  (createPayload (generateEnvOrVolumesFromConfigurations uuidv4 app formValues)).configurationVolumes

/-- **One configuration** gets its uses back exactly if they are apart from
those of its namesake, and even. -/
theorem formValuesOf_iff (huuid : Function.Injective uuidv4) (hplain : Plain uuidv4 app) :
    ((formValuesOf (readEnv uuidv4 app formValues) (readVolumes uuidv4 app formValues) cfg).isSome ∧
      ∀ rebuilt, formValuesOf (readEnv uuidv4 app formValues) (readVolumes uuidv4 app formValues) cfg = some rebuilt →
        ∀ key ∈ cfg.keys, (used rebuilt (cfg.ref key)).Perm (used formValues (cfg.ref key))) ↔
    ((∀ key ∈ cfg.keys, paths formValues { type := cfg.type.other, name := cfg.name, key := key } = []) ∧
      ((∀ key ∈ cfg.keys, ∀ key' ∈ cfg.keys,
        envCount formValues cfg key + (paths formValues (cfg.ref key)).length =
          envCount formValues cfg key' + (paths formValues (cfg.ref key')).length) ∨
      ∃ times, (∀ key ∈ cfg.keys, envCount formValues cfg key + (paths formValues (cfg.ref key)).length = 0 ∨
          envCount formValues cfg key + (paths formValues (cfg.ref key)).length = times) ∧
        ∃ key ∈ cfg.keys, envCount formValues cfg key + (paths formValues (cfg.ref key)).length = times ∧
          envCount formValues cfg key = 0)) := by
  by_cases hkeys : cfg.keys = []
  · refine iff_of_true ⟨isSome_formValuesOf_of_nil hkeys, ?_⟩ ⟨?_, .inl ?_⟩
    all_goals
      rw [hkeys]
      simp
  · have hcount : ∀ key, keyEnvCount (envOf (readEnv uuidv4 app formValues) cfg) key = envCount formValues cfg key :=
      fun key => length_keyEnv hplain formValues cfg key
    have hpaths : ∀ key, keyPaths (volumesOf (readVolumes uuidv4 app formValues) cfg) key =
        namedPaths formValues cfg.name key := fun key => map_keyVol huuid hplain formValues cfg key
    let keys := cfg.keys.map (keyCount (envOf (readEnv uuidv4 app formValues) cfg)
      (volumesOf (readVolumes uuidv4 app formValues) cfg))
    obtain ⟨most, hmost⟩ : ∃ most, (keys.map KeyCount.count).max? = some most := by
      refine Option.isSome_iff_exists.mp (List.isSome_max?_of_ne_nil ?_)
      simpa [keys] using hkeys
    obtain ⟨mostPlaced, hplaced⟩ : ∃ mostPlaced, (keys.map KeyCount.volCount).max? = some mostPlaced := by
      refine Option.isSome_iff_exists.mp (List.isSome_max?_of_ne_nil ?_)
      simpa [keys] using hkeys
    obtain ⟨hsome, hused⟩ := formValuesOf_spec hmost hplaced
    have hmem : ∀ key ∈ cfg.keys, envCount formValues cfg key + (namedPaths formValues cfg.name key).length ∈
        keys.map KeyCount.count := by
      intro key hkey
      rw [← hcount, ← hpaths, ← count_keyCount]
      exact List.mem_map_of_mem (List.mem_map_of_mem hkey)
    have hmem' : ∀ key ∈ cfg.keys, (namedPaths formValues cfg.name key).length ∈ keys.map KeyCount.volCount := by
      intro key hkey
      rw [← hpaths]
      have hvol := List.mem_map_of_mem (f := KeyCount.volCount) (List.mem_map_of_mem
        (f := keyCount (envOf (readEnv uuidv4 app formValues) cfg)
          (volumesOf (readVolumes uuidv4 app formValues) cfg)) hkey)
      rwa [volCount_keyCount] at hvol
    have hexists : ∃ key ∈ cfg.keys,
        envCount formValues cfg key + (namedPaths formValues cfg.name key).length = most := by
      obtain ⟨k, hk, hkmost⟩ := List.mem_map.mp (List.max?_mem hmost)
      obtain ⟨key, hkey, rfl⟩ := List.mem_map.mp hk
      rw [count_keyCount, hcount, hpaths] at hkmost
      exact ⟨key, hkey, hkmost⟩
    have hexists' : ∃ key ∈ cfg.keys, (namedPaths formValues cfg.name key).length = mostPlaced := by
      obtain ⟨k, hk, hkmost⟩ := List.mem_map.mp (List.max?_mem hplaced)
      obtain ⟨key, hkey, rfl⟩ := List.mem_map.mp hk
      rw [volCount_keyCount, hpaths] at hkmost
      exact ⟨key, hkey, hkmost⟩
    have hdealt := Slots.dealt_iff (fun key _ => namedPaths_perm formValues cfg key)
      (fun key hkey => (List.max?_le_iff hmost).mp (Nat.le_refl _) _ (hmem key hkey)) hexists
      (fun key hkey => (List.max?_le_iff hplaced).mp (Nat.le_refl _) _ (hmem' key hkey)) hexists'
    rw [funext hcount, funext hpaths] at hsome
    rw [hsome]
    refine Iff.trans (and_congr_right fun hfits => ?_) hdealt
    obtain ⟨rebuilt, hrebuilt⟩ := Option.isSome_iff_exists.mp (hsome.mpr hfits)
    have hsplit : ∀ key, (used formValues (cfg.ref key)).Perm
        (List.replicate (envCount formValues cfg key) none ++ (paths formValues (cfg.ref key)).map some) :=
      fun key => Slots.perm_split _
    constructor
    · intro hall key hkey
      have hperm := hall rebuilt hrebuilt key hkey
      rw [hused rebuilt hrebuilt key hkey, hcount, hpaths] at hperm
      exact hperm.trans (hsplit key)
    · intro hall rebuilt' hrebuilt' key hkey
      rw [hused rebuilt' hrebuilt' key hkey, hcount, hpaths]
      exact (hall key hkey).trans (hsplit key).symm

/-- **A balanced configuration**, by its variables and its paths. -/
theorem balanced_iff : Balanced formValues cfg ↔
    (∀ key, key ∉ cfg.keys → used formValues (cfg.ref key) = []) ∧
    (∀ key ∈ cfg.keys, paths formValues { type := cfg.type.other, name := cfg.name, key := key } = []) ∧
      ((∀ key ∈ cfg.keys, ∀ key' ∈ cfg.keys,
        envCount formValues cfg key + (paths formValues (cfg.ref key)).length =
          envCount formValues cfg key' + (paths formValues (cfg.ref key')).length) ∨
      ∃ times, (∀ key ∈ cfg.keys, envCount formValues cfg key + (paths formValues (cfg.ref key)).length = 0 ∨
          envCount formValues cfg key + (paths formValues (cfg.ref key)).length = times) ∧
        ∃ key ∈ cfg.keys, envCount formValues cfg key + (paths formValues (cfg.ref key)).length = times ∧
          envCount formValues cfg key = 0) := by
  have hlength : ∀ key, envCount formValues cfg key + (paths formValues (cfg.ref key)).length =
      (used formValues (cfg.ref key)).length := by
    intro key
    rw [(Slots.perm_split (used formValues (cfg.ref key))).length_eq, List.length_append, List.length_replicate,
      List.length_map]
    rfl
  have hpaths : ∀ ref, paths formValues ref = [] ↔ ∀ path, some path ∉ used formValues ref := by
    intro ref
    rw [paths, List.filterMap_eq_nil_iff]
    constructor
    · exact fun h path hpath => nomatch h (some path) hpath
    · intro h use huse
      cases use with
      | none => rfl
      | some path => exact absurd huse (h path)
  have hcount : ∀ key, envCount formValues cfg key = 0 ↔ none ∉ used formValues (cfg.ref key) :=
    fun key => List.count_eq_zero
  simp only [hlength, hpaths, hcount, List.length_eq_zero_iff]
  exact ⟨fun h => ⟨h.known, h.apart, h.even⟩, fun h => ⟨h.1, h.2.1, h.2.2⟩⟩

theorem used_flatMap (forms : Configuration → List ConfigurationFormValue) (ref : KeyRef) :
    used (configurations.flatMap forms) ref = configurations.flatMap fun cfg => used (forms cfg) ref := by
  unfold used uses
  rw [List.flatMap_assoc, Tally.entries_flatMap]

theorem ref_of_uses {config : ConfigurationFormValue} {p : KeyRef × Option String} (hp : p ∈ config.uses) :
    ∃ key, p.1 = config.selectedConfiguration.ref key := by
  unfold ConfigurationFormValue.uses at hp
  split at hp
  · obtain ⟨key, -, rfl⟩ := List.mem_map.mp hp
    exact ⟨key, rfl⟩
  · obtain ⟨item, -, hitem⟩ := List.mem_filterMap.mp hp
    split at hitem
    · nomatch hitem
    · exact ⟨item.key, by rw [← Option.some.inj hitem]⟩
    · exact ⟨item.key, by rw [← Option.some.inj hitem]⟩

/-- Of parts that are distinct, one alone gives what it gives. -/
theorem flatMap_eq_of_unique {α β : Type} {f : α → List β} {l : List α} {a : α} (hnodup : l.Nodup) (ha : a ∈ l)
    (hothers : ∀ b ∈ l, b ≠ a → f b = []) : l.flatMap f = f a := by
  induction l with
  | nil => exact absurd ha List.not_mem_nil
  | cons b l ih =>
    obtain ⟨hb, hnodup⟩ := List.nodup_cons.mp hnodup
    obtain ⟨hfirst, hrest⟩ := List.forall_mem_cons.mp hothers
    rw [List.flatMap_cons]
    by_cases hab : b = a
    · subst hab
      have hnil : l.flatMap f = [] := by
        refine List.flatMap_eq_nil_iff.mpr fun c hc => hrest c hc ?_
        rintro rfl
        exact hb hc
      rw [hnil, List.append_nil]
    · rw [hfirst hab, List.nil_append]
      exact ih hnodup ((List.mem_cons.mp ha).resolve_left (Ne.symm hab)) hrest

/-- **Application configurations**, written and read back. For every set of
configurations and every list of form values of these: the form values are
read back without exception, as form values that generate the same variables
and items of volumes, exactly if each configuration is balanced. -/
theorem generate_readBack_iff (huuid : Function.Injective uuidv4) (hplain : Plain uuidv4 app)
    (hdistinct : (configurations.map fun cfg => (cfg.type, cfg.name)).Nodup)
    (hselected : ∀ config ∈ formValues, config.selectedConfiguration ∈ configurations) :
    ReadBack uuidv4 app configurations formValues ↔ ∀ cfg ∈ configurations, Balanced formValues cfg := by
  let forms := formValuesOf (readEnv uuidv4 app formValues) (readVolumes uuidv4 app formValues)
  have hread : ReadBack uuidv4 app configurations formValues ↔
      (∀ cfg ∈ configurations, (forms cfg).isSome) ∧
        (uses (configurations.flatMap fun cfg => (forms cfg).getD [])).Perm (uses formValues) := by
    unfold ReadBack generateConfigurationFormValuesFromEnvAndVolumes
    constructor
    · rintro ⟨formValues', hread, hperm⟩
      obtain ⟨lists, hlists, rfl⟩ := Option.map_eq_some_iff.mp hread
      obtain ⟨hall, rfl⟩ := (Traverse.mapM_eq_some_iff []).mp hlists
      refine ⟨hall, ?_⟩
      rw [List.flatMap_def]
      exact (generate_perm_iff huuid hplain).mp hperm
    · rintro ⟨hall, hperm⟩
      refine ⟨configurations.flatMap fun cfg => (forms cfg).getD [], ?_, (generate_perm_iff huuid hplain).mpr hperm⟩
      rw [List.flatMap_def]
      exact congrArg (Option.map List.flatten) ((Traverse.mapM_eq_some_iff []).mpr ⟨hall, rfl⟩)
  have hnone : ∀ cfg ∈ configurations, ∀ ref, (∀ key ∈ cfg.keys, ref ≠ cfg.ref key) →
      used ((forms cfg).getD []) ref = [] := by
    intro cfg _ ref hne
    cases hforms : forms cfg with
    | none => rfl
    | some rebuilt =>
      refine Tally.entries_eq_nil fun p hp href => ?_
      obtain ⟨key, hkey, hp⟩ := ref_of_formValuesOf hforms p hp
      exact hne key hkey (href.symm.trans hp)
  -- a key is used by the form values of its own configuration only
  have hown : ∀ cfg ∈ configurations, ∀ key,
      used (configurations.flatMap fun cfg => (forms cfg).getD []) (cfg.ref key) =
        used ((forms cfg).getD []) (cfg.ref key) := by
    intro cfg hcfg key
    rw [used_flatMap]
    refine flatMap_eq_of_unique hdistinct.of_map hcfg fun cfg' hcfg' hne => hnone cfg' hcfg' _ fun key' _ href => ?_
    have hsame : (cfg'.type, cfg'.name) = (cfg.type, cfg.name) := by
      rw [Prod.mk.injEq]
      exact ⟨(congrArg KeyRef.type href).symm, (congrArg KeyRef.name href).symm⟩
    exact hne (List.inj_on_of_nodup_map hdistinct hcfg' hcfg hsame)
  have hcfg : ∀ cfg ∈ configurations, Balanced formValues cfg ↔
      (∀ key, key ∉ cfg.keys → used formValues (cfg.ref key) = []) ∧ (forms cfg).isSome ∧
        ∀ rebuilt, forms cfg = some rebuilt → ∀ key ∈ cfg.keys,
          (used rebuilt (cfg.ref key)).Perm (used formValues (cfg.ref key)) := by
    intro cfg _
    rw [balanced_iff, ← formValuesOf_iff huuid hplain]
  rw [hread]
  constructor
  · rintro ⟨hall, hperm⟩ cfg hmem
    have hsame := fun key => Tally.perm_iff_entries.mp hperm (cfg.ref key)
    refine (hcfg cfg hmem).mpr ⟨fun key hkey => ?_, hall cfg hmem, fun rebuilt hrebuilt key hkey => ?_⟩
    · have hnil : used ((forms cfg).getD []) (cfg.ref key) = [] :=
        hnone cfg hmem _ fun key' hkey' href => hkey (ref_injective cfg href ▸ hkey')
      refine List.Perm.eq_nil (List.Perm.trans (hsame key).symm (List.Perm.of_eq ?_))
      exact (hown cfg hmem key).trans hnil
    · have hself := hown cfg hmem key
      rw [hrebuilt, Option.getD_some] at hself
      exact (List.Perm.of_eq hself.symm).trans (hsame key)
  · intro hbalanced
    refine ⟨fun cfg hmem => ((hcfg cfg hmem).mp (hbalanced cfg hmem)).2.1, Tally.perm_iff_entries.mpr fun ref => ?_⟩
    by_cases hknown : ∃ cfg ∈ configurations, ref.type = cfg.type ∧ ref.name = cfg.name
    · obtain ⟨cfg, hmem, htype, hname⟩ := hknown
      obtain ⟨hunknown, hsome, hsame⟩ := (hcfg cfg hmem).mp (hbalanced cfg hmem)
      obtain ⟨rebuilt, hrebuilt⟩ := Option.isSome_iff_exists.mp hsome
      have href : ref = cfg.ref ref.key := by
        obtain ⟨type, name, key⟩ := ref
        cases htype
        cases hname
        rfl
      rw [href]
      refine (List.Perm.of_eq (hown cfg hmem ref.key)).trans ?_
      by_cases hkey : ref.key ∈ cfg.keys
      · rw [hrebuilt, Option.getD_some]
        exact hsame rebuilt hrebuilt ref.key hkey
      · have hnil := hnone cfg hmem (cfg.ref ref.key) fun key' hkey' href' =>
          hkey (ref_injective cfg href' ▸ hkey')
        rw [hnil]
        exact List.Perm.of_eq (hunknown ref.key hkey).symm
    · have hleft : used (configurations.flatMap fun cfg => (forms cfg).getD []) ref = [] := by
        rw [used_flatMap]
        refine List.flatMap_eq_nil_iff.mpr fun cfg hmem => hnone cfg hmem ref fun key _ href => ?_
        exact hknown ⟨cfg, hmem, congrArg KeyRef.type href, congrArg KeyRef.name href⟩
      have hright : used formValues ref = [] := by
        refine Tally.entries_eq_nil fun p hp href => ?_
        obtain ⟨config, hconfig, hp⟩ := List.mem_flatMap.mp hp
        obtain ⟨key, hkey⟩ := ref_of_uses hp
        rw [href] at hkey
        exact hknown ⟨_, hselected config hconfig, congrArg KeyRef.type hkey, congrArg KeyRef.name hkey⟩
      exact List.Perm.of_eq (hleft.trans hright.symm)

end Main

/-- A config map with two keys. -/
def twoKeys : Configuration where
  type := .configMap
  name := "settings"
  keys := ["HOST", "PORT"]
  nodup_keys := by decide

/-- Texts that are all different. -/
def tally (n : ℕ) : String := String.ofList (List.replicate n 'x')

theorem tally_injective : Function.Injective tally := by
  intro n m h
  have hlist := congrArg String.toList h
  rw [tally, tally, String.toList_ofList, String.toList_ofList] at hlist
  simpa using congrArg List.length hlist

/-- A secret with two keys. -/
def certificate : Configuration where
  type := .secret
  name := "tls"
  keys := ["CERT", "KEY"]
  nodup_keys := by decide

/-- The config map is loaded as a whole and once more, one key into a
variable and one into a file. Of the secret one key is a file, and the other
is not used. -/
def mixedForms : List ConfigurationFormValue :=
  [{ selectedConfiguration := twoKeys },
    { selectedConfiguration := twoKeys
      overriden := true
      overridenKeys := [{ key := "HOST" }, { key := "PORT", path := "/etc", type := .filesystem }] },
    { selectedConfiguration := certificate
      overriden := true
      overridenKeys := [{ key := "CERT", path := "/tls", type := .filesystem }, { key := "KEY", type := .none }] }]

theorem balanced_mixedForms : ∀ cfg ∈ [twoKeys, certificate], Balanced mixedForms cfg := by
  have hown : ∀ cfg ∈ [twoKeys, certificate], ∀ p ∈ uses mixedForms, p.1.name = cfg.name →
      p.1.type = cfg.type ∧ p.1.key ∈ cfg.keys := by decide
  have hother : ∀ type : ConfigurationType, type ≠ type.other := by
    rintro (_ | _) <;> decide
  intro cfg hcfg
  refine ⟨fun key hkey => ?_, fun key _ path hpath => ?_, ?_⟩
  · refine Tally.entries_eq_nil fun p hp href => hkey ?_
    have hmem := (hown cfg hcfg p hp (congrArg KeyRef.name href)).2
    rwa [href] at hmem
  · have hnil : used mixedForms { type := cfg.type.other, name := cfg.name, key := key } = [] := by
      refine Tally.entries_eq_nil fun p hp href => hother cfg.type ?_
      exact (hown cfg hcfg p hp (congrArg KeyRef.name href)).1.symm.trans (congrArg KeyRef.type href)
    rw [hnil] at hpath
    exact absurd hpath List.not_mem_nil
  · rw [List.mem_cons, List.mem_singleton] at hcfg
    obtain rfl | rfl := hcfg
    · exact .inl (by decide)
    · exact .inr ⟨1, by decide, by decide⟩

theorem generate_readBack_iff_mixed : ReadBack tally { name := "web" } [twoKeys, certificate] mixedForms := by
  refine (generate_readBack_iff tally_injective ⟨?_, ?_, ?_⟩ (by decide) ?_).mpr balanced_mixedForms
  · exact List.forall_mem_nil _
  · exact List.forall_mem_nil _
  · exact List.forall_mem_nil _
  · rw [mixedForms, List.forall_mem_cons, List.forall_mem_cons, List.forall_mem_singleton]
    exact ⟨List.mem_cons_self, List.mem_cons_self, List.mem_cons_of_mem _ List.mem_cons_self⟩

/-- One of the two keys is loaded. -/
def oneKeyLoaded : ConfigurationFormValue where
  selectedConfiguration := twoKeys
  overriden := true
  overridenKeys := [{ key := "HOST" }, { key := "PORT", type := .none }]

/-- **A key that is not used** is loaded once the form is read back. -/
theorem unused_key_loaded : ¬ ReadBack tally { name := "web" } [twoKeys] [oneKeyLoaded] := by
  have hplain : Plain tally { name := "web" } := by
    refine ⟨?_, ?_, ?_⟩
    · exact fun entry h => absurd h List.not_mem_nil
    · exact fun volume h => absurd h List.not_mem_nil
    · exact fun mount h => absurd h List.not_mem_nil
  have hitems : [oneKeyLoaded].flatMap ConfigurationFormValue.items = [] := by
    have hperm := flatMap_items_perm [oneKeyLoaded]
    exact hperm.eq_nil
  rintro ⟨formValues', hread, henv, -⟩
  rw [configurationVolumes_generate tally_injective hplain, hitems, List.map_nil] at hread
  have hwhole : some [{ selectedConfiguration := twoKeys }] = some formValues' := hread
  rw [← Option.some.inj hwhole] at henv
  have hlength : 2 = 1 := henv.length_eq
  omega

end Applications

end Portainer
