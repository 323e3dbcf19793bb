import Portainer.Containers.Creation
import Portainer.Containers.PortBindings
/-!
# Containers — a container that is edited

The configuration that is prepared from a loaded form, against the one that
was loaded. `keeps_iff` says which containers come back: a fixed number of
fields, a fixed permission and the quoting of the command lose the others,
`loses_third_server` a third name server.
-/

namespace Portainer

namespace Creation

variable {splitargs : Text → List Text} {c : Container}

/-! ## The property -/

/-- A container as it is reported: its properties have each name once. -/
structure Reported (c : Container) : Prop where
  labels : ((c.config.labels.getD []).map Prod.fst).Nodup
  sysctls : ((c.config.hostConfig.sysctls.getD []).map Prod.fst).Nodup
  logOptions : ((c.config.hostConfig.logConfig.config.getD []).map Prod.fst).Nodup

/-- **Two configurations say the same**, an absent list being empty and the
order of properties, binds and capabilities being of no account. -/
structure SameConfig (old new : Config) : Prop where
  cmd : new.cmd.getD [] = old.cmd.getD []
  env : new.env.getD [] = old.env.getD []
  labels : (new.labels.getD []).Perm (old.labels.getD [])
  binds : (new.hostConfig.binds.getD []).Perm (old.hostConfig.binds.getD [])
  devices : new.hostConfig.devices.getD [] = old.hostConfig.devices.getD []
  dns : new.hostConfig.dns.getD [] = old.hostConfig.dns.getD []
  extraHosts : new.hostConfig.extraHosts.getD [] = old.hostConfig.extraHosts.getD []
  sysctls : (new.hostConfig.sysctls.getD []).Perm (old.hostConfig.sysctls.getD [])
  capAdd : (new.hostConfig.capAdd.getD []).Perm (old.hostConfig.capAdd.getD [])
  capDrop : (new.hostConfig.capDrop.getD []).Perm (old.hostConfig.capDrop.getD [])
  logType : new.hostConfig.logConfig.type = old.hostConfig.logConfig.type
  logOptions : (new.hostConfig.logConfig.config.getD []).Perm (old.hostConfig.logConfig.config.getD [])

/-- **The container is kept**: what is prepared from the loaded form, without
an edit, says the same. -/
def Keeps (splitargs : Text → List Text) (c : Container) : Prop :=
  ∃ config, (loadFromContainerSpec c).bind (prepareConfiguration splitargs) = some config ∧ SameConfig c.config config

/-! What the form can show of each field. -/

/-- Each line of the ports is valid. -/
def ShowsPorts (c : Container) : Prop :=
  ∃ lines, Ports.sortAndCombinePorts c.config.hostConfig.portBindings = some lines ∧
    ∀ line ∈ lines, (Ports.expand line).isSome

def ShowsCmd (c : Container) : Prop := ∀ argument ∈ c.config.cmd.getD [], '\'' ∉ argument ∧ argument ≠ []

def ShowsEnv (c : Container) : Prop :=
  ∀ s ∈ c.config.env.getD [], s ≠ [] ∧ ('=' ∈ s → EnvVars.Kept (EnvVars.entryOf s))

def ShowsLabels (c : Container) : Prop :=
  ∀ label ∈ c.config.labels.getD [], label.1 ≠ "" ∧ label.1 ≠ "__proto__"

/-- The binds are those of the mounts. -/
def ShowsBinds (c : Container) : Prop := (c.mounts.filterMap Mount.bind).Perm (c.config.hostConfig.binds.getD [])

def ShowsDevices (c : Container) : Prop :=
  ∀ device ∈ c.config.hostConfig.devices.getD [],
    device.pathOnHost ≠ "" ∧ device.pathInContainer ≠ "" ∧ device.cgroupPermissions = "rwm"

def ShowsDns (c : Container) : Prop :=
  (c.config.hostConfig.dns.getD []).length ≤ 2 ∧ "" ∉ c.config.hostConfig.dns.getD []

def ShowsExtraHosts (c : Container) : Prop := "" ∉ c.config.hostConfig.extraHosts.getD []

def ShowsSysctls (c : Container) : Prop :=
  ∀ sysctl ∈ c.config.hostConfig.sysctls.getD [], sysctl.1 ≠ "" ∧ sysctl.2 ≠ "" ∧ sysctl.1 ≠ "__proto__"

/-- All capabilities of the form are mentioned. -/
def ShowsCapabilities (c : Container) : Prop :=
  ∀ cap ∈ capabilityList, cap.capability ∈ c.config.hostConfig.capAdd.getD [] ++ c.config.hostConfig.capDrop.getD []

def ShowsLogDriver (c : Container) : Prop :=
  c.config.hostConfig.logConfig.type ≠ "" →
    (c.config.hostConfig.logConfig.type = "none" → c.config.hostConfig.logConfig.config.getD [] = []) ∧
      ∀ option ∈ c.config.hostConfig.logConfig.config.getD [], option.1 ∉ ["", "__proto__", "constructor"]

/-- **What the form can show.** -/
structure Showable (c : Container) : Prop where
  ports : ShowsPorts c
  cmd : ShowsCmd c
  env : ShowsEnv c
  labels : ShowsLabels c
  binds : ShowsBinds c
  devices : ShowsDevices c
  dns : ShowsDns c
  extraHosts : ShowsExtraHosts c
  sysctls : ShowsSysctls c
  capabilities : ShowsCapabilities c
  logDriver : ShowsLogDriver c

/-- **Field by field**: each is the same exactly if the form can show it. -/
structure ByField (c : Container) (config : Config) : Prop where
  cmd : config.cmd.getD [] = c.config.cmd.getD [] ↔ ShowsCmd c
  env : config.env.getD [] = c.config.env.getD [] ↔ ShowsEnv c
  labels : (config.labels.getD []).Perm (c.config.labels.getD []) ↔ ShowsLabels c
  binds : (config.hostConfig.binds.getD []).Perm (c.config.hostConfig.binds.getD []) ↔ ShowsBinds c
  devices : config.hostConfig.devices.getD [] = c.config.hostConfig.devices.getD [] ↔ ShowsDevices c
  dns : config.hostConfig.dns.getD [] = c.config.hostConfig.dns.getD [] ↔ ShowsDns c
  extraHosts : config.hostConfig.extraHosts.getD [] = c.config.hostConfig.extraHosts.getD [] ↔ ShowsExtraHosts c
  sysctls : (config.hostConfig.sysctls.getD []).Perm (c.config.hostConfig.sysctls.getD []) ↔ ShowsSysctls c
  capabilities : ((config.hostConfig.capAdd.getD []).Perm (c.config.hostConfig.capAdd.getD []) ∧
    (config.hostConfig.capDrop.getD []).Perm (c.config.hostConfig.capDrop.getD [])) ↔ ShowsCapabilities c
  logDriver : (config.hostConfig.logConfig.type = c.config.hostConfig.logConfig.type ∧
    (config.hostConfig.logConfig.config.getD []).Perm (c.config.hostConfig.logConfig.config.getD [])) ↔ ShowsLogDriver c

/-! ## The command -/

theorem prepareCmd_load_iff (hsplit : ShellWords.ShellLike splitargs) (cmd : Option (List Text)) :
    (prepareCmd splitargs (loadFromContainerCmd cmd).1 (loadFromContainerCmd cmd).2).getD [] = cmd.getD [] ↔
      ∀ argument ∈ cmd.getD [], '\'' ∉ argument ∧ argument ≠ [] := by
  cases cmd with
  | none => exact iff_of_true rfl (List.forall_mem_nil _)
  | some array =>
    cases array with
    | nil => exact iff_of_true rfl (List.forall_mem_nil _)
    | cons argument rest =>
      have hne : commandArrayToString (argument :: rest) ≠ [] := by
        cases rest with
        | nil => exact List.cons_ne_nil _ _
        | cons next rest => exact List.cons_ne_nil _ _
      have hprepare : prepareCmd splitargs (some (commandArrayToString (argument :: rest))) .override =
          some (splitargs (commandArrayToString (argument :: rest))) := by
        rw [prepareCmd, Option.getD_some, if_neg]
        rintro (h | h)
        · exact hne h
        · nomatch h
      rw [loadFromContainerCmd, hprepare, Option.getD_some, Option.getD_some]
      exact hsplit.joinQuoted_iff (List.cons_ne_nil _ _)

/-! ## Properties -/

theorem prepareLabels_eq {labels : Properties} (hnodup : (labels.map Prod.fst).Nodup) :
    prepareLabels labels = labels.filter fun label => decide (label.1 ≠ "") && label.1 ≠ "__proto__" := by
  have hfold := @foldl_setProperty [] labels (fun label => decide (label.1 ≠ "")) hnodup
  simp only [decide_eq_true_eq] at hfold
  exact hfold

theorem prepareLabels_perm_iff {labels : Properties} (hnodup : (labels.map Prod.fst).Nodup) :
    (prepareLabels labels).Perm labels ↔ ∀ label ∈ labels, label.1 ≠ "" ∧ label.1 ≠ "__proto__" := by
  rw [prepareLabels_eq hnodup, filter_perm_iff]
  refine forall₂_congr fun label _ => ?_
  rw [Bool.and_eq_true, decide_eq_true_eq, decide_eq_true_eq]

theorem prepareSysctls_perm_iff {sysctls : Properties} (hnodup : (sysctls.map Prod.fst).Nodup) :
    (prepareSysctls sysctls).Perm sysctls ↔
      ∀ sysctl ∈ sysctls, sysctl.1 ≠ "" ∧ sysctl.2 ≠ "" ∧ sysctl.1 ≠ "__proto__" := by
  have hfold := @foldl_setProperty [] sysctls (fun sysctl => decide (sysctl.1 ≠ "" ∧ sysctl.2 ≠ "")) hnodup
  simp only [decide_eq_true_eq] at hfold
  have hfilter : prepareSysctls sysctls = sysctls.filter _ := hfold
  rw [hfilter, filter_perm_iff]
  refine forall₂_congr fun sysctl _ => ?_
  rw [Bool.and_eq_true, decide_eq_true_eq, decide_eq_true_eq, and_assoc]

/-! ## Devices, name servers and hosts -/

theorem prepareDevices_load_iff (devices : Option (List Device)) :
    prepareDevices (loadFromContainerDevices devices) = devices.getD [] ↔ ∀ device ∈ devices.getD [],
      device.pathOnHost ≠ "" ∧ device.pathInContainer ≠ "" ∧ device.cgroupPermissions = "rwm" := by
  rw [prepareDevices, loadFromContainerDevices, List.filterMap_map]
  generalize devices.getD [] = l
  have hmap := List.filterMap_eq_map_iff_forall_eq_some (l := l) (g := id)
    (f := (fun p : FormDevice =>
      if p.pathOnHost ≠ "" then
        some (⟨p.pathOnHost, if p.pathInContainer = "" then p.pathOnHost else p.pathInContainer, "rwm"⟩ : Device)
      else none) ∘ fun device => ⟨device.pathOnHost, device.pathInContainer⟩)
  rw [List.map_id] at hmap
  rw [hmap]
  refine forall₂_congr fun device _ => ?_
  obtain ⟨pathOnHost, pathInContainer, cgroupPermissions⟩ := device
  show (if pathOnHost ≠ "" then
    some (⟨pathOnHost, if pathInContainer = "" then pathOnHost else pathInContainer, "rwm"⟩ : Device) else none) =
      some ⟨pathOnHost, pathInContainer, cgroupPermissions⟩ ↔ _
  by_cases hhost : pathOnHost = ""
  · rw [if_neg (not_not.mpr hhost)]
    exact iff_of_false nofun fun h => h.1 hhost
  · rw [if_pos hhost, Option.some.injEq, Device.mk.injEq]
    by_cases hpath : pathInContainer = ""
    · rw [if_pos hpath]
      exact iff_of_false (fun h => hhost (h.2.1.trans hpath)) fun h => h.2.1 hpath
    · rw [if_neg hpath]
      exact ⟨fun h => ⟨hhost, hpath, h.2.2.symm⟩, fun h => ⟨rfl, rfl, h.2.2.symm⟩⟩

theorem prepareDns_load_iff (dns : Option (List String)) :
    prepareDns (loadDns dns).1 (loadDns dns).2 = dns.getD [] ↔ (dns.getD []).length ≤ 2 ∧ "" ∉ dns.getD [] := by
  rw [loadDns]
  generalize dns.getD [] = l
  have hlength : ∀ s t, (prepareDns s t).length ≤ 2 := by
    intro s t
    rw [prepareDns, List.length_append]
    split <;> split <;> simp
  have hnot : ∀ s t, "" ∉ prepareDns s t := by
    intro s t
    rw [prepareDns, List.mem_append, not_or]
    split <;> split <;> simp_all [eq_comm]
  constructor
  · intro h
    rw [← h]
    exact ⟨hlength _ _, hnot _ _⟩
  · rintro ⟨hle, hempty⟩
    match l with
    | [] => rfl
    | [s] =>
      have hs : s ≠ "" := fun heq => hempty (heq ▸ List.mem_cons_self)
      simp [prepareDns, hs]
    | [s, t] =>
      have hs : s ≠ "" := fun heq => hempty (heq ▸ List.mem_cons_self)
      have ht : t ≠ "" := fun heq => hempty (heq ▸ List.mem_cons_of_mem _ List.mem_cons_self)
      simp [prepareDns, hs, ht]
    | _ :: _ :: _ :: _ =>
      rw [List.length_cons, List.length_cons, List.length_cons] at hle
      omega

theorem prepareExtraHosts_iff {hosts : List String} : prepareExtraHosts hosts = hosts ↔ "" ∉ hosts := by
  rw [prepareExtraHosts, List.filter_eq_self]
  constructor
  · intro h hmem
    exact of_decide_eq_true (h "" hmem) rfl
  · intro h s hs
    exact decide_eq_true fun heq => h (heq ▸ hs)

theorem prepareVolumes_load (mounts : List Mount) :
    prepareVolumes (loadFromContainerVolumes mounts) = mounts.filterMap Mount.bind := by
  rw [prepareVolumes, loadFromContainerVolumes, List.filterMap_map]
  rfl

/-! ## The log driver -/

theorem prepareLogDriver_type (log : LogConfig) (opts : Properties) :
    (prepareLogDriver log log.type opts).type = log.type := by
  rw [prepareLogDriver]
  by_cases htype : log.type ≠ ""
  · rw [if_pos htype]
    dsimp only
    split <;> rfl
  · rw [if_neg htype]

theorem prepareLogDriver_perm_iff {log : LogConfig} (hnodup : ((log.config.getD []).map Prod.fst).Nodup) :
    ((prepareLogDriver log log.type (log.config.getD [])).config.getD []).Perm (log.config.getD []) ↔
      (log.type ≠ "" → (log.type = "none" → log.config.getD [] = []) ∧
        ∀ option ∈ log.config.getD [], option.1 ∉ ["", "__proto__", "constructor"]) := by
  have hopts := prepareLabels_perm_iff hnodup
  rw [prepareLogDriver]
  show ((if log.type ≠ "" then
    if log.type ≠ "none" ∧ prepareLabels (log.config.getD []) ≠ [] ∧
        "constructor" ∉ (prepareLabels (log.config.getD [])).map Prod.fst then
      (⟨log.type, some (prepareLabels (log.config.getD []))⟩ : LogConfig)
    else ⟨log.type, none⟩ else log).config.getD []).Perm _ ↔ _
  by_cases htype : log.type = ""
  · rw [if_neg (not_not.mpr htype)]
    exact iff_of_true (List.Perm.refl _) fun h => absurd htype h
  · rw [if_pos htype]
    generalize log.config.getD [] = opts at hopts ⊢
    by_cases hset : log.type ≠ "none" ∧ prepareLabels opts ≠ [] ∧ "constructor" ∉ (prepareLabels opts).map Prod.fst
    · rw [if_pos hset, Option.getD_some, hopts]
      obtain ⟨hnone, -, hconstructor⟩ := hset
      constructor
      · intro h _
        refine ⟨fun heq => absurd heq hnone, fun option hmem hname => ?_⟩
        obtain ⟨hname', hproto⟩ := h option hmem
        obtain hname | hname | hname : option.1 = "" ∨ option.1 = "__proto__" ∨ option.1 = "constructor" := by
          simpa using hname
        · exact hname' hname
        · exact hproto hname
        · refine hconstructor ?_
          rw [((hopts.mpr h).map Prod.fst).mem_iff, ← hname]
          exact List.mem_map_of_mem hmem
      · intro h option hmem
        have hname := (h htype).2 option hmem
        exact ⟨fun heq => hname (by simp [heq]), fun heq => hname (by simp [heq])⟩
    · rw [if_neg hset, Option.getD_none, List.nil_perm]
      constructor
      · intro hnil _
        rw [hnil]
        exact ⟨fun _ => rfl, List.forall_mem_nil _⟩
      · intro h
        obtain ⟨hnone, hnames⟩ := h htype
        by_contra hne
        have hperm : (prepareLabels opts).Perm opts := by
          refine hopts.mpr fun option hmem => ?_
          have hname := hnames option hmem
          exact ⟨fun heq => hname (by simp [heq]), fun heq => hname (by simp [heq])⟩
        refine hset ⟨fun heq => hne (hnone heq), fun hnil => ?_, fun hmem => ?_⟩
        · rw [hnil, List.nil_perm] at hperm
          exact hne hperm
        · rw [(hperm.map Prod.fst).mem_iff] at hmem
          obtain ⟨option, hmem, heq⟩ := List.mem_map.mp hmem
          exact hnames option hmem (by simp [heq])

/-! ## Capabilities -/

/-- What is added is what is not mentioned. -/
theorem foldl_mention (l capabilities : List ContainerCapability) :
    ∃ extra, l.foldl mention capabilities = capabilities ++ extra ∧
      (extra = [] ↔ ∀ cap ∈ l, cap.capability ∈ capabilities.map ContainerCapability.capability) := by
  induction l generalizing capabilities with
  | nil => exact ⟨[], (List.append_nil _).symm, iff_of_true rfl (List.forall_mem_nil _)⟩
  | cons cap l ih =>
    rw [List.foldl_cons, List.forall_mem_cons, mention]
    by_cases hmem : cap.capability ∈ capabilities.map ContainerCapability.capability
    · rw [if_pos hmem]
      obtain ⟨extra, hextra, hiff⟩ := ih capabilities
      exact ⟨extra, hextra, hiff.trans ⟨fun h => ⟨hmem, h⟩, And.right⟩⟩
    · rw [if_neg hmem]
      obtain ⟨extra, hextra, -⟩ := ih (capabilities ++ [cap])
      refine ⟨cap :: extra, ?_, iff_of_false (List.cons_ne_nil _ _) fun h => hmem h.1⟩
      rw [hextra, List.append_assoc, List.singleton_append]

/-- What has more behind it is the same only if that is nothing. -/
theorem append_perm_iff {α : Type} {l extra : List α} : (l ++ extra).Perm l ↔ extra = [] := by
  constructor
  · intro h
    have hlength := h.length_eq
    rw [List.length_append] at hlength
    exact List.length_eq_zero_iff.mp (by omega)
  · rintro rfl
    rw [List.append_nil]

/-- The capabilities that the container mentions. -/
def mentioned (added dropped : List String) : List ContainerCapability :=
  added.map (fun cap => ⟨cap, true⟩) ++ dropped.map fun cap => ⟨cap, false⟩

theorem map_mentioned (added dropped : List String) :
    (mentioned added dropped).map ContainerCapability.capability = added ++ dropped := by
  rw [mentioned, List.map_append, List.map_map, List.map_map]
  exact congrArg₂ _ (List.map_id' _) (List.map_id' _)

/-- The sorted list has the same capabilities, allowed and not. -/
theorem prepareCapabilities_sorted (added dropped : List String) (extra : List ContainerCapability) :
    (prepareCapabilities (sortBy ContainerCapability.capability (mentioned added dropped ++ extra))).1.Perm
        (added ++ (extra.filter (·.allowed = true)).map ContainerCapability.capability) ∧
      (prepareCapabilities (sortBy ContainerCapability.capability (mentioned added dropped ++ extra))).2.Perm
        (dropped ++ (extra.filter (·.allowed = false)).map ContainerCapability.capability) := by
  have hsorted := sortBy_perm ContainerCapability.capability (mentioned added dropped ++ extra)
  constructor
  · refine ((hsorted.filter _).map _).trans (.of_eq ?_)
    simp [mentioned, List.filter_map, Function.comp_def]
  · refine ((hsorted.filter _).map _).trans (.of_eq ?_)
    simp [mentioned, List.filter_map, Function.comp_def]

/-- **The capabilities come back** exactly if the container mentions all. -/
theorem prepareCapabilities_load_iff (capAdd capDrop : Option (List String)) :
    ((prepareCapabilities (loadFromContainerCapabilities capAdd capDrop)).1.Perm (capAdd.getD []) ∧
      (prepareCapabilities (loadFromContainerCapabilities capAdd capDrop)).2.Perm (capDrop.getD [])) ↔
      ∀ cap ∈ capabilityList, cap.capability ∈ capAdd.getD [] ++ capDrop.getD [] := by
  obtain ⟨extra, hextra, hiff⟩ := foldl_mention ContainerCapabilities (mentioned (capAdd.getD []) (capDrop.getD []))
  have hload : loadFromContainerCapabilities capAdd capDrop =
      sortBy ContainerCapability.capability (mentioned (capAdd.getD []) (capDrop.getD []) ++ extra) :=
    congrArg (sortBy ContainerCapability.capability) hextra
  have hall : extra = [] ↔ ∀ cap ∈ capabilityList, cap.capability ∈ capAdd.getD [] ++ capDrop.getD [] := by
    rw [hiff, map_mentioned]
    exact forall_congr' fun cap => imp_congr_left mem_sortBy
  rw [hload, ← hall]
  obtain ⟨hadd, hdrop⟩ := prepareCapabilities_sorted (capAdd.getD []) (capDrop.getD []) extra
  constructor
  · rintro ⟨hadd', hdrop'⟩
    have hnone := append_perm_iff.mp (hadd.symm.trans hadd')
    have hnone' := append_perm_iff.mp (hdrop.symm.trans hdrop')
    rw [List.map_eq_nil_iff, List.filter_eq_nil_iff] at hnone hnone'
    refine List.eq_nil_iff_forall_not_mem.mpr fun cap hcap => ?_
    cases hallowed : cap.allowed with
    | true => exact hnone cap hcap (decide_eq_true hallowed)
    | false => exact hnone' cap hcap (decide_eq_true hallowed)
  · intro hnil
    have hadd' : (extra.filter (·.allowed = true)).map ContainerCapability.capability = [] := by
      rw [hnil]
      rfl
    have hdrop' : (extra.filter (·.allowed = false)).map ContainerCapability.capability = [] := by
      rw [hnil]
      rfl
    rw [hadd', List.append_nil] at hadd
    rw [hdrop', List.append_nil] at hdrop
    exact ⟨hadd, hdrop⟩

/-! ## The container -/

/-- The ports are read if each line is. -/
theorem isSome_preparePortBindings {lines : List Ports.PortBinding} :
    (Ports.preparePortBindings lines).isSome ↔ ∀ line ∈ lines, (Ports.expand line).isSome := by
  rw [Ports.preparePortBindings_eq, Option.isSome_map, Ports.expandAll, Option.isSome_map]
  induction lines with
  | nil => exact iff_of_true rfl (List.forall_mem_nil _)
  | cons line lines ih =>
    rw [List.mapM_cons, List.forall_mem_cons, ← ih]
    cases Ports.expand line with
    | none => exact iff_of_false Bool.false_ne_true fun h => Bool.false_ne_true h.1
    | some entries =>
      cases lines.mapM Ports.expand with
      | none => exact iff_of_false Bool.false_ne_true fun h => Bool.false_ne_true h.2
      | some rest => exact iff_of_true rfl ⟨rfl, rfl⟩

theorem exists_prepared_iff :
    (∃ config, (loadFromContainerSpec c).bind (prepareConfiguration splitargs) = some config) ↔ ShowsPorts c := by
  constructor
  · rintro ⟨config, hconfig⟩
    obtain ⟨form, hform, hconfig⟩ := Option.bind_eq_some_iff.mp hconfig
    obtain ⟨lines, hlines, hform⟩ := Option.bind_eq_some_iff.mp hform
    obtain ⟨bindings, hbindings, -⟩ := Option.bind_eq_some_iff.mp hconfig
    obtain rfl := Option.some.inj hform
    exact ⟨lines, hlines, isSome_preparePortBindings.mp (Option.isSome_iff_exists.mpr ⟨bindings, hbindings⟩)⟩
  · rintro ⟨lines, hlines, hread⟩
    obtain ⟨bindings, hbindings⟩ := Option.isSome_iff_exists.mp (isSome_preparePortBindings.mpr hread)
    obtain ⟨form, hform, hports⟩ : ∃ form, loadFromContainerSpec c = some form ∧ form.portBindings = lines :=
      ⟨_, Option.bind_eq_some_iff.mpr ⟨lines, hlines, rfl⟩, rfl⟩
    rw [← hports] at hbindings
    obtain ⟨config, hconfig⟩ : ∃ config, prepareConfiguration splitargs form = some config :=
      ⟨_, Option.bind_eq_some_iff.mpr ⟨bindings, hbindings, rfl⟩⟩
    exact ⟨config, Option.bind_eq_some_iff.mpr ⟨form, hform, hconfig⟩⟩

/-- Bindings that come back are shown by valid lines. -/
theorem showsPorts_of_comesBack (h : Ports.ComesBack c.config.hostConfig.portBindings) : ShowsPorts c := by
  obtain ⟨lines, bindings, hlines, hbindings, -⟩ := h
  exact ⟨lines, hlines, isSome_preparePortBindings.mp (Option.isSome_iff_exists.mpr ⟨bindings, hbindings⟩)⟩

/-- Each field is loaded and prepared by its own functions. -/
theorem byField (hsplit : ShellWords.ShellLike splitargs) (hc : Reported c) {config : Config}
    (hconfig : (loadFromContainerSpec c).bind (prepareConfiguration splitargs) = some config) : ByField c config := by
  obtain ⟨form, hform, hconfig⟩ := Option.bind_eq_some_iff.mp hconfig
  obtain ⟨lines, -, hform⟩ := Option.bind_eq_some_iff.mp hform
  obtain ⟨bindings, -, hconfig⟩ := Option.bind_eq_some_iff.mp hconfig
  obtain rfl := Option.some.inj hform
  obtain rfl := Option.some.inj hconfig
  refine
    { cmd := prepareCmd_load_iff hsplit _
      env := ?_
      labels := prepareLabels_perm_iff hc.labels
      binds := ?_
      devices := prepareDevices_load_iff _
      dns := prepareDns_load_iff _
      extraHosts := prepareExtraHosts_iff
      sysctls := prepareSysctls_perm_iff hc.sysctls
      capabilities := prepareCapabilities_load_iff _ _
      logDriver := ?_ }
  · show EnvVars.convertToArrayOfStrings (some (EnvVars.parseArrayOfStrings c.config.env)) = _ ↔ _
    rw [ShowsEnv]
    cases c.config.env with
    | none => exact iff_of_true rfl (List.forall_mem_nil _)
    | some array => exact EnvVars.convert_parse_iff
  · show (prepareVolumes (loadFromContainerVolumes c.mounts)).Perm _ ↔ _
    rw [prepareVolumes_load, ShowsBinds]
  · refine (and_iff_right ?_).trans (prepareLogDriver_perm_iff hc.logOptions)
    exact prepareLogDriver_type _ _

theorem showable_of_keeps (hsplit : ShellWords.ShellLike splitargs) (hc : Reported c) (h : Keeps splitargs c) :
    Showable c := by
  obtain ⟨config, hconfig, hsame⟩ := h
  have hfields := byField hsplit hc hconfig
  exact
    { ports := exists_prepared_iff.mp ⟨config, hconfig⟩
      cmd := hfields.cmd.mp hsame.cmd
      env := hfields.env.mp hsame.env
      labels := hfields.labels.mp hsame.labels
      binds := hfields.binds.mp hsame.binds
      devices := hfields.devices.mp hsame.devices
      dns := hfields.dns.mp hsame.dns
      extraHosts := hfields.extraHosts.mp hsame.extraHosts
      sysctls := hfields.sysctls.mp hsame.sysctls
      capabilities := hfields.capabilities.mp ⟨hsame.capAdd, hsame.capDrop⟩
      logDriver := hfields.logDriver.mp ⟨hsame.logType, hsame.logOptions⟩ }

theorem keeps_of_showable (hsplit : ShellWords.ShellLike splitargs) (hc : Reported c) (h : Showable c) :
    Keeps splitargs c := by
  obtain ⟨config, hconfig⟩ := exists_prepared_iff.mpr h.ports
  have hfields := byField hsplit hc hconfig
  obtain ⟨hadd, hdrop⟩ := hfields.capabilities.mpr h.capabilities
  obtain ⟨htype, hoptions⟩ := hfields.logDriver.mpr h.logDriver
  exact ⟨config, hconfig,
    { cmd := hfields.cmd.mpr h.cmd
      env := hfields.env.mpr h.env
      labels := hfields.labels.mpr h.labels
      binds := hfields.binds.mpr h.binds
      devices := hfields.devices.mpr h.devices
      dns := hfields.dns.mpr h.dns
      extraHosts := hfields.extraHosts.mpr h.extraHosts
      sysctls := hfields.sysctls.mpr h.sysctls
      capAdd := hadd
      capDrop := hdrop
      logType := htype
      logOptions := hoptions }⟩

/-- **A container comes back** exactly if the form can show it; there is a
configuration exactly if the ports can be read, and then each field of it is
the same exactly if the form can show this field. -/
theorem keeps_iff (hsplit : ShellWords.ShellLike splitargs) (hc : Reported c) :
    (Keeps splitargs c ↔ Showable c) ∧
      ((∃ config, (loadFromContainerSpec c).bind (prepareConfiguration splitargs) = some config) ↔ ShowsPorts c) ∧
      ∀ config, (loadFromContainerSpec c).bind (prepareConfiguration splitargs) = some config → ByField c config :=
  ⟨⟨showable_of_keeps hsplit hc, keeps_of_showable hsplit hc⟩, exists_prepared_iff, fun _ => byField hsplit hc⟩

/-! ## One container -/

/-- A container with a command, name servers and capabilities. -/
def plainContainer (cmd : Option (List Text)) (dns : Option (List String)) : Container :=
  { config :=
      { cmd := cmd
        env := some [['A', '=', 'x']]
        labels := some [("app", "web")]
        hostConfig :=
          { binds := some ["/data:/data:ro"]
            portBindings := []
            devices := some [⟨"/dev/tty0", "/dev/tty0", "rwm"⟩]
            dns := dns
            extraHosts := none
            sysctls := none
            capAdd := some ["NET_ADMIN"]
            capDrop := none
            logConfig := ⟨"json-file", some [("max-size", "10m")]⟩ } }
    mounts := [⟨"", "/data", "/data", false⟩] }

theorem reported_plainContainer (cmd : Option (List Text)) (dns : Option (List String)) :
    Reported (plainContainer cmd dns) :=
  ⟨List.nodup_singleton _, List.nodup_nil, List.nodup_singleton _⟩

/-- A command with a blank in an argument, two ports, and all capabilities of
the form. -/
def withCommand : Container where
  config :=
    { (plainContainer (some [['e', 'c', 'h', 'o'], ['a', ' ', 'b']]) (some ["10.0.0.1"])).config with
      hostConfig.portBindings := Ports.twoPorts
      hostConfig.capAdd := some ((capabilityList.filter (·.allowed)).map ContainerCapability.capability)
      hostConfig.capDrop := some ((capabilityList.filter (!·.allowed)).map ContainerCapability.capability) }
  mounts := [⟨"", "/data", "/data", false⟩]

theorem showsPorts_withCommand : ShowsPorts withCommand :=
  showsPorts_of_comesBack (Ports.comesBack_of_showable Ports.reportedMap_twoPorts Ports.showable_twoPorts
    fun e he => .of_eq (Ports.relabelled_twoPorts e he))

theorem showsCapabilities_withCommand : ShowsCapabilities withCommand := by
  intro cap hcap
  cases hallowed : cap.allowed with
  | true =>
    exact List.mem_append_left _ (List.mem_map_of_mem (List.mem_filter.mpr ⟨hcap, hallowed⟩))
  | false =>
    have hdropped : (!cap.allowed) = true := by rw [hallowed]; rfl
    exact List.mem_append_right _ (List.mem_map_of_mem (List.mem_filter.mpr ⟨hcap, hdropped⟩))

/-- It is kept. -/
theorem keeps_iff_withCommand : Keeps ShellWords.split withCommand := by
  have hreported : Reported withCommand := ⟨List.nodup_singleton _, List.nodup_nil, List.nodup_singleton _⟩
  refine (keeps_iff ShellWords.shellLike_split hreported).1.mpr
    { ports := showsPorts_withCommand
      cmd := ?_
      env := ?_
      labels := ?_
      binds := .of_eq rfl
      devices := ?_
      dns := ⟨?_, ?_⟩
      extraHosts := ?_
      sysctls := ?_
      capabilities := showsCapabilities_withCommand
      logDriver := ?_ }
  · unfold ShowsCmd
    decide
  · intro s hs
    obtain rfl : s = ['A', '=', 'x'] := List.mem_singleton.mp hs
    refine ⟨List.cons_ne_nil _ _, fun _ value hvalue => ?_⟩
    obtain rfl : ['x'] = value := Option.some.inj hvalue
    have hkey : EnvVars.isKey ['A'] := by decide
    have hvalue' : EnvVars.isValue ['x'] := by decide
    exact ⟨hkey, hvalue', fun c hc => Option.some.inj hc ▸ by decide⟩
  · unfold ShowsLabels
    decide
  · unfold ShowsDevices
    decide
  · decide
  · decide
  · unfold ShowsExtraHosts
    decide
  · unfold ShowsSysctls
    decide
  · unfold ShowsLogDriver
    decide

/-- **A third name server is lost.** -/
theorem loses_third_server : ¬ ∀ splitargs, ShellWords.ShellLike splitargs → ∀ c, Reported c → Keeps splitargs c := by
  intro h
  have hkeeps := h ShellWords.split ShellWords.shellLike_split _
    (reported_plainContainer none (some ["10.0.0.1", "10.0.0.2", "10.0.0.3"]))
  obtain ⟨hle, -⟩ := (showable_of_keeps ShellWords.shellLike_split (reported_plainContainer _ _) hkeeps).dns
  have hlength : 3 ≤ 2 := hle
  omega

end Creation

end Portainer
