import Portainer.Common.Quantity
import Portainer.Common.Traverse
/-!
# Applications — volume claims

`converters/persistentVolumeClaim`, and the folders of `converters/application`
and `helpers/application`. The persisted folders of an application are loaded
into its form, each with the first claim whose name begins with the name of
the folder's claim, and converted back. `roundTrips_iff_survive` says which
folders survive; `rewrites_gibibytes` is one that does not.

The draws of `uuidv4` are numbered.
-/

namespace Portainer

namespace VolumeClaims

abbrev Text := List Char

structure StorageClass where
  name : Text

/-- A claim as the API server reports it. Its quantity has a text and a value,
which is capped. -/
structure Claim where
  uid : Text := []
  name : Text
  namespaceName : Text := []
  creationTimestamp : Text := []
  labels : Option (List (Text × Text)) := none
  storage : Amount
  storageClassName : Option Text := none
  storage_le : storage.value ≤ 2 ^ 63 - 1

structure KubernetesPersistentVolumeClaim where
  id : Text := []
  name : Text
  previousName : Text := []
  namespaceName : Text := []
  storage : Text := ['0']
  storageClass : Option StorageClass := none
  creationDate : Text := []
  applicationOwner : Option Text := some []
  applicationName : Option Text := some []
  mountPath : Text := []
  yaml : Text := []

structure KubernetesApplicationPersistedFolder where
  mountPath : Text := []
  persistentVolumeClaimName : Text := []
  hostPath : Text := []

structure KubernetesApplicationPersistedFolderFormValue where
  persistentVolumeClaimName : Text := []
  needsDeletion : Bool := false
  containerPath : Text := []
  size : JsNumber
  sizeUnit : Text := ['G', 'B']
  storageClass : Option StorageClass
  existingVolume : Option KubernetesPersistentVolumeClaim := none

structure KubernetesApplicationFormValues where
  name : Text
  applicationOwner : Text := []
  resourcePool : Text := []
  persistedFolders : List KubernetesApplicationPersistedFolderFormValue

inductive VolumeSource where
  | persistentVolumeClaim (claimName : Text)
  | hostPath (path : Text)
  | other
deriving DecidableEq

structure Volume where
  name : Text
  source : VolumeSource

structure VolumeMount where
  name : Text
  mountPath : Text

/-- A workload as the API server returns it. The templates are given by their
names, and the containers by what they mount. -/
structure Workload where
  name : Text
  volumes : List Volume := []
  volumeClaimTemplates : List Text := []
  containers : List (List VolumeMount) := []

/-! ## The code -/

def portainerApplicationOwnerLabel : Text := "io.portainer.kubernetes.application.owner".toList

def portainerApplicationNameLabel : Text := "io.portainer.kubernetes.application.name".toList

/-- `labels ? labels[key] : ''` -/
def label (labels : Option (List (Text × Text))) (key : Text) : Option Text :=
  labels.elim (some []) fun labels => labels.lookup key

def apiToPersistentVolumeClaim (storageClasses : List StorageClass) (yaml : Option Text) (data : Claim) :
    KubernetesPersistentVolumeClaim where
  id := data.uid
  name := data.name
  namespaceName := data.namespaceName
  creationDate := data.creationTimestamp
  storage := data.storage.text ++ ['B']
  storageClass := storageClasses.find? fun item => some item.name = data.storageClassName
  yaml := yaml.getD []
  applicationOwner := label data.labels portainerApplicationOwnerLabel
  applicationName := label data.labels portainerApplicationNameLabel

/-- `res.Volumes` of `applicationCommon`: the templates of a stateful set are
added as if they were volumes. -/
def Workload.allVolumes (data : Workload) : List Volume :=
  data.volumes ++ (data.volumeClaimTemplates.map fun vc => ⟨vc, .persistentVolumeClaim vc⟩).filter fun vc =>
    !data.volumes.any fun volume => volume.source = vc.source

def persistedFolder (volumeMounts : List VolumeMount) (volume : Volume) :
    Option KubernetesApplicationPersistedFolder :=
  match volume.source with
  | .other => none
  | .persistentVolumeClaim claimName => (volumeMounts.find? fun mount => mount.name = volume.name).map fun mount =>
    { mountPath := mount.mountPath, persistentVolumeClaimName := claimName }
  | .hostPath path => (volumeMounts.find? fun mount => mount.name = volume.name).map fun mount =>
    { mountPath := mount.mountPath, hostPath := path }

/-- `res.PersistedFolders` of `applicationCommon`. -/
def Workload.persistedFolders (data : Workload) : List KubernetesApplicationPersistedFolder :=
  data.allVolumes.filterMap (persistedFolder data.containers.flatten)

/-- `_.startsWith(item.Name, folder.PersistentVolumeClaimName)` -/
def StartsWith (claimName name : Text) : Prop := claimName <+: name

instance (claimName name : Text) : Decidable (StartsWith claimName name) :=
  inferInstanceAs (Decidable (claimName <+: name))

def formValue (folder : KubernetesApplicationPersistedFolder) (pvc : KubernetesPersistentVolumeClaim) :
    KubernetesApplicationPersistedFolderFormValue where
  storageClass := pvc.storageClass
  persistentVolumeClaimName := folder.persistentVolumeClaimName
  size := .ofInt (parseInt pvc.storage)
  sizeUnit := pvc.storage.drop (pvc.storage.length - 2)
  containerPath := folder.mountPath

/-- Nothing where a folder has no claim, which is an exception. -/
def generatePersistedFoldersFormValuesFromPersistedFolders
    (persistedFolders : List KubernetesApplicationPersistedFolder)
    (persistentVolumeClaims : List KubernetesPersistentVolumeClaim) :
    Option (List KubernetesApplicationPersistedFolderFormValue) :=
  persistedFolders.mapM fun folder =>
    (persistentVolumeClaims.find? fun item => StartsWith folder.persistentVolumeClaimName item.name).map
      (formValue folder)

/-- What is made of one folder of the form. -/
def volumeClaim (formValues : KubernetesApplicationFormValues) (uuid : Text)
    (item : KubernetesApplicationPersistedFolderFormValue) : KubernetesPersistentVolumeClaim :=
  let pvc : KubernetesPersistentVolumeClaim :=
    match item.existingVolume with
    | some existantPVC =>
      { name := existantPVC.name
        previousName := item.persistentVolumeClaimName
        storageClass := existantPVC.storageClass
        storage := existantPVC.storage.take 1
        creationDate := existantPVC.creationDate
        id := existantPVC.id }
    | none =>
      { name := if item.persistentVolumeClaimName ≠ [] then item.persistentVolumeClaimName
          else formValues.name ++ ['-'] ++ uuid
        previousName := item.persistentVolumeClaimName
        storage := item.size.text ++ item.sizeUnit.take 1
        storageClass := item.storageClass }
  { pvc with
    mountPath := item.containerPath
    namespaceName := formValues.resourcePool
    applicationOwner := some formValues.applicationOwner
    applicationName := some formValues.name }

def applicationFormValuesToVolumeClaims (uuidv4 : ℕ → Text) (formValues : KubernetesApplicationFormValues) :
    List KubernetesPersistentVolumeClaim :=
  (formValues.persistedFolders.filter fun item => !item.needsDeletion).mapIdx fun i item =>
    volumeClaim formValues (uuidv4 i) item

/-- `KubernetesPersistentVolumClaimCreatePayload` -/
structure Payload where
  name : Text
  namespaceName : Text
  storage : Text
  storageClassName : Text
  labels : List (Text × Option Text)

def createPayload (pvc : KubernetesPersistentVolumeClaim) : Payload where
  name := pvc.name
  namespaceName := pvc.namespaceName
  storage := pvc.storage
  storageClassName := pvc.storageClass.elim [] StorageClass.name
  labels := [("app".toList, pvc.applicationName), (portainerApplicationOwnerLabel, pvc.applicationOwner),
    (portainerApplicationNameLabel, pvc.applicationName)]

/-! ## The property -/

/-- **The claim that a folder is mounted from**: the one that is named by a
volume, or one that a stateful set made from its template. -/
def Workload.Backs (data : Workload) (claimName : Text) (c : Claim) : Prop :=
  if .persistentVolumeClaim claimName ∈ data.volumes.map Volume.source then c.name = claimName
  else ∃ ordinal : ℕ, c.name = claimName ++ ['-'] ++ data.name ++ ['-'] ++ Nat.toDigits 10 ordinal

/-- **An application with its claims**: each folder that is not on a host
path has a claim of the namespace behind it, and may be switched to another
volume of the namespace. -/
structure Application where
  data : Workload
  applicationOwner : Text := []
  resourcePool : Text := []
  storageClasses : List StorageClass
  claims : List Claim
  /-- The volume a folder is switched to, by the place of the folder. -/
  existing : ℕ → Option Claim
  backed : ∀ folder ∈ data.persistedFolders, folder.persistentVolumeClaimName ≠ [] →
    ∃ c ∈ claims, data.Backs folder.persistentVolumeClaimName c
  existing_mem : ∀ i, ∀ c ∈ existing i, c ∈ claims

/-- The same claim again, under the name and for the folder. -/
structure Claim.Same (c : Claim) (name mountPath : Text) (pvc : KubernetesPersistentVolumeClaim) : Prop where
  name : (createPayload pvc).name = name
  storageClass : (createPayload pvc).storageClassName = c.storageClassName.getD []
  mountPath : pvc.mountPath = mountPath
  storage : Amount.Denotes (createPayload pvc).storage c.storage.value

namespace Application

variable (app : Application)

def persistentVolumeClaims : List KubernetesPersistentVolumeClaim :=
  app.claims.map (apiToPersistentVolumeClaim app.storageClasses none)

/-- The form, as it is loaded. -/
def load : Option (List KubernetesApplicationPersistedFolderFormValue) :=
  generatePersistedFoldersFormValuesFromPersistedFolders app.data.persistedFolders app.persistentVolumeClaims

/-- A folder is switched to an existing volume. -/
def switch (i : ℕ) (item : KubernetesApplicationPersistedFolderFormValue) :
    KubernetesApplicationPersistedFolderFormValue :=
  { item with existingVolume := (app.existing i).map (apiToPersistentVolumeClaim app.storageClasses none) }

/-- **What a folder is converted to** is the claim it is mounted from, or the
one it was switched to. -/
def Right (i : ℕ) (folder : KubernetesApplicationPersistedFolder) (pvc : KubernetesPersistentVolumeClaim) : Prop :=
  match app.existing i with
  | some c => c.Same c.name folder.mountPath pvc
  | none => folder.persistentVolumeClaimName ≠ [] ∧
    ∃ c ∈ app.claims, app.data.Backs folder.persistentVolumeClaimName c ∧
      c.Same folder.persistentVolumeClaimName folder.mountPath pvc

/-- The claims that the form is converted back to. -/
def convertedBack (uuidv4 : ℕ → Text) (loaded : List KubernetesApplicationPersistedFolderFormValue) :
    List KubernetesPersistentVolumeClaim :=
  applicationFormValuesToVolumeClaims uuidv4
    ⟨app.data.name, app.applicationOwner, app.resourcePool, loaded.mapIdx app.switch⟩

/-- **The claims make the round trip**: the form is loaded, and converted
back folder by folder. -/
def RoundTrips (uuidv4 : ℕ → Text) : Prop :=
  ∃ loaded, app.load = some loaded ∧ (app.convertedBack uuidv4 loaded).length = app.data.persistedFolders.length ∧
    ∀ i folder, app.data.persistedFolders[i]? = some folder →
      ∃ pvc, (app.convertedBack uuidv4 loaded)[i]? = some pvc ∧ app.Right i folder pvc

/-- The name of the claim's class, where it is one of the listed. -/
def className (c : Claim) : Text :=
  (app.storageClasses.find? fun item => some item.name = c.storageClassName).elim [] StorageClass.name

/-- The first claim whose name begins with that of the folder's claim. -/
def firstClaim (folder : KubernetesApplicationPersistedFolder) : Option Claim :=
  app.claims.find? fun item => StartsWith folder.persistentVolumeClaimName item.name

end Application

/-- A whole number, as JavaScript reads it and writes it again, as long as it
is written in digits alone. -/
def reread (n : ℕ) : Option ℕ :=
  (Float64.nearest n).bind fun x =>
    if ⌊|Float64.written x|⌋₊ < 10 ^ 21 then some ⌊|Float64.written x|⌋₊ else none

example : reread 9007199254740993 = some 9007199254740992 := by decide +kernel

/-- The value of the whole digits of a quantity, read and written again, and
its last character. -/
def rewritten (a : Amount) : Option ℚ :=
  if a.quantity.whole = [] then none
  else (reread (digitsValue a.quantity.whole)).bind fun m =>
    a.text.getLast?.bind (Amount.valueOf (Nat.toDigits 10 m))

/-- **A folder that survives**: the first claim whose name begins with that of
its claim has the class of its claim, which is listed, and the whole digits,
read and written again, and the last character of its quantity are the
quantity of its claim. If the folder was switched, the first digit of the
quantity is all of it. -/
def Application.Survives (app : Application) (i : ℕ) (folder : KubernetesApplicationPersistedFolder) : Prop :=
  match app.existing i with
  | some c => app.className c = c.storageClassName.getD [] ∧
    c.storage.text.head?.bind (Amount.valueOf []) = some c.storage.value
  | none => folder.persistentVolumeClaimName ≠ [] ∧ ∃ first, app.firstClaim folder = some first ∧
    ∃ c ∈ app.claims, app.data.Backs folder.persistentVolumeClaimName c ∧
      app.className first = c.storageClassName.getD [] ∧ rewritten first.storage = some c.storage.value

/-! ## Quantities, cut and joined -/

variable {a : Amount} {v : ℚ}

theorem text_ne_nil (a : Amount) : a.text ≠ [] := by
  intro hnil
  rw [Amount.text, List.append_assoc, List.append_eq_nil_iff, List.append_eq_nil_iff] at hnil
  obtain ⟨-, hwhole, hrest⟩ := hnil
  exact Amount.exists_digits hwhole (by rw [(Amount.parts_of_rest_nil hrest).2.1]; rfl)

/-- The unit of the form begins with the last character of the quantity. -/
theorem take_sizeUnit {t : Text} (c : Char) :
    ((t ++ [c] ++ ['B']).drop ((t ++ [c] ++ ['B']).length - 2)).take 1 = [c] := by
  have hlength : (t ++ [c] ++ ['B']).length - 2 = t.length := by
    rw [List.length_append, List.length_append, List.length_singleton, List.length_singleton]
    omega
  rw [hlength, List.append_assoc, List.drop_left]
  rfl

/-- What no quantity begins with. -/
theorem not_denotes_cons {c : Char} {t : Text} (hc : ¬ (c = '+' ∨ c = '.' ∨ c.isDigit = true)) :
    ¬ Amount.Denotes (c :: t) v := by
  rintro ⟨a, htext, -⟩
  exact hc (a.head_text c (by rw [htext]; rfl))

/-- A number that is read, and written before one more character. -/
theorem denotes_ofRat_iff (n : ℕ) (c : Char) (hv : v ≤ 2 ^ 63 - 1) :
    Amount.Denotes ((JsNumber.ofRat n).text ++ [c]) v ↔
      (reread n).bind (fun m => Amount.valueOf (Nat.toDigits 10 m) c) = some v := by
  rw [JsNumber.ofRat, reread]
  cases hx : Float64.nearest n with
  | none =>
    have hpos : ¬ (n : ℚ) < 0 := not_lt.mpr n.cast_nonneg
    have htext : (JsNumber.infinite (decide ((n : ℚ) < 0))).text = "Infinity".toList := by
      rw [decide_eq_false hpos]
      rfl
    exact iff_of_false (by rw [Option.elim_none, htext]; exact not_denotes_cons (by decide))
      (Option.some_ne_none v).symm
  | some x =>
    have hpos : ¬ x < 0 := not_lt.mpr (Float64.nearest_nonneg n.cast_nonneg hx)
    rw [Option.elim_some, JsNumber.text, if_neg hpos, List.nil_append, wholeText, Option.bind_some]
    by_cases hsmall : ⌊|Float64.written x|⌋₊ < 10 ^ 21
    · have hdigits : ∀ d ∈ Nat.toDigits 10 ⌊|Float64.written x|⌋₊, d.isDigit = true := fun d hd =>
        Nat.isDigit_of_mem_toDigits (by omega) (by omega) hd
      rw [if_pos hsmall, if_pos hsmall, Option.bind_some]
      exact Amount.denotes_iff hdigits
    · rw [if_neg hsmall, if_neg hsmall]
      refine iff_of_false ?_ (Option.some_ne_none v).symm
      rintro ⟨a, htext, rfl⟩
      have hlarge := Amount.pow_le_value_of_scientific (not_lt.mp hsmall) htext
      norm_num at hv hlarge
      linarith

/-- What the form makes of a quantity. -/
theorem denotes_rewritten_iff (a : Amount) (hv : v ≤ 2 ^ 63 - 1) :
    Amount.Denotes ((JsNumber.ofInt (parseInt (a.text ++ ['B']))).text ++
      (((a.text ++ ['B']).drop ((a.text ++ ['B']).length - 2)).take 1)) v ↔ rewritten a = some v := by
  have hrest : Ends (a.rest ++ ['B']) := by
    intro c hc
    cases hrest : a.rest with
    | nil =>
      rw [hrest] at hc
      obtain rfl : 'B' = c := Option.some.inj hc
      decide
    | cons d rest =>
      rw [hrest] at hc
      exact a.ends_rest c (by rw [hrest]; exact hc)
  have hparse : parseInt (a.text ++ ['B']) =
      (if a.quantity.whole = [] then none else some (digitsValue a.quantity.whole : ℤ) : Option ℤ) := by
    have htext : a.text ++ ['B'] =
        (if a.quantity.plus then ['+'] else []) ++ a.quantity.whole ++ (a.rest ++ ['B']) := by
      rw [Amount.text, List.append_assoc]
    rw [htext]
    exact parseInt_digits a.quantity.isDigit_whole hrest
  obtain ⟨init, c, htext⟩ := (List.eq_nil_or_concat a.text).resolve_left (text_ne_nil a)
  have hlast : a.text.getLast? = some c := by rw [htext, List.concat_eq_append, List.getLast?_concat]
  have hunit : ((a.text ++ ['B']).drop ((a.text ++ ['B']).length - 2)).take 1 = [c] := by
    rw [htext, List.concat_eq_append]
    exact take_sizeUnit c
  rw [hunit, hparse, rewritten, hlast]
  by_cases hwhole : a.quantity.whole = []
  · rw [if_pos hwhole, if_pos hwhole]
    exact iff_of_false (not_denotes_cons (by decide)) (Option.some_ne_none v).symm
  · rw [if_neg hwhole, if_neg hwhole, JsNumber.ofInt, Option.elim_some, Int.cast_natCast]
    exact denotes_ofRat_iff _ c hv

/-- What is left of the quantity of an existing volume. -/
theorem denotes_first_iff (a : Amount) :
    Amount.Denotes ((a.text ++ ['B']).take 1) v ↔ a.text.head?.bind (Amount.valueOf []) = some v := by
  cases htext : a.text with
  | nil => exact absurd htext (text_ne_nil a)
  | cons c text =>
    show Amount.Denotes ([] ++ [c]) v ↔ Amount.valueOf [] c = some v
    exact Amount.denotes_iff (List.forall_mem_nil _)

/-! ## One folder -/

namespace Application

variable {app : Application} {uuid : Text} {i : ℕ} {folder : KubernetesApplicationPersistedFolder} {first c : Claim}

/-- The item of the form that a folder is loaded into, from a claim. -/
def item (app : Application) (i : ℕ) (folder : KubernetesApplicationPersistedFolder) (first : Claim) :
    KubernetesApplicationPersistedFolderFormValue :=
  app.switch i (formValue folder (apiToPersistentVolumeClaim app.storageClasses none first))

theorem storageClassName_createPayload {pvc : KubernetesPersistentVolumeClaim}
    (h : pvc.storageClass = (apiToPersistentVolumeClaim app.storageClasses none c).storageClass) :
    (createPayload pvc).storageClassName = app.className c := by
  rw [createPayload, h]
  rfl

/-- A folder that was switched. -/
theorem same_of_existing (formValues : KubernetesApplicationFormValues) (h : app.existing i = some c) :
    c.Same c.name folder.mountPath (volumeClaim formValues uuid (app.item i folder first)) ↔
      app.className c = c.storageClassName.getD [] ∧
        c.storage.text.head?.bind (Amount.valueOf []) = some c.storage.value := by
  have hitem : (app.item i folder first).existingVolume =
      some (apiToPersistentVolumeClaim app.storageClasses none c) := by
    show (app.existing i).map _ = _
    rw [h]
    rfl
  have hclaim : volumeClaim formValues uuid (app.item i folder first) =
      { name := c.name
        previousName := folder.persistentVolumeClaimName
        storageClass := (apiToPersistentVolumeClaim app.storageClasses none c).storageClass
        storage := (c.storage.text ++ ['B']).take 1
        creationDate := c.creationTimestamp
        id := c.uid
        mountPath := folder.mountPath
        namespaceName := formValues.resourcePool
        applicationOwner := some formValues.applicationOwner
        applicationName := some formValues.name } := by
    rw [volumeClaim, hitem]
    rfl
  have hclass : (createPayload (volumeClaim formValues uuid (app.item i folder first))).storageClassName =
      app.className c := storageClassName_createPayload (by rw [hclaim])
  constructor
  · intro hsame
    refine ⟨by rw [← hclass]; exact hsame.storageClass, ?_⟩
    have hstorage := hsame.storage
    rw [hclaim] at hstorage
    exact (denotes_first_iff c.storage).mp hstorage
  · rintro ⟨hname, hvalue⟩
    refine ⟨by rw [hclaim]; rfl, by rw [hclass, hname], by rw [hclaim], ?_⟩
    rw [hclaim]
    exact (denotes_first_iff c.storage).mpr hvalue

/-- A folder that keeps its claim. -/
theorem same_of_none (formValues : KubernetesApplicationFormValues) (h : app.existing i = none)
    (hname : folder.persistentVolumeClaimName ≠ []) :
    c.Same folder.persistentVolumeClaimName folder.mountPath (volumeClaim formValues uuid (app.item i folder first)) ↔
      app.className first = c.storageClassName.getD [] ∧ rewritten first.storage = some c.storage.value := by
  have hitem : (app.item i folder first).existingVolume = none := by
    show (app.existing i).map _ = _
    rw [h]
    rfl
  have hclaim : volumeClaim formValues uuid (app.item i folder first) =
      { name := folder.persistentVolumeClaimName
        previousName := folder.persistentVolumeClaimName
        storageClass := (apiToPersistentVolumeClaim app.storageClasses none first).storageClass
        storage := (JsNumber.ofInt (parseInt (first.storage.text ++ ['B']))).text ++
          ((first.storage.text ++ ['B']).drop ((first.storage.text ++ ['B']).length - 2)).take 1
        mountPath := folder.mountPath
        namespaceName := formValues.resourcePool
        applicationOwner := some formValues.applicationOwner
        applicationName := some formValues.name } := by
    have hpick : (if (app.item i folder first).persistentVolumeClaimName ≠ []
        then (app.item i folder first).persistentVolumeClaimName
        else formValues.name ++ ['-'] ++ uuid) = folder.persistentVolumeClaimName := if_pos hname
    rw [volumeClaim, hitem]
    simp only [hpick]
    rfl
  have hclass : (createPayload (volumeClaim formValues uuid (app.item i folder first))).storageClassName =
      app.className first := storageClassName_createPayload (by rw [hclaim])
  constructor
  · intro hsame
    refine ⟨by rw [← hclass]; exact hsame.storageClass, ?_⟩
    have hstorage := hsame.storage
    rw [hclaim] at hstorage
    exact (denotes_rewritten_iff first.storage c.storage_le).mp hstorage
  · rintro ⟨hlisted, hvalue⟩
    refine ⟨by rw [hclaim]; rfl, by rw [hclass, hlisted], by rw [hclaim], ?_⟩
    rw [hclaim]
    exact (denotes_rewritten_iff first.storage c.storage_le).mpr hvalue

/-- **One folder** is right if and only if it survives. -/
theorem right_iff (formValues : KubernetesApplicationFormValues) (hfirst : app.firstClaim folder = some first) :
    app.Right i folder (volumeClaim formValues uuid (app.item i folder first)) ↔ app.Survives i folder := by
  rw [Right, Survives]
  cases hexisting : app.existing i with
  | some c => exact same_of_existing formValues hexisting
  | none =>
    constructor
    · rintro ⟨hname, c, hc, hbacks, hsame⟩
      exact ⟨hname, first, hfirst, c, hc, hbacks, (same_of_none formValues hexisting hname).mp hsame⟩
    · rintro ⟨hname, p, hp, c, hc, hbacks, hsurvives⟩
      obtain rfl : first = p := Option.some.inj (hfirst.symm.trans hp)
      exact ⟨hname, c, hc, hbacks, (same_of_none formValues hexisting hname).mpr hsurvives⟩

/-! ## All folders -/

/-- The item that a folder is loaded into, if there is a claim. -/
def entry (app : Application) (folder : KubernetesApplicationPersistedFolder) :
    Option KubernetesApplicationPersistedFolderFormValue :=
  (app.persistentVolumeClaims.find? fun item => StartsWith folder.persistentVolumeClaimName item.name).map
    (formValue folder)

theorem entry_eq (app : Application) (folder : KubernetesApplicationPersistedFolder) :
    app.entry folder = (app.firstClaim folder).map fun first =>
      formValue folder (apiToPersistentVolumeClaim app.storageClasses none first) := by
  rw [entry, persistentVolumeClaims, List.find?_map, Option.map_map]
  rfl

/-- A folder is loaded if it is switched or survives: some claim begins with
the name of its own. -/
theorem isSome_firstClaim (hfolder : folder ∈ app.data.persistedFolders) (h : app.Survives i folder) :
    (app.firstClaim folder).isSome := by
  rw [Survives] at h
  cases hexisting : app.existing i with
  | none =>
    rw [hexisting] at h
    obtain ⟨-, first, hfirst, -⟩ := h
    rw [hfirst]
    rfl
  | some c =>
    rw [firstClaim, List.find?_isSome]
    by_cases hname : folder.persistentVolumeClaimName = []
    · exact ⟨c, app.existing_mem i c hexisting, by simp [StartsWith, hname]⟩
    · obtain ⟨c, hc, hbacks⟩ := app.backed folder hfolder hname
      refine ⟨c, hc, decide_eq_true ?_⟩
      rw [Workload.Backs] at hbacks
      split at hbacks
      · rw [hbacks]
        exact List.prefix_refl _
      · obtain ⟨ordinal, hordinal⟩ := hbacks
        rw [hordinal, List.append_assoc, List.append_assoc, List.append_assoc]
        exact List.prefix_append _ _

/-- What a loaded form is converted to. -/
theorem getElem?_convertedBack {uuidv4 : ℕ → Text} {loaded : List KubernetesApplicationPersistedFolderFormValue}
    (h : app.load = some loaded) :
    (app.convertedBack uuidv4 loaded).length = app.data.persistedFolders.length ∧
      ∀ i folder, app.data.persistedFolders[i]? = some folder → ∃ first, app.firstClaim folder = some first ∧
        ∃ formValues, (app.convertedBack uuidv4 loaded)[i]? =
          some (volumeClaim formValues (uuidv4 i) (app.item i folder first)) := by
  obtain ⟨hall, hloaded⟩ := (Traverse.mapM_eq_some_iff { size := .nan, storageClass := none }).mp h
  -- nothing that is loaded is to be deleted
  have hkept : ((loaded.mapIdx app.switch).filter fun item => !item.needsDeletion) = loaded.mapIdx app.switch := by
    refine List.filter_eq_self.mpr fun item hitem => ?_
    obtain ⟨i, hi, rfl⟩ := List.mem_mapIdx.mp hitem
    have hmem : loaded[i] ∈ loaded := List.getElem_mem hi
    obtain ⟨folder, hfolder, hresult⟩ := Traverse.exists_of_mem_mapM h hmem
    obtain ⟨pvc, -, hvalue⟩ := Option.map_eq_some_iff.mp hresult
    show (!loaded[i].needsDeletion) = true
    rw [← hvalue]
    rfl
  have hconverted : app.convertedBack uuidv4 loaded = (loaded.mapIdx app.switch).mapIdx fun i item => volumeClaim
      ⟨app.data.name, app.applicationOwner, app.resourcePool, loaded.mapIdx app.switch⟩ (uuidv4 i) item := by
    rw [convertedBack, applicationFormValuesToVolumeClaims, hkept]
  constructor
  · rw [hconverted, List.length_mapIdx, List.length_mapIdx, hloaded, List.length_map]
  · intro i folder hfolder
    have hmem : folder ∈ app.data.persistedFolders := List.mem_of_getElem? hfolder
    have hentry : (app.entry folder).isSome := hall folder hmem
    obtain ⟨first, hfirst⟩ : ∃ first, app.firstClaim folder = some first := by
      rw [entry_eq, Option.isSome_map] at hentry
      exact Option.isSome_iff_exists.mp hentry
    refine ⟨first, hfirst, ⟨app.data.name, app.applicationOwner, app.resourcePool, loaded.mapIdx app.switch⟩, ?_⟩
    have hvalue : loaded[i]? = some (formValue folder (apiToPersistentVolumeClaim app.storageClasses none first)) := by
      rw [hloaded, List.getElem?_map, hfolder, Option.map_some]
      show some ((app.entry folder).getD _) = _
      rw [entry_eq, hfirst]
      rfl
    rw [hconverted, List.getElem?_mapIdx, List.getElem?_mapIdx, hvalue]
    rfl

/-- **Volume claims make the round trip** if and only if every folder
survives. -/
theorem roundTrips_iff_survive (app : Application) (uuidv4 : ℕ → Text) :
    app.RoundTrips uuidv4 ↔
      ∀ i folder, app.data.persistedFolders[i]? = some folder → app.Survives i folder := by
  constructor
  · rintro ⟨loaded, hload, -, hright⟩ i folder hfolder
    obtain ⟨pvc, hpvc, hpvcRight⟩ := hright i folder hfolder
    obtain ⟨first, hfirst, formValues, hconverted⟩ := (getElem?_convertedBack hload).2 i folder hfolder
    rw [Option.some.inj (hpvc.symm.trans hconverted)] at hpvcRight
    exact (right_iff formValues hfirst).mp hpvcRight
  · intro hsurvives
    have hsome : app.load.isSome := by
      refine Traverse.isSome_mapM_iff.mpr fun folder hfolder => ?_
      obtain ⟨i, hi⟩ := List.mem_iff_getElem?.mp hfolder
      have hfirst := isSome_firstClaim hfolder (hsurvives i folder hi)
      show (app.entry folder).isSome
      rw [entry_eq, Option.isSome_map]
      exact hfirst
    obtain ⟨loaded, hload⟩ := Option.isSome_iff_exists.mp hsome
    obtain ⟨hlength, hconverted⟩ : _ ∧ _ := getElem?_convertedBack hload
    refine ⟨loaded, hload, hlength, fun i folder hfolder => ?_⟩
    obtain ⟨first, hfirst, formValues, hpvc⟩ := hconverted i folder hfolder
    exact ⟨_, hpvc, (right_iff formValues hfirst).mpr (hsurvives i folder hfolder)⟩

end Application

theorem isDigit_ten : ∀ c ∈ ['1', '0'], c.isDigit = true := List.all_eq_true.mp rfl

theorem isDigit_noFraction : ∀ c ∈ (none : Option (List Char)).getD [], c.isDigit = true := List.forall_mem_nil _

theorem ten_ne_nil (fraction : List Char) : ['1', '0'] ≠ [] ∨ fraction ≠ [] := .inl (List.cons_ne_nil _ _)

theorem noExponent (s : Suffix) : ∀ e ∈ (none : Option Exponent), s = .none :=
  fun e h => absurd h (Option.not_mem_none e)

/-- Ten gibibytes, as they are written. -/
def tenGibi : Amount where
  quantity :=
    { whole := ['1', '0']
      suffix := .gibi
      isDigit_whole := isDigit_ten
      isDigit_fraction := isDigit_noFraction
      ne_nil := ten_ne_nil _ }
  suffix_eq_none := noExponent _

theorem tenGibi_le : tenGibi.value ≤ 2 ^ 63 - 1 := by
  have hvalue : tenGibi.value = 10 * 2 ^ 30 := by
    rw [Amount.value_eq tenGibi rfl rfl]
    rfl
  rw [hvalue]
  norm_num

def dataClaim : Claim where
  name := ['d', 'a', 't', 'a']
  storage := tenGibi
  storageClassName := some ['l', 'o', 'c', 'a', 'l']
  storage_le := tenGibi_le

/-- A workload with one volume. -/
def web : Workload where
  name := ['w', 'e', 'b']
  volumes := [⟨['d'], .persistentVolumeClaim ['d', 'a', 't', 'a']⟩]
  containers := [[⟨['d'], ['/', 'd']⟩]]

theorem persistedFolders_web :
    web.persistedFolders = [{ mountPath := ['/', 'd'], persistentVolumeClaimName := ['d', 'a', 't', 'a'] }] := rfl

theorem backed_web : ∀ folder ∈ web.persistedFolders, folder.persistentVolumeClaimName ≠ [] →
    ∃ c ∈ [dataClaim], web.Backs folder.persistentVolumeClaimName c := by
  intro folder hfolder _
  rw [persistedFolders_web] at hfolder
  rw [List.mem_singleton.mp hfolder]
  exact ⟨dataClaim, List.mem_cons_self, rfl⟩

theorem existing_web (claims : List Claim) : ∀ i : ℕ, ∀ c ∈ (fun _ => none : ℕ → Option Claim) i, c ∈ claims :=
  fun _ c hc => absurd hc (Option.not_mem_none c)

/-- An application with one folder, on a claim of ten gibibytes. -/
def webApplication : Application where
  data := web
  storageClasses := [⟨['l', 'o', 'c', 'a', 'l']⟩]
  claims := [dataClaim]
  existing := fun _ => none
  backed := backed_web
  existing_mem := existing_web [dataClaim]

/-- **Ten gibibytes are converted back to `10i`**, which is no quantity. -/
theorem rewrites_gibibytes : ¬ webApplication.RoundTrips fun _ => [] := by
  rintro ⟨loaded, hload, -, hright⟩
  have hfolder : webApplication.data.persistedFolders[0]? =
      some { mountPath := ['/', 'd'], persistentVolumeClaimName := ['d', 'a', 't', 'a'] } := rfl
  obtain ⟨pvc, hpvc, hpvcRight⟩ := hright 0 _ hfolder
  obtain ⟨first, hfirst, formValues, hconverted⟩ := (Application.getElem?_convertedBack hload).2 0 _ hfolder
  obtain rfl : dataClaim = first := Option.some.inj hfirst
  rw [Option.some.inj (hpvc.symm.trans hconverted), Application.right_iff formValues hfirst] at hpvcRight
  obtain ⟨-, first, hagain, c, -, -, -, hvalue⟩ := hpvcRight
  obtain rfl : dataClaim = first := Option.some.inj hagain
  have hnone : rewritten tenGibi = none := by
    have hwhole : tenGibi.quantity.whole ≠ [] := List.cons_ne_nil _ _
    rw [rewritten, if_neg hwhole]
    cases reread (digitsValue tenGibi.quantity.whole) with
    | none => rfl
    | some m =>
      -- `i` is no suffix
      show Amount.valueOf (Nat.toDigits 10 m) 'i' = none
      rw [Amount.valueOf, if_neg (by decide), if_neg Nat.toDigits_ne_nil, if_neg (by decide)]
      rfl
  exact Option.some_ne_none _ (hvalue.symm.trans hnone)

end VolumeClaims

end Portainer
