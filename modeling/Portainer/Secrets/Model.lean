import Mathlib.Data.List.Infix
import Mathlib.Data.String.Basic
import Portainer.Common.Base64
/-!
# Kubernetes secrets — the converter

The user interface edits a secret as a list of entries, which are texts or
binary data in base64. A payload has texts and data apart, so the keys of
the binary entries are joined in an annotation, from which the converter
reads them back.
-/

namespace Portainer

open Std

namespace Secrets

/-- A JavaScript object with texts for its properties. -/
abbrev Object := ExtTreeMap String String

/-- An assignment to a property. One of a text to `__proto__` is without
effect. -/
def assign (o : Object) (key value : String) : Object :=
  if key = "__proto__" then o else o.insert key value

/-! ## Models -/

/-- `KubernetesConfigurationFormValuesEntry`. -/
structure Entry where
  key : String
  value : String
  isBinary : Bool := false
  deriving DecidableEq, Repr

/-- `KubernetesApplicationSecret`. A label that is missing is undefined. -/
structure Secret where
  id : String := ""
  name : String
  namespaceName : String
  creationDate : String := ""
  configurationOwner : Option String := none
  isRegistrySecret : Bool := false
  yaml : String := ""
  data : List Entry

/-- `KubernetesCommonMetadataPayload`. -/
structure Metadata where
  uid : String := ""
  name : String
  namespaceName : String
  labels : Object := ∅
  annotations : Object := ∅

/-- `KubernetesSecretCreatePayload` and `KubernetesSecretUpdatePayload`. -/
structure Payload where
  metadata : Metadata
  type : String := "Opaque"
  data : Object := ∅
  stringData : Object := ∅

/-- `KubernetesPortainerConfigurationOwnerLabel`. -/
def ownerLabel : String := "io.portainer.kubernetes.configuration.owner"

/-- `KubernetesPortainerConfigurationDataAnnotation`. -/
def dataAnnotationKey : String := "io.portainer.kubernetes.configuration.data"

/-! ## Payloads -/

/-- The names in the annotation with another key. -/
def addKey (names key : String) : String :=
  if names ≠ "" then names ++ ("|" ++ key) else names ++ key

/-- The loop over the entries: a binary one goes to the data and into the
annotation, a text to the string data. -/
def addEntry (res : Payload × String) (entry : Entry) : Payload × String :=
  if entry.isBinary then
    ({ res.1 with data := assign res.1.data entry.key entry.value }, addKey res.2 entry.key)
  else ({ res.1 with stringData := assign res.1.stringData entry.key entry.value }, res.2)

/-- The payload of a secret, with the label of its owner. A label that is
undefined is not sent. -/
def payload (secret : Secret) (configurationOwner : Option String) : Payload :=
  let start : Payload := {
    metadata := {
      name := secret.name
      namespaceName := secret.namespaceName
      labels := configurationOwner.elim ∅ (assign ∅ ownerLabel) } }
  let (res, names) := secret.data.foldl addEntry (start, "")
  if names ≠ "" then
    { res with metadata := { res.metadata with
        annotations := assign res.metadata.annotations dataAnnotationKey names } }
  else res

/-- `_.truncate`, without an omission. -/
def truncate (text : String) (length : ℕ) : String := String.ofList (text.toList.take length)

def createPayload (secret : Secret) : Payload :=
  payload secret (some (truncate (secret.configurationOwner.getD "") 63))

def updatePayload (secret : Secret) : Payload := payload secret secret.configurationOwner

/-! ## The API server -/

/-- A secret as the API server returns it. -/
structure Resource where
  uid : String
  name : String
  namespaceName : String
  labels : Option Object
  annotations : Option Object
  creationTimestamp : String
  data : Object

/-- The UTF-8 encoding. -/
def utf8 (text : String) : List UInt8 := text.toList.flatMap String.utf8EncodeChar

/-- **What the API server stores**: the data, with the base64 of each text of
the string data, and the labels and annotations. -/
def stored (p : Payload) (uid creationTimestamp : String) : Resource where
  uid := uid
  name := p.metadata.name
  namespaceName := p.metadata.namespaceName
  labels := some p.metadata.labels
  annotations := some p.metadata.annotations
  creationTimestamp := creationTimestamp
  data := p.data ∪ p.stringData.map fun _ text => String.ofList (Base64.encode (utf8 text))

/-! ## Reading back -/

/-- `_.includes`, of a text that may be undefined: whether the other text
occurs in it. -/
def includes (text : Option String) (part : String) : Bool :=
  text.any fun text => part.toList <:+: text.toList

/-- `atob`: each byte is a character. `none` is its exception. -/
def atob (data : String) : Option String :=
  (Base64.decode data.toList).map fun bytes => String.ofList (bytes.map fun b => Char.ofNat b.toNat)

/-- The annotation in which the binary keys are looked for. -/
def annotationOf (resource : Resource) : Option String :=
  match resource.annotations with
  | some annotations => annotations[dataAnnotationKey]?
  | none => some ""

/-- The entry of a property of the data. -/
def toEntry (names : Option String) (key value : String) : Option Entry :=
  if includes names key then some ⟨key, value, true⟩
  else (atob value).map fun text => ⟨key, text, false⟩

/-- `apiToSecret`; `none` is an exception. -/
def apiToSecret (resource : Resource) (yaml : Option String) : Option Secret := do
  let data ← resource.data.toList.mapM fun p => toEntry (annotationOf resource) p.1 p.2
  return {
    id := resource.uid
    name := resource.name
    namespaceName := resource.namespaceName
    creationDate := resource.creationTimestamp
    configurationOwner := match resource.labels with
      | some labels => labels[ownerLabel]?
      | none => some ""
    isRegistrySecret := resource.annotations.any fun annotations =>
      annotations["portainer.io/registry.id"]?.any (· ≠ "")
    yaml := yaml.getD ""
    data := data }

end Secrets

end Portainer
