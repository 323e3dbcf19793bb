import Mathlib.Data.Int.Notation
import Mathlib.Data.List.Basic
/-!
# Ingresses — the paths of an application

The form of an application shows a port of its service once for each path
of an ingress that leads there. Entries can be added and marked for
deletion; afterwards the ingresses are computed from those there were.
-/

namespace Portainer

namespace Ingresses

/-- A port is a number or a name. -/
inductive Port where
  | number (n : ℤ)
  | name (text : String)
  deriving DecidableEq, Repr

/-- `KubernetesIngressRule`, one path. What is missing is undefined. -/
structure Rule where
  ingressName : String := ""
  serviceName : Option String := some ""
  host : Option String := some ""
  ip : Option String := some ""
  port : Option Port := some (.name "")
  path : Option String := some ""
  deriving DecidableEq, Repr

/-- `KubernetesIngress`. -/
structure Ingress where
  name : String := ""
  namespaceName : String := ""
  annotations : List (String × String) := []
  hosts : List String := []
  paths : List Rule := []
  ingressClassName : Option String := some ""
  deriving DecidableEq, Repr

/-- `KubernetesApplicationPort`. -/
structure ApplicationPort where
  ingressRules : List Rule := []
  port : ℤ
  targetPort : Port
  nodePort : Option ℤ
  protocol : String
  deriving DecidableEq, Repr

/-- `KubernetesApplicationPublishedPortFormValue`. -/
structure PublishedPortFormValue where
  needsDeletion : Bool := false
  isNew : Bool := true
  containerPort : Option Port := some (.name "")
  nodePort : Option Port := some (.name "")
  loadBalancerPort : Option Port := some (.name "")
  loadBalancerNodePort : Option Port := none
  protocol : String := "TCP"
  ingressName : Option String := none
  ingressRoute : Option String := none
  ingressHost : Option String := none
  ingressHosts : Option (List String) := some []
  deriving DecidableEq, Repr

/-- A port of a container, as the API server returns it. -/
structure ContainerPort where
  name : Option String
  containerPort : ℤ

/-- A port of a service, as the API server returns it. -/
structure ServicePort where
  port : ℤ
  targetPort : Port
  nodePort : Option ℤ
  protocol : String

/-- `KubernetesServiceTypes`. -/
inductive ServiceType where
  | clusterIP | nodePort | loadBalancer | externalName
  deriving DecidableEq, Repr

/-! ## Loading an application -/

/-- The blanks that `Number` takes off a text. -/
def isBlank (c : Char) : Bool :=
  [0x9, 0xA, 0xB, 0xC, 0xD, 0x20, 0xA0, 0x1680, 0x2028, 0x2029, 0x202F, 0x205F, 0x3000, 0xFEFF].contains c.toNat ||
    (0x2000 ≤ c.toNat && c.toNat ≤ 0x200A)

/-- A text without its sign. -/
def unsigned : List Char → List Char
  | '+' :: text => text
  | '-' :: text => text
  | text => text

/-- The digits of a literal, of which there is one at least. -/
def areDigits (digits : String) (text : List Char) : Bool :=
  text ≠ [] && text.all fun c => c ∈ digits.toList

/-- The exponent of a literal, if there is one. -/
def isExponent : List Char → Bool
  | [] => true
  | e :: text => (e = 'e' || e = 'E') && areDigits "0123456789" (unsigned text)

/-- What follows the first digits of a literal. -/
def isFraction (whole : List Char) : List Char → Bool
  | '.' :: text =>
    (whole ≠ [] || text.takeWhile Char.isDigit ≠ []) && isExponent (text.dropWhile Char.isDigit)
  | text => whole ≠ [] && isExponent text

/-- The texts that `Number` reads. -/
def isNumeric : List Char → Bool
  | [] => true
  | '0' :: 'x' :: text | '0' :: 'X' :: text => areDigits "0123456789abcdefABCDEF" text
  | '0' :: 'o' :: text | '0' :: 'O' :: text => areDigits "01234567" text
  | '0' :: 'b' :: text | '0' :: 'B' :: text => areDigits "01" text
  | text =>
    unsigned text = "Infinity".toList ||
      isFraction ((unsigned text).takeWhile Char.isDigit) ((unsigned text).dropWhile Char.isDigit)

/-- `isNaN`. -/
def isNaN : Port → Bool
  | .number _ => false
  | .name text => !isNumeric ((text.toList.dropWhile isBlank).reverse.dropWhile isBlank).reverse

/-- A target port that is a name is that of the container's port. -/
def resolve (pRefs : List ContainerPort) (targetPort : Port) : Port :=
  match isNaN targetPort, pRefs.find? (fun ref => ref.name.map .name = some targetPort) with
  | true, some ref => .number ref.containerPort
  | _, _ => targetPort

/-- `_apiPortsToPublishedPorts`. -/
def apiPortsToPublishedPorts (pList : List ServicePort) (pRefs : List ContainerPort) :
    List ApplicationPort :=
  pList.map fun item => {
    port := item.port
    targetPort := resolve pRefs item.targetPort
    nodePort := item.nodePort
    protocol := item.protocol }

def findSBoundServiceIngressesRules (ingresses : List Ingress) (serviceName : String) : List Rule :=
  (ingresses.flatMap Ingress.paths).filter fun rule => rule.serviceName = some serviceName

/-- The part of `applicationCommon` about the published ports. -/
def publishedPorts (portsRefs : List ContainerPort) (ports : List ServicePort) (ingresses : List Ingress)
    (serviceName : String) : List ApplicationPort :=
  let rules := findSBoundServiceIngressesRules ingresses serviceName
  (apiPortsToPublishedPorts ports portsRefs).map fun port =>
    { port with ingressRules := rules.filter fun rule => rule.port = some (.number port.port) }

/-- The fields of an entry that come from its port. -/
def portFields (serviceType : ServiceType) (port : ApplicationPort) (res : PublishedPortFormValue) :
    PublishedPortFormValue :=
  let res := { res with protocol := port.protocol, containerPort := some port.targetPort }
  match serviceType with
  | .loadBalancer => { res with
      loadBalancerPort := some (.number port.port)
      loadBalancerNodePort := port.nodePort.map .number }
  | .nodePort => { res with nodePort := port.nodePort.map .number }
  | _ => res

/-- The hosts of an ingress, if the ingresses are given. `none` is the
exception when the ingress is not among them. -/
def hostsOf (ingressName : String) : Option (List Ingress) → Option (Option (List String))
  | none => some none
  | some ingress => (ingress.find? (·.name = ingressName)).map fun i => some i.hosts

/-- The entry of a port, and of a path if there is one. -/
def generatePort (serviceType : ServiceType) (ingress : Option (List Ingress)) (port : ApplicationPort) :
    Option Rule → Option PublishedPortFormValue
  | none => some (portFields serviceType port { isNew := false })
  | some rule => (hostsOf rule.ingressName ingress).map fun ingressHosts =>
    portFields serviceType port {
      isNew := false
      ingressName := some rule.ingressName
      ingressRoute := rule.path
      ingressHost := rule.host
      ingressHosts := ingressHosts }

/-- The entries of a port: one for each path, or a single one. -/
def generatePorts (serviceType : ServiceType) (ingress : Option (List Ingress)) (port : ApplicationPort) :
    Option (List PublishedPortFormValue) :=
  if port.ingressRules ≠ [] then
    port.ingressRules.mapM fun rule => generatePort serviceType ingress port (some rule)
  else (generatePort serviceType ingress port none).map ([·])

def generatePublishedPortsFormValuesFromPublishedPorts (serviceType : ServiceType)
    (publishedPorts : List ApplicationPort) (ingress : Option (List Ingress)) :
    Option (List PublishedPortFormValue) :=
  (publishedPorts.mapM (generatePorts serviceType ingress)).map List.flatten

/-! ## Editing -/

/-- A step of the form of an application that exists, or the loop of
`deleteAsync`. Only the fields of new entries can be filled in. -/
inductive Edit where
  | addPublishedPort
  | removePublishedPort (index : ℕ)
  | restorePublishedPort (index : ℕ)
  | fill (index : ℕ) (values : PublishedPortFormValue)
  | deleteAsync

/-- The entry that is added, for the first ingress. -/
def addedPort (filteredIngresses : List Ingress) (ports : List PublishedPortFormValue) :
    PublishedPortFormValue where
  ingressName := filteredIngresses.head?.map Ingress.name
  ingressHost := filteredIngresses.head?.bind fun i => i.hosts.head?
  ingressHosts := filteredIngresses.head?.map Ingress.hosts
  protocol := (ports.head?.map PublishedPortFormValue.protocol).getD "TCP"

/-- What a step makes of the entries. -/
def Edit.apply (filteredIngresses : List Ingress) (ports : List PublishedPortFormValue) :
    Edit → List PublishedPortFormValue
  | .addPublishedPort => ports ++ [addedPort filteredIngresses ports]
  | .removePublishedPort index =>
    match ports[index]? with
    | some p => if p.isNew then ports.eraseIdx index else ports.set index { p with needsDeletion := true }
    | none => ports
  | .restorePublishedPort index => ports.modify index ({ · with needsDeletion := false })
  | .fill index values => ports.modify index fun p =>
    if p.isNew then { values with isNew := true, needsDeletion := p.needsDeletion } else p
  | .deleteAsync => ports.map ({ · with needsDeletion := true })

/-- **The entries of an application that was loaded and edited.** The loop of
`deleteAsync` is over the entries as they are loaded. -/
inductive Edited (loaded : List PublishedPortFormValue) : List PublishedPortFormValue → Prop where
  | loaded : Edited loaded loaded
  | deleted : Edited loaded (Edit.deleteAsync.apply [] loaded)
  | edited (filteredIngresses : List Ingress) (edit : Edit) {ports : List PublishedPortFormValue} :
    Edited loaded ports → edit ≠ .deleteAsync → Edited loaded (edit.apply filteredIngresses ports)

/-! ## Computing the ingresses -/

/-- `_.remove`, of the paths that match a record. A record that was not found
is undefined, for which lodash takes the identity as predicate, and every
path is removed. -/
def remove : Option Rule → List Rule → List Rule
  | some path, paths => paths.filter (· ≠ path)
  | none, _ => []

/-- The path that an entry adds. -/
def newRule (ingressName serviceName : String) (p : PublishedPortFormValue) : Rule where
  ingressName := ingressName
  serviceName := some serviceName
  port := p.containerPort
  path := match p.ingressRoute with
    | some "" | none => some ""
    | some route => some (if route.toList.head? = some '/' then route else "/" ++ route)
  host := p.ingressHost

/-- The paths an entry is looked up with: of its port, service and route. -/
def isPathOf (serviceName : String) (p : PublishedPortFormValue) (rule : Rule) : Bool :=
  rule.port = p.containerPort ∧ rule.serviceName = some serviceName ∧ rule.path = p.ingressRoute

/-- What an entry does to its ingress. -/
def applyPort (serviceName : String) (p : PublishedPortFormValue) (ingress : Ingress) : Ingress :=
  if p.needsDeletion then
    { ingress with paths := remove (ingress.paths.find? (isPathOf serviceName p)) ingress.paths }
  else if p.isNew then
    { ingress with paths := ingress.paths ++ [newRule ingress.name serviceName p] }
  else ingress

/-- The first ingress of the name is changed in place. -/
def updateNamed (f : Ingress → Ingress) (name : Option String) : List Ingress → List Ingress
  | [] => []
  | ingress :: rest =>
    if name = some ingress.name then f ingress :: rest else ingress :: updateNamed f name rest

def applicationFormValuesToIngresses (originalIngresses : List Ingress)
    (publishedPorts : List PublishedPortFormValue) (serviceName : String) : List Ingress :=
  publishedPorts.foldl (fun ingresses p => updateNamed (applyPort serviceName p) p.ingressName ingresses)
    originalIngresses

end Ingresses

end Portainer
