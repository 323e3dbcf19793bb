import Portainer.Common.Collections
import Portainer.Ingresses.Model
/-!
# Ingresses — the hosts of a namespace

`ingress/converter.js`. The form of a namespace shows the hosts of an
ingress, each with the name it had when it was read. What is sent back is
put together from the hosts of the form and the paths that were read: the
paths are grouped by their host, and each group goes to the host of the form
that had this name.
-/

namespace Portainer

namespace Ingresses

/-! ## Reading -/

/-- A path, as the API server returns it. -/
structure ApiPath where
  serviceName : Option String
  servicePort : Option Port
  path : Option String

/-- A rule, as the API server returns it. A host that is left out is the
empty text: the server does not send an empty one. -/
structure ApiRule where
  host : String := ""
  http : Option (List ApiPath) := none

/-- An ingress, as the API server returns it. -/
structure ApiIngress where
  name : String
  namespaceName : String := ""
  annotations : List (String × String) := []
  rules : List ApiRule := []
  ingressClassName : Option String := none
  /-- The addresses of the load balancer. -/
  loadBalancer : Option (List (Option String)) := none

def ingressClassAnnotationKey : String := "kubernetes.io/ingress.class"

/-- `data.status.loadBalancer.ingress[0].ip`. `none` is the exception of an
empty list. -/
def loadBalancerIP : Option (List (Option String)) → Option (Option String)
  | none => some none
  | some [] => none
  | some (ip :: _) => some ip

/-- The paths of a rule. -/
def ApiIngress.rulePaths (data : ApiIngress) (rule : ApiRule) : Option (List Rule) :=
  match rule.http with
  | none => some []
  | some paths => paths.mapM fun path =>
    (loadBalancerIP data.loadBalancer).map fun ip => {
      ingressName := data.name
      serviceName := path.serviceName
      host := some rule.host
      ip := ip
      port := path.servicePort
      path := path.path }

/-- `apiToModel`. -/
def apiToModel (data : ApiIngress) : Option Ingress :=
  (data.rules.mapM data.rulePaths).map fun paths => {
    name := data.name
    namespaceName := data.namespaceName
    annotations := data.annotations
    ingressClassName :=
      match data.annotations.lookup ingressClassAnnotationKey with
      | some "" | none => data.ingressClassName
      | some className => some className
    paths := paths.flatten
    hosts := (data.rules.map ApiRule.host).eraseDups }

/-! ## The form -/

/-- `KubernetesIngressClassTypes`. -/
inductive IngressClassType
  | nginx
  | traefik
  deriving DecidableEq, Repr

/-- `KubernetesIngressClass`. -/
structure IngressClass where
  name : String
  type : Option IngressClassType
  deriving DecidableEq, Repr

/-- `KubernetesResourcePoolIngressClassHostFormValue`. -/
structure HostFormValue where
  host : String := ""
  previousHost : String := ""
  needsDeletion : Bool := false
  isNew : Bool := true
  deriving DecidableEq, Repr

/-- `KubernetesResourcePoolIngressClassFormValue`. -/
structure IngressClassFormValue where
  namespaceName : String := ""
  ingressClass : IngressClass
  rewriteTarget : Bool := false
  annotations : List (String × String) := []
  hosts : List HostFormValue := []
  selected : Bool := false
  wasSelected : Bool := false
  advancedConfig : Bool := false
  paths : List Rule := []

/-- The annotation of `KubernetesIngressClassRewriteTargetAnnotations`. -/
def rewriteTargetAnnotationOf : IngressClassType → String × String
  | .nginx => ("nginx.ingress.kubernetes.io/rewrite-target", "/")
  | .traefik => ("traefik.ingress.kubernetes.io/rewrite-target", "/")

/-- The form value of a host that was read. -/
def loadedHost (host : String) : HostFormValue := { host := host, previousHost := host, isNew := false }

/-- One class of `ingressClassesToFormValues`. `none` is the exception of a
class of no known type. -/
def ingressClassToFormValue (ingresses : List Ingress) (ic : IngressClass) : Option IngressClassFormValue :=
  match ingresses.find? (·.name = ic.name) with
  | none => some { ingressClass := ic }
  | some ingress => ic.type.map fun type =>
    let rewriteKey := (rewriteTargetAnnotationOf type).1
    let annotations := ingress.annotations.filter fun annotation =>
      annotation.1 ≠ rewriteKey && annotation.1 ≠ ingressClassAnnotationKey
    { ingressClass := ic
      selected := true
      wasSelected := true
      hosts := ingress.hosts.map loadedHost
      rewriteTarget := ingress.annotations.any (·.1 = rewriteKey)
      annotations := annotations
      advancedConfig := annotations ≠ []
      paths := ingress.paths }

def ingressClassesToFormValues (ics : List IngressClass) (ingresses : List Ingress) :
    Option (List IngressClassFormValue) :=
  ics.mapM (ingressClassToFormValue ingresses)

/-- A step of the form: `addHostname`, `removeHostname`, `restoreHostname`,
or the input of a host. -/
inductive HostEdit
  | rename (index : ℕ) (host : String)
  | addHostname
  | removeHostname (index : ℕ)
  | restoreHostname (index : ℕ)

/-- What a step makes of the hosts. -/
def HostEdit.apply (hosts : List HostFormValue) : HostEdit → List HostFormValue
  | .rename index host => hosts.modify index ({ · with host := host })
  | .addHostname => hosts ++ [{}]
  | .removeHostname index =>
    match hosts[index]? with
    | some host =>
      if host.isNew then hosts.eraseIdx index else hosts.modify index ({ · with needsDeletion := true })
    | none => hosts
  | .restoreHostname index => hosts.modify index fun host =>
    if host.isNew then host else { host with needsDeletion := false }

/-! ## Writing -/

/-- A host of an ingress: a text, or that of a form. -/
inductive Host
  | text (host : String)
  | form (value : HostFormValue)
  deriving DecidableEq, Repr

/-- An ingress that a payload is made from. -/
structure IngressData where
  name : String
  namespaceName : String
  annotations : List (String × String)
  hosts : List Host
  paths : List Rule

/-- A property of an object, set. -/
def setProperty (object : List (String × String)) (property : String × String) : List (String × String) :=
  object.filter (·.1 ≠ property.1) ++ [property]

def resourcePoolIngressClassFormValueToIngress (formValues : IngressClassFormValue) : IngressData :=
  let annotations := formValues.annotations.foldl setProperty []
  let annotations :=
    match formValues.rewriteTarget, formValues.ingressClass.type with
    | true, some type => setProperty annotations (rewriteTargetAnnotationOf type)
    | _, _ => annotations
  { name := formValues.ingressClass.name
    namespaceName := formValues.namespaceName
    annotations := setProperty annotations (ingressClassAnnotationKey, formValues.ingressClass.name)
    hosts := formValues.hosts.map .form
    paths := formValues.paths }

/-- What stands for a host: its name or, if that is empty, the host itself.
An object is told by its place among the hosts. -/
inductive HostValue
  | name (host : String)
  | object (index : ℕ)
  deriving DecidableEq, Repr

/-- `h.Host || h`. -/
def hostValue : Host × ℕ → HostValue
  | (.text host, _) => .name host
  | (.form value, index) => if value.host ≠ "" then .name value.host else .object index

def Host.needsDeletion : Host → Bool
  | .text _ => false
  | .form value => value.needsDeletion

/-- The host that a group of paths goes to. -/
def Host.isHostOf (host : String) : Host → Bool
  | .text h => h = host
  | .form value => value.previousHost = host

structure PathPayload where
  path : Option String
  serviceName : Option String
  servicePort : Option Port
  deriving DecidableEq, Repr

/-- A rule of a payload; what is left out is undefined. -/
structure RulePayload where
  host : Option HostValue := none
  paths : Option (List PathPayload) := none
  deriving DecidableEq, Repr

structure IngressPayload where
  name : String
  namespaceName : String
  annotations : List (String × String)
  rules : Option (List RulePayload)

/-- The host that a path is grouped by. -/
def pathHost (p : Rule) : String :=
  match p.host with
  | none | some "undefined" => ""
  | some host => host

/-- `_.groupBy`, by the host. -/
def groupByHost (paths : List Rule) : List (String × List Rule) := groupBy pathHost paths

def pathPayload (p : Rule) : PathPayload :=
  { path := p.path, serviceName := p.serviceName, servicePort := p.port }

/-- `assignOrDeleteIfEmpty`, of a host. -/
def assignHost : HostValue → Option HostValue
  | .name "" => none
  | host => some host

/-- What becomes of a group: its rule, or nothing if its host is deleted.
`none` is the exception of a group that has no host. -/
def groupRule (hosts : List (Host × ℕ)) (group : String × List Rule) :
    Option (Option (HostValue × RulePayload)) :=
  (hosts.find? fun h => h.1.isHostOf group.1).map fun updatedHost =>
    if updatedHost.1.needsDeletion then none
    else some (hostValue updatedHost,
      { host := assignHost (hostValue updatedHost), paths := some (group.2.map pathPayload) })

/-- The rules of `createPayload`. -/
def payloadRules (data : IngressData) : Option (Option (List RulePayload)) :=
  if data.paths ≠ [] then
    ((groupByHost data.paths).mapM (groupRule data.hosts.zipIdx)).map fun groups =>
      let groups := groups.reduceOption
      let hostsWithRules := groups.map Prod.fst
      let keptHosts := (data.hosts.zipIdx.filter fun h => !h.1.needsDeletion).map hostValue
      let hostsWithoutRules := keptHosts.filter (· ∉ hostsWithRules)
      let rules := groups.map Prod.snd ++ hostsWithoutRules.map fun host => { host := some host }
      if rules = [] then none else some rules
  else
    some (some ((data.hosts.filter fun h => !h.needsDeletion).map fun host =>
      match host with
      | .text _ => {}
      | .form value => { host := some (.name value.host) }))

/-- `createPayload`. -/
def createPayload (data : IngressData) : Option IngressPayload :=
  (payloadRules data).map fun rules =>
    { name := data.name, namespaceName := data.namespaceName, annotations := data.annotations, rules := rules }

end Ingresses

end Portainer
