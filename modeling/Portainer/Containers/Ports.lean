import Portainer.Common.Collections
import Portainer.Common.Text
/-!
# Containers — port bindings

`helpers/containerHelper`: the port bindings of a container are combined into
the lines of a form, where consecutive ports become ranges, and the lines are
read back into bindings. The texts have no line breaks, so that the pattern of
a port is one of the whole text.
-/

namespace Portainer

namespace Ports

abbrev Text := List Char

/-- `80/tcp`. -/
structure Key where
  port : ℕ
  protocol : Text
deriving DecidableEq

/-- `HostIp` and `HostPort`. -/
structure Binding where
  hostIp : Option Text
  hostPort : Text
deriving DecidableEq

/-- The bindings of each container port. -/
abbrev PortMap := List (Key × List Binding)

/-- A container port of the form: a number, or a text after ports have been
combined. -/
inductive ContainerPort where
  | number (n : ℕ)
  | text (t : Text)
deriving DecidableEq

/-- A line of the form. -/
structure PortBinding where
  hostPort : Text
  containerPort : ContainerPort
  protocol : Text
deriving DecidableEq

/-! ## Ports and ranges -/

/-- `toString` of a number. -/
def numeral (n : ℕ) : Text := Nat.toDigits 10 n

/-- The digits of a port, by their number. -/
def portDigits : Text → Bool
  | [a] => a ≠ '0'
  | [_, _] | [_, _, _] | [_, _, _, _] => true
  | [a, b, c, d, e] =>
    ('1' ≤ a && a ≤ '5') ||
      (a = '6' && (b ≤ '4' || (b = '5' && (c ≤ '4' || (c = '5' && (d ≤ '2' || (d = '3' && e ≤ '5')))))))
  | _ => false

/-- `portPattern`. -/
def isPort (s : Text) : Bool := s.all Char.isDigit && portDigits s

def parsePort (port : Text) : ℕ := if isPort port then Nat.ofDigitChars 10 port 0 else 0

/-- The two ends of a range; the first two of its pieces. -/
def parsePortRange (portRange : Text) : ℕ × ℕ :=
  if '-' ∈ portRange then
    (parsePort (Text.cut '-' portRange).1, parsePort (Text.cut '-' (Text.cut '-' portRange).2).1)
  else (parsePort portRange, parsePort portRange)

def isValidPortRange (range : ℕ × ℕ) : Prop := 0 < range.1 ∧ range.1 ≤ range.2

instance : DecidablePred isValidPortRange := fun range => inferInstanceAs (Decidable (0 < range.1 ∧ range.1 ≤ range.2))

/-- A range that is extended by a port. What stands before the first colon is
the address. -/
def createPortRange (portRangeText : Text) (port : ℕ) : Text :=
  let hostIp := if ':' ∈ portRangeText then (Text.cut ':' portRangeText).1 else []
  let portRange := parsePortRange (if ':' ∈ portRangeText then (Text.cut ':' portRangeText).2 else portRangeText)
  let range := numeral (min portRange.1 port) ++ '-' :: numeral (max portRange.2 port)
  if hostIp ≠ [] then hostIp ++ ':' :: range else range

def ContainerPort.toText : ContainerPort → Text
  | .number n => numeral n
  | .text t => t

/-! ## The bindings of the form -/

/-- The address and the ports of a host port that is not empty: in brackets,
or else before the first colon, and then up to the next. Nothing if a bracket
is not closed before a colon. -/
def splitHost (hostPort : Text) : Option (Option Text × Text) :=
  if '[' ∈ hostPort then
    if [']', ':'] <:+: hostPort then
      let first := Text.before [']', ':'] hostPort
      some (some (first.erase '['), Text.before [']', ':'] (hostPort.drop (first.length + 2)))
    else none
  else if ':' ∈ hostPort then
    some (some (Text.cut ':' hostPort).1, (Text.cut ':' (Text.cut ':' hostPort).2).1)
  else some (none, hostPort)

/-- The address and the range of a host port; nothing if it is invalid, or
does not go with the range of the container ports. -/
def hostRange (hostPort : Text) (containerRange : ℕ × ℕ) : Option (Option Text × ℕ × ℕ) :=
  if hostPort = [] then some (none, 0, 0)
  else do
    let (hostIp, text) ← splitHost hostPort
    let range := parsePortRange text
    if isValidPortRange range ∧
        ¬ (containerRange.2 ≠ containerRange.1 ∧ containerRange.2 - containerRange.1 ≠ range.2 - range.1) then
      some (hostIp, range)
    else none

/-- The bindings of one line; nothing if it is invalid. -/
def expand (portBinding : PortBinding) : Option (List (Key × Binding)) :=
  if portBinding.containerPort = .number 0 ∨ portBinding.containerPort = .text [] then some []
  else do
    let container := parsePortRange portBinding.containerPort.toText
    if isValidPortRange container then
      let (hostIp, startHostPort, endHostPort) ← hostRange portBinding.hostPort container
      some ((List.range (container.2 - container.1 + 1)).map fun i =>
        let hostPort := if 0 < startHostPort then numeral (startHostPort + i) else portBinding.hostPort
        let suffix :=
          if container.1 = container.2 ∧ startHostPort ≠ endHostPort then '-' :: numeral endHostPort else []
        (⟨container.1 + i, portBinding.protocol⟩, ⟨hostIp, hostPort ++ suffix⟩))
    else none

/-- One more binding of a container port. -/
def push (bindings : PortMap) (entry : Key × Binding) : PortMap :=
  if entry.1 ∈ bindings.map Prod.fst then
    bindings.map fun e => if e.1 = entry.1 then (e.1, e.2 ++ [entry.2]) else e
  else bindings ++ [(entry.1, [entry.2])]

/-- Nothing where it throws. -/
def preparePortBindings (portBindings : List PortBinding) : Option PortMap :=
  portBindings.foldlM (fun bindings portBinding => (expand portBinding).map fun entries => entries.foldl push bindings) []

/-! ## Combining -/

/-- The bindings of a container port. -/
def bindingsOf (portBindings : PortMap) (key : Key) : List Binding :=
  ((portBindings.find? (·.1 = key)).map Prod.snd).getD []

/-- An address as the name of a property. -/
def propertyName : Option Text → Text
  | some ip => ip
  | none => ['u', 'n', 'd', 'e', 'f', 'i', 'n', 'e', 'd']

/-- The lines, the ports of the last one, and the bindings that are left. -/
structure Combining where
  portBindings : Key → List Binding
  bindings : List PortBinding := []
  previousHostPort : ℤ := -1
  previousContainerPort : ℤ := -1

/-- The last line, extended by the two ports. -/
def extendLast (bindings : List PortBinding) (hostPort containerPort : ℕ) : List PortBinding :=
  match bindings.getLast? with
  | some last =>
    bindings.dropLast ++ [{ last with
      hostPort := createPortRange last.hostPort hostPort
      containerPort := .text (createPortRange last.containerPort.toText containerPort) }]
  | none => []

/-- A line of one binding. -/
def line (ip protocol : Text) (containerPort : ℕ) (b : Binding) : PortBinding :=
  { hostPort := if ip ≠ [] then ip ++ ':' :: b.hostPort else b.hostPort
    containerPort := .number containerPort
    protocol := protocol }

/-- A binding is made a line, or a part of the last one. -/
def combine (ip protocol : Text) (s : Combining) (portKey : Key) (b : Binding) : Combining :=
  let hostPort := parsePort b.hostPort
  if 0 < hostPort then
    if s.bindings ≠ [] ∧ s.previousHostPort = (hostPort : ℤ) - 1 ∧
        s.previousContainerPort = (portKey.port : ℤ) - 1 then
      { s with
        bindings := extendLast s.bindings hostPort portKey.port
        previousHostPort := hostPort
        previousContainerPort := portKey.port }
    else
      { s with
        bindings := s.bindings ++ [line ip protocol portKey.port b]
        previousHostPort := hostPort
        previousContainerPort := portKey.port }
  else
    { s with
      bindings := s.bindings ++ [line ip protocol portKey.port b]
      previousHostPort := -1
      previousContainerPort := -1 }

/-- The first binding that is left of a container port is taken; an error if
there is none. -/
def takeFirst (ip protocol : Text) (s : Combining) (portKey : Key) : Option Combining :=
  match s.portBindings portKey with
  | [] => none
  | b :: rest => some (combine ip protocol { s with portBindings := Function.update s.portBindings portKey rest } portKey b)

/-- The container ports of one address. -/
def combineAddress (protocol : Text) (s : Combining) (group : String × List Key) : Option Combining :=
  (sortBy Key.port group.2).foldlM (takeFirst group.1.toList protocol)
    { s with previousHostPort := -1, previousContainerPort := -1 }

/-- The container ports of each address. -/
def keysByHostIp (portBindings : Key → List Binding) (keys : List Key) : List (String × List Key) :=
  (groupBy Prod.fst (keys.flatMap fun portKey =>
    (portBindings portKey).map fun b => (String.ofList (propertyName b.hostIp), portKey))).map fun group =>
      (group.1, group.2.map Prod.snd)

def combineProtocol (s : Combining) (group : String × List Key) : Option Combining :=
  (keysByHostIp s.portBindings group.2).foldlM (combineAddress group.1.toList) s

def sortAndCombinePorts (portBindings : PortMap) : Option (List PortBinding) :=
  ((groupBy (fun portKey : Key => String.ofList portKey.protocol) (portBindings.map Prod.fst)).foldlM combineProtocol
    { portBindings := bindingsOf portBindings }).map Combining.bindings

end Ports

end Portainer
