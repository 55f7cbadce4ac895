import AgentOperator.Kubernetes.Container
import AgentOperator.Kubernetes.Service
import AgentOperator.Manifest.Naming
import AgentOperator.Text.Quoted
import AgentOperator.Log

/-!
# Container ports

The ports of the agent's container: the ports it listens on by default, and those that the resource
declares. A default name that is too long is cut, and a default that is not valid is dropped with a
notice; a declared port takes the place of a default of the same name or joins them. The ports come
in order of their names, whatever the order in which they were declared.
-/

namespace AgentOperator.Ports

open Kubernetes

/-- A port that the agent listens on by default. -/
structure DefaultPort where
  name : String
  port : Int32
  protocol : String
deriving DecidableEq

/-- The ports of the agent's receivers. -/
def agentPorts : List DefaultPort :=
  [⟨"statsd", 8125, "UDP"⟩, ⟨"collectd", 25826, "UDP"⟩, ⟨"emfTcp", 25888, "TCP"⟩,
    ⟨"emf-udp", 25888, "UDP"⟩, ⟨"xray-proxy", 2000, "TCP"⟩, ⟨"xray-traces", 2000, "UDP"⟩,
    ⟨"otlp-grpc", 4317, "TCP"⟩, ⟨"otlp-http", 4318, "TCP"⟩, ⟨"appsig-grpc", 4315, "TCP"⟩,
    ⟨"appsig-http", 4316, "TCP"⟩]

/-- The greatest length of the name of a port. -/
def maxNameLength : Nat := 15

/-- What can be wrong with a port: its name takes too many bytes, is empty or has a character that
is no letter, digit or hyphen, has no letter, has two hyphens side by side, or begins or ends with
one; or its number is no port number. -/
inductive Fault where
  | nameTooLong
  | nameCharacters
  | nameWithoutLetter
  | nameDoubledHyphen
  | nameOuterHyphen
  | numberOutOfRange
deriving DecidableEq, Repr

/-- The wording of a fault of a port. -/
def Fault.message : Fault → String
  | .nameTooLong => "must be no more than " ++ toString maxNameLength ++ " characters"
  | .nameCharacters => "must contain only alpha-numeric characters and hyphens (-)"
  | .nameWithoutLetter => "must contain at least one letter"
  | .nameDoubledHyphen => "must not contain consecutive hyphens"
  | .nameOuterHyphen => "must not begin or end with a hyphen"
  | .numberOutOfRange => "must be between 1 and 65535, inclusive"

/-- Whether two hyphens stand side by side. -/
def hasDoubledHyphen : List Char → Bool
  | '-' :: '-' :: _ => true
  | _ :: cs => hasDoubledHyphen cs
  | [] => false

/-- Whether a text begins or ends with a hyphen. -/
def hasOuterHyphen (cs : List Char) : Bool :=
  cs.head? = some '-' || cs.getLast? = some '-'

/-- The faults of the name of a port, in the order in which they are looked for. -/
def nameFaults (name : String) : List Fault :=
  let cs := name.toList
  (if name.utf8ByteSize > maxNameLength then [.nameTooLong] else [])
    ++ (if cs.isEmpty || !cs.all (fun c => c.isAlphanum || c = '-') then [.nameCharacters] else [])
    ++ (if cs.any Char.isAlpha then [] else [.nameWithoutLetter])
    ++ (if hasDoubledHyphen cs then [.nameDoubledHyphen] else [])
    ++ (if hasOuterHyphen cs then [.nameOuterHyphen] else [])

/-- The faults of the number of a port. -/
def numberFaults (number : Int32) : List Fault :=
  if 1 ≤ number.toInt && number.toInt ≤ 65535 then [] else [.numberOutOfRange]

/-- A port that is not valid, with all that is wrong with it. -/
structure InvalidPort where
  name : String
  number : Int32
  faults : List Fault
deriving DecidableEq

/-- The wording of the refusal of a port. -/
def InvalidPort.message (port : InvalidPort) : String :=
  "invalid container port " ++ Text.quote port.name ++ " (" ++ toString port.number.toInt ++ "): "
    ++ "; ".intercalate (port.faults.map Fault.message)

/-- Accepts a port whose name and number are both valid, or refuses it with all its faults. -/
def validate (name : String) (number : Int32) : Except InvalidPort Unit :=
  match nameFaults name ++ numberFaults number with
  | [] => .ok ()
  | faults => .error ⟨name, number, faults⟩

/-- The name of a default port in a container. -/
def DefaultPort.containerName (port : DefaultPort) : String :=
  Naming.truncate port.name maxNameLength

/-- A default port in a container. -/
def DefaultPort.toContainerPort (port : DefaultPort) : ContainerPort :=
  { name := some port.containerName, containerPort := port.port, protocol := some port.protocol }

/-- Whether a default port may be used in a container. -/
def DefaultPort.isValid (port : DefaultPort) : Bool :=
  (nameFaults port.containerName ++ numberFaults port.port).isEmpty

/-- The valid default ports under their names in a container. -/
def defaultPorts (defaults : List DefaultPort) : Dict ContainerPort :=
  (defaults.filter DefaultPort.isValid).foldl
    (fun ports port => ports.insert port.containerName port.toContainerPort) ∅

/-- The notices on one default port: that its name is cut, and that it is dropped. -/
def DefaultPort.notices (port : DefaultPort) : List Log.Record :=
  let name := port.containerName
  let cut : List Log.Record :=
    if name = port.name then [] else
      [{ level := .info, message := "truncating container port name",
         fields := [("port.name.prev", .text port.name), ("port.name.new", .text name)] }]
  let dropped : List Log.Record :=
    match validate name port.port with
    | .ok () => []
    | .error invalid =>
      [{ level := .info, message := "dropping invalid container port",
         fields := [("port.name", .text name), ("port.num", .int port.port.toInt),
           ("error", .bare invalid.message)] }]
  cut ++ dropped

/-- The notices on the default ports. -/
def defaultNotices (defaults : List DefaultPort) : List Log.Record :=
  defaults.flatMap DefaultPort.notices

/-- The name under which a declared port is found; a missing name counts as the empty one. -/
def declaredName (port : ServicePort) : String := port.name.getD ""

/-- A declared port in a container. -/
def ofDeclared (port : ServicePort) : ContainerPort :=
  { name := some (declaredName port), containerPort := port.port, protocol := port.protocol }

/-- The default ports overlaid with the declared ones, by name. -/
def portMap (defaults : List DefaultPort) (declared : List ServicePort) : Dict ContainerPort :=
  declared.foldl (fun ports port => ports.insert (declaredName port) (ofDeclared port))
    (defaultPorts defaults)

/-- The ports of a container, in order of their names. -/
def resolve (defaults : List DefaultPort) (declared : List ServicePort) : List ContainerPort :=
  (portMap defaults declared).entries.map Prod.snd

end AgentOperator.Ports
