import AgentOperator.Kubernetes.Meta

/-!
# Services

A service gives the pods that its selector matches one address, with a port for each port that it
passes on.
-/

namespace AgentOperator.Kubernetes

/-- A port of a service. -/
structure ServicePort where
  name : Option String := none
  port : Int32
  protocol : Option String := none
  targetPort : Option IntOrString := none
  nodePort : Option Int32 := none
  appProtocol : Option String := none
deriving DecidableEq

/-- Ports of services as documents. -/
def ServicePort.codec : Codec ServicePort :=
  .kubernetes "ServicePort" <|
    Fields.build ServicePort ServicePort.mk
    |>.field "name" name (.optional .text)
    |>.field "port" port (.required .int32 0)
    |>.field "protocol" protocol (.optional .text)
    |>.field "targetPort" targetPort (.optional IntOrString.codec)
    |>.field "nodePort" nodePort (.optional .int32)
    |>.field "appProtocol" appProtocol (.optional .text)

/-- The desired state of a service. -/
structure ServiceSpec where
  selector : Option (Dict String) := none
  ports : Option (List ServicePort) := none
deriving DecidableEq

/-- Desired states of services as documents. -/
def ServiceSpec.codec : Codec ServiceSpec :=
  .kubernetes "ServiceSpec" <|
    Fields.build ServiceSpec ServiceSpec.mk
    |>.field "selector" selector (.optional (.dict .text))
    |>.field "ports" ports (.optional (.list ServicePort.codec))

/-- A service. -/
structure Service where
  metadata : ObjectMeta := {}
  spec : Option ServiceSpec := none
deriving DecidableEq

/-- Services as documents. -/
def Service.codec : Codec Service :=
  .kind "v1" "Service" <|
    Fields.build Service Service.mk
    |>.field "metadata" metadata (.required ObjectMeta.codec {})
    |>.field "spec" spec (.optional ServiceSpec.codec)

end AgentOperator.Kubernetes
