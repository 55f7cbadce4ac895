import AgentOperator.Kubernetes.Meta

/-!
# Config maps

A config map holds named texts, which pods read as files or variables.
-/

namespace AgentOperator.Kubernetes

/-- A config map. -/
structure ConfigMap where
  metadata : ObjectMeta := {}
  data : Option (Dict String) := none
deriving DecidableEq

/-- Config maps as documents. -/
def ConfigMap.codec : Codec ConfigMap :=
  .kind "v1" "ConfigMap" <|
    Fields.build ConfigMap ConfigMap.mk
    |>.field "metadata" metadata (.required ObjectMeta.codec {})
    |>.field "data" data (.optional (.dict .text))

end AgentOperator.Kubernetes
