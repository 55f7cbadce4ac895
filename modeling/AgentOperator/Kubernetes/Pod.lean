import AgentOperator.Kubernetes.Container

/-!
# Pods

The template from which a workload makes its pods.
-/

namespace AgentOperator.Kubernetes

/-- A taint of nodes that a pod puts up with. -/
structure Toleration where
  key : Option String := none
  operator : Option String := none
  value : Option String := none
  effect : Option String := none
  tolerationSeconds : Option Int64 := none
deriving DecidableEq

/-- Tolerations as documents. -/
def Toleration.codec : Codec Toleration :=
  .kubernetes "Toleration" <|
    Fields.build Toleration Toleration.mk
    |>.field "key" key (.optional .text)
    |>.field "operator" operator (.optional .text)
    |>.field "value" value (.optional .text)
    |>.field "effect" effect (.optional .text)
    |>.field "tolerationSeconds" tolerationSeconds (.optional .int64)

/-- The desired state of a pod. -/
structure PodSpec where
  containers : List Container
  volumes : Option (List Volume) := none
  serviceAccountName : Option String := none
  nodeSelector : Option (Dict String) := none
  tolerations : Option (List Toleration) := none
  hostNetwork : Option Bool := none
  dnsPolicy : Option String := none
  priorityClassName : Option String := none
deriving DecidableEq

/-- Desired states of pods as documents. -/
def PodSpec.codec : Codec PodSpec :=
  .kubernetes "PodSpec" <|
    Fields.build PodSpec PodSpec.mk
    |>.field "containers" containers (.required (.list Container.codec) [])
    |>.field "volumes" volumes (.optional (.list Volume.codec))
    |>.field "serviceAccountName" serviceAccountName (.optional .text)
    |>.field "nodeSelector" nodeSelector (.optional (.dict .text))
    |>.field "tolerations" tolerations (.optional (.list Toleration.codec))
    |>.field "hostNetwork" hostNetwork (.optional .boolean)
    |>.field "dnsPolicy" dnsPolicy (.optional .text)
    |>.field "priorityClassName" priorityClassName (.optional .text)

/-- The template from which pods are made. -/
structure PodTemplateSpec where
  metadata : Option ObjectMeta := none
  spec : Option PodSpec := none
deriving DecidableEq

/-- Pod templates as documents. -/
def PodTemplateSpec.codec : Codec PodTemplateSpec :=
  .kubernetes "PodTemplateSpec" <|
    Fields.build PodTemplateSpec PodTemplateSpec.mk
    |>.field "metadata" metadata (.optional ObjectMeta.codec)
    |>.field "spec" spec (.optional PodSpec.codec)

end AgentOperator.Kubernetes
