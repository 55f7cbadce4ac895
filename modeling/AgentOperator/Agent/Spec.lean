import AgentOperator.Codec.Choice
import AgentOperator.Kubernetes.Pod
import AgentOperator.Kubernetes.Service

/-!
# The desired state of an agent

What the author of an agent resource may ask for: how the agent is scheduled, what it runs and is
configured with, and what is passed on to its container and pod as it is.
-/

namespace AgentOperator

/-- How the agent is scheduled: as a number of pods anywhere in the cluster, or as one pod on each
node. -/
inductive AgentMode where
  | deployment
  | daemonSet
deriving DecidableEq, Repr

namespace AgentMode

/-- The name of a mode in a resource. -/
def name : AgentMode → String
  | .deployment => "deployment"
  | .daemonSet => "daemonset"

/-- All modes. -/
def all : List AgentMode := [.deployment, .daemonSet]

/-- Modes as documents. -/
def codec : Codec AgentMode := Choice.codec ⟨all, name⟩

end AgentMode

/-- A config map beside the primary configuration, from the namespace of the resource, that is
mounted in the agent's container below the base directory of all of them. -/
structure AuxiliaryConfig where
  name : String
  mountPath : String := ""
deriving DecidableEq

/-- Auxiliary config maps as documents. -/
def AuxiliaryConfig.codec : Codec AuxiliaryConfig :=
  .record "ConfigMapsSpec" <|
    Fields.build AuxiliaryConfig AuxiliaryConfig.mk
    |>.field "name" name (.mandatory .text)
    |>.field "mountPath" mountPath (.defaulted .text "")

section Embedded

variable (Variable VariableGroup Mount Volume Port Resources Rights Lifecycle Toleration : Type)

/-- The codecs of the values that a desired state passes on to the container and the pod. -/
structure EmbeddedCodecs where
  envVar : Codec Variable
  envFromSource : Codec VariableGroup
  volumeMount : Codec Mount
  volume : Codec Volume
  servicePort : Codec Port
  resources : Codec Resources
  securityContext : Codec Rights
  lifecycle : Codec Lifecycle
  toleration : Codec Toleration

/-- The desired state of an agent, over the types of the values that are passed on. Only a
deployment heeds the number of replicas; an image that is unset or empty stands for the operator's
default, and a service account for one that the operator makes. -/
structure AgentSpecOf where
  mode : AgentMode := .deployment
  replicas : Option Int32 := none
  image : Option String := none
  imagePullPolicy : Option String := none
  config : String := ""
  args : Dict String := ∅
  env : List Variable := []
  envFrom : List VariableGroup := []
  volumeMounts : List Mount := []
  volumes : List Volume := []
  configMaps : List AuxiliaryConfig := []
  ports : List Port := []
  resources : Option Resources := none
  securityContext : Option Rights := none
  lifecycle : Option Lifecycle := none
  serviceAccount : Option String := none
  nodeSelector : Dict String := ∅
  tolerations : List Toleration := []
  podAnnotations : Dict String := ∅
  hostNetwork : Bool := false
  priorityClassName : Option String := none
deriving DecidableEq

variable {Variable VariableGroup Mount Volume Port Resources Rights Lifecycle Toleration}

namespace AgentSpecOf

variable (embedded : EmbeddedCodecs Variable VariableGroup Mount Volume Port Resources Rights
  Lifecycle Toleration)

/-- The fields of desired states, with the values that are passed on as these codecs have them. -/
def fields :
    let Spec :=
      AgentSpecOf Variable VariableGroup Mount Volume Port Resources Rights Lifecycle Toleration
    Fields Spec Spec :=
  Fields.build _ AgentSpecOf.mk
  |>.field "mode" mode (.defaulted AgentMode.codec .deployment)
  |>.field "replicas" replicas (.nullable .int32)
  |>.field "image" image (.nullable .text)
  |>.field "imagePullPolicy" imagePullPolicy (.nullable .text)
  |>.field "config" config (.defaulted .text "")
  |>.field "args" args (.defaulted (.dict .text) ∅)
  |>.field "env" env (.defaulted (.list embedded.envVar) [])
  |>.field "envFrom" envFrom (.defaulted (.list embedded.envFromSource) [])
  |>.field "volumeMounts" volumeMounts (.defaulted (.list embedded.volumeMount) [])
  |>.field "volumes" volumes (.defaulted (.list embedded.volume) [])
  |>.field "configMaps" configMaps (.defaulted (.list AuxiliaryConfig.codec) [])
  |>.field "ports" ports (.defaulted (.list embedded.servicePort) [])
  |>.field "resources" resources (.nullable embedded.resources)
  |>.field "securityContext" securityContext (.nullable embedded.securityContext)
  |>.field "lifecycle" lifecycle (.nullable embedded.lifecycle)
  |>.field "serviceAccount" serviceAccount (.nullable .text)
  |>.field "nodeSelector" nodeSelector (.defaulted (.dict .text) ∅)
  |>.field "tolerations" tolerations (.defaulted (.list embedded.toleration) [])
  |>.field "podAnnotations" podAnnotations (.defaulted (.dict .text) ∅)
  |>.field "hostNetwork" hostNetwork (.defaulted .boolean false)
  |>.field "priorityClassName" priorityClassName (.nullable .text)

/-- Desired states as documents, with the values that are passed on as these codecs have them. -/
def codec :
    Codec (AgentSpecOf Variable VariableGroup Mount Volume Port Resources Rights Lifecycle
      Toleration) :=
  .record "AmazonCloudWatchAgentSpec" (fields embedded)

end AgentSpecOf

end Embedded

open Kubernetes

/-- The desired state of an agent, which passes on values of the Kubernetes types. -/
abbrev AgentSpec : Type :=
  AgentSpecOf EnvVar EnvFromSource VolumeMount Volume ServicePort ResourceRequirements
    SecurityContext Lifecycle Toleration

/-- The codecs of the Kubernetes types that a desired state passes on. -/
def EmbeddedCodecs.kubernetes : EmbeddedCodecs EnvVar EnvFromSource VolumeMount Volume ServicePort
    ResourceRequirements SecurityContext Lifecycle Toleration where
  envVar := EnvVar.codec
  envFromSource := EnvFromSource.codec
  volumeMount := VolumeMount.codec
  volume := Volume.codec
  servicePort := ServicePort.codec
  resources := ResourceRequirements.codec
  securityContext := SecurityContext.codec
  lifecycle := Lifecycle.codec
  toleration := Toleration.codec

/-- Desired states of agents as documents. -/
def AgentSpec.codec : Codec AgentSpec := AgentSpecOf.codec .kubernetes

end AgentOperator
