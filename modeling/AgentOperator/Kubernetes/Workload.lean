import AgentOperator.Kubernetes.Pod

/-!
# Workloads

The two kinds of workload that keep pods running: a deployment keeps a number of them, a daemon set
keeps one on each node.
-/

namespace AgentOperator.Kubernetes

/-- The desired state of a deployment. -/
structure DeploymentSpec where
  replicas : Option Int32 := none
  selector : LabelSelector
  template : PodTemplateSpec
deriving DecidableEq

/-- Desired states of deployments as documents. -/
def DeploymentSpec.codec : Codec DeploymentSpec :=
  .kubernetes "DeploymentSpec" <|
    Fields.build DeploymentSpec DeploymentSpec.mk
    |>.field "replicas" replicas (.optional .int32)
    |>.field "selector" selector (.required LabelSelector.codec {})
    |>.field "template" template (.required PodTemplateSpec.codec {})

/-- The observed state of a deployment. -/
structure DeploymentStatus where
  readyReplicas : Option Int32 := none
deriving DecidableEq

/-- Observed states of deployments as documents. -/
def DeploymentStatus.codec : Codec DeploymentStatus :=
  .kubernetes "DeploymentStatus" <|
    Fields.build DeploymentStatus DeploymentStatus.mk
    |>.field "readyReplicas" readyReplicas (.optional .int32)

/-- A deployment. -/
structure Deployment where
  metadata : ObjectMeta := {}
  spec : Option DeploymentSpec := none
  status : Option DeploymentStatus := none
deriving DecidableEq

/-- Deployments as documents. -/
def Deployment.codec : Codec Deployment :=
  .kind "apps/v1" "Deployment" <|
    Fields.build Deployment Deployment.mk
    |>.field "metadata" metadata (.required ObjectMeta.codec {})
    |>.field "spec" spec (.optional DeploymentSpec.codec)
    |>.field "status" status (.optional DeploymentStatus.codec)

/-- The desired state of a daemon set. -/
structure DaemonSetSpec where
  selector : LabelSelector
  template : PodTemplateSpec
deriving DecidableEq

/-- Desired states of daemon sets as documents. -/
def DaemonSetSpec.codec : Codec DaemonSetSpec :=
  .kubernetes "DaemonSetSpec" <|
    Fields.build DaemonSetSpec DaemonSetSpec.mk
    |>.field "selector" selector (.required LabelSelector.codec {})
    |>.field "template" template (.required PodTemplateSpec.codec {})

/-- The observed state of a daemon set. -/
structure DaemonSetStatus where
  currentNumberScheduled : Int32 := 0
  desiredNumberScheduled : Int32 := 0
  numberMisscheduled : Int32 := 0
  numberReady : Int32 := 0
deriving DecidableEq

/-- Observed states of daemon sets as documents. -/
def DaemonSetStatus.codec : Codec DaemonSetStatus :=
  .kubernetes "DaemonSetStatus" <|
    Fields.build DaemonSetStatus DaemonSetStatus.mk
    |>.field "currentNumberScheduled" currentNumberScheduled (.required .int32 0)
    |>.field "desiredNumberScheduled" desiredNumberScheduled (.required .int32 0)
    |>.field "numberMisscheduled" numberMisscheduled (.required .int32 0)
    |>.field "numberReady" numberReady (.required .int32 0)

/-- A daemon set. -/
structure DaemonSet where
  metadata : ObjectMeta := {}
  spec : Option DaemonSetSpec := none
  status : Option DaemonSetStatus := none
deriving DecidableEq

/-- Daemon sets as documents. -/
def DaemonSet.codec : Codec DaemonSet :=
  .kind "apps/v1" "DaemonSet" <|
    Fields.build DaemonSet DaemonSet.mk
    |>.field "metadata" metadata (.required ObjectMeta.codec {})
    |>.field "spec" spec (.optional DaemonSetSpec.codec)
    |>.field "status" status (.optional DaemonSetStatus.codec)

end AgentOperator.Kubernetes
