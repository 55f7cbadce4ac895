import AgentOperator.Kubernetes.Workload
import AgentOperator.Manifest.Objects

/-!
# Workloads of an agent

The template of the agent's pods, and the deployment or daemon set that runs them. Which of the two
there is is decided by the mode of the resource.
-/

namespace AgentOperator

open Kubernetes

/-- A map that is left out when it is empty. -/
def nonEmptyDict {α : Type} (d : Dict α) : Option (Dict α) := if d.isEmpty then none else some d

/-- How pods on the network of their node resolve names. -/
def hostNetworkDnsPolicy : String := "ClusterFirstWithHostNet"

/-- The template of the pods of an agent. -/
def agentPodTemplate (settings : Settings) (agent : Agent) : PodTemplateSpec :=
  let spec := agent.spec
  { metadata := some
      { labels := some (Labels.all agent (agentImage settings spec))
        annotations := nonEmptyDict spec.podAnnotations }
    spec := some
      { containers := [agentContainer settings spec true]
        volumes := some
          (Volumes.volumes (Naming.configMap agent.name) settings.configMapEntry spec)
        serviceAccountName := some (agentServiceAccountName agent)
        nodeSelector := nonEmptyDict spec.nodeSelector
        tolerations := nonEmpty spec.tolerations
        hostNetwork := if spec.hostNetwork then some true else none
        dnsPolicy := if spec.hostNetwork then some hostNetworkDnsPolicy else none
        priorityClassName := spec.priorityClassName } }

/-- How the workload of an agent finds its pods. -/
def agentSelector (agent : Agent) : LabelSelector :=
  { matchLabels := some (Labels.selector agent) }

/-- The deployment of an agent that is scheduled as one. -/
def agentDeployment? (settings : Settings) (agent : Agent) : Option Deployment :=
  match agent.spec.mode with
  | .deployment =>
    some
      { metadata := ownedMetadata settings agent (Naming.workload agent.name)
        spec := some
          { replicas := agent.spec.replicas
            selector := agentSelector agent
            template := agentPodTemplate settings agent } }
  | .daemonSet => none

/-- The daemon set of an agent that is scheduled as one. -/
def agentDaemonSet? (settings : Settings) (agent : Agent) : Option DaemonSet :=
  match agent.spec.mode with
  | .deployment => none
  | .daemonSet =>
    some
      { metadata := ownedMetadata settings agent (Naming.workload agent.name)
        spec := some
          { selector := agentSelector agent
            template := agentPodTemplate settings agent } }

end AgentOperator
