import AgentOperator.Kubernetes.ConfigMap
import AgentOperator.Kubernetes.ServiceAccount
import AgentOperator.Manifest.Container
import AgentOperator.Manifest.Labels

/-!
# Objects beside the workload

The config map with the primary configuration, the service account that the agent runs as, and the
service in front of it, as they should be for a resource.
-/

namespace AgentOperator

open Kubernetes

namespace Agent

/-- The reference by which the objects of a resource name it as the one that manages them. There is
none while the resource has no name or no unique id. -/
def controllerReference? (agent : Agent) : Option OwnerReference := do
  let uid ← agent.metadata.uid
  let name ← agent.metadata.name
  return { apiVersion := apiVersion, kind := kind, name := name, uid := uid,
           controller := some true }

end Agent

/-- The metadata of an object of an agent. -/
def ownedMetadata (settings : Settings) (agent : Agent) (name : String) : ObjectMeta :=
  { name := some name
    inNamespace := agent.metadata.inNamespace
    labels := some (Labels.all agent (agentImage settings agent.spec))
    ownerReferences := agent.controllerReference?.map fun owner => [owner] }

/-- The config map with the primary configuration of an agent. -/
def agentConfigMap (settings : Settings) (agent : Agent) : ConfigMap :=
  { metadata := ownedMetadata settings agent (Naming.configMap agent.name)
    data := some (Dict.empty.insert settings.configMapEntry agent.spec.config) }

/-- The existing service account that a resource names. -/
def namedServiceAccount? (spec : AgentSpec) : Option String :=
  spec.serviceAccount.filter fun name => !name.isEmpty

/-- The name of the service account that an agent runs as. -/
def agentServiceAccountName (agent : Agent) : String :=
  (namedServiceAccount? agent.spec).getD (Naming.serviceAccount agent.name)

/-- The service account that is made for an agent, unless the resource names an existing one. -/
def agentServiceAccount? (settings : Settings) (agent : Agent) : Option ServiceAccount :=
  match namedServiceAccount? agent.spec with
  | some _ => none
  | none => some { metadata := ownedMetadata settings agent (agentServiceAccountName agent) }

/-- The port of a service in front of a port of a container. The names of ports of services are
DNS labels; a name that nothing is left of is dropped. -/
def servicePort (port : ContainerPort) : ServicePort :=
  { name := (port.name.map Naming.dnsName).filter fun name => !name.isEmpty
    port := port.containerPort
    targetPort := some (.int port.containerPort)
    protocol := port.protocol }

/-- The service in front of an agent, unless the agent has no ports. -/
def agentService? (settings : Settings) (agent : Agent) : Option Service :=
  match (Ports.resolve Ports.agentPorts agent.spec.ports).map servicePort with
  | [] => none
  | ports =>
    some
      { metadata := ownedMetadata settings agent (Naming.service agent.name)
        spec := some { selector := some (Labels.selector agent), ports := some ports } }

end AgentOperator
