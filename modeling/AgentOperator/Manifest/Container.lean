import AgentOperator.Manifest.Args
import AgentOperator.Manifest.Environment
import AgentOperator.Manifest.Ports
import AgentOperator.Manifest.Volumes
import AgentOperator.Settings

/-!
# The agent's container

The container that runs the agent, put together from its arguments, variables, ports and mounts. It
depends on nothing but the settings, the desired state and whether the primary configuration is
mounted.
-/

namespace AgentOperator

open Kubernetes

/-- The image that an agent runs: the one of its resource if set and not empty, and otherwise the
operator's default. -/
def agentImage (settings : Settings) (spec : AgentSpec) : String :=
  match spec.image with
  | some image => if image.isEmpty then settings.agentImage else image
  | none => settings.agentImage

/-- The name of the agent's container. -/
def containerName : String := "cloudwatch-agent"

/-- A list that is left out when it is empty. -/
def nonEmpty {α : Type} : List α → Option (List α)
  | [] => none
  | items => some items

/-- A list that has items is not left out. -/
theorem non_empty_eq_some {α : Type} {items : List α} (h : items ≠ []) :
    nonEmpty items = some items := by
  cases items with
  | nil => exact absurd rfl h
  | cons item items => rfl

/-- The container that runs the agent. -/
def agentContainer (settings : Settings) (spec : AgentSpec) (addConfig : Bool) : Container :=
  { name := containerName
    image := some (agentImage settings spec)
    imagePullPolicy := spec.imagePullPolicy
    args := nonEmpty (Args.assemble settings.configMapEntry spec.args addConfig)
    env := nonEmpty (Environment.compose spec.env settings.proxySettings)
    envFrom := nonEmpty spec.envFrom
    ports := nonEmpty (Ports.resolve Ports.agentPorts spec.ports)
    volumeMounts := nonEmpty (Volumes.mounts spec addConfig)
    resources := spec.resources
    securityContext := spec.securityContext
    lifecycle := spec.lifecycle }

/-- The notices that come with the container. -/
def agentContainerNotices (spec : AgentSpec) (addConfig : Bool) : List Log.Record :=
  Args.notices spec.args addConfig ++ Ports.defaultNotices Ports.agentPorts

end AgentOperator
