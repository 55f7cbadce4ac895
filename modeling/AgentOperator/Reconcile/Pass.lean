import AgentOperator.Manifest.Status
import AgentOperator.Manifest.Workload
import AgentOperator.Reconcile.Task

/-!
# The work of one pass

What the tasks of a pass over one agent do: each makes the desired form of one owned object and
applies it, or removes an object that is no longer wanted, and the last one reports what became of
the workload. Everything happens in the namespace of the agent, under names derived from its name.

Only an object that the agent controls is removed; one that merely has the same name is left alone.
-/

namespace AgentOperator

open Api (ClientError ResourceType)
open Kubernetes

/-- What the tasks of one pass work on: the settings of the operator, and the agent as it was when
the pass began. -/
structure Pass where
  settings : Settings
  agent : Agent

namespace Pass

variable {α : Type}

/-- The namespace that a pass works in. -/
def inNamespace (pass : Pass) : String := pass.agent.namespaceName

/-- A call of the API server as part of a task. -/
def call (attempt : Attempt ClientError α) : Attempt TaskError α :=
  ExceptT.adapt TaskError.client attempt

/-- The notice that an object was applied. -/
def appliedNotice (kind : Api.Kind) (name : String) : Log.Record :=
  { level := .debug, message := "applied desired state"
    fields := [("kind", .bare kind.name), ("name", .bare name)] }

/-- Brings an object into its desired form. -/
def apply (pass : Pass) (type : ResourceType α) (desired : α) : Attempt TaskError Unit := do
  let name := (type.metadata desired).displayName
  let _ ← call (Api.Client.apply type pass.inNamespace name desired)
  Activity.report (appliedNotice type.kind name)

/-- The notice that an object was removed. -/
def deletedNotice (kind : Api.Kind) (name : String) : Log.Record :=
  { level := .info, message := "deleted object no longer wanted"
    fields := [("kind", .bare kind.name), ("name", .bare name)] }

/-- Removes the object of a name if there is one that the agent controls. It is no failure if the
object is gone before it can be removed. -/
def deleteOwned (pass : Pass) (type : ResourceType α) (name : String) :
    Attempt TaskError Unit := do
  match ← call (Api.Client.fetchOptional type pass.inNamespace name) with
  | none => return ()
  | some existing =>
    if !(type.metadata existing).controlledBy pass.agent.metadata.uid then return ()
    match ← (Api.Client.delete type pass.inNamespace name).run with
    | .ok () => Activity.report (deletedNotice type.kind name)
    | .error cause => if cause.isGone then return () else throw (.client cause)

/-- Applies the desired object, or removes the object of its name if none is desired. -/
def converge (pass : Pass) (type : ResourceType α) (name : String) :
    Option α → Attempt TaskError Unit
  | some desired => pass.apply type desired
  | none => pass.deleteOwned type name

/-- Applies the config map with the agent's configuration. -/
def convergeConfigMap (pass : Pass) : Attempt TaskError Unit :=
  pass.apply .configMap (agentConfigMap pass.settings pass.agent)

/-- The notice that an agent runs as an existing service account. -/
def existingAccountNotice (agent : Agent) : Log.Record :=
  { level := .debug, message := "using existing service account"
    fields := [("service_account", .bare (agentServiceAccountName agent))] }

/-- Applies the agent's service account, unless the agent names an existing one. -/
def convergeServiceAccount (pass : Pass) : Attempt TaskError Unit :=
  match agentServiceAccount? pass.settings pass.agent with
  | some desired => pass.apply .serviceAccount desired
  | none => Activity.report (existingAccountNotice pass.agent)

/-- Applies the agent's service, or removes it if no ports are left. -/
def convergeService (pass : Pass) : Attempt TaskError Unit :=
  pass.converge .service (Naming.service pass.agent.name)
    (agentService? pass.settings pass.agent)

/-- The notices that come with a workload, if there is one. -/
def workloadNotices (pass : Pass) (workload : Option α) : List Log.Record :=
  match workload with
  | some _ => agentContainerNotices pass.agent.spec true
  | none => []

/-- Applies the agent's workload of one kind, or removes one that an earlier mode left behind. -/
def convergeWorkload (pass : Pass) (type : ResourceType α) (desired : Option α) :
    Attempt TaskError Unit := do
  Activity.reportAll (pass.workloadNotices desired)
  pass.converge type (Naming.workload pass.agent.name) desired

/-- Applies the agent's deployment, or removes it if the agent runs as a daemon set. -/
def convergeDeployment (pass : Pass) : Attempt TaskError Unit :=
  pass.convergeWorkload .deployment (agentDeployment? pass.settings pass.agent)

/-- Applies the agent's daemon set, or removes it if the agent runs as a deployment. -/
def convergeDaemonSet (pass : Pass) : Attempt TaskError Unit :=
  pass.convergeWorkload .daemonSet (agentDaemonSet? pass.settings pass.agent)

/-- What a deployment says about its pods. One that does not say how many there should be should
have one. -/
def deploymentReadiness (deployment : Deployment) : Readiness :=
  { ready := (deployment.status.bind DeploymentStatus.readyReplicas).getD 0
    desired := (deployment.spec.bind DeploymentSpec.replicas).getD 1 }

/-- What a daemon set says about its pods. -/
def daemonSetReadiness (daemonSet : DaemonSet) : Readiness :=
  let status := daemonSet.status.getD {}
  { ready := status.numberReady, desired := status.desiredNumberScheduled }

/-- Looks at the workload of the agent, which need not exist. -/
def observe (pass : Pass) : Attempt TaskError (Option Readiness) := do
  let name := Naming.workload pass.agent.name
  match pass.agent.spec.mode with
  | .deployment =>
    let found ← call (Api.Client.fetchOptional .deployment pass.inNamespace name)
    return found.map deploymentReadiness
  | .daemonSet =>
    let found ← call (Api.Client.fetchOptional .daemonSet pass.inNamespace name)
    return found.map daemonSetReadiness

/-- The change that puts a status into an agent resource. -/
def statusPatch (status : AgentStatus) : Json :=
  .ofEntries [("status", AgentStatus.codec.encode status)]

/-- The notice that the status is already there. -/
def statusUnchangedNotice : Log.Record :=
  { level := .debug, message := "status unchanged, skipping update" }

/-- The notice that the status was written. -/
def statusUpdatedNotice (status : AgentStatus) : Log.Record :=
  let ready :=
    match status.replicas with
    | some replicas => "Some(" ++ toString replicas.toInt ++ ")"
    | none => "None"
  { level := .debug, message := "status updated", fields := [("ready", .bare ready)] }

/-- Writes a status on the agent resource. -/
def writeStatus (pass : Pass) (status : AgentStatus) : Attempt TaskError Unit := do
  let _ ← call
    (Api.Client.patchStatus .agent pass.inNamespace pass.agent.name (statusPatch status))
  Activity.report (statusUpdatedNotice status)

/-- Reports the state of the workload on the agent resource, unless it is already reported. -/
def reportStatus (pass : Pass) : Attempt TaskError Unit := do
  let readiness ← pass.observe
  let now ← Activity.readClock
  let status := desiredStatus pass.settings pass.agent readiness now
  if pass.agent.status = some status then
    Activity.report statusUnchangedNotice
  else
    pass.writeStatus status

/-- The tasks of a pass, in the order in which later objects refer to earlier ones. -/
def defaultTasks : List (Task Pass) :=
  [⟨"config maps", true, convergeConfigMap⟩,
    ⟨"service accounts", true, convergeServiceAccount⟩,
    ⟨"services", true, convergeService⟩,
    ⟨"deployments", true, convergeDeployment⟩,
    ⟨"daemon sets", true, convergeDaemonSet⟩,
    ⟨"amazon-cloudwatch-agent", true, reportStatus⟩]

end Pass

end AgentOperator
