import AgentOperator.Manifest.Status
import AgentOperator.Manifest.Workload

/-!
# The dependencies of the objects of an agent

Two agents with the same desired state, name, namespace, unique id and labels have the same objects
(`Agree.objects`): statuses, annotations and revisions make no difference, and neither does the
time. The status does depend on the time, but only when it is first written: `desired_status_stable`
says that a stored status stays the desired one as long as the agent and its workload are unchanged.
-/

namespace AgentOperator

open Kubernetes

/-- Two agents have the same desired state and the same name, which they do have, namespace, unique
id and labels. -/
structure Agree (first second : Agent) : Prop where
  spec : first.spec = second.spec
  named : first.metadata.name ≠ none
  name : first.metadata.name = second.metadata.name
  inNamespace : first.metadata.inNamespace = second.metadata.inNamespace
  uid : first.metadata.uid = second.metadata.uid
  labels : first.metadata.labels = second.metadata.labels

namespace Agree

variable {first second : Agent} (h : Agree first second) (settings : Settings)

include h

/-- Agents that agree have the same name. -/
theorem name_eq : first.name = second.name := by
  obtain ⟨name, hname⟩ := Option.ne_none_iff_exists'.1 h.named
  unfold Agent.name ObjectMeta.displayName
  rw [← h.name, hname]
  rfl

/-- Agents that agree have the same namespace. -/
theorem namespace_name : first.namespaceName = second.namespaceName := by
  unfold Agent.namespaceName
  rw [h.inNamespace]

/-- Agents that agree have the same selector. -/
theorem selector : Labels.selector first = Labels.selector second := by
  unfold Labels.selector
  rw [h.name_eq, h.namespace_name]

/-- Agents that agree have the same labels on their objects. -/
theorem all_labels (image : String) : Labels.all first image = Labels.all second image := by
  unfold Labels.all
  rw [h.name_eq, h.selector, h.labels]

/-- Agents that agree have the same metadata on their objects. -/
theorem owned_metadata (name : String) :
    ownedMetadata settings first name =
      ownedMetadata settings second name := by
  unfold ownedMetadata Agent.controllerReference?
  rw [h.inNamespace, h.all_labels, h.spec, h.uid, h.name]

/-- Agents that agree have the same pod template. -/
theorem pod_template : agentPodTemplate settings first = agentPodTemplate settings second := by
  unfold agentPodTemplate agentServiceAccountName
  simp only [h.all_labels, h.spec, h.name_eq]

/-- Agents that agree have the same objects. -/
theorem objects :
    agentConfigMap settings first = agentConfigMap settings second ∧
      agentServiceAccount? settings first = agentServiceAccount? settings second ∧
      agentService? settings first = agentService? settings second ∧
      agentDeployment? settings first = agentDeployment? settings second ∧
      agentDaemonSet? settings first = agentDaemonSet? settings second := by
  refine ⟨?_, ?_, ?_, ?_, ?_⟩
  · unfold agentConfigMap
    rw [h.owned_metadata, h.name_eq, h.spec]
  · unfold agentServiceAccount? agentServiceAccountName
    rw [h.owned_metadata, h.name_eq, h.spec]
  · unfold agentService?
    rw [h.owned_metadata, h.name_eq, h.spec, h.selector]
  · unfold agentDeployment? agentSelector
    rw [h.owned_metadata, h.name_eq, h.spec, h.selector, h.pod_template]
  · unfold agentDaemonSet? agentSelector
    rw [h.owned_metadata, h.name_eq, h.spec, h.selector, h.pod_template]

end Agree

/-- The readiness condition of a desired status. -/
theorem readiness?_desired_status (settings : Settings) (agent : Agent)
    (readiness : Option Readiness) (now : Instant) :
    (desiredStatus settings agent readiness now).readiness? = some
      { type := readyCondition
        status := conditionWord (isReady readiness)
        lastTransitionTime := transitionTime (agent.status.bind AgentStatus.readiness?)
          (conditionWord (isReady readiness)) now
        reason := some (readyReason readiness)
        message := some (readyMessage readiness) } :=
  List.find?_cons_of_pos (by simp)

/-- A stored condition keeps its time as long as its word is unchanged. -/
theorem transition_time_stable {settings : Settings} {agent later : Agent}
    {readiness : Option Readiness} {now : Instant}
    (hstatus : later.status = some (desiredStatus settings agent readiness now)) (then_ : Instant) :
    transitionTime (later.status.bind AgentStatus.readiness?)
      (conditionWord (isReady readiness)) then_ =
      transitionTime (agent.status.bind AgentStatus.readiness?)
        (conditionWord (isReady readiness)) now := by
  rw [hstatus, Option.bind_some, readiness?_desired_status]
  exact if_pos rfl

/-- A stored desired status stays the desired one as long as the desired state, the revision and the
counts of the workload are unchanged, at any time. -/
theorem desired_status_stable {settings : Settings} {agent later : Agent}
    {readiness : Option Readiness} {now : Instant} (hspec : later.spec = agent.spec)
    (hgeneration : later.metadata.generation = agent.metadata.generation)
    (hstatus : later.status = some (desiredStatus settings agent readiness now)) (then_ : Instant) :
    desiredStatus settings later readiness then_ = desiredStatus settings agent readiness now := by
  simp only [desiredStatus, hspec, hgeneration, transition_time_stable hstatus then_]

/-- The desired status of an agent with a revision has this revision, whatever an earlier one is. -/
theorem desired_status_or_generation {settings : Settings} {agent : Agent}
    {readiness : Option Readiness} {now : Instant} (hgeneration : agent.metadata.generation ≠ none)
    (earlier : Option Int64) :
    { desiredStatus settings agent readiness now with
        observedGeneration := agent.metadata.generation.or earlier } =
      desiredStatus settings agent readiness now := by
  rw [Option.or_of_isSome (Option.isSome_iff_ne_none.2 hgeneration)]
  rfl

end AgentOperator
