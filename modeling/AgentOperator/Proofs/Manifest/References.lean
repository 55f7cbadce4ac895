import AgentOperator.Proofs.Manifest.Presence
import Mathlib.Data.List.Forall2

/-!
# References between the objects of an agent

The names and labels by which the objects of an agent refer to each other, each of which is computed
at every place that needs it. `References` says that they are equal: the pods show the config map
that is made, run as the service account that is made, and are selected by the service, port by
port; and every mount that the operator adds is the mount of a volume of the pod. `objects_refer`
shows it for every agent and all settings.
-/

namespace AgentOperator

open Kubernetes

/-- What deployments and daemon sets have in common. -/
structure Workload where
  metadata : ObjectMeta
  selector : LabelSelector
  template : PodTemplateSpec

/-- A workload that is built for an agent: its deployment or its daemon set. -/
inductive Workload.IsBuilt (settings : Settings) (agent : Agent) : Workload → Prop
  | deployment {deployment : Deployment} {spec : DeploymentSpec}
      (hbuilt : agentDeployment? settings agent = some deployment)
      (hspec : deployment.spec = some spec) :
      IsBuilt settings agent ⟨deployment.metadata, spec.selector, spec.template⟩
  | daemonSet {daemonSet : DaemonSet} {spec : DaemonSetSpec}
      (hbuilt : agentDaemonSet? settings agent = some daemonSet)
      (hspec : daemonSet.spec = some spec) :
      IsBuilt settings agent ⟨daemonSet.metadata, spec.selector, spec.template⟩

/-- The metadata of all objects that are built for an agent. -/
def builtMetadata (settings : Settings) (agent : Agent) : List ObjectMeta :=
  [(agentConfigMap settings agent).metadata]
    ++ (agentServiceAccount? settings agent).toList.map ServiceAccount.metadata
    ++ (agentService? settings agent).toList.map Service.metadata
    ++ (agentDeployment? settings agent).toList.map Deployment.metadata
    ++ (agentDaemonSet? settings agent).toList.map DaemonSet.metadata

/-- Two objects lie in one namespace, and have the same labels and owners. -/
def SameOwner (first second : ObjectMeta) : Prop :=
  first.inNamespace = second.inNamespace ∧ first.labels = second.labels ∧
    first.ownerReferences = second.ownerReferences

/-- A volume shows the config map named `name`. -/
def Shows (volume : Volume) (name : Option String) : Prop :=
  ∃ source, volume.configMap = some source ∧ some source.name = name

/-- A port of a service leads to a port of a container: it has the same number and protocol, and
sends to that number. -/
structure LeadsTo (port : ServicePort) (target : ContainerPort) : Prop where
  number : port.port = target.containerPort
  sendsTo : port.targetPort = some (.int target.containerPort)
  protocol : port.protocol = target.protocol

/-- The objects of an agent refer to each other: its service, the workload that runs it, and in the
pod of the workload the container of the agent and the volumes of the pod, of which `primary` is the
first. That volume shows the only key of the config map that is made (`configured`). The pod runs as
the service account that is made, or as the one that the resource names if none is made (`runsAs`).
The service selects the pods as the workload does, and its ports lead to those of the container in
order. The container mounts the first volume, then what the resource declares, and then for every
auxiliary config map a volume of the pod that shows it (`mounts`). -/
structure References (settings : Settings) (agent : Agent) (service : ServiceSpec)
    (workload : Workload) (pod : PodSpec) (container : Container) (primary : Volume)
    (others : List Volume) : Prop where
  makes : workload.template.spec = some pod
  runs : pod.containers = [container]
  volumes : pod.volumes = some (primary :: others)
  configured : ∃ source item data config,
    primary.configMap = some source ∧
      some source.name = (agentConfigMap settings agent).metadata.name ∧
      source.items = some [item] ∧
      (agentConfigMap settings agent).data = some data ∧ data.entries = [(item.key, config)]
  runsAs : ∃ name, pod.serviceAccountName = some name ∧
    (∀ account, agentServiceAccount? settings agent = some account →
      account.metadata.name = some name) ∧
    (agentServiceAccount? settings agent = none → agent.spec.serviceAccount = some name)
  selects : service.selector = workload.selector.matchLabels
  ports : ∃ ports targets, service.ports = some ports ∧ container.ports = some targets ∧
    List.Forall₂ LeadsTo ports targets
  mounts : ∃ first auxiliaries,
    container.volumeMounts = some (first :: agent.spec.volumeMounts ++ auxiliaries) ∧
      first.name = primary.name ∧
      List.Forall₂ (fun bundle mount => ∃ volume ∈ primary :: others,
        volume.name = mount.name ∧ Shows volume (some bundle.name))
        agent.spec.configMaps auxiliaries

variable (settings : Settings) (agent : Agent)

/-- The ports of an agent's container. -/
theorem agent_container_ports (addConfig : Bool) :
    (agentContainer settings agent.spec addConfig).ports =
      some (Ports.resolve Ports.agentPorts agent.spec.ports) :=
  non_empty_eq_some (Ports.resolve_ne_nil (by decide) _)

/-- The selector and the ports of the service of an agent. -/
theorem agent_service?_spec : ∃ service, agentService? settings agent = some service ∧
    service.spec = some
      { selector := some (Labels.selector agent)
        ports := some ((Ports.resolve Ports.agentPorts agent.spec.ports).map servicePort) } := by
  obtain ⟨service, hservice, -⟩ := agent_service?_eq_some settings agent
  refine ⟨service, hservice, ?_⟩
  unfold agentService? at hservice
  split at hservice
  · cases hservice
  · obtain rfl := Option.some.inj hservice
    rfl

/-- The port of a service that is made for a port leads to that port. -/
theorem leads_to_service_port (target : ContainerPort) : LeadsTo (servicePort target) target :=
  ⟨rfl, rfl, rfl⟩

/-- The volume of an auxiliary config map has the name of its mount and shows it. -/
theorem shows_auxiliary_source (bundle : AuxiliaryConfig) :
    (Volumes.auxiliarySource bundle).name = (Volumes.auxiliaryMount bundle).name ∧
      Shows (Volumes.auxiliarySource bundle) (some bundle.name) :=
  ⟨rfl, _, rfl, rfl⟩

/-- The pod has the volume of every auxiliary config map. -/
theorem auxiliary_source_mem_volumes {configMapName entry : String} {spec : AgentSpec}
    {bundle : AuxiliaryConfig} (h : bundle ∈ spec.configMaps) :
    Volumes.auxiliarySource bundle ∈ Volumes.volumes configMapName entry spec :=
  List.mem_append_left _ (List.mem_append_right _ (List.mem_map_of_mem h))

/-- The pod runs as the service account that is made, or as the named one. -/
theorem agent_service_account_name_spec :
    (∀ account, agentServiceAccount? settings agent = some account →
      account.metadata.name = some (agentServiceAccountName agent)) ∧
      (agentServiceAccount? settings agent = none →
        agent.spec.serviceAccount = some (agentServiceAccountName agent)) := by
  unfold agentServiceAccount?
  cases hnamed : namedServiceAccount? agent.spec with
  | none =>
      refine ⟨fun account haccount => ?_, fun hnone => ?_⟩
      · obtain rfl := Option.some.inj haccount
        rfl
      · cases hnone
  | some name =>
      refine ⟨fun account haccount => ?_, fun _ => ?_⟩
      · cases haccount
      · rw [agentServiceAccountName, hnamed]
        exact (Option.filter_eq_some_iff.1 hnamed).1

/-- Every mount of an auxiliary config map names a volume of the pod that shows it. -/
theorem forall₂_auxiliary_mount (configMapName entry : String) (spec : AgentSpec) :
    List.Forall₂ (fun bundle mount => ∃ volume ∈ Volumes.volumes configMapName entry spec,
      volume.name = mount.name ∧ Shows volume (some bundle.name))
      spec.configMaps (spec.configMaps.map Volumes.auxiliaryMount) := by
  rw [List.forall₂_map_right_iff, List.forall₂_same]
  intro bundle hbundle
  exact ⟨_, auxiliary_source_mem_volumes hbundle, shows_auxiliary_source bundle⟩

/-- The workload of an agent has its selector and its template, for both kinds. -/
theorem Workload.is_built_agent : ∃ metadata, IsBuilt settings agent
    ⟨metadata, agentSelector agent, agentPodTemplate settings agent⟩ := by
  cases hmode : agent.spec.mode with
  | deployment =>
      obtain ⟨deployment, hbuilt, hspec⟩ : ∃ deployment,
          agentDeployment? settings agent = some deployment ∧
            deployment.spec = some
              { replicas := agent.spec.replicas
                selector := agentSelector agent
                template := agentPodTemplate settings agent } := by
        unfold agentDeployment?
        rw [hmode]
        exact ⟨_, rfl, rfl⟩
      exact ⟨_, .deployment hbuilt hspec⟩
  | daemonSet =>
      obtain ⟨daemonSet, hbuilt, hspec⟩ : ∃ daemonSet,
          agentDaemonSet? settings agent = some daemonSet ∧
            daemonSet.spec = some
              { selector := agentSelector agent
                template := agentPodTemplate settings agent } := by
        unfold agentDaemonSet?
        rw [hmode]
        exact ⟨_, rfl, rfl⟩
      exact ⟨_, .daemonSet hbuilt hspec⟩

/-- An agent has a deployment if and only if it has no daemon set. -/
theorem is_some_agent_deployment?_iff :
    (agentDeployment? settings agent).isSome ↔ agentDaemonSet? settings agent = none := by
  unfold agentDeployment? agentDaemonSet?
  cases agent.spec.mode <;> simp

/-- The metadata of every object that is built for an agent is that of its owned objects, under the
label of the agent's name. -/
theorem eq_owned_metadata_of_mem {metadata : ObjectMeta}
    (h : metadata ∈ builtMetadata settings agent) :
    metadata = ownedMetadata settings agent (Naming.labelOf agent.name) := by
  unfold builtMetadata at h
  simp only [List.mem_append, List.mem_singleton, List.mem_map, Option.mem_toList] at h
  rcases h with (((rfl | ⟨account, haccount, rfl⟩) | ⟨service, hservice, rfl⟩) |
    ⟨deployment, hdeployment, rfl⟩) | ⟨daemonSet, hdaemonSet, rfl⟩
  · rfl
  · have hunnamed : agent.spec.serviceAccount = none ∨ agent.spec.serviceAccount = some "" := by
      by_contra hnamed
      rw [agent_service_account?_eq_none settings hnamed] at haccount
      cases haccount
    obtain ⟨made, hmade, hmetadata⟩ := agent_service_account?_eq_some settings hunnamed
    obtain rfl := Option.some.inj (hmade.symm.trans haccount)
    exact hmetadata
  · obtain ⟨made, hmade, hmetadata⟩ := agent_service?_eq_some settings agent
    obtain rfl := Option.some.inj (hmade.symm.trans hservice)
    exact hmetadata
  · unfold agentDeployment? at hdeployment
    split at hdeployment
    · obtain rfl := Option.some.inj hdeployment
      rfl
    · cases hdeployment
  · unfold agentDaemonSet? at hdaemonSet
    split at hdaemonSet
    · cases hdaemonSet
    · obtain rfl := Option.some.inj hdaemonSet
      rfl

/-- All objects that are built for an agent lie in one namespace, and have the same labels and
owners. -/
theorem same_owner_of_mem {first second : ObjectMeta}
    (hfirst : first ∈ builtMetadata settings agent)
    (hsecond : second ∈ builtMetadata settings agent) :
    SameOwner first second := by
  rw [eq_owned_metadata_of_mem settings agent hfirst,
    eq_owned_metadata_of_mem settings agent hsecond]
  exact ⟨rfl, rfl, rfl⟩

/-- An item of the second list of two that are related item by item is related to one of the first
list. -/
theorem exists_of_mem_of_forall₂ {α β : Type} {related : α → β → Prop} {left : List α}
    {right : List β} (h : List.Forall₂ related left right) {item : β} (hitem : item ∈ right) :
    ∃ other ∈ left, related other item := by
  induction h with
  | nil => cases hitem
  | cons hhead _ ih =>
      cases hitem with
      | head => exact ⟨_, List.mem_cons_self, hhead⟩
      | tail _ htail =>
          obtain ⟨other, hother, hrelated⟩ := ih htail
          exact ⟨other, List.mem_cons_of_mem _ hother, hrelated⟩

variable {settings agent} in
/-- A mount that the resource does not declare is the mount of a volume of the pod. -/
theorem References.mounted {service : ServiceSpec} {workload : Workload} {pod : PodSpec}
    {container : Container} {primary : Volume} {others : List Volume}
    (h : References settings agent service workload pod container primary others)
    {mounts : List VolumeMount} (hmounts : container.volumeMounts = some mounts)
    {mount : VolumeMount} (hmount : mount ∈ mounts)
    (hdeclared : mount ∉ agent.spec.volumeMounts) :
    ∃ volume ∈ primary :: others, volume.name = mount.name := by
  obtain ⟨first, auxiliaries, hall, hfirst, hauxiliaries⟩ := h.mounts
  obtain rfl := Option.some.inj (hall.symm.trans hmounts)
  rw [List.cons_append, List.mem_cons, List.mem_append] at hmount
  rcases hmount with rfl | hmount | hmount
  · exact ⟨primary, List.mem_cons_self, hfirst.symm⟩
  · exact absurd hmount hdeclared
  · obtain ⟨bundle, -, volume, hvolume, hname, -⟩ :=
      exists_of_mem_of_forall₂ hauxiliaries hmount
    exact ⟨volume, hvolume, hname⟩

/-- The objects that are built for an agent refer to each other. -/
theorem references_agent (metadata : ObjectMeta) : ∃ pod,
    References settings agent
      { selector := some (Labels.selector agent)
        ports := some ((Ports.resolve Ports.agentPorts agent.spec.ports).map servicePort) }
      ⟨metadata, agentSelector agent, agentPodTemplate settings agent⟩ pod
      (agentContainer settings agent.spec true)
      (Volumes.configSource (Naming.configMap agent.name) settings.configMapEntry)
      (agent.spec.configMaps.map Volumes.auxiliarySource ++ agent.spec.volumes) := by
  have hports : List.Forall₂ LeadsTo
      ((Ports.resolve Ports.agentPorts agent.spec.ports).map servicePort)
      (Ports.resolve Ports.agentPorts agent.spec.ports) := by
    rw [List.forall₂_map_left_iff, List.forall₂_same]
    exact fun target _ => leads_to_service_port target
  exact ⟨_,
    { makes := rfl
      runs := rfl
      volumes := rfl
      configured := ⟨_, _, _, agent.spec.config, rfl, rfl, rfl, rfl, rfl⟩
      runsAs := ⟨_, rfl, agent_service_account_name_spec settings agent⟩
      selects := rfl
      ports := ⟨_, _, rfl, agent_container_ports settings agent true, hports⟩
      mounts := ⟨Volumes.configMount, agent.spec.configMaps.map Volumes.auxiliaryMount, rfl, rfl,
        forall₂_auxiliary_mount _ _ _⟩ }⟩

/-- The objects of an agent refer to each other correctly, for every agent and all settings. There
is a service, and a workload of one of the two kinds and not of the other; the service, the config
map, the service account and the workload refer to each other; a mount that the resource does not
declare is the mount of a volume of the pod; and all objects that are built lie in one namespace and
have the same labels and owners. -/
theorem objects_refer :
    ((agentDeployment? settings agent).isSome ↔ agentDaemonSet? settings agent = none) ∧
      (∃ service serviceSpec workload pod container primary others,
        agentService? settings agent = some service ∧ service.spec = some serviceSpec ∧
          Workload.IsBuilt settings agent workload ∧
          References settings agent serviceSpec workload pod container primary others ∧
          ∀ mounts, container.volumeMounts = some mounts →
            ∀ mount ∈ mounts, mount ∉ agent.spec.volumeMounts →
              ∃ volume ∈ primary :: others, volume.name = mount.name) ∧
      ∀ first ∈ builtMetadata settings agent, ∀ second ∈ builtMetadata settings agent,
        SameOwner first second := by
  obtain ⟨service, hservice, hspec⟩ := agent_service?_spec settings agent
  obtain ⟨metadata, hbuilt⟩ := Workload.is_built_agent settings agent
  refine ⟨is_some_agent_deployment?_iff settings agent, ?_, ?_⟩
  · obtain ⟨pod, hrefers⟩ := references_agent settings agent metadata
    refine ⟨service, _, _, _, _, _, _, hservice, hspec, hbuilt, hrefers, ?_⟩
    intro mounts hmounts mount hmount hdeclared
    exact hrefers.mounted hmounts hmount hdeclared
  · intro first hfirst second hsecond
    exact same_owner_of_mem settings agent hfirst hsecond

end AgentOperator
