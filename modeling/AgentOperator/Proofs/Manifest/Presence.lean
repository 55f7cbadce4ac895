import AgentOperator.Api.Client
import AgentOperator.Manifest.Workload
import AgentOperator.Proofs.Codec.RoundTrip

/-!
# The objects of an agent

Which objects an agent has, and under which names. There is a config map and a service for every
agent, since the default ports are never all removed; a service account unless the resource names
one; and a workload of the kind of the mode. The name of all of them is the label of the agent's
name.
-/

namespace AgentOperator

open Kubernetes

/-- The entries after an upsert are not empty. -/
theorem Entries.upsert_ne_nil {α : Type} (key : String) (value : α)
    (entries : List (String × α)) : upsert key value entries ≠ [] := by
  unfold upsert
  split
  · exact List.cons_ne_nil _ _
  · split
    · exact List.cons_ne_nil _ _
    · split <;> exact List.cons_ne_nil _ _

/-- A map is not empty after some insertions if there was one or it was not empty before. -/
theorem Dict.foldl_insert_ne_nil {α β : Type} (key : β → String) (value : β → α) (items : List β)
    (d : Dict α) (h : items ≠ [] ∨ d.entries ≠ []) :
    (items.foldl (fun d item => d.insert (key item) (value item)) d).entries ≠ [] := by
  induction items generalizing d with
  | nil => exact h.resolve_left fun hitems => hitems rfl
  | cons item items ih => exact ih _ (.inr (Entries.upsert_ne_nil _ _ _))

/-- The resolved ports are not empty if one of the defaults is valid, whatever the resource
declares. -/
theorem Ports.resolve_ne_nil {defaults : List DefaultPort}
    (hvalid : defaults.filter DefaultPort.isValid ≠ []) (declared : List ServicePort) :
    resolve defaults declared ≠ [] := by
  unfold resolve portMap defaultPorts
  rw [ne_eq, List.map_eq_nil_iff]
  exact Dict.foldl_insert_ne_nil declaredName ofDeclared declared _
    (.inr (Dict.foldl_insert_ne_nil _ _ _ _ (.inl hvalid)))

variable (settings : Settings) (agent : Agent)

/-- Every agent has a service, named by its label. -/
theorem agent_service?_eq_some : ∃ service, agentService? settings agent = some service ∧
    service.metadata = ownedMetadata settings agent (Naming.labelOf agent.name) := by
  unfold agentService?
  have hvalid : Ports.agentPorts.filter Ports.DefaultPort.isValid ≠ [] := by decide
  have hports := Ports.resolve_ne_nil hvalid agent.spec.ports
  cases hmap : (Ports.resolve Ports.agentPorts agent.spec.ports).map servicePort with
  | nil => exact absurd (List.map_eq_nil_iff.1 hmap) hports
  | cons port ports => exact ⟨_, rfl, rfl⟩

/-- A resource names no service account if the name is unset or empty. -/
theorem named_service_account?_eq_none_iff (spec : AgentSpec) :
    namedServiceAccount? spec = none ↔
      spec.serviceAccount = none ∨ spec.serviceAccount = some "" := by
  unfold namedServiceAccount?
  cases hname : spec.serviceAccount with
  | none => simp
  | some name => simp

variable {agent}

/-- An agent whose resource names no service account has one. -/
theorem agent_service_account?_eq_some
    (h : agent.spec.serviceAccount = none ∨ agent.spec.serviceAccount = some "") :
    ∃ account, agentServiceAccount? settings agent = some account ∧
      account.metadata = ownedMetadata settings agent (Naming.labelOf agent.name) := by
  rw [← named_service_account?_eq_none_iff] at h
  unfold agentServiceAccount?
  rw [h]
  refine ⟨_, rfl, ?_⟩
  rw [agentServiceAccountName, h]
  rfl

/-- An agent whose resource names a service account has none. -/
theorem agent_service_account?_eq_none
    (h : ¬ (agent.spec.serviceAccount = none ∨ agent.spec.serviceAccount = some "")) :
    agentServiceAccount? settings agent = none := by
  rw [← named_service_account?_eq_none_iff] at h
  obtain ⟨name, hname⟩ := Option.ne_none_iff_exists'.1 h
  unfold agentServiceAccount?
  rw [hname]

/-- An agent in the mode of a deployment has one, and no daemon set. -/
theorem workload_of_deployment (h : agent.spec.mode = .deployment) :
    (∃ deployment, agentDeployment? settings agent = some deployment ∧
      deployment.metadata = ownedMetadata settings agent (Naming.labelOf agent.name) ∧
      deployment.status = none) ∧
      agentDaemonSet? settings agent = none := by
  unfold agentDeployment? agentDaemonSet?
  rw [h]
  exact ⟨⟨_, rfl, rfl, rfl⟩, rfl⟩

/-- An agent in the mode of a daemon set has one, and no deployment. -/
theorem workload_of_daemon_set (h : agent.spec.mode = .daemonSet) :
    (∃ daemonSet, agentDaemonSet? settings agent = some daemonSet ∧
      daemonSet.metadata = ownedMetadata settings agent (Naming.labelOf agent.name) ∧
      daemonSet.status = none) ∧
      agentDeployment? settings agent = none := by
  unfold agentDeployment? agentDaemonSet?
  rw [h]
  exact ⟨⟨_, rfl, rfl, rfl⟩, rfl⟩

/-- The document of an object has no status. -/
def IsStatusless {α : Type} (type : Api.ResourceType α) (object : α) : Prop :=
  (type.codec.encode object).get? "status" = none

/-- Config maps have no status. -/
theorem is_statusless_config_map (object : ConfigMap) : IsStatusless .configMap object := by
  refine Codec.get?_kind_encode (by decide) (by decide) ?_
  exact Fields.not_written_field (Fields.not_written_field (Fields.not_written_build _ _ _)
    (.inl (by decide))) (.inl (by decide))

/-- Service accounts have no status. -/
theorem is_statusless_service_account (object : ServiceAccount) :
    IsStatusless .serviceAccount object := by
  refine Codec.get?_kind_encode (by decide) (by decide) ?_
  exact Fields.not_written_field (Fields.not_written_build _ _ _) (.inl (by decide))

/-- Services are written without a status. -/
theorem is_statusless_service (object : Service) : IsStatusless .service object := by
  refine Codec.get?_kind_encode (by decide) (by decide) ?_
  exact Fields.not_written_field (Fields.not_written_field (Fields.not_written_build _ _ _)
    (.inl (by decide))) (.inl (by decide))

/-- A deployment without a status is written without one. -/
theorem is_statusless_deployment {object : Deployment} (h : object.status = none) :
    IsStatusless .deployment object := by
  refine Codec.get?_kind_encode (by decide) (by decide) ?_
  exact Fields.not_written_field (Fields.not_written_field (Fields.not_written_field
    (Fields.not_written_build _ _ _) (.inl (by decide))) (.inl (by decide)))
    (.inr (by rw [h]; rfl))

/-- A daemon set without a status is written without one. -/
theorem is_statusless_daemon_set {object : DaemonSet} (h : object.status = none) :
    IsStatusless .daemonSet object := by
  refine Codec.get?_kind_encode (by decide) (by decide) ?_
  exact Fields.not_written_field (Fields.not_written_field (Fields.not_written_field
    (Fields.not_written_build _ _ _) (.inl (by decide))) (.inl (by decide)))
    (.inr (by rw [h]; rfl))

/-- The deployment of an agent is written without a status. -/
theorem is_statusless_agent_deployment {object : Deployment}
    (h : agentDeployment? settings agent = some object) : IsStatusless .deployment object := by
  cases hmode : agent.spec.mode with
  | deployment =>
      obtain ⟨⟨deployment, hthere, -, hnone⟩, -⟩ := workload_of_deployment settings hmode
      obtain rfl := Option.some.inj (hthere.symm.trans h)
      exact is_statusless_deployment hnone
  | daemonSet =>
      rw [(workload_of_daemon_set settings hmode).2] at h
      cases h

/-- The daemon set of an agent is written without a status. -/
theorem is_statusless_agent_daemon_set {object : DaemonSet}
    (h : agentDaemonSet? settings agent = some object) : IsStatusless .daemonSet object := by
  cases hmode : agent.spec.mode with
  | deployment =>
      rw [(workload_of_deployment settings hmode).2] at h
      cases h
  | daemonSet =>
      obtain ⟨⟨daemonSet, hthere, -, hnone⟩, -⟩ := workload_of_daemon_set settings hmode
      obtain rfl := Option.some.inj (hthere.symm.trans h)
      exact is_statusless_daemon_set hnone

end AgentOperator
