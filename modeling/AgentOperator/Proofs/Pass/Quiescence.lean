import AgentOperator.Proofs.Pass.Convergence

/-!
# Quiescence

The writes of the operator trigger further passes, so a second pass must not write anything that
would trigger a third one to act. It applies the same documents again, which changes nothing, sends
no DELETE and writes no status. `Done.sends` gives the requests of a pass, and `Undisturbed` the
part of the store that a later pass has to find as the one before it left it; all else may change
between the two, and the second one may come at any time.
-/

namespace AgentOperator.Transcript

open Api (ObjectRef Request RequestFault ResourceType)
open Cluster (Serves)
open Kubernetes

variable {α σ : Type}

/-- Whether a request applies a document. -/
def isApplication : Request → Bool
  | .apply _ _ => true
  | _ => false

/-- The requests that apply documents, in their order. -/
def applications (exchanges : List Exchange) : List Request :=
  (exchanges.map Prod.fst).filter isApplication

/-- No exchange is a DELETE or a PATCH of a status. -/
def Quiet (exchanges : List Exchange) : Prop :=
  ∀ request reply, (request, reply) ∈ exchanges →
    (∀ ref, request ≠ .delete ref) ∧ ∀ ref change, request ≠ .patchStatus ref change

/-- The request that applies a desired object, if there is one. -/
def application (type : ResourceType α) (ref : ObjectRef) (desired : Option α) : List Request :=
  (desired.map fun object => Request.apply ref (type.codec.encode object)).toList

/-- The requests that apply the objects of an agent, in the order of the stages. -/
def agentApplications (settings : Settings) (agent : Agent) (inNamespace name : String) :
    List Request :=
  let label := Naming.labelOf name
  application .configMap ⟨.configMap, inNamespace, label⟩ (some (agentConfigMap settings agent)) ++
    application .serviceAccount ⟨.serviceAccount, inNamespace, label⟩
      (agentServiceAccount? settings agent) ++
    application .service ⟨.service, inNamespace, label⟩ (agentService? settings agent) ++
    application .deployment ⟨.deployment, inNamespace, label⟩ (agentDeployment? settings agent) ++
    application .daemonSet ⟨.daemonSet, inNamespace, label⟩ (agentDaemonSet? settings agent)

/-- Agents that agree have the same applications. -/
theorem agent_applications_congr {first second : Agent} (h : Agree first second)
    (settings : Settings) (inNamespace name : String) :
    agentApplications settings first inNamespace name =
      agentApplications settings second inNamespace name := by
  obtain ⟨hconfigMap, haccount, hservice, hdeployment, hdaemonSet⟩ := h.objects settings
  unfold agentApplications
  rw [hconfigMap, haccount, hservice, hdeployment, hdaemonSet]

/-- The applications of a concatenation. -/
theorem applications_append (first second : List Exchange) :
    applications (first ++ second) = applications first ++ applications second := by
  unfold applications
  rw [List.map_append, List.filter_append]

/-- A concatenation is quiet if both parts are. -/
theorem Quiet.append {first second : List Exchange} (hfirst : Quiet first)
    (hsecond : Quiet second) : Quiet (first ++ second) := by
  intro request reply hmem
  cases List.mem_append.1 hmem with
  | inl h => exact hfirst request reply h
  | inr h => exact hsecond request reply h

/-- The empty list of exchanges is quiet. -/
theorem quiet_nil : Quiet [] := nofun

/-- A single exchange that is a GET or an application is quiet. -/
theorem quiet_singleton {request : Request} {reply : Api.Reply}
    (hdelete : ∀ ref, request ≠ .delete ref)
    (hpatch : ∀ ref change, request ≠ .patchStatus ref change) : Quiet [(request, reply)] := by
  intro other _ hmem
  obtain ⟨rfl, rfl⟩ := Prod.mk.inj (List.mem_singleton.1 hmem)
  exact ⟨hdelete, hpatch⟩

/-- An object that was cleared is not controlled. -/
theorem Cleared.not_controlled {type : ResourceType α} {ref : ObjectRef} {uid : Option String}
    {before after : ObjectRef → Option Json} (h : Cleared type ref uid before after) :
    ¬ Controlled type ref uid after := by
  intro hafter
  by_cases hbefore : Controlled type ref uid before
  · obtain ⟨document, -, hdocument, -⟩ := hafter
    rw [h.1 hbefore] at hdocument
    cases hdocument
  · exact hbefore ((controlled_congr (h.2 hbefore)).1 hafter)

/-- What a later pass finds as the one before it left it: the desired state and the metadata of the
agent, the revision of the stored object apart, the report on it, and the workload of the kind that
the mode does not ask for, if there is one. Anything else may have changed. -/
structure Undisturbed (agent later : Agent) (inNamespace name : String)
    (left found : ObjectRef → Option Json) : Prop where
  spec : later.spec = agent.spec
  metadata : { later.metadata with resourceVersion := none } =
    { agent.metadata with resourceVersion := none }
  status : ∃ document stored, left ⟨.agent, inNamespace, name⟩ = some document ∧
    Agent.codec.decode document = .ok stored ∧ later.status = stored.status
  workload : match agent.spec.mode with
    | .deployment => found ⟨.daemonSet, inNamespace, Naming.labelOf name⟩ =
        left ⟨.daemonSet, inNamespace, Naming.labelOf name⟩
    | .daemonSet => found ⟨.deployment, inNamespace, Naming.labelOf name⟩ =
        left ⟨.deployment, inNamespace, Naming.labelOf name⟩

section Server

variable {host : Host σ} {objects : σ → ObjectRef → Option Json} {state final : σ}
  {unsent : RequestFault → Prop} (hserver : Serves host objects)

include hserver

/-- The stage that applies an object sends the one request that applies it. -/
theorem Applies.sends {type : ResourceType α} {ref : ObjectRef} {desired : Option α}
    {exchanges : List Exchange} (h : Applies unsent type ref desired exchanges (.ok ()))
    (hanswers : host.Answers state exchanges final) :
    applications exchanges = application type ref desired ∧ Quiet exchanges := by
  obtain ⟨object, reply, stored, rfl, rfl, -, -⟩ := h.effect hserver hanswers
  exact ⟨rfl, quiet_singleton nofun nofun⟩

/-- The stage that clears an object applies nothing, and is quiet if the agent does not control the
object. -/
theorem Clears.sends {type : ResourceType α} {ref : ObjectRef} {uid : Option String}
    {exchanges : List Exchange} (h : Clears unsent type ref uid exchanges (.ok ()))
    (hfaultless : FaultFree exchanges) (hanswers : host.Answers state exchanges final) :
    applications exchanges = [] ∧
      (¬ Controlled type ref uid (objects state) → Quiet exchanges) := by
  obtain ⟨hcontrolled, -, looked, deleted, rfl⟩ | ⟨-, -, looked, rfl⟩ :=
    h.effect hserver hfaultless hanswers
  · exact ⟨rfl, fun hforeign => absurd hcontrolled hforeign⟩
  · exact ⟨rfl, fun _ => quiet_singleton nofun nofun⟩

variable {settings : Settings} {agent : Agent} {inNamespace name : String}
  {exchanges : List Exchange}

/-- The stage of the service account applies one unless the resource names one. -/
theorem service_account_sends
    (h : (if agent.spec.serviceAccount = none ∨ agent.spec.serviceAccount = some "" then
        Applies unsent .serviceAccount ⟨.serviceAccount, inNamespace, Naming.labelOf name⟩
          (agentServiceAccount? settings agent)
      else Rests) exchanges (.ok ()))
    (hanswers : host.Answers state exchanges final) :
    applications exchanges = application .serviceAccount
      ⟨.serviceAccount, inNamespace, Naming.labelOf name⟩ (agentServiceAccount? settings agent) ∧
      Quiet exchanges := by
  split at h
  · exact h.sends hserver hanswers
  · rename_i hnamed
    rw [agent_service_account?_eq_none settings hnamed]
    cases h with
    | rests => exact ⟨rfl, quiet_nil⟩

/-- The stage of deployments applies the one of the mode, and is quiet if the agent controls none
that the mode does not have. -/
theorem deployment_sends
    (h : (match agent.spec.mode with
      | .deployment =>
        Applies unsent .deployment ⟨.deployment, inNamespace, Naming.labelOf name⟩
          (agentDeployment? settings agent)
      | .daemonSet =>
        Clears unsent .deployment ⟨.deployment, inNamespace, Naming.labelOf name⟩
          agent.metadata.uid) exchanges (.ok ()))
    (hfaultless : FaultFree exchanges) (hanswers : host.Answers state exchanges final) :
    applications exchanges = application .deployment
      ⟨.deployment, inNamespace, Naming.labelOf name⟩ (agentDeployment? settings agent) ∧
      ((agent.spec.mode = .daemonSet → ¬ Controlled .deployment
        ⟨.deployment, inNamespace, Naming.labelOf name⟩ agent.metadata.uid (objects state)) →
        Quiet exchanges) := by
  cases hmode : agent.spec.mode with
  | deployment =>
      simp only [hmode] at h
      obtain ⟨happlied, hquiet⟩ := h.sends hserver hanswers
      exact ⟨happlied, fun _ => hquiet⟩
  | daemonSet =>
      simp only [hmode] at h
      obtain ⟨happlied, hquiet⟩ := h.sends hserver hfaultless hanswers
      rw [(workload_of_daemon_set settings hmode).2]
      exact ⟨happlied, fun hforeign => hquiet (hforeign rfl)⟩

/-- The stage of daemon sets applies the one of the mode, and is quiet if the agent controls none
that the mode does not have. -/
theorem daemon_set_sends
    (h : (match agent.spec.mode with
      | .deployment =>
        Clears unsent .daemonSet ⟨.daemonSet, inNamespace, Naming.labelOf name⟩ agent.metadata.uid
      | .daemonSet =>
        Applies unsent .daemonSet ⟨.daemonSet, inNamespace, Naming.labelOf name⟩
          (agentDaemonSet? settings agent)) exchanges (.ok ()))
    (hfaultless : FaultFree exchanges) (hanswers : host.Answers state exchanges final) :
    applications exchanges = application .daemonSet
      ⟨.daemonSet, inNamespace, Naming.labelOf name⟩ (agentDaemonSet? settings agent) ∧
      ((agent.spec.mode = .deployment → ¬ Controlled .daemonSet
        ⟨.daemonSet, inNamespace, Naming.labelOf name⟩ agent.metadata.uid (objects state)) →
        Quiet exchanges) := by
  cases hmode : agent.spec.mode with
  | deployment =>
      simp only [hmode] at h
      obtain ⟨happlied, hquiet⟩ := h.sends hserver hfaultless hanswers
      rw [(workload_of_deployment settings hmode).2]
      exact ⟨happlied, fun hforeign => hquiet (hforeign rfl)⟩
  | daemonSet =>
      simp only [hmode] at h
      obtain ⟨happlied, hquiet⟩ := h.sends hserver hanswers
      exact ⟨happlied, fun _ => hquiet⟩

/-- The stage of the report applies nothing, and is quiet if the status is the desired one at all
times. -/
theorem Reports.sends {shown : Instant → Prop}
    (h : Reports unsent shown settings agent inNamespace name exchanges (.ok ()))
    (hfaultless : FaultFree exchanges) (hanswers : host.Answers state exchanges final) :
    applications exchanges = [] ∧
      ((∀ now, agent.status = some (desiredStatus settings agent
        (readinessIn agent inNamespace name (objects state)) now)) → Quiet exchanges) := by
  obtain ⟨now, -, ⟨-, -, ref, looked, rfl⟩ | ⟨hchanged, -, -, -, -, -, -, -, ref, looked, change,
    patched, rfl⟩⟩ := h.effect hserver hfaultless hanswers
  · exact ⟨rfl, fun _ => quiet_singleton nofun nofun⟩
  · exact ⟨rfl, fun hsame => absurd (hsame now) hchanged⟩

/-- The stages of a pass apply the objects of the agent and no others. They are quiet if the agent
controls no workload of the other kind and its status is the desired one at all times. -/
theorem Done.sends {shown : Instant → Prop}
    (h : Done host (stages unsent shown settings agent inNamespace name) state exchanges final) :
    applications exchanges = agentApplications settings agent inNamespace name ∧
      ((agent.spec.mode = .daemonSet → ¬ Controlled .deployment
          ⟨.deployment, inNamespace, Naming.labelOf name⟩ agent.metadata.uid (objects state)) →
        (agent.spec.mode = .deployment → ¬ Controlled .daemonSet
          ⟨.daemonSet, inNamespace, Naming.labelOf name⟩ agent.metadata.uid (objects state)) →
        (∀ now, agent.status = some (desiredStatus settings agent
          (readinessIn agent inNamespace name (objects final)) now)) → Quiet exchanges) := by
  obtain ⟨configs, _, afterConfig, rfl, hconfig, -, hconfigAnswers, h⟩ := h.head
  obtain ⟨accounts, _, afterAccount, rfl, haccount, -, haccountAnswers, h⟩ := h.head
  obtain ⟨services, _, afterService, rfl, hservice, -, hserviceAnswers, h⟩ := h.head
  obtain ⟨deployments, _, afterDeployment, rfl, hdeployment, hdeploymentFree, hdeploymentAnswers,
    h⟩ := h.head
  obtain ⟨daemonSets, _, afterDaemonSet, rfl, hdaemonSet, hdaemonSetFree, hdaemonSetAnswers, h⟩ :=
    h.head
  obtain ⟨reports, _, _, rfl, hreport, hreportFree, hreportAnswers, h⟩ := h.head
  obtain ⟨rfl, rfl⟩ := h.of_nil
  -- what each stage sends
  obtain ⟨sendsConfig, quietConfig⟩ := hconfig.sends hserver hconfigAnswers
  obtain ⟨sendsAccount, quietAccount⟩ := service_account_sends hserver haccount haccountAnswers
  obtain ⟨sendsService, quietService⟩ := hservice.sends hserver hserviceAnswers
  obtain ⟨sendsDeployment, quietDeployment⟩ :=
    deployment_sends hserver hdeployment hdeploymentFree hdeploymentAnswers
  obtain ⟨sendsDaemonSet, quietDaemonSet⟩ :=
    daemon_set_sends hserver hdaemonSet hdaemonSetFree hdaemonSetAnswers
  obtain ⟨sendsReport, quietReport⟩ := hreport.sends hserver hreportFree hreportAnswers
  refine ⟨?_, fun hnoDeployment hnoDaemonSet hsame => ?_⟩
  · simp only [applications_append, sendsConfig, sendsAccount, sendsService, sendsDeployment,
      sendsDaemonSet, sendsReport, agentApplications, List.append_assoc, List.append_nil]
  · -- the stages before it leave a workload alone, and so does the report after it
    have keepConfig := (hconfig.has hserver (fun object _ => is_statusless_config_map object)
      hconfigAnswers).2
    have keepAccount := (has_service_account hserver haccount haccountAnswers).2
    have keepService := (hservice.has hserver (fun object _ => is_statusless_service object)
      hserviceAnswers).2
    have keepDeployment := (has_deployment hserver hdeployment hdeploymentFree
      hdeploymentAnswers).2.2
    have hfoundDeployment : objects afterService ⟨.deployment, inNamespace, Naming.labelOf name⟩ =
        objects state ⟨.deployment, inNamespace, Naming.labelOf name⟩ := by
      rw [keepService _ (ref_ne (by decide)), keepAccount _ (not_account (by decide)),
        keepConfig _ (ref_ne (by decide))]
    have hfoundDaemonSet : objects afterDeployment ⟨.daemonSet, inNamespace, Naming.labelOf name⟩ =
        objects state ⟨.daemonSet, inNamespace, Naming.labelOf name⟩ := by
      rw [keepDeployment _ (ref_ne (by decide)), keepService _ (ref_ne (by decide)),
        keepAccount _ (not_account (by decide)), keepConfig _ (ref_ne (by decide))]
    rw [← controlled_congr hfoundDeployment] at hnoDeployment
    rw [← controlled_congr hfoundDaemonSet] at hnoDaemonSet
    rw [readiness_in_congr fun _ => hreport.keeps hserver hreportFree hreportAnswers] at hsame
    exact quietConfig.append (quietAccount.append (quietService.append
      ((quietDeployment hnoDeployment).append ((quietDaemonSet hnoDaemonSet).append
        ((quietReport hsame).append quiet_nil)))))

end Server

section Cluster

variable {now later : Instant} {store final : Cluster.Store ObjectRef} {settings : Settings}
  {agent : Agent} {inNamespace name : String} {exchanges : List Exchange}

/-- On a cluster an applied object is stored as it was sent, with the status that it had. -/
theorem Applies.stored {unsent : RequestFault → Prop} {type : ResourceType α} {ref : ObjectRef}
    {desired : Option α} (h : Applies unsent type ref desired exchanges (.ok ()))
    (hanswers : (Cluster.host now).Answers store exchanges final) :
    ∃ object, desired = some object ∧ final.get? ref =
      some (Cluster.keepStatus (store.get? ref) (type.codec.encode object)) := by
  cases h with
  | applied hdesired hasks =>
      obtain ⟨reply, rfl, -⟩ := hasks.of_ok
      obtain ⟨-, rfl⟩ := Host.answers_singleton_iff.1 hanswers
      refine ⟨_, hdesired, ?_⟩
      show (store.put ref _).get? ref = _
      rw [Cluster.Store.get?_put, if_pos rfl]

/-- The reference to the workload of an agent, of the kind of its mode. -/
def workloadRef (agent : Agent) (inNamespace name : String) : ObjectRef :=
  match agent.spec.mode with
  | .deployment => ⟨.deployment, inNamespace, Naming.labelOf name⟩
  | .daemonSet => ⟨.daemonSet, inNamespace, Naming.labelOf name⟩

/-- The document of the workload that an agent asks for. -/
def workloadDocument? (settings : Settings) (agent : Agent) : Option Json :=
  match agent.spec.mode with
  | .deployment => (agentDeployment? settings agent).map Deployment.codec.encode
  | .daemonSet => (agentDaemonSet? settings agent).map DaemonSet.codec.encode

/-- A pass on a cluster leaves the workload as it was sent, with the status that it had. -/
theorem Done.workload {unsent : RequestFault → Prop} {shown : Instant → Prop}
    (h : Done (Cluster.host now) (stages unsent shown settings agent inNamespace name) store
      exchanges final) :
    ∃ document, workloadDocument? settings agent = some document ∧
      document.get? "status" = none ∧
      final.get? (workloadRef agent inNamespace name) = some (Cluster.keepStatus
        (store.get? (workloadRef agent inNamespace name)) document) := by
  have hserver := Cluster.serves_host now
  unfold workloadRef workloadDocument?
  cases hmode : agent.spec.mode with
  | deployment =>
      obtain ⟨_, _, _, happlies, -, hanswers, hbefore, hafter⟩ :=
        h.stage_turn hserver [_, _, _] rfl
      simp only [hmode] at happlies
      obtain ⟨deployment, hdesired, hstored⟩ := happlies.stored hanswers
      refine ⟨_, congrArg (Option.map _) hdesired, is_statusless_agent_deployment settings hdesired,
        ?_⟩
      rw [hafter _ (by simp [taskOf]), hstored, hbefore _ (by simp [taskOf])]
      rfl
  | daemonSet =>
      obtain ⟨_, _, _, happlies, -, hanswers, hbefore, hafter⟩ :=
        h.stage_turn hserver [_, _, _, _] rfl
      simp only [hmode] at happlies
      obtain ⟨daemonSet, hdesired, hstored⟩ := happlies.stored hanswers
      refine ⟨_, congrArg (Option.map _) hdesired, is_statusless_agent_daemon_set settings hdesired,
        ?_⟩
      rw [hafter _ (by simp [taskOf]), hstored, hbefore _ (by simp [taskOf])]
      rfl

/-- Agents that agree have the same workload under the same reference. -/
theorem workload_congr {first second : Agent} (h : Agree first second) (settings : Settings)
    (inNamespace name : String) :
    workloadRef first inNamespace name = workloadRef second inNamespace name ∧
      workloadDocument? settings first = workloadDocument? settings second := by
  obtain ⟨-, -, -, hdeployment, hdaemonSet⟩ := h.objects settings
  unfold workloadRef workloadDocument?
  rw [h.spec, hdeployment, hdaemonSet]
  exact ⟨rfl, rfl⟩

/-- The readiness of an agent in a store is determined by its workload. -/
theorem readiness_in_of_workload {first second : Agent} (h : first.spec = second.spec)
    {store other : ObjectRef → Option Json}
    (hworkload : store (workloadRef first inNamespace name) =
      other (workloadRef first inNamespace name)) :
    readinessIn first inNamespace name store = readinessIn second inNamespace name other := by
  rw [readiness_in_of_spec h]
  unfold workloadRef at hworkload
  unfold readinessIn
  rw [h] at hworkload
  cases hmode : second.spec.mode with
  | deployment =>
      simp only [hmode] at hworkload ⊢
      rw [hworkload]
  | daemonSet =>
      simp only [hmode] at hworkload ⊢
      rw [hworkload]

/-- Two passes on a cluster, the second one over the store that the first one leaves, observe the
same readiness, since the second one applies what is stored. -/
theorem Done.readiness_again {unsent : RequestFault → Prop} {shown shownLater : Instant → Prop}
    {laterAgent : Agent} {between left : Cluster.Store ObjectRef} {again : List Exchange}
    (hfirst : Done (Cluster.host now) (stages unsent shown settings agent inNamespace name) store
      exchanges between)
    (hsecond : Done (Cluster.host later)
      (stages unsent shownLater settings laterAgent inNamespace name) final again left)
    (hframe : final.get? = between.get?) (hagree : Agree agent laterAgent) :
    readinessIn laterAgent inNamespace name left.get? =
      readinessIn agent inNamespace name between.get? := by
  obtain ⟨document, hdocument, hstatus, hstored⟩ := hfirst.workload
  obtain ⟨document', hdocument', -, hstored'⟩ := hsecond.workload
  obtain ⟨href, hsame⟩ := workload_congr hagree settings inNamespace name
  obtain rfl := Option.some.inj (hdocument.symm.trans (hsame.trans hdocument'))
  refine (readiness_in_of_workload hagree.spec ?_).symm
  -- both passes send the same document, and the cluster keeps the status of the workload
  rw [← href, hframe, hstored, Cluster.keep_status_keep_status hstatus] at hstored'
  rw [hstored, hstored']

end Cluster

section Passes

variable {host laterHost : Host σ} {objects : σ → ObjectRef → Option Json} {settings : Settings}
  {inNamespace name : String} {state later : σ} {entries laterEntries : List (String × Json)}
  {agent laterAgent : Agent} {shown : Instant → Prop}

/-- An agent whose desired state and metadata are undisturbed agrees with the earlier one. -/
theorem Undisturbed.agree {left found : ObjectRef → Option Json}
    (h : Undisturbed agent laterAgent inNamespace name left found)
    (hname : agent.metadata.name ≠ none) : Agree agent laterAgent where
  spec := h.spec.symm
  named := hname
  name := (congrArg ObjectMeta.name h.metadata).symm
  inNamespace := (congrArg ObjectMeta.inNamespace h.metadata).symm
  uid := (congrArg ObjectMeta.uid h.metadata).symm
  labels := (congrArg ObjectMeta.labels h.metadata).symm

/-- An undisturbed agent has the same revision of its desired state. -/
theorem Undisturbed.generation {left found : ObjectRef → Option Json}
    (h : Undisturbed agent laterAgent inNamespace name left found) :
    laterAgent.metadata.generation = agent.metadata.generation :=
  (congrArg ObjectMeta.generation h.metadata :)

/-- After a pass the agent controls no workload of the kind that its mode does not have, and so it
is in a later undisturbed store. -/
theorem Converged.not_controlled_later {before left found : ObjectRef → Option Json}
    (h : Converged shown settings agent inNamespace name entries before left)
    (hundisturbed : Undisturbed agent laterAgent inNamespace name left found) :
    (laterAgent.spec.mode = .daemonSet → ¬ Controlled .deployment
      ⟨.deployment, inNamespace, Naming.labelOf name⟩ laterAgent.metadata.uid found) ∧
    (laterAgent.spec.mode = .deployment → ¬ Controlled .daemonSet
      ⟨.daemonSet, inNamespace, Naming.labelOf name⟩ laterAgent.metadata.uid found) := by
  have huid : laterAgent.metadata.uid = agent.metadata.uid :=
    (congrArg ObjectMeta.uid hundisturbed.metadata :)
  have hworkload := hundisturbed.workload
  rw [huid, hundisturbed.spec]
  constructor
  · intro hmode
    simp only [hmode] at hworkload
    rw [controlled_congr hworkload]
    exact (h.daemonSet hmode).2.not_controlled
  · intro hmode
    simp only [hmode] at hworkload
    rw [controlled_congr hworkload]
    exact (h.deployment hmode).2.not_controlled

/-- The status that a pass leaves is the desired one in a later pass that is undisturbed and
observes the same readiness, at all times. -/
theorem Converged.desired_later {before left found : ObjectRef → Option Json}
    {readiness : Option Readiness}
    (h : Converged shown settings agent inNamespace name entries before left)
    (hgeneration : agent.metadata.generation ≠ none)
    (hundisturbed : Undisturbed agent laterAgent inNamespace name left found)
    (hcounts : readiness = readinessIn agent inNamespace name left) (now : Instant) :
    laterAgent.status = some (desiredStatus settings laterAgent readiness now) := by
  obtain ⟨document, stored, hdocument, hdecode, hstatus⟩ := hundisturbed.status
  obtain ⟨left', stored', then_, -, hdocument', hdecode', hreported, -, -⟩ := h.report
  obtain rfl := Option.some.inj (hdocument.symm.trans hdocument')
  obtain rfl := Except.ok.inj (hdecode.symm.trans hdecode')
  -- the agent has a revision, so that none of an earlier status was kept
  have hdesired : laterAgent.status = some (desiredStatus settings agent readiness then_) := by
    rw [hstatus, hreported, hcounts, desired_status_or_generation hgeneration]
  rw [hdesired]
  exact congrArg some (desired_status_stable hundisturbed.spec
    hundisturbed.generation hdesired now).symm

/-- The store that a pass leaves is undisturbed. -/
theorem Converged.undisturbed {before left : ObjectRef → Option Json}
    (h : Converged shown settings agent inNamespace name entries before left)
    (hagent : Agent.codec.decode (.obj entries) = .ok agent) :
    ∃ found stored, left ⟨.agent, inNamespace, name⟩ = some (.obj found) ∧
      Agent.codec.decode (.obj found) = .ok stored ∧
      Undisturbed agent stored inNamespace name left left := by
  obtain ⟨found, stored, -, -, hfound, hdecode, -, hother, hrevised⟩ := h.report
  obtain ⟨hspec, hmetadata⟩ := Agent.eq_of_revised hagent hdecode
    (hother "spec" (by decide) (by decide)) hrevised
  refine ⟨found, stored, hfound, hdecode, hspec, hmetadata, ⟨_, stored, hfound, hdecode, rfl⟩, ?_⟩
  cases agent.spec.mode <;> rfl

/-- A pass that follows another one is quiescent: it applies the same documents again, sends no
DELETE and writes no status, if the desired state and the metadata of the agent are unchanged, and
the observed readiness is the same. The applied documents are the same for any two agents that
agree, whatever their statuses are. -/
theorem reconcile_by_name_quiescent (hserver : Serves host objects)
    (hlater : Serves laterHost objects)
    (hfirst : FaultlessPass host objects settings inNamespace name state entries agent)
    (hgeneration : agent.metadata.generation ≠ none)
    (hsecond : FaultlessPass laterHost objects settings inNamespace name later laterEntries
      laterAgent)
    (hundisturbed : Undisturbed agent laterAgent inNamespace name
      (objects (passOutcome host settings inNamespace name state).state) (objects later))
    (hcounts : readinessIn laterAgent inNamespace name
        (objects (passOutcome laterHost settings inNamespace name later).state) =
      readinessIn agent inNamespace name
        (objects (passOutcome host settings inNamespace name state).state)) :
    let first := Effect.exchanges (passOutcome host settings inNamespace name state).effects
    let second := Effect.exchanges (passOutcome laterHost settings inNamespace name later).effects
    applications first = agentApplications settings agent inNamespace name ∧
      applications second = applications first ∧ Quiet second ∧
      ∀ one other : Agent, Agree one other →
        agentApplications settings one inNamespace name =
          agentApplications settings other inNamespace name := by
  intro first second
  obtain ⟨-, looked, rest, between, hrequests, -, hstages⟩ := hfirst.to_done hserver
  obtain ⟨-, looked', rest', between', hrequests', hframe', hstages'⟩ :=
    hsecond.to_done hlater
  have hconverged := hfirst.converged hserver
  obtain ⟨hnoDeployment, hnoDaemonSet⟩ := hconverged.not_controlled_later hundisturbed
  have hdesired := hconverged.desired_later hgeneration hundisturbed hcounts
  have hagree : Agree agent laterAgent := by
    refine hundisturbed.agree ?_
    rw [hfirst.hasName]
    nofun
  -- the GET of the agent applies nothing, so only the stages count
  obtain ⟨hsends, -⟩ := hstages.sends hserver
  obtain ⟨hsends', hquiet⟩ := hstages'.sends hlater
  have hfirstSends : applications first = agentApplications settings agent inNamespace name := by
    rw [← hsends, show first = _ from hrequests]
    rfl
  have hsecondSends :
      applications second = agentApplications settings laterAgent inNamespace name := by
    rw [← hsends', show second = _ from hrequests']
    rfl
  refine ⟨hfirstSends, ?_, ?_, fun one other h => agent_applications_congr h _ _ _⟩
  · rw [hsecondSends, hfirstSends, agent_applications_congr hagree]
  · rw [hframe'] at hquiet
    have hfetch : Quiet [(.fetch ⟨.agent, inNamespace, name⟩, looked')] :=
      quiet_singleton nofun nofun
    rw [show second = _ from hrequests']
    exact hfetch.append (hquiet hnoDeployment hnoDaemonSet hdesired)

end Passes

/-- The agent that a faultless pass leaves is the subject of another pass. -/
theorem FaultlessPass.subject_left {host : Host σ} {objects : σ → ObjectRef → Option Json}
    {settings : Settings} {inNamespace name : String} {state : σ} {entries : List (String × Json)}
    {agent : Agent} (h : FaultlessPass host objects settings inNamespace name state entries agent)
    (hserver : Serves host objects) :
    let left := (passOutcome host settings inNamespace name state).state
    ∃ found stored, Subject objects inNamespace name left found stored ∧
      Undisturbed agent stored inNamespace name (objects left) (objects left) := by
  obtain ⟨found, stored, hfound, hdecode, hundisturbed⟩ := (h.converged hserver).undisturbed h.reads
  have hagree := hundisturbed.agree (by rw [h.hasName]; nofun)
  have hsubject : Subject objects inNamespace name
      (passOutcome host settings inNamespace name state).state found stored :=
    { stored := hfound
      reads := hdecode
      hasName := hagree.name.symm.trans h.hasName
      hasNamespace := hagree.inNamespace.symm.trans h.hasNamespace
      sendable := h.sendable }
  exact ⟨found, stored, hsubject, hundisturbed⟩

/-- A pass over a cluster whose objects can be read may be followed by another one at any time: that
is faultless, finds the store undisturbed, and observes the same readiness. -/
theorem Subject.runs_again {inNamespace name : String} {store : Cluster.Store ObjectRef}
    {entries : List (String × Json)} {agent : Agent}
    (h : Subject Cluster.Store.get? inNamespace name store entries agent)
    (hreadable : Readable inNamespace name store) (settings : Settings) (now later : Instant) :
    ∃ left laterEntries laterAgent,
      (passOutcome (Cluster.host now) settings inNamespace name store).state = left ∧
      FaultlessPass (Cluster.host later) Cluster.Store.get? settings inNamespace name left
        laterEntries laterAgent ∧
      Undisturbed agent laterAgent inNamespace name left.get? left.get? ∧
      readinessIn laterAgent inNamespace name
          (passOutcome (Cluster.host later) settings inNamespace name left).state.get? =
        readinessIn agent inNamespace name left.get? := by
  obtain ⟨hfirst, hleft⟩ := h.faultless hreadable settings now
  obtain ⟨found, stored, hsubject, hundisturbed⟩ :=
    hfirst.subject_left (Cluster.serves_host now)
  have hagree := hundisturbed.agree (by rw [h.hasName]; nofun)
  obtain ⟨hsecond, -⟩ := hsubject.faultless hleft settings later
  refine ⟨_, found, stored, rfl, hsecond, hundisturbed, ?_⟩
  obtain ⟨-, _, _, between, -, -, hstages⟩ := hfirst.to_done (Cluster.serves_host now)
  obtain ⟨-, _, _, between', -, hframe, hstages'⟩ := hsecond.to_done (Cluster.serves_host later)
  exact hstages.readiness_again hstages' hframe hagree

/-- Another pass over the sample agent, a minute after the first one, is quiescent. -/
theorem sample_quiescent :
    ∃ left entries agent,
      let first := passOutcome (Cluster.host ⟨0, 0⟩) {} "agents" "sample" sampleStore
      let second := passOutcome (Cluster.host ⟨60, 0⟩) {} "agents" "sample" left
      first.state = left ∧
        FaultlessPass (Cluster.host ⟨60, 0⟩) Cluster.Store.get? {} "agents" "sample" left entries
          agent ∧
        Undisturbed sampleAgent agent "agents" "sample" first.state.get? left.get? ∧
        applications (Effect.exchanges second.effects) =
          applications (Effect.exchanges first.effects) ∧
        Quiet (Effect.exchanges second.effects) := by
  obtain ⟨left, entries, agent, hleft, hsecond, hundisturbed, hcounts⟩ :=
    sample_subject.runs_again sample_readable {} ⟨0, 0⟩ ⟨60, 0⟩
  subst hleft
  obtain ⟨-, happlied, hquiet, -⟩ := reconcile_by_name_quiescent (Cluster.serves_host ⟨0, 0⟩)
    (Cluster.serves_host ⟨60, 0⟩) sample_faultless nofun hsecond hundisturbed hcounts
  exact ⟨_, entries, agent, rfl, hsecond, hundisturbed, happlied, hquiet⟩

end AgentOperator.Transcript
