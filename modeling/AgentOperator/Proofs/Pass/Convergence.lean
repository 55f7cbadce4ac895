import AgentOperator.Proofs.Manifest.Agreement
import AgentOperator.Proofs.Pass.Progress

/-!
# Convergence

The effect of a faultless pass on a store. `Converged` relates the store before and after: the
objects of the agent are stored with all the fields of their desired forms, a workload that an
earlier mode left behind is removed, the status of the agent reports the readiness of its workload,
and nothing else is changed. Each part is the effect of one stage: `Done.stage_turn` puts the stage
between its predecessors and successors, which leave the objects of its kind unchanged. The status
of an agent with a numbered revision is then the desired one; an agent without the number would keep
that of an earlier status (`Converged.reports_desired_iff`).
-/

namespace AgentOperator.Transcript

open Api (ObjectRef RequestFault ResourceType)
open Cluster (Serves)
open Kubernetes

variable {α σ : Type}

/-- A store has an object that carries all the fields of a desired object, which there has to be. -/
def Has (type : ResourceType α) (ref : ObjectRef) (desired : Option α)
    (store : ObjectRef → Option Json) : Prop :=
  ∃ object stored, desired = some object ∧ store ref = some stored ∧
    (type.codec.encode object).Carries stored

/-- An object is removed if the agent of a unique id controlled it, and unchanged otherwise. -/
def Cleared (type : ResourceType α) (ref : ObjectRef) (uid : Option String)
    (before after : ObjectRef → Option Json) : Prop :=
  (Controlled type ref uid before → after ref = none) ∧
    (¬ Controlled type ref uid before → after ref = before ref)

/-- `Has` depends on the stored document only. -/
theorem Has.congr {type : ResourceType α} {ref : ObjectRef} {desired : Option α}
    {store other : ObjectRef → Option Json} (h : Has type ref desired store)
    (hsame : other ref = store ref) : Has type ref desired other := by
  obtain ⟨object, stored, hdesired, hstored, hcarries⟩ := h
  exact ⟨object, stored, hdesired, hsame.trans hstored, hcarries⟩

/-- `Cleared` depends on the two stored documents only. -/
theorem Cleared.congr {type : ResourceType α} {ref : ObjectRef} {uid : Option String}
    {before after other later : ObjectRef → Option Json} (h : Cleared type ref uid before after)
    (hbefore : before ref = other ref) (hafter : later ref = after ref) :
    Cleared type ref uid other later := by
  rw [Cleared, hafter, ← hbefore, ← controlled_congr hbefore]
  exact h

/-- The resource names no service account, so that the operator makes one. -/
abbrev OwnAccount (agent : Agent) : Prop :=
  agent.spec.serviceAccount = none ∨ agent.spec.serviceAccount = some ""

/-- The objects that a pass over an agent may change. -/
def IsTouched (agent : Agent) (inNamespace name : String) (ref : ObjectRef) : Prop :=
  let label := Naming.labelOf name
  ref = ⟨.configMap, inNamespace, label⟩ ∨
    (ref = ⟨.serviceAccount, inNamespace, label⟩ ∧ OwnAccount agent) ∨
    ref = ⟨.service, inNamespace, label⟩ ∨ ref = ⟨.deployment, inNamespace, label⟩ ∨
    ref = ⟨.daemonSet, inNamespace, label⟩ ∨ ref = ⟨.agent, inNamespace, name⟩

/-- The task for the objects of a kind. -/
def taskOf : Api.Kind → String
  | .configMap => "config maps"
  | .serviceAccount => "service accounts"
  | .service => "services"
  | .deployment => "deployments"
  | .daemonSet => "daemon sets"
  | .agent => "amazon-cloudwatch-agent"

/-- What a pass over an agent makes of a store while the clock shows the times `shown`. The document
of the agent was the object of `entries`. The store has the config map, the service, the service
account unless the resource names one, and the workload of the mode of the agent, while one of the
other mode that the agent controlled is gone. The agent reports the desired status for the readiness
of the workload in the store at a time that the clock shows; without a revision of its own it keeps
that of an earlier report. All else of its document is as it was, the revision in the metadata
apart, and so are all other objects. -/
structure Converged (shown : Instant → Prop) (settings : Settings) (agent : Agent)
    (inNamespace name : String) (entries : List (String × Json))
    (before after : ObjectRef → Option Json) : Prop where
  configMap : Has .configMap ⟨.configMap, inNamespace, Naming.labelOf name⟩
    (some (agentConfigMap settings agent)) after
  serviceAccount : OwnAccount agent →
    Has .serviceAccount ⟨.serviceAccount, inNamespace, Naming.labelOf name⟩
      (agentServiceAccount? settings agent) after
  service : Has .service ⟨.service, inNamespace, Naming.labelOf name⟩
    (agentService? settings agent) after
  deployment : agent.spec.mode = .deployment →
    Has .deployment ⟨.deployment, inNamespace, Naming.labelOf name⟩
      (agentDeployment? settings agent) after ∧
    Cleared .daemonSet ⟨.daemonSet, inNamespace, Naming.labelOf name⟩ agent.metadata.uid before
      after
  daemonSet : agent.spec.mode = .daemonSet →
    Has .daemonSet ⟨.daemonSet, inNamespace, Naming.labelOf name⟩
      (agentDaemonSet? settings agent) after ∧
    Cleared .deployment ⟨.deployment, inNamespace, Naming.labelOf name⟩ agent.metadata.uid before
      after
  report : ∃ found stored now, shown now ∧ after ⟨.agent, inNamespace, name⟩ = some (.obj found) ∧
    Agent.codec.decode (.obj found) = .ok stored ∧
    stored.status = some
      { desiredStatus settings agent (readinessIn agent inNamespace name after) now with
        observedGeneration :=
          agent.metadata.generation.or (Agent.keptGeneration (.obj entries)) } ∧
    (∀ key, key ≠ "status" → key ≠ "metadata" → found.lookup key = entries.lookup key) ∧
    (found.lookup "metadata").map (·.erase "resourceVersion") =
      (entries.lookup "metadata").map (·.erase "resourceVersion")
  frame : ∀ ref, ¬ IsTouched agent inNamespace name ref → after ref = before ref

/-- An object that is no service account is none that a pass may change. -/
theorem not_account {kind : Api.Kind} (h : kind ≠ .serviceAccount) {agent : Agent}
    {inNamespace name space label : String} :
    ¬ ((⟨kind, inNamespace, name⟩ : ObjectRef) = ⟨.serviceAccount, space, label⟩ ∧
      OwnAccount agent) :=
  fun haccount => ref_ne h haccount.1

section Server

variable {host : Host σ} {objects : σ → ObjectRef → Option Json} {state final : σ}
  {unsent : RequestFault → Prop} (hserver : Serves host objects)

include hserver

/-- An object without a status that is applied is stored with all its fields. -/
theorem Applies.has {type : ResourceType α} {ref : ObjectRef} {desired : Option α}
    {exchanges : List Exchange} (h : Applies unsent type ref desired exchanges (.ok ()))
    (hstatus : ∀ object, desired = some object → IsStatusless type object)
    (hanswers : host.Answers state exchanges final) :
    Has type ref desired (objects final) ∧
      ∀ other, other ≠ ref → objects final other = objects state other := by
  obtain ⟨object, reply, stored, rfl, -, hframe, hcarries⟩ := h.effect hserver hanswers
  rw [hframe]
  refine ⟨⟨object, stored, rfl, Function.update_self .., hcarries (hstatus object rfl)⟩, ?_⟩
  intro other hother
  exact Function.update_of_ne hother ..

/-- The stage that clears an object leaves it cleared and all other objects unchanged. -/
theorem Clears.cleared {type : ResourceType α} {ref : ObjectRef} {uid : Option String}
    {exchanges : List Exchange} (h : Clears unsent type ref uid exchanges (.ok ()))
    (hfaultless : FaultFree exchanges) (hanswers : host.Answers state exchanges final) :
    Cleared type ref uid (objects state) (objects final) ∧
      ∀ other, other ≠ ref → objects final other = objects state other := by
  obtain ⟨hcontrolled, hframe, -⟩ | ⟨hforeign, hframe, -⟩ := h.effect hserver hfaultless hanswers
  · rw [hframe]
    refine ⟨⟨fun _ => Function.update_self .., fun hnot => absurd hcontrolled hnot⟩, ?_⟩
    intro other hother
    exact Function.update_of_ne hother ..
  · rw [hframe]
    exact ⟨⟨fun h => absurd h hforeign, fun _ => rfl⟩, fun _ _ => rfl⟩

variable {settings : Settings} {agent : Agent} {inNamespace name : String}
  {exchanges : List Exchange}

/-- The stage of the service account leaves one in the store unless the resource names one. -/
theorem has_service_account
    (h : (if agent.spec.serviceAccount = none ∨ agent.spec.serviceAccount = some "" then
        Applies unsent .serviceAccount ⟨.serviceAccount, inNamespace, Naming.labelOf name⟩
          (agentServiceAccount? settings agent)
      else Rests) exchanges (.ok ()))
    (hanswers : host.Answers state exchanges final) :
    (OwnAccount agent → Has .serviceAccount ⟨.serviceAccount, inNamespace, Naming.labelOf name⟩
      (agentServiceAccount? settings agent) (objects final)) ∧
      ∀ other, ¬ (other = ⟨.serviceAccount, inNamespace, Naming.labelOf name⟩ ∧ OwnAccount agent) →
        objects final other = objects state other := by
  by_cases hown : OwnAccount agent
  · rw [if_pos hown] at h
    obtain ⟨hhas, hothers⟩ := h.has hserver (fun object _ => is_statusless_service_account object)
      hanswers
    exact ⟨fun _ => hhas, fun other hother => hothers other fun heq => hother ⟨heq, hown⟩⟩
  · rw [if_neg hown] at h
    cases h with
    | rests =>
        obtain rfl := Host.answers_nil_iff.1 hanswers
        exact ⟨fun h => absurd h hown, fun _ _ => rfl⟩

/-- The stage of deployments applies one or clears it, depending on the mode. -/
theorem has_deployment
    (h : (match agent.spec.mode with
      | .deployment =>
        Applies unsent .deployment ⟨.deployment, inNamespace, Naming.labelOf name⟩
          (agentDeployment? settings agent)
      | .daemonSet =>
        Clears unsent .deployment ⟨.deployment, inNamespace, Naming.labelOf name⟩
          agent.metadata.uid) exchanges (.ok ()))
    (hfaultless : FaultFree exchanges) (hanswers : host.Answers state exchanges final) :
    (agent.spec.mode = .deployment →
      Has .deployment ⟨.deployment, inNamespace, Naming.labelOf name⟩
        (agentDeployment? settings agent) (objects final)) ∧
    (agent.spec.mode = .daemonSet →
      Cleared .deployment ⟨.deployment, inNamespace, Naming.labelOf name⟩ agent.metadata.uid
        (objects state) (objects final)) ∧
    ∀ other, other ≠ ⟨.deployment, inNamespace, Naming.labelOf name⟩ →
      objects final other = objects state other := by
  cases hmode : agent.spec.mode with
  | deployment =>
      simp only [hmode] at h
      obtain ⟨hhas, hothers⟩ := h.has hserver
        (fun object hdesired => is_statusless_agent_deployment settings hdesired) hanswers
      exact ⟨fun _ => hhas, nofun, hothers⟩
  | daemonSet =>
      simp only [hmode] at h
      obtain ⟨hcleared, hothers⟩ := h.cleared hserver hfaultless hanswers
      exact ⟨nofun, fun _ => hcleared, hothers⟩

/-- The stage of daemon sets applies one or clears it, depending on the mode. -/
theorem has_daemon_set
    (h : (match agent.spec.mode with
      | .deployment =>
        Clears unsent .daemonSet ⟨.daemonSet, inNamespace, Naming.labelOf name⟩ agent.metadata.uid
      | .daemonSet =>
        Applies unsent .daemonSet ⟨.daemonSet, inNamespace, Naming.labelOf name⟩
          (agentDaemonSet? settings agent)) exchanges (.ok ()))
    (hfaultless : FaultFree exchanges) (hanswers : host.Answers state exchanges final) :
    (agent.spec.mode = .daemonSet →
      Has .daemonSet ⟨.daemonSet, inNamespace, Naming.labelOf name⟩
        (agentDaemonSet? settings agent) (objects final)) ∧
    (agent.spec.mode = .deployment →
      Cleared .daemonSet ⟨.daemonSet, inNamespace, Naming.labelOf name⟩ agent.metadata.uid
        (objects state) (objects final)) ∧
    ∀ other, other ≠ ⟨.daemonSet, inNamespace, Naming.labelOf name⟩ →
      objects final other = objects state other := by
  cases hmode : agent.spec.mode with
  | deployment =>
      simp only [hmode] at h
      obtain ⟨hcleared, hothers⟩ := h.cleared hserver hfaultless hanswers
      exact ⟨nofun, fun _ => hcleared, hothers⟩
  | daemonSet =>
      simp only [hmode] at h
      obtain ⟨hhas, hothers⟩ := h.has hserver
        (fun object hdesired => is_statusless_agent_daemon_set settings hdesired) hanswers
      exact ⟨fun _ => hhas, nofun, hothers⟩

/-- The stage of the report leaves the desired status on the agent. -/
theorem reports_desired {shown : Instant → Prop} {entries : List (String × Json)}
    (h : Reports unsent shown settings agent inNamespace name exchanges (.ok ()))
    (hfaultless : FaultFree exchanges) (hanswers : host.Answers state exchanges final)
    (hstored : objects state ⟨.agent, inNamespace, name⟩ = some (.obj entries))
    (hagent : Agent.codec.decode (.obj entries) = .ok agent) :
    ∃ found stored now, shown now ∧ objects final ⟨.agent, inNamespace, name⟩ = some (.obj found) ∧
      Agent.codec.decode (.obj found) = .ok stored ∧
      stored.status = some
        { desiredStatus settings agent (readinessIn agent inNamespace name (objects state)) now with
          observedGeneration :=
            agent.metadata.generation.or (Agent.keptGeneration (.obj entries)) } ∧
      (∀ key, key ≠ "status" → key ≠ "metadata" → found.lookup key = entries.lookup key) ∧
      (found.lookup "metadata").map (·.erase "resourceVersion") =
        (entries.lookup "metadata").map (·.erase "resourceVersion") := by
  obtain ⟨now, hnow, ⟨hsame, hframe, -⟩ | ⟨-, before, after, stored, hbefore, hframe, hreported,
    hdecode, -⟩⟩ := h.effect hserver hfaultless hanswers
  · refine ⟨entries, agent, now, hnow, hframe ▸ hstored, hagent, ?_, fun _ _ _ => rfl, rfl⟩
    -- the stored status is the desired one, so it has no other revision
    have hkept := Agent.or_kept_generation hagent hsame
    rw [hsame]
    exact congrArg (fun generation => some { desiredStatus settings agent _ now with
      observedGeneration := generation }) hkept.symm
  · obtain rfl := Option.some.inj (hstored.symm.trans hbefore)
    obtain ⟨found, rfl, -, hother, hmetadata⟩ := hreported.get?
    rw [hframe]
    exact ⟨found, stored, now, hnow, Function.update_self .., hdecode, hreported.status hdecode,
      hother, hmetadata⟩

/-- A stage of a pass leaves an object unchanged that is not one the pass may change, or not of the
kind that the task is about. -/
theorem stages_keep {shown : Instant → Prop} {ref : ObjectRef} :
    ∀ entry ∈ stages unsent shown settings agent inNamespace name,
      (¬ IsTouched agent inNamespace name ref ∨ entry.1 ≠ taskOf ref.kind) →
        entry.2.Keeps host objects ref := by
  simp only [stages, List.forall_mem_cons]
  refine ⟨?_, ?_, ?_, ?_, ?_, ?_, List.forall_mem_nil _⟩
  -- the one object that a stage changes is touched by the pass, and of the kind of the task
  · intro href exchanges state final h hfaultless hanswers
    refine (h.has hserver (fun object _ => is_statusless_config_map object) hanswers).2 ref ?_
    intro heq
    subst heq
    exact href.elim (fun h => h (.inl rfl)) fun h => h rfl
  · intro href exchanges state final h hfaultless hanswers
    refine (has_service_account hserver h hanswers).2 ref ?_
    intro hown
    rcases hown with ⟨rfl, hown⟩
    exact href.elim (fun h => h (.inr (.inl ⟨rfl, hown⟩))) fun h => h rfl
  · intro href exchanges state final h hfaultless hanswers
    refine (h.has hserver (fun object _ => is_statusless_service object) hanswers).2 ref ?_
    intro heq
    subst heq
    exact href.elim (fun h => h (.inr (.inr (.inl rfl)))) fun h => h rfl
  · intro href exchanges state final h hfaultless hanswers
    refine (has_deployment hserver h hfaultless hanswers).2.2 ref ?_
    intro heq
    subst heq
    exact href.elim (fun h => h (.inr (.inr (.inr (.inl rfl))))) fun h => h rfl
  · intro href exchanges state final h hfaultless hanswers
    refine (has_daemon_set hserver h hfaultless hanswers).2.2 ref ?_
    intro heq
    subst heq
    exact href.elim (fun h => h (.inr (.inr (.inr (.inr (.inl rfl)))))) fun h => h rfl
  · intro href exchanges state final h hfaultless hanswers
    refine h.keeps hserver hfaultless hanswers ?_
    intro heq
    subst heq
    exact href.elim (fun h => h (.inr (.inr (.inr (.inr (.inr rfl)))))) fun h => h rfl

/-- One stage of a pass in its turn: objects of the kinds of later stages are as they were at first,
and those of the kinds of earlier stages stay unchanged. -/
theorem Done.stage_turn {shown : Instant → Prop} {title : String} {stage : Stage}
    (h : Done host (stages unsent shown settings agent inNamespace name) state exchanges final)
    (before : List (String × Stage)) {after : List (String × Stage)}
    (hrow : stages unsent shown settings agent inNamespace name =
      before ++ (title, stage) :: after) :
    ∃ sent start stop, stage sent (.ok ()) ∧ FaultFree sent ∧ host.Answers start sent stop ∧
      (∀ ref, taskOf ref.kind ∉ before.map Prod.fst → objects start ref = objects state ref) ∧
      ∀ ref, taskOf ref.kind ∉ after.map Prod.fst → objects final ref = objects stop ref := by
  have hkeeps {entry : String × Stage} {part : List (String × Stage)} {ref : ObjectRef}
      (hmem : entry ∈ part) (hpart : part ⊆ before ++ (title, stage) :: after)
      (href : taskOf ref.kind ∉ part.map Prod.fst) : entry.2.Keeps host objects ref := by
    refine stages_keep hserver entry (hrow ▸ hpart hmem) (.inr ?_)
    intro heq
    exact href (heq ▸ List.mem_map_of_mem hmem)
  obtain ⟨sent, start, stop, hstage, hfaultless, hanswers, hstart, hstop⟩ :=
    Done.turn before (hrow ▸ h)
  refine ⟨sent, start, stop, hstage, hfaultless, hanswers, fun ref href => hstart ref ?_,
    fun ref href => hstop ref ?_⟩
  · intro entry hmem
    exact hkeeps hmem (List.subset_append_left ..) href
  · intro entry hmem
    exact hkeeps hmem (fun other hother => List.mem_append_right _ (List.mem_cons_of_mem _ hother))
      href

/-- The stages of a pass converge the store. -/
theorem Done.converged {shown : Instant → Prop} {entries : List (String × Json)}
    (h : Done host (stages unsent shown settings agent inNamespace name) state exchanges final)
    (hstored : objects state ⟨.agent, inNamespace, name⟩ = some (.obj entries))
    (hagent : Agent.codec.decode (.obj entries) = .ok agent) :
    Converged shown settings agent inNamespace name entries (objects state) (objects final) where
  configMap := by
    obtain ⟨_, _, _, happlies, -, hanswers, -, hafter⟩ := h.stage_turn hserver [] rfl
    obtain ⟨hhas, -⟩ := happlies.has hserver (fun object _ => is_statusless_config_map object)
      hanswers
    exact hhas.congr (hafter _ (by simp [taskOf]))
  serviceAccount hown := by
    obtain ⟨_, _, _, happlies, -, hanswers, -, hafter⟩ := h.stage_turn hserver [_] rfl
    obtain ⟨hhas, -⟩ := has_service_account hserver happlies hanswers
    exact (hhas hown).congr (hafter _ (by simp [taskOf]))
  service := by
    obtain ⟨_, _, _, happlies, -, hanswers, -, hafter⟩ := h.stage_turn hserver [_, _] rfl
    obtain ⟨hhas, -⟩ := happlies.has hserver (fun object _ => is_statusless_service object)
      hanswers
    exact hhas.congr (hafter _ (by simp [taskOf]))
  deployment hmode := by
    obtain ⟨_, _, _, happlies, hfree, hanswers, -, hafter⟩ := h.stage_turn hserver [_, _, _] rfl
    obtain ⟨_, _, _, hclears, hfree', hanswers', hbefore', hafter'⟩ :=
      h.stage_turn hserver [_, _, _, _] rfl
    refine ⟨((has_deployment hserver happlies hfree hanswers).1 hmode).congr ?_,
      ((has_daemon_set hserver hclears hfree' hanswers').2.1 hmode).congr ?_ ?_⟩
    · exact hafter _ (by simp [taskOf])
    · exact hbefore' _ (by simp [taskOf])
    · exact hafter' _ (by simp [taskOf])
  daemonSet hmode := by
    obtain ⟨_, _, _, happlies, hfree, hanswers, -, hafter⟩ := h.stage_turn hserver [_, _, _, _] rfl
    obtain ⟨_, _, _, hclears, hfree', hanswers', hbefore', hafter'⟩ :=
      h.stage_turn hserver [_, _, _] rfl
    refine ⟨((has_daemon_set hserver happlies hfree hanswers).1 hmode).congr ?_,
      ((has_deployment hserver hclears hfree' hanswers').2.1 hmode).congr ?_ ?_⟩
    · exact hafter _ (by simp [taskOf])
    · exact hbefore' _ (by simp [taskOf])
    · exact hafter' _ (by simp [taskOf])
  report := by
    obtain ⟨_, start, stop, hreport, hfree, hanswers, hbefore, hafter⟩ :=
      h.stage_turn hserver [_, _, _, _, _] rfl
    have hthere : objects start ⟨.agent, inNamespace, name⟩ = some (.obj entries) := by
      rw [hbefore _ (by simp [taskOf]), hstored]
    -- the report is the last stage, and does not change the workload
    have hlast : objects final = objects stop := funext fun ref => hafter ref List.not_mem_nil
    have hworkload (ref : ObjectRef) (href : ref ≠ ⟨.agent, inNamespace, name⟩) :
        objects final ref = objects start ref := by
      rw [hlast, hreport.keeps hserver hfree hanswers href]
    rw [readiness_in_congr hworkload, hlast]
    exact reports_desired hserver hreport hfree hanswers hthere hagent
  frame ref href := h.keeps fun entry hmem => stages_keep hserver entry hmem (.inl href)

end Server

/-- The status of the agent in a store is exactly the desired one for the workload in the store, at
a time that the clock shows. -/
def ReportsDesired (shown : Instant → Prop) (settings : Settings) (agent : Agent)
    (inNamespace name : String) (store : ObjectRef → Option Json) : Prop :=
  ∃ document stored now, shown now ∧ store ⟨.agent, inNamespace, name⟩ = some document ∧
    Agent.codec.decode document = .ok stored ∧
    stored.status =
      some (desiredStatus settings agent (readinessIn agent inNamespace name store) now)

/-- After a pass the status of the agent is exactly the desired one if and only if the agent has a
revision, or no earlier status has one. -/
theorem Converged.reports_desired_iff {shown : Instant → Prop} {settings : Settings} {agent : Agent}
    {inNamespace name : String} {entries : List (String × Json)}
    {before after : ObjectRef → Option Json}
    (h : Converged shown settings agent inNamespace name entries before after) :
    ReportsDesired shown settings agent inNamespace name after ↔
      (agent.metadata.generation ≠ none ∨ Agent.keptGeneration (.obj entries) = none) := by
  obtain ⟨found, stored, now, hnow, hfound, hdecode, hstatus, -, -⟩ := h.report
  constructor
  · intro hreports
    rcases hreports with ⟨document, stored', now', -, hdocument, hdecode', hdesired⟩
    obtain rfl := Option.some.inj (hfound.symm.trans hdocument)
    obtain rfl := Except.ok.inj (hdecode.symm.trans hdecode')
    -- the two statuses differ in the revision only
    have hgeneration : agent.metadata.generation.or (Agent.keptGeneration (.obj entries)) =
        agent.metadata.generation :=
      congrArg AgentStatus.observedGeneration (Option.some.inj (hstatus.symm.trans hdesired))
    rw [or_iff_not_imp_left, not_not]
    intro hnone
    rwa [hnone, Option.none_or] at hgeneration
  · intro hcondition
    refine ⟨_, stored, now, hnow, hfound, hdecode, hstatus.trans (congrArg some ?_)⟩
    cases hcondition with
    | inl hgeneration => exact desired_status_or_generation hgeneration _
    | inr hnone =>
        rw [hnone, Option.or_none]
        rfl

section Passes

variable {host : Host σ} {objects : σ → ObjectRef → Option Json} {settings : Settings}
  {inNamespace name : String} {state : σ} {entries : List (String × Json)} {agent : Agent}

/-- A faultless pass converges the store. -/
theorem FaultlessPass.converged
    (h : FaultlessPass host objects settings inNamespace name state entries agent)
    (hserver : Serves host objects) :
    Converged host.Shows settings agent inNamespace name entries (objects state)
      (objects (passOutcome host settings inNamespace name state).state) := by
  obtain ⟨-, looked, rest, between, -, hframe, hstages⟩ := h.to_done hserver
  have hstored := h.stored
  rw [← hframe] at hstored ⊢
  exact hstages.converged hserver hstored h.reads

/-- A faultless pass ends well and converges the store, for every server that keeps the store and
every store that has the agent. The API server numbers the revisions of every custom resource in
`metadata.generation`; with this number the status of the agent is then exactly the desired one. -/
theorem reconcile_by_name_converges (hserver : Serves host objects)
    (h : FaultlessPass host objects settings inNamespace name state entries agent) :
    let final := (passOutcome host settings inNamespace name state).state
    (passOutcome host settings inNamespace name state).value = .ok .awaitChange ∧
      Converged host.Shows settings agent inNamespace name entries (objects state)
        (objects final) ∧
      (agent.metadata.generation ≠ none →
        ReportsDesired host.Shows settings agent inNamespace name (objects final)) := by
  intro final
  have hconverged : Converged host.Shows settings agent inNamespace name entries (objects state)
      (objects final) :=
    h.converged hserver
  refine ⟨(h.to_done hserver).1, hconverged, ?_⟩
  intro hgeneration
  exact hconverged.reports_desired_iff.2 (.inl hgeneration)

end Passes

/-- All requests about the sample agent can be sent. -/
theorem sample_sendable : Api.Sendable "agents" "sample" :=
  Api.sendable_of_short ⟨'s', _, rfl, rfl⟩ ⟨_, rfl⟩ (by decide) (by decide +kernel)

/-- A daemon set of the sample agent that an earlier mode left behind. -/
def strayDaemonSet : Json :=
  .obj
    [("apiVersion", .str "apps/v1"), ("kind", .str "DaemonSet"),
      ("metadata", .obj
        [("name", .str "sample"), ("namespace", .str "agents"),
          ("ownerReferences", .arr
            [.obj [("apiVersion", .str Agent.apiVersion), ("controller", .bool true),
              ("kind", .str Agent.kind), ("name", .str "sample"), ("uid", .str "5d1c")]])])]

/-- A cluster with the sample agent, which runs as a deployment, and a daemon set of it. -/
def sampleStore : Cluster.Store ObjectRef :=
  ⟨[(⟨.agent, "agents", "sample"⟩, .obj sampleEntries),
    (⟨.daemonSet, "agents", "sample"⟩, strayDaemonSet)]⟩

/-- The sample agent is the subject of a pass under its name. -/
theorem sample_subject :
    Subject Cluster.Store.get? "agents" "sample" sampleStore sampleEntries sampleAgent where
  stored := rfl
  reads := decode_sample_entries
  hasName := rfl
  hasNamespace := rfl
  sendable := sample_sendable

/-- The objects of the sample cluster can be read. -/
theorem sample_readable : Readable "agents" "sample" sampleStore := by
  refine .of_entries ?_ nofun
  simp only [sampleStore, List.forall_mem_cons]
  exact ⟨⟨sampleAgent, decode_sample_entries⟩, ⟨_, rfl⟩, nofun⟩

/-- The pass over the sample agent is faultless. -/
theorem sample_faultless :
    FaultlessPass (Cluster.host ⟨0, 0⟩) Cluster.Store.get? {} "agents" "sample" sampleStore
      sampleEntries sampleAgent :=
  (sample_subject.faultless sample_readable {} ⟨0, 0⟩).1

/-- The sample agent controls the daemon set in its cluster. -/
theorem controlled_stray_daemon_set :
    Controlled .daemonSet ⟨.daemonSet, "agents", Naming.labelOf "sample"⟩ sampleAgent.metadata.uid
      sampleStore.get? := by
  have hlabel : Naming.labelOf "sample" = "sample" := by decide +kernel
  rw [hlabel]
  exact ⟨strayDaemonSet, _, rfl, rfl, _, List.mem_singleton.2 rfl, rfl, rfl⟩

/-- The pass over the sample agent converges its cluster. -/
theorem sample_converges :
    let host := Cluster.host ⟨0, 0⟩
    let final := (passOutcome host {} "agents" "sample" sampleStore).state
    Serves host Cluster.Store.get? ∧
      FaultlessPass host Cluster.Store.get? {} "agents" "sample" sampleStore sampleEntries
        sampleAgent ∧
      Converged host.Shows {} sampleAgent "agents" "sample" sampleEntries sampleStore.get?
        final.get? ∧
      ReportsDesired host.Shows {} sampleAgent "agents" "sample" final.get? ∧
      final.get? ⟨.daemonSet, "agents", Naming.labelOf "sample"⟩ = none := by
  obtain ⟨-, hconverged, hreports⟩ :=
    reconcile_by_name_converges (Cluster.serves_host ⟨0, 0⟩) sample_faultless
  exact ⟨Cluster.serves_host _, sample_faultless, hconverged, hreports nofun,
    (hconverged.deployment rfl).2.1 controlled_stray_daemon_set⟩

end AgentOperator.Transcript
