import AgentOperator.Cluster.Server
import AgentOperator.Proofs.Activity.Fits
import AgentOperator.Proofs.Api.Address
import AgentOperator.Proofs.Manifest.Presence
import AgentOperator.Proofs.Pass.Transcript
import Mathlib.Data.List.Forall2

/-!
# The protocol of passes

Every pass keeps to its transcript: each function of a pass fits the relation of
`AgentOperator.Proofs.Pass.Transcript` that belongs to it, from one request up to the whole pass.
`WholePass` holds of every pass for all replies; the exchanges of the transcript are those with the
world, by `Activity.run_answers`.
-/

namespace AgentOperator.Transcript

open Api (Body ClientError Kind ObjectRef Reply Request RequestFault ResourceType)
open Attempt Kubernetes

variable {α σ : Type} {host : Host σ} {state : σ} {unsent : RequestFault → Prop}

section Requests

variable {request : Request} (hunsent : ∀ fault, request.address = .error fault → unsent fault)

include hunsent

/-- A request is sent once if it can be, and its result is the body of the reply. -/
theorem fits_send : Fits host (Api.Client.send request) state (Asks unsent request .ok) := by
  unfold Api.Client.send
  cases haddress : request.address with
  | error fault => exact fits_throw (.unsent haddress (hunsent fault haddress))
  | ok address =>
      -- sending never fails by itself: a refusal is a reply like any other
      refine fits_bind (Attempt.fits_send request) ?_ ?_
      · intro exchanges reply after hsent
        rcases hsent with ⟨_, ⟨⟩, rfl⟩
        refine fits_of_except ?_
        cases haccepted : Api.Client.accepted reply with
        | error cause => exact .failed ⟨address, haddress⟩ haccepted
        | ok body => exact .answered ⟨address, haddress⟩ ⟨body, haccepted, rfl⟩
      · intro exchanges cause hsent
        rcases hsent with ⟨_, ⟨⟩, -⟩

/-- A request is sent once if it can be, and its result is read from the body of the reply. -/
theorem fits_ask (read : Body → Except TextFault α) :
    Fits host (do
      let body ← Api.Client.send request
      Attempt.ofExcept ((read body).mapError ClientError.unexpected)) state
      (Asks unsent request read) := by
  refine fits_bind (fits_send hunsent) ?_ ?_
  · intro exchanges body after hasks
    refine fits_of_except ?_
    cases hasks with
    | answered hsent hyields =>
        obtain ⟨_, haccepted, hbody⟩ := hyields
        obtain rfl := Except.ok.inj hbody
        cases hread : read _ with
        | error fault => exact .unreadable hsent haccepted hread
        | ok value => exact .answered hsent ⟨_, haccepted, hread⟩
  · intro exchanges cause hasks
    cases hasks with
    | unsent haddress hfault => exact .unsent haddress hfault
    | failed hsent hfailed => exact .failed hsent hfailed
    | unreadable hsent haccepted hbody => cases hbody

/-- A request for an object is sent once if it can be, and its result is the object in the reply. -/
theorem fits_send_for (type : ResourceType α) :
    Fits host (Api.Client.sendFor type request) state
      (Asks unsent request (·.decode type.codec)) :=
  fits_ask hunsent _

end Requests

section Objects

variable {type : ResourceType α} {inNamespace name : String}

/-- The lookup of an object that need not exist is one GET. -/
theorem fits_fetch_optional
    (hunsent : ∀ fault, (Request.fetch (type.ref inNamespace name)).address = .error fault →
      unsent fault) :
    Fits host (Api.Client.fetchOptional type inNamespace name) state
      (Looks unsent type (type.ref inNamespace name)) := by
  refine fits_of_result (fits_send_for hunsent type) fun exchanges result after hasks => ?_
  cases result with
  | ok object => exact fits_pure (by simpa using .found hasks)
  | error cause =>
      show Fits host (Attempt.ofExcept (if cause.isAbsence then .ok none else .error cause)) after _
      refine fits_of_except ?_
      rw [List.append_nil]
      split
      · next habsent =>
          cases cause with
          | refused failure =>
              exact .absent hasks (by simpa [ClientError.isAbsence] using habsent)
          | _ => cases habsent
      · next habsent =>
          refine .failed hasks ?_
          intro failure heq hreason
          subst heq
          exact habsent (by simp [ClientError.isAbsence, hreason])

/-- Applying an object is one PATCH. -/
theorem fits_apply {pass : Pass} {desired : α}
    (hname : (type.metadata desired).displayName = name)
    (hnamespace : pass.inNamespace = inNamespace)
    (hunsent : ∀ fault, (Request.apply (type.ref inNamespace name)
      (type.codec.encode desired)).address = .error fault → unsent fault) :
    Fits host (pass.apply type desired) state
      (Applies unsent type (type.ref inNamespace name) (some desired)) := by
  subst hname hnamespace
  refine fits_adapt_bind (fits_send_for hunsent type) ?_ ?_
  · intro exchanges stored after hasks
    exact fits_report (by simpa using .applied rfl hasks)
  · intro exchanges cause hasks
    exact .failed rfl hasks

/-- `controlledBy` decides whether a controller has a unique id. -/
theorem controlled_by_iff (object : ObjectMeta) (uid : Option String) :
    object.controlledBy uid = true ↔ Controls uid object := by
  simp [ObjectMeta.controlledBy, Controls]

/-- The result of a DELETE: it is a failure unless the object is gone. -/
theorem fits_after_delete {ref : ObjectRef} {uid : Option String} {looks deletes : List Exchange}
    {object : α} {cause : ClientError} (hlooks : Looks unsent type ref looks (.ok (some object)))
    (hcontrols : Controls uid (type.metadata object))
    (hdelete : Asks unsent (.delete ref) (Api.Client.checkDeleted type) deletes (.error cause)) :
    Fits host (if cause.isGone then return () else throw (.client cause) : Attempt TaskError Unit)
      state fun rest result => Clears unsent type ref uid (looks ++ (deletes ++ rest)) result := by
  split
  · next hgone =>
      cases cause with
      | refused failure =>
          have hcode : failure.code = 404 := by simpa [ClientError.isGone] using hgone
          exact fits_pure (by simpa using .gone hlooks hcontrols hdelete hcode)
      | _ => cases hgone
  · next hgone =>
      refine fits_throw ?_
      rw [List.append_nil]
      refine .stuck hlooks hcontrols hdelete ?_
      intro failure heq hcode
      subst heq
      exact hgone (by simp [ClientError.isGone, hcode])

/-- The removal of an object is one GET, and one DELETE if the agent controls the object. -/
theorem fits_delete_owned {pass : Pass} (hnamespace : pass.inNamespace = inNamespace)
    (hunsent : ∀ request : Request, request.ref? = some (type.ref inNamespace name) →
      ∀ fault, request.address = .error fault → unsent fault) :
    Fits host (pass.deleteOwned type name) state
      (Clears unsent type (type.ref inNamespace name) pass.agent.metadata.uid) := by
  subst hnamespace
  refine fits_adapt_bind (fits_fetch_optional (hunsent _ rfl)) ?_ ?_
  · intro looks found after hlooks
    cases found with
    | none => exact fits_pure (by simpa using .absent hlooks)
    | some existing =>
        -- the only place where a pass asks for a DELETE
        by_cases hcontrols : Controls pass.agent.metadata.uid (type.metadata existing)
        · have howned := (controlled_by_iff _ _).2 hcontrols
          simp only [howned]
          refine fits_bind (fits_lift_run (fits_ask (hunsent _ rfl) _)) ?_ ?_
          · intro deletes result later hdone
            rcases hdone with ⟨_, ⟨⟩, hdelete⟩
            cases result with
            | ok value => exact fits_report (by simpa using .removed hlooks hcontrols hdelete)
            | error cause => exact fits_after_delete hlooks hcontrols hdelete
          · intro deletes cause hdone
            rcases hdone with ⟨_, ⟨⟩, -⟩
        · have hforeign : (type.metadata existing).controlledBy pass.agent.metadata.uid =
              false := by
            rwa [← Bool.not_eq_true, controlled_by_iff]
          simp only [hforeign]
          exact fits_pure (by simpa using .foreign hlooks hcontrols)
  · intro exchanges cause hlooks
    exact .unread hlooks

/-- The observation of a workload is one GET, from which the readiness is taken. -/
theorem fits_look (type : ResourceType α) (summary : α → Readiness)
    (hunsent : ∀ fault, (Request.fetch (type.ref inNamespace name)).address = .error fault →
      unsent fault) :
    Fits host (do
      let found ← Pass.call (Api.Client.fetchOptional type inNamespace name)
      return found.map summary) state fun exchanges result =>
      ∃ found, Looks unsent type (type.ref inNamespace name) exchanges found ∧
        result = (found.map (·.map summary)).mapError TaskError.client := by
  refine fits_adapt_bind (fits_fetch_optional hunsent) ?_ ?_
  · intro exchanges found after hlooks
    exact fits_pure ⟨_, by simpa using hlooks, rfl⟩
  · intro exchanges cause hlooks
    exact ⟨_, hlooks, rfl⟩

end Objects

/-- A task has the name of a stage, bails on failures and fits the stage. -/
def FitsStage {π : Type} (host : Host σ) (params : π) (task : Task π) (stage : String × Stage) :
    Prop :=
  task.name = stage.1 ∧ task.bailOnError = true ∧
    ∀ state, Fits host (task.action params) state stage.2

section Tasks

variable (settings : Settings) {agent : Agent} {inNamespace name : String}
  (hname : agent.name = name) (hnamespace : agent.namespaceName = inNamespace)
  (hunsent : ∀ request : Request, request.Mentions inNamespace name →
    ∀ fault, request.address = .error fault → unsent fault)

include hname hnamespace hunsent

/-- Applying an object of the agent is one PATCH under the label of the agent. -/
theorem fits_apply_owned (type : ResourceType α) {desired : α}
    (howned : type.metadata desired = ownedMetadata settings agent (Naming.labelOf agent.name)) :
    Fits host (Pass.apply ⟨settings, agent⟩ type desired) state
      (Applies unsent type ⟨type.kind, inNamespace, Naming.labelOf name⟩ (some desired)) := by
  refine fits_apply ?_ hnamespace fun fault => hunsent _ (.derived rfl) fault
  rw [howned, hname]
  rfl

/-- The removal of an object under the label of the agent is one GET and perhaps one DELETE. -/
theorem fits_delete_owned_label (type : ResourceType α) :
    Fits host (Pass.deleteOwned ⟨settings, agent⟩ type (Naming.labelOf agent.name)) state
      (Clears unsent type ⟨type.kind, inNamespace, Naming.labelOf name⟩ agent.metadata.uid) := by
  rw [hname]
  exact fits_delete_owned hnamespace fun request href => hunsent request (.derived href)

/-- The config map is applied. -/
theorem fits_converge_config_map :
    Fits host (Pass.convergeConfigMap ⟨settings, agent⟩) state
      (Applies unsent .configMap ⟨.configMap, inNamespace, Naming.labelOf name⟩
        (some (agentConfigMap settings agent))) :=
  fits_apply_owned settings hname hnamespace hunsent .configMap rfl

/-- The service account is applied unless the resource names one. -/
theorem fits_converge_service_account :
    Fits host (Pass.convergeServiceAccount ⟨settings, agent⟩) state
      (if agent.spec.serviceAccount = none ∨ agent.spec.serviceAccount = some "" then
        Applies unsent .serviceAccount ⟨.serviceAccount, inNamespace, Naming.labelOf name⟩
          (agentServiceAccount? settings agent)
      else Rests) := by
  unfold Pass.convergeServiceAccount
  by_cases h : agent.spec.serviceAccount = none ∨ agent.spec.serviceAccount = some ""
  · obtain ⟨account, haccount, howned⟩ := agent_service_account?_eq_some settings h
    rw [if_pos h]
    simp only [haccount]
    exact fits_apply_owned settings hname hnamespace hunsent .serviceAccount howned
  · rw [if_neg h]
    simp only [agent_service_account?_eq_none settings h]
    exact fits_report .rests

/-- The service is applied. -/
theorem fits_converge_service :
    Fits host (Pass.convergeService ⟨settings, agent⟩) state
      (Applies unsent .service ⟨.service, inNamespace, Naming.labelOf name⟩
        (agentService? settings agent)) := by
  obtain ⟨service, hservice, howned⟩ := agent_service?_eq_some settings agent
  unfold Pass.convergeService Pass.converge
  simp only [hservice]
  exact fits_apply_owned settings hname hnamespace hunsent .service howned

/-- A workload of the kind of the mode is applied. -/
theorem fits_converge_workload_some (type : ResourceType α) {desired : α}
    (howned : type.metadata desired = ownedMetadata settings agent (Naming.labelOf agent.name)) :
    Fits host (Pass.convergeWorkload ⟨settings, agent⟩ type (some desired)) state
      (Applies unsent type ⟨type.kind, inNamespace, Naming.labelOf name⟩ (some desired)) := by
  exact fits_quiet_bind (exchanges_report_all _)
    (fits_apply_owned settings hname hnamespace hunsent type howned)

/-- A workload of the other kind is cleared. -/
theorem fits_converge_workload_none (type : ResourceType α) :
    Fits host (Pass.convergeWorkload ⟨settings, agent⟩ type none) state
      (Clears unsent type ⟨type.kind, inNamespace, Naming.labelOf name⟩ agent.metadata.uid) := by
  exact fits_quiet_bind (exchanges_report_all _)
    (fits_delete_owned_label settings hname hnamespace hunsent type)

/-- The deployment is applied or cleared, depending on the mode. -/
theorem fits_converge_deployment :
    Fits host (Pass.convergeDeployment ⟨settings, agent⟩) state
      (match agent.spec.mode with
      | .deployment =>
        Applies unsent .deployment ⟨.deployment, inNamespace, Naming.labelOf name⟩
          (agentDeployment? settings agent)
      | .daemonSet =>
        Clears unsent .deployment ⟨.deployment, inNamespace, Naming.labelOf name⟩
          agent.metadata.uid) := by
  unfold Pass.convergeDeployment
  cases hmode : agent.spec.mode with
  | deployment =>
      obtain ⟨⟨deployment, hdesired, howned, -⟩, -⟩ := workload_of_deployment settings hmode
      simp only [hdesired]
      exact fits_converge_workload_some settings hname hnamespace hunsent .deployment howned
  | daemonSet =>
      obtain ⟨-, hnone⟩ := workload_of_daemon_set settings hmode
      simp only [hnone]
      exact fits_converge_workload_none settings hname hnamespace hunsent .deployment

/-- The daemon set is applied or cleared, depending on the mode. -/
theorem fits_converge_daemon_set :
    Fits host (Pass.convergeDaemonSet ⟨settings, agent⟩) state
      (match agent.spec.mode with
      | .deployment =>
        Clears unsent .daemonSet ⟨.daemonSet, inNamespace, Naming.labelOf name⟩ agent.metadata.uid
      | .daemonSet =>
        Applies unsent .daemonSet ⟨.daemonSet, inNamespace, Naming.labelOf name⟩
          (agentDaemonSet? settings agent)) := by
  unfold Pass.convergeDaemonSet
  cases hmode : agent.spec.mode with
  | deployment =>
      obtain ⟨-, hnone⟩ := workload_of_deployment settings hmode
      simp only [hnone]
      exact fits_converge_workload_none settings hname hnamespace hunsent .daemonSet
  | daemonSet =>
      obtain ⟨⟨daemonSet, hdesired, howned, -⟩, -⟩ := workload_of_daemon_set settings hmode
      simp only [hdesired]
      exact fits_converge_workload_some settings hname hnamespace hunsent .daemonSet howned

/-- The observation of the workload is one GET of the kind of the mode. -/
theorem fits_observe :
    Fits host (Pass.observe ⟨settings, agent⟩) state fun exchanges result =>
      ∃ seen, Observes unsent agent inNamespace name exchanges seen ∧
        result = seen.mapError TaskError.client := by
  have hpass : Pass.inNamespace ⟨settings, agent⟩ = inNamespace := hnamespace
  have hget (kind : Kind) (fault : RequestFault) :
      (Request.fetch ⟨kind, inNamespace, Naming.labelOf name⟩).address = .error fault →
        unsent fault := hunsent _ (.derived rfl) fault
  unfold Pass.observe
  simp only [hname, hpass]
  cases hmode : agent.spec.mode with
  | deployment =>
      refine (fits_look .deployment Pass.deploymentReadiness (hget .deployment)).mono ?_
      intro exchanges result hlook
      rcases hlook with ⟨found, hlooks, hresult⟩
      exact ⟨_, .deployment hmode hlooks, hresult⟩
  | daemonSet =>
      refine (fits_look .daemonSet Pass.daemonSetReadiness (hget .daemonSet)).mono ?_
      intro exchanges result hlook
      rcases hlook with ⟨found, hlooks, hresult⟩
      exact ⟨_, .daemonSet hmode hlooks, hresult⟩

/-- The report of the status is one GET of the workload and perhaps one PATCH. -/
theorem fits_report_status {shown : Instant → Prop} (hshown : ∀ state, shown (host.now state)) :
    Fits host (Pass.reportStatus ⟨settings, agent⟩) state
      (Reports unsent shown settings agent inNamespace name) := by
  have hpass : Pass.inNamespace ⟨settings, agent⟩ = inNamespace := hnamespace
  unfold Pass.reportStatus Pass.writeStatus
  simp only [hname, hpass]
  refine fits_bind (fits_observe settings hname hnamespace hunsent) ?_ ?_
  · intro looks readiness after hobserve
    rcases hobserve with ⟨seen, hlooks, hresult⟩
    cases seen with
    | error cause => cases hresult
    | ok seen =>
        obtain rfl := Except.ok.inj hresult
        -- the clock is read once the workload has been looked at
        have hnow := hshown after
        refine fits_quiet_bind rfl ?_
        show Fits host (if agent.status =
            some (desiredStatus settings agent readiness (host.now after))
          then _ else _) after _
        split
        · next hsame =>
            exact fits_report (by simpa using .unchanged hlooks hnow hsame)
        · next hchanged =>
            refine fits_adapt_bind (fits_send_for (hunsent _ (.status _)) .agent) ?_ ?_
            · intro patches stored last hasks
              exact fits_report (by simpa using .written hlooks hnow hchanged hasks)
            · intro patches cause hasks
              exact .unwritten hlooks hnow hchanged hasks
  · intro looks cause hobserve
    rcases hobserve with ⟨seen, hlooks, hresult⟩
    cases seen with
    | error cause =>
        obtain rfl := Except.error.inj hresult
        exact .unread hlooks
    | ok seen => cases hresult

/-- The default tasks fit the stages of a pass, one by one. -/
theorem fits_default_tasks {shown : Instant → Prop} (hshown : ∀ state, shown (host.now state)) :
    List.Forall₂ (FitsStage host ⟨settings, agent⟩) Pass.defaultTasks
      (stages unsent shown settings agent inNamespace name) := by
  refine .cons ⟨rfl, rfl, fun state => ?_⟩ <| .cons ⟨rfl, rfl, fun state => ?_⟩ <|
    .cons ⟨rfl, rfl, fun state => ?_⟩ <| .cons ⟨rfl, rfl, fun state => ?_⟩ <|
    .cons ⟨rfl, rfl, fun state => ?_⟩ <| .cons ⟨rfl, rfl, fun state => ?_⟩ .nil
  · exact fits_converge_config_map settings hname hnamespace hunsent
  · exact fits_converge_service_account settings hname hnamespace hunsent
  · exact fits_converge_service settings hname hnamespace hunsent
  · exact fits_converge_deployment settings hname hnamespace hunsent
  · exact fits_converge_daemon_set settings hname hnamespace hunsent
  · exact fits_report_status settings hname hnamespace hunsent hshown

end Tasks

section Passes

variable {inNamespace name : String} {shown : Instant → Prop}
  (hshown : ∀ state, shown (host.now state))

/-- The result of a row of stages as the run of a pipeline: a failure because the namespace is
terminating ends it well, as a halted run. -/
inductive Ends (stages : List (String × Stage)) :
    List Exchange → Except PipelineError PipelineReport → Prop where
  | settled {exchanges : List Exchange} {report : PipelineReport}
      (hrow : Row stages exchanges (.ok ())) (hhalted : report.halted = false) :
      Ends stages exchanges (.ok report)
  | halted {exchanges : List Exchange} {report : PipelineReport} {failure : PipelineError}
      (hrow : Row stages exchanges (.error failure))
      (hterminating : failure.cause.SaysNamespaceTerminating) (hhalted : report.halted = true) :
      Ends stages exchanges (.ok report)
  | stopped {exchanges : List Exchange} {failure : PipelineError}
      (hrow : Row stages exchanges (.error failure))
      (hterminating : ¬ failure.cause.SaysNamespaceTerminating) :
      Ends stages exchanges (.error failure)

/-- A stage that does not fail in front of others ends as they do. -/
theorem Ends.next {name : String} {stage : Stage} {stages : List (String × Stage)}
    {first rest : List Exchange} {result : Except PipelineError PipelineReport}
    (h : stage first (.ok ())) (hrest : Ends stages rest result) :
    Ends ((name, stage) :: stages) (first ++ rest) result := by
  cases hrest with
  | settled hrow hhalted => exact .settled (.next h hrow) hhalted
  | halted hrow hterminating hhalted => exact .halted (.next h hrow) hterminating hhalted
  | stopped hrow hterminating => exact .stopped (.next h hrow) hterminating

/-- A run of tasks that fit some stages is a row of these stages. -/
theorem fits_run_from {π : Type} {params : π} {tasks : List (Task π)}
    {stages : List (String × Stage)} (hstages : List.Forall₂ (FitsStage host params) tasks stages)
    (report : PipelineReport) (hreport : report.halted = false) (state : σ) :
    Fits host (Pipeline.runFrom params report tasks) state (Ends stages) := by
  -- induction on tasks and stages together, for whatever was reported and done before them
  induction hstages generalizing report state with
  | nil => exact fits_pure (.settled .done hreport)
  | @cons task stage tasks stages htask hstages ih =>
      obtain ⟨name, stage⟩ := stage
      obtain ⟨hname, hbail, hfits⟩ := htask
      obtain rfl : task.name = name := hname
      unfold Pipeline.runFrom
      refine fits_quiet_bind rfl ?_
      refine fits_bind (fits_lift_run (hfits _)) ?_ ?_
      · intro exchanges result after hdone
        rcases hdone with ⟨_, ⟨⟩, hstage⟩
        cases result with
        | ok value =>
            exact (ih (report.start task.name) hreport after).mono fun rest result hrest =>
              hrest.next hstage
        | error cause =>
            have hrow : Row ((task.name, stage) :: stages) exchanges (.error ⟨task.name, cause⟩) :=
              .failed hstage
            by_cases hterminating : cause.SaysNamespaceTerminating
            · have htest := (TaskError.is_namespace_terminating_iff cause).2 hterminating
              simp only [TaskFailure.classify, htest]
              refine fits_quiet_bind rfl (fits_quiet_bind rfl (fits_pure ?_))
              simpa using .halted hrow hterminating rfl
            · have htest : cause.isNamespaceTerminating = false := by
                rwa [← Bool.not_eq_true, TaskError.is_namespace_terminating_iff]
              simp only [TaskFailure.classify, htest, hbail]
              refine fits_quiet_bind rfl (fits_quiet_bind rfl (fits_throw ?_))
              simpa using .stopped hrow hterminating
      · intro exchanges cause hdone
        rcases hdone with ⟨_, ⟨⟩, -⟩

/-- Reading the agent of a name is one GET, which may stay unsent for any fault. -/
theorem fits_fetch_agent :
    Fits host (Api.Client.fetch .agent inNamespace name) state
      (Asks (fun _ => True) (.fetch ⟨.agent, inNamespace, name⟩) (·.decode Agent.codec)) :=
  fits_send_for (fun _ _ => trivial) _

/-- Recording an event is one POST. -/
theorem fits_create_event {event : Event}
    (hunsent : ∀ fault, (Request.createEvent inNamespace (Event.codec.encode event)).address =
      .error fault → unsent fault) :
    Fits host (Api.Client.createEvent inNamespace event) state
      (Asks unsent (.createEvent inNamespace (Event.codec.encode event)) readEvent) := by
  have hread : Api.Client.createEvent inNamespace event = (do
      let body ← Api.Client.send (.createEvent inNamespace (Event.codec.encode event))
      Attempt.ofExcept ((readEvent body).mapError ClientError.unexpected)) := by
    unfold Api.Client.createEvent
    refine bind_congr fun body => ?_
    unfold readEvent
    cases body.decode Event.codec <;> rfl
  rw [hread]
  exact fits_ask hunsent _

include hshown

/-- The publication of a failure is one POST of an event, whose result does not matter. -/
theorem fits_publish_failure {agent : Agent} (failure : PipelineError)
    (hplace : eventNamespace agent = inNamespace)
    (hunsent : ∀ request : Request, request.Mentions inNamespace name →
      ∀ fault, request.address = .error fault → unsent fault) :
    Fits host (ofResult do
      publishFailure agent failure
      return .error (.stopped failure) : Attempt ReconcileError NextAction) state
      fun events result => result = .error (.stopped failure) ∧
        ∃ now posted, shown now ∧ Asks unsent
          (.createEvent inNamespace (Event.codec.encode (failureEvent agent failure now))) readEvent
          events posted := by
  unfold publishFailure
  rw [hplace]
  simp only [bind_assoc]
  refine fits_clock ?_
  refine fits_of_result (fits_create_event fun fault => hunsent _ (.event _) fault) ?_
  intro events posted after hevent
  rw [← List.append_nil events] at hevent
  cases posted with
  | ok value => exact ⟨rfl, _, _, hshown state, hevent⟩
  | error cause => exact ⟨rfl, _, _, hshown state, hevent⟩

variable (settings : Settings)

/-- The tasks are run on an agent that was read, and a failure is published. -/
theorem fits_converge {agent : Agent} {fetches : List Exchange}
    (hname : agent.metadata.name = some name)
    (hnamespace : agent.metadata.inNamespace = some inNamespace)
    (hunsent : ∀ request : Request, request.Mentions inNamespace name →
      ∀ fault, request.address = .error fault → unsent fault)
    (hfetch : Asks (fun _ => True) (.fetch ⟨.agent, inNamespace, name⟩) (·.decode Agent.codec)
      fetches (.ok agent)) :
    Fits host ((Reconciler.new settings).converge agent) state fun exchanges result =>
      WholePass unsent shown settings inNamespace name (fetches ++ exchanges) result := by
  have hdisplay : agent.name = name := by
    rw [Agent.name, ObjectMeta.displayName, hname]
    rfl
  have hplace : agent.namespaceName = inNamespace := by
    rw [Agent.namespaceName, hnamespace]
    rfl
  have hevents : eventNamespace agent = inNamespace := by
    rw [eventNamespace, hnamespace]
    rfl
  have htasks := fits_default_tasks settings hdisplay hplace hunsent hshown
  refine fits_of_result (fits_run_from htasks {} rfl state) ?_
  intro exchanges result after hends
  cases hends with
  | settled hrow _ =>
      show WholePass _ _ _ _ _ (fetches ++ (exchanges ++ [])) _
      rw [List.append_nil]
      exact .settled hfetch hrow
  | halted hrow hterminating _ =>
      show WholePass _ _ _ _ _ (fetches ++ (exchanges ++ [])) _
      rw [List.append_nil]
      exact .halted hfetch hrow hterminating
  | stopped hrow hterminating =>
      refine (fits_publish_failure hshown _ hevents hunsent).mono ?_
      intro events result htold
      rcases htold with ⟨rfl, now, posted, hnow, hevent⟩
      rw [← List.append_assoc]
      exact .stopped hfetch hrow hterminating hnow hevent

/-- A pass keeps to its transcript, if the agent that it reads goes by the name and namespace that
it is read under. -/
theorem fits_reconcile_by_name
    (hagent : ∀ agent, Yields (·.decode Agent.codec)
        (host.serve (.fetch ⟨.agent, inNamespace, name⟩) state).1 agent →
      agent.metadata.name = some name ∧ agent.metadata.inNamespace = some inNamespace)
    (hunsent : (∃ address, (Request.fetch ⟨.agent, inNamespace, name⟩).address = .ok address) →
      ∀ request : Request, request.Mentions inNamespace name →
      ∀ fault, request.address = .error fault → unsent fault) :
    Fits host ((Reconciler.new settings).reconcileByName inNamespace name) state
      (WholePass unsent shown settings inNamespace name) := by
  -- the first request may stay unsent for any fault; if it is sent the others are bound by it
  refine fits_of_result fits_fetch_agent.answered ?_
  intro fetches result after hanswered
  rcases hanswered with ⟨hfetch, final, hanswers⟩
  cases result with
  | ok agent =>
      cases hfetch with
      | answered hsent hyields =>
          obtain ⟨rfl, -⟩ := Host.answers_cons_iff.1 hanswers
          obtain ⟨hname, hnamespace⟩ := hagent agent hyields
          exact fits_converge hshown settings hname hnamespace (hunsent hsent)
            (.answered hsent hyields)
  | error cause =>
      cases hgone : cause.isGone with
      | true =>
          simp only [hgone]
          cases cause with
          | refused failure =>
              have hcode : failure.code = 404 := by simpa [ClientError.isGone] using hgone
              show WholePass _ _ _ _ _ (fetches ++ []) (.ok .awaitChange)
              rw [List.append_nil]
              exact .absent hfetch hcode
          | _ => cases hgone
      | false =>
          simp only [hgone]
          show WholePass _ _ _ _ _ (fetches ++ []) (.error (.unfetched inNamespace name cause))
          rw [List.append_nil]
          refine .unfetched hfetch ?_
          intro failure heq hcode
          subst heq
          simp [ClientError.isGone, hcode] at hgone

end Passes

/-- Every pass keeps to its transcript, for all replies, for a name that begins with an ASCII letter
or digit and a server whose reply to the first request is no agent of another name or namespace. The
exchanges are those with the server, in order; a request after the first one stays unsent only if
its address is too long. -/
theorem reconcile_by_name_keeps_transcript (host : Host σ) (state : σ) (settings : Settings)
    (inNamespace name : String) (hname : Naming.StartsAlphanumeric name)
    (hagent : ∀ agent, Yields (·.decode Agent.codec)
        (host.serve (.fetch ⟨.agent, inNamespace, name⟩) state).1 agent →
      agent.metadata.name = some name ∧ agent.metadata.inNamespace = some inNamespace) :
    let run :=
      Attempt.outcome host ((Reconciler.new settings).reconcileByName inNamespace name) state
    host.Answers state (Effect.exchanges run.effects) run.state ∧
      WholePass (fun fault => fault = .tooLong) host.Shows settings inNamespace name
        (Effect.exchanges run.effects) run.value := by
  refine ⟨Activity.run_answers host _ state, ?_⟩
  exact fits_reconcile_by_name (fun after => ⟨after, rfl⟩) settings hagent
    fun hsent request hmentions fault => Api.too_long_of_mentions hname hsent hmentions

/-- The entries of the document of a sample agent without a status. -/
def sampleEntries : List (String × Json) :=
  [("metadata", .obj [("generation", .int 1), ("name", .str "sample"), ("namespace", .str "agents"),
    ("uid", .str "5d1c")]),
    ("spec", .obj [])]

/-- The agent of this document. -/
def sampleAgent : Agent :=
  { metadata :=
      { name := some "sample", inNamespace := some "agents", uid := some "5d1c"
        generation := some 1 }
    spec := {} }

/-- The document decodes to the sample agent. -/
theorem decode_sample_entries : Agent.codec.decode (.obj sampleEntries) = .ok sampleAgent := rfl

/-- The pass over the sample agent in an otherwise empty cluster keeps to its transcript. -/
theorem sample_keeps_transcript :
    let host := Cluster.host ⟨0, 0⟩
    let store : Cluster.Store ObjectRef := ⟨[(⟨.agent, "agents", "sample"⟩, .obj sampleEntries)]⟩
    let run := outcome host ((Reconciler.new {}).reconcileByName "agents" "sample") store
    host.Answers store (Effect.exchanges run.effects) run.state ∧
      WholePass (fun fault => fault = .tooLong) host.Shows {} "agents" "sample"
        (Effect.exchanges run.effects) run.value := by
  intro host store
  refine reconcile_by_name_keeps_transcript host store {} "agents" "sample" ⟨'s', _, rfl, rfl⟩ ?_
  intro agent hyields
  obtain ⟨body, haccepted, hread⟩ := hyields
  obtain rfl : Body.document (.obj sampleEntries) = body := Except.ok.inj haccepted
  obtain rfl := Except.ok.inj (decode_sample_entries.symm.trans (decode_document hread))
  exact ⟨rfl, rfl⟩

end AgentOperator.Transcript
