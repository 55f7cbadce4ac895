import AgentOperator.Proofs.Activity.Outcome
import AgentOperator.Proofs.Pipeline.Policy
import AgentOperator.Reconcile.Reconciler

/-!
# Transcripts of passes

The possible conversations of a pass with an API server, for all replies, as relations: `Asks` is
one request and its result, the stages `Applies`, `Clears` and `Reports` are the tasks, a `Row` of
stages ends with the first one that fails, and `WholePass` is a pass from the GET of the agent to
the event about a failure. The relations do not refer to the code of the tasks; that the code
satisfies them is shown in `AgentOperator.Proofs.Pass.Protocol`.
-/

namespace AgentOperator.Transcript

open Api (Body ClientError Kind ObjectRef Reply Request RequestFault ResourceType)
open Kubernetes

variable {α : Type}

/-- A reply is a response from the body of which `read` gives a value. -/
def Yields (read : Body → Except TextFault α) (reply : Reply) (value : α) : Prop :=
  ∃ body, Api.Client.accepted reply = .ok body ∧ read body = .ok value

/-- The exchange and the result of one request, which the caller reads from the body of the reply by
`read`. A request may stay unsent for the faults `unsent`; it fails if it is refused, gets no
response or one whose body cannot be read. -/
inductive Asks (unsent : RequestFault → Prop) (request : Request)
    (read : Body → Except TextFault α) : List Exchange → Except ClientError α → Prop where
  | unsent {fault : RequestFault} (haddress : request.address = .error fault)
      (hunsent : unsent fault) : Asks unsent request read [] (.error (.unsendable fault))
  | failed {reply : Reply} {cause : ClientError} (hsent : ∃ address, request.address = .ok address)
      (hfailed : Api.Client.accepted reply = .error cause) :
      Asks unsent request read [(request, reply)] (.error cause)
  | unreadable {reply : Reply} {body : Body} {fault : TextFault}
      (hsent : ∃ address, request.address = .ok address)
      (haccepted : Api.Client.accepted reply = .ok body) (hread : read body = .error fault) :
      Asks unsent request read [(request, reply)] (.error (.unexpected fault))
  | answered {reply : Reply} {value : α} (hsent : ∃ address, request.address = .ok address)
      (hyields : Yields read reply value) : Asks unsent request read [(request, reply)] (.ok value)

/-- The value of a document in the body of a reply is the value of the document. -/
theorem decode_document {codec : Codec α} {j : Json} {value : α}
    (h : (Body.document j).decode codec = .ok value) : codec.decode j = .ok value := by
  unfold Body.decode at h
  cases hdecode : codec.decode j with
  | error cause =>
      simp only [hdecode] at h
      cases h
  | ok found =>
      simp only [hdecode] at h
      rw [Except.ok.inj h]

/-- The possible exchanges of a task with the server, and its result. -/
abbrev Stage : Type := List Exchange → Except TaskError Unit → Prop

section Stages

variable (unsent : RequestFault → Prop) (type : ResourceType α) (ref : ObjectRef)

/-- One GET of an object that need not exist: a refusal for the reason `NotFound` says that there is
none. -/
inductive Looks : List Exchange → Except ClientError (Option α) → Prop where
  | found {exchanges : List Exchange} {object : α}
      (h : Asks unsent (.fetch ref) (·.decode type.codec) exchanges (.ok object)) :
      Looks exchanges (.ok (some object))
  | absent {exchanges : List Exchange} {failure : Api.Failure}
      (h : Asks unsent (.fetch ref) (·.decode type.codec) exchanges (.error (.refused failure)))
      (hreason : failure.reason = "NotFound") : Looks exchanges (.ok none)
  | failed {exchanges : List Exchange} {cause : ClientError}
      (h : Asks unsent (.fetch ref) (·.decode type.codec) exchanges (.error cause))
      (hreason : ∀ failure, cause = .refused failure → failure.reason ≠ "NotFound") :
      Looks exchanges (.error cause)

/-- One PATCH that applies a desired object, which there has to be. -/
inductive Applies (desired : Option α) : Stage where
  | applied {exchanges : List Exchange} {object stored : α} (hdesired : desired = some object)
      (h : Asks unsent (.apply ref (type.codec.encode object)) (·.decode type.codec) exchanges
        (.ok stored)) : Applies desired exchanges (.ok ())
  | failed {exchanges : List Exchange} {object : α} {cause : ClientError}
      (hdesired : desired = some object)
      (h : Asks unsent (.apply ref (type.codec.encode object)) (·.decode type.codec) exchanges
        (.error cause)) : Applies desired exchanges (.error (.client cause))

/-- One of the owner references of an object is that of a controller with this unique id. -/
def Controls (uid : Option String) (object : ObjectMeta) : Prop :=
  ∃ owner ∈ object.ownerReferences.getD [], owner.controller = some true ∧ some owner.uid = uid

instance (uid : Option String) (object : ObjectMeta) : Decidable (Controls uid object) :=
  inferInstanceAs (Decidable (∃ owner ∈ object.ownerReferences.getD [], _ ∧ _))

/-- One GET of an object that is not wanted, and one DELETE if it is controlled by the agent of a
unique id. It is no failure if there is none, before the GET or after it: the DELETE may be refused
with code 404. -/
inductive Clears (uid : Option String) : Stage where
  | unread {looks : List Exchange} {cause : ClientError}
      (hlooks : Looks unsent type ref looks (.error cause)) :
      Clears uid looks (.error (.client cause))
  | absent {looks : List Exchange} (hlooks : Looks unsent type ref looks (.ok none)) :
      Clears uid looks (.ok ())
  | foreign {looks : List Exchange} {object : α}
      (hlooks : Looks unsent type ref looks (.ok (some object)))
      (hforeign : ¬ Controls uid (type.metadata object)) : Clears uid looks (.ok ())
  | removed {looks deletes : List Exchange} {object : α}
      (hlooks : Looks unsent type ref looks (.ok (some object)))
      (hcontrols : Controls uid (type.metadata object))
      (h : Asks unsent (.delete ref) (Api.Client.checkDeleted type) deletes (.ok ())) :
      Clears uid (looks ++ deletes) (.ok ())
  | gone {looks deletes : List Exchange} {object : α} {failure : Api.Failure}
      (hlooks : Looks unsent type ref looks (.ok (some object)))
      (hcontrols : Controls uid (type.metadata object))
      (h : Asks unsent (.delete ref) (Api.Client.checkDeleted type) deletes
        (.error (.refused failure)))
      (hcode : failure.code = 404) : Clears uid (looks ++ deletes) (.ok ())
  | stuck {looks deletes : List Exchange} {object : α} {cause : ClientError}
      (hlooks : Looks unsent type ref looks (.ok (some object)))
      (hcontrols : Controls uid (type.metadata object))
      (h : Asks unsent (.delete ref) (Api.Client.checkDeleted type) deletes (.error cause))
      (hcode : ∀ failure, cause = .refused failure → failure.code ≠ 404) :
      Clears uid (looks ++ deletes) (.error (.client cause))

end Stages

/-- A stage without any exchange, which does not fail. -/
inductive Rests : Stage where
  | rests : Rests [] (.ok ())

section Agents

variable (unsent : RequestFault → Prop) (shown : Instant → Prop) (settings : Settings)
  (agent : Agent) (inNamespace name : String)

/-- One GET of the workload of an agent, of the kind that its mode asks for. -/
inductive Observes : List Exchange → Except ClientError (Option Readiness) → Prop where
  | deployment {exchanges : List Exchange} {found : Except ClientError (Option Deployment)}
      (hmode : agent.spec.mode = .deployment)
      (h : Looks unsent .deployment ⟨.deployment, inNamespace, Naming.labelOf name⟩ exchanges
        found) :
      Observes exchanges (found.map (·.map Pass.deploymentReadiness))
  | daemonSet {exchanges : List Exchange} {found : Except ClientError (Option DaemonSet)}
      (hmode : agent.spec.mode = .daemonSet)
      (h : Looks unsent .daemonSet ⟨.daemonSet, inNamespace, Naming.labelOf name⟩ exchanges
        found) :
      Observes exchanges (found.map (·.map Pass.daemonSetReadiness))

/-- One GET of the workload, and one PATCH of the status of the agent unless the status is already
the desired one at a time that the clock shows. -/
inductive Reports : Stage where
  | unread {looks : List Exchange} {cause : ClientError}
      (hlooks : Observes unsent agent inNamespace name looks (.error cause)) :
      Reports looks (.error (.client cause))
  | unchanged {looks : List Exchange} {readiness : Option Readiness} {now : Instant}
      (hlooks : Observes unsent agent inNamespace name looks (.ok readiness)) (hnow : shown now)
      (hsame : agent.status = some (desiredStatus settings agent readiness now)) :
      Reports looks (.ok ())
  | written {looks patches : List Exchange} {readiness : Option Readiness} {now : Instant}
      {stored : Agent} (hlooks : Observes unsent agent inNamespace name looks (.ok readiness))
      (hnow : shown now)
      (hchanged : agent.status ≠ some (desiredStatus settings agent readiness now))
      (h : Asks unsent (.patchStatus ⟨.agent, inNamespace, name⟩
        (Pass.statusPatch (desiredStatus settings agent readiness now)))
        (·.decode Agent.codec) patches (.ok stored)) :
      Reports (looks ++ patches) (.ok ())
  | unwritten {looks patches : List Exchange} {readiness : Option Readiness} {now : Instant}
      {cause : ClientError} (hlooks : Observes unsent agent inNamespace name looks (.ok readiness))
      (hnow : shown now)
      (hchanged : agent.status ≠ some (desiredStatus settings agent readiness now))
      (h : Asks unsent (.patchStatus ⟨.agent, inNamespace, name⟩
        (Pass.statusPatch (desiredStatus settings agent readiness now)))
        (·.decode Agent.codec) patches (.error cause)) :
      Reports (looks ++ patches) (.error (.client cause))

/-- The stages of a pass over an agent, each under the name of its task. A service account is
applied if the agent names none, and of the two kinds of workload the one of the mode is applied and
the other one cleared. -/
def stages : List (String × Stage) :=
  let label := Naming.labelOf name
  [("config maps",
      Applies unsent .configMap ⟨.configMap, inNamespace, label⟩
        (some (agentConfigMap settings agent))),
    ("service accounts",
      if agent.spec.serviceAccount = none ∨ agent.spec.serviceAccount = some "" then
        Applies unsent .serviceAccount ⟨.serviceAccount, inNamespace, label⟩
          (agentServiceAccount? settings agent)
      else Rests),
    ("services",
      Applies unsent .service ⟨.service, inNamespace, label⟩ (agentService? settings agent)),
    ("deployments",
      match agent.spec.mode with
      | .deployment =>
        Applies unsent .deployment ⟨.deployment, inNamespace, label⟩
          (agentDeployment? settings agent)
      | .daemonSet =>
        Clears unsent .deployment ⟨.deployment, inNamespace, label⟩ agent.metadata.uid),
    ("daemon sets",
      match agent.spec.mode with
      | .deployment =>
        Clears unsent .daemonSet ⟨.daemonSet, inNamespace, label⟩ agent.metadata.uid
      | .daemonSet =>
        Applies unsent .daemonSet ⟨.daemonSet, inNamespace, label⟩
          (agentDaemonSet? settings agent)),
    ("amazon-cloudwatch-agent", Reports unsent shown settings agent inNamespace name)]

end Agents

/-- A row of named stages one after another, up to the first one that fails. -/
inductive Row : List (String × Stage) → List Exchange → Except PipelineError Unit → Prop where
  | done : Row [] [] (.ok ())
  | failed {name : String} {stage : Stage} {stages : List (String × Stage)}
      {exchanges : List Exchange} {cause : TaskError} (h : stage exchanges (.error cause)) :
      Row ((name, stage) :: stages) exchanges (.error ⟨name, cause⟩)
  | next {name : String} {stage : Stage} {stages : List (String × Stage)}
      {first rest : List Exchange} {result : Except PipelineError Unit}
      (h : stage first (.ok ())) (hrest : Row stages rest result) :
      Row ((name, stage) :: stages) (first ++ rest) result

/-- Reads the body of the reply to the POST of an event. -/
def readEvent (body : Body) : Except TextFault Unit := (body.decode Event.codec).map fun _ => ()

/-- The exchanges of a pass over the agent of a name, and its result. It ends with the GET of the
agent if that fails, which is no failure of the pass if the refusal has code 404. Else the stages
follow; a failure of one because the namespace is terminating is no failure of the pass, and after
any other failure there is one POST of an event, whose result does not matter. -/
inductive WholePass (unsent : RequestFault → Prop) (shown : Instant → Prop) (settings : Settings)
    (inNamespace name : String) : List Exchange → Except ReconcileError NextAction → Prop where
  | absent {fetches : List Exchange} {failure : Api.Failure}
      (hfetch : Asks (fun _ => True) (.fetch ⟨.agent, inNamespace, name⟩) (·.decode Agent.codec)
        fetches (.error (.refused failure)))
      (hcode : failure.code = 404) :
      WholePass unsent shown settings inNamespace name fetches (.ok .awaitChange)
  | unfetched {fetches : List Exchange} {cause : ClientError}
      (hfetch : Asks (fun _ => True) (.fetch ⟨.agent, inNamespace, name⟩) (·.decode Agent.codec)
        fetches (.error cause))
      (hcode : ∀ failure, cause = .refused failure → failure.code ≠ 404) :
      WholePass unsent shown settings inNamespace name fetches
        (.error (.unfetched inNamespace name cause))
  | settled {fetches exchanges : List Exchange} {agent : Agent}
      (hfetch : Asks (fun _ => True) (.fetch ⟨.agent, inNamespace, name⟩) (·.decode Agent.codec)
        fetches (.ok agent))
      (hrow : Row (stages unsent shown settings agent inNamespace name) exchanges (.ok ())) :
      WholePass unsent shown settings inNamespace name (fetches ++ exchanges) (.ok .awaitChange)
  | halted {fetches exchanges : List Exchange} {agent : Agent} {failure : PipelineError}
      (hfetch : Asks (fun _ => True) (.fetch ⟨.agent, inNamespace, name⟩) (·.decode Agent.codec)
        fetches (.ok agent))
      (hrow : Row (stages unsent shown settings agent inNamespace name) exchanges (.error failure))
      (hterminating : failure.cause.SaysNamespaceTerminating) :
      WholePass unsent shown settings inNamespace name (fetches ++ exchanges) (.ok .awaitChange)
  | stopped {fetches exchanges events : List Exchange} {agent : Agent} {failure : PipelineError}
      {now : Instant} {posted : Except ClientError Unit}
      (hfetch : Asks (fun _ => True) (.fetch ⟨.agent, inNamespace, name⟩) (·.decode Agent.codec)
        fetches (.ok agent))
      (hrow : Row (stages unsent shown settings agent inNamespace name) exchanges (.error failure))
      (hterminating : ¬ failure.cause.SaysNamespaceTerminating) (hnow : shown now)
      (hevent : Asks unsent
        (.createEvent inNamespace (Event.codec.encode (failureEvent agent failure now))) readEvent
        events posted) :
      WholePass unsent shown settings inNamespace name (fetches ++ exchanges ++ events)
        (.error (.stopped failure))

end AgentOperator.Transcript
