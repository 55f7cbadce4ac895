import AgentOperator.Kubernetes.Event
import AgentOperator.Reconcile.Pass
import AgentOperator.Reconcile.Pipeline

/-!
# Failed reconciliations

Why a reconciliation fails, the event that tells so on the resource, and what is done next: the
operator never tries again by itself but asks to be called again after a while.
-/

namespace AgentOperator

open Kubernetes

/-- Why a reconciliation failed: the resource lies in no namespace, it could not be read, or a task
failed and ended the run. -/
inductive ReconcileError where
  | missingNamespace
  | unfetched (inNamespace name : String) (cause : Api.ClientError)
  | stopped (cause : PipelineError)
deriving DecidableEq, Repr

/-- The wording of a failed reconciliation. -/
def ReconcileError.message : ReconcileError → String
  | missingNamespace => "resource has no namespace"
  | unfetched inNamespace name cause =>
    "failed to fetch " ++ inNamespace ++ "/" ++ name ++ ": " ++ cause.message
  | stopped cause => cause.message

/-- What is to be done after a reconciliation: to wait until something changes, or to reconcile
again after some seconds. -/
inductive NextAction where
  | awaitChange
  | requeueAfter (seconds : UInt64)
deriving DecidableEq, Repr

/-- The reference to an agent resource. -/
def Agent.reference (agent : Agent) : ObjectReference :=
  { apiVersion := some Agent.apiVersion
    kind := some Agent.kind
    name := agent.metadata.name
    inNamespace := agent.metadata.inNamespace
    uid := agent.metadata.uid }

/-- The name of an event about an agent: that of the agent and the time, so that each event has its
own. -/
def eventName (agent : Agent) (now : Instant) : String :=
  agent.metadata.name.getD Api.fieldManager ++ "." ++
    String.ofList (Text.hexDigits now.totalNanos.toNat)

/-- The event that tells of a failed pass over an agent. -/
def failureEvent (agent : Agent) (cause : PipelineError) (now : Instant) : Event :=
  { metadata := { name := some (eventName agent now), inNamespace := agent.metadata.inNamespace }
    action := some "Reconcile"
    eventTime := some now
    note := some cause.message
    reason := some "FailedReconcile"
    regarding := some agent.reference
    reportingController := some Api.fieldManager
    reportingInstance := some Api.fieldManager
    type := some "Warning" }

/-- The namespace that events about an agent go to. -/
def eventNamespace (agent : Agent) : String := agent.metadata.inNamespace.getD "default"

/-- The notice that an event could not be recorded. -/
def unpublishedNotice (cause : PipelineError) (fault : Api.ClientError) : Log.Record :=
  { level := .warn, message := "failed to publish reconciliation event"
    fields := [("task", .bare cause.task), ("error", .bare fault.message)] }

/-- Records the event that tells of a failed pass. That this fails is only logged. -/
def publishFailure (agent : Agent) (cause : PipelineError) : Activity Unit := do
  let now ← Activity.readClock
  match ← (Api.Client.createEvent (eventNamespace agent) (failureEvent agent cause now)).run with
  | .ok () => return ()
  | .error fault => Activity.report (unpublishedNotice cause fault)

/-- The notice that a reconciliation failed. -/
def errorNotice (settings : Settings) (agent : Agent) (e : ReconcileError) : Log.Record :=
  { level := .error, message := "Reconciliation error"
    fields :=
      [("resource.name", .text (agent.metadata.name.getD "unknown")),
        ("resource.namespace", .text (agent.metadata.inNamespace.getD "default")),
        ("error", .bare e.message),
        ("requeue_secs", .int settings.errorRequeueSeconds.toNat)] }

/-- Settles what is done after a failed reconciliation. -/
def handleError (settings : Settings) (agent : Agent) (e : ReconcileError) :
    Activity NextAction := do
  Activity.report (errorNotice settings agent e)
  Activity.tally .reconciliationError
  return .requeueAfter settings.errorRequeueSeconds

end AgentOperator
