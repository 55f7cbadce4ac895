import AgentOperator.Api.Client
import AgentOperator.Text.Search

/-!
# Tasks

A reconciliation is a row of tasks, each of which converges one part of the cluster toward what a
resource declares. A task that fails is treated according to the failure and to the task: a refusal
because the namespace is terminating ends the row without being a failure of it, a failure of a task
that bails ends the row and is its failure, and any other failure is passed over.
-/

namespace AgentOperator

/-- Why a task failed: a request to the API server failed, a text that should have been a document
is none, or for a reason that the task gives. -/
inductive TaskError where
  | client (cause : Api.ClientError)
  | serialization (cause : Json.ReadError)
  | failed (reason : String)
deriving DecidableEq, Repr

/-- Whether a failure tells that the namespace of the object is terminating. -/
def Api.Failure.isNamespaceTerminating (failure : Api.Failure) : Bool :=
  failure.code == 403 &&
    (Text.contains failure.message "because it is being terminated" ||
      failure.reason == "NamespaceTerminating" ||
      Text.contains failure.message "NamespaceTerminating")

namespace TaskError

/-- The wording of the failure of a task. -/
def message : TaskError → String
  | client cause => "Kubernetes API error: " ++ cause.message
  | serialization cause => "Serialization error: " ++ cause.message
  | failed reason => reason

/-- Whether a task failed because the namespace is terminating, so that there is nothing to be
done. -/
def isNamespaceTerminating : TaskError → Bool
  | client (.refused failure) => failure.isNamespaceTerminating
  | _ => false

end TaskError

/-- How the failure of a task is treated: there is nothing to be done, and the run of tasks ends
well; the run ends with the failure; or the run goes on. -/
inductive TaskFailure where
  | notActionable (task : String)
  | stepFailed (task : String) (cause : TaskError)
  | stepFailedIgnored (task : String) (cause : TaskError)
deriving DecidableEq, Repr

/-- How the failure of a task is treated that bails on failures or does not. -/
def TaskFailure.classify (task : String) (bailOnError : Bool) (cause : TaskError) : TaskFailure :=
  if cause.isNamespaceTerminating then .notActionable task
  else if bailOnError then .stepFailed task cause
  else .stepFailedIgnored task cause

/-- A task of a reconciliation that gets its parameters as a `π`. The flag `bailOnError` says
whether a failure of the task ends the run. -/
structure Task (π : Type) where
  name : String
  bailOnError : Bool
  action : π → Attempt TaskError Unit

/-- The failure of a run of tasks: the name of the task that ended the run, and why that failed. -/
structure PipelineError where
  task : String
  cause : TaskError
deriving DecidableEq, Repr

/-- The wording of the failure of a run. -/
def PipelineError.message (e : PipelineError) : String :=
  "failed to reconcile " ++ e.task ++ ": " ++ e.cause.message

end AgentOperator
