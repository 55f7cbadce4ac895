import AgentOperator.Reconcile.Failure

/-!
# The reconciler

One pass over an agent resource: the resource is read afresh, the tasks are run on it, and a failure
of theirs is told on the resource. A resource that no longer exists needs nothing, and one that
cannot be read is left for later.
-/

namespace AgentOperator

/-- What passes over agents need: settings, and the tasks to be run. -/
structure Reconciler where
  settings : Settings
  tasks : List (Task Pass)

namespace Reconciler

/-- A reconciler with some tasks, or with the default ones if there are none. -/
def withTasks (settings : Settings) (tasks : List (Task Pass)) : Reconciler :=
  { settings := settings, tasks := if tasks.isEmpty then Pass.defaultTasks else tasks }

/-- A reconciler with the default tasks. -/
def new (settings : Settings) : Reconciler := withTasks settings []

/-- The notice that a resource no longer exists. -/
def absentNotice : Log.Record :=
  { level := .debug, message := "resource not found, nothing to reconcile" }

/-- The notice at the end of a run of tasks that did not fail. -/
def completionNotice (report : PipelineReport) : Log.Record :=
  if report.halted then
    { level := .info, message := "namespace is terminating, reconciliation stopped early" }
  else
    { level := .debug, message := "reconciliation complete"
      fields :=
        [("tasks", .int report.executed.length),
          ("ignored_failures", .int report.ignored.length)] }

/-- Runs the tasks of a pass over an agent. -/
def converge (reconciler : Reconciler) (agent : Agent) : Attempt ReconcileError NextAction :=
  Attempt.ofResult do
    match ← (Pipeline.run reconciler.tasks ⟨reconciler.settings, agent⟩).run with
    | .ok report =>
      Activity.report (completionNotice report)
      return .ok .awaitChange
    | .error cause =>
      publishFailure agent cause
      return .error (.stopped cause)

/-- One pass over the resource of a name. -/
def reconcileByName (reconciler : Reconciler) (inNamespace name : String) :
    Attempt ReconcileError NextAction :=
  Attempt.ofResult do
    match ← (Api.Client.fetch .agent inNamespace name).run with
    | .ok agent => (reconciler.converge agent).run
    | .error cause =>
      if cause.isGone then
        Activity.report absentNotice
        return .ok .awaitChange
      else
        return .error (.unfetched inNamespace name cause)

/-- The seconds between two times. -/
def secondsBetween (start finish : Instant) : Binary64 :=
  let nanos := finish.totalNanos - start.totalNanos
  let seconds : Decimal := ⟨nanos < 0, nanos.natAbs, -9⟩
  seconds.toBinary64?.getD ⟨false, 0, Binary64.minExponent⟩

/-- One pass over a resource that something happened to. -/
def reconcile (reconciler : Reconciler) (agent : Agent) : Attempt ReconcileError NextAction :=
  match agent.metadata.inNamespace with
  | none => throw .missingNamespace
  | some inNamespace =>
    Attempt.ofResult do
      let start ← Activity.readClock
      Activity.tally .reconciliation
      let result ← (reconciler.reconcileByName inNamespace agent.name).run
      let finish ← Activity.readClock
      Activity.tally (.duration (secondsBetween start finish))
      return result

end Reconciler

end AgentOperator
