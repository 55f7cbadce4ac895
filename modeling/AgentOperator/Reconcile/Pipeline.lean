import AgentOperator.Reconcile.Task

/-!
# Runs of tasks

The tasks of a reconciliation are run strictly one after another, each with the same parameters. A
run reports which tasks it started and which failures it passed over.
-/

namespace AgentOperator

/-- A failure that a run passed over, in words, with the name of its task. -/
structure IgnoredFailure where
  task : String
  message : String
deriving DecidableEq, Repr

/-- The report of a run of tasks: the names of the tasks that were started and the failures that
were passed over, both in order, and whether the run was halted because the namespace is
terminating. -/
structure PipelineReport where
  executed : List String := []
  ignored : List IgnoredFailure := []
  halted : Bool := false
deriving DecidableEq, Repr

namespace PipelineReport

/-- The report with one more task started. -/
def start (report : PipelineReport) (task : String) : PipelineReport :=
  { report with executed := report.executed ++ [task] }

/-- The report with one more failure passed over. -/
def ignore (report : PipelineReport) (task : String) (cause : TaskError) : PipelineReport :=
  { report with ignored := report.ignored ++ [⟨task, cause.message⟩] }

end PipelineReport

namespace Pipeline

/-- The notice that a task is started. -/
def startNotice (task : String) : Log.Record :=
  { level := .debug, message := "running reconciliation task", fields := [("task", .bare task)] }

/-- The notice that a run is stopped because the namespace is terminating. -/
def haltNotice (task : String) : Log.Record :=
  { level := .info, message := "namespace is being terminated, stopping reconciliation"
    fields := [("task", .bare task)] }

/-- The notice that a failure ends the run. -/
def failureNotice (task : String) (cause : TaskError) : Log.Record :=
  { level := .error, message := "failed to reconcile"
    fields := [("task", .bare task), ("error", .bare cause.message)] }

/-- The notice that a failure is passed over. -/
def ignoredNotice (task : String) (cause : TaskError) : Log.Record :=
  { level := .warn, message := "failed to reconcile, continuing with the next task"
    fields := [("task", .bare task), ("error", .bare cause.message)] }

/-- Runs the tasks that are left, with a report on those before them. -/
def runFrom {π : Type} (params : π) (report : PipelineReport) :
    List (Task π) → Attempt PipelineError PipelineReport
  | [] => return report
  | task :: tasks => do
    Activity.report (startNotice task.name)
    let report := report.start task.name
    match ← (task.action params).run with
    | .ok () => runFrom params report tasks
    | .error cause =>
      match TaskFailure.classify task.name task.bailOnError cause with
      | .notActionable name =>
        Activity.report (haltNotice name)
        Activity.tally .namespaceTerminating
        return { report with halted := true }
      | .stepFailed name cause =>
        Activity.report (failureNotice name cause)
        Activity.tally (.taskFailure name true)
        throw { task := name, cause := cause }
      | .stepFailedIgnored name cause =>
        Activity.report (ignoredNotice name cause)
        Activity.tally (.taskFailure name false)
        runFrom params (report.ignore name cause) tasks

/-- Runs some tasks one after another. -/
def run {π : Type} (tasks : List (Task π)) (params : π) : Attempt PipelineError PipelineReport :=
  runFrom params {} tasks

end Pipeline

end AgentOperator
