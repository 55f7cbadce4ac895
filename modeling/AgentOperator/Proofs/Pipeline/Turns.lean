import AgentOperator.Proofs.Activity.Steps
import AgentOperator.Reconcile.Pipeline

/-!
# Turns of a run

A run takes the tasks of its list one after another. `Pipeline.turn` is the part of a run that is
about one task, and `Pipeline.resume` is the rest of the run after it.
-/

namespace AgentOperator.Pipeline

variable {π : Type}

/-- How a run goes on after one of its tasks: with the next one, or not at all, in which case it
ends well. -/
inductive Turn where
  | goOn (report : PipelineReport)
  | stop (report : PipelineReport)

/-- The report of a run after one of its tasks. -/
def Turn.report : Turn → PipelineReport
  | goOn report | stop report => report

/-- The turn of one task: it is started, its action is carried out, and a failure is classified,
logged and counted. -/
def turn (params : π) (report : PipelineReport) (task : Task π) : Attempt PipelineError Turn := do
  Activity.report (startNotice task.name)
  let report := report.start task.name
  match ← (task.action params).run with
  | .ok () => return .goOn report
  | .error cause =>
    match TaskFailure.classify task.name task.bailOnError cause with
    | .notActionable name =>
      Activity.report (haltNotice name)
      Activity.tally .namespaceTerminating
      return .stop { report with halted := true }
    | .stepFailed name cause =>
      Activity.report (failureNotice name cause)
      Activity.tally (.taskFailure name true)
      throw { task := name, cause := cause }
    | .stepFailedIgnored name cause =>
      Activity.report (ignoredNotice name cause)
      Activity.tally (.taskFailure name false)
      return .goOn (report.ignore name cause)

/-- The rest of a run after a turn, with the remaining tasks. -/
def resume (params : π) (tasks : List (Task π)) :
    Except PipelineError Turn → Activity (Except PipelineError PipelineReport)
  | .ok (.goOn report) => (runFrom params report tasks).run
  | .ok (.stop report) => .done (.ok report)
  | .error cause => .done (.error cause)

/-- A run is the turn of its first task followed by the rest. -/
theorem run_run_from_cons (params : π) (report : PipelineReport) (task : Task π)
    (tasks : List (Task π)) :
    (runFrom params report (task :: tasks)).run =
      (turn params report task).run >>= resume params tasks := by
  -- both are binds of attempts, and a failure of the turn is one of the run
  have hresume : (turn params report task).run >>= resume params tasks =
      (turn params report task >>= fun turn =>
        (resume params tasks (.ok turn) : Attempt PipelineError PipelineReport)).run := by
    change _ = (turn params report task).run >>= ExceptT.bindCont _
    refine congrArg _ (funext fun result => ?_)
    cases result <;> rfl
  rw [hresume, runFrom, turn]
  simp only [bind_assoc]
  refine congrArg ExceptT.run (congrArg _ (funext fun _ => congrArg _ (funext fun result => ?_)))
  cases result with
  | ok value => rfl
  | error cause =>
      dsimp only
      cases TaskFailure.classify task.name task.bailOnError cause <;> rfl

/-- A turn that does not fail appends the name of its task to the report. -/
theorem ends_in_turn (params : π) (report : PipelineReport) (task : Task π) :
    (turn params report task).run.EndsIn fun result =>
      ∀ turn, result = .ok turn → turn.report.executed = report.executed ++ [task.name] := by
  have hfailed (cause : PipelineError) : ∀ turn : Turn, Except.error cause = .ok turn →
      turn.report.executed = report.executed ++ [task.name] := nofun
  unfold turn
  refine Attempt.ends_in_bind hfailed _ fun _ => Attempt.ends_in_bind hfailed _ fun result => ?_
  cases result with
  | ok value =>
      rintro _ ⟨⟩
      rfl
  | error cause =>
      dsimp only
      -- each class of failures is logged and counted first
      cases TaskFailure.classify task.name task.bailOnError cause with
      | notActionable name | stepFailedIgnored name cause =>
          refine Attempt.ends_in_bind hfailed _ fun _ => Attempt.ends_in_bind hfailed _ fun _ => ?_
          rintro _ ⟨⟩
          rfl
      | stepFailed name cause =>
          refine Attempt.ends_in_bind hfailed _ fun _ => Attempt.ends_in_bind hfailed _ fun _ => ?_
          exact hfailed _

end AgentOperator.Pipeline
