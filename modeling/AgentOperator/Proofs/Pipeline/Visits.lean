import AgentOperator.Proofs.Pipeline.Turns

/-!
# Operations on the shared pipeline

An operation (`Errand`) runs the tasks of the pipeline, reads their names or replaces its task list.
A `Visit` is the state of an operation that was admitted, and `Visit.Step` is its small-step
semantics while the task list is fixed: a run looks up the next task in the list each time it has
come to the end of a turn. `Visit.Follows` relates a visit to the one task list that it has acted
on, and a step under that list preserves it (`Visit.Follows.step`).
-/

namespace AgentOperator.Sharing

open Pipeline (Turn turn resume)

variable {π : Type}

/-- An operation on the pipeline: to run its tasks, to read their names, or to replace its task
list. -/
inductive Errand (π : Type) where
  | run (params : π)
  | names
  | replace (tasks : List (Task π))

/-- The task list that an operation installs, if it replaces the list. -/
def Errand.replacement? : Errand π → Option (List (Task π))
  | replace tasks => some tasks
  | run _ | names => none

/-- The result of an operation: that of the run, the names, or that the list is replaced. -/
inductive Answer where
  | ended (result : Except PipelineError PipelineReport)
  | named (names : List String)
  | replaced

/-- The stage of an admitted operation: a run that has started `next` tasks and has `work` left of
the turn of the last one, a reader of the names or a writer that has not acted yet, one that has its
result but still holds the lock, or one that has released it. -/
inductive Stage (π : Type) where
  | running (next : Nat) (work : Activity (Except PipelineError Turn))
  | reading
  | writing
  | closing (answer : Answer)
  | gone (answer : Answer)

namespace Stage

/-- The result of an operation at a stage, if it has one. -/
def answer? : Stage π → Option Answer
  | closing answer | gone answer => some answer
  | running _ _ | reading | writing => none

/-- Whether an operation at a stage holds the lock. -/
def isInside : Stage π → Bool
  | gone _ => false
  | running _ _ | reading | writing | closing _ => true

end Stage

/-- An admitted operation: the tasks that its run has started, the effects of the run, and its
stage. -/
structure Visit (π : Type) where
  errand : Errand π
  started : List (Task π) := []
  effects : List Effect := []
  stage : Stage π

/-- The initial state of an operation that is admitted. A run stands at the end of a turn before its
first task. -/
def Errand.arrival (errand : Errand π) : Visit π :=
  { errand := errand
    stage :=
      match errand with
      | run _ => .running 0 (.done (.ok (.goOn {})))
      | names => .reading
      | replace _ => .writing }

namespace Visit

/-- Whether a visit holds the lock. -/
def isInside (visit : Visit π) : Bool := visit.stage.isInside

/-- The task list that a visit has installed, if it has. -/
def written? (visit : Visit π) : Option (List (Task π)) :=
  match visit.stage with
  | .writing => none
  | .running _ _ | .reading | .closing _ | .gone _ => visit.errand.replacement?

/-- A step of an admitted operation while the task list is `tasks`. A run starts the next task,
makes a step in the turn of a task, or ends: because no task is left, because a turn ends it well,
or with the failure of a task. -/
inductive Step (tasks : List (Task π)) : Visit π → Visit π → Prop
  | start {params : π} {started : List (Task π)} {effects : List Effect} {next : Nat}
      {report : PipelineReport} {task : Task π} (htask : tasks[next]? = some task) :
      Step tasks ⟨.run params, started, effects, .running next (.done (.ok (.goOn report)))⟩
        ⟨.run params, started ++ [task], effects,
          .running (next + 1) (turn params report task).run⟩
  | work {params : π} {started : List (Task π)} {effects : List Effect} {next : Nat}
      {work later : Activity (Except PipelineError Turn)} {effect : Option Effect}
      (hstep : Activity.Step work effect later) :
      Step tasks ⟨.run params, started, effects, .running next work⟩
        ⟨.run params, started, effects ++ effect.toList, .running next later⟩
  | ranOut {params : π} {started : List (Task π)} {effects : List Effect} {next : Nat}
      {report : PipelineReport} (htask : tasks[next]? = none) :
      Step tasks ⟨.run params, started, effects, .running next (.done (.ok (.goOn report)))⟩
        ⟨.run params, started, effects, .closing (.ended (.ok report))⟩
  | halted {params : π} {started : List (Task π)} {effects : List Effect} {next : Nat}
      {report : PipelineReport} :
      Step tasks ⟨.run params, started, effects, .running next (.done (.ok (.stop report)))⟩
        ⟨.run params, started, effects, .closing (.ended (.ok report))⟩
  | failed {params : π} {started : List (Task π)} {effects : List Effect} {next : Nat}
      {cause : PipelineError} :
      Step tasks ⟨.run params, started, effects, .running next (.done (.error cause))⟩
        ⟨.run params, started, effects, .closing (.ended (.error cause))⟩
  | named {started : List (Task π)} {effects : List Effect} :
      Step tasks ⟨.names, started, effects, .reading⟩
        ⟨.names, started, effects, .closing (.named (tasks.map Task.name))⟩

/-- A step leaves the operation of a visit unchanged. -/
theorem Step.errand_eq {tasks : List (Task π)} {visit later : Visit π}
    (h : Step tasks visit later) : later.errand = visit.errand := by
  cases h <;> rfl

/-- A visit that makes a step holds the lock before and after it. -/
theorem Step.is_inside {tasks : List (Task π)} {visit later : Visit π}
    (h : Step tasks visit later) : visit.isInside = true ∧ later.isInside = true := by
  cases h <;> exact ⟨rfl, rfl⟩

/-- A visit that makes such a step does not replace the task list. -/
theorem Step.replacement? {tasks : List (Task π)} {visit later : Visit π}
    (h : Step tasks visit later) : visit.errand.replacement? = none := by
  cases h <;> rfl

/-- An admitted operation has acted on the task list `tasks` so far: a run has started the first
tasks of the list and is a prefix of the run of the list, or has ended as that ends; and names that
were read are those of the list. -/
inductive Follows (tasks : List (Task π)) : Visit π → Prop
  | running {params : π} {started : List (Task π)} {effects : List Effect} {next : Nat}
      {work : Activity (Except PipelineError Turn)} (hstarted : started = tasks.take next)
      (hpath : Activity.Path (Pipeline.run tasks params).run effects
        (work >>= resume params (tasks.drop next)))
      (hreport : work.EndsIn fun result => ∀ turn, result = .ok turn →
        turn.report.executed = started.map Task.name) :
      Follows tasks ⟨.run params, started, effects, .running next work⟩
  | ended {params : π} {started : List (Task π)} {effects : List Effect} {stage : Stage π}
      {result : Except PipelineError PipelineReport}
      (hanswer : stage.answer? = some (.ended result)) (hstarted : started <+: tasks)
      (hpath : Activity.Path (Pipeline.run tasks params).run effects (.done result))
      (hreport : ∀ report, result = .ok report → report.executed = started.map Task.name) :
      Follows tasks ⟨.run params, started, effects, stage⟩
  | reading : Follows tasks ⟨.names, [], [], .reading⟩
  | named {stage : Stage π} (hanswer : stage.answer? = some (.named (tasks.map Task.name))) :
      Follows tasks ⟨.names, [], [], stage⟩
  | writing {new : List (Task π)} : Follows tasks ⟨.replace new, [], [], .writing⟩
  | replaced {new : List (Task π)} {stage : Stage π} (hanswer : stage.answer? = some .replaced) :
      Follows tasks ⟨.replace new, [], [], stage⟩

namespace Follows

variable {tasks : List (Task π)}

/-- The initial state of an operation follows any task list. -/
theorem arrival (errand : Errand π) : Follows tasks errand.arrival := by
  cases errand with
  | run params =>
      refine .running rfl (.here _) ?_
      rintro _ ⟨⟩
      rfl
  | names => exact .reading
  | replace new => exact .writing

/-- A step under the task list that a visit follows preserves this. -/
theorem step {visit later : Visit π} (h : Follows tasks visit) (hstep : Step tasks visit later) :
    Follows tasks later := by
  -- a visit that makes a step has no result yet
  cases hstep with
  | start htask =>
      cases h with
      | running hstarted hpath hreport =>
          -- the task that was looked up is the first one of those that are left
          refine .running ?_ ?_ ?_
          · rw [hstarted, List.take_add_one, htask]
            rfl
          · obtain ⟨hnext, htask⟩ := List.getElem?_eq_some_iff.1 htask
            rw [List.drop_eq_getElem_cons hnext, htask] at hpath
            rwa [← Pipeline.run_run_from_cons]
          · have hbefore := hreport _ rfl
            rw [List.map_append, ← hbefore]
            exact Pipeline.ends_in_turn _ _ _
      | ended hanswer => cases hanswer
  | work hwork =>
      cases h with
      | running hstarted hpath hreport =>
          exact .running hstarted (.snoc hpath (hwork.bind _)) (hreport.step hwork)
      | ended hanswer => cases hanswer
  | ranOut htask =>
      cases h with
      | running hstarted hpath hreport =>
          rw [List.drop_eq_nil_of_le (List.getElem?_eq_none_iff.1 htask)] at hpath
          refine .ended rfl (hstarted ▸ List.take_prefix _ _) hpath ?_
          rintro _ ⟨⟩
          exact hreport _ rfl
      | ended hanswer => cases hanswer
  | halted =>
      cases h with
      | running hstarted hpath hreport =>
          refine .ended rfl (hstarted ▸ List.take_prefix _ _) hpath ?_
          rintro _ ⟨⟩
          exact hreport _ rfl
      | ended hanswer => cases hanswer
  | failed =>
      cases h with
      | running hstarted hpath hreport =>
          exact .ended rfl (hstarted ▸ List.take_prefix _ _) hpath nofun
      | ended hanswer => cases hanswer
  | named =>
      cases h with
      | reading => exact .named rfl
      | named hanswer => cases hanswer

/-- The release of the lock preserves which task list a visit follows. -/
theorem leave {visit : Visit π} {answer : Answer} (h : Follows tasks visit)
    (hclosing : visit.stage = .closing answer) :
    Follows tasks { visit with stage := .gone answer } := by
  cases h with
  | running | reading | writing => cases hclosing
  | ended hanswer hstarted hpath hreport =>
      obtain rfl : _ = Stage.closing answer := hclosing
      exact .ended hanswer hstarted hpath hreport
  | named hanswer =>
      obtain rfl : _ = Stage.closing answer := hclosing
      exact .named hanswer
  | replaced hanswer =>
      obtain rfl : _ = Stage.closing answer := hclosing
      exact .replaced hanswer

/-- A run that follows a task list has started a prefix of its tasks, and its effects are those of a
prefix of a run of the list, which ends as it does. -/
theorem of_run {visit : Visit π} {params : π} (h : Follows tasks visit)
    (herrand : visit.errand = .run params) :
    visit.started <+: tasks ∧
      (∃ rest, Activity.Path (Pipeline.run tasks params).run visit.effects rest ∧
        ∀ result, visit.stage.answer? = some (.ended result) → rest = .done result) ∧
      ∀ report, visit.stage.answer? = some (.ended (.ok report)) →
        report.executed = visit.started.map Task.name := by
  cases h with
  | running hstarted hpath =>
      obtain rfl := Errand.run.inj herrand
      exact ⟨hstarted ▸ List.take_prefix _ _, ⟨_, hpath, nofun⟩, nofun⟩
  | ended hanswer hstarted hpath hreport =>
      obtain rfl := Errand.run.inj herrand
      refine ⟨hstarted, ⟨_, hpath, ?_⟩, ?_⟩
      · intro result hresult
        cases hanswer.symm.trans hresult
        rfl
      · intro report hresult
        cases hanswer.symm.trans hresult
        exact hreport report rfl
  | reading | named | writing | replaced => cases herrand

/-- A reader of the names that follows a task list has the names of that list as its result. -/
theorem of_names {visit : Visit π} {answer : Answer} (h : Follows tasks visit)
    (herrand : visit.errand = .names) (hanswer : visit.stage.answer? = some answer) :
    answer = .named (tasks.map Task.name) := by
  cases h with
  | reading => cases hanswer
  | named hnamed => exact Option.some.inj (hanswer.symm.trans hnamed)
  | running | ended | writing | replaced => cases herrand

end Follows

end Visit

end AgentOperator.Sharing
