import AgentOperator.Proofs.Activity.Outcome
import AgentOperator.Reconcile.Pipeline
import Mathlib.Data.List.Flatten

/-!
# The failure policy of runs

What a run of tasks does about failures. `Pipeline.calls` are the calls of the actions of some tasks
one after another, whatever their results; a call ends the run (`Call.EndsRun`) if it fails because
the namespace is terminating, or if it fails and its task bails. A run makes the calls up to the
first one that ends it and no others, which determines its report, its result and the counted
events.
-/

namespace AgentOperator

namespace Text

/-- `occursIn` decides whether one list of characters is an infix of another one. -/
theorem occurs_in_iff (needle cs : List Char) : occursIn needle cs = true ↔ needle <:+: cs := by
  induction cs with
  | nil => simp [occursIn]
  | cons c rest ih =>
      rw [occursIn, Bool.or_eq_true, List.isPrefixOf_iff_prefix, ih, List.infix_cons_iff]

/-- `contains` decides whether the characters of one text are an infix of those of another one. -/
theorem contains_iff (text needle : String) :
    contains text needle = true ↔ needle.toList <:+: text.toList :=
  occurs_in_iff needle.toList text.toList

end Text

/-- The API server refuses a request with code 403 because the namespace is being terminated, which
it says in the reason or in the message. -/
def TaskError.SaysNamespaceTerminating (cause : TaskError) : Prop :=
  ∃ failure : Api.Failure, cause = .client (.refused failure) ∧ failure.code = 403 ∧
    (failure.reason = "NamespaceTerminating" ∨
      "because it is being terminated".toList <:+: failure.message.toList ∨
      "NamespaceTerminating".toList <:+: failure.message.toList)

/-- `isNamespaceTerminating` decides whether a failure says that the namespace is terminating. -/
theorem TaskError.is_namespace_terminating_iff (cause : TaskError) :
    cause.isNamespaceTerminating = true ↔ cause.SaysNamespaceTerminating := by
  unfold SaysNamespaceTerminating
  cases cause with
  | client cause =>
      cases cause with
      | refused failure =>
          simp only [isNamespaceTerminating, Api.Failure.isNamespaceTerminating,
            Bool.and_eq_true, Bool.or_eq_true, beq_iff_eq, Text.contains_iff, client.injEq,
            Api.ClientError.refused.injEq, exists_eq_left']
          rw [or_assoc, or_left_comm]
      | _ => simp [isNamespaceTerminating]
  | _ => simp [isNamespaceTerminating]

namespace Pipeline

variable {π σ : Type}

/-- A task and the outcome of its action. -/
structure Call (π σ : Type) where
  task : Task π
  outcome : Outcome σ (Except TaskError Unit)

namespace Call

/-- A call ends the run: it fails because the namespace is terminating, or its task bails. -/
def EndsRun (call : Call π σ) : Prop :=
  ∃ cause, call.outcome.value = .error cause ∧
    (cause.SaysNamespaceTerminating ∨ call.task.bailOnError = true)

/-- The name of the task and the message of the failure, if the call failed. -/
def ignored? (call : Call π σ) : Option IgnoredFailure :=
  match call.outcome.value with
  | .ok _ => none
  | .error cause => some ⟨call.task.name, cause.message⟩

/-- The effects of the run on the result of a call. -/
def treatment (call : Call π σ) : List Effect :=
  match call.outcome.value with
  | .ok _ => []
  | .error cause =>
    match TaskFailure.classify call.task.name call.task.bailOnError cause with
    | .notActionable name => [.logged (haltNotice name), .counted .namespaceTerminating]
    | .stepFailed name cause =>
      [.logged (failureNotice name cause), .counted (.taskFailure name true)]
    | .stepFailedIgnored name cause =>
      [.logged (ignoredNotice name cause), .counted (.taskFailure name false)]

/-- The effects of a call: the notice of its start, the effects of its action, and the treatment of
its result. -/
def trace (call : Call π σ) : List Effect :=
  .logged (startNotice call.task.name) :: (call.outcome.effects ++ call.treatment)

end Call

/-- The call of a task. -/
def invoke (host : Host σ) (params : π) (task : Task π) (state : σ) : Call π σ :=
  ⟨task, Attempt.outcome host (task.action params) state⟩

/-- The calls of some tasks, each in the state that the one before it left. -/
def calls (host : Host σ) (params : π) : List (Task π) → σ → List (Call π σ)
  | [], _ => []
  | task :: tasks, state =>
    let call := invoke host params task state
    call :: calls host params tasks call.outcome.state

/-- The state after some calls that began in `state`. -/
def stateAfter (state : σ) (calls : List (Call π σ)) : σ :=
  calls.foldl (fun _ call => call.outcome.state) state

/-- The events of ignored failures. -/
def ignoredEvents (ignored : List IgnoredFailure) : List Metrics.Event :=
  ignored.map fun failure => .taskFailure failure.task false

/-- A run made these calls, each once and in this order: its effects are the traces of the calls, it
leaves the state that they leave, and it counted the events `own` beside those that the actions
counted. -/
structure CarriedOut {ρ : Type} (state : σ) (calls : List (Call π σ)) (own : List Metrics.Event)
    (run : Outcome σ ρ) : Prop where
  effects : run.effects = calls.flatMap Call.trace
  final : run.state = stateAfter state calls
  counters : (Effect.events run.effects).Perm
    (calls.flatMap (fun call => Effect.events call.outcome.effects) ++ own)

section Calls

variable (host : Host σ) (params : π)

/-- The calls are those of the given tasks in order. -/
theorem map_task_calls (tasks : List (Task π)) (state : σ) :
    (calls host params tasks state).map Call.task = tasks := by
  induction tasks generalizing state with
  | nil => rfl
  | cons task tasks ih => simp [calls, ih, invoke]

/-- There is one call for each task. -/
theorem length_calls (tasks : List (Task π)) (state : σ) :
    (calls host params tasks state).length = tasks.length := by
  rw [← List.length_map Call.task, map_task_calls]

/-- The calls of a concatenation: those of the second list begin in the state in which the first one
ends. -/
theorem calls_append (first second : List (Task π)) (state : σ) :
    calls host params (first ++ second) state =
      calls host params first state ++
        calls host params second (stateAfter state (calls host params first state)) := by
  induction first generalizing state with
  | nil => rfl
  | cons task first ih => simp [calls, ih, stateAfter]

/-- A prefix of the calls is the calls of a prefix of the tasks. -/
theorem take_calls (n : Nat) (tasks : List (Task π)) (state : σ) :
    (calls host params tasks state).take n = calls host params (tasks.take n) state := by
  induction tasks generalizing n state with
  | nil => simp [calls]
  | cons task tasks ih =>
      cases n with
      | zero => rfl
      | succ n => simp [calls, ih]

end Calls

namespace Call

/-- The events of a call are those of its action and those of its treatment. -/
theorem events_trace (call : Call π σ) :
    Effect.events call.trace =
      Effect.events call.outcome.effects ++ Effect.events call.treatment := by
  simp [trace]

/-- A failure that does not end the run is counted as ignored. -/
theorem events_treatment_of_not_ends_run {call : Call π σ} (h : ¬ call.EndsRun) :
    Effect.events call.treatment = ignoredEvents call.ignored?.toList := by
  unfold treatment ignored?
  cases hvalue : call.outcome.value with
  | ok value => rfl
  | error cause =>
      have hgoes : ¬ (cause.SaysNamespaceTerminating ∨ call.task.bailOnError = true) :=
        fun hstop => h ⟨cause, hvalue, hstop⟩
      rw [not_or, ← TaskError.is_namespace_terminating_iff] at hgoes
      simp [TaskFailure.classify, hgoes.1, hgoes.2, ignoredEvents]

end Call

/-- The events of calls that do not end the run: those of the actions and those of the ignored
failures. -/
theorem events_of_not_ends_run (calls : List (Call π σ)) (h : ∀ call ∈ calls, ¬ call.EndsRun) :
    (Effect.events (calls.flatMap Call.trace)).Perm
      (calls.flatMap (fun call => Effect.events call.outcome.effects) ++
        ignoredEvents (calls.filterMap Call.ignored?)) := by
  induction calls with
  | nil => rfl
  | cons call calls ih =>
      have hrest := ih fun other hother => h other (List.mem_cons_of_mem call hother)
      have hown := Call.events_treatment_of_not_ends_run (h call (List.mem_cons_self ..))
      have hsplit : ignoredEvents ((call :: calls).filterMap Call.ignored?) =
          ignoredEvents call.ignored?.toList ++ ignoredEvents (calls.filterMap Call.ignored?) := by
        cases hcall : call.ignored? <;> simp [ignoredEvents, hcall]
      rw [List.flatMap_cons, Effect.events_append, Call.events_trace, hown, hsplit,
        List.flatMap_cons]
      simp only [List.append_assoc]
      refine List.Perm.append_left _ ?_
      -- the ignored failure moves behind the events of the actions that follow
      refine (List.Perm.append_left _ hrest).trans ?_
      rw [← List.append_assoc, ← List.append_assoc]
      exact List.Perm.append_right _ List.perm_append_comm

/-- A report with some more calls that did not end the run. -/
def passed (report : PipelineReport) (calls : List (Call π σ)) : PipelineReport :=
  { report with
    executed := report.executed ++ calls.map (·.task.name)
    ignored := report.ignored ++ calls.filterMap Call.ignored? }

section Steps

variable (host : Host σ) (params : π)

/-- The continuation of a run after a call: it ends, or goes on with the remaining tasks. -/
def settle (report : PipelineReport) (task : Task π) (tasks : List (Task π)) :
    Except TaskError Unit → Attempt PipelineError PipelineReport
  | .ok () => runFrom params (report.start task.name) tasks
  | .error cause =>
    match TaskFailure.classify task.name task.bailOnError cause with
    | .notActionable name => do
      Activity.report (haltNotice name)
      Activity.tally .namespaceTerminating
      return { report.start task.name with halted := true }
    | .stepFailed name cause => do
      Activity.report (failureNotice name cause)
      Activity.tally (.taskFailure name true)
      throw { task := name, cause := cause }
    | .stepFailedIgnored name cause => do
      Activity.report (ignoredNotice name cause)
      Activity.tally (.taskFailure name false)
      runFrom params ((report.start task.name).ignore name cause) tasks

/-- A run starts its first task, runs the action once, and then settles the call. -/
theorem outcome_run_from_cons (report : PipelineReport) (task : Task π) (tasks : List (Task π))
    (state : σ) :
    let call := invoke host params task state
    Attempt.outcome host (runFrom params report (task :: tasks)) state =
      (Attempt.outcome host (settle params report call.task tasks call.outcome.value)
        call.outcome.state).afterAll
        (.logged (startNotice call.task.name) :: call.outcome.effects) := by
  intro call
  rw [runFrom, Attempt.outcome_bind, Attempt.outcome_report]
  simp only []
  rw [Attempt.outcome_bind, Attempt.outcome_lift]
  rfl

variable {call : Call π σ} (report : PipelineReport) (tasks : List (Task π))

/-- A failure that does not end the run is ignored. -/
theorem outcome_settle_of_not_ends_run (hgoes : ¬ call.EndsRun) :
    (Attempt.outcome host (settle params report call.task tasks call.outcome.value)
      call.outcome.state).afterAll
      (.logged (startNotice call.task.name) :: call.outcome.effects) =
        (Attempt.outcome host (runFrom params (passed report [call]) tasks)
          call.outcome.state).afterAll call.trace := by
  cases hvalue : call.outcome.value with
  | ok value =>
      have hreport : passed report [call] = report.start call.task.name := by
        simp [passed, Call.ignored?, hvalue, PipelineReport.start]
      simp [settle, hreport, Call.trace, Call.treatment, hvalue]
  | error cause =>
      have hcause : ¬ (cause.SaysNamespaceTerminating ∨ call.task.bailOnError = true) :=
        fun hstop => hgoes ⟨cause, hvalue, hstop⟩
      rw [not_or, ← TaskError.is_namespace_terminating_iff] at hcause
      have hclass : TaskFailure.classify call.task.name call.task.bailOnError cause =
          .stepFailedIgnored call.task.name cause := by
        simp [TaskFailure.classify, hcause.1, hcause.2]
      have hreport : passed report [call] =
          (report.start call.task.name).ignore call.task.name cause := by
        simp [passed, Call.ignored?, hvalue, PipelineReport.start, PipelineReport.ignore]
      simp [settle, hclass, Attempt.outcome_bind, Attempt.outcome_report, Attempt.outcome_tally,
        hreport, Outcome.after_all_after_all, Call.trace, Call.treatment, hvalue]

/-- A failure because the namespace is terminating ends the run well, with a halted report. -/
theorem outcome_settle_of_terminating {cause : TaskError}
    (hvalue : call.outcome.value = .error cause) (hcause : cause.SaysNamespaceTerminating) :
    (Attempt.outcome host (settle params report call.task tasks call.outcome.value)
      call.outcome.state).afterAll
      (.logged (startNotice call.task.name) :: call.outcome.effects) =
        { value := .ok { report.start call.task.name with halted := true }
          effects := call.trace
          state := call.outcome.state } := by
  rw [← TaskError.is_namespace_terminating_iff] at hcause
  have hclass : TaskFailure.classify call.task.name call.task.bailOnError cause =
      .notActionable call.task.name := by
    simp [TaskFailure.classify, hcause]
  simp only [settle, hclass, Attempt.outcome_bind, Attempt.outcome_report,
    Attempt.outcome_tally, Attempt.outcome_pure, Outcome.afterAll, Call.trace, Call.treatment,
    hvalue]
  simp

/-- Any other failure of a task that bails is the failure of the run. -/
theorem outcome_settle_of_bail {cause : TaskError} (hvalue : call.outcome.value = .error cause)
    (hcause : ¬ cause.SaysNamespaceTerminating) (hbail : call.task.bailOnError = true) :
    (Attempt.outcome host (settle params report call.task tasks call.outcome.value)
      call.outcome.state).afterAll
      (.logged (startNotice call.task.name) :: call.outcome.effects) =
        { value := .error ⟨call.task.name, cause⟩
          effects := call.trace
          state := call.outcome.state } := by
  rw [← TaskError.is_namespace_terminating_iff] at hcause
  have hclass : TaskFailure.classify call.task.name call.task.bailOnError cause =
      .stepFailed call.task.name cause := by
    simp [TaskFailure.classify, hcause, hbail]
  simp [settle, hclass, Attempt.outcome_bind, Attempt.outcome_report, Attempt.outcome_tally,
    Attempt.outcome_throw, Outcome.afterAll, Call.trace, Call.treatment, hvalue]

end Steps

section Runs

variable (host : Host σ) (params : π)

/-- A run continues behind calls none of which ends it. -/
theorem outcome_run_from_append (before after : List (Task π)) (report : PipelineReport) (state : σ)
    (hgoes : ∀ call ∈ calls host params before state, ¬ call.EndsRun) :
    Attempt.outcome host (runFrom params report (before ++ after)) state =
      (Attempt.outcome host
        (runFrom params (passed report (calls host params before state)) after)
        (stateAfter state (calls host params before state))).afterAll
        ((calls host params before state).flatMap Call.trace) := by
  -- induction on the tasks that do not end the run, for any report and any state before them
  induction before generalizing report state with
  | nil => simp [calls, passed, stateAfter]
  | cons task before ih =>
      generalize hcall : invoke host params task state = call
      have hcalls : calls host params (task :: before) state =
          call :: calls host params before call.outcome.state := by
        simp only [calls, hcall]
      rw [hcalls] at hgoes ⊢
      have hrest := ih (passed report [call]) call.outcome.state fun other hother =>
        hgoes other (List.mem_cons_of_mem call hother)
      have hreport : passed (passed report [call]) (calls host params before call.outcome.state) =
          passed report (call :: calls host params before call.outcome.state) := by
        simp [passed, List.filterMap_cons]
        cases call.ignored? <;> rfl
      rw [List.cons_append, outcome_run_from_cons, hcall,
        outcome_settle_of_not_ends_run host params report _ (hgoes call (List.mem_cons_self ..)),
        hrest, Outcome.after_all_after_all, hreport]
      rfl

/-- A call and its predecessors are those of its task and the tasks before that. -/
theorem split_at_call {tasks : List (Task π)} {state : σ} {k : Nat} {call : Call π σ}
    (hcall : (calls host params tasks state)[k]? = some call) :
    ∃ after, tasks = tasks.take k ++ call.task :: after ∧
      (calls host params tasks state).take (k + 1) =
        (calls host params tasks state).take k ++ [call] ∧
      invoke host params call.task
        (stateAfter state ((calls host params tasks state).take k)) = call := by
  have htask : tasks[k]? = some call.task := by
    rw [← map_task_calls host params tasks state, List.getElem?_map, hcall]
    rfl
  obtain ⟨hk, hget⟩ := List.getElem?_eq_some_iff.1 htask
  have hsplit : tasks = tasks.take k ++ call.task :: tasks.drop (k + 1) := by
    rw [← hget, ← List.drop_eq_getElem_cons hk, List.take_append_drop]
  have htake : (calls host params tasks state).take (k + 1) =
      (calls host params tasks state).take k ++ [call] := by
    rw [List.take_add_one, hcall]
    rfl
  refine ⟨_, hsplit, htake, ?_⟩
  have hlength : (tasks.take k).length = k := by
    rw [List.length_take]
    omega
  have hthere : (calls host params tasks state)[k]? =
      some (invoke host params call.task
        (stateAfter state ((calls host params tasks state).take k))) := by
    rw [take_calls]
    generalize tasks.take k = before at hsplit hlength
    have hcount : (calls host params before state).length = k := by
      rw [length_calls, hlength]
    rw [hsplit, calls_append, calls, List.getElem?_append_right (Nat.le_of_eq hcount), hcount]
    simp
  exact Option.some.inj (hthere.symm.trans hcall)

/-- The names of a prefix of the tasks are those of a prefix of the calls. -/
theorem map_name_take (n : Nat) (tasks : List (Task π)) (state : σ) :
    (tasks.take n).map Task.name =
      ((calls host params tasks state).take n).map (·.task.name) := by
  rw [take_calls, ← map_task_calls host params (tasks.take n) state, List.map_map]
  simp [map_task_calls, Function.comp_def]

/-- A run that is ended by a call has made the calls up to that one. -/
theorem carried_out_of_ends_run {ρ : Type} {before : List (Call π σ)} {call : Call π σ} {state : σ}
    {event : Metrics.Event} {run : Outcome σ ρ} (hgoes : ∀ earlier ∈ before, ¬ earlier.EndsRun)
    (hown : Effect.events call.treatment = [event])
    (heffects : run.effects = before.flatMap Call.trace ++ call.trace)
    (hstate : run.state = call.outcome.state) :
    CarriedOut state (before ++ [call])
      (ignoredEvents (before.filterMap Call.ignored?) ++ [event]) run where
  effects := by simpa using heffects
  final := by simpa [stateAfter] using hstate
  counters := by
    rw [heffects, Effect.events_append, Call.events_trace, hown, List.flatMap_append,
      List.flatMap_singleton]
    refine (List.Perm.append_right _ (events_of_not_ends_run before hgoes)).trans ?_
    -- the events of the last action come before those of the ignored failures
    simp only [List.append_assoc]
    refine List.Perm.append_left _ ?_
    rw [← List.append_assoc, ← List.append_assoc]
    exact List.Perm.append_right _ List.perm_append_comm

/-- A run settles a call none of whose predecessors ends it, with the report on these. -/
theorem outcome_run_at_call {tasks : List (Task π)} {state : σ} {k : Nat} {call : Call π σ}
    (hcall : (calls host params tasks state)[k]? = some call)
    (hbefore : ∀ earlier ∈ (calls host params tasks state).take k, ¬ earlier.EndsRun) :
    ∃ after, Attempt.outcome host (run tasks params) state =
      ((Attempt.outcome host
        (settle params (passed {} ((calls host params tasks state).take k)) call.task after
          call.outcome.value) call.outcome.state).afterAll
          (.logged (startNotice call.task.name) :: call.outcome.effects)).afterAll
        (((calls host params tasks state).take k).flatMap Call.trace) := by
  obtain ⟨after, htasks, -, hinvoke⟩ := split_at_call host params hcall
  have hgoes : ∀ earlier ∈ calls host params (tasks.take k) state, ¬ earlier.EndsRun := by
    rwa [← take_calls]
  refine ⟨after, ?_⟩
  have hsplit : Attempt.outcome host (run tasks params) state =
      Attempt.outcome host (runFrom params {} (tasks.take k ++ call.task :: after)) state :=
    congrArg (fun tasks => Attempt.outcome host (runFrom params {} tasks) state) htasks
  rw [hsplit, outcome_run_from_append host params _ _ _ _ hgoes, ← take_calls,
    outcome_run_from_cons, hinvoke]

/-- A run that is ended by none of its calls ends well. -/
theorem outcome_run_of_not_ends_run {tasks : List (Task π)} {state : σ}
    (hgoes : ∀ call ∈ calls host params tasks state, ¬ call.EndsRun) :
    Attempt.outcome host (run tasks params) state =
      { value := .ok (passed {} (calls host params tasks state))
        effects := (calls host params tasks state).flatMap Call.trace
        state := stateAfter state (calls host params tasks state) } := by
  have happend := outcome_run_from_append host params tasks [] {} state hgoes
  rw [List.append_nil, runFrom, Attempt.outcome_pure] at happend
  exact happend.trans (by simp [Outcome.afterAll])

/-- The executed tasks when a call is started: those up to the task of the call. -/
theorem executed_start {tasks : List (Task π)} {state : σ} {k : Nat} {call : Call π σ}
    (hcall : (calls host params tasks state)[k]? = some call) :
    ((passed {} ((calls host params tasks state).take k)).start call.task.name).executed =
      (tasks.take (k + 1)).map Task.name := by
  obtain ⟨-, -, htake, -⟩ := split_at_call host params hcall
  rw [map_name_take host params (k + 1) tasks state, htake]
  simp [passed, PipelineReport.start]

/-- The executed tasks of a run that is ended by none of its calls: all tasks. -/
theorem executed_passed (tasks : List (Task π)) (state : σ) :
    (passed {} (calls host params tasks state)).executed = tasks.map Task.name := by
  have hnames := map_name_take host params tasks.length tasks state
  rw [List.take_length, ← length_calls host params tasks state, List.take_length] at hnames
  rw [hnames]
  simp [passed]

/-- The failure policy of a run. Let `k` be the first call that ends it. The calls up to this one
are made and no others; the run ends well and halted if the call failed because the namespace is
terminating, whether or not its task bails, and otherwise it fails with this very failure. If there
is no such call then all calls are made and the run ends well. The failures before the end are
ignored: they are reported and counted in order. -/
theorem run_follows_policy (tasks : List (Task π)) (state : σ) :
    let calls := calls host params tasks state
    let run := Attempt.outcome host (Pipeline.run tasks params) state
    (∀ k call cause, calls[k]? = some call → call.outcome.value = .error cause →
      cause.SaysNamespaceTerminating ∨ call.task.bailOnError = true →
      (∀ earlier ∈ calls.take k, ¬ earlier.EndsRun) →
        let ignored := (calls.take k).filterMap Call.ignored?
        (cause.SaysNamespaceTerminating →
          CarriedOut state (calls.take (k + 1)) (ignoredEvents ignored ++ [.namespaceTerminating])
            run ∧
          run.value = .ok
            { executed := (tasks.take (k + 1)).map Task.name, ignored := ignored, halted := true })
        ∧ (¬ cause.SaysNamespaceTerminating →
          CarriedOut state (calls.take (k + 1))
            (ignoredEvents ignored ++ [.taskFailure call.task.name true]) run ∧
          run.value = .error { task := call.task.name, cause := cause }))
    ∧ ((∀ call ∈ calls, ¬ call.EndsRun) →
        let ignored := calls.filterMap Call.ignored?
        CarriedOut state calls (ignoredEvents ignored) run ∧
        run.value = .ok
          { executed := tasks.map Task.name, ignored := ignored, halted := false }) := by
  intro calls run
  constructor
  · intro k call cause hcall hvalue hstop hbefore ignored
    obtain ⟨-, -, htake, -⟩ := split_at_call host params hcall
    obtain ⟨after, (hrun : run = _)⟩ := outcome_run_at_call host params hcall hbefore
    have hnames := executed_start host params hcall
    rw [show calls.take (k + 1) = calls.take k ++ [call] from htake]
    constructor
    · intro hcause
      have hclass := outcome_settle_of_terminating host params
        (passed {} (calls.take k)) after hvalue hcause
      rw [hclass] at hrun
      rw [← TaskError.is_namespace_terminating_iff] at hcause
      refine ⟨carried_out_of_ends_run hbefore ?_ (by rw [hrun]; rfl) (by rw [hrun]; rfl), ?_⟩
      · simp [Call.treatment, hvalue, TaskFailure.classify, hcause]
      · rw [hrun, ← hnames]
        rfl
    · intro hcause
      have hbail := hstop.resolve_left hcause
      have hclass := outcome_settle_of_bail host params
        (passed {} (calls.take k)) after hvalue hcause hbail
      rw [hclass] at hrun
      rw [← TaskError.is_namespace_terminating_iff] at hcause
      refine ⟨carried_out_of_ends_run hbefore ?_ (by rw [hrun]; rfl) (by rw [hrun]; rfl), ?_⟩
      · simp [Call.treatment, hvalue, TaskFailure.classify, hcause, hbail]
      · rw [hrun]
        rfl
  · intro hgoes ignored
    have hrun : run = _ := outcome_run_of_not_ends_run host params hgoes
    refine ⟨⟨by rw [hrun], by rw [hrun], ?_⟩, ?_⟩
    · rw [hrun]
      exact events_of_not_ends_run calls hgoes
    · rw [hrun, ← executed_passed host params tasks state]
      rfl

/-- A refusal because the namespace is terminating halts a run although its task bails; the failure
before it was ignored, and the task after it is not started. -/
theorem run_halts_at_bailing_task :
    let host : Host Unit :=
      { serve := fun _ state => (.brokenStream, state), now := fun _ => ⟨0, 0⟩ }
    let refusal : Api.Failure :=
      { status := "Failure", reason := "NamespaceTerminating", code := 403 }
    let tasks : List (Task Unit) :=
      [⟨"a", false, fun _ => throw (.failed "broken")⟩,
        ⟨"a", true, fun _ => throw (.client (.refused refusal))⟩,
        ⟨"b", true, fun _ => return ()⟩]
    (Attempt.outcome host (Pipeline.run tasks ()) ()).value =
      .ok { executed := ["a", "a"], ignored := [⟨"a", "broken"⟩], halted := true } := by
  intro host refusal tasks
  have hcause : TaskError.SaysNamespaceTerminating (.client (.refused refusal)) :=
    ⟨refusal, rfl, rfl, .inl rfl⟩
  have hbefore : ∀ earlier ∈ (calls host () tasks ()).take 1, ¬ earlier.EndsRun := by
    intro earlier hearlier
    obtain rfl := List.mem_singleton.1 hearlier
    intro hends
    rcases hends with ⟨cause, hvalue, ⟨failure, hfailure, -⟩ | hbail⟩
    · obtain rfl := Except.error.inj hvalue
      cases hfailure
    · cases hbail
  obtain ⟨hhalted, -⟩ := (run_follows_policy host () tasks ()).1 1
    (invoke host () ⟨"a", true, fun _ => throw (.client (.refused refusal))⟩ ()) _ rfl rfl
    (.inl hcause) hbefore
  exact (hhalted hcause).2

end Runs

end Pipeline

end AgentOperator
