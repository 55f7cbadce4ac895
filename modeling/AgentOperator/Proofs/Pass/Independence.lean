import AgentOperator.Proofs.Activity.Independence
import AgentOperator.Proofs.Pass.Transcript
import AgentOperator.Proofs.Pipeline.Invariant

/-!
# Passes in different namespaces

Two passes of one reconciler over agents in different namespaces, interleaved on one server. All
requests of a pass are about the namespace of its agent: those of the client are about the namespace
that they are called with (`Client.stays_in_send`), the tasks of a pass call them with the namespace
of the agent (`Task.StaysPut`), and so does the event about a failed pass. The passes share the
settings and the task list, and these are unchanged unless an operation replaces the list
(`Sharing.tasks_unreplaced`). So `passes_independent` follows for all reconcilers whose tasks stay
in the namespace of their agent, as the default ones do.
-/

namespace AgentOperator

variable {α β δ ε : Type} {inNamespace : String}

namespace Attempt

/-- All requests of an attempt are about one namespace, for all replies. -/
def StaysIn (inNamespace : String) (work : Attempt ε α) : Prop :=
  Activity.StaysIn inNamespace work.run

/-- A value or an error sends no request. -/
theorem stays_in_of_except (result : Except ε α) : StaysIn inNamespace (ofExcept result) :=
  .done result

/-- A value sends no request. -/
theorem stays_in_pure (value : α) : StaysIn inNamespace (pure value : Attempt ε α) := .done _

/-- An error sends no request. -/
theorem stays_in_throw (cause : ε) : StaysIn inNamespace (throw cause : Attempt ε α) := .done _

/-- Work that cannot fail stays in its namespace as part of an attempt. -/
theorem stays_in_lift {work : Activity α} (h : work.StaysIn inNamespace) :
    StaysIn inNamespace (liftM work : Attempt ε α) :=
  h.bind fun _ => .done _

/-- Writing a log record sends no request. -/
theorem stays_in_report (record : Log.Record) :
    StaysIn inNamespace (liftM (Activity.report record) : Attempt ε Unit) :=
  stays_in_lift (.log record (.done _))

/-- Counting an event sends no request. -/
theorem stays_in_tally (event : Metrics.Event) :
    StaysIn inNamespace (liftM (Activity.tally event) : Attempt ε Unit) :=
  stays_in_lift (.count event (.done _))

/-- A composition of attempts stays in a namespace if both parts do. -/
theorem stays_in_bind {work : Attempt ε α} {next : α → Attempt ε β}
    (h : StaysIn inNamespace work) (hnext : ∀ value, StaysIn inNamespace (next value)) :
    StaysIn inNamespace (work >>= next) := by
  refine Activity.StaysIn.bind h fun result => ?_
  cases result with
  | ok value => exact hnext value
  | error cause => exact .done _

/-- An attempt whose result is inspected, followed by work that depends on it. -/
theorem stays_in_of_result {work : Attempt δ α} {next : Except δ α → Activity (Except ε β)}
    (h : StaysIn inNamespace work) (hnext : ∀ result, (next result).StaysIn inNamespace) :
    StaysIn inNamespace (ofResult (work.run >>= next)) :=
  Activity.StaysIn.bind h hnext

/-- An attempt whose errors are mapped sends the same requests. -/
theorem stays_in_adapt {work : Attempt δ α} (rename : δ → ε) (h : StaysIn inNamespace work) :
    StaysIn inNamespace (ExceptT.adapt rename work) :=
  Activity.StaysIn.bind h fun _ => .done _

end Attempt

open Attempt
open Transcript (Yields)

namespace Api.Client

/-- A request that is sent is about its own namespace. -/
theorem stays_in_send {request : Request} (h : request.inNamespace = inNamespace) :
    StaysIn inNamespace (send request) := by
  unfold send
  split
  · exact stays_in_throw _
  · exact stays_in_bind (stays_in_lift (.ask h fun reply => .done reply)) fun _ =>
      stays_in_of_except _

/-- A request for an object is about its own namespace. -/
theorem stays_in_send_for (type : ResourceType α) {request : Request}
    (h : request.inNamespace = inNamespace) : StaysIn inNamespace (sendFor type request) :=
  stays_in_bind (stays_in_send h) fun _ => stays_in_of_except _

/-- The result of the reply to a request for an object. -/
def answered (type : ResourceType α) (reply : Reply) : Except ClientError α :=
  (accepted reply).bind fun body => (body.decode type.codec).mapError .unexpected

/-- A result with an object is that of a reply that yields it. -/
theorem of_answered {type : ResourceType α} {reply : Reply} {object : α}
    (h : answered type reply = .ok object) : Yields (·.decode type.codec) reply object := by
  unfold answered at h
  cases haccepted : accepted reply with
  | error cause =>
      rw [haccepted] at h
      cases h
  | ok body =>
      refine ⟨body, haccepted, ?_⟩
      cases hread : body.decode type.codec with
      | error fault => simp [haccepted, hread, Except.bind, Except.mapError] at h
      | ok found => simpa [haccepted, hread, Except.bind, Except.mapError] using h

/-- A request for an object that can be sent is one request of the activity. -/
theorem run_send_for (type : ResourceType α) {request : Request} {address : Address}
    (h : request.address = .ok address) :
    (sendFor type request).run = .ask request fun reply => .done (answered type reply) := by
  unfold sendFor send
  rw [h]
  refine congrArg (Activity.ask request) (funext fun reply => ?_)
  show Activity.bind (Attempt.ofExcept (accepted reply)) _ = _
  unfold answered
  cases accepted reply <;> rfl

/-- Work that continues with an object keeps to a namespace if the request for the object is about
it, and so is the continuation for every object in a reply and for every failure. -/
theorem keeps_to_send_for_bind {σ : Type} {serve : Request → σ → Reply × σ} {state : σ}
    {type : ResourceType α} {request : Request} {next : Except ClientError α → Activity β}
    (hrequest : request.inNamespace = inNamespace)
    (hfailed : ∀ cause, (next (.error cause)).StaysIn inNamespace)
    (hanswered : ∀ object, Yields (·.decode type.codec) (serve request state).1 object →
      (next (.ok object)).StaysIn inNamespace) :
    Activity.KeepsTo serve inNamespace ((sendFor type request).run >>= next) state := by
  cases haddress : request.address with
  | error fault =>
      unfold sendFor send
      rw [haddress]
      exact (hfailed (.unsendable fault)).keeps_to state
  | ok address =>
      rw [run_send_for type haddress]
      refine .ask hrequest (Activity.StaysIn.keeps_to ?_ _)
      show (next (answered type _)).StaysIn inNamespace
      cases hresult : answered type (serve request state).1 with
      | error cause => exact hfailed cause
      | ok object => exact hanswered object (of_answered hresult)

/-- The GET of an object is about its namespace. -/
theorem stays_in_fetch_optional (type : ResourceType α) (inNamespace name : String) :
    StaysIn inNamespace (fetchOptional type inNamespace name) := by
  have hfetch : StaysIn inNamespace (fetch type inNamespace name) := stays_in_send_for type rfl
  refine stays_in_of_result hfetch fun result => ?_
  cases result with
  | ok object => exact .done _
  | error cause => exact .done _

/-- The PATCH of a status is about the namespace of the object. -/
theorem stays_in_patch_status (type : ResourceType α) (inNamespace name : String) (change : Json) :
    StaysIn inNamespace (patchStatus type inNamespace name change) :=
  stays_in_send_for type rfl

/-- The DELETE of an object is about its namespace. -/
theorem stays_in_delete (type : ResourceType α) (inNamespace name : String) :
    StaysIn inNamespace (delete type inNamespace name) :=
  stays_in_bind (stays_in_send rfl) fun _ => stays_in_of_except _

/-- The POST of an event is about its namespace. -/
theorem stays_in_create_event (inNamespace : String) (event : Kubernetes.Event) :
    StaysIn inNamespace (createEvent inNamespace event) :=
  stays_in_bind (stays_in_send rfl) fun _ =>
    stays_in_bind (stays_in_of_except _) fun _ => stays_in_pure _

end Api.Client

/-- All requests of a task are about the namespace of the agent, for all replies. -/
def Task.StaysPut (task : Task Pass) : Prop :=
  ∀ pass : Pass, StaysIn pass.inNamespace (task.action pass)

namespace Pass

variable (pass : Pass)

/-- An object is applied in the namespace of the agent. -/
theorem stays_in_apply (type : Api.ResourceType α) (desired : α) :
    StaysIn pass.inNamespace (pass.apply type desired) :=
  stays_in_bind (stays_in_adapt _ (Api.Client.stays_in_send_for type rfl)) fun _ =>
    stays_in_report _

/-- An object is removed from the namespace of the agent. -/
theorem stays_in_delete_owned (type : Api.ResourceType α) (name : String) :
    StaysIn pass.inNamespace (pass.deleteOwned type name) := by
  have hdelete := Api.Client.stays_in_delete type pass.inNamespace name
  refine stays_in_bind (stays_in_adapt _ (Api.Client.stays_in_fetch_optional type _ name)) ?_
  rintro (_ | existing)
  · exact stays_in_pure _
  · dsimp only
    split
    · exact stays_in_pure _
    · refine stays_in_bind (stays_in_lift hdelete) ?_
      rintro (cause | _)
      · dsimp only
        split
        · exact stays_in_pure _
        · exact stays_in_throw _
      · exact stays_in_report _

/-- An object is converged in the namespace of the agent. -/
theorem stays_in_converge (type : Api.ResourceType α) (name : String) (desired : Option α) :
    StaysIn pass.inNamespace (pass.converge type name desired) := by
  cases desired with
  | some desired => exact pass.stays_in_apply type desired
  | none => exact pass.stays_in_delete_owned type name

/-- Writing log records sends no request. -/
theorem stays_in_report_all (records : List Log.Record) :
    (Activity.reportAll records).StaysIn inNamespace := by
  induction records with
  | nil => exact .done ()
  | cons record records ih => exact .log record ih

/-- A workload is converged in the namespace of the agent. -/
theorem stays_in_converge_workload (type : Api.ResourceType α) (desired : Option α) :
    StaysIn pass.inNamespace (pass.convergeWorkload type desired) :=
  stays_in_bind (stays_in_lift (stays_in_report_all _)) fun _ =>
    pass.stays_in_converge type _ desired

/-- The workload is read in the namespace of the agent. -/
theorem stays_in_observe : StaysIn pass.inNamespace pass.observe := by
  have hlook {α : Type} (type : Api.ResourceType α) :=
    Api.Client.stays_in_fetch_optional type pass.inNamespace (Naming.workload pass.agent.name)
  unfold observe
  dsimp only
  cases pass.agent.spec.mode with
  | deployment => exact stays_in_bind (stays_in_adapt _ (hlook _)) fun _ => stays_in_pure _
  | daemonSet => exact stays_in_bind (stays_in_adapt _ (hlook _)) fun _ => stays_in_pure _

/-- The status is reported in the namespace of the agent. -/
theorem stays_in_report_status : StaysIn pass.inNamespace pass.reportStatus := by
  refine stays_in_bind pass.stays_in_observe fun readiness => ?_
  refine stays_in_bind (stays_in_lift (.clock fun _ => .done _)) fun now => ?_
  generalize desiredStatus pass.settings pass.agent readiness now = status
  have hpatch := Api.Client.stays_in_patch_status .agent pass.inNamespace pass.agent.name
    (statusPatch status)
  dsimp only
  split
  · exact stays_in_report _
  · exact stays_in_bind (stays_in_adapt _ hpatch) fun _ => stays_in_report _

/-- The service account is converged in the namespace of the agent. -/
theorem stays_in_converge_service_account :
    StaysIn pass.inNamespace pass.convergeServiceAccount := by
  unfold convergeServiceAccount
  split
  · exact pass.stays_in_apply .serviceAccount _
  · exact stays_in_report _

/-- The config map is converged in the namespace of the agent. -/
theorem stays_in_converge_config_map : StaysIn pass.inNamespace pass.convergeConfigMap := by
  unfold convergeConfigMap
  exact pass.stays_in_apply _ _

/-- The service is converged in the namespace of the agent. -/
theorem stays_in_converge_service : StaysIn pass.inNamespace pass.convergeService := by
  unfold convergeService
  exact pass.stays_in_converge _ _ _

/-- The deployment is converged in the namespace of the agent. -/
theorem stays_in_converge_deployment : StaysIn pass.inNamespace pass.convergeDeployment := by
  unfold convergeDeployment
  exact pass.stays_in_converge_workload _ _

/-- The daemon set is converged in the namespace of the agent. -/
theorem stays_in_converge_daemon_set : StaysIn pass.inNamespace pass.convergeDaemonSet := by
  unfold convergeDaemonSet
  exact pass.stays_in_converge_workload _ _

/-- The default tasks stay in the namespace of the agent. -/
theorem default_tasks_stay_put : ∀ task ∈ defaultTasks, task.StaysPut := by
  simp only [defaultTasks, List.forall_mem_cons]
  exact ⟨stays_in_converge_config_map, stays_in_converge_service_account, stays_in_converge_service,
    stays_in_converge_deployment, stays_in_converge_daemon_set, stays_in_report_status,
    List.forall_mem_nil _⟩

end Pass

/-- A run of tasks that stay in the namespace of the agent does. -/
theorem Pipeline.stays_in_run_from (pass : Pass) {tasks : List (Task Pass)}
    (h : ∀ task ∈ tasks, task.StaysPut) (report : PipelineReport) :
    StaysIn pass.inNamespace (runFrom pass report tasks) := by
  induction tasks generalizing report with
  | nil => exact stays_in_pure _
  | cons task tasks ih =>
      obtain ⟨htask, hrest⟩ := List.forall_mem_cons.1 h
      refine stays_in_bind (stays_in_report _) fun _ => ?_
      refine stays_in_bind (stays_in_lift (htask pass)) ?_
      rintro (cause | _)
      · -- a failure is treated by what it is, but only the next tasks ask for something
        dsimp only
        split
        · exact stays_in_bind (stays_in_report _) fun _ =>
            stays_in_bind (stays_in_tally _) fun _ => stays_in_pure _
        · exact stays_in_bind (stays_in_report _) fun _ =>
            stays_in_bind (stays_in_tally _) fun _ => stays_in_throw _
        · exact stays_in_bind (stays_in_report _) fun _ =>
            stays_in_bind (stays_in_tally _) fun _ => ih hrest _
      · exact ih hrest _

/-- The event about a failed pass is recorded in the namespace of the agent. -/
theorem stays_in_publish_failure {agent : Agent} (h : agent.metadata.inNamespace = some inNamespace)
    (cause : PipelineError) : (publishFailure agent cause).StaysIn inNamespace := by
  have hplace : eventNamespace agent = inNamespace := by
    rw [eventNamespace, h]
    rfl
  refine Activity.StaysIn.bind (.clock .done) fun now => ?_
  rw [hplace]
  have hcreate := Api.Client.stays_in_create_event inNamespace (failureEvent agent cause now)
  refine Activity.StaysIn.bind hcreate fun result => ?_
  cases result with
  | ok _ => exact .done ()
  | error fault => exact .log _ (.done ())

namespace Reconciler

variable {reconciler : Reconciler} {σ : Type}

/-- The tasks of a reconciler stay in the namespace of the agent. -/
def StaysPut (reconciler : Reconciler) : Prop := ∀ task ∈ reconciler.tasks, task.StaysPut

/-- A reconciler with the default tasks stays in the namespace of the agent. -/
theorem new_stays_put (settings : Settings) : (new settings).StaysPut := Pass.default_tasks_stay_put

/-- A pass over an agent that was read stays in the namespace of the agent. -/
theorem StaysPut.converge (h : reconciler.StaysPut) {agent : Agent}
    (hagent : agent.metadata.inNamespace = some inNamespace) :
    Attempt.StaysIn inNamespace (reconciler.converge agent) := by
  have hplace : Pass.inNamespace ⟨reconciler.settings, agent⟩ = inNamespace := by
    rw [Pass.inNamespace, Agent.namespaceName, hagent]
    rfl
  have hrun := Pipeline.stays_in_run_from ⟨reconciler.settings, agent⟩ h {}
  rw [hplace] at hrun
  refine stays_in_of_result hrun fun result => ?_
  cases result with
  | ok report => exact .log _ (.done _)
  | error cause => exact (stays_in_publish_failure hagent cause).bind fun _ => .done _

/-- An agent in the reply to the first request of a pass lies in the namespace of the request. -/
def Located (serve : Api.Request → σ → Api.Reply × σ) (state : σ) (inNamespace name : String) :
    Prop :=
  let reply := (serve (.fetch ⟨.agent, inNamespace, name⟩) state).1
  ∀ agent, Yields (·.decode Agent.codec) reply agent →
    agent.metadata.inNamespace = some inNamespace

/-- A pass keeps to the namespace that it is called with. -/
theorem StaysPut.keeps_to (h : reconciler.StaysPut) {serve : Api.Request → σ → Api.Reply × σ}
    {state : σ} {name : String} (hlocated : Located serve state inNamespace name) :
    Activity.KeepsTo serve inNamespace (reconciler.reconcileByName inNamespace name).run state := by
  refine Api.Client.keeps_to_send_for_bind rfl (fun cause => ?_) fun agent hyields => ?_
  · dsimp only
    split
    · exact .log _ (.done _)
    · exact .done _
  · exact h.converge (hlocated agent hyields)

/-- Two passes of a reconciler. -/
def passes (reconciler : Reconciler) (place name : Side → String) (side : Side) :
    Activity (Except ReconcileError NextAction) :=
  (reconciler.reconcileByName (place side) (name side)).run

end Reconciler

/-- As long as no operation replaces the task list, the list is unchanged, and every waiting
operation can be admitted. -/
theorem Sharing.tasks_unreplaced {π : Type} {initial : List (Task π)} {s : State π}
    (h : Reaches initial s) (hreaders : ∀ errand ∈ s.came, errand.replacement? = none) :
    s.tasks = initial ∧ ∀ errand ∈ s.waiting, Admits s.visits errand := by
  have hsound := Sound.of_reaches h
  rw [hsound.fifo] at hreaders
  have hvisits (visit : Visit π) (hvisit : visit ∈ s.visits) : visit.errand.replacement? = none :=
    hreaders _ (List.mem_append_left _ (List.mem_map_of_mem hvisit))
  constructor
  · rw [hsound.tasks_eq fun visit hvisit _ => hvisits visit hvisit]
    have hnone : ∀ errand ∈ s.visits.map Visit.errand, errand.replacement? = none :=
      fun errand herrand => hreaders errand (List.mem_append_left _ herrand)
    exact in_force_append_of_readers [] hnone
  · intro errand herrand visit hvisit _
    exact ⟨hvisits visit hvisit, hreaders errand (List.mem_append_right _ herrand)⟩

/-- Two passes of one reconciler in different namespaces are independent, on any server that keeps
namespaces apart and has the agents in these namespaces, and for any task list, as long as each task
stays in the namespace of the agent. The default tasks do; and as long as no operation replaces the
task list, both passes run the tasks of this list and need not wait for it. -/
theorem passes_independent {σ π : Type} {serve : Api.Request → σ → Api.Reply × σ}
    {part : σ → String → π} (hserver : KeepsApart serve part) {reconciler : Reconciler}
    (hstays : reconciler.StaysPut) {place name : Side → String}
    (hplaces : place .left ≠ place .right) {world : World σ}
    (hlocated : ∀ side, Reconciler.Located serve world.state (place side) (name side)) :
    (∀ settings, (Reconciler.new settings).StaysPut) ∧
      (∀ s, Sharing.Reaches reconciler.tasks s →
        (∀ errand ∈ s.came, errand.replacement? = none) →
        s.tasks = reconciler.tasks ∧ ∀ errand ∈ s.waiting, Sharing.Admits s.visits errand) ∧
      Scene.Independent serve part world (reconciler.passes place name) :=
  ⟨Reconciler.new_stays_put, fun _ => Sharing.tasks_unreplaced,
    Scene.independent hserver hplaces fun side => hstays.keeps_to (hlocated side)⟩

/-- The entries of the document of a sample agent in a namespace. -/
def neighbourEntries (inNamespace : String) : List (String × Json) :=
  [("metadata", .obj [("generation", .int 1), ("name", .str "sample"),
    ("namespace", .str inNamespace), ("uid", .str inNamespace)]), ("spec", .obj [])]

/-- The agent of this document. -/
def neighbour (inNamespace : String) : Agent :=
  { metadata :=
      { name := some "sample", inNamespace := some inNamespace, uid := some inNamespace
        generation := some 1 }
    spec := {} }

/-- The document decodes to the agent. -/
theorem decode_neighbour_entries (inNamespace : String) :
    Agent.codec.decode (.obj (neighbourEntries inNamespace)) = .ok (neighbour inNamespace) := rfl

/-- The namespaces of two sample agents of one name. -/
def neighbourhood : Side → String
  | .left => "agents"
  | .right => "others"

/-- A cluster with two sample agents, and counters at zero. -/
def neighbours : World (Cluster.Store Api.ObjectRef) where
  state := ⟨[(⟨.agent, "agents", "sample"⟩, .obj (neighbourEntries "agents")),
    (⟨.agent, "others", "sample"⟩, .obj (neighbourEntries "others"))]⟩
  counters := ∅

/-- Whether a request applies an object of the first sample agent. -/
def appliesForFirst : Api.Request → Bool
  | .apply ref _ => ref.inNamespace = "agents"
  | _ => false

/-- Alternating turns of two works. -/
def alternation (now : Side → Instant) : Nat → List Scene.Turn
  | 0 => []
  | n + 1 => ⟨.left, now .left⟩ :: ⟨.right, now .right⟩ :: alternation now n

/-- Each of two works has the same number of alternating turns. -/
theorem of_alternation (now : Side → Instant) (n : Nat) (side : Side) :
    Scene.Turn.of side (alternation now n) = List.replicate n ⟨side, now side⟩ := by
  induction n with
  | zero => rfl
  | succ n ih =>
      rw [List.replicate_succ, ← ih]
      cases side <;> rfl

/-- The clock shows each of two works one time in alternating turns. -/
theorem time_of_mem_alternation {now : Side → Instant} {n : Nat} {turn : Scene.Turn}
    (h : turn ∈ alternation now n) : turn.time = now turn.side := by
  induction n with
  | zero => cases h
  | succ n ih =>
      rcases List.mem_cons.1 h with rfl | h
      · rfl
      · rcases List.mem_cons.1 h with rfl | h
        · rfl
        · exact ih h

/-- The times that the clock shows to the passes over the two sample agents. -/
def neighbourClock : Side → Instant
  | .left => ⟨0, 0⟩
  | .right => ⟨60, 0⟩

/-- The passes over two sample agents alternate, and one of them fails. The result is that of the
one after the other. -/
theorem neighbours_independent :
    let serve := (Cluster.failingHost ⟨0, 0⟩ appliesForFirst).serve
    let passes := (Reconciler.new {}).passes neighbourhood fun _ => "sample"
    ∃ turns,
      let final := (Scene.begin neighbours passes).play serve turns
      Effect.events (final.work .left).seen = [.taskFailure "config maps" true] ∧
        (∀ side, (final.work side).IsFinished) ∧
        ∀ first, final.Same Cluster.Store.inNamespace
          (Scene.inTurn serve neighbourClock neighbours passes first) := by
  intro serve passes
  have hlocated (side : Side) :
      Reconciler.Located serve neighbours.state (neighbourhood side) "sample" := by
    have hreply : Api.Client.accepted
        (serve (.fetch ⟨.agent, neighbourhood side, "sample"⟩) neighbours.state).1 =
        .ok (.document (.obj (neighbourEntries (neighbourhood side)))) := by
      cases side <;> rfl
    intro agent hyields
    obtain ⟨body, haccepted, hread⟩ := hyields
    obtain rfl := Except.ok.inj (hreply.symm.trans haccepted)
    obtain rfl := Except.ok.inj
      ((decode_neighbour_entries _).symm.trans (Transcript.decode_document hread))
    rfl
  obtain ⟨-, -, hindependent⟩ := passes_independent
    (Cluster.keeps_apart_failing ⟨0, 0⟩ appliesForFirst) (Reconciler.new_stays_put {})
    (show neighbourhood .left ≠ neighbourhood .right by decide) hlocated
  obtain ⟨n, hn⟩ := hindependent.finished neighbourClock
  have htimes : ∀ turn ∈ alternation neighbourClock n, turn.time = neighbourClock turn.side :=
    fun _ => time_of_mem_alternation
  have hlength (side : Side) : n ≤ (Scene.Turn.of side (alternation neighbourClock n)).length := by
    rw [of_alternation]
    exact Nat.le_of_eq List.length_replicate.symm
  have hfinished := hn (alternation neighbourClock n) htimes hlength
  refine ⟨_, ?_, hfinished, hindependent.inTurn htimes hfinished⟩
  rw [hindependent.carriedOut htimes hfinished .left]
  decide +kernel

end AgentOperator
