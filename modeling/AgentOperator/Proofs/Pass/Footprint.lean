import AgentOperator.Proofs.Cluster.Unreliable
import AgentOperator.Proofs.Pass.Effects

/-!
# The footprint of a pass

The requests that a pass may send at all, for all replies: it reads and changes nothing but the
agent of its name and the objects under the label of the name, and of the two kinds of workload it
applies the one of the mode and deletes the other one (`Carries.issues`). `WholePass.parts` takes
the exchanges of a pass apart, `Row.turn` finds the stage of an exchange, and `Clears.parts` says
what a stage has found before it sends a DELETE.
-/

namespace AgentOperator.Transcript

open Api (ClientError Kind ObjectRef Reply Request RequestFault ResourceType)
open Kubernetes

variable {α : Type} {unsent : RequestFault → Prop} {inNamespace name : String}

/-- A workload is applied for an agent of its own mode only. -/
theorem IsApplied.mode_eq {mode other : AgentMode} (h : IsApplied mode (workloadOf other)) :
    mode = other := by
  cases mode <;> cases other <;> rcases h with h | h | h | h <;> first | rfl | cases h

/-- The requests of a pass over the agent of a name that has a mode: to read the agent or one of its
objects, to apply an object of the mode, to delete the workload that another mode left behind, to
report on the agent, and to record an event. -/
inductive Issues (inNamespace name : String) (mode : AgentMode) : Request → Prop where
  | agent : Issues inNamespace name mode (.fetch ⟨.agent, inNamespace, name⟩)
  | look (kind : Kind) :
      Issues inNamespace name mode (.fetch ⟨kind, inNamespace, Naming.labelOf name⟩)
  | apply {kind : Kind} (hkind : IsApplied mode kind) (desired : Json) :
      Issues inNamespace name mode (.apply ⟨kind, inNamespace, Naming.labelOf name⟩ desired)
  | delete : Issues inNamespace name mode
      (.delete ⟨staleOf mode, inNamespace, Naming.labelOf name⟩)
  | report (change : Json) :
      Issues inNamespace name mode (.patchStatus ⟨.agent, inNamespace, name⟩ change)
  | event (event : Json) : Issues inNamespace name mode (.createEvent inNamespace event)

/-- The object that a pass may change is the agent, by its status, or one in its namespace that goes
by the label of its name. -/
theorem Issues.changed {mode : AgentMode} {request : Request} {ref : ObjectRef}
    (h : Issues inNamespace name mode request) (hchanged : request.changed? = some ref)
    (hkind : ref.kind ≠ .agent) : ref = ⟨ref.kind, inNamespace, Naming.labelOf name⟩ := by
  cases h with
  | apply | delete =>
      obtain rfl := Option.some.inj hchanged
      rfl
  | report =>
      obtain rfl := Option.some.inj hchanged
      exact absurd rfl hkind
  | agent | look | event => cases hchanged

/-- The object of a DELETE is the workload of another mode. -/
theorem Issues.deleted {mode : AgentMode} {ref : ObjectRef}
    (h : Issues inNamespace name mode (.delete ref)) :
    ref = ⟨staleOf mode, inNamespace, Naming.labelOf name⟩ := by
  cases h with
  | delete => rfl

/-- The object of a status PATCH is the agent. -/
theorem Issues.reported {mode : AgentMode} {ref : ObjectRef} {change : Json}
    (h : Issues inNamespace name mode (.patchStatus ref change)) : ref.kind = .agent := by
  cases h with
  | report => rfl

/-- The object of a PATCH is of a kind that is applied in the mode of the agent. -/
theorem Issues.applied {mode : AgentMode} {ref : ObjectRef} {desired : Json}
    (h : Issues inNamespace name mode (.apply ref desired)) : IsApplied mode ref.kind := by
  cases h with
  | apply hkind => exact hkind

/-- A pass applies no agent. -/
theorem Issues.kind_ne {mode : AgentMode} {ref : ObjectRef} {desired : Json}
    (h : Issues inNamespace name mode (.apply ref desired)) : ref.kind ≠ .agent :=
  h.applied.ne_agent

/-- A request is sent at most once. -/
theorem Asks.exchanges_eq {request : Request} {read : Api.Body → Except TextFault α}
    {exchanges : List Exchange} {result : Except ClientError α}
    (h : Asks unsent request read exchanges result) :
    exchanges = [] ∨ ∃ reply, exchanges = [(request, reply)] := by
  cases h with
  | unsent => exact .inl rfl
  | failed | unreadable | answered => exact .inr ⟨_, rfl⟩

/-- The exchanges of one request are about it. -/
theorem Asks.request_eq {request : Request} {read : Api.Body → Except TextFault α}
    {exchanges : List Exchange} {result : Except ClientError α}
    (h : Asks unsent request read exchanges result) {exchange : Exchange}
    (hmem : exchange ∈ exchanges) : exchange.1 = request := by
  rcases h.exchanges_eq with rfl | ⟨reply, rfl⟩
  · cases hmem
  · rw [List.mem_singleton.1 hmem]

/-- The exchanges that look for an object are GETs of it. -/
theorem Looks.request_eq {type : ResourceType α} {ref : ObjectRef} {exchanges : List Exchange}
    {result : Except ClientError (Option α)} (h : Looks unsent type ref exchanges result)
    {exchange : Exchange} (hmem : exchange ∈ exchanges) : exchange.1 = .fetch ref := by
  cases h with
  | found hasks => exact hasks.request_eq hmem
  | absent hasks => exact hasks.request_eq hmem
  | failed hasks => exact hasks.request_eq hmem

/-- The exchanges that apply an object are PATCHes of it. -/
theorem Applies.request_eq {type : ResourceType α} {ref : ObjectRef} {desired : Option α}
    {exchanges : List Exchange} {result : Except TaskError Unit}
    (h : Applies unsent type ref desired exchanges result) {exchange : Exchange}
    (hmem : exchange ∈ exchanges) : ∃ document, exchange.1 = .apply ref document := by
  cases h with
  | applied _ hasks => exact ⟨_, hasks.request_eq hmem⟩
  | failed _ hasks => exact ⟨_, hasks.request_eq hmem⟩

/-- An object that is found is the reply to a GET of it. -/
theorem Looks.of_some {type : ResourceType α} {ref : ObjectRef} {exchanges : List Exchange}
    {object : α} (h : Looks unsent type ref exchanges (.ok (some object))) :
    ∃ looked, exchanges = [(.fetch ref, looked)] ∧ Yields (·.decode type.codec) looked object := by
  cases h with
  | found hasks => exact hasks.of_ok

/-- The result of the GET of an object before it is deleted: the object, which the agent of the
unique id controls. -/
structure FoundOwn (type : ResourceType α) (uid : Option String) (looked : Reply) (object : α) :
    Prop where
  yields : Yields (·.decode type.codec) looked object
  controls : Controls uid (type.metadata object)

/-- The exchanges that clear an object are a GET of it, and a DELETE if the GET finds that the agent
controls it. -/
theorem Clears.parts {type : ResourceType α} {ref : ObjectRef} {uid : Option String}
    {exchanges : List Exchange} {result : Except TaskError Unit}
    (h : Clears unsent type ref uid exchanges result) :
    (∀ exchange ∈ exchanges, exchange.1 = .fetch ref) ∨
      ∃ looked object reply, exchanges = [(.fetch ref, looked), (.delete ref, reply)] ∧
        FoundOwn type uid looked object := by
  have hpair {looks deletes : List Exchange} {object : α} {result : Except ClientError Unit}
      (hlooks : Looks unsent type ref looks (.ok (some object)))
      (hcontrols : Controls uid (type.metadata object))
      (hdelete : Asks unsent (.delete ref) (Api.Client.checkDeleted type) deletes result) :
      (∀ exchange ∈ looks ++ deletes, exchange.1 = .fetch ref) ∨
        ∃ looked object reply, looks ++ deletes = [(.fetch ref, looked), (.delete ref, reply)] ∧
          FoundOwn type uid looked object := by
    obtain ⟨looked, rfl, hyields⟩ := hlooks.of_some
    rcases hdelete.exchanges_eq with rfl | ⟨reply, rfl⟩
    · exact .inl fun exchange hmem => by rw [List.mem_singleton.1 hmem]
    · exact .inr ⟨looked, object, reply, rfl, hyields, hcontrols⟩
  cases h with
  | unread hlooks => exact .inl fun exchange => hlooks.request_eq
  | absent hlooks => exact .inl fun exchange => hlooks.request_eq
  | foreign hlooks => exact .inl fun exchange => hlooks.request_eq
  | removed hlooks hcontrols hdelete => exact hpair hlooks hcontrols hdelete
  | gone hlooks hcontrols hdelete => exact hpair hlooks hcontrols hdelete
  | stuck hlooks hcontrols hdelete => exact hpair hlooks hcontrols hdelete

/-- The GET of the workload is a request of a pass. -/
theorem Observes.issues {agent : Agent} {exchanges : List Exchange}
    {result : Except ClientError (Option Readiness)}
    (h : Observes unsent agent inNamespace name exchanges result) {exchange : Exchange}
    (hmem : exchange ∈ exchanges) : ∃ kind, exchange.1 =
      .fetch ⟨kind, inNamespace, Naming.labelOf name⟩ := by
  cases h with
  | deployment _ hlooks => exact ⟨_, hlooks.request_eq hmem⟩
  | daemonSet _ hlooks => exact ⟨_, hlooks.request_eq hmem⟩

/-- The exchanges of the report are the GET of the workload, and perhaps the PATCH of the status. -/
theorem Reports.request_eq {shown : Instant → Prop} {settings : Settings} {agent : Agent}
    {exchanges : List Exchange} {result : Except TaskError Unit}
    (h : Reports unsent shown settings agent inNamespace name exchanges result)
    {exchange : Exchange} (hmem : exchange ∈ exchanges) :
    (∃ kind, exchange.1 = .fetch ⟨kind, inNamespace, Naming.labelOf name⟩) ∨
      ∃ change, exchange.1 = .patchStatus ⟨.agent, inNamespace, name⟩ change := by
  cases h with
  | unread hlooks => exact .inl (hlooks.issues hmem)
  | unchanged hlooks => exact .inl (hlooks.issues hmem)
  | written hlooks _ _ hpatch =>
      exact (List.mem_append.1 hmem).imp hlooks.issues fun hmem => ⟨_, hpatch.request_eq hmem⟩
  | unwritten hlooks _ _ hpatch =>
      exact (List.mem_append.1 hmem).imp hlooks.issues fun hmem => ⟨_, hpatch.request_eq hmem⟩

/-- The requests of a stage are among those of a pass, whatever it ends in. -/
def Stage.Issues (inNamespace name : String) (mode : AgentMode) (stage : Stage) : Prop :=
  ∀ {exchanges result}, stage exchanges result → ∀ exchange ∈ exchanges,
    Transcript.Issues inNamespace name mode exchange.1

/-- The stage that applies an object of the agent sends requests of a pass. -/
theorem applies_issues {type : ResourceType α} {mode : AgentMode} {kind : Kind}
    (hkind : IsApplied mode kind) (desired : Option α) :
    Stage.Issues inNamespace name mode
      (Applies unsent type ⟨kind, inNamespace, Naming.labelOf name⟩ desired) := by
  intro exchanges result h exchange hmem
  obtain ⟨document, heq⟩ := h.request_eq hmem
  rw [heq]
  exact .apply hkind document

/-- The stage that clears the workload of another mode sends requests of a pass. -/
theorem clears_issues {type : ResourceType α} (mode : AgentMode) (uid : Option String) :
    Stage.Issues inNamespace name mode
      (Clears unsent type ⟨staleOf mode, inNamespace, Naming.labelOf name⟩ uid) := by
  intro exchanges result h exchange hmem
  rcases h.parts with hlooks | ⟨looked, object, reply, rfl, -⟩
  · rw [hlooks exchange hmem]
    exact .look _
  · simp only [List.mem_cons, List.not_mem_nil, or_false] at hmem
    rcases hmem with rfl | rfl
    · exact .look _
    · exact .delete

/-- The stage of the report sends requests of a pass. -/
theorem reports_issue (shown : Instant → Prop) (settings : Settings) (agent : Agent)
    (mode : AgentMode) :
    Stage.Issues inNamespace name mode
      (Reports unsent shown settings agent inNamespace name) := by
  intro exchanges result h exchange hmem
  rcases h.request_eq hmem with ⟨kind, heq⟩ | ⟨change, heq⟩
  · rw [heq]
    exact .look kind
  · rw [heq]
    exact .report change

/-- All stages send requests of a pass. -/
theorem stages_issue (shown : Instant → Prop) (settings : Settings) (agent : Agent) :
    ∀ entry ∈ stages unsent shown settings agent inNamespace name,
      Stage.Issues inNamespace name agent.spec.mode entry.2 := by
  refine stages_forall (fun _ hkind => applies_issues hkind) ?_ ?_ (reports_issue _ _ _ _)
  · rintro kind rfl
    exact clears_issues _ _
  · intro exchanges result hrests exchange hmem
    cases hrests
    cases hmem

/-- An entry of a concatenation lies in the first or in the second list. -/
theorem split_append {β : Type} {first second before after : List β} {entry : β}
    (h : first ++ second = before ++ entry :: after) :
    (∃ rest, first = before ++ entry :: rest) ∨
      ∃ front, before = first ++ front ∧ second = front ++ entry :: after := by
  rcases List.append_eq_append_iff.1 h with ⟨front, hbefore, hsecond⟩ | ⟨own, hfirst, hown⟩
  · exact .inr ⟨front, hbefore, hsecond⟩
  · cases own with
    | nil => exact .inr ⟨[], by rw [hfirst, List.append_nil, List.append_nil], hown.symm⟩
    | cons other own =>
        obtain ⟨rfl, -⟩ := List.cons.inj hown
        exact .inl ⟨own, hfirst⟩

/-- The stage of a row that an exchange belongs to. -/
theorem Row.turn {row : List (String × Stage)} {exchanges before after : List Exchange}
    {exchange : Exchange} {result : Except PipelineError Unit} (h : Row row exchanges result)
    (hsplit : exchanges = before ++ exchange :: after) :
    ∃ entry ∈ row, ∃ first sent rest ending, before = first ++ sent ∧
      entry.2 (sent ++ exchange :: rest) ending := by
  induction h generalizing before with
  | done => simp at hsplit
  | @failed title stage stages exchanges cause hstage =>
      refine ⟨(title, stage), List.mem_cons_self, [], before, after, .error cause, rfl, ?_⟩
      rw [← hsplit]
      exact hstage
  | @next title stage stages first rest result hstage hrest ih =>
      rcases split_append hsplit with ⟨own, hfirst⟩ | ⟨front, hbefore, hfront⟩
      · refine ⟨(title, stage), List.mem_cons_self, [], before, own, .ok (), rfl, ?_⟩
        rw [← hfirst]
        exact hstage
      · obtain ⟨entry, hentry, first', sent, rest', ending, rfl, hsent⟩ := ih hfront
        refine ⟨entry, List.mem_cons_of_mem _ hentry, first ++ first', sent, rest', ending, ?_,
          hsent⟩
        rw [hbefore, List.append_assoc]

/-- A property of the exchanges of all stages holds of those of a row of them. -/
theorem Row.forall_exchanges {row : List (String × Stage)} {exchanges : List Exchange}
    {result : Except PipelineError Unit} {property : Exchange → Prop}
    (h : Row row exchanges result)
    (hrow : ∀ entry ∈ row, ∀ sent ending, entry.2 sent ending → ∀ exchange ∈ sent,
      property exchange) : ∀ exchange ∈ exchanges, property exchange := by
  intro exchange hmem
  obtain ⟨before, after, hsplit⟩ := List.append_of_mem hmem
  obtain ⟨entry, hentry, _, sent, rest, ending, -, hstage⟩ := h.turn hsplit
  exact hrow entry hentry _ ending hstage exchange (List.mem_append_right _ List.mem_cons_self)

/-- Every stage of a row in which none fails is done in its turn. -/
theorem Row.stage_done {row : List (String × Stage)} {exchanges : List Exchange}
    (h : Row row exchanges (.ok ())) {entry : String × Stage} (hentry : entry ∈ row) :
    ∃ sent, entry.2 sent (.ok ()) ∧ sent <:+: exchanges := by
  generalize hresult : (Except.ok () : Except PipelineError Unit) = result at h
  induction h with
  | done => cases hentry
  | failed hstage => cases hresult
  | @next title stage stages first rest result hstage hrest ih =>
      rcases List.mem_cons.1 hentry with rfl | hentry
      · exact ⟨first, hstage, (List.prefix_append first rest).isInfix⟩
      · obtain ⟨sent, hsent, hinfix⟩ := ih hentry hresult
        exact ⟨sent, hsent, hinfix.trans (List.suffix_append first rest).isInfix⟩

/-- The requests of a row are those of its stages. -/
theorem Row.issues {row : List (String × Stage)} {mode : AgentMode} {exchanges : List Exchange}
    {result : Except PipelineError Unit} (h : Row row exchanges result)
    (hrow : ∀ entry ∈ row, Stage.Issues inNamespace name mode entry.2) {exchange : Exchange}
    (hmem : exchange ∈ exchanges) : Issues inNamespace name mode exchange.1 :=
  h.forall_exchanges (fun entry hentry _ _ hstage => hrow entry hentry hstage) exchange hmem

/-- The parts of a pass that reads its agent: the GET of the agent, the stages up to the first one
that fails, and perhaps the POST of an event. -/
structure Carries (unsent : RequestFault → Prop) (shown : Instant → Prop) (settings : Settings)
    (inNamespace name : String) (agent : Agent) (looked : Reply) (sent events : List Exchange) :
    Prop where
  yields : Yields (·.decode Agent.codec) looked agent
  row : ∃ ending, Row (stages unsent shown settings agent inNamespace name) sent ending
  event : ∀ exchange ∈ events, ∃ event, exchange.1 = .createEvent inNamespace event

/-- A pass sends nothing but the GET of the agent unless that succeeds. -/
theorem WholePass.parts {shown : Instant → Prop} {settings : Settings}
    {exchanges : List Exchange} {result : Except ReconcileError NextAction}
    (h : WholePass unsent shown settings inNamespace name exchanges result) :
    (∀ exchange ∈ exchanges, exchange.1 = .fetch ⟨.agent, inNamespace, name⟩) ∨
      ∃ agent looked sent events,
        exchanges = (.fetch ⟨.agent, inNamespace, name⟩, looked) :: sent ++ events ∧
        Carries unsent shown settings inNamespace name agent looked sent events := by
  cases h with
  | absent hfetch => exact .inl fun exchange => hfetch.request_eq
  | unfetched hfetch => exact .inl fun exchange => hfetch.request_eq
  | settled hfetch hrow =>
      obtain ⟨looked, rfl, hyields⟩ := hfetch.of_ok
      exact .inr ⟨_, looked, _, [], (List.append_nil _).symm, hyields, ⟨_, hrow⟩, nofun⟩
  | halted hfetch hrow =>
      obtain ⟨looked, rfl, hyields⟩ := hfetch.of_ok
      exact .inr ⟨_, looked, _, [], (List.append_nil _).symm, hyields, ⟨_, hrow⟩, nofun⟩
  | stopped hfetch hrow _ _ hevent =>
      obtain ⟨looked, rfl, hyields⟩ := hfetch.of_ok
      exact .inr ⟨_, looked, _, _, rfl, hyields, ⟨_, hrow⟩,
        fun exchange hmem => ⟨_, hevent.request_eq hmem⟩⟩

/-- Each request of a pass that reads its agent is one that a pass may send. -/
theorem Carries.issues {shown : Instant → Prop} {settings : Settings} {agent : Agent}
    {looked : Reply} {sent events : List Exchange}
    (h : Carries unsent shown settings inNamespace name agent looked sent events)
    {exchange : Exchange}
    (hmem : exchange ∈ (Request.fetch ⟨.agent, inNamespace, name⟩, looked) :: sent ++ events) :
    Issues inNamespace name agent.spec.mode exchange.1 := by
  rcases List.mem_append.1 hmem with hmem | hmem
  · rcases List.mem_cons.1 hmem with rfl | hmem
    · exact .agent
    · obtain ⟨ending, hrow⟩ := h.row
      exact hrow.issues (stages_issue _ _ _) hmem
  · obtain ⟨event, hevent⟩ := h.event exchange hmem
    rw [hevent]
    exact .event event

/-- A pass that reads its agent applies the workload of the mode of the agent only. -/
theorem Carries.mode_eq {shown : Instant → Prop} {settings : Settings} {agent : Agent}
    {looked : Reply} {sent events : List Exchange}
    (h : Carries unsent shown settings inNamespace name agent looked sent events)
    (mode : AgentMode) {exchange : Exchange}
    (hmem : exchange ∈ (Request.fetch ⟨.agent, inNamespace, name⟩, looked) :: sent ++ events)
    {space label : String} {desired : Json}
    (happly : exchange.1 = .apply ⟨workloadOf mode, space, label⟩ desired) :
    agent.spec.mode = mode := by
  have hissues := h.issues hmem
  rw [happly] at hissues
  exact hissues.applied.mode_eq

/-- The requests of a pass are in the footprint for one mode. -/
theorem WholePass.issues {shown : Instant → Prop} {settings : Settings}
    {exchanges : List Exchange} {result : Except ReconcileError NextAction}
    (h : WholePass unsent shown settings inNamespace name exchanges result) :
    ∃ mode, ∀ exchange ∈ exchanges, Issues inNamespace name mode exchange.1 := by
  rcases h.parts with hagent | ⟨agent, looked, sent, events, rfl, hcarries⟩
  · refine ⟨.deployment, fun exchange hmem => ?_⟩
    rw [hagent exchange hmem]
    exact .agent
  · exact ⟨agent.spec.mode, fun exchange hmem => hcarries.issues hmem⟩

end AgentOperator.Transcript
