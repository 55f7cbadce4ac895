import AgentOperator.Proofs.Pass.Identity

/-!
# The removal of the deployment before a daemon set is applied

An agent runs as a deployment or as a daemon set, and when its mode is edited one replaces the
other. The stage of deployments comes before that of daemon sets. So where a daemon set is applied
the deployment of an earlier mode is gone, whichever requests fail and whatever a failed request has
done (`Carries.successive`). `Stage.Leads` is the pre- and postcondition of one stage, `Led`
composes them, and `Row.fine` is their consequence for all moments of a row.
-/

namespace AgentOperator.Transcript

open Api (Kind ObjectRef Reply Request RequestFault ResourceType)
open Cluster (Contained)
open Kubernetes

variable {α σ : Type} {host : Host σ} {objects : σ → ObjectRef → Option Json}
  {state final start : σ} {identity : Identity}

section Requests

variable (hserver : Contained host objects)

include hserver

/-- A request that does not apply an object leaves no object of the agent that was not the agent's
before. -/
theorem owns_before {mode : AgentMode} {request : Request} {kind : Kind} (hkind : kind ≠ .agent)
    (hissues : Issues identity.inNamespace identity.name mode request)
    (happly : ∀ desired, request ≠ .apply (identity.object kind) desired)
    (h : identity.Owns kind (objects (host.serve request state).2)) :
    identity.Owns kind (objects state) := by
  by_cases hchanged : request.changed? = some (identity.object kind)
  · cases request with
    | fetch | createEvent => cases hchanged
    | apply ref desired =>
        obtain rfl := Option.some.inj hchanged
        exact absurd rfl (happly desired)
    | patchStatus ref change =>
        obtain rfl := Option.some.inj hchanged
        exact absurd hissues.reported hkind
    | delete ref =>
        obtain rfl := Option.some.inj hchanged
        rcases hserver.deletion (identity.object kind) state with hgone | ⟨hkept, -⟩
        · exact absurd h (not_controlled_of_none hgone)
        · exact (Identity.owns_congr hkept).1 h
  · exact (Identity.owns_congr (hserver.frame request state _ hkind hchanged)).1 h

/-- If none of some exchanges applies an object, the agent owns it at none of their moments unless
it owned it at first. -/
theorem owns_start {mode : AgentMode} {kind : Kind} (hkind : kind ≠ .agent)
    {exchanges : List Exchange}
    (hissues : ∀ exchange ∈ exchanges,
      Issues identity.inNamespace identity.name mode exchange.1)
    (happly : ∀ exchange ∈ exchanges, ∀ desired,
      exchange.1 ≠ .apply (identity.object kind) desired)
    {moment : Moment σ} (hmem : moment ∈ host.moments start state exchanges)
    (h : identity.Owns kind (objects moment.before)) : identity.Owns kind (objects state) := by
  induction exchanges generalizing state with
  | nil => cases hmem
  | cons exchange rest ih =>
      rw [List.forall_mem_cons] at hissues happly
      rcases List.mem_cons.1 hmem with rfl | hmem
      · exact h
      · exact owns_before hserver hkind hissues.1 happly.1 (ih hissues.2 happly.2 hmem)

/-- An object that was cleared is not controlled by the agent, whatever the server did. -/
theorem Clears.not_controlled {unsent : RequestFault → Prop} {type : ResourceType α}
    {ref : ObjectRef} {uid : Option String} {exchanges : List Exchange}
    (h : Clears unsent type ref uid exchanges (.ok ())) (hkind : ref.kind ≠ .agent)
    (hanswers : host.Answers state exchanges final) :
    ¬ Controlled type ref uid (objects final) := by
  have hdeleted {looks deletes : List Exchange} {reply : Reply}
      (hanswers : host.Answers state (looks ++ deletes) final)
      (hdeletes : deletes = [(.delete ref, reply)])
      (hreply : ∀ cause, Api.Client.accepted reply = .error cause → cause.isGone = true) :
      ¬ Controlled type ref uid (objects final) := by
    subst hdeletes
    obtain ⟨between, -, hanswered⟩ := Host.answers_append_iff.1 hanswers
    obtain ⟨rfl, rfl⟩ := Host.answers_singleton_iff.1 hanswered
    rcases hserver.deletion ref between with hgone | ⟨-, cause, hfailed, hthere⟩
    · exact not_controlled_of_none hgone
    · rw [hreply cause hfailed] at hthere
      cases hthere
  have hframe (before : σ) : objects (host.serve (.fetch ref) before).2 ref = objects before ref :=
    hserver.frame _ before ref hkind nofun
  cases h with
  | absent hlooks =>
      cases hlooks with
      | absent hasks hreason =>
          obtain ⟨reply, rfl, hrefused⟩ := hasks.of_refused
          obtain ⟨rfl, rfl⟩ := Host.answers_singleton_iff.1 hanswers
          refine not_controlled_of_none ?_
          rw [hframe, hserver.absent ref state _ hrefused hreason]
  | foreign hlooks hforeign =>
      obtain ⟨looked, rfl, body, haccepted, hread⟩ := hlooks.of_some
      obtain ⟨rfl, rfl⟩ := Host.answers_singleton_iff.1 hanswers
      obtain ⟨document, hdocument, rfl⟩ := hserver.found ref state body haccepted
      rw [controlled_congr (hframe state), controlled_iff hdocument (decode_document hread)]
      exact hforeign
  | removed hlooks hcontrols hdelete =>
      obtain ⟨reply, hdeletes, body, haccepted, -⟩ := hdelete.of_ok
      refine hdeleted hanswers hdeletes fun cause hfailed => ?_
      cases haccepted.symm.trans hfailed
  | gone hlooks hcontrols hdelete hcode =>
      obtain ⟨reply, hdeletes, hrefused⟩ := hdelete.of_refused
      refine hdeleted hanswers hdeletes fun cause hfailed => ?_
      obtain rfl := Except.error.inj (hrefused.symm.trans hfailed)
      simp [Api.ClientError.isGone, hcode]

end Requests

section Stages

/-- From a state in which `before` holds, all requests of a stage are fine at their moments, and
`after` holds in the final state unless the stage fails. -/
def Stage.Leads (host : Host σ) (fine : Moment σ → Prop) (before after : σ → Prop)
    (stage : Stage) : Prop :=
  ∀ {start state final exchanges result}, stage exchanges result →
    host.Answers state exchanges final → before state →
    (∀ moment ∈ host.moments start state exchanges, fine moment) ∧ (result = .ok () → after final)

/-- From a state in which `before` holds, all requests of a row of stages are fine at their moments,
each stage leading to the precondition of the next one. -/
inductive Led (host : Host σ) (fine : Moment σ → Prop) :
    (σ → Prop) → List (String × Stage) → Prop where
  | nil {before : σ → Prop} : Led host fine before []
  | cons {before between : σ → Prop} {title : String} {stage : Stage}
      {stages : List (String × Stage)} (hstage : stage.Leads host fine before between)
      (hrest : Led host fine between stages) : Led host fine before ((title, stage) :: stages)

/-- All requests of a row of stages that is led are fine. -/
theorem Row.fine {fine : Moment σ → Prop} {before : σ → Prop} {row : List (String × Stage)}
    {exchanges : List Exchange} {result : Except PipelineError Unit}
    (h : Row row exchanges result) (hled : Led host fine before row)
    (hanswers : host.Answers state exchanges final) (hbefore : before state) :
    ∀ moment ∈ host.moments start state exchanges, fine moment := by
  induction hled generalizing state exchanges with
  | nil =>
      cases h
      nofun
  | cons hstage hrest ih =>
      cases h with
      | failed hfailed => exact (hstage hfailed hanswers hbefore).1
      | next hdone hothers =>
          obtain ⟨between, hfirst, hanswers⟩ := Host.answers_append_iff.1 hanswers
          obtain ⟨hfine, hafter⟩ := hstage hdone hfirst hbefore
          rw [Host.moments_append hfirst]
          intro moment hmem
          rcases List.mem_append.1 hmem with hmem | hmem
          · exact hfine moment hmem
          · exact ih hothers hanswers (hafter rfl) moment hmem

end Stages

/-- If a request applies the daemon set of an agent, the agent has no deployment then. -/
def Successive (objects : σ → ObjectRef → Option Json) (identity : Identity)
    (moment : Moment σ) : Prop :=
  ∀ desired, moment.request = .apply (identity.object .daemonSet) desired →
    ¬ identity.Owns .deployment (objects moment.before)

/-- A request that does not apply a daemon set is fine. -/
theorem successive_of_ne {exchanges : List Exchange}
    (h : ∀ exchange ∈ exchanges, ∀ desired,
      exchange.1 ≠ .apply (identity.object .daemonSet) desired) :
    ∀ moment ∈ host.moments start state exchanges, Successive objects identity moment := by
  intro moment hmem desired hrequest
  obtain ⟨-, ⟨exchange, hexchange, heq⟩, -⟩ := Host.of_mem_moments hmem
  exact absurd (heq.symm.trans hrequest) (h exchange hexchange desired)

/-- The stage that applies an object of another kind is fine. -/
theorem applies_leads {unsent : RequestFault → Prop} {type : ResourceType α} {kind : Kind}
    (hkind : kind ≠ .daemonSet) {inNamespace name : String} (desired : Option α) :
    Stage.Leads host (Successive objects identity) (fun _ => True) (fun _ => True)
      (Applies unsent type ⟨kind, inNamespace, name⟩ desired) := by
  intro start state final exchanges result h _ _
  refine ⟨successive_of_ne fun exchange hmem document heq => ?_, fun _ => trivial⟩
  obtain ⟨sent, hsent⟩ := h.request_eq hmem
  rw [hsent] at heq
  exact hkind (congrArg ObjectRef.kind (Request.apply.inj heq).1)

/-- The stage that clears the deployment is fine, and establishes the precondition of applying a
daemon set. -/
theorem clears_leads {unsent : RequestFault → Prop} (hserver : Contained host objects) :
    Stage.Leads host (Successive objects identity) (fun _ => True)
      (fun after => ¬ identity.Owns .deployment (objects after))
      (Clears unsent .deployment (identity.object .deployment) identity.uid) := by
  intro start state final exchanges result h hanswers _
  constructor
  · refine successive_of_ne fun exchange hmem desired heq => ?_
    rcases h.parts with hlooks | ⟨looked, object, reply, rfl, -⟩
    · rw [hlooks exchange hmem] at heq
      cases heq
    · simp only [List.mem_cons, List.not_mem_nil, or_false] at hmem
      rcases hmem with rfl | rfl <;> cases heq
  · intro hok
    subst hok
    exact h.not_controlled hserver (show Kind.deployment ≠ .agent by decide) hanswers

/-- The stage that applies the daemon set is fine if the agent has no deployment. -/
theorem daemon_set_leads {unsent : RequestFault → Prop} {type : ResourceType α} {ref : ObjectRef}
    (desired : Option α) :
    Stage.Leads host (Successive objects identity)
      (fun before => ¬ identity.Owns .deployment (objects before)) (fun _ => True)
      (Applies unsent type ref desired) := by
  intro start state final exchanges result h _ hbefore
  refine ⟨fun moment hmem _ _ => ?_, fun _ => trivial⟩
  -- there is one request, if any, and it is served where the stage starts
  have hsent : exchanges = [] ∨ ∃ exchange, exchanges = [exchange] := by
    cases h with
    | applied _ hasks | failed _ hasks =>
        exact hasks.exchanges_eq.imp_right fun hsent => ⟨_, hsent.choose_spec⟩
  rcases hsent with rfl | ⟨exchange, rfl⟩
  · cases hmem
  · rw [List.mem_singleton.1 hmem]
    exact hbefore

/-- The stage of the report is fine. -/
theorem reports_lead {unsent : RequestFault → Prop} {shown : Instant → Prop} {settings : Settings}
    {agent : Agent} {inNamespace name : String} :
    Stage.Leads host (Successive objects identity) (fun _ => True) (fun _ => True)
      (Reports unsent shown settings agent inNamespace name) := by
  intro start state final exchanges result h _ _
  refine ⟨successive_of_ne fun exchange hmem desired heq => ?_, fun _ => trivial⟩
  rcases h.request_eq hmem with ⟨kind, hsent⟩ | ⟨change, hsent⟩ <;>
    · rw [hsent] at heq
      cases heq

/-- The stages of a pass over an agent in the mode of a daemon set apply this where there is no
deployment. -/
theorem stages_led {unsent : RequestFault → Prop} {shown : Instant → Prop} {settings : Settings}
    {agent : Agent} (hserver : Contained host objects) (huid : agent.metadata.uid = identity.uid)
    (hmode : agent.spec.mode = .daemonSet) :
    Led host (Successive objects identity) (fun _ => True)
      (stages unsent shown settings agent identity.inNamespace identity.name) := by
  simp only [stages, hmode, huid]
  refine .cons (applies_leads (by decide) _) (.cons ?_ (.cons (applies_leads (by decide) _)
    (.cons (clears_leads hserver) (.cons (daemon_set_leads _) (.cons reports_lead .nil)))))
  split
  · exact applies_leads (by decide) _
  · intro start state final exchanges result hrests _ _
    cases hrests
    exact ⟨fun moment hmem => absurd hmem List.not_mem_nil, fun _ => trivial⟩

/-- A pass that reads its agent applies a daemon set where there is no deployment, whichever
requests fail. -/
theorem Carries.successive {unsent : RequestFault → Prop} {shown : Instant → Prop}
    {settings : Settings} {agent : Agent} {looked : Reply} {sent events : List Exchange}
    (h : Carries unsent shown settings identity.inNamespace identity.name agent looked sent events)
    (hserver : Contained host objects) (huid : agent.metadata.uid = identity.uid)
    (hanswers : host.Answers state ((.fetch identity.agent, looked) :: sent ++ events) final) :
    ∀ moment ∈ host.moments start state ((.fetch identity.agent, looked) :: sent ++ events),
      Successive objects identity moment := by
  cases hmode : agent.spec.mode with
  | deployment =>
      -- no daemon set is applied
      refine successive_of_ne fun exchange hmem desired heq => ?_
      cases hmode.symm.trans (h.mode_eq .daemonSet hmem heq)
  | daemonSet =>
      obtain ⟨ending, hrow⟩ := h.row
      obtain ⟨between, hfirst, -⟩ := Host.answers_append_iff.1 hanswers
      rw [Host.moments_append hfirst]
      obtain ⟨rfl, hsent⟩ := Host.answers_cons_iff.1 hfirst
      intro moment hmem
      rcases List.mem_append.1 hmem with hmem | hmem
      · rcases List.mem_cons.1 hmem with rfl | hmem
        · nofun
        · exact hrow.fine (stages_led hserver huid hmode) hsent trivial moment hmem
      · refine successive_of_ne (fun exchange hmem desired heq => ?_) moment hmem
        obtain ⟨event, hevent⟩ := h.event exchange hmem
        rw [hevent] at heq
        cases heq

end AgentOperator.Transcript
