import AgentOperator.Proofs.Pass.Footprint
import AgentOperator.Proofs.Pass.Protocol
import AgentOperator.Proofs.Ports.Service
import Mathlib.Data.Finset.Card

/-!
# The service of an agent

An agent always has a service. A declared port may replace a default one but does not remove its
name, so that the container has ports whatever is declared (`length_resolve_agent_ports`), and the
branch that removes a service without ports is unreachable. Of the requests of a pass, a GET or a
DELETE is about a workload or the agent (`SparesServices`); this is shown stage by stage and holds
of every pass in every world, also of one that reads another agent than the one of its name. A run
of the tasks that neither fails nor is halted sends the PATCH of the service
(`run_applies_service`).
-/

namespace AgentOperator

open Kubernetes

/-- There are as many ports as names of default and declared ports. -/
theorem length_resolve_agent_ports (declared : List ServicePort) :
    (Ports.resolve Ports.agentPorts declared).length =
      ((Ports.agentPorts.map Ports.DefaultPort.name).toFinset ∪
        (declared.map Ports.declaredName).toFinset).card := by
  obtain ⟨names, hnodup, hmem, hports⟩ := map_name_service_port declared
  have hlength : (Ports.resolve Ports.agentPorts declared).length = names.length := by
    simpa only [List.length_map] using congrArg List.length hports
  have hnames : names.toFinset = (portNames declared).toFinset := by
    ext name
    rw [List.mem_toFinset, List.mem_toFinset, hmem]
  rw [hlength, ← List.toFinset_card_of_nodup hnodup, hnames, portNames, List.toFinset_append]

/-- There is a port of every default name, whatever is declared. -/
theorem exists_mem_resolve_agent_ports (declared : List ServicePort) {port : Ports.DefaultPort}
    (hport : port ∈ Ports.agentPorts) :
    ∃ found ∈ Ports.resolve Ports.agentPorts declared, found.name = some port.name :=
  exists_mem_resolve_iff_port_names.2 (List.mem_append_left _ (List.mem_map_of_mem hport))

namespace Transcript

open Api (ClientError ObjectRef Request RequestFault ResourceType)
open Attempt

variable {α σ : Type} {host : Host σ} {state : σ} {unsent : RequestFault → Prop}
  {inNamespace name : String}

/-- A request is neither the GET nor the DELETE of a service. -/
def SparesServices (request : Request) : Prop :=
  ∀ ref, request.ref? = some ref → ref.kind = .service →
    request.method ≠ "GET" ∧ request.method ≠ "DELETE"

/-- A request about another object than a service spares services. -/
theorem spares_services_of_kind_ne {request : Request} {ref : ObjectRef}
    (href : request.ref? = some ref) (hkind : ref.kind ≠ .service) : SparesServices request := by
  intro other hother hservice
  obtain rfl := Option.some.inj (href.symm.trans hother)
  exact absurd hservice hkind

/-- An application spares services. -/
theorem spares_services_apply (ref : ObjectRef) (desired : Json) :
    SparesServices (.apply ref desired) := by
  intro _ _ _
  simp [Request.method]

/-- None of some exchanges reads or deletes a service. -/
def SpareServices (exchanges : List Exchange) : Prop :=
  ∀ exchange ∈ exchanges, SparesServices exchange.1

/-- A concatenation spares services if both parts do. -/
theorem SpareServices.append {first second : List Exchange} (hfirst : SpareServices first)
    (hsecond : SpareServices second) : SpareServices (first ++ second) :=
  List.forall_mem_append.2 ⟨hfirst, hsecond⟩

/-- One request spares services if it is no GET or DELETE of one. -/
theorem Asks.spares {request : Request} {read : Api.Body → Except TextFault α}
    {exchanges : List Exchange} {result : Except ClientError α}
    (h : Asks unsent request read exchanges result) (hrequest : SparesServices request) :
    SpareServices exchanges := by
  intro exchange hmem
  rw [h.request_eq hmem]
  exact hrequest

/-- The GET of an object of another kind spares services. -/
theorem Looks.spares {type : ResourceType α} {ref : ObjectRef} {exchanges : List Exchange}
    {result : Except ClientError (Option α)} (h : Looks unsent type ref exchanges result)
    (hkind : ref.kind ≠ .service) : SpareServices exchanges := by
  intro exchange hmem
  rw [h.request_eq hmem]
  exact spares_services_of_kind_ne rfl hkind

/-- The GET of the workload spares services. -/
theorem Observes.spares {agent : Agent} {exchanges : List Exchange}
    {result : Except ClientError (Option Readiness)}
    (h : Observes unsent agent inNamespace name exchanges result) : SpareServices exchanges := by
  cases h with
  | deployment _ hlooks => exact hlooks.spares nofun
  | daemonSet _ hlooks => exact hlooks.spares nofun

/-- A stage spares services, whatever it ends in. -/
def Stage.Spares (stage : Stage) : Prop :=
  ∀ {exchanges result}, stage exchanges result → SpareServices exchanges

/-- The stage that applies an object spares services, for every kind. -/
theorem applies_spares {type : ResourceType α} {ref : ObjectRef} (desired : Option α) :
    Stage.Spares (Applies unsent type ref desired) := by
  intro exchanges result h exchange hmem
  obtain ⟨document, heq⟩ := h.request_eq hmem
  rw [heq]
  exact spares_services_apply ref document

/-- The stage that clears an object of another kind spares services. -/
theorem clears_spares {type : ResourceType α} {ref : ObjectRef} (uid : Option String)
    (hkind : ref.kind ≠ .service) : Stage.Spares (Clears unsent type ref uid) := by
  intro exchanges result h
  rcases h.parts with hlooks | ⟨looked, object, reply, rfl, -⟩
  · intro exchange hmem
    rw [hlooks exchange hmem]
    exact spares_services_of_kind_ne rfl hkind
  · simp only [SpareServices, List.forall_mem_cons]
    exact ⟨spares_services_of_kind_ne rfl hkind, spares_services_of_kind_ne rfl hkind,
      List.forall_mem_nil _⟩

/-- The stage of the report spares services. -/
theorem reports_spares (shown : Instant → Prop) (settings : Settings) (agent : Agent) :
    Stage.Spares (Reports unsent shown settings agent inNamespace name) := by
  have hstatus (change : Json) :
      SparesServices (.patchStatus ⟨.agent, inNamespace, name⟩ change) :=
    spares_services_of_kind_ne rfl nofun
  intro exchanges result h
  cases h with
  | unread hlooks => exact hlooks.spares
  | unchanged hlooks => exact hlooks.spares
  | written hlooks _ _ hpatch => exact hlooks.spares.append (hpatch.spares (hstatus _))
  | unwritten hlooks _ _ hpatch => exact hlooks.spares.append (hpatch.spares (hstatus _))

/-- A service is none of the workloads that are left behind. -/
theorem stale_of_ne_service (mode : AgentMode) : staleOf mode ≠ .service := by
  cases mode <;> nofun

/-- All stages of a pass spare services: the only one that is about a service applies it. -/
theorem stages_spare (shown : Instant → Prop) (settings : Settings) (agent : Agent) :
    ∀ entry ∈ stages unsent shown settings agent inNamespace name, Stage.Spares entry.2 := by
  refine stages_forall (fun _ _ => applies_spares) ?_ ?_ (reports_spares _ _ _)
  · rintro kind rfl
    exact clears_spares _ (stale_of_ne_service _)
  · intro exchanges result hrests
    cases hrests
    exact List.forall_mem_nil _

/-- A row of stages that spare services does. -/
theorem Row.spares {row : List (String × Stage)} {exchanges : List Exchange}
    {result : Except PipelineError Unit} (h : Row row exchanges result)
    (hrow : ∀ entry ∈ row, Stage.Spares entry.2) : SpareServices exchanges :=
  h.forall_exchanges fun entry hentry _ _ hstage => hrow entry hentry hstage

/-- A run of tasks that fit stages that spare services does. -/
theorem Ends.spares {row : List (String × Stage)} {exchanges : List Exchange}
    {result : Except PipelineError PipelineReport} (h : Ends row exchanges result)
    (hrow : ∀ entry ∈ row, Stage.Spares entry.2) : SpareServices exchanges := by
  cases h with
  | settled hdone | halted hdone => exact hdone.spares hrow
  | stopped hdone => exact hdone.spares hrow

section Passes

variable (settings : Settings)

/-- A run of the tasks of a pass that neither fails nor is halted applies the service of the agent:
the PATCH with it is among the exchanges, and its reply yields an object. -/
theorem run_applies_service (agent : Agent) {report : PipelineReport}
    (hreport : (outcome host (Pipeline.run Pass.defaultTasks ⟨settings, agent⟩) state).value =
      .ok report) (hhalted : report.halted = false) :
    ∃ service reply stored, agentService? settings agent = some service ∧
      (Request.apply ⟨.service, agent.namespaceName, Naming.labelOf agent.name⟩
        (Service.codec.encode service), reply) ∈ Effect.exchanges
          (outcome host (Pipeline.run Pass.defaultTasks ⟨settings, agent⟩) state).effects ∧
      Yields (·.decode Service.codec) reply stored := by
  have htasks : List.Forall₂ (FitsStage host ⟨settings, agent⟩) Pass.defaultTasks
      (stages (fun _ => True) host.Shows settings agent agent.namespaceName agent.name) :=
    fits_default_tasks settings rfl rfl (fun _ _ _ _ => trivial) fun moment => ⟨moment, rfl⟩
  have hends : Ends _ _ _ := fits_run_from htasks {} rfl state
  change (outcome host (Pipeline.runFrom _ {} Pass.defaultTasks) state).value = _ at hreport
  rw [hreport] at hends
  cases hends with
  | halted _ _ htrue =>
      rw [hhalted] at htrue
      cases htrue
  | settled hrow _ =>
      have hentry : ("services", Applies (fun _ => True) .service
          ⟨.service, agent.namespaceName, Naming.labelOf agent.name⟩
          (agentService? settings agent)) ∈
          stages (fun _ => True) host.Shows settings agent agent.namespaceName agent.name := by
        simp [stages]
      obtain ⟨sent, happlies, hinfix⟩ := hrow.stage_done hentry
      cases happlies with
      | applied hservice hasks =>
          obtain ⟨reply, rfl, hyields⟩ := hasks.of_ok
          exact ⟨_, reply, _, hservice, hinfix.subset (List.mem_singleton_self _), hyields⟩

/-- The tasks of a pass over an agent, and the publication of their failure, spare services. -/
theorem fits_converge_spares (agent : Agent) :
    Fits host ((Reconciler.new settings).converge agent) state fun exchanges _ =>
      SpareServices exchanges := by
  have hshown (moment : σ) : host.Shows (host.now moment) := ⟨moment, rfl⟩
  -- a request may stay unsent for any fault, since the agent may be of any name and namespace
  have htasks : List.Forall₂ (FitsStage host ⟨settings, agent⟩) Pass.defaultTasks
      (stages (fun _ => True) host.Shows settings agent agent.namespaceName agent.name) :=
    fits_default_tasks settings rfl rfl (fun _ _ _ _ => trivial) hshown
  refine fits_of_result (fits_run_from htasks {} rfl state) ?_
  intro exchanges result after hends
  have hspares : SpareServices exchanges := hends.spares (stages_spare _ _ _)
  cases result with
  | ok report => exact hspares.append (List.forall_mem_nil _)
  | error failure =>
      refine Fits.mono (fits_publish_failure hshown failure rfl
        fun request (_ : request.Mentions (eventNamespace agent) agent.name) _ _ => trivial) ?_
      rintro events _ ⟨-, _, _, -, hevent⟩
      exact hspares.append (hevent.spares fun _ => nofun)

/-- A pass over the agent of a name spares services. -/
theorem fits_reconcile_by_name_spares :
    Fits host ((Reconciler.new settings).reconcileByName inNamespace name) state
      fun exchanges _ => SpareServices exchanges := by
  refine fits_of_result fits_fetch_agent ?_
  intro fetches result after hfetch
  have hspares : SpareServices fetches := hfetch.spares (spares_services_of_kind_ne rfl nofun)
  cases result with
  | ok agent =>
      exact (fits_converge_spares settings agent).mono fun _ _ hrest => hspares.append hrest
  | error cause =>
      -- no request follows a failed one, whether the agent exists or not
      cases hgone : cause.isGone with
      | true =>
          simp only [hgone]
          exact hspares.append (List.forall_mem_nil _)
      | false =>
          simp only [hgone]
          exact hspares.append (List.forall_mem_nil _)

/-- A pass over an agent from an event of the watch spares services. -/
theorem fits_reconcile_spares (agent : Agent) :
    Fits host ((Reconciler.new settings).reconcile agent) state fun exchanges _ =>
      SpareServices exchanges := by
  unfold Reconciler.reconcile
  cases agent.metadata.inNamespace with
  | none => exact fits_throw (List.forall_mem_nil _)
  | some inNamespace =>
      refine fits_clock (fits_tally ?_)
      refine fits_of_result (fits_reconcile_by_name_spares settings) ?_
      intro exchanges result after hspares
      exact hspares.append (List.forall_mem_nil _)

end Passes

/-- The service of an agent always stands. Whatever ports are declared, the container has a port
under every default name, and as many ports as there are names of default or declared ports, where a
missing name counts as the empty one. So there is a service for every agent, and no pass sends a GET
or a DELETE of one, for all replies: neither a pass over the agent of a name, nor a pass over an
agent from an event of the watch. -/
theorem service_always_stands (settings : Settings) (agent : Agent) :
    (∀ addConfig, ∃ ports, (agentContainer settings agent.spec addConfig).ports = some ports ∧
      (∀ port ∈ Ports.agentPorts, ∃ found ∈ ports, found.name = some port.name) ∧
      ports.length = ((Ports.agentPorts.map Ports.DefaultPort.name).toFinset ∪
        (agent.spec.ports.map Ports.declaredName).toFinset).card) ∧
    agentService? settings agent ≠ none ∧
    ∀ {σ : Type} (host : Host σ) (state : σ),
      (∀ inNamespace name, ∀ request ∈ Effect.requests (outcome host
          ((Reconciler.new settings).reconcileByName inNamespace name) state).effects,
        SparesServices request) ∧
      ∀ request ∈ Effect.requests
          (outcome host ((Reconciler.new settings).reconcile agent) state).effects,
        SparesServices request := by
  refine ⟨fun addConfig => ⟨_, agent_container_ports settings agent addConfig, ?_, ?_⟩, ?_, ?_⟩
  · exact fun port => exists_mem_resolve_agent_ports agent.spec.ports
  · exact length_resolve_agent_ports agent.spec.ports
  · obtain ⟨service, hservice, -⟩ := agent_service?_eq_some settings agent
    rw [hservice]
    nofun
  · intro σ host state
    constructor
    · intro inNamespace name
      rw [Effect.requests_eq, List.forall_mem_map]
      exact fits_reconcile_by_name_spares settings
    · rw [Effect.requests_eq, List.forall_mem_map]
      exact fits_reconcile_spares settings agent

end Transcript

end AgentOperator
