import AgentOperator.Proofs.Agent.Report
import AgentOperator.Proofs.Cluster.Serves
import AgentOperator.Proofs.Pass.Transcript

/-!
# Effects of the stages on a store

The effect of each stage of a transcript on the objects of a server that keeps a store of them, in a
faultless pass: the object that it changes, that it leaves all others unchanged, and the requests
that it sends. The stages of `AgentOperator.Proofs.Pass.Transcript` determine all of this, and
`stages_forall` does the case analysis over them. A row of stages is `Done` if each is done from the
state that the one before it leaves.
-/

namespace AgentOperator.Transcript

open Api (Body ClientError ObjectRef Reply Request RequestFault ResourceType)
open Api.Client (accepted)
open Cluster (DeniesExistence Serves)
open Kubernetes

variable {α σ : Type} {host : Host σ} {objects : σ → ObjectRef → Option Json}
  {state final : σ} {unsent : RequestFault → Prop}

/-- The type of the objects of a kind. -/
def typeOf : Api.Kind → (β : Type) × ResourceType β
  | .configMap => ⟨ConfigMap, .configMap⟩
  | .serviceAccount => ⟨ServiceAccount, .serviceAccount⟩
  | .service => ⟨Service, .service⟩
  | .deployment => ⟨Deployment, .deployment⟩
  | .daemonSet => ⟨DaemonSet, .daemonSet⟩
  | .agent => ⟨Agent, .agent⟩

/-- The kind of workload that an agent of a mode runs as. -/
def workloadOf : AgentMode → Api.Kind
  | .deployment => .deployment
  | .daemonSet => .daemonSet

/-- The kind of workload that an agent of a mode may have left behind. -/
def staleOf : AgentMode → Api.Kind
  | .deployment => .daemonSet
  | .daemonSet => .deployment

/-- The kinds of objects that are applied for an agent of a mode. -/
def IsApplied (mode : AgentMode) (kind : Api.Kind) : Prop :=
  kind = .configMap ∨ kind = .serviceAccount ∨ kind = .service ∨ kind = workloadOf mode

/-- A pass applies no agent. -/
theorem IsApplied.ne_agent {mode : AgentMode} {kind : Api.Kind} (h : IsApplied mode kind) :
    kind ≠ .agent := by
  rintro rfl
  rcases h with h | h | h | h
  · cases h
  · cases h
  · cases h
  · cases mode <;> cases h

/-- An agent is none of the workloads that are left behind. -/
theorem stale_of_ne_agent (mode : AgentMode) : staleOf mode ≠ .agent := by
  cases mode <;> nofun

/-- A property holds of all stages of a pass if it holds of those that apply an object, of the one
that clears the workload of another mode, of one without exchanges and of the one that reports the
status. -/
theorem stages_forall {shown : Instant → Prop} {settings : Settings} {agent : Agent}
    {inNamespace name : String} {property : Stage → Prop}
    (happly : ∀ kind, IsApplied agent.spec.mode kind → ∀ desired, property
      (Applies unsent (typeOf kind).2 ⟨kind, inNamespace, Naming.labelOf name⟩ desired))
    (hclear : ∀ kind, kind = staleOf agent.spec.mode → property
      (Clears unsent (typeOf kind).2 ⟨kind, inNamespace, Naming.labelOf name⟩ agent.metadata.uid))
    (hrest : property Rests)
    (hreport : property (Reports unsent shown settings agent inNamespace name)) :
    ∀ entry ∈ stages unsent shown settings agent inNamespace name, property entry.2 := by
  simp only [stages, List.forall_mem_cons]
  refine ⟨happly .configMap (.inl rfl) _, ?_, happly .service (.inr (.inr (.inl rfl))) _, ?_, ?_,
    hreport, List.forall_mem_nil _⟩
  · split
    · exact happly .serviceAccount (.inr (.inl rfl)) _
    · exact hrest
  · cases hmode : agent.spec.mode with
    | deployment => exact happly .deployment (.inr (.inr (.inr (by rw [hmode]; rfl)))) _
    | daemonSet => exact hclear .deployment (by rw [hmode]; rfl)
  · cases hmode : agent.spec.mode with
    | deployment => exact hclear .daemonSet (by rw [hmode]; rfl)
    | daemonSet => exact happly .daemonSet (.inr (.inr (.inr (by rw [hmode]; rfl)))) _

/-- Reads the body of the reply to a request: an object of the kind that the request is about, or
the result of a DELETE or of the POST of an event. -/
def readAnswer : Request → Body → Except TextFault Unit
  | .fetch ref, body | .apply ref _, body | .patchStatus ref _, body =>
    (body.decode (typeOf ref.kind).2.codec).map fun _ => ()
  | .delete ref, body => Api.Client.checkDeleted (typeOf ref.kind).2 body
  | .createEvent _ _, body => readEvent body

/-- A request succeeds: the body of its reply can be read, or it is a GET whose reply says that the
object does not exist. -/
def Succeeds (request : Request) (reply : Reply) : Prop :=
  (∀ cause, accepted reply = .error cause →
    (∃ ref, request = .fetch ref) ∧ DeniesExistence reply) ∧
  ∀ body, accepted reply = .ok body → readAnswer request body = .ok ()

/-- All requests succeed. -/
def FaultFree (exchanges : List Exchange) : Prop :=
  ∀ request reply, (request, reply) ∈ exchanges → Succeeds request reply

/-- A concatenation is free of faults if and only if both parts are. -/
theorem fault_free_append_iff {first second : List Exchange} :
    FaultFree (first ++ second) ↔ FaultFree first ∧ FaultFree second := by
  simp only [FaultFree, List.mem_append]
  constructor
  · intro h
    exact ⟨fun request reply hmem => h request reply (.inl hmem),
      fun request reply hmem => h request reply (.inr hmem)⟩
  · intro h request reply hmem
    rcases hmem with hmem | hmem
    · exact h.1 request reply hmem
    · exact h.2 request reply hmem

/-- A request that does not fail is sent, and its reply yields the value. -/
theorem Asks.of_ok {request : Request} {read : Body → Except TextFault α}
    {exchanges : List Exchange} {value : α} (h : Asks unsent request read exchanges (.ok value)) :
    ∃ reply, exchanges = [(request, reply)] ∧ Yields read reply value := by
  cases h with
  | answered hsent hyields => exact ⟨_, rfl, hyields⟩

/-- A request that is refused is sent, and its reply is the refusal. -/
theorem Asks.of_refused {request : Request} {read : Body → Except TextFault α}
    {exchanges : List Exchange} {failure : Api.Failure}
    (h : Asks unsent request read exchanges (.error (.refused failure))) :
    ∃ reply, exchanges = [(request, reply)] ∧ accepted reply = .error (.refused failure) := by
  cases h with
  | failed hsent hfailed => exact ⟨_, rfl, hfailed⟩

/-- A request that can be sent is not unsent. -/
theorem Asks.of_sendable {request : Request} {read : Body → Except TextFault α}
    {exchanges : List Exchange} {result : Except ClientError α}
    (h : Asks unsent request read exchanges result)
    (hsent : ∃ address, request.address = .ok address) :
    Asks (fun _ => False) request read exchanges result := by
  cases h with
  | unsent haddress hunsent =>
      obtain ⟨address, hok⟩ := hsent
      rw [hok] at haddress
      cases haddress
  | failed hsent hfailed => exact .failed hsent hfailed
  | unreadable hsent haccepted hread => exact .unreadable hsent haccepted hread
  | answered hsent hyields => exact .answered hsent hyields

/-- A request that leads to an error, although it succeeds, is the GET of an object that does not
exist. -/
theorem Asks.absent_of_fault_free {request : Request} {read : Body → Except TextFault α}
    {exchanges : List Exchange} {cause : ClientError}
    (h : Asks (fun _ => False) request read exchanges (.error cause))
    (hfaultless : FaultFree exchanges)
    (hread : ∀ body, (read body).map (fun _ => ()) = readAnswer request body) :
    (∃ ref, request = .fetch ref) ∧
      ∃ failure, cause = .refused failure ∧ failure.code = 404 ∧ failure.reason = "NotFound" := by
  cases h with
  | unsent haddress hunsent => exact hunsent.elim
  | failed hsent hfailed =>
      -- the one refusal that is no fault is that of a GET of an object that does not exist
      obtain ⟨hfetch, failure, hrefused, hcode, hreason⟩ :=
        (hfaultless _ _ (List.mem_singleton.2 rfl)).1 _ hfailed
      exact ⟨hfetch, failure, Except.error.inj (hfailed.symm.trans hrefused), hcode, hreason⟩
  | unreadable hsent haccepted hfault =>
      have hread := (hread _).trans ((hfaultless _ _ (List.mem_singleton.2 rfl)).2 _ haccepted)
      rw [hfault] at hread
      cases hread

/-- The store holds an object that the agent of a unique id controls. -/
def Controlled (type : ResourceType α) (ref : ObjectRef) (uid : Option String)
    (store : ObjectRef → Option Json) : Prop :=
  ∃ document object, store ref = some document ∧ type.codec.decode document = .ok object ∧
    Controls uid (type.metadata object)

/-- An object that does not exist is not controlled. -/
theorem not_controlled_of_none {type : ResourceType α} {ref : ObjectRef} {uid : Option String}
    {store : ObjectRef → Option Json} (h : store ref = none) : ¬ Controlled type ref uid store := by
  intro hcontrolled
  obtain ⟨document, _, hdocument, -⟩ := hcontrolled
  rw [h] at hdocument
  cases hdocument

/-- Whether the agent controls a stored object is determined by the object that the document decodes
to. -/
theorem controlled_iff {type : ResourceType α} {ref : ObjectRef} {uid : Option String}
    {store : ObjectRef → Option Json} {document : Json} {object : α}
    (hdocument : store ref = some document) (hdecode : type.codec.decode document = .ok object) :
    Controlled type ref uid store ↔ Controls uid (type.metadata object) := by
  constructor
  · intro hcontrolled
    rcases hcontrolled with ⟨other, found, hother, hfound, hcontrols⟩
    obtain rfl := Option.some.inj (hdocument.symm.trans hother)
    obtain rfl := Except.ok.inj (hdecode.symm.trans hfound)
    exact hcontrols
  · intro hcontrols
    exact ⟨document, object, hdocument, hdecode, hcontrols⟩

/-- Whether an object of a store is controlled by an agent can be found out by reading it. -/
instance (type : ResourceType α) (ref : ObjectRef) (uid : Option String)
    (store : ObjectRef → Option Json) : Decidable (Controlled type ref uid store) :=
  match hdocument : store ref with
  | none => isFalse (not_controlled_of_none hdocument)
  | some document =>
    match hdecode : type.codec.decode document with
    | .ok object =>
      decidable_of_iff (Controls uid (type.metadata object)) (controlled_iff hdocument hdecode).symm
    | .error _ => isFalse fun hcontrolled => by
        obtain ⟨other, object, hother, hobject, -⟩ := hcontrolled
        obtain rfl := Option.some.inj (hdocument.symm.trans hother)
        rw [hdecode] at hobject
        cases hobject

/-- `Controlled` depends on the stored document only. -/
theorem controlled_congr {type : ResourceType α} {ref : ObjectRef} {uid : Option String}
    {store other : ObjectRef → Option Json} (h : store ref = other ref) :
    Controlled type ref uid store ↔ Controlled type ref uid other := by
  unfold Controlled
  rw [h]

/-- The readiness of the workload of an agent in a store, of the kind that the mode asks for. -/
def readinessIn (agent : Agent) (inNamespace name : String) (store : ObjectRef → Option Json) :
    Option Readiness :=
  match agent.spec.mode with
  | .deployment =>
    ((store ⟨.deployment, inNamespace, Naming.labelOf name⟩).bind fun document =>
      (Deployment.codec.decode document).toOption).map Pass.deploymentReadiness
  | .daemonSet =>
    ((store ⟨.daemonSet, inNamespace, Naming.labelOf name⟩).bind fun document =>
      (DaemonSet.codec.decode document).toOption).map Pass.daemonSetReadiness

/-- Objects of different kinds have different references. -/
theorem ref_ne {kind other : Api.Kind} (h : kind ≠ other) {inNamespace name space label : String} :
    (⟨kind, inNamespace, name⟩ : ObjectRef) ≠ ⟨other, space, label⟩ :=
  fun heq => h (congrArg ObjectRef.kind heq)

/-- `readinessIn` depends on the stored workloads only. -/
theorem readiness_in_congr {agent : Agent} {inNamespace name : String}
    {store other : ObjectRef → Option Json}
    (h : ∀ ref, ref ≠ ⟨.agent, inNamespace, name⟩ → other ref = store ref) :
    readinessIn agent inNamespace name other = readinessIn agent inNamespace name store := by
  unfold readinessIn
  -- a workload is of another kind than the agent
  rw [h _ (ref_ne (by decide)), h _ (ref_ne (by decide))]

/-- `readinessIn` depends on the agent by its desired state only. -/
theorem readiness_in_of_spec {first second : Agent} (h : first.spec = second.spec) :
    readinessIn first = readinessIn second := by
  unfold readinessIn
  rw [h]

/-- The document of an agent with a status merged into it, as a server may store it. -/
def Reported (status : AgentStatus) (before after : Json) : Prop :=
  (Cluster.mergeStatus (Pass.statusPatch status) before).Revised after

/-- In the document of an agent into which a status was merged, the status is the merged one, the
metadata is the same up to the revision, and all other keys are unchanged. -/
theorem Reported.get? {status : AgentStatus} {entries : List (String × Json)} {after : Json}
    (h : Reported status (.obj entries) after) :
    ∃ found, after = .obj found ∧
      found.lookup "status" = some (Json.mergePatch
        ((entries.lookup "status").getD .emptyObject) (AgentStatus.codec.encode status)) ∧
      (∀ key, key ≠ "status" → key ≠ "metadata" → found.lookup key = entries.lookup key) ∧
      (found.lookup "metadata").map (·.erase "resourceVersion") =
        (entries.lookup "metadata").map (·.erase "resourceVersion") := by
  have hmerged : Cluster.mergeStatus (Pass.statusPatch status) (.obj entries) =
      .obj (Entries.upsert "status" (Json.mergePatch
        ((entries.lookup "status").getD .emptyObject) (AgentStatus.codec.encode status))
        entries) := rfl
  rw [Reported, hmerged] at h
  obtain ⟨⟨found, rfl⟩, hother, hmetadata⟩ := h.get?
  refine ⟨found, rfl, ?_, ?_, ?_⟩
  · refine (hother "status" (by decide)).trans ?_
    rw [Entries.lookup_upsert, if_pos rfl]
  · intro key hstatus hkey
    refine (hother key hkey).trans ?_
    rw [Entries.lookup_upsert, if_neg hstatus]
  · refine hmetadata.trans ?_
    rw [Entries.lookup_upsert, if_neg (by decide)]

/-- A desired status that was merged into the document of an agent is read back from it, except that
a missing revision is the one that was stored before. -/
theorem Reported.status {settings : Settings} {agent stored : Agent} {readiness : Option Readiness}
    {now : Instant} {entries : List (String × Json)} {after : Json}
    (h : Reported (desiredStatus settings agent readiness now) (.obj entries) after)
    (hdecode : Agent.codec.decode after = .ok stored) :
    stored.status = some { desiredStatus settings agent readiness now with
      observedGeneration :=
        agent.metadata.generation.or (Agent.keptGeneration (.obj entries)) } := by
  obtain ⟨found, rfl, hthere, -, -⟩ := h.get?
  have hread := (Fields.read_field_some_iff hthere).1 (Agent.decode_obj_iff.1 hdecode).2.2
  obtain ⟨reported, hreported, hstatus⟩ :=
    (FieldRule.optional_read_eq_ok_iff (AgentStatus.merge_patch_ne_null _ _)).1 hread
  rw [hstatus]
  exact congrArg some (AgentStatus.decode_merge_patch (by nofun) (by nofun) hreported)

section Server

variable (hserver : Serves host objects)

include hserver

/-- A GET yields the stored document, and leaves the store unchanged. -/
theorem Asks.fetched {codec : Codec α} {ref : ObjectRef} {exchanges : List Exchange} {value : α}
    (h : Asks unsent (.fetch ref) (·.decode codec) exchanges (.ok value))
    (hanswers : host.Answers state exchanges final) :
    (∃ object, objects state ref = some object ∧ codec.decode object = .ok value) ∧
      objects final = objects state := by
  obtain ⟨reply, rfl, body, haccepted, hread⟩ := h.of_ok
  obtain ⟨rfl, rfl⟩ := Host.answers_singleton_iff.1 hanswers
  obtain ⟨object, hobject, rfl⟩ := hserver.fetch_found ref state body haccepted
  exact ⟨⟨object, hobject, decode_document hread⟩, hserver.fetch_frame ref state⟩

/-- The GET of an object finds the stored document, and leaves the store unchanged. -/
theorem Looks.effect {type : ResourceType α} {ref : ObjectRef} {exchanges : List Exchange}
    {found : Option α} (h : Looks unsent type ref exchanges (.ok found))
    (hfaultless : FaultFree exchanges) (hanswers : host.Answers state exchanges final) :
    objects final = objects state ∧ (∃ reply, exchanges = [(.fetch ref, reply)]) ∧
      ((found = none ∧ objects state ref = none) ∨
        ∃ object document, found = some object ∧ objects state ref = some document ∧
          type.codec.decode document = .ok object) := by
  cases h with
  | found hasks =>
      obtain ⟨⟨document, hdocument, hdecode⟩, hframe⟩ := hasks.fetched hserver hanswers
      obtain ⟨reply, rfl, -⟩ := hasks.of_ok
      exact ⟨hframe, ⟨reply, rfl⟩, .inr ⟨_, document, rfl, hdocument, hdecode⟩⟩
  | absent hasks hreason =>
      obtain ⟨reply, rfl, hrefused⟩ := hasks.of_refused
      obtain ⟨rfl, rfl⟩ := Host.answers_singleton_iff.1 hanswers
      have hdenies := ((hfaultless _ _ (List.mem_singleton.2 rfl)).1 _ hrefused).2
      exact ⟨hserver.fetch_frame ref state, ⟨_, rfl⟩,
        .inl ⟨rfl, hserver.fetch_absent ref state hdenies⟩⟩

/-- The object that is found is the one that the stored document decodes to. -/
theorem Looks.found_eq {type : ResourceType α} {ref : ObjectRef} {exchanges : List Exchange}
    {found : Option α} (h : Looks unsent type ref exchanges (.ok found))
    (hfaultless : FaultFree exchanges) (hanswers : host.Answers state exchanges final) :
    found = (objects state ref).bind fun document => (type.codec.decode document).toOption := by
  obtain ⟨-, -, ⟨rfl, hnone⟩ | ⟨object, document, rfl, hdocument, hdecode⟩⟩ :=
    h.effect hserver hfaultless hanswers
  · rw [hnone]
    rfl
  · rw [hdocument, Option.bind_some, hdecode]
    rfl

/-- An object that is applied is stored with all its fields, and no other object changes. -/
theorem Applies.effect {type : ResourceType α} {ref : ObjectRef} {desired : Option α}
    {exchanges : List Exchange} (h : Applies unsent type ref desired exchanges (.ok ()))
    (hanswers : host.Answers state exchanges final) :
    ∃ object reply stored, desired = some object ∧
      exchanges = [(.apply ref (type.codec.encode object), reply)] ∧
      objects final = Function.update (objects state) ref (some stored) ∧
      ((type.codec.encode object).get? "status" = none →
        (type.codec.encode object).Carries stored) := by
  cases h with
  | applied hdesired hasks =>
      obtain ⟨reply, rfl, body, haccepted, -⟩ := hasks.of_ok
      obtain ⟨rfl, rfl⟩ := Host.answers_singleton_iff.1 hanswers
      obtain ⟨stored, hframe, -, hcarries⟩ := hserver.apply_stored ref _ state body haccepted
      exact ⟨_, _, stored, hdesired, rfl, hframe, hcarries⟩

/-- An object that is cleared is removed if the agent controls it, and unchanged otherwise; no other
object changes, and only an object that the agent controls is the object of a DELETE. -/
theorem Clears.effect {type : ResourceType α} {ref : ObjectRef} {uid : Option String}
    {exchanges : List Exchange} (h : Clears unsent type ref uid exchanges (.ok ()))
    (hfaultless : FaultFree exchanges) (hanswers : host.Answers state exchanges final) :
    (Controlled type ref uid (objects state) ∧
      objects final = Function.update (objects state) ref none ∧
      ∃ looked deleted, exchanges = [(.fetch ref, looked), (.delete ref, deleted)]) ∨
    (¬ Controlled type ref uid (objects state) ∧ objects final = objects state ∧
      ∃ looked, exchanges = [(.fetch ref, looked)]) := by
  cases h with
  | absent hlooks =>
      obtain ⟨hframe, hget, ⟨-, hnone⟩ | ⟨object, document, ⟨⟩, -⟩⟩ :=
        hlooks.effect hserver hfaultless hanswers
      refine .inr ⟨?_, hframe, hget⟩
      intro hcontrolled
      rcases hcontrolled with ⟨document, object, hdocument, -⟩
      rw [hnone] at hdocument
      cases hdocument
  | foreign hlooks hforeign =>
      obtain ⟨hframe, hget, ⟨⟨⟩, -⟩ | ⟨object, document, hobject, hdocument, hdecode⟩⟩ :=
        hlooks.effect hserver hfaultless hanswers
      obtain rfl := Option.some.inj hobject
      exact .inr ⟨fun h => hforeign ((controlled_iff hdocument hdecode).1 h), hframe, hget⟩
  | @removed looks deletes _ hlooks hcontrols hdelete =>
      rw [fault_free_append_iff] at hfaultless
      obtain ⟨between, hlooked, hdeleted⟩ := Host.answers_append_iff.1 hanswers
      obtain ⟨hframe, ⟨looked, rfl⟩, ⟨⟨⟩, -⟩ | ⟨object, document, hobject, hdocument, hdecode⟩⟩ :=
        hlooks.effect hserver hfaultless.1 hlooked
      obtain rfl := Option.some.inj hobject
      obtain ⟨deleted, rfl, body, haccepted, -⟩ := hdelete.of_ok
      obtain ⟨rfl, rfl⟩ := Host.answers_singleton_iff.1 hdeleted
      refine .inl ⟨(controlled_iff hdocument hdecode).2 hcontrols, ?_, looked, _, rfl⟩
      rw [hserver.delete_removed ref between body haccepted, hframe]
  | gone hlooks hcontrols hdelete hcode =>
      rw [fault_free_append_iff] at hfaultless
      obtain ⟨reply, rfl, hrefused⟩ := hdelete.of_refused
      obtain ⟨⟨other, hother⟩, -⟩ := (hfaultless.2 _ _ (List.mem_singleton.2 rfl)).1 _ hrefused
      cases hother

/-- The GET of the workload finds its readiness, and leaves the store unchanged. -/
theorem Observes.effect {agent : Agent} {inNamespace name : String} {exchanges : List Exchange}
    {readiness : Option Readiness}
    (h : Observes unsent agent inNamespace name exchanges (.ok readiness))
    (hfaultless : FaultFree exchanges) (hanswers : host.Answers state exchanges final) :
    objects final = objects state ∧ readiness = readinessIn agent inNamespace name (objects state) ∧
      ∃ ref looked, exchanges = [(.fetch ref, looked)] := by
  generalize hresult : (Except.ok readiness : Except ClientError (Option Readiness)) = result at h
  cases h with
  | @deployment found hmode hlooks =>
      cases found with
      | error cause => cases hresult
      | ok found =>
          obtain rfl := Except.ok.inj hresult
          obtain ⟨hframe, hget, -⟩ := hlooks.effect hserver hfaultless hanswers
          refine ⟨hframe, ?_, _, hget⟩
          simp only [readinessIn, hmode]
          exact congrArg _ (hlooks.found_eq hserver hfaultless hanswers)
  | @daemonSet found hmode hlooks =>
      cases found with
      | error cause => cases hresult
      | ok found =>
          obtain rfl := Except.ok.inj hresult
          obtain ⟨hframe, hget, -⟩ := hlooks.effect hserver hfaultless hanswers
          refine ⟨hframe, ?_, _, hget⟩
          simp only [readinessIn, hmode]
          exact congrArg _ (hlooks.found_eq hserver hfaultless hanswers)

/-- The report leaves the store unchanged if the status is the desired one, and else merges that
into the agent. -/
theorem Reports.effect {shown : Instant → Prop} {settings : Settings} {agent : Agent}
    {inNamespace name : String} {exchanges : List Exchange}
    (h : Reports unsent shown settings agent inNamespace name exchanges (.ok ()))
    (hfaultless : FaultFree exchanges) (hanswers : host.Answers state exchanges final) :
    ∃ now, shown now ∧
      let status := desiredStatus settings agent
        (readinessIn agent inNamespace name (objects state)) now
      (agent.status = some status ∧ objects final = objects state ∧
        ∃ ref looked, exchanges = [(.fetch ref, looked)]) ∨
      (agent.status ≠ some status ∧
        ∃ before after stored, objects state ⟨.agent, inNamespace, name⟩ = some before ∧
          objects final =
            Function.update (objects state) ⟨.agent, inNamespace, name⟩ (some after) ∧
          Reported status before after ∧ Agent.codec.decode after = .ok stored ∧
          ∃ ref looked change patched, exchanges = [(.fetch ref, looked),
            (.patchStatus ⟨.agent, inNamespace, name⟩ change, patched)]) := by
  cases h with
  | unchanged hlooks hnow hsame =>
      obtain ⟨hframe, rfl, hget⟩ := hlooks.effect hserver hfaultless hanswers
      exact ⟨_, hnow, .inl ⟨hsame, hframe, hget⟩⟩
  | written hlooks hnow hchanged hpatch =>
      rw [fault_free_append_iff] at hfaultless
      obtain ⟨between, hlooked, hpatched⟩ := Host.answers_append_iff.1 hanswers
      obtain ⟨hframe, rfl, ref, looked, rfl⟩ := hlooks.effect hserver hfaultless.1 hlooked
      obtain ⟨reply, rfl, body, haccepted, hread⟩ := hpatch.of_ok
      obtain ⟨rfl, rfl⟩ := Host.answers_singleton_iff.1 hpatched
      obtain ⟨before, after, hbefore, hafter, rfl, hrevised⟩ :=
        hserver.patch_stored _ _ between body haccepted
      rw [hframe] at hbefore hafter
      exact ⟨_, hnow, .inr ⟨hchanged, before, after, _, hbefore, hafter, hrevised,
        decode_document hread, ref, looked, _, _, rfl⟩⟩

/-- The report changes no object but the agent. -/
theorem Reports.keeps {shown : Instant → Prop} {settings : Settings} {agent : Agent}
    {inNamespace name : String} {exchanges : List Exchange}
    (h : Reports unsent shown settings agent inNamespace name exchanges (.ok ()))
    (hfaultless : FaultFree exchanges) (hanswers : host.Answers state exchanges final)
    {ref : ObjectRef} (href : ref ≠ ⟨.agent, inNamespace, name⟩) :
    objects final ref = objects state ref := by
  obtain ⟨now, -, ⟨-, hframe, -⟩ | ⟨-, before, after, stored, -, hframe, -⟩⟩ :=
    h.effect hserver hfaultless hanswers
  · rw [hframe]
  · rw [hframe]
    exact Function.update_of_ne href ..

end Server

/-- A stage succeeds if all its requests do. -/
def Stage.Succeeds (stage : Stage) : Prop :=
  ∀ exchanges result, FaultFree exchanges → stage exchanges result → result = .ok ()

section Success

variable {type : ResourceType α} {ref : ObjectRef}

/-- The GET of an object does not fail if its request succeeds. -/
theorem Looks.succeeds {exchanges : List Exchange} {result : Except ClientError (Option α)}
    (h : Looks (fun _ => False) type ref exchanges result) (htype : typeOf ref.kind = ⟨α, type⟩)
    (hfaultless : FaultFree exchanges) : ∃ found, result = .ok found := by
  cases h with
  | found hasks => exact ⟨_, rfl⟩
  | absent hasks hreason => exact ⟨_, rfl⟩
  | failed hasks hreason =>
      obtain ⟨-, failure, rfl, -, hnotFound⟩ :=
        hasks.absent_of_fault_free hfaultless fun body => by rw [readAnswer, htype]
      exact absurd hnotFound (hreason failure rfl)

variable (htype : typeOf ref.kind = ⟨α, type⟩)

include htype

/-- The stage that applies an object succeeds. -/
theorem applies_succeeds (desired : Option α) :
    Stage.Succeeds (Applies (fun _ => False) type ref desired) := by
  intro exchanges result hfaultless h
  cases h with
  | applied hdesired hasks => rfl
  | failed hdesired hasks =>
      obtain ⟨⟨other, hother⟩, -⟩ :=
        hasks.absent_of_fault_free hfaultless fun body => by rw [readAnswer, htype]
      cases hother

/-- The stage that clears an object succeeds. -/
theorem clears_succeeds (uid : Option String) :
    Stage.Succeeds (Clears (fun _ => False) type ref uid) := by
  intro exchanges result hfaultless h
  cases h with
  | unread hlooks =>
      obtain ⟨found, hfound⟩ := hlooks.succeeds htype hfaultless
      cases hfound
  | stuck hlooks hcontrols hdelete hcode =>
      rw [fault_free_append_iff] at hfaultless
      obtain ⟨⟨other, hother⟩, -⟩ := hdelete.absent_of_fault_free hfaultless.2 fun body => by
        rw [readAnswer, htype]
        cases Api.Client.checkDeleted type body <;> rfl
      cases hother
  | _ => rfl

end Success

/-- The GET of the workload does not fail if its request succeeds. -/
theorem Observes.succeeds {agent : Agent} {inNamespace name : String} {exchanges : List Exchange}
    {result : Except ClientError (Option Readiness)}
    (h : Observes (fun _ => False) agent inNamespace name exchanges result)
    (hfaultless : FaultFree exchanges) : ∃ readiness, result = .ok readiness := by
  cases h with
  | deployment hmode hlooks =>
      obtain ⟨found, rfl⟩ := hlooks.succeeds rfl hfaultless
      exact ⟨_, rfl⟩
  | daemonSet hmode hlooks =>
      obtain ⟨found, rfl⟩ := hlooks.succeeds rfl hfaultless
      exact ⟨_, rfl⟩

/-- The stage that reports the status succeeds. -/
theorem reports_succeeds (shown : Instant → Prop) (settings : Settings) (agent : Agent)
    (inNamespace name : String) :
    Stage.Succeeds (Reports (fun _ => False) shown settings agent inNamespace name) := by
  intro exchanges result hfaultless h
  cases h with
  | unread hlooks =>
      obtain ⟨readiness, hreadiness⟩ := hlooks.succeeds hfaultless
      cases hreadiness
  | unwritten hlooks hnow hchanged hpatch =>
      rw [fault_free_append_iff] at hfaultless
      obtain ⟨⟨other, hother⟩, -⟩ := hpatch.absent_of_fault_free hfaultless.2 fun _ => rfl
      cases hother
  | _ => rfl

/-- All stages of a pass succeed. -/
theorem stages_succeed (shown : Instant → Prop) (settings : Settings) (agent : Agent)
    (inNamespace name : String) :
    ∀ stage ∈ stages (fun _ => False) shown settings agent inNamespace name,
      Stage.Succeeds stage.2 := by
  refine stages_forall (fun _ _ => applies_succeeds (by rfl))
    (fun _ _ => clears_succeeds (by rfl) _) ?_ (reports_succeeds _ _ _ _ _)
  intro exchanges result _ hrests
  cases hrests
  rfl

/-- A row of stages that succeed does. -/
theorem Row.succeeds {stages : List (String × Stage)} {exchanges : List Exchange}
    {result : Except PipelineError Unit} (h : Row stages exchanges result)
    (hstages : ∀ stage ∈ stages, Stage.Succeeds stage.2) (hfaultless : FaultFree exchanges) :
    result = .ok () := by
  induction h with
  | done => rfl
  | failed hstage => cases hstages _ (List.mem_cons_self ..) _ _ hfaultless hstage
  | next hstage hrest ih =>
      rw [fault_free_append_iff] at hfaultless
      exact ih (fun stage hmem => hstages stage (List.mem_cons_of_mem _ hmem)) hfaultless.2

/-- A row of stages that are all done, each from the state that the one before it leaves, and in
which no request fails. -/
inductive Done (host : Host σ) : List (String × Stage) → σ → List Exchange → σ → Prop where
  | nil (state : σ) : Done host [] state [] state
  | cons {name : String} {stage : Stage} {stages : List (String × Stage)}
      {first rest : List Exchange} {state between final : σ} (hstage : stage first (.ok ()))
      (hfaultless : FaultFree first) (hanswers : host.Answers state first between)
      (hrest : Done host stages between rest final) :
      Done host ((name, stage) :: stages) state (first ++ rest) final

/-- The first stage of a row that is done, and the remaining ones. -/
theorem Done.head {name : String} {stage : Stage} {stages : List (String × Stage)}
    {exchanges : List Exchange} (h : Done host ((name, stage) :: stages) state exchanges final) :
    ∃ first rest between, exchanges = first ++ rest ∧ stage first (.ok ()) ∧ FaultFree first ∧
      host.Answers state first between ∧ Done host stages between rest final := by
  cases h with
  | cons hstage hfaultless hanswers hrest =>
      exact ⟨_, _, _, rfl, hstage, hfaultless, hanswers, hrest⟩

/-- The empty row leaves the state unchanged. -/
theorem Done.of_nil {exchanges : List Exchange} (h : Done host [] state exchanges final) :
    exchanges = [] ∧ final = state := by
  cases h with
  | nil state => exact ⟨rfl, rfl⟩

/-- A stage that is done leaves an object unchanged. -/
def Stage.Keeps (host : Host σ) (objects : σ → ObjectRef → Option Json) (ref : ObjectRef)
    (stage : Stage) : Prop :=
  ∀ {exchanges state final}, stage exchanges (.ok ()) → FaultFree exchanges →
    host.Answers state exchanges final → objects final ref = objects state ref

/-- A row of stages leaves an object unchanged if all of them do. -/
theorem Done.keeps {row : List (String × Stage)} {exchanges : List Exchange} {ref : ObjectRef}
    (h : Done host row state exchanges final)
    (hrow : ∀ entry ∈ row, entry.2.Keeps host objects ref) :
    objects final ref = objects state ref := by
  induction h with
  | nil state => rfl
  | cons hstage hfaultless hanswers hrest ih =>
      have hfirst := hrow _ (List.mem_cons_self ..) hstage hfaultless hanswers
      exact (ih fun entry hmem => hrow entry (List.mem_cons_of_mem _ hmem)).trans hfirst

/-- One stage of a row that is done, with the states before and after it: an object that the stages
before it keep is as it was at first, and one that those after it keep stays unchanged. -/
theorem Done.turn {title : String} {stage : Stage} (before : List (String × Stage))
    {after : List (String × Stage)} {exchanges : List Exchange}
    (h : Done host (before ++ (title, stage) :: after) state exchanges final) :
    ∃ sent start stop, stage sent (.ok ()) ∧ FaultFree sent ∧ host.Answers start sent stop ∧
      (∀ ref, (∀ entry ∈ before, entry.2.Keeps host objects ref) →
        objects start ref = objects state ref) ∧
      ∀ ref, (∀ entry ∈ after, entry.2.Keeps host objects ref) →
        objects final ref = objects stop ref := by
  -- induction on the stages before this one, each of which moves the state on
  induction before generalizing state exchanges with
  | nil =>
      obtain ⟨first, rest, between, -, hstage, hfaultless, hanswers, hrest⟩ := h.head
      exact ⟨first, state, between, hstage, hfaultless, hanswers, fun _ _ => rfl,
        fun _ hafter => hrest.keeps hafter⟩
  | cons entry before ih =>
      obtain ⟨first, rest, between, -, hentry, hfirst, hfirstAnswers, hrest⟩ := h.head
      obtain ⟨sent, start, stop, hstage, hfaultless, hanswers, hstart, hstop⟩ := ih hrest
      refine ⟨sent, start, stop, hstage, hfaultless, hanswers, fun ref hbefore => ?_, hstop⟩
      rw [List.forall_mem_cons] at hbefore
      exact (hstart ref hbefore.2).trans (hbefore.1 hentry hfirst hfirstAnswers)

/-- A row of stages that does not fail is done. -/
theorem Row.to_done {stages : List (String × Stage)} {exchanges : List Exchange}
    (h : Row stages exchanges (.ok ())) (hfaultless : FaultFree exchanges)
    (hanswers : host.Answers state exchanges final) :
    Done host stages state exchanges final := by
  -- the induction on the row needs a variable for the end, which excludes the failing row
  generalize hresult : (Except.ok () : Except PipelineError Unit) = result at h
  induction h generalizing state with
  | done =>
      obtain rfl := Host.answers_nil_iff.1 hanswers
      exact .nil _
  | failed hstage => cases hresult
  | next hstage hrest ih =>
      rw [fault_free_append_iff] at hfaultless
      obtain ⟨between, hfirst, hothers⟩ := Host.answers_append_iff.1 hanswers
      exact .cons hstage hfaultless.1 hfirst (ih hfaultless.2 hothers hresult)

/-- A faultless pass over an agent of a store ends well: it reads the agent and does all stages. -/
theorem WholePass.to_done {shown : Instant → Prop} {settings : Settings}
    {inNamespace name : String} {exchanges : List Exchange} {document : Json} {agent : Agent}
    {result : Except ReconcileError NextAction}
    (h : WholePass (fun _ => False) shown settings inNamespace name exchanges result)
    (hserver : Serves host objects) (hfaultless : FaultFree exchanges)
    (hanswers : host.Answers state exchanges final)
    (hsent : ∃ address, (Request.fetch ⟨.agent, inNamespace, name⟩).address = .ok address)
    (hstored : objects state ⟨.agent, inNamespace, name⟩ = some document)
    (hagent : Agent.codec.decode document = .ok agent) :
    result = .ok .awaitChange ∧
      ∃ looked rest between, exchanges = (.fetch ⟨.agent, inNamespace, name⟩, looked) :: rest ∧
        objects between = objects state ∧
        Done host (stages (fun _ => False) shown settings agent inNamespace name) between rest
          final := by
  cases h with
  | absent hfetch hcode =>
      -- the store has the agent, so that a GET of it cannot say that there is none
      obtain ⟨reply, rfl, hrefused⟩ := hfetch.of_refused
      obtain ⟨rfl, -⟩ := Host.answers_singleton_iff.1 hanswers
      have hdenies := ((hfaultless _ _ (List.mem_singleton.2 rfl)).1 _ hrefused).2
      rw [hserver.fetch_absent _ state hdenies] at hstored
      cases hstored
  | unfetched hfetch hcode =>
      obtain ⟨-, failure, rfl, hgone, -⟩ :=
        (hfetch.of_sendable hsent).absent_of_fault_free hfaultless fun _ => rfl
      exact absurd hgone (hcode failure rfl)
  | settled hfetch hrow =>
      rw [fault_free_append_iff] at hfaultless
      obtain ⟨between, hfetched, hothers⟩ := Host.answers_append_iff.1 hanswers
      obtain ⟨⟨found, hfound, hdecode⟩, hframe⟩ := hfetch.fetched hserver hfetched
      obtain rfl := Option.some.inj (hstored.symm.trans hfound)
      obtain rfl := Except.ok.inj (hagent.symm.trans hdecode)
      obtain ⟨looked, rfl, -⟩ := hfetch.of_ok
      exact ⟨rfl, looked, _, between, rfl, hframe, hrow.to_done hfaultless.2 hothers⟩
  | halted hfetch hrow hterminating =>
      rw [fault_free_append_iff] at hfaultless
      cases hrow.succeeds (stages_succeed _ _ _ _ _) hfaultless.2
  | stopped hfetch hrow hterminating hnow hevent =>
      rw [fault_free_append_iff, fault_free_append_iff] at hfaultless
      cases hrow.succeeds (stages_succeed _ _ _ _ _) hfaultless.1.2

end AgentOperator.Transcript
