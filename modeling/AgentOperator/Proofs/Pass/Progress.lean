import AgentOperator.Proofs.Kubernetes.RoundTrip
import AgentOperator.Proofs.Pass.Effects
import AgentOperator.Proofs.Pass.Protocol

/-!
# Faultless passes

A pass over an agent of a store (`Subject`) in which no request fails ends well and does all of its
stages (`FaultlessPass.to_done`). On the cluster of `AgentOperator.Cluster.Server` every pass is
faultless if the objects of the store can be read as objects of their kinds (`Subject.faultless`).
The step is `serve_succeeds`: the cluster refuses none of the requests of a pass, and the objects
that it stores can be read again.
-/

namespace AgentOperator.Transcript

open Api (Body ObjectRef Reply Request RequestFault ResourceType)
open Cluster (Serves Store)
open Kubernetes

variable {α σ : Type}

/-- The outcome of a pass over the agent of a name, with the default tasks. -/
def passOutcome (host : Host σ) (settings : Settings) (inNamespace name : String) (state : σ) :
    Outcome σ (Except ReconcileError NextAction) :=
  Attempt.outcome host ((Reconciler.new settings).reconcileByName inNamespace name) state

/-- An agent of a store that a pass under a name is about, and whose requests can all be sent. Its
document is the object of `entries`. -/
structure Subject (objects : σ → ObjectRef → Option Json) (inNamespace name : String) (state : σ)
    (entries : List (String × Json)) (agent : Agent) : Prop where
  stored : objects state ⟨.agent, inNamespace, name⟩ = some (.obj entries)
  reads : Agent.codec.decode (.obj entries) = .ok agent
  hasName : agent.metadata.name = some name
  hasNamespace : agent.metadata.inNamespace = some inNamespace
  sendable : Api.Sendable inNamespace name

/-- A pass over an agent of a store in which no request fails. -/
structure FaultlessPass (host : Host σ) (objects : σ → ObjectRef → Option Json)
    (settings : Settings) (inNamespace name : String) (state : σ) (entries : List (String × Json))
    (agent : Agent) : Prop extends Subject objects inNamespace name state entries agent where
  faultFree :
    FaultFree (Effect.exchanges (passOutcome host settings inNamespace name state).effects)

section Passes

variable {host : Host σ} {objects : σ → ObjectRef → Option Json} {settings : Settings}
  {inNamespace name : String} {state : σ} {entries : List (String × Json)} {agent : Agent}

/-- A pass over an agent of a store keeps to the transcript of a pass, for all replies. -/
theorem Subject.whole_pass (h : Subject objects inNamespace name state entries agent)
    (hserver : Serves host objects) :
    WholePass (fun _ => False) host.Shows settings inNamespace name
      (Effect.exchanges (passOutcome host settings inNamespace name state).effects)
      (passOutcome host settings inNamespace name state).value := by
  refine fits_reconcile_by_name (fun after => ⟨after, rfl⟩) settings ?_ ?_
  · intro found hyields
    obtain ⟨body, haccepted, hfound⟩ := hyields
    obtain ⟨object, hobject, rfl⟩ := hserver.fetch_found _ state body haccepted
    obtain rfl := Option.some.inj (h.stored.symm.trans hobject)
    obtain rfl := Except.ok.inj (h.reads.symm.trans (decode_document hfound))
    exact ⟨h.hasName, h.hasNamespace⟩
  · intro _ request hmentions fault hfault
    exact h.sendable.others request hmentions fault hfault

/-- A faultless pass ends well: it reads the agent and does all stages. -/
theorem FaultlessPass.to_done
    (h : FaultlessPass host objects settings inNamespace name state entries agent)
    (hserver : Serves host objects) :
    (passOutcome host settings inNamespace name state).value = .ok .awaitChange ∧
      ∃ looked rest between,
        Effect.exchanges (passOutcome host settings inNamespace name state).effects =
          (.fetch ⟨.agent, inNamespace, name⟩, looked) :: rest ∧
        objects between = objects state ∧
        Done host (stages (fun _ => False) host.Shows settings agent inNamespace name) between rest
          (passOutcome host settings inNamespace name state).state :=
  (h.whole_pass hserver).to_done hserver h.faultFree (Activity.run_answers host _ state)
    h.sendable.agent h.stored h.reads

end Passes

/-- A document can be read as an object of a kind. -/
def ReadsAs (kind : Api.Kind) (document : Json) : Prop :=
  ∃ object, (typeOf kind).2.codec.decode document = .ok object

/-- All objects of a cluster can be read as objects of their kinds, and the agent of a name is one
of them. -/
structure Readable (inNamespace name : String) (store : Store ObjectRef) : Prop where
  reads : ∀ ref document, store.get? ref = some document → ReadsAs ref.kind document
  hasAgent : store.get? ⟨.agent, inNamespace, name⟩ ≠ none

/-- The requests of a pass to a cluster: to read an object; to apply one that can be read, or to
delete one that exists, neither of them an agent; and to report a status on the agent. -/
inductive Sensible (inNamespace name : String) (store : Store ObjectRef) : Request → Prop where
  | fetch (ref : ObjectRef) : Sensible inNamespace name store (.fetch ref)
  | apply {ref : ObjectRef} {desired : Json} (hkind : ref.kind ≠ .agent)
      (hreads : ReadsAs ref.kind desired) : Sensible inNamespace name store (.apply ref desired)
  | report (status : AgentStatus) : Sensible inNamespace name store
      (.patchStatus ⟨.agent, inNamespace, name⟩ (Pass.statusPatch status))
  | delete {ref : ObjectRef} (hkind : ref.kind ≠ .agent) (hthere : store.get? ref ≠ none) :
      Sensible inNamespace name store (.delete ref)

/-- Documents of one kind that is not that of agents may be mixed. -/
theorem type_of_mixes {kind : Api.Kind} (hkind : kind ≠ .agent) : (typeOf kind).2.codec.Mixes := by
  cases kind with
  | configMap => exact (Codec.kind_mixes : ConfigMap.codec.Mixes)
  | serviceAccount => exact (Codec.kind_mixes : ServiceAccount.codec.Mixes)
  | service => exact (Codec.kind_mixes : Service.codec.Mixes)
  | deployment => exact (Codec.kind_mixes : Deployment.codec.Mixes)
  | daemonSet => exact (Codec.kind_mixes : DaemonSet.codec.Mixes)
  | agent => exact absurd rfl hkind

/-- The codec of a kind that is not that of agents is lawful. -/
theorem type_of_lawful {kind : Api.Kind} (hkind : kind ≠ .agent) :
    (typeOf kind).2.codec.Lawful := by
  cases kind with
  | configMap => exact (inferInstance : ConfigMap.codec.Lawful)
  | serviceAccount => exact (inferInstance : ServiceAccount.codec.Lawful)
  | service => exact (inferInstance : Service.codec.Lawful)
  | deployment => exact (inferInstance : Deployment.codec.Lawful)
  | daemonSet => exact (inferInstance : DaemonSet.codec.Lawful)
  | agent => exact absurd rfl hkind

/-- An object that can be read still can with the status of another one of its kind that can. -/
theorem ReadsAs.keep_status {kind : Api.Kind} (hkind : kind ≠ .agent) {desired : Json}
    (hdesired : ReadsAs kind desired) {earlier : Option Json}
    (hearlier : ∀ old, earlier = some old → ReadsAs kind old) :
    ReadsAs kind (Cluster.keepStatus earlier desired) := by
  unfold Cluster.keepStatus
  cases hstatus : earlier.bind (Json.get? "status") with
  | none => exact hdesired
  | some status =>
      obtain ⟨old, hold, hstatus⟩ := Option.bind_eq_some_iff.1 hstatus
      obtain ⟨found, hfound⟩ := hearlier old hold
      obtain ⟨wanted, hwanted⟩ := hdesired
      cases old with
      | obj before =>
          cases desired with
          | obj entries =>
              -- under each key the object has what the applied one has, or what the old one has
              refine type_of_mixes hkind hwanted hfound fun key => ?_
              rw [Entries.lookup_upsert]
              by_cases hkey : key = "status"
              · rw [if_pos hkey, hkey]
                exact .inr hstatus.symm
              · rw [if_neg hkey]
                exact .inl rfl
          | _ => exact ⟨wanted, hwanted⟩
      | _ => cases hstatus

/-- The document of an agent that can be read still can after a status was merged into it. -/
theorem reads_as_merge_status {document : Json} (h : ReadsAs .agent document)
    (status : AgentStatus) :
    ReadsAs .agent (Cluster.mergeStatus (Pass.statusPatch status) document) := by
  obtain ⟨agent, hagent⟩ := h
  cases document with
  | obj entries =>
      -- the stored status is part of the agent, and so can be read
      have hearlier (inner : List (String × Json))
          (h : (entries.lookup "status").getD .emptyObject = .obj inner) :
          ∃ earlier, AgentStatus.codec.decode ((entries.lookup "status").getD .emptyObject) =
            .ok earlier := by
        cases hstatus : entries.lookup "status" with
        | none => exact ⟨{}, rfl⟩
        | some j =>
            rw [hstatus, Option.getD_some] at h
            subst h
            exact Agent.decode_status hagent hstatus
      obtain ⟨reported, hreported⟩ := AgentStatus.decode_merge_patch_succeeds status hearlier
      exact ⟨_, Agent.decode_upsert_status hagent (AgentStatus.merge_patch_ne_null _ _) hreported⟩
  | _ => exact ⟨agent, hagent⟩

/-- The value of a document in the body of a reply is the value of the document. -/
theorem map_decode_document {codec : Codec α} {document : Json} {object : α}
    (h : codec.decode document = .ok object) :
    ((Body.document document).decode codec).map (fun _ => ()) = .ok () := by
  unfold Body.decode
  simp only [h]
  rfl

section Cluster

variable {inNamespace name : String} {store final : Store ObjectRef}

/-- The objects of a cluster can be read if each of its entries can. -/
theorem Readable.of_entries (hreads : ∀ entry ∈ store.entries, ReadsAs entry.1.kind entry.2)
    (hasAgent : store.get? ⟨.agent, inNamespace, name⟩ ≠ none) :
    Readable inNamespace name store where
  hasAgent := hasAgent
  reads ref document hdocument := by
    obtain ⟨before, after, hentries, -⟩ := List.lookup_eq_some_iff.1 hdocument
    exact hreads (ref, document) (hentries ▸ List.mem_append_right _ (List.mem_cons_self ..))

/-- A cluster whose objects can be read still is one after an object that can be read was put into
it. -/
theorem Readable.put (h : Readable inNamespace name store) {ref : ObjectRef} {object : Json}
    (hreads : ReadsAs ref.kind object) : Readable inNamespace name (store.put ref object) where
  reads other document hdocument := by
    rw [Store.get?_put] at hdocument
    split at hdocument
    · next heq =>
      obtain rfl := Option.some.inj hdocument
      rwa [heq]
    · exact h.reads other document hdocument
  hasAgent := by
    rw [Store.get?_put]
    split
    · nofun
    · exact h.hasAgent

/-- A request succeeds if the body of its reply can be read. -/
theorem succeeds_of_accepted {request : Request} {reply : Api.Reply} {body : Body}
    (haccepted : Api.Client.accepted reply = .ok body) (hread : readAnswer request body = .ok ()) :
    Succeeds request reply := by
  refine ⟨fun cause hfailed => ?_, fun other hother => ?_⟩
  · cases haccepted.symm.trans hfailed
  · rwa [← Except.ok.inj (haccepted.symm.trans hother)]

/-- The requests of a pass to a cluster whose objects can be read succeed, and leave such a
cluster. -/
theorem serve_succeeds {request : Request} (h : Sensible inNamespace name store request)
    (hreadable : Readable inNamespace name store) :
    Succeeds request (Cluster.serve request store).1 ∧
      Readable inNamespace name (Cluster.serve request store).2 := by
  cases h with
  | fetch ref =>
      show Succeeds _ (Cluster.Operation.read.perform ref store).1 ∧
        Readable _ _ (Cluster.Operation.read.perform ref store).2
      unfold Cluster.Operation.perform
      cases hobject : store.get? ref with
      | none =>
          exact ⟨⟨fun _ _ => ⟨⟨ref, rfl⟩, Cluster.denies_existence_not_found⟩, nofun⟩, hreadable⟩
      | some object =>
          obtain ⟨found, hfound⟩ := hreadable.reads ref object hobject
          exact ⟨succeeds_of_accepted rfl (map_decode_document hfound), hreadable⟩
  | @apply ref desired hkind hreads =>
      have hstored : ReadsAs ref.kind (Cluster.keepStatus (store.get? ref) desired) :=
        hreads.keep_status hkind (hreadable.reads ref)
      obtain ⟨found, hfound⟩ := hstored
      exact ⟨succeeds_of_accepted rfl (map_decode_document hfound), hreadable.put ⟨found, hfound⟩⟩
  | report status =>
      show Succeeds _ ((Cluster.Operation.mergeStatus _).perform _ store).1 ∧
        Readable _ _ ((Cluster.Operation.mergeStatus _).perform _ store).2
      unfold Cluster.Operation.perform
      cases hobject : store.get? ⟨.agent, inNamespace, name⟩ with
      | none => exact absurd hobject hreadable.hasAgent
      | some object =>
          obtain ⟨found, hfound⟩ := reads_as_merge_status (hreadable.reads _ object hobject) status
          exact ⟨succeeds_of_accepted rfl (map_decode_document hfound),
            hreadable.put ⟨found, hfound⟩⟩
  | @delete ref hkind hthere =>
      show Succeeds _ (Cluster.Operation.remove.perform ref store).1 ∧
        Readable _ _ (Cluster.Operation.remove.perform ref store).2
      unfold Cluster.Operation.perform
      cases hobject : store.get? ref with
      | none => exact absurd hobject hthere
      | some object =>
          refine ⟨succeeds_of_accepted rfl ?_, ?_, ?_⟩
          · show Api.Client.checkDeleted (typeOf ref.kind).2 _ = .ok ()
            cases ref.kind <;> rfl
          · intro other document hdocument
            rw [Store.get?_remove] at hdocument
            split at hdocument
            · cases hdocument
            · exact hreadable.reads other document hdocument
          · rw [Store.get?_remove, if_neg]
            · exact hreadable.hasAgent
            · intro heq
              subst heq
              exact hkind rfl

variable {now : Instant} {exchanges : List Exchange}

/-- A request of a pass to a cluster whose objects can be read succeeds. -/
theorem Asks.progresses {request : Request} {read : Body → Except TextFault α}
    {result : Except Api.ClientError α} (h : Asks (fun _ => False) request read exchanges result)
    (hsensible : Sensible inNamespace name store request)
    (hreadable : Readable inNamespace name store)
    (hanswers : (Cluster.host now).Answers store exchanges final) :
    FaultFree exchanges ∧ Readable inNamespace name final := by
  obtain ⟨reply, rfl⟩ : ∃ reply, exchanges = [(request, reply)] := by
    cases h with
    | unsent haddress hunsent => exact hunsent.elim
    | failed | unreadable | answered => exact ⟨_, rfl⟩
  obtain ⟨rfl, rfl⟩ := Host.answers_singleton_iff.1 hanswers
  obtain ⟨hsucceeds, hleft⟩ := serve_succeeds hsensible hreadable
  refine ⟨?_, hleft⟩
  intro other reply hmem
  obtain ⟨rfl, rfl⟩ := Prod.mk.inj (List.mem_singleton.1 hmem)
  exact hsucceeds

/-- The GET of an object of such a cluster succeeds. -/
theorem Looks.progresses {type : ResourceType α} {ref : ObjectRef}
    {result : Except Api.ClientError (Option α)}
    (h : Looks (fun _ => False) type ref exchanges result)
    (hreadable : Readable inNamespace name store)
    (hanswers : (Cluster.host now).Answers store exchanges final) :
    FaultFree exchanges ∧ Readable inNamespace name final := by
  cases h with
  | found hasks => exact hasks.progresses (.fetch ref) hreadable hanswers
  | absent hasks hreason => exact hasks.progresses (.fetch ref) hreadable hanswers
  | failed hasks hreason => exact hasks.progresses (.fetch ref) hreadable hanswers

/-- The requests of a stage of a pass to a cluster whose objects can be read succeed, and leave such
a cluster. -/
def Stage.Progresses (inNamespace name : String) (now : Instant) (stage : Stage) : Prop :=
  ∀ {store exchanges result final}, stage exchanges result → Readable inNamespace name store →
    (Cluster.host now).Answers store exchanges final →
      FaultFree exchanges ∧ Readable inNamespace name final

/-- Applying an object that is no agent progresses. -/
theorem applies_progresses {type : ResourceType α} {ref : ObjectRef}
    (htype : typeOf ref.kind = ⟨α, type⟩) (hkind : ref.kind ≠ .agent) (desired : Option α) :
    Stage.Progresses inNamespace name now (Applies (fun _ => False) type ref desired) := by
  intro store exchanges result final h hreadable hanswers
  have hsensible (object : α) :
      Sensible inNamespace name store (.apply ref (type.codec.encode object)) := by
    have hlawful := type_of_lawful hkind
    refine .apply hkind ?_
    rw [ReadsAs]
    rw [htype] at hlawful ⊢
    exact ⟨object, hlawful.decode_encode object⟩
  cases h with
  | applied hdesired hasks => exact hasks.progresses (hsensible _) hreadable hanswers
  | failed hdesired hasks => exact hasks.progresses (hsensible _) hreadable hanswers

/-- Clearing an object that is no agent progresses. -/
theorem clears_progresses {type : ResourceType α} {ref : ObjectRef} (hkind : ref.kind ≠ .agent)
    (uid : Option String) :
    Stage.Progresses inNamespace name now (Clears (fun _ => False) type ref uid) := by
  intro store exchanges result final h hreadable hanswers
  -- a DELETE comes only after the object was found
  have hdeleted {looks deletes : List Exchange} {object : α}
      {answer : Except Api.ClientError Unit}
      (hlooks : Looks (fun _ => False) type ref looks (.ok (some object)))
      (hdelete : Asks (fun _ => False) (.delete ref) (Api.Client.checkDeleted type) deletes answer)
      (hanswers : (Cluster.host now).Answers store (looks ++ deletes) final) :
      FaultFree (looks ++ deletes) ∧ Readable inNamespace name final := by
    obtain ⟨between, hlooked, hdeleted⟩ := Host.answers_append_iff.1 hanswers
    obtain ⟨hfree, hreadableBetween⟩ := hlooks.progresses hreadable hlooked
    have hthere : between.get? ref ≠ none := by
      obtain ⟨hframe, -, ⟨⟨⟩, -⟩ | ⟨found, document, -, hdocument, -⟩⟩ :=
        hlooks.effect (Cluster.serves_host now) hfree hlooked
      rw [hframe, hdocument]
      nofun
    obtain ⟨hfree', hleft⟩ := hdelete.progresses (.delete hkind hthere) hreadableBetween hdeleted
    exact ⟨fault_free_append_iff.2 ⟨hfree, hfree'⟩, hleft⟩
  cases h with
  | unread hlooks => exact hlooks.progresses hreadable hanswers
  | absent hlooks => exact hlooks.progresses hreadable hanswers
  | foreign hlooks hforeign => exact hlooks.progresses hreadable hanswers
  | removed hlooks hcontrols hdelete => exact hdeleted hlooks hdelete hanswers
  | gone hlooks hcontrols hdelete hcode => exact hdeleted hlooks hdelete hanswers
  | stuck hlooks hcontrols hdelete hcode => exact hdeleted hlooks hdelete hanswers

/-- The GET of the workload succeeds. -/
theorem Observes.progresses {agent : Agent} {result : Except Api.ClientError (Option Readiness)}
    (h : Observes (fun _ => False) agent inNamespace name exchanges result)
    (hreadable : Readable inNamespace name store)
    (hanswers : (Cluster.host now).Answers store exchanges final) :
    FaultFree exchanges ∧ Readable inNamespace name final := by
  cases h with
  | deployment hmode hlooks => exact hlooks.progresses hreadable hanswers
  | daemonSet hmode hlooks => exact hlooks.progresses hreadable hanswers

/-- Reporting the status progresses. -/
theorem reports_progress (shown : Instant → Prop) (settings : Settings) (agent : Agent) :
    Stage.Progresses inNamespace name now
      (Reports (fun _ => False) shown settings agent inNamespace name) := by
  intro store exchanges result final h hreadable hanswers
  have hpatched {looks patches : List Exchange} {readiness : Option Readiness}
      {status : AgentStatus} {answer : Except Api.ClientError Agent}
      (hlooks : Observes (fun _ => False) agent inNamespace name looks (.ok readiness))
      (hpatch : Asks (fun _ => False) (.patchStatus ⟨.agent, inNamespace, name⟩
        (Pass.statusPatch status)) (·.decode Agent.codec) patches answer)
      (hanswers : (Cluster.host now).Answers store (looks ++ patches) final) :
      FaultFree (looks ++ patches) ∧ Readable inNamespace name final := by
    obtain ⟨between, hlooked, hpatched⟩ := Host.answers_append_iff.1 hanswers
    obtain ⟨hfree, hreadableBetween⟩ := hlooks.progresses hreadable hlooked
    obtain ⟨hfree', hleft⟩ := hpatch.progresses (.report status) hreadableBetween hpatched
    exact ⟨fault_free_append_iff.2 ⟨hfree, hfree'⟩, hleft⟩
  cases h with
  | unread hlooks => exact hlooks.progresses hreadable hanswers
  | unchanged hlooks hnow hsame => exact hlooks.progresses hreadable hanswers
  | written hlooks hnow hchanged hpatch => exact hpatched hlooks hpatch hanswers
  | unwritten hlooks hnow hchanged hpatch => exact hpatched hlooks hpatch hanswers

/-- All stages of a pass progress. -/
theorem stages_progress (shown : Instant → Prop) (settings : Settings) (agent : Agent) :
    ∀ stage ∈ stages (fun _ => False) shown settings agent inNamespace name,
      Stage.Progresses inNamespace name now stage.2 := by
  refine stages_forall (fun _ hkind => applies_progresses (by rfl) hkind.ne_agent) ?_ ?_
    (reports_progress _ _ _)
  · rintro kind rfl
    exact clears_progresses (stale_of_ne_agent _) _
  · intro store exchanges result final hrests hreadable hanswers
    cases hrests
    obtain rfl := Host.answers_nil_iff.1 hanswers
    exact ⟨fun request reply hmem => absurd hmem List.not_mem_nil, hreadable⟩

/-- A row of stages that progress does. -/
theorem Row.progresses {row : List (String × Stage)} {result : Except PipelineError Unit}
    (h : Row row exchanges result)
    (hrow : ∀ stage ∈ row, Stage.Progresses inNamespace name now stage.2)
    (hreadable : Readable inNamespace name store)
    (hanswers : (Cluster.host now).Answers store exchanges final) :
    FaultFree exchanges ∧ Readable inNamespace name final := by
  induction h generalizing store with
  | done =>
      obtain rfl := Host.answers_nil_iff.1 hanswers
      exact ⟨nofun, hreadable⟩
  | failed hstage => exact hrow _ (List.mem_cons_self ..) hstage hreadable hanswers
  | next hstage hrest ih =>
      obtain ⟨between, hfirst, hothers⟩ := Host.answers_append_iff.1 hanswers
      obtain ⟨hfree, hreadableBetween⟩ := hrow _ (List.mem_cons_self ..) hstage hreadable hfirst
      obtain ⟨hfree', hleft⟩ := ih (fun stage hmem => hrow stage (List.mem_cons_of_mem _ hmem))
        hreadableBetween hothers
      exact ⟨fault_free_append_iff.2 ⟨hfree, hfree'⟩, hleft⟩

/-- A pass over the agent of a name progresses. -/
theorem WholePass.progresses {shown : Instant → Prop} {settings : Settings}
    {result : Except ReconcileError NextAction}
    (h : WholePass (fun _ => False) shown settings inNamespace name exchanges result)
    (hsent : ∃ address, (Request.fetch ⟨.agent, inNamespace, name⟩).address = .ok address)
    (hreadable : Readable inNamespace name store)
    (hanswers : (Cluster.host now).Answers store exchanges final) :
    FaultFree exchanges ∧ Readable inNamespace name final := by
  -- reading the agent comes before all stages
  have hstages {fetches rest : List Exchange} {agent : Agent} {row : Except PipelineError Unit}
      {between : Store ObjectRef}
      (hfetch : Asks (fun _ => True) (.fetch ⟨.agent, inNamespace, name⟩) (·.decode Agent.codec)
        fetches (.ok agent))
      (hrow : Row (stages (fun _ => False) shown settings agent inNamespace name) rest row)
      (hanswers : (Cluster.host now).Answers store (fetches ++ rest) between) :
      FaultFree (fetches ++ rest) ∧ Readable inNamespace name between := by
    obtain ⟨fetched, hfetched, hothers⟩ := Host.answers_append_iff.1 hanswers
    obtain ⟨hfree, hreadableFetched⟩ :=
      (hfetch.of_sendable hsent).progresses (.fetch _) hreadable hfetched
    obtain ⟨hfree', hleft⟩ :=
      hrow.progresses (stages_progress shown settings agent) hreadableFetched hothers
    exact ⟨fault_free_append_iff.2 ⟨hfree, hfree'⟩, hleft⟩
  cases h with
  | absent hfetch hcode =>
      exact (hfetch.of_sendable hsent).progresses (.fetch _) hreadable hanswers
  | unfetched hfetch hcode =>
      exact (hfetch.of_sendable hsent).progresses (.fetch _) hreadable hanswers
  | settled hfetch hrow => exact hstages hfetch hrow hanswers
  | halted hfetch hrow hterminating => exact hstages hfetch hrow hanswers
  | stopped hfetch hrow hterminating hnow hevent =>
      -- no request of the stages fails, so that no stage does and no event is due
      obtain ⟨between, hbefore, -⟩ := Host.answers_append_iff.1 hanswers
      obtain ⟨hfree, -⟩ := hstages hfetch hrow hbefore
      cases hrow.succeeds (stages_succeed _ _ _ _ _) (fault_free_append_iff.1 hfree).2

/-- On a cluster whose objects can be read, every pass over the agent is faultless and leaves such a
cluster. -/
theorem Subject.faultless {entries : List (String × Json)} {agent : Agent}
    (h : Subject Store.get? inNamespace name store entries agent)
    (hreadable : Readable inNamespace name store) (settings : Settings) (now : Instant) :
    FaultlessPass (Cluster.host now) Store.get? settings inNamespace name store entries agent ∧
      Readable inNamespace name
        (passOutcome (Cluster.host now) settings inNamespace name store).state := by
  obtain ⟨hfree, hleft⟩ := (h.whole_pass (Cluster.serves_host now)).progresses h.sendable.agent
    hreadable (Activity.run_answers (Cluster.host now) _ store)
  exact ⟨⟨h, hfree⟩, hleft⟩

end Cluster

end AgentOperator.Transcript
