import AgentOperator.Proofs.Agent.Report
import AgentOperator.Proofs.Api.Address
import AgentOperator.Proofs.Manifest.Agreement
import AgentOperator.Proofs.Pass.Effects
import AgentOperator.Proofs.Pass.Protocol

/-!
# Status patches

The patch with a status that is merged into the document of an agent is read back as that status,
whatever was stored before: every field of the status is in the patch if the agent has a revision,
and replaces an earlier one (`AgentStatus.decode_merge_patch_of_complete`). A pass that finds
another status sends this patch (`Pass.outcome_report_status_of_changed`, `Pass.fits_write_status`).
The status is then the desired one of the next pass, which sends nothing but the GET of the workload
(`status_patch_lands`).
-/

namespace AgentOperator

open Api (ObjectRef Request)
open Attempt
open Cluster (Serves)

/-- A status with all its fields is read back from whatever it is merged into. -/
theorem AgentStatus.decode_merge_patch_of_complete (wanted : AgentStatus)
    (hversion : wanted.version ≠ none) (hreplicas : wanted.replicas ≠ none)
    (hgeneration : wanted.observedGeneration ≠ none) (target : Json) :
    codec.decode (Json.mergePatch target (codec.encode wanted)) = .ok wanted := by
  obtain ⟨changes, hencode, hkeys, hplain, hv, hr, hg, hc⟩ := encode_eq wanted
  obtain ⟨before, hmerged, -, -⟩ := Json.merge_patch_obj target changes
  have hwritten : codec.decode (.obj changes) = .ok wanted :=
    hencode ▸ Codec.Lawful.decode_encode wanted
  obtain ⟨hwroteVersion, hwroteReplicas, hwroteGeneration, hwroteConditions⟩ :=
    decode_obj_iff.1 hwritten
  -- an entry of the patch replaces the stored one
  have hsame {key : String} (hkey : changes.lookup key ≠ none) :
      (Json.mergeEntries before changes).lookup key = changes.lookup key := by
    obtain ⟨j, hj⟩ := Option.ne_none_iff_exists'.1 hkey
    rw [Json.lookup_merge_entries hkeys hplain, hj, Option.some_or]
  rw [hencode, hmerged, decode_obj_iff]
  refine ⟨(Fields.read_field_congr (hsame ?_)).trans hwroteVersion,
    (Fields.read_field_congr (hsame ?_)).trans hwroteReplicas,
    (Fields.read_field_congr (hsame ?_)).trans hwroteGeneration,
    (Fields.read_field_congr (hsame ?_)).trans hwroteConditions⟩
  · rwa [hv, ne_eq, Option.map_eq_none_iff]
  · rwa [hr, ne_eq, Option.map_eq_none_iff]
  · rwa [hg, ne_eq, Option.map_eq_none_iff]
  · rw [hc]
    nofun

namespace Pass

/-- The patch of a status merges it into the entry of the status, and changes no other entry. -/
theorem merge_patch_status_patch (entries : List (String × Json)) (status : AgentStatus) :
    Json.mergePatch (.obj entries) (statusPatch status) =
      .obj (Entries.upsert "status" (Json.mergePatch ((entries.lookup "status").getD .null)
        (AgentStatus.codec.encode status)) entries) := by
  obtain ⟨changes, hencode, -⟩ := AgentStatus.encode_eq status
  unfold statusPatch
  rw [hencode]
  rfl

/-- The observation of the workload sends nothing but GETs. -/
theorem requests_observe {σ : Type} (pass : Pass) (host : Host σ) (state : σ) :
    ∀ request ∈ Effect.requests (outcome host pass.observe state).effects,
      ∃ ref, request = .fetch ref := by
  have hlooks {α : Type} {type : Api.ResourceType α} {ref : Api.ObjectRef}
      {exchanges : List Exchange} {found : Except Api.ClientError (Option α)}
      (h : Transcript.Looks (fun _ => True) type ref exchanges found) :
      ∀ request ∈ exchanges.map Prod.fst, ∃ ref, request = .fetch ref := by
    -- the GET is the only possible request, whatever its result is
    cases h with
    | found h | absent h | failed h =>
        cases h <;> simp
  have hfits : Fits host (observe ⟨pass.settings, pass.agent⟩) state _ :=
    Transcript.fits_observe pass.settings rfl rfl fun _ _ _ _ => trivial
  obtain ⟨seen, hobserves, -⟩ := hfits
  rw [Effect.requests_eq]
  cases hobserves with
  | deployment _ h => exact hlooks h
  | daemonSet _ h => exact hlooks h

/-- The reference to the agent of a pass. -/
def agentRef (pass : Pass) : ObjectRef := ⟨.agent, pass.inNamespace, pass.agent.name⟩

/-- The write of a status that can be sent is one PATCH, and does not fail if the reply yields an
agent. -/
theorem fits_write_status {σ : Type} (pass : Pass) {host : Host σ} {state : σ}
    (status : AgentStatus) (hsent : ∀ fault,
      (Request.patchStatus pass.agentRef (statusPatch status)).address ≠ .error fault) :
    Fits host (pass.writeStatus status) state fun exchanges result =>
      ∃ reply, exchanges = [(.patchStatus pass.agentRef (statusPatch status), reply)] ∧
        (result = .ok () → ∃ stored, Transcript.Yields (·.decode Agent.codec) reply stored) := by
  refine fits_adapt_bind (Transcript.fits_send_for hsent .agent) ?_ ?_
  · intro exchanges stored after hasks
    obtain ⟨reply, rfl, hyields⟩ := hasks.of_ok
    exact fits_report ⟨reply, rfl, fun _ => ⟨stored, hyields⟩⟩
  · intro exchanges cause hasks
    cases hasks with
    | unsent _ hfault => exact hfault.elim
    | failed | unreadable => exact ⟨_, rfl, nofun⟩

/-- The observation of the workload leaves the store unchanged. -/
theorem objects_observe {σ : Type} (pass : Pass) {host : Host σ}
    {objects : σ → ObjectRef → Option Json} (hserver : Serves host objects) (state : σ) :
    objects (outcome host pass.observe state).state = objects state :=
  hserver.frame_of_fetches (Activity.run_answers host pass.observe.run state)
    (Effect.requests_eq _ ▸ requests_observe pass host state)

/-- A write of a status that does not fail merges it into the stored document of the agent, which
can then be read. -/
theorem reported_of_write_status {σ : Type} (pass : Pass) {host : Host σ} {state : σ}
    {objects : σ → ObjectRef → Option Json} {status : AgentStatus} {document : Json}
    (hserver : Serves host objects) (hsent : ∀ fault,
      (Request.patchStatus pass.agentRef (statusPatch status)).address ≠ .error fault)
    (hstored : objects state pass.agentRef = some document)
    (hvalue : (outcome host (pass.writeStatus status) state).value = .ok ()) :
    ∃ after next,
      objects (outcome host (pass.writeStatus status) state).state pass.agentRef = some after ∧
        Agent.codec.decode after = .ok next ∧ Transcript.Reported status document after := by
  have hwrite : Fits host (pass.writeStatus status) state _ := fits_write_status pass status hsent
  obtain ⟨reply, hexchanges, hyields⟩ := hwrite
  obtain ⟨next, body, haccepted, hbody⟩ := hyields hvalue
  have hanswers : host.Answers state
      (Effect.exchanges (outcome host (pass.writeStatus status) state).effects)
      (outcome host (pass.writeStatus status) state).state :=
    Activity.run_answers host (pass.writeStatus status).run state
  rw [hexchanges, Host.answers_singleton_iff] at hanswers
  obtain ⟨rfl, hfinal⟩ := hanswers
  obtain ⟨before, after, hbefore, hafter, rfl, hrevised⟩ :=
    hserver.patch_stored _ _ state body haccepted
  obtain rfl := Option.some.inj (hstored.symm.trans hbefore)
  refine ⟨after, next, ?_, Transcript.decode_document hbody, hrevised⟩
  exact hfinal ▸ hafter ▸ Function.update_self ..

/-- The report of a pass after the observation of the workload: the desired status is written,
unless it is the stored one. -/
theorem outcome_report_status {σ : Type} (pass : Pass) {host : Host σ} {state : σ}
    {readiness : Option Readiness}
    (hobserved : (outcome host pass.observe state).value = .ok readiness) :
    outcome host pass.reportStatus state =
      let observed := outcome host pass.observe state
      let desired :=
        desiredStatus pass.settings pass.agent readiness (host.now observed.state)
      (outcome host (if pass.agent.status = some desired then
          liftM (Activity.report statusUnchangedNotice)
        else pass.writeStatus desired) observed.state).afterAll observed.effects := by
  unfold reportStatus
  rw [outcome_bind]
  generalize outcome host pass.observe state = observed at hobserved
  obtain ⟨value, effects, after⟩ := observed
  obtain rfl : value = .ok readiness := hobserved
  have hclock : outcome host (liftM Activity.readClock : Attempt TaskError Instant) after =
      ⟨.ok (host.now after), [], after⟩ := rfl
  simp only [outcome_bind, hclock, Outcome.after_all_nil]

/-- A pass over an agent with another status observes the workload and writes the desired status. -/
theorem outcome_report_status_of_changed {σ : Type} (pass : Pass) {host : Host σ} {state : σ}
    {readiness : Option Readiness}
    (hobserved : (outcome host pass.observe state).value = .ok readiness)
    (hchanged : pass.agent.status ≠ some (desiredStatus pass.settings pass.agent readiness
      (host.now (outcome host pass.observe state).state))) :
    outcome host pass.reportStatus state =
      (outcome host (pass.writeStatus (desiredStatus pass.settings pass.agent readiness
          (host.now (outcome host pass.observe state).state)))
        (outcome host pass.observe state).state).afterAll
        (outcome host pass.observe state).effects := by
  rw [outcome_report_status pass hobserved]
  simp only [if_neg hchanged]

/-- A pass over an agent with the desired status observes the workload and writes nothing. -/
theorem outcome_report_status_of_unchanged {σ : Type} (pass : Pass) {host : Host σ} {state : σ}
    {readiness : Option Readiness}
    (hobserved : (outcome host pass.observe state).value = .ok readiness)
    (hreported : ∀ now,
      pass.agent.status = some (desiredStatus pass.settings pass.agent readiness now)) :
    outcome host pass.reportStatus state =
      { value := .ok ()
        effects := (outcome host pass.observe state).effects ++ [.logged statusUnchangedNotice]
        state := (outcome host pass.observe state).state } := by
  rw [outcome_report_status pass hobserved]
  simp only [if_pos (hreported _)]
  rfl

/-- A pass over an agent with another status sends the patch with the desired one last. -/
theorem requests_report_status_of_changed {σ : Type} (pass : Pass) {host : Host σ} {state : σ}
    {readiness : Option Readiness}
    (hobserved : (outcome host pass.observe state).value = .ok readiness)
    (hchanged : pass.agent.status ≠ some (desiredStatus pass.settings pass.agent readiness
      (host.now (outcome host pass.observe state).state)))
    (hsent : ∀ fault, (Request.patchStatus pass.agentRef (statusPatch
      (desiredStatus pass.settings pass.agent readiness
        (host.now (outcome host pass.observe state).state)))).address ≠ .error fault) :
    Effect.requests (outcome host pass.reportStatus state).effects =
      Effect.requests (outcome host pass.observe state).effects ++
        [.patchStatus pass.agentRef (statusPatch
          (desiredStatus pass.settings pass.agent readiness
            (host.now (outcome host pass.observe state).state)))] := by
  have hwrite : Fits host (pass.writeStatus _) (outcome host pass.observe state).state _ :=
    fits_write_status pass _ hsent
  obtain ⟨reply, hexchanges, -⟩ := hwrite
  rw [outcome_report_status_of_changed pass hobserved hchanged, Effect.requests_eq,
    Effect.requests_eq, Outcome.after_all_effects, Effect.exchanges_append, List.map_append,
    hexchanges]
  rfl

/-- A pass over an agent with the desired status sends what the observation of the workload
sends. -/
theorem requests_report_status_of_unchanged {σ : Type} (pass : Pass) {host : Host σ} {state : σ}
    {readiness : Option Readiness}
    (hobserved : (outcome host pass.observe state).value = .ok readiness)
    (hreported : ∀ now,
      pass.agent.status = some (desiredStatus pass.settings pass.agent readiness now)) :
    Effect.requests (outcome host pass.reportStatus state).effects =
      Effect.requests (outcome host pass.observe state).effects := by
  rw [outcome_report_status_of_unchanged pass hobserved hreported, Effect.requests_eq,
    Effect.requests_eq, Effect.exchanges_append]
  simp

end Pass

/-- The entry of the status after a server has merged a status into the document of an agent. -/
theorem get?_status_merge_patch (entries : List (String × Json)) (status : AgentStatus) :
    (Json.mergePatch (.obj entries) (Pass.statusPatch status)).get? "status" =
      some (Json.mergePatch ((entries.lookup "status").getD .emptyObject)
        (AgentStatus.codec.encode status)) := by
  rw [Pass.merge_patch_status_patch, Json.get?, Entries.lookup_upsert, if_pos rfl]
  cases entries.lookup "status" with
  | some document => rfl
  | none =>
      -- a patch that is an object takes whatever is no object for an empty one
      obtain ⟨changes, hencode, -⟩ := AgentStatus.encode_eq status
      rw [hencode]
      rfl

/-- An agent with a revision is read back from a document into which its desired status was merged:
with this status, and otherwise the same. -/
theorem read_back_of_reported {settings : Settings} {agent next : Agent}
    {readiness : Option Readiness} {now : Instant} {entries : List (String × Json)} {after : Json}
    (hgeneration : agent.metadata.generation ≠ none)
    (hagent : Agent.codec.decode (.obj entries) = .ok agent)
    (hnext : Agent.codec.decode after = .ok next)
    (h : Transcript.Reported (desiredStatus settings agent readiness now) (.obj entries) after) :
    ∃ found, after = .obj found ∧
      found.lookup "status" = (Json.mergePatch (.obj entries)
        (Pass.statusPatch (desiredStatus settings agent readiness now))).get? "status" ∧
      next.spec = agent.spec ∧
      { next.metadata with resourceVersion := none } =
        { agent.metadata with resourceVersion := none } ∧
      next.status = some (desiredStatus settings agent readiness now) := by
  have hstatus : next.status = some (desiredStatus settings agent readiness now) := by
    rw [h.status hnext, desired_status_or_generation hgeneration]
  obtain ⟨found, rfl, hmerged, hother, hmetadata⟩ := h.get?
  obtain ⟨hspec, hsame⟩ :=
    Agent.eq_of_revised hagent hnext (hother "spec" (by decide) (by decide)) hmetadata
  exact ⟨found, rfl, hmerged.trans (get?_status_merge_patch entries _).symm, hspec, hsame, hstatus⟩

/-- The write of a status lands. Whatever is stored for an agent that has a revision, its document
has the desired status once the patch has been merged into it: that is the entry of the status, and
the agent that was read from the document before is now read with this status and is otherwise the
same. A pass that finds another status on the agent observes the workload and sends this patch, and
nothing else; on a server that keeps the document, the stored entry of the status is then the merged
one, and the agent is read back with the desired status. A later pass over the agent that observes
the same readiness has the same desired status at all times, and it sends nothing but the GET of the
workload. -/
theorem status_patch_lands (settings : Settings) {agent : Agent}
    (hgeneration : agent.metadata.generation ≠ none) (readiness : Option Readiness) (now : Instant)
    (entries : List (String × Json)) :
    let desired := desiredStatus settings agent readiness now
    let merged := Json.mergePatch (.obj entries) (Pass.statusPatch desired)
    (∃ document, merged.get? "status" = some document ∧
      AgentStatus.codec.decode document = .ok desired) ∧
    (Agent.codec.decode (.obj entries) = .ok agent →
      Agent.codec.decode merged = .ok { agent with status := some desired }) ∧
    (∀ {σ : Type} (host : Host σ) (state : σ),
      let pass : Pass := ⟨settings, agent⟩
      let observed := outcome host pass.observe state
      let report := outcome host pass.reportStatus state
      let patch := Request.patchStatus pass.agentRef (Pass.statusPatch desired)
      observed.value = .ok readiness → host.now observed.state = now →
      agent.status ≠ some desired → (∀ fault, patch.address ≠ .error fault) →
      Effect.requests report.effects = Effect.requests observed.effects ++ [patch] ∧
      ∀ objects, Serves host objects →
        objects state pass.agentRef = some (.obj entries) →
        Agent.codec.decode (.obj entries) = .ok agent → report.value = .ok () →
        ∃ found next, objects report.state pass.agentRef = some (.obj found) ∧
          found.lookup "status" = merged.get? "status" ∧
          Agent.codec.decode (.obj found) = .ok next ∧ next.spec = agent.spec ∧
          { next.metadata with resourceVersion := none } =
            { agent.metadata with resourceVersion := none } ∧
          next.status = some desired) ∧
    ∀ next : Agent, next.spec = agent.spec →
      next.metadata.generation = agent.metadata.generation → next.status = some desired →
      (∀ later, desiredStatus settings next readiness later = desired) ∧
      ∀ {σ : Type} (host : Host σ) (state : σ),
        (outcome host (Pass.observe ⟨settings, next⟩) state).value = .ok readiness →
        let report := outcome host (Pass.reportStatus ⟨settings, next⟩) state
        report.value = .ok () ∧
          ∀ request ∈ Effect.requests report.effects, ∃ ref, request = .fetch ref := by
  intro desired merged
  have hmerged : merged = .obj (Entries.upsert "status" _ entries) :=
    Pass.merge_patch_status_patch entries desired
  have hread := AgentStatus.decode_merge_patch_of_complete desired nofun nofun hgeneration
    ((entries.lookup "status").getD .null)
  refine ⟨?_, ?_, ?_, ?_⟩
  · refine ⟨_, ?_, hread⟩
    rw [hmerged, Json.get?, Entries.lookup_upsert, if_pos rfl]
  · intro hagent
    rw [hmerged]
    exact Agent.decode_upsert_status hagent (AgentStatus.merge_patch_ne_null _ _) hread
  · intro σ host state pass observed report patch hobserved hnow hchanged hsent
    subst hnow
    refine ⟨pass.requests_report_status_of_changed hobserved hchanged hsent, ?_⟩
    intro objects hserver hstored hagent hvalue
    have hreport : report =
        (outcome host (pass.writeStatus desired) observed.state).afterAll observed.effects :=
      pass.outcome_report_status_of_changed hobserved hchanged
    rw [hreport] at hvalue ⊢
    rw [← pass.objects_observe hserver state] at hstored
    obtain ⟨after, next, hafter, hnext, hreported⟩ :=
      pass.reported_of_write_status hserver hsent hstored hvalue
    obtain ⟨found, rfl, hstatus, hspec, hsame, hdesired⟩ :=
      read_back_of_reported hgeneration hagent hnext hreported
    exact ⟨found, next, hafter, hstatus, hnext, hspec, hsame, hdesired⟩
  · intro next hspec hsame hstatus
    have hstable := desired_status_stable hspec hsame hstatus
    refine ⟨hstable, ?_⟩
    intro σ host state hobserved report
    have hreported (later : Instant) :
        next.status = some (desiredStatus settings next readiness later) :=
      hstatus.trans (congrArg some (hstable later).symm)
    have hreport : report = _ :=
      Pass.outcome_report_status_of_unchanged ⟨settings, next⟩ hobserved hreported
    have hrequests : Effect.requests report.effects = _ :=
      Pass.requests_report_status_of_unchanged ⟨settings, next⟩ hobserved hreported
    rw [hrequests]
    exact ⟨by rw [hreport], Pass.requests_observe _ host state⟩

/-- The status of an agent without a workload lands in a document whose earlier status has a null
revision and an unknown field: the pass sends it, the server stores it, and a later pass sends
nothing but GETs. -/
theorem status_lands_over_null_revision :
    let entries : List (String × Json) :=
      [("metadata", .obj [("generation", .int 1), ("name", .str "sample"),
          ("namespace", .str "agents")]),
        ("spec", .obj []),
        ("status", .obj [("conditions", .arr []), ("observedGeneration", .null),
          ("phase", .str "new")])]
    let agent : Agent :=
      { metadata :=
          { name := some "sample", inNamespace := some "agents", generation := some 1 }
        spec := {}
        status := some {} }
    let pass : Pass := ⟨{}, agent⟩
    let desired := desiredStatus {} agent none ⟨0, 0⟩
    let patch := Request.patchStatus pass.agentRef (Pass.statusPatch desired)
    let host := Cluster.host ⟨0, 0⟩
    let state : Cluster.Store ObjectRef := ⟨[(pass.agentRef, .obj entries)]⟩
    let report := outcome host pass.reportStatus state
    let next : Agent := { agent with status := some desired }
    Agent.codec.decode (.obj entries) = .ok agent ∧
      Agent.codec.decode (Json.mergePatch (.obj entries) (Pass.statusPatch desired)) = .ok next ∧
      Effect.requests report.effects =
        Effect.requests (outcome host pass.observe state).effects ++ [patch] ∧
      (∃ found stored, report.state.get? pass.agentRef = some (.obj found) ∧
        Agent.codec.decode (.obj found) = .ok stored ∧ stored.status = some desired) ∧
      ∀ request ∈ Effect.requests (outcome host (Pass.reportStatus ⟨{}, next⟩) state).effects,
        ∃ ref, request = .fetch ref := by
  intro entries agent pass desired patch host state report next
  have hgeneration : agent.metadata.generation ≠ none := nofun
  have hagent : Agent.codec.decode (.obj entries) = .ok agent := rfl
  have hobserved : (outcome host pass.observe state).value = .ok none := by
    decide +kernel
  have hobserved' : (outcome host (Pass.observe ⟨{}, next⟩) state).value = .ok none := by
    decide +kernel
  have hchanged : agent.status ≠ some desired := by
    decide +kernel
  have hsendable : Api.Sendable "agents" "sample" :=
    Api.sendable_of_short ⟨'s', _, rfl, rfl⟩ ⟨_, rfl⟩ (by decide) (by decide +kernel)
  obtain ⟨-, hmerged, hwrite, hnext⟩ := status_patch_lands {} hgeneration none ⟨0, 0⟩ entries
  obtain ⟨hrequests, hlands⟩ :=
    hwrite host state hobserved rfl hchanged (hsendable.others patch (.status _))
  have hdone : report.value = .ok () := by
    decide +kernel
  obtain ⟨found, stored, hfound, -, hstored, -, -, hstatus⟩ :=
    hlands Cluster.Store.get? (Cluster.serves_host _) rfl hagent hdone
  exact ⟨hagent, hmerged hagent, hrequests, ⟨found, stored, hfound, hstored, hstatus⟩,
    ((hnext next rfl rfl rfl).2 host state hobserved').2⟩

end AgentOperator
