import AgentOperator.Proofs.Pass.Identity
import AgentOperator.Proofs.Pass.Convergence

/-!
# The removal of workloads

A workload that the mode of an agent does not have is read before it is deleted, and left unchanged
unless the agent controls it. These are two requests, between which other clients may write to the
store. So the guarantee that holds under all interference is that the agent controlled the object
when it was read, which is directly before the DELETE (`Carries.found_own`). The DELETE removes an
object of the agent if no other client has replaced it in between.
-/

namespace AgentOperator.Transcript

open Api (Kind ObjectRef Reply Request RequestFault ResourceType)
open Cluster (Busy Truthful Write)
open Kubernetes

variable {α σ : Type} {host : Host σ} {objects : σ → ObjectRef → Option Json} {state : σ}
  {identity : Identity} {unsent : RequestFault → Prop} {inNamespace name : String}

/-- Directly before a DELETE within its stage there is a GET that finds the agent to control the
object. -/
def Stage.LooksFirst (uid : Option String) (stage : Stage) : Prop :=
  ∀ {sent rest reply ref result}, stage (sent ++ (.delete ref, reply) :: rest) result →
    ∃ looked object, sent = [(.fetch ref, looked)] ∧ FoundOwn (typeOf ref.kind).2 uid looked object

/-- A stage without a DELETE looks first. -/
theorem looks_first_of_ne {stage : Stage} (uid : Option String)
    (h : ∀ {exchanges result}, stage exchanges result → ∀ exchange ∈ exchanges, ∀ ref,
      exchange.1 ≠ .delete ref) : stage.LooksFirst uid := by
  intro sent rest reply ref result hstage
  exact absurd rfl (h hstage (.delete ref, reply) (List.mem_append_right _ List.mem_cons_self) ref)

/-- The stage that applies an object sends no DELETE. -/
theorem applies_look_first {type : ResourceType α} {ref : ObjectRef} (uid : Option String)
    (desired : Option α) : Stage.LooksFirst uid (Applies unsent type ref desired) := by
  refine looks_first_of_ne uid fun h exchange hmem other heq => ?_
  obtain ⟨document, hsent⟩ := h.request_eq hmem
  rw [hsent] at heq
  cases heq

/-- The stage that clears an object reads it first. -/
theorem clears_look_first (kind : Kind) (uid : Option String) :
    Stage.LooksFirst uid
      (Clears unsent (typeOf kind).2 ⟨kind, inNamespace, Naming.labelOf name⟩ uid) := by
  intro sent rest reply ref result h
  rcases h.parts with hlooks | ⟨looked, object, other, hparts, hfound⟩
  · cases hlooks _ (List.mem_append_right _ List.mem_cons_self)
  · -- of the two exchanges the DELETE is the second one
    cases sent with
    | nil =>
        obtain ⟨hfirst, -⟩ := List.cons.inj hparts
        cases hfirst
    | cons first sent =>
        obtain ⟨rfl, hsecond⟩ := List.cons.inj hparts
        cases sent with
        | nil =>
            obtain ⟨hdelete, -⟩ := List.cons.inj hsecond
            obtain rfl := Request.delete.inj (Prod.mk.inj hdelete).1
            exact ⟨looked, object, rfl, hfound⟩
        | cons second sent =>
            obtain ⟨-, hrest⟩ := List.cons.inj hsecond
            cases sent <;> cases hrest

/-- The stage of the report sends no DELETE. -/
theorem reports_look_first (uid : Option String) (shown : Instant → Prop) (settings : Settings)
    (agent : Agent) :
    Stage.LooksFirst uid (Reports unsent shown settings agent inNamespace name) := by
  refine looks_first_of_ne uid fun h exchange hmem ref heq => ?_
  rcases h.request_eq hmem with ⟨kind, hsent⟩ | ⟨change, hsent⟩ <;>
    · rw [hsent] at heq
      cases heq

/-- All stages of a pass read an object before they delete it. -/
theorem stages_look_first (shown : Instant → Prop) (settings : Settings) (agent : Agent) :
    ∀ entry ∈ stages unsent shown settings agent inNamespace name,
      Stage.LooksFirst agent.metadata.uid entry.2 := by
  refine stages_forall (fun _ _ => applies_look_first _) (fun kind _ => clears_look_first kind _) ?_
    (reports_look_first _ _ _ _)
  refine looks_first_of_ne _ fun hrests exchange hmem => ?_
  cases hrests
  cases hmem

/-- Directly before a DELETE of a pass there is the GET that finds the agent to control the
object. -/
theorem Carries.found_own {shown : Instant → Prop} {settings : Settings} {agent : Agent}
    {looked reply : Reply} {sent events before after : List Exchange} {ref : ObjectRef}
    (h : Carries unsent shown settings inNamespace name agent looked sent events)
    (hsplit : (.fetch ⟨.agent, inNamespace, name⟩, looked) :: sent ++ events =
      before ++ (.delete ref, reply) :: after) :
    ∃ first looked object, before = first ++ [(.fetch ref, looked)] ∧
      FoundOwn (typeOf ref.kind).2 agent.metadata.uid looked object := by
  rcases split_append hsplit with ⟨rest, hfront⟩ | ⟨front, -, hevents⟩
  · cases before with
    | nil =>
        obtain ⟨hfirst, -⟩ := List.cons.inj hfront
        cases hfirst
    | cons first before =>
        obtain ⟨rfl, hsent⟩ := List.cons.inj hfront
        obtain ⟨ending, hrow⟩ := h.row
        obtain ⟨entry, hentry, others, own, _, _, rfl, hstage⟩ := hrow.turn hsent
        obtain ⟨found, object, rfl, hfound⟩ := stages_look_first _ _ _ entry hentry hstage
        exact ⟨_ :: others, found, object, rfl, hfound⟩
  · obtain ⟨event, hevent⟩ := h.event (.delete ref, reply) (by simp [hevents])
    cases hevent

/-- A request of a pass over an agent that reads an object and finds the agent to control it. -/
structure Finds (objects : σ → ObjectRef → Option Json) (identity : Identity) (ref : ObjectRef)
    (moment : Moment σ) : Prop where
  request : moment.request = .fetch ref
  owns : identity.Owns ref.kind (objects moment.before)

/-- Whatever other clients do to a store between the requests of a pass, a DELETE comes directly
after the GET of an object that the agent controlled. So if the object is unchanged in between, the
DELETE removes one that the agent controls. -/
theorem delete_follows_find (hserver : Truthful host objects)
    (hfits : identity.Fits (objects state)) (settings : Settings) {removal : Moment σ}
    {ref : ObjectRef}
    (hmem : removal ∈ host.moments state state (identity.exchanges host settings state))
    (hrequest : removal.request = .delete ref) :
    ref = identity.object ref.kind ∧
      ∃ look ∈ host.moments state state (identity.exchanges host settings state),
        Finds objects identity ref look ∧ look.after = removal.before ∧
        (objects removal.before ref = objects look.before ref →
          identity.Owns ref.kind (objects removal.before)) := by
  have hanswers : host.Answers state (identity.exchanges host settings state)
      (passOutcome host settings identity.inNamespace identity.name state).state :=
    Activity.run_answers ..
  obtain ⟨earlier, later, hmoments⟩ := List.append_of_mem hmem
  obtain ⟨before, ⟨request, reply⟩, after, hexchanges, hbefore, -, heq⟩ :=
    Host.split_of_moments hanswers hmoments
  obtain rfl : request = .delete ref := heq.symm.trans hrequest
  have hsent : (Request.delete ref, reply) ∈ identity.exchanges host settings state := by
    rw [hexchanges]
    exact List.mem_append_right _ List.mem_cons_self
  rcases Identity.pass_parts hserver hfits settings with hagent |
    ⟨agent, looked, sent, events, hparts, hreads, hcarries⟩
  · cases hagent _ hsent
  · rw [hparts] at hsent
    have href : ref = identity.object ref.kind := by
      rw [(hcarries.issues hsent).deleted]
      rfl
    -- the exchange before it has found the object in the store
    obtain ⟨first, found, object, rfl, hfound⟩ := hcarries.found_own (hparts.symm.trans hexchanges)
    obtain ⟨between, hfirst, hlast⟩ := Host.answers_append_iff.1 hbefore
    obtain ⟨rfl, hstate⟩ := Host.answers_singleton_iff.1 hlast
    obtain ⟨body, haccepted, hread⟩ := hfound.yields
    obtain ⟨document, hdocument, rfl⟩ := hserver.found ref between body haccepted
    have howns : identity.Owns ref.kind (objects between) := by
      unfold Identity.Owns
      rw [← href, ← hreads.uid, controlled_iff hdocument (decode_document hread)]
      exact hfound.controls
    refine ⟨href, ⟨state, .fetch ref, between, _⟩, ?_, ⟨rfl, howns⟩, hstate.symm, fun hsame => ?_⟩
    · rw [hexchanges, Host.moments_append hbefore, Host.moments_append hfirst]
      exact List.mem_append_left _ (List.mem_append_right _ List.mem_cons_self)
    · rw [href] at hsame
      exact (Identity.owns_congr hsame).2 howns

/-- A daemon set without a controller. -/
def strangeDaemonSet : Json :=
  .obj
    [("apiVersion", .str "apps/v1"), ("kind", .str "DaemonSet"),
      ("metadata", .obj [("name", .str "sample"), ("namespace", .str "agents")])]

/-- The cluster of the sample agent, with another client that writes to it after the sixth request
of a pass, which is the GET of the daemon set. -/
def busySample (writes : List Write) : Busy := ⟨sampleStore, List.replicate 6 [] ++ [writes]⟩

/-- A request is determined by its method and its object. -/
theorem eq_delete {request : Request} {ref : ObjectRef} (hmethod : request.method = "DELETE")
    (href : request.ref? = some ref) : request = .delete ref := by
  cases request with
  | delete other => rw [Option.some.inj href]
  | fetch | apply | patchStatus | createEvent => simp [Request.method] at hmethod

/-- A daemon set that the sample agent controls is removed while another client writes to other
objects. -/
theorem own_removed :
    let world := busySample [.put ⟨.daemonSet, "agents", "other"⟩ strangeDaemonSet]
    let host := Cluster.busyHost ⟨0, 0⟩
    ∃ removal ∈ host.moments world world (sampleIdentity.exchanges host {} world),
      removal.request = .delete ⟨.daemonSet, "agents", "sample"⟩ ∧
        sampleIdentity.Owns .daemonSet removal.before.met.get? := by
  intro world host
  have hfits : sampleIdentity.Fits world.met.get? :=
    Identity.fits_of_decode rfl decode_sample_entries rfl rfl rfl
  have hremoval : ∃ removal ∈ host.moments world world (sampleIdentity.exchanges host {} world),
      removal.request.method = "DELETE" ∧
        removal.request.ref? = some ⟨.daemonSet, "agents", "sample"⟩ := by
    decide +kernel
  obtain ⟨removal, hmem, hmethod, href⟩ := hremoval
  have hrequest := eq_delete hmethod href
  obtain ⟨-, look, hlook, hfinds, hnext, howns⟩ :=
    delete_follows_find (Cluster.truthful_busy_host ⟨0, 0⟩) hfits {} hmem hrequest
  refine ⟨removal, hmem, hrequest, howns ?_⟩
  rw [← hnext, (Host.of_mem_moments hlook).2.2]
  refine Cluster.get?_met_served ⟨0, 0⟩ (by rw [hfinds.request]; nofun) fun writes hwrites => ?_
  -- none of the writes of the other client is about the daemon set
  have hcoming : ∀ writes ∈ world.coming, ∀ write ∈ writes,
      write.ref ≠ ⟨.daemonSet, "agents", "sample"⟩ := by
    decide
  exact hcoming writes (Cluster.mem_coming_of_moments hlook hwrites)

/-- A daemon set without a controller is removed if another client puts it in place of the agent's
own after the GET of that. -/
theorem stranger_removed :
    let world := busySample [.put ⟨.daemonSet, "agents", "sample"⟩ strangeDaemonSet]
    let host := Cluster.busyHost ⟨0, 0⟩
    sampleIdentity.Fits world.met.get? ∧
      ∃ removal ∈ host.moments world world (sampleIdentity.exchanges host {} world),
        removal.request = .delete ⟨.daemonSet, "agents", "sample"⟩ ∧
          removal.before.met.get? ⟨.daemonSet, "agents", "sample"⟩ ≠ none ∧
          ¬ sampleIdentity.Owns .daemonSet removal.before.met.get? ∧
          removal.after.met.get? ⟨.daemonSet, "agents", "sample"⟩ = none := by
  intro world host
  have hremoval : ∃ removal ∈ host.moments world world (sampleIdentity.exchanges host {} world),
      removal.request.method = "DELETE" ∧
        removal.request.ref? = some ⟨.daemonSet, "agents", "sample"⟩ ∧
        (removal.before.met.get? ⟨.daemonSet, "agents", "sample"⟩).isSome = true ∧
        ¬ sampleIdentity.Owns .daemonSet removal.before.met.get? ∧
        (removal.after.met.get? ⟨.daemonSet, "agents", "sample"⟩).isNone = true := by
    decide +kernel
  obtain ⟨removal, hmem, hmethod, href, hthere, hstrange, hgone⟩ := hremoval
  exact ⟨Identity.fits_of_decode rfl decode_sample_entries rfl rfl rfl, removal, hmem,
    eq_delete hmethod href, Option.isSome_iff_ne_none.1 hthere, hstrange,
    Option.isNone_iff_eq_none.1 hgone⟩

end AgentOperator.Transcript
