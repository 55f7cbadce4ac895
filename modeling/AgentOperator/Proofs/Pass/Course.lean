import AgentOperator.Proofs.Pass.Quiescence
import AgentOperator.Proofs.Pass.Succession

/-!
# One workload at a time

The two kinds of workload of an agent while its resource is edited and passes over it succeed and
fail (`Course`). The agent gets both only by a request that applies its deployment before the daemon
set of an earlier mode is removed: `Orderly.one_workload` is the step lemma for one request, and
`Course.one_workload` the run lemma for all of them. `FaultlessPass.one_workload` says that a
faultless pass does not leave both.
-/

namespace AgentOperator.Transcript

open Api (Kind ObjectRef Request)
open Cluster (Contained Serves)

variable {σ : Type} {host : Host σ} {objects : σ → ObjectRef → Option Json}
  {state final start : σ} {identity : Identity}

/-- The store does not hold both a deployment and a daemon set that the agent controls. -/
def Identity.OneWorkload (identity : Identity) (store : ObjectRef → Option Json) : Prop :=
  ¬ (identity.Owns .deployment store ∧ identity.Owns .daemonSet store)

instance (identity : Identity) (store : ObjectRef → Option Json) :
    Decidable (identity.OneWorkload store) :=
  inferInstanceAs (Decidable (¬ _))

/-- A request that applies the deployment of an agent while there is a daemon set of the agent, and
leaves a deployment of the agent. -/
structure Overtakes (objects : σ → ObjectRef → Option Json) (identity : Identity)
    (moment : Moment σ) : Prop where
  applies : ∃ desired, moment.request = .apply (identity.object .deployment) desired
  daemonSet : identity.Owns .daemonSet (objects moment.before)
  deployment : identity.Owns .deployment (objects moment.after)

/-- The agent of a store is to run as a deployment, and has the daemon set of an earlier mode. -/
def Switches (identity : Identity) (store : ObjectRef → Option Json) : Prop :=
  (∃ agent, identity.Reads store agent ∧ agent.spec.mode = .deployment) ∧
    identity.Owns .daemonSet store

/-- The requests of passes over an agent are orderly: each is one that a pass may send and does what
a server does; a daemon set is applied where there is no deployment, and a deployment is applied
beside a daemon set only if the pass began with one. -/
structure Orderly (objects : σ → ObjectRef → Option Json) (identity : Identity)
    (moment : Moment σ) : Prop where
  issues : ∃ mode, Issues identity.inNamespace identity.name mode moment.request
  served : ∃ host : Host σ, Contained host objects ∧
    moment.after = (host.serve moment.request moment.before).2
  successive : Successive objects identity moment
  switches : Overtakes objects identity moment → Switches identity (objects moment.start)

/-- All requests of a pass over an agent are orderly, whichever of them fail. -/
theorem orderly_pass (hserver : Contained host objects) (hfits : identity.Fits (objects state))
    (settings : Settings) :
    ∀ moment ∈ host.moments state state (identity.exchanges host settings state),
      Orderly objects identity moment := by
  have hanswers : host.Answers state (identity.exchanges host settings state)
      (passOutcome host settings identity.inNamespace identity.name state).state :=
    Activity.run_answers ..
  intro moment hmem
  obtain ⟨hstart, ⟨exchange, hexchange, hrequest⟩, hafter⟩ := Host.of_mem_moments hmem
  rcases Identity.pass_parts hserver.toTruthful hfits settings with hagent |
    ⟨agent, looked, sent, events, hexchanges, hreads, hcarries⟩
  · have hfetch : moment.request = .fetch identity.agent := hrequest.trans (hagent _ hexchange)
    refine ⟨⟨.deployment, ?_⟩, ⟨host, hserver, hafter⟩, ?_, fun hovertakes => ?_⟩
    · rw [hfetch]
      exact .agent
    · intro desired happly
      rw [hfetch] at happly
      cases happly
    · obtain ⟨desired, happly⟩ := hovertakes.applies
      rw [hfetch] at happly
      cases happly
  · rw [hexchanges] at hanswers hmem hexchange
    refine ⟨⟨agent.spec.mode, ?_⟩, ⟨host, hserver, hafter⟩,
      hcarries.successive hserver hreads.uid hanswers moment hmem, fun hovertakes => ?_⟩
    · rw [hrequest]
      exact hcarries.issues hexchange
    · -- in the mode in which a deployment is applied no daemon set is
      obtain ⟨desired, happly⟩ := hovertakes.applies
      have hmode : agent.spec.mode = .deployment :=
        hcarries.mode_eq .deployment hexchange (hrequest.symm.trans happly)
      rw [hstart]
      refine ⟨⟨agent, hreads, hmode⟩, ?_⟩
      refine owns_start hserver (by decide) (fun _ => hcarries.issues) ?_ hmem hovertakes.daemonSet
      intro other hother document heq
      cases hmode.symm.trans (hcarries.mode_eq .daemonSet hother heq)

/-- An orderly request preserves that the agent has one workload, unless it applies a deployment
beside a daemon set. -/
theorem Orderly.one_workload {moment : Moment σ} (h : Orderly objects identity moment)
    (hbefore : identity.OneWorkload (objects moment.before))
    (hovertakes : ¬ Overtakes objects identity moment) :
    identity.OneWorkload (objects moment.after) := by
  intro hboth
  obtain ⟨hdeployment, hdaemonSet⟩ := hboth
  obtain ⟨mode, hissues⟩ := h.issues
  obtain ⟨host, hserver, hafter⟩ := h.served
  rw [hafter] at hdeployment hdaemonSet
  by_cases happly : ∃ desired, moment.request = .apply (identity.object .daemonSet) desired
  · obtain ⟨desired, happly⟩ := happly
    refine h.successive desired happly (owns_before hserver (by decide) hissues ?_ hdeployment)
    intro document heq
    rw [happly] at heq
    cases heq
  · have hstale := owns_before hserver (by decide) hissues
      (fun desired heq => happly ⟨desired, heq⟩) hdaemonSet
    by_cases hlater : ∃ desired, moment.request = .apply (identity.object .deployment) desired
    · refine hovertakes ⟨hlater, hstale, ?_⟩
      rw [hafter]
      exact hdeployment
    · exact hbefore ⟨owns_before hserver (by decide) hissues
        (fun desired heq => hlater ⟨desired, heq⟩) hdeployment, hstale⟩

/-- Orderly requests in a row preserve that the agent has one workload, unless one of them applies a
deployment beside a daemon set. -/
theorem one_workload_moments {exchanges : List Exchange}
    (hanswers : host.Answers state exchanges final)
    (horderly : ∀ moment ∈ host.moments start state exchanges, Orderly objects identity moment)
    (hovertakes : ∀ moment ∈ host.moments start state exchanges,
      ¬ Overtakes objects identity moment)
    (hstate : identity.OneWorkload (objects state)) :
    (∀ moment ∈ host.moments start state exchanges,
      identity.OneWorkload (objects moment.after)) ∧ identity.OneWorkload (objects final) := by
  induction hanswers with
  | nil state => exact ⟨nofun, hstate⟩
  | cons request hanswers ih =>
      simp only [Host.moments, List.forall_mem_cons] at horderly hovertakes ⊢
      have hafter := horderly.1.one_workload hstate hovertakes.1
      obtain ⟨hothers, hfinal⟩ := ih horderly.2 hovertakes.2 hafter
      exact ⟨⟨hafter, hothers⟩, hfinal⟩

/-- A course of events for an agent and its objects: edits of the resource and passes over it, in
any order, each pass with any server that keeps the store and any settings. A pass may be abandoned
after any of its requests. The moments are those of all passes. -/
inductive Course (objects : σ → ObjectRef → Option Json) (identity : Identity) :
    σ → List (Moment σ) → σ → Prop where
  | begin {start : σ} : Course objects identity start [] start
  | edit {start state later : σ} {moments : List (Moment σ)}
      (h : Course objects identity start moments state)
      (hkept : ∀ ref, ref ≠ identity.agent → objects later ref = objects state ref) :
      Course objects identity start moments later
  | pass {start state later : σ} {moments : List (Moment σ)} {host : Host σ}
      {done rest : List Exchange} (settings : Settings)
      (h : Course objects identity start moments state) (hserver : Contained host objects)
      (hfits : identity.Fits (objects state))
      (hpass : identity.exchanges host settings state = done ++ rest)
      (hanswers : host.Answers state done later) :
      Course objects identity start (moments ++ host.moments state state done) later

/-- All requests of a course are orderly. -/
theorem Course.orderly {moments : List (Moment σ)}
    (h : Course objects identity start moments final) :
    ∀ moment ∈ moments, Orderly objects identity moment := by
  induction h with
  | begin => nofun
  | edit h hkept ih => exact ih
  | pass settings h hserver hfits hpass hanswers ih =>
      intro moment hmem
      rcases List.mem_append.1 hmem with hmem | hmem
      · exact ih moment hmem
      · refine orderly_pass hserver hfits settings moment ?_
        rw [hpass, Host.moments_append hanswers]
        exact List.mem_append_left _ hmem

/-- A course preserves that the agent has one workload, unless a request of it applies a deployment
beside a daemon set. -/
theorem Course.one_workload {moments : List (Moment σ)}
    (h : Course objects identity start moments final)
    (hovertakes : ∀ moment ∈ moments, ¬ Overtakes objects identity moment)
    (hstart : identity.OneWorkload (objects start)) :
    (∀ moment ∈ moments, identity.OneWorkload (objects moment.after)) ∧
      identity.OneWorkload (objects final) := by
  have horderly := h.orderly
  induction h with
  | begin => exact ⟨nofun, hstart⟩
  | edit h hkept ih =>
      obtain ⟨hmoments, hstate⟩ := ih hovertakes horderly
      refine ⟨hmoments, fun hboth => hstate ?_⟩
      exact ⟨(Identity.owns_congr (hkept _ (ref_ne (by decide)))).1 hboth.1,
        (Identity.owns_congr (hkept _ (ref_ne (by decide)))).1 hboth.2⟩
  | pass settings h hserver hfits hpass hanswers ih =>
      rw [List.forall_mem_append] at hovertakes horderly ⊢
      obtain ⟨hmoments, hstate⟩ := ih hovertakes.1 horderly.1
      obtain ⟨hothers, hfinal⟩ :=
        one_workload_moments hanswers horderly.2 hovertakes.2 hstate
      exact ⟨⟨hmoments, hothers⟩, hfinal⟩

/-- A request that applies a deployment beside a daemon set leaves both. -/
theorem Orderly.both_of_overtakes {moment : Moment σ} (h : Orderly objects identity moment)
    (hovertakes : Overtakes objects identity moment) :
    ¬ identity.OneWorkload (objects moment.after) := by
  obtain ⟨desired, happly⟩ := hovertakes.applies
  obtain ⟨host, hserver, hafter⟩ := h.served
  have hframe : objects moment.after (identity.object .daemonSet) =
      objects moment.before (identity.object .daemonSet) := by
    rw [hafter, happly]
    refine hserver.frame _ _ _ (show Kind.daemonSet ≠ .agent by decide) fun heq => ?_
    cases Option.some.inj heq
  exact not_not_intro
    ⟨hovertakes.deployment, (Identity.owns_congr hframe).2 hovertakes.daemonSet⟩

/-- An agent that has one workload at first has one after every request of every pass, through all
edits and failures, if and only if no request applies a deployment where there is a daemon set; and
no request does that but in a pass that begins with a daemon set of the agent while the mode asks
for a deployment. -/
theorem one_workload_iff {moments : List (Moment σ)}
    (h : Course objects identity start moments final)
    (hstart : identity.OneWorkload (objects start)) :
    ((∀ moment ∈ moments, identity.OneWorkload (objects moment.after)) ↔
        ∀ moment ∈ moments, ¬ Overtakes objects identity moment) ∧
      ∀ moment ∈ moments, Overtakes objects identity moment →
        Switches identity (objects moment.start) := by
  have horderly := h.orderly
  constructor
  · constructor
    · intro hone moment hmem hovertakes
      exact (horderly moment hmem).both_of_overtakes hovertakes (hone moment hmem)
    · intro hovertakes
      exact (h.one_workload hovertakes hstart).1
  · exact fun moment hmem => (horderly moment hmem).switches

/-- A faultless pass leaves one workload of the agent, even if there were two. -/
theorem FaultlessPass.one_workload {settings : Settings} {inNamespace name : String}
    {entries : List (String × Json)} {agent : Agent} (hserver : Serves host objects)
    (h : FaultlessPass host objects settings inNamespace name state entries agent) :
    Identity.OneWorkload ⟨inNamespace, name, agent.metadata.uid⟩
      (objects (passOutcome host settings inNamespace name state).state) := by
  have hconverged := h.converged hserver
  intro hboth
  cases hmode : agent.spec.mode with
  | deployment => exact (hconverged.deployment hmode).2.not_controlled hboth.2
  | daemonSet => exact (hconverged.daemonSet hmode).2.not_controlled hboth.1

/-- A course continues with a pass that is run to its end. -/
theorem Course.whole_pass {moments : List (Moment σ)}
    (h : Course objects identity start moments state) (hserver : Contained host objects)
    (hfits : identity.Fits (objects state)) (settings : Settings) :
    Course objects identity start
      (moments ++ host.moments state state (identity.exchanges host settings state))
      (passOutcome host settings identity.inNamespace identity.name state).state :=
  .pass settings h hserver hfits (List.append_nil _).symm (Activity.run_answers ..)

/-- The entries of the document of the sample agent after its mode was edited. -/
def editedEntries : List (String × Json) :=
  Entries.upsert "spec" (.obj [("mode", .str "daemonset")]) sampleEntries

/-- The sample agent with the edited mode. -/
def editedAgent : Agent := { sampleAgent with spec := { mode := .daemonSet } }

/-- The edited document is that of the edited agent. -/
theorem decode_edited_entries : Agent.codec.decode (.obj editedEntries) = .ok editedAgent := rfl

/-- A store after the mode of the sample agent was edited in it. -/
def edited (store : Cluster.Store ObjectRef) : Cluster.Store ObjectRef :=
  store.put sampleIdentity.agent (.obj editedEntries)

/-- The edit replaces the resource of the sample agent. -/
theorem edited_agent (store : Cluster.Store ObjectRef) :
    (edited store).get? sampleIdentity.agent = some (.obj editedEntries) :=
  (Cluster.Store.get?_put ..).trans (if_pos rfl)

/-- The edit leaves all other objects unchanged. -/
theorem edited_of_ne (store : Cluster.Store ObjectRef) {ref : ObjectRef}
    (href : ref ≠ sampleIdentity.agent) : (edited store).get? ref = store.get? ref :=
  (Cluster.Store.get?_put ..).trans (if_neg href)

/-- The edited resource is that of the sample agent. -/
theorem edited_fits (store : Cluster.Store ObjectRef) :
    sampleIdentity.Fits (edited store).get? :=
  Identity.fits_of_decode (edited_agent store) decode_edited_entries rfl rfl rfl

/-- The mode of the edited agent is not that of a deployment. -/
theorem edited_not_switches (store : Cluster.Store ObjectRef) :
    ¬ Switches sampleIdentity (edited store).get? := by
  intro hswitches
  obtain ⟨⟨agent, ⟨⟨document, hstored, hdecode⟩, -⟩, hmode⟩, -⟩ := hswitches
  obtain rfl := Option.some.inj ((edited_agent store).symm.trans hstored)
  obtain rfl := Except.ok.inj (decode_edited_entries.symm.trans hdecode)
  cases hmode

/-- Whether a request is a DELETE. -/
def isDeletion : Request → Bool
  | .delete _ => true
  | _ => false

/-- The mode of the sample agent is edited, the next pass cannot remove the deployment, and the one
after that can. After every request the agent has one workload at most. -/
theorem sample_succession :
    ∃ start moments final,
      Course Cluster.Store.get? sampleIdentity start moments final ∧
        sampleIdentity.OneWorkload start.get? ∧
        ∀ moment ∈ moments, sampleIdentity.OneWorkload moment.after.get? := by
  let start : Cluster.Store ObjectRef := ⟨[(sampleIdentity.agent, .obj sampleEntries)]⟩
  have hstart : sampleIdentity.OneWorkload start.get? :=
    fun hboth => not_controlled_of_none rfl hboth.1
  have hbegins : sampleIdentity.Fits start.get? :=
    Identity.fits_of_decode rfl decode_sample_entries rfl rfl rfl
  have hfirst := Course.begin.whole_pass (Cluster.contained_failing_host ⟨0, 0⟩ fun _ => false)
    hbegins {}
  have hsecond := (hfirst.edit fun _ => edited_of_ne _).whole_pass
    (Cluster.contained_failing_host ⟨60, 0⟩ isDeletion) (edited_fits _) {}
  have hthird := (hsecond.edit fun _ => edited_of_ne _).whole_pass
    (Cluster.contained_failing_host ⟨120, 0⟩ fun _ => false) (edited_fits _) {}
  refine ⟨start, _, _, hthird, hstart, ?_⟩
  obtain ⟨hiff, hswitches⟩ := one_workload_iff hthird hstart
  refine hiff.2 fun moment hmem hovertakes => ?_
  have hswitch := hswitches moment hmem hovertakes
  rcases List.mem_append.1 hmem with hmem | hmem
  · rcases List.mem_append.1 hmem with hmem | hmem
    · -- there is no daemon set when the first pass begins
      rw [List.nil_append] at hmem
      rw [(Host.of_mem_moments hmem).1] at hswitch
      exact not_controlled_of_none rfl hswitch.2
    · rw [(Host.of_mem_moments hmem).1] at hswitch
      exact edited_not_switches _ hswitch
  · rw [(Host.of_mem_moments hmem).1] at hswitch
    exact edited_not_switches _ hswitch

/-- Whether a request is the GET of a daemon set. -/
def readsDaemonSet : Request → Bool
  | .fetch ref => ref.kind = .daemonSet
  | _ => false

/-- An agent may have both workloads: its deployment is applied while there is the daemon set of an
earlier mode, and both stay if the GET of the daemon set fails. -/
theorem both_workloads :
    ∃ moments final,
      Course Cluster.Store.get? sampleIdentity sampleStore moments final ∧
        sampleIdentity.OneWorkload sampleStore.get? ∧
        (∃ moment ∈ moments, ¬ sampleIdentity.OneWorkload moment.after.get?) ∧
        ¬ sampleIdentity.OneWorkload final.get? := by
  have hfits : sampleIdentity.Fits sampleStore.get? :=
    Identity.fits_of_decode rfl decode_sample_entries rfl rfl rfl
  have hcourse := Course.begin.whole_pass (Cluster.contained_failing_host ⟨0, 0⟩ readsDaemonSet)
    hfits {}
  have hstart : sampleIdentity.OneWorkload sampleStore.get? := by decide +kernel
  have hfinal : ¬ sampleIdentity.OneWorkload (passOutcome
      (Cluster.failingHost ⟨0, 0⟩ readsDaemonSet) {} "agents" "sample" sampleStore).state.get? := by
    decide +kernel
  refine ⟨_, _, hcourse, hstart, ?_, hfinal⟩
  by_contra hnone
  refine hfinal (hcourse.one_workload (fun moment hmem hovertakes => hnone ?_) hstart).2
  exact ⟨moment, hmem, (hcourse.orderly moment hmem).both_of_overtakes hovertakes⟩

end AgentOperator.Transcript
