import AgentOperator.Proofs.Pass.Course
import AgentOperator.Proofs.Pass.Ownership

/-!
# What earlier desired states leave behind

The objects that an agent controls after a sequence of edits and faultless passes (`History`). A
pass makes the objects of its desired state, and it removes a workload that this does not have
(`FaultlessPass.owns_iff`); but the stage of the service account removes nothing. So the objects
after the last pass are those after one pass over the last desired state, and in addition the
service account of the agent if any earlier pass has made one: `History.remembers` is the invariant,
and `history_leaves` the conclusion.
-/

namespace AgentOperator

open Api (Kind ObjectRef RequestFault ResourceType)
open Cluster (Serves)
open Kubernetes

namespace Transcript

variable {σ : Type} {host : Host σ} {objects : σ → ObjectRef → Option Json}
  {state final start : σ} {identity : Identity}

/-- The kinds of objects of the desired state of an agent. -/
def Wants (agent : Agent) : Kind → Prop
  | .configMap | .service => True
  | .serviceAccount => OwnAccount agent
  | .deployment => agent.spec.mode = .deployment
  | .daemonSet => agent.spec.mode = .daemonSet
  | .agent => False

/-- `Wants` depends on the desired state only. -/
theorem wants_congr {agent other : Agent} (h : other.spec = agent.spec) (kind : Kind) :
    Wants other kind ↔ Wants agent kind := by
  unfold Wants OwnAccount
  rw [h]

/-- The metadata of the objects of an agent has it as the controller. -/
theorem controls_owned_metadata (settings : Settings) {agent : Agent} {uid name : String}
    (huid : agent.metadata.uid = some uid) (hname : agent.metadata.name = some name)
    (label : String) : Controls (some uid) (ownedMetadata settings agent label) := by
  unfold ownedMetadata Agent.controllerReference?
  rw [huid, hname]
  exact ⟨_, List.mem_singleton.2 rfl, rfl, rfl⟩

/-- An agent without a unique id controls nothing. -/
theorem Controlled.uid_ne_none {α : Type} {type : ResourceType α} {ref : ObjectRef}
    {uid : Option String} {store : ObjectRef → Option Json}
    (h : Controlled type ref uid store) : uid ≠ none := by
  obtain ⟨document, object, -, -, owner, -, -, huid⟩ := h
  rw [← huid]
  nofun

section Stages

variable {α : Type} (settings : Settings) (agent : Agent)

/-- An object, if there is one, is written without a status and with the metadata of the objects of
an agent. -/
def IsBuilt (type : ResourceType α) (desired : Option α) : Prop :=
  ∀ object, desired = some object → IsStatusless type object ∧
    type.metadata object = ownedMetadata settings agent (Naming.labelOf agent.name)

/-- The config map is built. -/
theorem is_built_config_map :
    IsBuilt settings agent .configMap (some (agentConfigMap settings agent)) := by
  rintro object ⟨⟩
  exact ⟨is_statusless_config_map _, rfl⟩

/-- The service account is built if the resource names none. -/
theorem is_built_service_account (h : OwnAccount agent) :
    IsBuilt settings agent .serviceAccount (agentServiceAccount? settings agent) := by
  intro object hobject
  obtain ⟨account, haccount, hmetadata⟩ := agent_service_account?_eq_some settings h
  obtain rfl := Option.some.inj (haccount.symm.trans hobject)
  exact ⟨is_statusless_service_account _, hmetadata⟩

/-- The service is built. -/
theorem is_built_service : IsBuilt settings agent .service (agentService? settings agent) := by
  intro object hobject
  obtain ⟨service, hservice, hmetadata⟩ := agent_service?_eq_some settings agent
  obtain rfl := Option.some.inj (hservice.symm.trans hobject)
  exact ⟨is_statusless_service _, hmetadata⟩

/-- The deployment of an agent that runs as one is built. -/
theorem is_built_deployment (hmode : agent.spec.mode = .deployment) :
    IsBuilt settings agent .deployment (agentDeployment? settings agent) := by
  intro object hobject
  obtain ⟨⟨deployment, hdeployment, hmetadata, -⟩, -⟩ := workload_of_deployment settings hmode
  obtain rfl := Option.some.inj (hdeployment.symm.trans hobject)
  exact ⟨is_statusless_agent_deployment settings hobject, hmetadata⟩

/-- The daemon set of an agent that runs as one is built. -/
theorem is_built_daemon_set (hmode : agent.spec.mode = .daemonSet) :
    IsBuilt settings agent .daemonSet (agentDaemonSet? settings agent) := by
  intro object hobject
  obtain ⟨⟨daemonSet, hdaemonSet, hmetadata, -⟩, -⟩ := workload_of_daemon_set settings hmode
  obtain rfl := Option.some.inj (hdaemonSet.symm.trans hobject)
  exact ⟨is_statusless_agent_daemon_set settings hobject, hmetadata⟩

variable {settings agent} {unsent : RequestFault → Prop} {shown : Instant → Prop}
  {inNamespace name uid : String} {exchanges : List Exchange} (hserver : Serves host objects)
  (huid : agent.metadata.uid = some uid) (hname : agent.metadata.name = some name)

include hserver huid hname

/-- A built object that was applied is controlled by the agent. -/
theorem Applies.controlled_of_is_built {type : ResourceType α} {ref : ObjectRef}
    {desired : Option α} (h : Applies unsent type ref desired exchanges (.ok ()))
    (hanswers : host.Answers state exchanges final) (htype : type.KeepsMetadata)
    (hbuilt : IsBuilt settings agent type desired) :
    Controlled type ref (some uid) (objects final) := by
  refine h.controlled hserver hanswers htype (fun object hobject => (hbuilt object hobject).1) ?_
  intro object hobject
  rw [(hbuilt object hobject).2]
  exact controls_owned_metadata settings huid hname _

/-- After the stages of a pass the agent controls the objects of its desired state. -/
theorem Done.controlled
    (h : Done host (stages unsent shown settings agent inNamespace name) state exchanges final)
    {kind : Kind} (hwants : Wants agent kind) :
    Controlled (typeOf kind).2 ⟨kind, inNamespace, Naming.labelOf name⟩ (some uid)
      (objects final) := by
  -- the stages behind that of the kind leave its object unchanged
  cases kind with
  | configMap =>
      obtain ⟨_, _, _, happlies, -, hanswers, -, hafter⟩ := h.stage_turn hserver [] rfl
      refine (controlled_congr (hafter _ (by simp [taskOf]))).2 ?_
      exact happlies.controlled_of_is_built hserver huid hname hanswers
        ResourceType.keeps_metadata_config_map (is_built_config_map settings agent)
  | serviceAccount =>
      have hown : OwnAccount agent := hwants
      obtain ⟨_, _, _, happlies, -, hanswers, -, hafter⟩ := h.stage_turn hserver [_] rfl
      rw [if_pos hown] at happlies
      refine (controlled_congr (hafter _ (by simp [taskOf]))).2 ?_
      exact happlies.controlled_of_is_built hserver huid hname hanswers
        ResourceType.keeps_metadata_service_account (is_built_service_account settings agent hown)
  | service =>
      obtain ⟨_, _, _, happlies, -, hanswers, -, hafter⟩ := h.stage_turn hserver [_, _] rfl
      refine (controlled_congr (hafter _ (by simp [taskOf]))).2 ?_
      exact happlies.controlled_of_is_built hserver huid hname hanswers
        ResourceType.keeps_metadata_service (is_built_service settings agent)
  | deployment =>
      have hmode : agent.spec.mode = .deployment := hwants
      obtain ⟨_, _, _, happlies, -, hanswers, -, hafter⟩ := h.stage_turn hserver [_, _, _] rfl
      simp only [hmode] at happlies
      refine (controlled_congr (hafter _ (by simp [taskOf]))).2 ?_
      exact happlies.controlled_of_is_built hserver huid hname hanswers
        ResourceType.keeps_metadata_deployment (is_built_deployment settings agent hmode)
  | daemonSet =>
      have hmode : agent.spec.mode = .daemonSet := hwants
      obtain ⟨_, _, _, happlies, -, hanswers, -, hafter⟩ := h.stage_turn hserver [_, _, _, _] rfl
      simp only [hmode] at happlies
      refine (controlled_congr (hafter _ (by simp [taskOf]))).2 ?_
      exact happlies.controlled_of_is_built hserver huid hname hanswers
        ResourceType.keeps_metadata_daemon_set (is_built_daemon_set settings agent hmode)
  | agent => exact hwants.elim

end Stages

/-- The store holds an object that the agent controls. -/
def Identity.Holds (identity : Identity) (ref : ObjectRef) (store : ObjectRef → Option Json) :
    Prop :=
  Controlled (typeOf ref.kind).2 ref identity.uid store

instance (identity : Identity) (ref : ObjectRef) (store : ObjectRef → Option Json) :
    Decidable (identity.Holds ref store) :=
  inferInstanceAs (Decidable (Controlled ..))

section Passes

variable {settings : Settings} {entries : List (String × Json)} {agent : Agent}
  (h : FaultlessPass host objects settings identity.inNamespace identity.name state entries agent)
  (hserver : Serves host objects) (huid : agent.metadata.uid = identity.uid)

include h hserver

/-- A pass leaves all objects unchanged but the agent and its objects, and the service account if
the desired state has none. -/
theorem FaultlessPass.keeps {ref : ObjectRef} (href : ref ≠ identity.agent)
    (hobject : ∀ kind, kind ≠ .agent → ref = identity.object kind →
      kind = .serviceAccount ∧ ¬ OwnAccount agent) :
    objects (passOutcome host settings identity.inNamespace identity.name state).state ref =
      objects state ref := by
  refine (h.converged hserver).frame ref fun htouched => ?_
  rcases htouched with heq | ⟨heq, hown⟩ | heq | heq | heq | heq
  · cases (hobject .configMap nofun heq).1
  · exact (hobject .serviceAccount nofun heq).2 hown
  · cases (hobject .service nofun heq).1
  · cases (hobject .deployment nofun heq).1
  · cases (hobject .daemonSet nofun heq).1
  · exact href heq

/-- A pass does not change whether the agent is its own controller. -/
theorem FaultlessPass.holds_agent_iff :
    identity.Holds identity.agent
        (objects (passOutcome host settings identity.inNamespace identity.name state).state) ↔
      Controls identity.uid agent.metadata := by
  obtain ⟨found, stored, hsubject, hundisturbed⟩ := h.subject_left hserver
  have howners : stored.metadata.ownerReferences = agent.metadata.ownerReferences :=
    (congrArg ObjectMeta.ownerReferences hundisturbed.metadata :)
  have hiff : identity.Holds identity.agent _ ↔ Controls identity.uid stored.metadata :=
    controlled_iff hsubject.stored hsubject.reads
  rw [hiff, Controls, howners]
  rfl

include huid

/-- After a pass the agent owns the objects of its desired state and no other ones, where the
service account counts only if the desired state has it. -/
theorem FaultlessPass.owns_iff {kind : Kind} (hkind : kind ≠ .agent)
    (haccount : kind = .serviceAccount → OwnAccount agent) :
    identity.Owns kind
        (objects (passOutcome host settings identity.inNamespace identity.name state).state) ↔
      identity.uid ≠ none ∧ Wants agent kind := by
  have hconverged := h.converged hserver
  constructor
  · intro howns
    refine ⟨howns.uid_ne_none, ?_⟩
    cases kind with
    | configMap | service => trivial
    | serviceAccount => exact haccount rfl
    | deployment =>
        cases hmode : agent.spec.mode with
        | deployment => exact hmode
        | daemonSet =>
            refine absurd howns ?_
            rw [Identity.Owns, ← huid]
            exact (hconverged.daemonSet hmode).2.not_controlled
    | daemonSet =>
        cases hmode : agent.spec.mode with
        | deployment =>
            refine absurd howns ?_
            rw [Identity.Owns, ← huid]
            exact (hconverged.deployment hmode).2.not_controlled
        | daemonSet => exact hmode
    | agent => exact absurd rfl hkind
  · rintro ⟨hsome, hwants⟩
    obtain ⟨uid, hsome⟩ := Option.ne_none_iff_exists'.1 hsome
    obtain ⟨-, _, _, _, -, -, hdone⟩ := h.to_done hserver
    rw [Identity.Owns, hsome]
    exact hdone.controlled hserver (huid.trans hsome) h.hasName hwants

end Passes

/-- A pass over an agent in which no request fails, with some settings and some server that keeps
the store, from a state with the agent to another one. -/
inductive Identity.Passed (identity : Identity) (objects : σ → ObjectRef → Option Json) :
    σ → Agent → σ → Prop where
  | pass {host : Host σ} {settings : Settings} {state : σ} {entries : List (String × Json)}
      {agent : Agent} (hserver : Serves host objects)
      (h : FaultlessPass host objects settings identity.inNamespace identity.name state entries
        agent)
      (huid : agent.metadata.uid = identity.uid) :
      Passed identity objects state agent
        (passOutcome host settings identity.inNamespace identity.name state).state

/-- Edits of the resource of an agent and passes over it in which no request fails, in any order.
The agents are those that the passes were about. -/
inductive History (objects : σ → ObjectRef → Option Json) (identity : Identity) :
    σ → List Agent → σ → Prop where
  | begin {start : σ} : History objects identity start [] start
  | edit {start state later : σ} {agents : List Agent}
      (h : History objects identity start agents state)
      (hkept : ∀ ref, ref ≠ identity.agent → objects later ref = objects state ref) :
      History objects identity start agents later
  | pass {start state later : σ} {agents : List Agent} {agent : Agent}
      (h : History objects identity start agents state)
      (hpass : identity.Passed objects state agent later) :
      History objects identity start (agents ++ [agent]) later

/-- What a store shows of the passes over some agents, one after the other, if it held nothing but
the agent before: there is nothing but the agent and its objects, and the agent owns a service
account if and only if one of the passes has made it. -/
structure Remembers (identity : Identity) (agents : List Agent)
    (store : ObjectRef → Option Json) : Prop where
  others : ∀ ref, ref ≠ identity.agent → (∀ kind, kind ≠ .agent → ref ≠ identity.object kind) →
    store ref = none
  account : identity.Owns .serviceAccount store ↔
    identity.uid ≠ none ∧ ∃ agent ∈ agents, OwnAccount agent

/-- Some item of a list with one appended has a property if and only if one of the list does, or the
appended one. -/
theorem exists_mem_append_singleton {agents : List Agent} {agent : Agent}
    {property : Agent → Prop} :
    (∃ other ∈ agents ++ [agent], property other) ↔
      property agent ∨ ∃ other ∈ agents, property other := by
  simp [or_and_right, exists_or, or_comm]

/-- A pass preserves what a store remembers, with one agent more. -/
theorem Remembers.pass {agents : List Agent} {agent : Agent}
    (h : Remembers identity agents (objects state))
    (hpass : identity.Passed objects state agent final) :
    Remembers identity (agents ++ [agent]) (objects final) := by
  cases hpass with
  | pass hserver hpass huid =>
      constructor
      · intro ref href hobject
        rw [hpass.keeps hserver href fun kind hkind heq => absurd heq (hobject kind hkind)]
        exact h.others ref href hobject
      · rw [exists_mem_append_singleton]
        by_cases hown : OwnAccount agent
        · have hkind : Kind.serviceAccount ≠ .agent := by decide
          rw [hpass.owns_iff hserver huid hkind fun _ => hown]
          exact and_congr_right fun _ => ⟨fun _ => .inl hown, fun _ => hown⟩
        · -- the stage of the service account does nothing
          have href : identity.object .serviceAccount ≠ identity.agent := ref_ne (by decide)
          have hkept := hpass.keeps hserver href fun kind _ heq =>
            ⟨(congrArg ObjectRef.kind heq).symm, hown⟩
          rw [Identity.owns_congr hkept, h.account]
          exact and_congr_right fun _ => ⟨.inr, fun hsome => hsome.resolve_left hown⟩

/-- After a history that begins with nothing but the agent, the store remembers its passes. -/
theorem History.remembers {agents : List Agent}
    (h : History objects identity start agents state)
    (halone : ∀ ref, ref ≠ identity.agent → objects start ref = none) :
    Remembers identity agents (objects state) := by
  induction h with
  | begin =>
      refine ⟨fun ref href _ => halone ref href, fun howns => ?_, fun hmade => ?_⟩
      · exact absurd howns (not_controlled_of_none (halone _ (ref_ne (by decide))))
      · obtain ⟨-, agent, hmem, -⟩ := hmade
        cases hmem
  | edit h hkept ih =>
      refine ⟨fun ref href hobject => ?_, ?_⟩
      · rw [hkept ref href]
        exact ih.others ref href hobject
      · rw [Identity.owns_congr (hkept _ (ref_ne (by decide)))]
        exact ih.account
  | pass h hpass ih => exact ih.pass hpass

/-- The objects that an agent owns after a history and another pass: those of its desired state, and
a service account that an earlier pass has made. -/
theorem History.owns_iff {agents : List Agent} {agent : Agent}
    (h : History objects identity start agents state)
    (halone : ∀ ref, ref ≠ identity.agent → objects start ref = none)
    (hpass : identity.Passed objects state agent final) {kind : Kind} (hkind : kind ≠ .agent) :
    identity.Owns kind (objects final) ↔ identity.uid ≠ none ∧
      (Wants agent kind ∨ (kind = .serviceAccount ∧ ∃ earlier ∈ agents, OwnAccount earlier)) := by
  have haccount := ((h.pass hpass).remembers halone).account
  rw [exists_mem_append_singleton] at haccount
  by_cases heq : kind = .serviceAccount
  · subst heq
    simpa [Wants] using haccount
  · cases hpass with
    | pass hserver hpass huid =>
        rw [hpass.owns_iff hserver huid hkind fun hsame => absurd hsame heq]
        simp [heq]

/-- The objects that an agent controls after a history and another pass: itself if it is its own
controller, and the objects that it owns. -/
theorem History.holds_iff {agents : List Agent} {agent : Agent}
    (h : History objects identity start agents state)
    (halone : ∀ ref, ref ≠ identity.agent → objects start ref = none)
    (hpass : identity.Passed objects state agent final) (ref : ObjectRef) :
    identity.Holds ref (objects final) ↔
      (ref = identity.agent ∧ Controls identity.uid agent.metadata) ∨
      ∃ kind, kind ≠ .agent ∧ ref = identity.object kind ∧ identity.uid ≠ none ∧
        (Wants agent kind ∨ (kind = .serviceAccount ∧ ∃ earlier ∈ agents, OwnAccount earlier)) := by
  have hdifferent {kind : Kind} (hkind : kind ≠ .agent) : identity.agent ≠ identity.object kind :=
    fun heq => hkind (congrArg ObjectRef.kind heq).symm
  by_cases hagent : ref = identity.agent
  · subst hagent
    have hiff : identity.Holds identity.agent (objects final) ↔
        Controls identity.uid agent.metadata := by
      cases hpass with
      | pass hserver hpass huid => exact hpass.holds_agent_iff hserver
    rw [hiff]
    constructor
    · exact fun hcontrols => .inl ⟨rfl, hcontrols⟩
    · rintro (⟨-, hcontrols⟩ | ⟨kind, hkind, heq, -⟩)
      · exact hcontrols
      · exact absurd heq (hdifferent hkind)
  · by_cases hobject : ∃ kind, kind ≠ .agent ∧ ref = identity.object kind
    · obtain ⟨kind, hkind, rfl⟩ := hobject
      refine (h.owns_iff halone hpass hkind).trans ⟨fun howns => ?_, ?_⟩
      · exact .inr ⟨kind, hkind, rfl, howns⟩
      · rintro (⟨heq, -⟩ | ⟨other, -, heq, howns⟩)
        · exact absurd heq hagent
        · obtain rfl : kind = other := congrArg ObjectRef.kind heq
          exact howns
    · -- there never was such an object
      have hnone : objects final ref = none :=
        ((h.pass hpass).remembers halone).others ref hagent fun kind hkind heq =>
          hobject ⟨kind, hkind, heq⟩
      constructor
      · exact fun hholds => absurd hholds (not_controlled_of_none hnone)
      · rintro (⟨heq, -⟩ | ⟨kind, hkind, heq, -⟩)
        · exact absurd heq hagent
        · exact absurd ⟨kind, hkind, heq⟩ hobject

/-- After a history that begins with nothing but the agent, and another pass, the agent controls the
objects that it controls after one pass over the same desired state in a store with nothing but the
agent, and in addition its service account if an earlier pass has made that. So both are the same if
and only if the last desired state has a service account or no earlier one had. -/
theorem history_leaves {once last single : σ} {agents : List Agent} {agent other : Agent}
    (h : History objects identity start agents state)
    (halone : ∀ ref, ref ≠ identity.agent → objects start ref = none)
    (hlast : identity.Passed objects state agent last)
    (honce : ∀ ref, ref ≠ identity.agent → objects once ref = none)
    (hsingle : identity.Passed objects once other single) (hspec : other.spec = agent.spec)
    (howners : other.metadata.ownerReferences = agent.metadata.ownerReferences) :
    (∀ ref, identity.Holds ref (objects last) ↔
      identity.Holds ref (objects single) ∨
        (ref = identity.object .serviceAccount ∧ identity.uid ≠ none ∧
          ∃ earlier ∈ agents, OwnAccount earlier)) ∧
    ((∀ ref, identity.Holds ref (objects last) ↔ identity.Holds ref (objects single)) ↔
      identity.uid = none ∨ OwnAccount agent ∨ ∀ earlier ∈ agents, ¬ OwnAccount earlier) := by
  have hcontrols : Controls identity.uid other.metadata ↔ Controls identity.uid agent.metadata := by
    unfold Controls
    rw [howners]
  have hfinal (ref : ObjectRef) := h.holds_iff halone hlast ref
  have hfresh (ref : ObjectRef) := History.begin.holds_iff honce hsingle ref
  simp only [hcontrols, wants_congr hspec, List.not_mem_nil, false_and, exists_false, and_false,
    or_false] at hfresh
  have hleft (ref : ObjectRef) : identity.Holds ref (objects last) ↔
      identity.Holds ref (objects single) ∨
        (ref = identity.object .serviceAccount ∧ identity.uid ≠ none ∧
          ∃ earlier ∈ agents, OwnAccount earlier) := by
    rw [hfinal, hfresh]
    constructor
    · rintro (hagent | ⟨kind, hkind, heq, hsome, hwants | ⟨rfl, hmade⟩⟩)
      · exact .inl (.inl hagent)
      · exact .inl (.inr ⟨kind, hkind, heq, hsome, hwants⟩)
      · exact .inr ⟨heq, hsome, hmade⟩
    · rintro ((hagent | ⟨kind, hkind, heq, hsome, hwants⟩) | ⟨heq, hsome, hmade⟩)
      · exact .inl hagent
      · exact .inr ⟨kind, hkind, heq, hsome, .inl hwants⟩
      · exact .inr ⟨.serviceAccount, nofun, heq, hsome, .inr ⟨rfl, hmade⟩⟩
  have haccount : identity.Holds (identity.object .serviceAccount) (objects single) ↔
      identity.uid ≠ none ∧ OwnAccount agent := by
    rw [hfresh]
    constructor
    · rintro (⟨heq, -⟩ | ⟨kind, -, heq, hsome, hwants⟩)
      · exact absurd heq (ref_ne (by decide))
      · obtain rfl : Kind.serviceAccount = kind := congrArg ObjectRef.kind heq
        exact ⟨hsome, hwants⟩
    · rintro ⟨hsome, hown⟩
      exact .inr ⟨.serviceAccount, nofun, rfl, hsome, hown⟩
  refine ⟨hleft, fun hsame => ?_, fun hcase ref => ?_⟩
  · -- the service account tells
    by_contra hcase
    obtain ⟨hsome, hcase⟩ := not_or.1 hcase
    obtain ⟨hown, hmade⟩ := not_or.1 hcase
    have hmade : ∃ earlier ∈ agents, OwnAccount earlier := by
      simpa only [not_forall, exists_prop, not_not] using hmade
    have hheld := (hsame _).1 ((hleft _).2 (.inr ⟨rfl, hsome, hmade⟩))
    exact hown (haccount.1 hheld).2
  · rw [hleft]
    refine ⟨?_, .inl⟩
    rintro (hheld | ⟨rfl, hsome, earlier, hmem, hmade⟩)
    · exact hheld
    · rcases hcase with hnone | hown | hnever
      · exact absurd hnone hsome
      · exact haccount.2 ⟨hsome, hown⟩
      · exact absurd hmade (hnever earlier hmem)

/-- A store in which the desired state of an agent was edited. -/
def respecified (identity : Identity) (spec : Json) (store : Cluster.Store ObjectRef) :
    Cluster.Store ObjectRef :=
  match store.get? identity.agent with
  | some (.obj entries) => store.put identity.agent (.obj (Entries.upsert "spec" spec entries))
  | _ => store

/-- An edit of the desired state leaves all other objects unchanged. -/
theorem respecified_of_ne {ref : ObjectRef} (spec : Json) (store : Cluster.Store ObjectRef)
    (href : ref ≠ identity.agent) :
    (respecified identity spec store).get? ref = store.get? ref := by
  unfold respecified
  split
  · exact (Cluster.Store.get?_put ..).trans (if_neg href)
  · rfl

/-- The cluster after a pass over an agent. -/
def passOver (identity : Identity) (now : Instant) (store : Cluster.Store ObjectRef) :
    Cluster.Store ObjectRef :=
  (passOutcome (Cluster.host now) {} identity.inNamespace identity.name store).state

section Subjects

variable {store : Cluster.Store ObjectRef} {entries : List (String × Json)} {agent : Agent}
  (h : Subject Cluster.Store.get? identity.inNamespace identity.name store entries agent)
  (hreadable : Readable identity.inNamespace identity.name store)

include h hreadable

/-- The agent with the edited desired state is the subject of a pass. -/
theorem Subject.respecified {j : Json} {spec : AgentSpec}
    (hspec : AgentSpec.codec.decode j = .ok spec) :
    Subject Cluster.Store.get? identity.inNamespace identity.name
        (Transcript.respecified identity j store) (Entries.upsert "spec" j entries)
        { agent with spec := spec } ∧
      Readable identity.inNamespace identity.name (Transcript.respecified identity j store) := by
  have hreads := Agent.decode_upsert_spec h.reads hspec
  have hstore : Transcript.respecified identity j store =
      store.put identity.agent (.obj (Entries.upsert "spec" j entries)) := by
    rw [Transcript.respecified, show store.get? identity.agent = some (.obj entries) from h.stored]
  rw [hstore]
  exact ⟨{ h with
      stored := (Cluster.Store.get?_put ..).trans (if_pos rfl)
      reads := hreads }, hreadable.put ⟨_, hreads⟩⟩

/-- After a pass over an agent of a cluster, another one may be about the same agent. -/
theorem Subject.passed (huid : agent.metadata.uid = identity.uid) (now : Instant) :
    let left := passOver identity now store
    identity.Passed Cluster.Store.get? store agent left ∧
      Readable identity.inNamespace identity.name left ∧
      ∃ found stored, Subject Cluster.Store.get? identity.inNamespace identity.name left found
        stored ∧ stored.metadata.uid = agent.metadata.uid ∧
          stored.metadata.ownerReferences = agent.metadata.ownerReferences := by
  obtain ⟨hpass, hleft⟩ := h.faultless hreadable {} now
  obtain ⟨found, stored, hsubject, hundisturbed⟩ := hpass.subject_left (Cluster.serves_host now)
  exact ⟨.pass (Cluster.serves_host now) hpass huid, hleft, found, stored, hsubject,
    (congrArg ObjectMeta.uid hundisturbed.metadata :),
    (congrArg ObjectMeta.ownerReferences hundisturbed.metadata :)⟩

end Subjects

/-- A cluster with nothing but the sample agent. -/
def loneStore : Cluster.Store ObjectRef := ⟨[(sampleIdentity.agent, .obj sampleEntries)]⟩

/-- There is no other object in this cluster. -/
theorem lone_store_alone (ref : ObjectRef) (href : ref ≠ sampleIdentity.agent) :
    loneStore.get? ref = none :=
  List.lookup_eq_none_iff.2 (by simpa [loneStore] using href)

/-- An edit of the sample agent adds no object to the cluster. -/
theorem respecified_lone_store (spec : Json) (ref : ObjectRef) (href : ref ≠ sampleIdentity.agent) :
    (respecified sampleIdentity spec loneStore).get? ref = none :=
  (respecified_of_ne spec loneStore href).trans (lone_store_alone ref href)

/-- A pass over the sample agent, an edit of its desired state and another pass; and one pass over
the edited desired state. -/
theorem sample_passes {j : Json} {spec : AgentSpec} (hspec : AgentSpec.codec.decode j = .ok spec) :
    let edited := respecified sampleIdentity j (passOver sampleIdentity ⟨0, 0⟩ loneStore)
    let once := respecified sampleIdentity j loneStore
    History Cluster.Store.get? sampleIdentity loneStore [sampleAgent] edited ∧
      ∃ agent other, agent.spec = spec ∧ other.spec = spec ∧
        other.metadata.ownerReferences = agent.metadata.ownerReferences ∧
        sampleIdentity.Passed Cluster.Store.get? edited agent
          (passOver sampleIdentity ⟨60, 0⟩ edited) ∧
        sampleIdentity.Passed Cluster.Store.get? once other
          (passOver sampleIdentity ⟨60, 0⟩ once) := by
  intro edited once
  have hsubject : Subject Cluster.Store.get? sampleIdentity.inNamespace sampleIdentity.name
      loneStore sampleEntries sampleAgent :=
    { stored := rfl
      reads := decode_sample_entries
      hasName := rfl
      hasNamespace := rfl
      sendable := sample_sendable }
  have hreadable : Readable sampleIdentity.inNamespace sampleIdentity.name loneStore := by
    refine .of_entries ?_ nofun
    simp only [loneStore, List.forall_mem_cons]
    exact ⟨⟨sampleAgent, decode_sample_entries⟩, nofun⟩
  obtain ⟨hfirst, hleft, found, stored, hstored, huid, howners⟩ :=
    hsubject.passed hreadable rfl ⟨0, 0⟩
  obtain ⟨hedited, hreadableEdited⟩ := hstored.respecified hleft hspec
  obtain ⟨honce, hreadableOnce⟩ := hsubject.respecified hreadable hspec
  refine ⟨.edit (.pass .begin hfirst) fun _ => respecified_of_ne j _, { stored with spec },
    { sampleAgent with spec }, rfl, rfl, howners.symm, ?_, ?_⟩
  · exact (hedited.passed hreadableEdited huid ⟨60, 0⟩).1
  · exact (honce.passed hreadableOnce rfl ⟨60, 0⟩).1

/-- The sample agent is edited to run as a daemon set: it controls the objects that it controls
after one pass over that desired state. -/
theorem sample_history_leaves :
    let daemon := Json.obj [("mode", .str "daemonset")]
    let edited := respecified sampleIdentity daemon (passOver sampleIdentity ⟨0, 0⟩ loneStore)
    let once := respecified sampleIdentity daemon loneStore
    History Cluster.Store.get? sampleIdentity loneStore [sampleAgent] edited ∧
      ∀ ref, sampleIdentity.Holds ref (passOver sampleIdentity ⟨60, 0⟩ edited).get? ↔
        sampleIdentity.Holds ref (passOver sampleIdentity ⟨60, 0⟩ once).get? := by
  intro daemon edited once
  have hspec : AgentSpec.codec.decode daemon = .ok { mode := .daemonSet } := rfl
  obtain ⟨hhistory, agent, other, hagent, hother, howners, hlast, hsingle⟩ := sample_passes hspec
  refine ⟨hhistory, (history_leaves hhistory lone_store_alone hlast (respecified_lone_store daemon)
    hsingle (hother.trans hagent.symm) howners).2.2 (.inr (.inl ?_))⟩
  unfold OwnAccount
  rw [hagent]
  decide

/-- The sample agent is edited to run as another service account: the one that an earlier pass has
made for it stays, while one pass over that desired state makes none. -/
theorem account_left_behind :
    let borrowing := Json.obj [("serviceAccount", .str "existing")]
    let edited := respecified sampleIdentity borrowing (passOver sampleIdentity ⟨0, 0⟩ loneStore)
    let once := respecified sampleIdentity borrowing loneStore
    let last := passOver sampleIdentity ⟨60, 0⟩ edited
    let single := passOver sampleIdentity ⟨60, 0⟩ once
    let account := sampleIdentity.object .serviceAccount
    History Cluster.Store.get? sampleIdentity loneStore [sampleAgent] edited ∧
      (∃ agent other, agent.spec = other.spec ∧
        sampleIdentity.Passed Cluster.Store.get? edited agent last ∧
        sampleIdentity.Passed Cluster.Store.get? once other single) ∧
      sampleIdentity.Holds account last.get? ∧ ¬ sampleIdentity.Holds account single.get? := by
  intro borrowing edited once last single account
  have hspec : AgentSpec.codec.decode borrowing = .ok { serviceAccount := some "existing" } := rfl
  obtain ⟨hhistory, agent, other, hagent, hother, -, hlast, hsingle⟩ := sample_passes hspec
  refine ⟨hhistory, ⟨agent, other, hagent.trans hother.symm, hlast, hsingle⟩, ?_, ?_⟩
  · refine ((hhistory.pass hlast).remembers lone_store_alone).account.2 ⟨nofun, sampleAgent, ?_, ?_⟩
    · exact List.mem_cons_self
    · decide
  · intro hheld
    obtain ⟨-, earlier, hmem, hmade⟩ :=
      ((History.begin.pass hsingle).remembers (respecified_lone_store borrowing)).account.1 hheld
    obtain rfl := List.mem_singleton.1 hmem
    rw [OwnAccount, hother] at hmade
    exact absurd hmade (by decide)

end Transcript

end AgentOperator
