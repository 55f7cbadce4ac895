import AgentOperator.Proofs.Activity.Moments
import AgentOperator.Proofs.Pass.Footprint
import AgentOperator.Proofs.Pass.Progress

/-!
# The identity of an agent

The namespace, the name and the unique id of an agent, which edits of its desired state preserve and
which determine its objects. `Identity.pass_parts` gives the requests of a pass over an agent of a
store, for every server that tells the truth, whatever happens between the requests.
-/

namespace AgentOperator.Transcript

open Api (Kind ObjectRef Reply Request)
open Cluster (Truthful)

variable {σ : Type}

/-- What identifies an agent. -/
structure Identity where
  inNamespace : String
  name : String
  uid : Option String

namespace Identity

variable (identity : Identity)

/-- The reference to the agent. -/
def agent : ObjectRef := ⟨.agent, identity.inNamespace, identity.name⟩

/-- The reference to the agent's object of a kind. -/
def object (kind : Kind) : ObjectRef := ⟨kind, identity.inNamespace, Naming.labelOf identity.name⟩

/-- The resource in a store, if there is one that can be read, is that of the agent. -/
def Fits (store : ObjectRef → Option Json) : Prop :=
  ∀ document agent, store identity.agent = some document →
    Agent.codec.decode document = .ok agent →
    agent.metadata.name = some identity.name ∧
      agent.metadata.inNamespace = some identity.inNamespace ∧
      agent.metadata.uid = identity.uid

/-- The store holds an object of a kind that the agent controls. -/
def Owns (kind : Kind) (store : ObjectRef → Option Json) : Prop :=
  Controlled (typeOf kind).2 (identity.object kind) identity.uid store

instance (kind : Kind) (store : ObjectRef → Option Json) : Decidable (identity.Owns kind store) :=
  inferInstanceAs (Decidable (Controlled ..))

/-- The resource in a store reads as an agent of this identity. -/
structure Reads (store : ObjectRef → Option Json) (agent : Agent) : Prop where
  stored : ∃ document, store identity.agent = some document ∧
    Agent.codec.decode document = .ok agent
  uid : agent.metadata.uid = identity.uid

variable {identity} {host : Host σ} {objects : σ → ObjectRef → Option Json} {state : σ}

/-- A store fits an identity if the resource in it reads as an agent that has it. -/
theorem fits_of_decode {store : ObjectRef → Option Json} {document : Json}
    {agent : Agent} (hstored : store identity.agent = some document)
    (hdecode : Agent.codec.decode document = .ok agent)
    (hname : agent.metadata.name = some identity.name)
    (hinNamespace : agent.metadata.inNamespace = some identity.inNamespace)
    (huid : agent.metadata.uid = identity.uid) : identity.Fits store := by
  intro other found hother hfound
  obtain rfl := Option.some.inj (hstored.symm.trans hother)
  obtain rfl := Except.ok.inj (hdecode.symm.trans hfound)
  exact ⟨hname, hinNamespace, huid⟩

/-- `Owns` depends on the stored document only. -/
theorem owns_congr {kind : Kind} {store other : ObjectRef → Option Json}
    (h : store (identity.object kind) = other (identity.object kind)) :
    identity.Owns kind store ↔ identity.Owns kind other :=
  controlled_congr h

/-- The requests of a pass over an agent. -/
def exchanges (identity : Identity) (host : Host σ) (settings : Settings) (state : σ) :
    List Exchange :=
  Effect.exchanges (passOutcome host settings identity.inNamespace identity.name state).effects

/-- A pass sends nothing but the GET of the agent unless that succeeds. -/
theorem pass_parts (hserver : Truthful host objects) (hfits : identity.Fits (objects state))
    (settings : Settings) :
    (∀ exchange ∈ identity.exchanges host settings state,
        exchange.1 = .fetch identity.agent) ∨
      ∃ agent looked sent events,
        identity.exchanges host settings state =
          (.fetch identity.agent, looked) :: sent ++ events ∧
        identity.Reads (objects state) agent ∧
        Carries (fun _ => True) host.Shows settings identity.inNamespace identity.name agent looked
          sent events := by
  have hread {agent : Agent}
      (hyields : Yields (·.decode Agent.codec) (host.serve (.fetch identity.agent) state).1 agent) :
      ∃ document, objects state identity.agent = some document ∧
        Agent.codec.decode document = .ok agent := by
    obtain ⟨body, haccepted, hdecode⟩ := hyields
    obtain ⟨document, hdocument, rfl⟩ := hserver.found _ state body haccepted
    exact ⟨document, hdocument, decode_document hdecode⟩
  have hpass : WholePass (fun _ => True) host.Shows settings identity.inNamespace identity.name
      (identity.exchanges host settings state)
      (passOutcome host settings identity.inNamespace identity.name state).value := by
    refine fits_reconcile_by_name (fun after => ⟨after, rfl⟩) settings ?_ fun _ _ _ _ _ => trivial
    intro agent hyields
    obtain ⟨document, hdocument, hagent⟩ := hread hyields
    obtain ⟨hname, hinNamespace, -⟩ := hfits document agent hdocument hagent
    exact ⟨hname, hinNamespace⟩
  have hanswers : host.Answers state (identity.exchanges host settings state)
      (passOutcome host settings identity.inNamespace identity.name state).state :=
    Activity.run_answers ..
  rcases hpass.parts with hagent | ⟨agent, looked, sent, events, hexchanges, hcarries⟩
  · exact .inl hagent
  · rw [hexchanges] at hanswers
    obtain ⟨rfl, -⟩ := Host.answers_cons_iff.1 hanswers
    obtain ⟨document, hdocument, hdecode⟩ := hread hcarries.yields
    obtain ⟨-, -, huid⟩ := hfits document agent hdocument hdecode
    exact .inr ⟨agent, _, sent, events, hexchanges, ⟨⟨document, hdocument, hdecode⟩, huid⟩,
      hcarries⟩

end Identity

/-- The identity of the sample agent. -/
def sampleIdentity : Identity := ⟨"agents", "sample", some "5d1c"⟩

end AgentOperator.Transcript
