import AgentOperator.Proofs.Json.Merge
import AgentOperator.Proofs.Manifest.References

/-!
# Selectors and the labels that they select

The selector of a workload is immutable, and it has to select the pods of the workload.
`Labels.selector` depends on the name and the namespace of the agent only, and the labels of its
pods are given by `get?_all`: those of the operator under the operator's keys, and those of the
resource under all others. `selectors_hold` combines both for everything that is built, and
`owned_by_of_mem` gives the metadata of all objects: they have these labels and name the agent as
their owner.
-/

namespace AgentOperator

open Kubernetes

namespace Dict

variable {α : Type}

/-- The entries of a map after some insertions. -/
theorem entries_foldl_insert (items : List (String × α)) (d : Dict α) :
    (items.foldl (fun d item => d.insert item.1 item.2) d).entries =
      items.foldl (fun acc item => Entries.upsert item.1 item.2 acc) d.entries := by
  induction items generalizing d with
  | nil => rfl
  | cons item items ih => exact ih _

/-- The value of a key in an overlay is that of the upper map, or else that of the lower one. -/
theorem get?_overlay (d e : Dict α) (key : String) :
    (d.overlay e).get? key = (e.get? key).or (d.get? key) := by
  unfold get? overlay
  rw [entries_foldl_insert, Entries.lookup_foldl_upsert e.sorted.nodup]

/-- The value of a key in the map of entries with different keys is that of its entry. -/
theorem get?_of_list {entries : List (String × α)} (hkeys : (entries.map Prod.fst).Nodup)
    (key : String) : (ofList entries).get? key = entries.lookup key :=
  Entries.lookup_normalize hkeys key

end Dict

namespace Labels

/-- The keys of the labels by which the pods of an agent are selected. -/
def selectorKeys : List String := [managedByKey, instanceKey, partOfKey, componentKey]

/-- The keys of the labels that the operator sets. -/
def operatorKeys : List String := selectorKeys ++ [nameKey, versionKey]

/-- The label that distinguishes an agent from the others of the cluster. -/
def instanceOf (inNamespace name : String) : String :=
  Naming.truncate (inNamespace ++ "." ++ name) Naming.maxLabelLength

variable (agent : Agent)

/-- The labels of the selector of an agent. -/
theorem get?_selector (key : String) :
    (selector agent).get? key =
      if key = managedByKey then some manager
      else if key = instanceKey then some (instanceOf agent.namespaceName agent.name)
      else if key = partOfKey then some product
      else if key = componentKey then some product
      else none := by
  have hkeys : selectorKeys.Nodup := by decide
  unfold selector
  rw [Dict.get?_of_list]
  · simp only [Entries.lookup_cons_eq, List.lookup_nil]
    rfl
  · exact hkeys

/-- The selector of an agent has exactly the four keys. -/
theorem get?_selector_ne_none_iff (key : String) :
    (selector agent).get? key ≠ none ↔ key ∈ selectorKeys := by
  rw [get?_selector]
  simp only [selectorKeys, List.mem_cons, List.not_mem_nil, or_false]
  split_ifs with hmanaged hinstance hpart hcomponent
  · simp [hmanaged]
  · simp [hinstance]
  · simp [hpart]
  · simp [hcomponent]
  · simp [hmanaged, hinstance, hpart, hcomponent]

/-- The labels of an object of an agent: the version and the name, then those of the selector, and
then those of the resource. -/
theorem get?_all (image key : String) :
    (all agent image).get? key =
      if key = versionKey then
        some (Naming.truncate (ImageReference.tag image) Naming.maxLabelLength)
      else if key = nameKey then some (Naming.truncate agent.name Naming.maxLabelLength)
      else ((selector agent).get? key).or ((agent.metadata.labels.getD ∅).get? key) := by
  unfold all
  simp only [Dict.get?_insert, Dict.get?_overlay]

/-- A selector selects labels among which all of its own are. -/
def Selects (selector labels : Dict String) : Prop :=
  ∀ key value, selector.get? key = some value → labels.get? key = some value

/-- The selector of an agent selects the labels of its objects, for all labels of the resource and
every image. -/
theorem selects_all (image : String) : Selects (selector agent) (all agent image) := by
  intro key value hvalue
  -- the selector has neither the version nor the name
  have hkey : key ∈ selectorKeys := by
    rw [← get?_selector_ne_none_iff agent, hvalue]
    nofun
  have hversion : key ≠ versionKey := by
    intro heq
    subst heq
    revert hkey
    decide
  have hname : key ≠ nameKey := by
    intro heq
    subst heq
    revert hkey
    decide
  rw [get?_all, if_neg hversion, if_neg hname, hvalue]
  rfl

/-- A label of the resource under a key that is none of the operator's is kept. -/
theorem get?_all_of_not_mem (image : String) {key : String} (hkey : key ∉ operatorKeys) :
    (all agent image).get? key = (agent.metadata.labels.getD ∅).get? key := by
  simp only [operatorKeys, List.mem_append, List.mem_cons, List.not_mem_nil, or_false,
    not_or] at hkey
  obtain ⟨hselector, hname, hversion⟩ := hkey
  have hnone : (selector agent).get? key = none := by
    by_contra hsome
    exact hselector ((get?_selector_ne_none_iff agent key).1 hsome)
  rw [get?_all, if_neg hversion, if_neg hname, hnone, Option.none_or]

/-- Two agents have the same selector if and only if they have the same instance label. -/
theorem selector_eq_iff (first second : Agent) :
    selector first = selector second ↔
      instanceOf first.namespaceName first.name = instanceOf second.namespaceName second.name := by
  constructor
  · intro heq
    have hread := congrArg (Dict.get? · instanceKey) heq
    simpa [get?_selector, managedByKey, instanceKey] using hread
  · intro hlabel
    refine Dict.ext_get? fun key => ?_
    rw [get?_selector, get?_selector, hlabel]

/-- A selector selects the objects of another agent if and only if both have the same instance
label. -/
theorem selects_iff (first second : Agent) (image : String) :
    Selects (selector first) (all second image) ↔
      instanceOf first.namespaceName first.name = instanceOf second.namespaceName second.name := by
  constructor
  · intro hselects
    have hasked : (selector first).get? instanceKey =
        some (instanceOf first.namespaceName first.name) := by
      rw [get?_selector]
      rfl
    have hthere : (selector second).get? instanceKey =
        some (instanceOf second.namespaceName second.name) := by
      rw [get?_selector]
      rfl
    have hfound := hselects _ _ hasked
    rw [get?_all, if_neg (by decide), if_neg (by decide), hthere] at hfound
    exact (Option.some.inj hfound).symm
  · intro hlabel
    rw [(selector_eq_iff first second).2 hlabel]
    exact selects_all second image

/-- The labels of the pods of an agent fit a selector: it asks for the labels under the four keys of
the selector and selects them. The labels have all keys of the operator, and beside these just the
labels that the resource has under other keys, with their values. -/
structure Fit (selector labels : Dict String) : Prop where
  asks : ∀ key, selector.get? key ≠ none ↔ key ∈ selectorKeys
  selected : Selects selector labels
  present : ∀ key ∈ operatorKeys, labels.get? key ≠ none
  kept : ∀ key value, key ∉ operatorKeys → (agent.metadata.labels.getD ∅).get? key = some value →
    labels.get? key = some value
  noOther : ∀ key, labels.get? key ≠ none →
    key ∈ operatorKeys ∨ (agent.metadata.labels.getD ∅).get? key ≠ none

/-- The labels of an agent fit its selector. -/
theorem fit_all (image : String) : Fit agent (selector agent) (all agent image) where
  asks := get?_selector_ne_none_iff agent
  selected := selects_all agent image
  present key hkey := by
    rw [operatorKeys, List.mem_append] at hkey
    rw [get?_all]
    split_ifs with hversion hname
    · nofun
    · nofun
    · have hselector : key ∈ selectorKeys := hkey.resolve_right (by simp [hname, hversion])
      obtain ⟨value, hvalue⟩ :=
        Option.ne_none_iff_exists'.1 ((get?_selector_ne_none_iff agent key).2 hselector)
      rw [hvalue]
      nofun
  kept key value hkey hvalue := by
    rw [get?_all_of_not_mem agent image hkey, hvalue]
  noOther key hthere := by
    by_cases hkey : key ∈ operatorKeys
    · exact .inl hkey
    · rw [get?_all_of_not_mem agent image hkey] at hthere
      exact .inr hthere

end Labels

/-- The metadata names an agent that runs an image as their owner: they lie in its namespace, have
the labels of the operator with those of the resource under other keys, and refer to the agent as
their controller, if it has a name and a unique id. -/
structure OwnedBy (agent : Agent) (image : String) (metadata : ObjectMeta) : Prop where
  inNamespace : metadata.inNamespace = agent.metadata.inNamespace
  labels : ∃ labels, metadata.labels = some labels ∧
    Labels.Fit agent (Labels.selector agent) labels ∧
    labels.get? Labels.nameKey = some (Naming.truncate agent.name Naming.maxLabelLength) ∧
    labels.get? Labels.versionKey =
      some (Naming.truncate (ImageReference.tag image) Naming.maxLabelLength)
  controlled : ∀ name uid, agent.metadata.name = some name → agent.metadata.uid = some uid →
    metadata.ownerReferences = some
      [{ apiVersion := Agent.apiVersion, kind := Agent.kind, name := name, uid := uid,
         controller := some true }]
  uncontrolled : agent.metadata.name = none ∨ agent.metadata.uid = none →
    metadata.ownerReferences = none

/-- All objects that are built for an agent name it as their owner. -/
theorem owned_by_of_mem {settings : Settings} {agent : Agent} {metadata : ObjectMeta}
    (h : metadata ∈ builtMetadata settings agent) :
    OwnedBy agent (agentImage settings agent.spec) metadata := by
  obtain rfl := eq_owned_metadata_of_mem settings agent h
  constructor
  case inNamespace => rfl
  case labels =>
    refine ⟨_, rfl, Labels.fit_all agent _, ?_, ?_⟩
    · rw [Labels.get?_all, if_neg (by decide), if_pos rfl]
    · rw [Labels.get?_all, if_pos rfl]
  case controlled =>
    intro name uid hname huid
    simp [ownedMetadata, Agent.controllerReference?, hname, huid]
  case uncontrolled =>
    intro hmissing
    rcases hmissing with hname | huid
    · cases huid : agent.metadata.uid <;>
        simp [ownedMetadata, Agent.controllerReference?, hname, huid]
    · simp [ownedMetadata, Agent.controllerReference?, huid]

/-- The pods of an agent are found by a selector: there is a workload, all that is built as one has
the selector, and so has the service. -/
structure FoundBy (settings : Settings) (agent : Agent) (selector : Dict String) : Prop where
  exists_workload : ∃ workload, Workload.IsBuilt settings agent workload
  workload : ∀ workload, Workload.IsBuilt settings agent workload →
    workload.selector = { matchLabels := some selector }
  service : ∃ service spec, agentService? settings agent = some service ∧
    service.spec = some spec ∧ spec.selector = some selector

/-- A workload that is built for an agent has the selector and the template of the agent. -/
theorem Workload.IsBuilt.eq {settings : Settings} {agent : Agent} {workload : Workload}
    (h : IsBuilt settings agent workload) :
    workload.selector = agentSelector agent ∧
      workload.template = agentPodTemplate settings agent := by
  cases h with
  | deployment hbuilt hspec =>
      unfold agentDeployment? at hbuilt
      split at hbuilt
      · obtain rfl := Option.some.inj hbuilt
        obtain rfl := Option.some.inj hspec
        exact ⟨rfl, rfl⟩
      · cases hbuilt
  | daemonSet hbuilt hspec =>
      unfold agentDaemonSet? at hbuilt
      split at hbuilt
      · cases hbuilt
      · obtain rfl := Option.some.inj hbuilt
        obtain rfl := Option.some.inj hspec
        exact ⟨rfl, rfl⟩

/-- The pods of an agent are found by its selector. -/
theorem found_by_selector (settings : Settings) (agent : Agent) :
    FoundBy settings agent (Labels.selector agent) where
  exists_workload := by
    obtain ⟨metadata, hbuilt⟩ := Workload.is_built_agent settings agent
    exact ⟨_, hbuilt⟩
  workload _ hbuilt := hbuilt.eq.1
  service := by
    obtain ⟨service, hservice, hspec⟩ := agent_service?_spec settings agent
    exact ⟨service, _, hservice, hspec, rfl⟩

/-- Agents of one name and namespace have the same selector. -/
theorem selector_congr {first second : Agent} {name : String}
    (hfirst : first.metadata.name = some name) (hsecond : second.metadata.name = some name)
    (hnamespace : first.metadata.inNamespace = second.metadata.inNamespace) :
    Labels.selector first = Labels.selector second := by
  rw [Labels.selector_eq_iff]
  unfold Agent.namespaceName Agent.name ObjectMeta.displayName
  rw [hfirst, hsecond, hnamespace]
  rfl

/-- Selectors hold. The pods of two agents of one name and namespace are found by the same selector,
whatever else the two resources and the settings are. And the pods of every workload that is built
have labels that its selector selects, with all labels of the resource that are not under a key of
the operator, and no others. -/
theorem selectors_hold {first second : Agent} {name : String} (settings other : Settings)
    (hfirst : first.metadata.name = some name) (hsecond : second.metadata.name = some name)
    (hnamespace : first.metadata.inNamespace = second.metadata.inNamespace) :
    (∃ selector, FoundBy settings first selector ∧ FoundBy other second selector) ∧
      ∀ (settings : Settings) (agent : Agent) (workload : Workload),
        Workload.IsBuilt settings agent workload →
        ∃ metadata labels selector, workload.template.metadata = some metadata ∧
          metadata.labels = some labels ∧ workload.selector.matchLabels = some selector ∧
          Labels.Fit agent selector labels := by
  constructor
  · refine ⟨Labels.selector first, found_by_selector settings first, ?_⟩
    rw [selector_congr hfirst hsecond hnamespace]
    exact found_by_selector other second
  · intro settings agent workload hbuilt
    obtain ⟨hselector, htemplate⟩ := hbuilt.eq
    exact ⟨_, _, _, congrArg PodTemplateSpec.metadata htemplate, rfl,
      congrArg LabelSelector.matchLabels hselector, Labels.fit_all agent _⟩

/-- An agent whose resource has labels, one of them under a key of the operator. -/
def labelledAgent : Agent :=
  { metadata :=
      { name := some "edge", inNamespace := some "agents", uid := some "7a01"
        labels := some (Dict.ofList [(Labels.instanceKey, "mine"), ("team", "metrics")]) }
    spec := { mode := .daemonSet } }

/-- The pods of an agent that declares a label under a key of the operator are found by the selector
of an agent of the same name without any labels. -/
theorem labelled_found :
    let plain : Agent :=
      { metadata := { name := some "edge", inNamespace := some "agents" }, spec := {} }
    (∃ selector, FoundBy {} labelledAgent selector ∧ FoundBy {} plain selector) ∧
      ∃ labels, Labels.Fit labelledAgent (Labels.selector labelledAgent) labels ∧
        labels.get? "team" = some "metrics" := by
  intro plain
  have hname : labelledAgent.metadata.name = some "edge" := rfl
  have hplain : plain.metadata.name = some "edge" := rfl
  obtain ⟨hfound, hfit⟩ := selectors_hold {} {} hname hplain rfl
  obtain ⟨metadata, hbuilt⟩ := Workload.is_built_agent {} labelledAgent
  obtain ⟨_, labels, selector, -, -, hselector, hlabels⟩ := hfit {} labelledAgent _ hbuilt
  obtain rfl := Option.some.inj hselector
  exact ⟨hfound, labels, hlabels, hlabels.kept "team" "metrics" (by decide) (by decide)⟩

end AgentOperator
