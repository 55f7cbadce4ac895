import AgentOperator.Proofs.Manifest.Selection
import AgentOperator.Proofs.Naming.Subdomain
import AgentOperator.Proofs.Pass.Footprint
import AgentOperator.Proofs.Pass.Progress

/-!
# Agents of one namespace

When the objects of two agents of one namespace are apart. The names of agents are cut to the length
of a label, and a hyphen stands for a dot, so two names may have the same label; `agents_apart`
gives the condition on the names, and says that under it a pass over one agent leaves the objects of
the other one unchanged. The labels that tell pods apart are cut too, but keep the dots.
`namesakes_collide` shows both ways in which names collide.
-/

namespace AgentOperator.Transcript

open Api (ObjectRef Reply Request)
open Kubernetes

variable {σ τ : Type}

/-- An agent in the reply to the first request of a pass has the name and namespace of the
request. -/
def Identifies (host : Host σ) (state : σ) (inNamespace name : String) : Prop :=
  ∀ agent, Yields (·.decode Agent.codec)
      (host.serve (.fetch ⟨.agent, inNamespace, name⟩) state).1 agent →
    agent.metadata.name = some name ∧ agent.metadata.inNamespace = some inNamespace

/-- The requests of a pass over an agent under a DNS subdomain are in the footprint of a pass. -/
theorem issues_pass_outcome {host : Host σ} {state : σ} {inNamespace name : String}
    (hname : Naming.StartsAlphanumeric name) (hagent : Identifies host state inNamespace name)
    (settings : Settings) :
    ∃ mode, ∀ exchange ∈
        Effect.exchanges (passOutcome host settings inNamespace name state).effects,
      Issues inNamespace name mode exchange.1 := by
  have hpass : Attempt.Fits host ((Reconciler.new settings).reconcileByName inNamespace name) state
      (WholePass (fun fault => fault = .tooLong) host.Shows settings inNamespace name) :=
    fits_reconcile_by_name (fun after => ⟨after, rfl⟩) settings hagent
      fun hsent request hmentions fault => Api.too_long_of_mentions hname hsent hmentions
  exact WholePass.issues hpass

/-- No object that the first ones of these exchanges are to change is one that the second ones
apply. -/
def LeavesAlone (exchanges others : List Exchange) : Prop :=
  ∀ exchange ∈ exchanges, ∀ other ∈ others, ∀ ref desired,
    exchange.1.changed? = some ref → other.1 ≠ .apply ref desired

/-- Passes over agents whose names have different labels leave each other's objects alone. -/
theorem leaves_alone_of_label_ne {host : Host σ} {rival : Host τ} {state : σ} {moment : τ}
    {inNamespace name other : String} (hname : Naming.StartsAlphanumeric name)
    (hother : Naming.StartsAlphanumeric other)
    (hlabels : Naming.labelOf name ≠ Naming.labelOf other)
    (hagent : Identifies host state inNamespace name)
    (hrival : Identifies rival moment inNamespace other) (settings settings' : Settings) :
    LeavesAlone (Effect.exchanges (passOutcome host settings inNamespace name state).effects)
      (Effect.exchanges (passOutcome rival settings' inNamespace other moment).effects) := by
  obtain ⟨mode, hissues⟩ := issues_pass_outcome hname hagent settings
  obtain ⟨otherMode, hothers⟩ := issues_pass_outcome hother hrival settings'
  intro exchange hexchange applied happlied ref desired hchanged heq
  have happly := hothers applied happlied
  rw [heq] at happly
  -- what is applied is no agent, and both passes go by the label of their name
  have hkind : ref.kind ≠ .agent := happly.kind_ne
  have hfirst := (hissues exchange hexchange).changed hchanged hkind
  have hsecond := happly.changed rfl hkind
  exact hlabels (Api.ObjectRef.mk.inj (hfirst.symm.trans hsecond)).2.2

/-- A selector selects the pods that a workload makes. -/
def SelectsPods (selector : Dict String) (workload : Workload) : Prop :=
  ∃ metadata labels, workload.template.metadata = some metadata ∧ metadata.labels = some labels ∧
    Labels.Selects selector labels

/-- The selector of an agent selects the pods of a workload if and only if both have the same
instance label. -/
theorem selects_pods_iff {settings : Settings} {second : Agent} {workload : Workload}
    (hbuilt : Workload.IsBuilt settings second workload) (first : Agent) :
    SelectsPods (Labels.selector first) workload ↔
      Labels.instanceOf first.namespaceName first.name =
        Labels.instanceOf second.namespaceName second.name := by
  rw [← Labels.selects_iff first second (agentImage settings second.spec)]
  unfold SelectsPods
  rw [hbuilt.eq.2]
  constructor
  · intro hselects
    obtain ⟨_, _, hmetadata, hlabels, hselects⟩ := hselects
    obtain rfl := Option.some.inj hmetadata
    obtain rfl := Option.some.inj hlabels
    exact hselects
  · intro hselects
    exact ⟨_, _, rfl, rfl, hselects⟩

/-- What keeps two agents apart that lie in one namespace under the names `name` and `other`. Their
objects have different names unless the two names read the same up to the cut (`names`), and then
passes over them leave each other's objects alone (`passes`). Their selectors are different, and
neither selects the pods of the other, unless they are labelled as one agent (`selectors`, `pods`).
Different names that are short and have no dots do not read the same (`plain`), and agents with
different names are not labelled as one if namespace and names are short (`short`). -/
structure Apart (settings settings' : Settings) (inNamespace name other : String)
    (first second : Agent) : Prop where
  names : ∀ one ∈ builtMetadata settings first, ∀ two ∈ builtMetadata settings' second,
    (one.name = two.name ↔ Naming.reading name = Naming.reading other)
  selectors : Labels.selector first = Labels.selector second ↔
    Labels.instanceOf inNamespace name = Labels.instanceOf inNamespace other
  pods : (∀ workload, Workload.IsBuilt settings' second workload →
      (SelectsPods (Labels.selector first) workload ↔
        Labels.instanceOf inNamespace name = Labels.instanceOf inNamespace other)) ∧
    ∀ workload, Workload.IsBuilt settings first workload →
      (SelectsPods (Labels.selector second) workload ↔
        Labels.instanceOf inNamespace name = Labels.instanceOf inNamespace other)
  passes : ∀ {σ τ : Type} {host : Host σ} {rival : Host τ} {state : σ} {moment : τ},
    Identifies host state inNamespace name → Identifies rival moment inNamespace other →
    Naming.reading name ≠ Naming.reading other →
    let exchanges := Effect.exchanges (passOutcome host settings inNamespace name state).effects
    let others := Effect.exchanges (passOutcome rival settings' inNamespace other moment).effects
    LeavesAlone exchanges others ∧ LeavesAlone others exchanges
  plain : name ≠ other → name.toList.length ≤ Naming.maxLabelLength →
    other.toList.length ≤ Naming.maxLabelLength → '.' ∉ name.toList → '.' ∉ other.toList →
    Naming.reading name ≠ Naming.reading other
  short : name ≠ other →
    (inNamespace ++ "." ++ name).toList.length ≤ Naming.maxLabelLength →
    (inNamespace ++ "." ++ other).toList.length ≤ Naming.maxLabelLength →
    Labels.instanceOf inNamespace name ≠ Labels.instanceOf inNamespace other

/-- The cut leaves a short text unchanged. -/
theorem truncate_of_short {value : String} {max : Nat} (h : value.toList.length ≤ max) :
    Naming.truncate value max = value := by
  rw [Naming.truncate, Naming.truncateChars, if_pos h, String.ofList_toList]

/-- Agents in one namespace under DNS subdomains are apart exactly as far as the cut tells their
names apart. -/
theorem agents_apart {first second : Agent} {inNamespace name other : String}
    (settings settings' : Settings) (hname : Naming.IsSubdomain name)
    (hother : Naming.IsSubdomain other) (hfirst : first.metadata.name = some name)
    (hsecond : second.metadata.name = some other)
    (hplace : first.metadata.inNamespace = some inNamespace)
    (hplace' : second.metadata.inNamespace = some inNamespace) :
    Apart settings settings' inNamespace name other first second := by
  have hcalled : first.name = name ∧ second.name = other := by
    unfold Agent.name ObjectMeta.displayName
    rw [hfirst, hsecond]
    exact ⟨rfl, rfl⟩
  have hlies : first.namespaceName = inNamespace ∧ second.namespaceName = inNamespace := by
    unfold Agent.namespaceName
    rw [hplace, hplace']
    exact ⟨rfl, rfl⟩
  have hlabels := Naming.label_of_eq_iff hname.dotted hother.dotted
  refine ⟨?_, ?_, ⟨?_, ?_⟩, ?_, ?_, ?_⟩
  · intro one hone two htwo
    rw [eq_owned_metadata_of_mem settings first hone,
      eq_owned_metadata_of_mem settings' second htwo, hcalled.1, hcalled.2, ← hlabels]
    exact Option.some_inj
  · rw [Labels.selector_eq_iff, hcalled.1, hcalled.2, hlies.1, hlies.2]
  · intro workload hbuilt
    rw [selects_pods_iff hbuilt, hcalled.1, hcalled.2, hlies.1, hlies.2]
  · intro workload hbuilt
    rw [selects_pods_iff hbuilt, hcalled.1, hcalled.2, hlies.1, hlies.2]
    exact eq_comm
  · intro σ τ host rival state moment hagent hrival hreading
    have hdifferent : Naming.labelOf name ≠ Naming.labelOf other := fun heq =>
      hreading (hlabels.1 heq)
    exact ⟨leaves_alone_of_label_ne hname.starts_alphanumeric hother.starts_alphanumeric hdifferent
        hagent hrival settings settings',
      leaves_alone_of_label_ne hother.starts_alphanumeric hname.starts_alphanumeric hdifferent.symm
        hrival hagent settings' settings⟩
  · intro hne hshort hshort' hdots hdots' hreading
    rw [Naming.reading_of_plain hshort hdots, Naming.reading_of_plain hshort' hdots',
      String.toList_inj] at hreading
    exact hne hreading
  · intro hne hshort hshort' hlabel
    unfold Labels.instanceOf at hlabel
    rw [truncate_of_short hshort, truncate_of_short hshort'] at hlabel
    refine hne (String.toList_inj.1 ?_)
    have hchars := congrArg String.toList hlabel
    simpa [String.toList_append] using hchars

/-- A sample agent of a name, in a fixed namespace. -/
def agentNamed (name : String) : Agent :=
  { metadata := { name := some name, inNamespace := some "agents", uid := some name }
    spec := {} }

/-- The word `web` is a DNS label. -/
theorem is_label_web : Naming.IsLabel ['w', 'e', 'b'] :=
  ⟨List.all_eq_true.1 rfl, ⟨_, _, rfl, rfl⟩, ['w', 'e'], 'b', rfl, rfl⟩

/-- Two labels with a dot between them are a DNS subdomain. -/
theorem is_subdomain_web_api : Naming.IsSubdomain "web.api" :=
  ⟨.dot is_label_web
    (.label ⟨List.all_eq_true.1 rfl, ⟨_, _, rfl, rfl⟩, ['a', 'p'], 'i', rfl, rfl⟩), by decide⟩

/-- Two agents with dots in their names are apart. -/
theorem neighbours_apart :
    Naming.IsSubdomain "web.api" ∧ Naming.IsSubdomain "web.ui" ∧
      Apart {} {} "agents" "web.api" "web.ui" (agentNamed "web.api") (agentNamed "web.ui") ∧
      Labels.selector (agentNamed "web.api") ≠ Labels.selector (agentNamed "web.ui") ∧
      ∀ one ∈ builtMetadata {} (agentNamed "web.api"),
        ∀ two ∈ builtMetadata {} (agentNamed "web.ui"), one.name ≠ two.name := by
  have hui : Naming.IsSubdomain "web.ui" :=
    ⟨.dot is_label_web
      (.label ⟨List.all_eq_true.1 rfl, ⟨_, _, rfl, rfl⟩, ['u'], 'i', rfl, rfl⟩), by decide⟩
  have hapart : Apart {} {} "agents" "web.api" "web.ui" (agentNamed "web.api")
      (agentNamed "web.ui") := agents_apart {} {} is_subdomain_web_api hui rfl rfl rfl rfl
  refine ⟨is_subdomain_web_api, hui, hapart, ?_, ?_⟩
  · intro heq
    exact hapart.short (by decide) (by decide) (by decide) (hapart.selectors.1 heq)
  · intro one hone two htwo heq
    have hreading := (hapart.names one hone two htwo).1 heq
    revert hreading
    decide

/-- A name with one letter more than a label may have. -/
def longName (last : Char) : String := String.ofList (List.replicate 63 'a' ++ [last])

/-- The long names are DNS labels if they end in a letter. -/
theorem is_subdomain_long_name {last : Char} (hlabel : Naming.isLabelChar last = true)
    (hlast : last.isAlphanum = true) : Naming.IsSubdomain (longName last) where
  dotted := by
    rw [longName, String.toList_ofList]
    refine .label ⟨?_, ⟨'a', List.replicate 62 'a' ++ [last], rfl, rfl⟩, _, last, rfl, hlast⟩
    intro c hc
    rw [List.mem_append, List.mem_singleton] at hc
    rcases hc with hc | rfl
    · rw [(List.mem_replicate.1 hc).2]
      rfl
    · exact hlabel
  short := by
    rw [longName, String.toList_ofList]
    simp [Naming.maxSubdomainLength]

/-- Agents of one namespace with different names may have the same objects: the label of a name has
a hyphen for a dot and ends at the cut; and the agents may have the same instance label. -/
theorem namesakes_collide :
    (Naming.IsSubdomain "web.api" ∧ Naming.IsSubdomain "web-api" ∧
      (agentConfigMap {} (agentNamed "web.api")).metadata.name =
        (agentConfigMap {} (agentNamed "web-api")).metadata.name) ∧
    (Naming.IsSubdomain (longName 'b') ∧ Naming.IsSubdomain (longName 'c') ∧
      longName 'b' ≠ longName 'c' ∧
      (agentConfigMap {} (agentNamed (longName 'b'))).metadata.name =
        (agentConfigMap {} (agentNamed (longName 'c'))).metadata.name ∧
      Labels.selector (agentNamed (longName 'b')) =
        Labels.selector (agentNamed (longName 'c'))) := by
  have hhyphen : Naming.IsSubdomain "web-api" :=
    ⟨.label ⟨List.all_eq_true.1 rfl, ⟨_, _, rfl, rfl⟩,
      ['w', 'e', 'b', '-', 'a', 'p'], 'i', rfl, rfl⟩, by decide⟩
  have hb : Naming.IsSubdomain (longName 'b') := is_subdomain_long_name rfl rfl
  have hc : Naming.IsSubdomain (longName 'c') := is_subdomain_long_name rfl rfl
  refine ⟨⟨is_subdomain_web_api, hhyphen, ?_⟩, hb, hc, by decide, ?_, ?_⟩
  · exact congrArg some
      ((Naming.label_of_eq_iff is_subdomain_web_api.dotted hhyphen.dotted).2 (by decide))
  · exact congrArg some ((Naming.label_of_eq_iff hb.dotted hc.dotted).2 (by decide))
  · rw [Labels.selector_eq_iff]
    decide

end AgentOperator.Transcript
