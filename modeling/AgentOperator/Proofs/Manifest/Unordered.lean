import AgentOperator.Manifest.Workload
import AgentOperator.Proofs.Entries.Unordered

/-!
# Synthesis from unordered tables

The flags of an agent are a hash map, and its ports are collected in one: neither has a specified
order of iteration, and both are sorted by sorts that need not be stable. `Args.Assembles`,
`Ports.Resolves` and with them `Held.MakesContainer` and `Held.MakesTemplate` are the possible
results, over all orders of iteration. Each of them has exactly one, which is the computed one: the
arguments and the ports are sorted by their keys, and the keys of a table are different. The order
in which ports with different names are declared makes no difference either (`Ports.resolve_perm`),
since insertions under different names commute.
-/

namespace AgentOperator

open Kubernetes

namespace Args

/-- The possible arguments for a table of flags: the flags that are passed on, sorted by key, follow
the operator's own. -/
def Assembles (entry : String) (flags : Table String) (addConfig : Bool) (args : List String) :
    Prop :=
  ∃ arranged : List (String × String),
    Entries.Arranged (flags.entries.filter fun flag => !(addConfig && flag.1 = configFlag))
      arranged ∧
    args = (if addConfig then [render configFlag (configDir ++ "/" ++ entry)] else [])
      ++ arranged.map fun flag => render flag.1 flag.2

variable {entry : String} {flags : Table String} {addConfig : Bool}

/-- The flags that are passed on are in strictly increasing order of their keys. -/
theorem sorted_kept (declared : Dict String) : Entries.Sorted (kept declared addConfig) :=
  declared.sorted.filter _

/-- The flags that are passed on are the declared ones, except the one of the configuration if the
operator sets that itself. -/
theorem mem_kept_to_dict {key value : String} : (key, value) ∈ kept flags.toDict addConfig ↔
    (key, value) ∈ flags.entries ∧ ¬ (addConfig = true ∧ key = configFlag) := by
  rw [kept, List.mem_filter, flags.perm_to_dict.mem_iff]
  simp [imp_iff_not_or]

/-- The only possible arguments for a table are those of its map. -/
theorem assembles_iff {args : List String} :
    Assembles entry flags addConfig args ↔ args = assemble entry flags.toDict addConfig := by
  have hkept : (flags.entries.filter fun flag => !(addConfig && flag.1 = configFlag)).Perm
      (kept flags.toDict addConfig) := flags.perm_to_dict.filter _
  constructor
  · intro ⟨arranged, harranged, hargs⟩
    obtain rfl := (Entries.arranged_iff (sorted_kept _) hkept).1 harranged
    exact hargs
  · intro hargs
    exact ⟨_, (Entries.arranged_iff (sorted_kept _) hkept).2 rfl, hargs⟩

end Args

namespace Ports

/-- The possible resolutions of ports by a table: the valid default ports are inserted into an empty
table under their names, then the declared ones, and the final table is sorted by name. -/
def Resolves (defaults : List DefaultPort) (declared : List ServicePort)
    (ports : List ContainerPort) : Prop :=
  ∃ byDefault overlaid : Table ContainerPort, ∃ arranged : List (String × ContainerPort),
    Table.Filled (.ofDict ∅)
      ((defaults.filter DefaultPort.isValid).map fun port =>
        (port.containerName, port.toContainerPort)) byDefault ∧
    byDefault.Filled (declared.map fun port => (declaredName port, ofDeclared port)) overlaid ∧
    Entries.Arranged overlaid.entries arranged ∧ ports = arranged.map Prod.snd

variable {defaults : List DefaultPort} {declared : List ServicePort}

/-- The only possible resolution by a table is that by a map. -/
theorem resolves_iff {ports : List ContainerPort} :
    Resolves defaults declared ports ↔ ports = resolve defaults declared := by
  have hdefault (byDefault : Table ContainerPort) :
      Table.Filled (.ofDict ∅) ((defaults.filter DefaultPort.isValid).map fun port =>
        (port.containerName, port.toContainerPort)) byDefault ↔
      byDefault.toDict = defaultPorts defaults := by
    rw [Table.filled_iff, Table.to_dict_of_dict, List.foldl_map, defaultPorts]
  have hoverlaid (byDefault overlaid : Table ContainerPort)
      (h : byDefault.toDict = defaultPorts defaults) :
      byDefault.Filled (declared.map fun port => (declaredName port, ofDeclared port)) overlaid ↔
      overlaid.toDict = portMap defaults declared := by
    rw [Table.filled_iff, h, List.foldl_map, portMap]
  constructor
  · intro ⟨byDefault, overlaid, arranged, hfirst, hsecond, harranged, hports⟩
    have hmap := (hoverlaid byDefault overlaid ((hdefault byDefault).1 hfirst)).1 hsecond
    rw [hports, Table.arranged_iff.1 harranged, hmap, resolve]
  · intro hports
    have hfirst := Table.to_dict_of_dict (defaultPorts defaults)
    have hsecond := Table.to_dict_of_dict (portMap defaults declared)
    refine ⟨_, _, _, (hdefault _).2 hfirst, (hoverlaid _ _ hfirst).2 hsecond,
      Table.arranged_iff.2 rfl, ?_⟩
    rw [hports, hsecond, resolve]

/-- The resolution does not depend on the order of declared ports with different names. -/
theorem resolve_perm {other : List ServicePort} (hperm : declared.Perm other)
    (hnames : (declared.map declaredName).Nodup) :
    resolve defaults declared = resolve defaults other := by
  unfold resolve portMap
  rw [hperm.foldl_eq']
  intro first hfirst second hsecond ports
  by_cases hname : declaredName first = declaredName second
  · rw [List.inj_on_of_nodup_map hnames hfirst hsecond hname]
  · exact Dict.insert_comm ports hname _ _

end Ports

/-- A desired state together with its flags as a table, that is, in an order of iteration. -/
structure Held where
  spec : AgentSpec
  flags : Table String
  lists : flags.toDict = spec.args

namespace Held

/-- Two desired states are the same up to the order of their flags and ports, and the declared ports
have different names, where a missing name counts as the empty one. -/
structure Reordered (first second : Held) : Prop where
  flags : first.flags.entries.Perm second.flags.entries
  ports : first.spec.ports.Perm second.spec.ports
  names : (first.spec.ports.map Ports.declaredName).Nodup
  others : { first.spec with args := second.spec.args, ports := second.spec.ports } = second.spec

variable (settings : Settings) (addConfig : Bool) (agent : Agent) (held : Held)

/-- The possible containers for a desired state. -/
def MakesContainer (container : Container) : Prop :=
  ∃ args ports,
    Args.Assembles settings.configMapEntry held.flags addConfig args ∧
    Ports.Resolves Ports.agentPorts held.spec.ports ports ∧
    container = { agentContainer settings held.spec addConfig with
      args := nonEmpty args, ports := nonEmpty ports }

/-- The agent with a desired state in place of its own. -/
def inAgent : Agent := { agent with spec := held.spec }

/-- The possible templates for a desired state, each with a possible container. -/
def MakesTemplate (template : PodTemplateSpec) : Prop :=
  ∃ container, held.MakesContainer settings true container ∧
    template = { agentPodTemplate settings (held.inAgent agent) with
      spec := (agentPodTemplate settings (held.inAgent agent)).spec.map fun pod =>
        { pod with containers := [container] } }

variable {held}

/-- There is exactly one possible container for a desired state. -/
theorem makes_container_iff {container : Container} :
    held.MakesContainer settings addConfig container ↔
      container = agentContainer settings held.spec addConfig := by
  unfold MakesContainer
  simp only [Args.assembles_iff, Ports.resolves_iff, held.lists]
  constructor
  · intro ⟨args, ports, hargs, hports, hcontainer⟩
    rw [hcontainer, hargs, hports]
    rfl
  · intro hcontainer
    exact ⟨_, _, rfl, rfl, hcontainer⟩

/-- There is exactly one possible template for a desired state. -/
theorem makes_template_iff {template : PodTemplateSpec} :
    held.MakesTemplate settings agent template ↔
      template = agentPodTemplate settings (held.inAgent agent) := by
  unfold MakesTemplate
  simp only [makes_container_iff]
  constructor
  · intro ⟨container, hcontainer, htemplate⟩
    rw [htemplate, hcontainer]
    rfl
  · intro htemplate
    exact ⟨_, rfl, htemplate⟩

variable {first second : Held} (h : first.Reordered second)

include h

/-- Desired states that differ in the order of their flags and ports are equal up to the declared
ports. -/
theorem Reordered.spec_eq :
    second.spec = { first.spec with ports := second.spec.ports } := by
  have hargs : first.spec.args = second.spec.args := by
    rw [← first.lists, ← second.lists, Table.to_dict_eq_to_dict]
    exact h.flags
  rw [← h.others, ← hargs]

/-- Desired states that differ in the order of their flags and ports have the same container. -/
theorem Reordered.agent_container_eq :
    agentContainer settings second.spec addConfig =
      agentContainer settings first.spec addConfig := by
  rw [h.spec_eq]
  unfold agentContainer
  simp only [Ports.resolve_perm h.ports h.names]
  rfl

/-- Desired states that differ in the order of their flags and ports have the same template. -/
theorem Reordered.agent_pod_template_eq :
    agentPodTemplate settings (second.inAgent agent) =
      agentPodTemplate settings (first.inAgent agent) := by
  have hcontainer := h.agent_container_eq settings true
  unfold agentPodTemplate inAgent
  simp only [hcontainer]
  rw [h.spec_eq]
  rfl

/-- Synthesis does not depend on an unspecified order. Desired states that differ in the order of
their flags and of their declared ports have the same container and the same template, for all
orders of iteration of the tables. The arguments are the flag of the configuration if the operator
sets it, and then the declared flags in strictly increasing order of their keys. -/
theorem synthesis_unordered :
    (∀ held ∈ [first, second],
      (∀ container, held.MakesContainer settings addConfig container ↔
        container = agentContainer settings first.spec addConfig) ∧
      ∀ template, held.MakesTemplate settings agent template ↔
        template = agentPodTemplate settings (first.inAgent agent)) ∧
    ∃ flags : List (String × String),
      (agentContainer settings first.spec addConfig).args = nonEmpty
        ((if addConfig then ["--config=/conf/" ++ settings.configMapEntry] else []) ++
          flags.map fun flag => "--" ++ flag.1 ++ "=" ++ flag.2) ∧
      (flags.map Prod.fst).Pairwise (· < ·) ∧
      ∀ key value, (key, value) ∈ flags ↔
        (key, value) ∈ first.flags.entries ∧ ¬ (addConfig = true ∧ key = "config") := by
  constructor
  · intro held hheld
    have hsame : agentContainer settings held.spec addConfig =
          agentContainer settings first.spec addConfig ∧
        agentPodTemplate settings (held.inAgent agent) =
          agentPodTemplate settings (first.inAgent agent) := by
      rw [List.mem_pair] at hheld
      cases hheld with
      | inl hfirst =>
          subst hfirst
          exact ⟨rfl, rfl⟩
      | inr hsecond =>
          subst hsecond
          exact ⟨h.agent_container_eq settings addConfig, h.agent_pod_template_eq settings agent⟩
    refine ⟨fun container => ?_, fun template => ?_⟩
    · rw [makes_container_iff, hsame.1]
    · rw [makes_template_iff, hsame.2]
  · refine ⟨Args.kept first.flags.toDict addConfig, ?_, ?_, fun key value => Args.mem_kept_to_dict⟩
    · have hown : Args.render Args.configFlag (Args.configDir ++ "/" ++ settings.configMapEntry) =
          "--config=/conf/" ++ settings.configMapEntry := by
        simp only [Args.render, Args.configFlag, Args.configDir, ← String.append_assoc]
        rfl
      rw [first.lists, ← hown]
      rfl
    · exact List.pairwise_map.2 (Args.sorted_kept _)

/-! ## An order and its reverse -/

omit h

/-- A desired state with its flags and ports in reverse order. -/
def reversed (held : Held) : Held where
  spec := { held.spec with ports := held.spec.ports.reverse }
  flags :=
    { entries := held.flags.entries.reverse
      nodup := by
        rw [List.map_reverse, List.nodup_reverse]
        exact held.flags.nodup }
  lists := by
    rw [← held.lists, Table.to_dict_eq_to_dict]
    exact List.reverse_perm _

/-- The reverse order is another order, if the declared ports have different names. -/
theorem reordered_reversed (held : Held) (hnames : (held.spec.ports.map Ports.declaredName).Nodup) :
    held.Reordered held.reversed where
  flags := (List.reverse_perm _).symm
  ports := (List.reverse_perm _).symm
  names := hnames
  others := rfl

/-- A desired state with two flags whose arguments are not in order of their texts, a flag with the
key of the operator's, and a port in place of a default one. -/
def sample : Held :=
  let flags : Table String := ⟨[("a-b", "2"), ("config", "/tmp/c"), ("a", "1")], by decide⟩
  { spec :=
      { args := flags.toDict
        ports :=
          [{ name := some "statsd", port := 9125 }, { name := some "custom", port := 7000 }] }
    flags := flags
    lists := rfl }

/-- The sample has one container in both orders, with its flags in order of their keys. -/
theorem sample_unordered :
    (∀ held ∈ [sample, sample.reversed], ∀ container, held.MakesContainer {} true container ↔
      container = agentContainer {} sample.spec true) ∧
    (agentContainer {} sample.spec true).args =
      some ["--config=/conf/cwagentconfig.json", "--a=1", "--a-b=2"] ∧
    "--a-b=2" < "--a=1" := by
  have hreordered : sample.Reordered sample.reversed := sample.reordered_reversed (by decide)
  obtain ⟨hsame, -⟩ :=
    synthesis_unordered {} true { metadata := {}, spec := sample.spec } hreordered
  exact ⟨fun held hheld => (hsame held hheld).1, by decide +kernel, by decide +kernel⟩

end Held

end AgentOperator
