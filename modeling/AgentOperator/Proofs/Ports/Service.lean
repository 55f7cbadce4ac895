import AgentOperator.Proofs.Manifest.References
import AgentOperator.Proofs.Naming.Shape
import AgentOperator.Proofs.Ports.Resolution

/-!
# The port names of a service

A cluster accepts a service with several ports only if all of them have names, which are DNS labels
and different from each other (`AcceptedNames`). The ports of the service of an agent are named by
`dnsName` of the names of the ports of its container. These are different, but their images may
coincide, and need not be short. `service_names_accepted_iff` gives the condition on the declared
ports.
-/

namespace AgentOperator

open Kubernetes

/-- A cluster accepts the names of the ports of a service: all ports have names, which are DNS
labels and are different. -/
structure AcceptedNames (ports : List ServicePort) : Prop where
  labels : ∀ port ∈ ports, ∃ name, port.name = some name ∧ Naming.IsLabel name.toList ∧
    name.toList.length ≤ 63
  distinct : (ports.map ServicePort.name).Nodup

/-- The possible names of the ports of a container. -/
def portNames (declared : List ServicePort) : List String :=
  Ports.agentPorts.map Ports.DefaultPort.name ++ declared.map Ports.declaredName

/-- Declared ports stay apart: `dnsName` of their names differs for different names, the default
ones included. In lower case every name has a small letter or a digit, and its image is short enough
for a label. -/
structure StayApart (declared : List ServicePort) : Prop where
  named : ∀ port ∈ declared,
    ∃ c ∈ (Text.lowercase (Ports.declaredName port)).toList, (c.isLower || c.isDigit) = true
  short : ∀ port ∈ declared, (Naming.dnsName (Ports.declaredName port)).toList.length ≤ 63
  apart : ∀ one ∈ portNames declared, ∀ two ∈ portNames declared,
    Naming.dnsName one = Naming.dnsName two → one = two

/-- The name of the port of a service for the name of a port of a container. -/
def labelOfPort? (name : String) : Option String :=
  (some (Naming.dnsName name)).filter fun label => !label.isEmpty

/-- The port of a service has a name if and only if `dnsName` of its name is not empty. -/
theorem label_of_port?_eq_some_iff {name label : String} :
    labelOfPort? name = some label ↔ Naming.dnsName name = label ∧ label ≠ "" := by
  rw [labelOfPort?, Option.filter_eq_some_iff, Option.some_inj]
  simp

/-- The ports that the agent listens on by default keep their names, also as ports of a service. -/
theorem agent_ports_named : ∀ port ∈ Ports.agentPorts, port.containerName = port.name ∧
    port.isValid = true ∧ Naming.dnsName port.name ≠ "" ∧
      (Naming.dnsName port.name).toList.length ≤ 63 := by
  decide +kernel

/-- A port that the agent listens on by default suits its name and no other one. -/
theorem suits_agent_ports_iff {port : Ports.DefaultPort} (hport : port ∈ Ports.agentPorts)
    {name : String} : port.Suits name ↔ port.name = name := by
  obtain ⟨hname, hvalid, -⟩ := agent_ports_named port hport
  constructor
  · intro hsuits
    exact hname.symm.trans hsuits.1
  · intro heq
    subst heq
    rw [Ports.DefaultPort.is_valid_iff, hname] at hvalid
    exact ⟨hname, hvalid⟩

variable {declared : List ServicePort}

/-- A port of an agent goes by a name if and only if it is one of the possible names. -/
theorem exists_mem_resolve_iff_port_names {name : String} :
    (∃ port ∈ Ports.resolve Ports.agentPorts declared, port.name = some name) ↔
      name ∈ portNames declared := by
  have hsuits : (∃ port ∈ Ports.agentPorts, port.Suits name) ↔
      ∃ port ∈ Ports.agentPorts, port.name = name :=
    exists_congr fun _ => and_congr_right fun hport => suits_agent_ports_iff hport
  rw [Ports.is_resolution_resolve.occurs, hsuits, portNames, List.mem_append, List.mem_map,
    List.mem_map, or_comm]

/-- The names of the ports of a service are the images of those of the ports of the agent, each of
which occurs once. -/
theorem map_name_service_port (declared : List ServicePort) : ∃ names : List String, names.Nodup ∧
    (∀ name, name ∈ names ↔ name ∈ portNames declared) ∧
    ((Ports.resolve Ports.agentPorts declared).map servicePort).map ServicePort.name =
      names.map labelOfPort? := by
  have hresolution : Ports.IsResolution Ports.agentPorts declared _ := Ports.is_resolution_resolve
  obtain ⟨names, hnames, hincreasing⟩ := hresolution.increasing
  refine ⟨names, hincreasing.imp Std.ne_of_lt, fun name => ?_, ?_⟩
  · rw [← exists_mem_resolve_iff_port_names, ← List.mem_map, hnames]
    simp
  · have hlabel : ServicePort.name ∘ servicePort =
        (fun name => (name.map Naming.dnsName).filter fun label => !label.isEmpty) ∘
          ContainerPort.name := rfl
    rw [List.map_map, hlabel, ← List.map_map, hnames, List.map_map]
    refine List.map_congr_left fun name _ => ?_
    rw [Function.comp_apply, Option.map_some, labelOfPort?]

/-- A cluster accepts the names if and only if their images are different, not empty and short. -/
theorem accepted_names_iff {ports : List ServicePort} {names : List String} (hnodup : names.Nodup)
    (hports : ports.map ServicePort.name = names.map labelOfPort?) :
    AcceptedNames ports ↔
      (∀ name ∈ names, Naming.dnsName name ≠ "" ∧ (Naming.dnsName name).toList.length ≤ 63) ∧
        ∀ one ∈ names, ∀ two ∈ names, Naming.dnsName one = Naming.dnsName two → one = two := by
  constructor
  · intro haccepted
    refine ⟨fun name hname => ?_, fun one hone two htwo heq => ?_⟩
    · have hlabelled : labelOfPort? name ∈ ports.map ServicePort.name :=
        hports ▸ List.mem_map_of_mem hname
      obtain ⟨port, hport, hof⟩ := List.mem_map.1 hlabelled
      obtain ⟨label, hlabel, -, hshort⟩ := haccepted.labels port hport
      obtain ⟨rfl, hne⟩ := label_of_port?_eq_some_iff.1 (hof.symm.trans hlabel)
      exact ⟨hne, hshort⟩
    · have hdistinct := haccepted.distinct
      rw [hports] at hdistinct
      refine List.inj_on_of_nodup_map hdistinct hone htwo ?_
      rw [labelOfPort?, labelOfPort?, heq]
  · intro ⟨hlabels, hapart⟩
    have hlabel (name : String) (hname : name ∈ names) :
        labelOfPort? name = some (Naming.dnsName name) :=
      label_of_port?_eq_some_iff.2 ⟨rfl, (hlabels name hname).1⟩
    refine ⟨fun port hport => ?_, ?_⟩
    · have hof : port.name ∈ names.map labelOfPort? := hports ▸ List.mem_map_of_mem hport
      obtain ⟨name, hname, hof⟩ := List.mem_map.1 hof
      obtain ⟨hne, hshort⟩ := hlabels name hname
      exact ⟨_, hof.symm.trans (hlabel name hname), Naming.is_label_dns_name hne, hshort⟩
    · rw [hports, List.nodup_map_iff_inj_on hnodup]
      intro one hone two htwo heq
      rw [hlabel one hone, hlabel two htwo] at heq
      exact hapart one hone two htwo (Option.some.inj heq)

/-- Declared ports stay apart if and only if the images of all possible names are different, not
empty and short. -/
theorem stay_apart_iff :
    StayApart declared ↔
      (∀ name ∈ portNames declared,
          Naming.dnsName name ≠ "" ∧ (Naming.dnsName name).toList.length ≤ 63) ∧
        ∀ one ∈ portNames declared, ∀ two ∈ portNames declared,
          Naming.dnsName one = Naming.dnsName two → one = two := by
  have hbuiltIn (port : Ports.DefaultPort) (hport : port ∈ Ports.agentPorts) :
      Naming.dnsName port.name ≠ "" ∧ (Naming.dnsName port.name).toList.length ≤ 63 :=
    (agent_ports_named port hport).2.2
  have hnamed (name : String) : Naming.dnsName name ≠ "" ↔
      ∃ c ∈ (Text.lowercase name).toList, (c.isLower || c.isDigit) = true := by
    rw [ne_eq, Naming.dns_name_eq_empty_iff]
    simp only [not_forall, exists_prop, Bool.not_eq_false]
  constructor
  · intro h
    refine ⟨fun name hname => ?_, h.apart⟩
    rw [portNames, List.mem_append, List.mem_map, List.mem_map] at hname
    rcases hname with ⟨port, hport, rfl⟩ | ⟨port, hport, rfl⟩
    · exact hbuiltIn port hport
    · exact ⟨(hnamed _).2 (h.named port hport), h.short port hport⟩
  · intro ⟨hlabels, hapart⟩
    have hdeclared (port : ServicePort) (hport : port ∈ declared) :=
      hlabels _ (List.mem_append_right _ (List.mem_map_of_mem hport))
    exact ⟨fun port hport => (hnamed _).1 (hdeclared port hport).1,
      fun port hport => (hdeclared port hport).2, hapart⟩

/-- A cluster accepts the names of the ports of a service if and only if the declared ports stay
apart. -/
theorem accepted_names_service_ports_iff :
    AcceptedNames ((Ports.resolve Ports.agentPorts declared).map servicePort) ↔
      StayApart declared := by
  obtain ⟨names, hnodup, hmem, hports⟩ := map_name_service_port declared
  rw [accepted_names_iff hnodup hports, stay_apart_iff]
  simp only [hmem]

/-- The name of a port of a service has the shape of a label, if it has one. -/
theorem is_label_service_port {port : ContainerPort} {name : String}
    (h : (servicePort port).name = some name) : Naming.IsLabel name.toList := by
  obtain ⟨hlabel, hne⟩ := Option.filter_eq_some_iff.1 h
  obtain ⟨other, -, rfl⟩ := Option.map_eq_some_iff.1 hlabel
  refine Naming.is_label_dns_name fun hempty => ?_
  rw [hempty] at hne
  cases hne

/-- There is a service for every agent, and the names of its ports are DNS labels of any length. A
cluster accepts the names if and only if the declared ports stay apart. -/
theorem service_names_accepted_iff (settings : Settings) (agent : Agent) :
    ∃ service spec ports, agentService? settings agent = some service ∧
      service.spec = some spec ∧ spec.ports = some ports ∧
      (∀ port ∈ ports, ∀ name, port.name = some name → Naming.IsLabel name.toList) ∧
      (AcceptedNames ports ↔ StayApart agent.spec.ports) := by
  obtain ⟨service, hservice, hspec⟩ := agent_service?_spec settings agent
  refine ⟨service, _, _, hservice, hspec, rfl, fun port hport name hname => ?_,
    accepted_names_service_ports_iff⟩
  obtain ⟨target, -, rfl⟩ := List.mem_map.1 hport
  exact is_label_service_port hname

/-- A port whose name has a capital stays apart from the default ones. -/
example : StayApart [{ name := some "customTcp", port := 9100 }] where
  named := List.forall_mem_singleton.2 ⟨'c', by decide +kernel, rfl⟩
  short := by decide +kernel
  apart := by decide +kernel

/-- A cluster does not accept the names of the ports of the service of an agent. -/
def IsRefused (settings : Settings) (agent : Agent) : Prop :=
  ∃ service spec ports, agentService? settings agent = some service ∧
    service.spec = some spec ∧ spec.ports = some ports ∧ ¬ AcceptedNames ports

/-- The service of an agent is refused if the declared ports do not stay apart. -/
theorem is_refused_of_not_stay_apart {agent : Agent} (settings : Settings)
    (h : ¬ StayApart agent.spec.ports) : IsRefused settings agent := by
  obtain ⟨service, hservice, hspec⟩ := agent_service?_spec settings agent
  exact ⟨service, _, _, hservice, hspec, rfl,
    fun haccepted => h (accepted_names_service_ports_iff.1 haccepted)⟩

/-- An agent with one port in addition to the default ones. -/
def agentWithPort (port : ServicePort) : Agent :=
  { metadata := {}, spec := { ports := [port] } }

/-- Services are refused for a port whose name is that of a default one except for a capital, for a
port without a name, and for one whose name is too long for a label. -/
theorem service_names_refused :
    IsRefused {} (agentWithPort { name := some "emftcp", port := 25889 }) ∧
      IsRefused {} (agentWithPort { port := 7000 }) ∧
      IsRefused {} (agentWithPort
        { name := some (String.ofList (List.replicate 64 'a')), port := 7000 }) := by
  refine ⟨is_refused_of_not_stay_apart _ fun h => ?_, is_refused_of_not_stay_apart _ fun h => ?_,
    is_refused_of_not_stay_apart _ fun h => ?_⟩
  · have hsame := h.apart "emfTcp" (by decide) "emftcp" (by decide) (by decide +kernel)
    revert hsame
    decide
  · obtain ⟨c, hc, -⟩ := h.named _ List.mem_cons_self
    exact List.not_mem_nil hc
  · have hshort := h.short _ List.mem_cons_self
    revert hshort
    decide +kernel

end AgentOperator
