import AgentOperator.Proofs.Entries.Last
import AgentOperator.Proofs.Entries.Unordered
import AgentOperator.Proofs.Ports.Grammar

/-!
# The resolution of ports

The ports of a container are collected under their names by two sequences of insertions, the valid
defaults first and then the declared ones. The port under a name is that of the last insertion under
it (`get?_port_map_eq_some_iff`), so that the result is characterised without them: `IsResolution`
gives the names, their order, and the port of each name. `is_resolution_iff` shows that `resolve` is
the only resolution.
-/

namespace AgentOperator

open Kubernetes

namespace Ports

/-- A default port suits a name: it is cut to that name and is valid under it. -/
def DefaultPort.Suits (name : String) (port : DefaultPort) : Prop :=
  Naming.truncate port.name 15 = name ∧ validate name port.port = .ok ()

/-- The port that goes by a name: the last one that is declared with it, where a missing name counts
as the empty one, or else the last of the defaults that suit it. -/
inductive GoesBy (defaults : List DefaultPort) (declared : List ServicePort) (name : String) :
    ContainerPort → Prop where
  | declared {port : ServicePort} (hlast : IsLast (declaredName · = name) declared port) :
      GoesBy defaults declared name
        { name := some name, containerPort := port.port, protocol := port.protocol }
  | byDefault {port : DefaultPort} (hnone : ∀ other ∈ declared, declaredName other ≠ name)
      (hlast : IsLast (DefaultPort.Suits name) defaults port) :
      GoesBy defaults declared name
        { name := some name, containerPort := port.port, protocol := some port.protocol }

/-- The ports that some defaults and some declared ports resolve to. They have names, which strictly
increase in the order of their code points; there is a port of a name if and only if one is declared
or some default suits it, and it is the one that goes by the name. -/
structure IsResolution (defaults : List DefaultPort) (declared : List ServicePort)
    (ports : List ContainerPort) : Prop where
  increasing : ∃ names : List String,
    ports.map ContainerPort.name = names.map some ∧ names.Pairwise (· < ·)
  occurs : ∀ name, (∃ port ∈ ports, port.name = some name) ↔
    (∃ port ∈ declared, declaredName port = name) ∨ ∃ port ∈ defaults, port.Suits name
  goesBy : ∀ port ∈ ports, ∀ name, port.name = some name → GoesBy defaults declared name port

variable {defaults : List DefaultPort} {declared : List ServicePort}

/-- The name of the port that goes by a name. -/
theorem GoesBy.name_eq {name : String} {port : ContainerPort}
    (h : GoesBy defaults declared name port) : port.name = some name := by
  cases h with
  | declared => rfl
  | byDefault => rfl

/-- The port that goes by a name is unique. -/
theorem GoesBy.eq {name : String} {port other : ContainerPort}
    (h : GoesBy defaults declared name port) (hother : GoesBy defaults declared name other) :
    port = other := by
  cases h with
  | declared hlast =>
      cases hother with
      | declared hlast' => rw [hlast.eq hlast']
      | byDefault hnone => exact absurd hlast.meets (hnone _ hlast.mem)
  | byDefault hnone hlast =>
      cases hother with
      | declared hlast' => exact absurd hlast'.meets (hnone _ hlast'.mem)
      | byDefault _ hlast' => rw [hlast.eq hlast']

/-- Some port goes by a name if and only if one is declared or some default suits it. -/
theorem exists_goes_by_iff {name : String} : (∃ port, GoesBy defaults declared name port) ↔
    (∃ port ∈ declared, declaredName port = name) ∨ ∃ port ∈ defaults, port.Suits name := by
  constructor
  · intro ⟨port, hport⟩
    cases hport with
    | declared hlast => exact .inl ⟨_, hlast.mem, hlast.meets⟩
    | byDefault _ hlast => exact .inr ⟨_, hlast.mem, hlast.meets⟩
  · intro h
    by_cases hdeclared : ∃ port ∈ declared, declaredName port = name
    · obtain ⟨last, hlast⟩ := exists_is_last_iff.2 hdeclared
      exact ⟨_, .declared hlast⟩
    · obtain ⟨last, hlast⟩ := exists_is_last_iff.2 (h.resolve_left hdeclared)
      exact ⟨_, .byDefault (fun other hother hname => hdeclared ⟨other, hother, hname⟩) hlast⟩

/-- The entry of a name in the map of the valid defaults is the last of those that suit it. -/
theorem get?_default_ports_eq_some_iff {name : String} {port : ContainerPort} :
    (defaultPorts defaults).get? name = some port ↔
      ∃ last, IsLast (DefaultPort.Suits name) defaults last ∧
        { name := some name
          containerPort := last.port
          protocol := some last.protocol } = port := by
  have hsuits : (fun port : DefaultPort => port.isValid = true ∧ port.containerName = name) =
      DefaultPort.Suits name := by
    funext port
    rw [DefaultPort.is_valid_iff, and_comm, eq_iff_iff]
    refine and_congr_right fun hname => ?_
    rw [hname]
  have hnone : (∅ : Dict ContainerPort).get? name ≠ some port := by
    nofun
  rw [defaultPorts, Dict.get?_foldl_insert_eq_some_iff]
  simp only [is_last_filter_iff, hsuits, hnone, and_false, or_false]
  refine exists_congr fun last => and_congr_right fun hlast => ?_
  have hname : last.containerName = name := hlast.meets.1
  rw [DefaultPort.toContainerPort, hname]

/-- The entry of a name in the map of ports is the port that goes by it. -/
theorem get?_port_map_eq_some_iff {name : String} {port : ContainerPort} :
    (portMap defaults declared).get? name = some port ↔ GoesBy defaults declared name port := by
  rw [portMap, Dict.get?_foldl_insert_eq_some_iff, get?_default_ports_eq_some_iff]
  constructor
  · rintro (⟨last, hlast, rfl⟩ | ⟨hnone, last, hlast, rfl⟩)
    · rw [ofDeclared, hlast.meets]
      exact .declared hlast
    · exact .byDefault hnone hlast
  · intro h
    cases h with
    | @declared last hlast =>
        refine .inl ⟨last, hlast, ?_⟩
        rw [ofDeclared, hlast.meets]
    | byDefault hnone hlast => exact .inr ⟨hnone, _, hlast, rfl⟩

/-- A port is resolved if and only if it goes by some name. -/
theorem mem_resolve_iff {port : ContainerPort} :
    port ∈ resolve defaults declared ↔ ∃ name, GoesBy defaults declared name port := by
  simp only [resolve, List.mem_map, Prod.exists, exists_eq_right, ← get?_port_map_eq_some_iff]
  exact exists_congr fun name => Entries.mem_iff_lookup (portMap defaults declared).sorted.nodup

/-- The names of the resolved ports strictly increase. -/
theorem map_name_resolve :
    (resolve defaults declared).map ContainerPort.name =
        ((portMap defaults declared).entries.map Prod.fst).map some ∧
      ((portMap defaults declared).entries.map Prod.fst).Pairwise (· < ·) := by
  constructor
  · rw [resolve, List.map_map, List.map_map]
    refine List.map_congr_left fun (name, port) hentry => ?_
    have hfound : (portMap defaults declared).get? name = some port :=
      (Entries.mem_iff_lookup (portMap defaults declared).sorted.nodup).1 hentry
    exact (get?_port_map_eq_some_iff.1 hfound).name_eq
  · exact List.pairwise_map.2 (portMap defaults declared).sorted

/-- One port comes before another one by its name. -/
def Before (one two : ContainerPort) : Prop :=
  ∃ first second, one.name = some first ∧ two.name = some second ∧ first < second

/-- Of two ports only one comes before the other. -/
theorem Before.not_before {one two : ContainerPort} (h : Before one two) : ¬ Before two one := by
  obtain ⟨first, second, hone, htwo, hlt⟩ := h
  intro ⟨second', first', htwo', hone', hlt'⟩
  obtain rfl := Option.some.inj (hone.symm.trans hone')
  obtain rfl := Option.some.inj (htwo.symm.trans htwo')
  exact String.lt_irrefl _ (String.lt_trans hlt hlt')

namespace IsResolution

variable {ports : List ContainerPort} (h : IsResolution defaults declared ports)

include h

/-- The ports of a resolution are those that go by some name. -/
theorem mem_iff {port : ContainerPort} :
    port ∈ ports ↔ ∃ name, GoesBy defaults declared name port := by
  obtain ⟨names, hnames, -⟩ := h.increasing
  constructor
  · intro hport
    have hname : port.name ∈ names.map some := hnames ▸ List.mem_map_of_mem hport
    obtain ⟨name, -, hname⟩ := List.mem_map.1 hname
    exact ⟨name, h.goesBy port hport name hname.symm⟩
  · intro ⟨name, hgoes⟩
    obtain ⟨other, hother, hname⟩ := (h.occurs name).2 (exists_goes_by_iff.1 ⟨port, hgoes⟩)
    exact hgoes.eq (h.goesBy other hother name hname) ▸ hother

/-- The ports of a resolution are in the order of their names. -/
theorem pairwise : ports.Pairwise Before := by
  obtain ⟨names, hnames, hincreasing⟩ := h.increasing
  have hmapped : (ports.map ContainerPort.name).Pairwise fun one two =>
      ∃ first second, one = some first ∧ two = some second ∧ first < second := by
    rw [hnames]
    exact List.pairwise_map.2 (hincreasing.imp fun hlt => ⟨_, _, rfl, rfl, hlt⟩)
  rw [List.pairwise_map] at hmapped
  exact hmapped

/-- The ports of a resolution are different. -/
theorem nodup : ports.Nodup := by
  refine h.pairwise.imp fun hbefore heq => ?_
  subst heq
  exact hbefore.not_before hbefore

/-- The resolution is unique. -/
theorem eq {other : List ContainerPort} (hother : IsResolution defaults declared other) :
    ports = other := by
  refine List.Perm.eq_of_pairwise ?_ h.pairwise hother.pairwise ?_
  · exact fun one two _ _ hbefore hafter => absurd hafter hbefore.not_before
  · rw [List.perm_ext_iff_of_nodup h.nodup hother.nodup]
    exact fun port => h.mem_iff.trans hother.mem_iff.symm

end IsResolution

/-- A resolved port goes by its name. -/
theorem goes_by_of_mem_resolve {name : String} {port : ContainerPort}
    (hport : port ∈ resolve defaults declared) (hname : port.name = some name) :
    GoesBy defaults declared name port := by
  obtain ⟨other, hgoes⟩ := mem_resolve_iff.1 hport
  obtain rfl := Option.some.inj (hgoes.name_eq.symm.trans hname)
  exact hgoes

/-- A name occurs among the resolved ports if and only if some port goes by it. -/
theorem exists_mem_resolve_iff {name : String} :
    (∃ port ∈ resolve defaults declared, port.name = some name) ↔
      ∃ port, GoesBy defaults declared name port := by
  constructor
  · intro ⟨port, hport, hname⟩
    exact ⟨port, goes_by_of_mem_resolve hport hname⟩
  · intro ⟨port, hgoes⟩
    exact ⟨port, mem_resolve_iff.2 ⟨name, hgoes⟩, hgoes.name_eq⟩

/-- The resolved ports are a resolution. -/
theorem is_resolution_resolve :
    IsResolution defaults declared (resolve defaults declared) where
  increasing := ⟨_, map_name_resolve⟩
  occurs := fun _ => exists_mem_resolve_iff.trans exists_goes_by_iff
  goesBy := fun _ hport _ => goes_by_of_mem_resolve hport

/-- The resolved ports are the only resolution: they strictly increase in their names, there is one
for every name that is declared or that a valid default is cut to, and it is the last declared port
of the name or else the last such default. -/
theorem is_resolution_iff {ports : List ContainerPort} :
    IsResolution defaults declared ports ↔ ports = resolve defaults declared := by
  constructor
  · intro h
    exact h.eq is_resolution_resolve
  · intro heq
    subst heq
    exact is_resolution_resolve

/-- Of two defaults that are cut to one name the later one is taken, one that is not valid is left
out, and a declared port stands for itself, though it has no protocol. -/
example :
    resolve [⟨"containerinsightsreceiver", 4311, "TCP"⟩, ⟨"zero", 0, "TCP"⟩,
        ⟨"containerinsights", 4312, "UDP"⟩, ⟨"statsd", 8125, "UDP"⟩]
      [{ name := some "statsd", port := 9125 }] =
      [{ name := some "containerinsigh", containerPort := 4312, protocol := some "UDP" },
        { name := some "statsd", containerPort := 9125 }] := by
  decide +kernel

end Ports

end AgentOperator
