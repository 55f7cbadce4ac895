import AgentOperator.Proofs.Manifest.Arguments
import AgentOperator.Proofs.Volumes.Containment
import AgentOperator.Proofs.Volumes.Distinct

/-!
# The file of the configuration

The first argument of the agent's container names a file. Whether there is such a file depends on
the mounts of the container and on the volumes that they mount. The operator mounts the config map
that it makes in another directory than the one in the argument, so that the file exists only by
another mount. `PutsConfig` lists the possible mounts, and `config_file_opened_iff` is the
condition.
-/

namespace AgentOperator.Volumes

open Kubernetes

/-- Some items of a volume map a key to the file `path`; without items every key is mapped to a file
of its own name. -/
def ShowsKey (items : Option (List KeyToPath)) (key path : String) : Prop :=
  match items with
  | none => path = key
  | some items => ∃ item ∈ items, item.key = key ∧ item.path = path

/-- A volume shows a key of the config map named `name` as the file `path`: the volume is that
config map, or one of its projected sources is. -/
def Projects (volume : Volume) (name : Option String) (key path : String) : Prop :=
  (∃ source, volume.configMap = some source ∧ some source.name = name ∧
    ShowsKey source.items key path) ∨
  ∃ projected sources, volume.projected = some projected ∧ projected.sources = some sources ∧
    ∃ part ∈ sources, ∃ source, part.configMap = some source ∧ some source.name = name ∧
      ShowsKey source.items key path

/-- A mount of one of some volumes that shows a key of a config map puts the file at `path`. -/
def Backs (volumes : List Volume) (name : Option String) (key path : String)
    (mount : VolumeMount) : Prop :=
  ∃ volume ∈ volumes, volume.name = mount.name ∧
    ∃ file, Projects volume name key file ∧ path = mount.mountPath ++ "/" ++ file

/-- The first argument of a pod's container sets the configuration to a path at which the container
has the one key of a config map. -/
def OpensConfig (template : PodTemplateSpec) (configMap : ConfigMap) : Prop :=
  ∃ pod container volumes mounts path rest data key,
    template.spec = some pod ∧ pod.containers = [container] ∧ pod.volumes = some volumes ∧
    container.volumeMounts = some mounts ∧ container.args = some (("--config=" ++ path) :: rest) ∧
    configMap.data = some data ∧ data.keys = [key] ∧
    ∃ mount ∈ mounts, Backs volumes configMap.metadata.name key path mount

/-- The ways in which a mount puts the configuration of an agent at the path of the argument: it
mounts the operator's own volume in that directory; it mounts the volume of the config map that is
made in that directory, as an auxiliary one; or it mounts a declared volume that shows the config
map that is made, such that the file has the path. -/
inductive PutsConfig (settings : Settings) (agent : Agent) (mount : VolumeMount) : Prop
  | primary (hname : mount.name = configVolume) (hpath : mount.mountPath = Args.configDir)
  | auxiliary {bundle : AuxiliaryConfig} (hbundle : bundle ∈ agent.spec.configMaps)
      (hmade : bundle.name = Naming.configMap agent.name)
      (hname : mount.name = Naming.auxiliaryVolume bundle.name)
      (hpath : mount.mountPath = Args.configDir)
  | declared {volume : Volume} {file : String} (hvolume : volume ∈ agent.spec.volumes)
      (hname : volume.name = mount.name)
      (hprojects :
        Projects volume (some (Naming.configMap agent.name)) settings.configMapEntry file)
      (hpath : Args.configDir ++ "/" ++ settings.configMapEntry = mount.mountPath ++ "/" ++ file)

variable {name : Option String} {key path : String}

/-- The operator's volume shows the key of the configuration under its own name, and no other
one. -/
theorem projects_config_source_iff {configMapName entry : String} :
    Projects (configSource configMapName entry) name key path ↔
      some configMapName = name ∧ entry = key ∧ entry = path := by
  simp [Projects, ShowsKey, configSource]

/-- The volume of an auxiliary config map shows every key under its own name. -/
theorem projects_auxiliary_source_iff {bundle : AuxiliaryConfig} :
    Projects (auxiliarySource bundle) name key path ↔ some bundle.name = name ∧ path = key := by
  simp [Projects, ShowsKey, auxiliarySource]

/-- Files of one name have one path if and only if they are in one directory. -/
theorem append_file_inj {directory other file : String} :
    directory ++ "/" ++ file = other ++ "/" ++ file ↔ other = directory := by
  rw [String.append_left_inj, String.append_left_inj, eq_comm]

/-- No file below the operator's own mount has the path of the argument. -/
theorem config_path_ne (entry file : String) :
    Args.configDir ++ "/" ++ entry ≠ configMountPath ++ "/" ++ file := by
  intro heq
  have hsecond := congrArg (fun path => path.toList[1]?) heq
  simp [Args.configDir, configMountPath] at hsecond

/-- No auxiliary config map is mounted in the directory of the argument. -/
theorem auxiliary_path_ne_config_dir (bundle : AuxiliaryConfig) :
    auxiliaryPath bundle ≠ Args.configDir := by
  have hdir : Args.configDir = String.ofList (Path.render [['c', 'o', 'n', 'f']]) := by decide
  have hplace : Path.IsPlace [['c', 'o', 'n', 'f']] := by
    intro segment hsegment
    obtain rfl := List.mem_singleton.1 hsegment
    exact ⟨by decide, by decide⟩
  intro heq
  rw [auxiliary_path_eq, hdir, String.ofList_inj,
    Path.render_inj (is_place_auxiliary_path bundle) hplace] at heq
  have hstem := Naming.stem_prefix_auxiliary_volume bundle.name
  rw [(List.cons.inj heq).1] at hstem
  exact absurd hstem (by decide)

variable {settings : Settings} {agent : Agent} {mount : VolumeMount}

/-- The mounts that put the configuration at the path of the argument are those of `PutsConfig`. -/
theorem backs_iff : Backs
    (volumes (Naming.configMap agent.name) settings.configMapEntry agent.spec)
    (some (Naming.configMap agent.name)) settings.configMapEntry
    (Args.configDir ++ "/" ++ settings.configMapEntry) mount ↔ PutsConfig settings agent mount := by
  constructor
  · rintro ⟨volume, hvolume, hname, file, hprojects, hpath⟩
    rcases List.mem_append.1 hvolume with hvolume | hvolume
    · rcases List.mem_append.1 hvolume with hvolume | hvolume
      · obtain rfl := List.mem_singleton.1 hvolume
        obtain ⟨-, -, rfl⟩ := projects_config_source_iff.1 hprojects
        exact .primary hname.symm (append_file_inj.1 hpath)
      · obtain ⟨bundle, hbundle, rfl⟩ := List.mem_map.1 hvolume
        obtain ⟨hmade, rfl⟩ := projects_auxiliary_source_iff.1 hprojects
        exact .auxiliary hbundle (Option.some.inj hmade) hname.symm (append_file_inj.1 hpath)
    · exact .declared hvolume hname hprojects hpath
  · intro h
    cases h with
    | primary hname hpath =>
        exact ⟨_, List.mem_append_left _ (List.mem_append_left _ (List.mem_singleton_self _)),
          hname.symm, _, projects_config_source_iff.2 ⟨rfl, rfl, rfl⟩, append_file_inj.2 hpath⟩
    | auxiliary hbundle hmade hname hpath =>
        exact ⟨_, auxiliary_source_mem_volumes hbundle, hname.symm, _,
          projects_auxiliary_source_iff.2 ⟨congrArg some hmade, rfl⟩, append_file_inj.2 hpath⟩
    | declared hvolume hname hprojects hpath =>
        exact ⟨_, List.mem_append_right _ hvolume, hname, _, hprojects, hpath⟩

/-- The operator's own mount does not put the configuration at the path of the argument. -/
theorem not_puts_config_config_mount : ¬ PutsConfig settings agent configMount := by
  intro h
  obtain ⟨-, -, -, file, -, hpath⟩ := backs_iff.2 h
  exact config_path_ne settings.configMapEntry file hpath

/-- If all volumes of a pod have different names, no mount of an auxiliary config map puts the
configuration at the path of the argument. -/
theorem not_puts_config_auxiliary_mount
    (hnodup : ((volumes (Naming.configMap agent.name) settings.configMapEntry agent.spec).map
      Volume.name).Nodup)
    {bundle : AuxiliaryConfig} (hbundle : bundle ∈ agent.spec.configMaps) :
    ¬ PutsConfig settings agent (auxiliaryMount bundle) := by
  intro h
  obtain ⟨volume, hvolume, hname, file, hprojects, hpath⟩ := backs_iff.2 h
  obtain rfl : volume = auxiliarySource bundle :=
    List.inj_on_of_nodup_map hnodup hvolume (auxiliary_source_mem_volumes hbundle) hname
  obtain ⟨-, rfl⟩ := projects_auxiliary_source_iff.1 hprojects
  exact auxiliary_path_ne_config_dir bundle (append_file_inj.1 hpath)

/-- An agent opens the configuration if and only if some mount of its container puts it at the path
of the argument. -/
theorem opens_config_iff : OpensConfig (agentPodTemplate settings agent)
    (agentConfigMap settings agent) ↔ ∃ mount ∈ mounts agent.spec true,
      PutsConfig settings agent mount := by
  constructor
  · rintro ⟨pod, container, volumes, mounts, path, rest, data, key, hpod, hcontainers, hvolumes,
      hmounts, hargs, hdata, hkey, mount, hmount, hbacks⟩
    obtain rfl := Option.some.inj hpod
    obtain rfl := (List.cons.inj hcontainers).1
    obtain rfl := Option.some.inj hvolumes
    obtain rfl := Option.some.inj hmounts
    obtain rfl := Option.some.inj hdata
    obtain rfl := (List.cons.inj hkey).1
    have hfirst : Args.render Args.configFlag (Args.configDir ++ "/" ++ settings.configMapEntry) =
        "--config=" ++ path := (List.cons.inj (Option.some.inj hargs)).1
    rw [Args.render_config_flag, String.append_right_inj] at hfirst
    obtain rfl := hfirst
    exact ⟨mount, hmount, backs_iff.1 hbacks⟩
  · rintro ⟨mount, hmount, hputs⟩
    exact ⟨_, _, _, _, Args.configDir ++ "/" ++ settings.configMapEntry, _, _, _, rfl, rfl, rfl,
      rfl, rfl, rfl, rfl, mount, hmount, backs_iff.2 hputs⟩

/-- An agent opens the configuration at the path of its argument if and only if a mount that the
resource declares, or one of an auxiliary config map, puts it there. The latter is impossible if the
volumes of the pod have different names. -/
theorem config_file_opened_iff (settings : Settings) (agent : Agent) :
    (OpensConfig (agentPodTemplate settings agent) (agentConfigMap settings agent) ↔
      ∃ mount ∈ agent.spec.volumeMounts ++ agent.spec.configMaps.map auxiliaryMount,
        PutsConfig settings agent mount) ∧
    (((volumes (Naming.configMap agent.name) settings.configMapEntry agent.spec).map
        Volume.name).Nodup →
      (OpensConfig (agentPodTemplate settings agent) (agentConfigMap settings agent) ↔
        ∃ mount ∈ agent.spec.volumeMounts, PutsConfig settings agent mount)) := by
  have hopens : OpensConfig (agentPodTemplate settings agent) (agentConfigMap settings agent) ↔
      ∃ mount ∈ agent.spec.volumeMounts ++ agent.spec.configMaps.map auxiliaryMount,
        PutsConfig settings agent mount := by
    rw [opens_config_iff]
    constructor
    · rintro ⟨mount, hmount, hputs⟩
      rcases List.mem_cons.1 hmount with rfl | hmount
      · exact absurd hputs not_puts_config_config_mount
      · exact ⟨mount, hmount, hputs⟩
    · rintro ⟨mount, hmount, hputs⟩
      exact ⟨mount, List.mem_cons_of_mem _ hmount, hputs⟩
  refine ⟨hopens, fun hnodup => ?_⟩
  rw [hopens]
  constructor
  · rintro ⟨mount, hmount, hputs⟩
    rcases List.mem_append.1 hmount with hmount | hmount
    · exact ⟨mount, hmount, hputs⟩
    · obtain ⟨bundle, hbundle, rfl⟩ := List.mem_map.1 hmount
      exact absurd hputs (not_puts_config_auxiliary_mount hnodup hbundle)
  · rintro ⟨mount, hmount, hputs⟩
    exact ⟨mount, List.mem_append_left _ hmount, hputs⟩

/-- An agent whose resource declares nothing does not open its configuration. -/
theorem config_file_missing :
    let agent : Agent := { metadata := { name := some "sample" }, spec := {} }
    ¬ OpensConfig (agentPodTemplate {} agent) (agentConfigMap {} agent) := by
  intro agent
  rw [opens_config_iff]
  rintro ⟨mount, hmount, hputs⟩
  obtain rfl := List.mem_singleton.1 hmount
  exact not_puts_config_config_mount hputs

/-- An agent finds its configuration if the resource mounts the operator's volume a second time. -/
example :
    let mount : VolumeMount := { name := "cwagent-config", mountPath := "/conf" }
    let agent : Agent :=
      { metadata := { name := some "sample" }, spec := { volumeMounts := [mount] } }
    OpensConfig (agentPodTemplate {} agent) (agentConfigMap {} agent) :=
  opens_config_iff.2
    ⟨_, List.mem_cons_of_mem _ (List.mem_append_left _ (List.mem_singleton_self _)),
      .primary rfl rfl⟩

end AgentOperator.Volumes
