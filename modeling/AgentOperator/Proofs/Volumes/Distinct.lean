import AgentOperator.Proofs.Manifest.References
import AgentOperator.Proofs.Naming.Auxiliary
import Mathlib.Data.List.Nodup

/-!
# The names of volumes

The volumes of a pod must have different names. The volumes that the operator adds have names of
their own, but those of auxiliary config maps are cut and sanitised, so that two of them may be
equal. `volumes_distinct_iff` says when the names of all volumes are different, which is when every
auxiliary mount shows the config map that it was declared for. `volumes_share_name` shows both ways
in which two names become equal.
-/

namespace AgentOperator.Volumes

open Kubernetes

/-- A mount names exactly one of some volumes, which shows an auxiliary config map. -/
def ShowsOnly (volumes : List Volume) (bundle : AuxiliaryConfig) (mount : VolumeMount) : Prop :=
  ∃ volume ∈ volumes, Shows volume (some bundle.name) ∧
    ∀ other ∈ volumes, other.name = mount.name ↔ other = volume

/-- Declared volumes keep clear of those of the operator: they have different names, none of which
is that of the primary configuration or begins like those of auxiliary volumes. -/
structure KeepClear (declared : List Volume) : Prop where
  distinct : (declared.map Volume.name).Nodup
  notPrimary : ∀ volume ∈ declared, volume.name ≠ configVolume
  notAuxiliary : ∀ volume ∈ declared, ¬ Naming.auxiliaryWord.toList <+: volume.name.toList

/-- No declared volumes keep clear. -/
theorem keep_clear_nil : KeepClear [] where
  distinct := List.nodup_nil
  notPrimary _ hvolume := absurd hvolume List.not_mem_nil
  notAuxiliary _ hvolume := absurd hvolume List.not_mem_nil

/-- The volume of the primary configuration has another name than auxiliary ones. -/
theorem config_volume_ne_auxiliary_volume (name : String) :
    configVolume ≠ Naming.auxiliaryVolume name := by
  intro heq
  have hstem := Naming.stem_prefix_auxiliary_volume name
  rw [← heq] at hstem
  revert hstem
  decide

/-- Auxiliary volumes have different names if and only if the names of their config maps have
different readings up to the cut. -/
theorem nodup_auxiliary_volume_iff {bundles : List AuxiliaryConfig}
    (hbundles : ∀ bundle ∈ bundles, Naming.IsSubdomain bundle.name) :
    (bundles.map fun bundle => Naming.auxiliaryVolume bundle.name).Nodup ↔
      (bundles.map fun bundle => Naming.auxiliaryReading bundle.name).Nodup := by
  rw [List.Nodup, List.Nodup, List.pairwise_map, List.pairwise_map]
  refine List.Pairwise.iff_of_mem fun hone htwo => ?_
  exact not_congr (Naming.auxiliary_volume_eq_iff (hbundles _ hone) (hbundles _ htwo))

/-- The volumes of a pod have different names if and only if the names of the auxiliary config maps
have different readings up to the cut, if the declared volumes keep clear. -/
theorem nodup_map_name_iff {spec : AgentSpec} (configMapName entry : String)
    (hbundles : ∀ bundle ∈ spec.configMaps, Naming.IsSubdomain bundle.name)
    (hdeclared : KeepClear spec.volumes) :
    ((volumes configMapName entry spec).map Volume.name).Nodup ↔
      (spec.configMaps.map fun bundle => Naming.auxiliaryReading bundle.name).Nodup := by
  have hnames : (volumes configMapName entry spec).map Volume.name =
      configVolume :: (spec.configMaps.map (fun bundle => Naming.auxiliaryVolume bundle.name) ++
        spec.volumes.map Volume.name) := by
    rw [volumes, List.map_append, List.map_append, List.map_map, List.append_assoc]
    rfl
  have hprimary : configVolume ∉
      spec.configMaps.map (fun bundle => Naming.auxiliaryVolume bundle.name) ++
        spec.volumes.map Volume.name := by
    rw [List.mem_append, List.mem_map, List.mem_map]
    rintro (⟨bundle, -, heq⟩ | ⟨volume, hvolume, heq⟩)
    · exact config_volume_ne_auxiliary_volume bundle.name heq.symm
    · exact hdeclared.notPrimary volume hvolume heq
  have hauxiliary : List.Disjoint
      (spec.configMaps.map fun bundle => Naming.auxiliaryVolume bundle.name)
      (spec.volumes.map Volume.name) := by
    intro name hbundle hvolume
    obtain ⟨bundle, -, rfl⟩ := List.mem_map.1 hbundle
    obtain ⟨volume, hvolume, heq⟩ := List.mem_map.1 hvolume
    refine hdeclared.notAuxiliary volume hvolume ?_
    rw [heq]
    exact Naming.stem_prefix_auxiliary_volume bundle.name
  rw [hnames, List.nodup_cons, List.nodup_append', nodup_auxiliary_volume_iff hbundles]
  exact ⟨fun h => h.2.1, fun h => ⟨hprimary, h, hdeclared.distinct, hauxiliary⟩⟩

/-- Different names of config maps that are short and without dots have different readings. -/
theorem nodup_auxiliary_reading {bundles : List AuxiliaryConfig}
    (hnames : (bundles.map AuxiliaryConfig.name).Nodup)
    (hplain : ∀ bundle ∈ bundles, '.' ∉ bundle.name.toList ∧
      (Naming.auxiliaryStem ++ bundle.name).toList.length ≤ Naming.maxLabelLength) :
    (bundles.map fun bundle => Naming.auxiliaryReading bundle.name).Nodup := by
  rw [List.Nodup, List.pairwise_map] at hnames ⊢
  refine hnames.imp_of_mem fun hone htwo hne heq => hne ?_
  obtain ⟨hdots, hshort⟩ := hplain _ hone
  obtain ⟨hdots', hshort'⟩ := hplain _ htwo
  rw [Naming.auxiliary_reading_of_plain hshort hdots,
    Naming.auxiliary_reading_of_plain hshort' hdots', List.append_right_inj,
    String.toList_inj] at heq
  exact heq

/-- If the volumes of a pod have different names, the mount of an auxiliary config map names exactly
the one that shows it. -/
theorem shows_only_auxiliary_mount {configMapName entry : String} {spec : AgentSpec}
    (h : ((volumes configMapName entry spec).map Volume.name).Nodup) {bundle : AuxiliaryConfig}
    (hbundle : bundle ∈ spec.configMaps) :
    ShowsOnly (volumes configMapName entry spec) bundle (auxiliaryMount bundle) := by
  have hmem : auxiliarySource bundle ∈ volumes configMapName entry spec :=
    auxiliary_source_mem_volumes hbundle
  obtain ⟨hname, hshows⟩ := shows_auxiliary_source bundle
  refine ⟨auxiliarySource bundle, hmem, hshows, fun other hother => ?_⟩
  rw [← hname]
  exact ⟨fun heq => List.inj_on_of_nodup_map h hother hmem heq, congrArg Volume.name⟩

/-- The volumes of the pods of an agent. -/
theorem agent_pod_template_volumes (settings : Settings) (agent : Agent) :
    ∃ pod, (agentPodTemplate settings agent).spec = some pod ∧
      pod.volumes =
        some (volumes (Naming.configMap agent.name) settings.configMapEntry agent.spec) :=
  ⟨_, rfl, rfl⟩

/-- The volumes of an agent's pod have different names, if the names of the auxiliary config maps
are subdomains and the declared volumes keep clear, if and only if the names of the config maps have
different readings behind the stem up to the cut, as different names have that are short and without
dots. Then every auxiliary mount names exactly one volume of the pod, the one that shows its config
map. -/
theorem volumes_distinct_iff (settings : Settings) {agent : Agent}
    (hbundles : ∀ bundle ∈ agent.spec.configMaps, Naming.IsSubdomain bundle.name)
    (hdeclared : KeepClear agent.spec.volumes) :
    ∃ pod volumes container first auxiliaries,
      (agentPodTemplate settings agent).spec = some pod ∧ pod.volumes = some volumes ∧
      pod.containers = [container] ∧
      container.volumeMounts = some (first :: agent.spec.volumeMounts ++ auxiliaries) ∧
      ((volumes.map Volume.name).Nodup ↔
        (agent.spec.configMaps.map fun bundle => Naming.auxiliaryReading bundle.name).Nodup) ∧
      ((agent.spec.configMaps.map AuxiliaryConfig.name).Nodup →
        (∀ bundle ∈ agent.spec.configMaps, '.' ∉ bundle.name.toList ∧
          (Naming.auxiliaryStem ++ bundle.name).toList.length ≤ Naming.maxLabelLength) →
        (volumes.map Volume.name).Nodup) ∧
      ((volumes.map Volume.name).Nodup →
        List.Forall₂ (ShowsOnly volumes) agent.spec.configMaps auxiliaries) := by
  have hdistinct := nodup_map_name_iff (Naming.configMap agent.name) settings.configMapEntry
    hbundles hdeclared
  refine ⟨_, _, _, configMount, agent.spec.configMaps.map auxiliaryMount, rfl, rfl, rfl, rfl,
    hdistinct, fun hnames hplain => ?_, fun hnodup => ?_⟩
  · exact hdistinct.2 (nodup_auxiliary_reading hnames hplain)
  · rw [List.forall₂_map_right_iff, List.forall₂_same]
    exact fun bundle => shows_only_auxiliary_mount hnodup

/-- An agent with some auxiliary config maps and volumes. -/
def agentWithBundles (names : List String) (declared : List Volume) : Agent :=
  { metadata := { name := some "sample" }
    spec := { configMaps := names.map fun name => { name := name }, volumes := declared } }

/-- Config maps whose names differ behind a dot have different volumes beside a declared one. -/
theorem dotted_bundles_apart :
    let agent := agentWithBundles ["prom.edge", "prom.core"] [{ name := "logs" }]
    (∀ bundle ∈ agent.spec.configMaps, Naming.IsSubdomain bundle.name) ∧
      KeepClear agent.spec.volumes ∧
      ∃ pod volumes, (agentPodTemplate {} agent).spec = some pod ∧ pod.volumes = some volumes ∧
        (volumes.map Volume.name).Nodup := by
  intro agent
  have hbundles : ∀ bundle ∈ agent.spec.configMaps, Naming.IsSubdomain bundle.name := by decide
  have hdeclared : KeepClear agent.spec.volumes := ⟨by decide, by decide, by decide⟩
  obtain ⟨pod, volumes, _, _, _, hpod, hvolumes, -, -, hdistinct, -, -⟩ :=
    volumes_distinct_iff {} hbundles hdeclared
  exact ⟨hbundles, hdeclared, pod, volumes, hpod, hvolumes, hdistinct.2 (by decide)⟩

/-- Auxiliary config maps with different names, but two volumes of one name. -/
def ShareName (first second : String) : Prop :=
  first ≠ second ∧ Naming.IsSubdomain first ∧ Naming.IsSubdomain second ∧
    ∃ pod volumes, (agentPodTemplate {} (agentWithBundles [first, second] [])).spec = some pod ∧
      pod.volumes = some volumes ∧ ¬ (volumes.map Volume.name).Nodup

/-- Config maps whose names are subdomains with one reading behind the stem share the name of their
volumes. -/
theorem share_name_of_auxiliary_reading_eq {first second : String} (hne : first ≠ second)
    (hfirst : Naming.IsSubdomain first) (hsecond : Naming.IsSubdomain second)
    (heq : Naming.auxiliaryReading first = Naming.auxiliaryReading second) :
    ShareName first second := by
  have hbundles : ∀ bundle ∈ (agentWithBundles [first, second] []).spec.configMaps,
      Naming.IsSubdomain bundle.name := by
    intro bundle hbundle
    rcases List.mem_pair.1 hbundle with rfl | rfl
    · exact hfirst
    · exact hsecond
  have hreadings : ¬ ((agentWithBundles [first, second] []).spec.configMaps.map
      fun bundle => Naming.auxiliaryReading bundle.name).Nodup := by
    show ¬ [Naming.auxiliaryReading first, Naming.auxiliaryReading second].Nodup
    rw [heq]
    exact fun hnodup => (List.nodup_cons.1 hnodup).1 (List.mem_singleton_self _)
  obtain ⟨pod, hpod, hvolumes⟩ :=
    agent_pod_template_volumes {} (agentWithBundles [first, second] [])
  refine ⟨hne, hfirst, hsecond, pod, _, hpod, hvolumes, fun hnodup => hreadings ?_⟩
  exact (nodup_map_name_iff _ _ hbundles keep_clear_nil).1 hnodup

/-- Two volumes have one name if a hyphen replaces a dot, and if the names of their config maps
differ behind the cut only. -/
theorem volumes_share_name :
    ShareName "web.api" "web-api" ∧
      ShareName (String.ofList (List.replicate 53 'a' ++ ['b']))
        (String.ofList (List.replicate 53 'a' ++ ['c'])) :=
  ⟨share_name_of_auxiliary_reading_eq (by decide) (by decide) (by decide) (by decide),
    share_name_of_auxiliary_reading_eq (by decide) (by decide) (by decide) (by decide)⟩

end AgentOperator.Volumes
