import AgentOperator.Agent.Spec
import AgentOperator.Manifest.Naming
import AgentOperator.Manifest.Path

/-!
# Volumes and mounts

The volumes of the agent's pod and where its container mounts them: the primary configuration, the
auxiliary config maps, and what the resource declares.
-/

namespace AgentOperator.Volumes

open Kubernetes

/-- The name of the volume with the primary configuration. -/
def configVolume : String := "cwagent-config"

/-- Where the primary configuration is mounted. -/
def configMountPath : String := "/etc/cwagentconfig"

/-- The directory below which the auxiliary config maps are mounted. -/
def auxiliaryBase : String := "/var/conf"

/-- Where an auxiliary config map is mounted. -/
def auxiliaryPath (bundle : AuxiliaryConfig) : String :=
  Path.join [auxiliaryBase, bundle.mountPath, Naming.auxiliaryVolume bundle.name]

/-- The mount of an auxiliary config map. -/
def auxiliaryMount (bundle : AuxiliaryConfig) : VolumeMount :=
  { name := Naming.auxiliaryVolume bundle.name, mountPath := auxiliaryPath bundle }

/-- The mount of the primary configuration. -/
def configMount : VolumeMount := { name := configVolume, mountPath := configMountPath }

/-- The mounts of the agent's container: the primary configuration, the declared mounts, and the
auxiliary config maps. -/
def mounts (spec : AgentSpec) (addConfig : Bool) : List VolumeMount :=
  (if addConfig then [configMount] else []) ++ spec.volumeMounts
    ++ spec.configMaps.map auxiliaryMount

/-- The volume that shows one key of the config map with the primary configuration. -/
def configSource (configMapName entry : String) : Volume :=
  { name := configVolume,
    configMap := some { name := configMapName, items := some [{ key := entry, path := entry }] } }

/-- The volume of an auxiliary config map. -/
def auxiliarySource (bundle : AuxiliaryConfig) : Volume :=
  { name := Naming.auxiliaryVolume bundle.name, configMap := some { name := bundle.name } }

/-- The volumes of the agent's pod: the primary configuration, the auxiliary config maps, and the
declared volumes. -/
def volumes (configMapName entry : String) (spec : AgentSpec) : List Volume :=
  [configSource configMapName entry] ++ spec.configMaps.map auxiliarySource ++ spec.volumes

end AgentOperator.Volumes
