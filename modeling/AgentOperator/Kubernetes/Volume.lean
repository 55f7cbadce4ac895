import AgentOperator.Kubernetes.Claim
import AgentOperator.Kubernetes.Projection
import AgentOperator.Kubernetes.Storage

/-!
# Volumes

The volumes of a pod and the places where a container mounts them.
-/

namespace AgentOperator.Kubernetes

/-- A volume that starts empty and lives as long as the pod. -/
structure EmptyDirVolumeSource where
  medium : Option String := none
  sizeLimit : Option String := none
deriving DecidableEq

/-- Empty volumes as documents. -/
def EmptyDirVolumeSource.codec : Codec EmptyDirVolumeSource :=
  .kubernetes "EmptyDirVolumeSource" <|
    Fields.build EmptyDirVolumeSource EmptyDirVolumeSource.mk
    |>.field "medium" medium (.optional .text)
    |>.field "sizeLimit" sizeLimit (.optional quantity)

/-- A directory of the node. -/
structure HostPathVolumeSource where
  path : String
  type : Option String := none
deriving DecidableEq

/-- Directories of the node as documents. -/
def HostPathVolumeSource.codec : Codec HostPathVolumeSource :=
  .kubernetes "HostPathVolumeSource" <|
    Fields.build HostPathVolumeSource HostPathVolumeSource.mk
    |>.field "path" path (.required .text "")
    |>.field "type" type (.optional .text)

/-- A volume of a pod, with the name by which containers mount it and with where it comes from. -/
structure Volume where
  name : String
  configMap : Option ConfigMapVolumeSource := none
  secret : Option SecretVolumeSource := none
  emptyDir : Option EmptyDirVolumeSource := none
  hostPath : Option HostPathVolumeSource := none
  persistentVolumeClaim : Option PersistentVolumeClaimVolumeSource := none
  projected : Option ProjectedVolumeSource := none
  downwardAPI : Option DownwardAPIVolumeSource := none
  ephemeral : Option EphemeralVolumeSource := none
  csi : Option CSIVolumeSource := none
  nfs : Option NFSVolumeSource := none
  awsElasticBlockStore : Option AWSElasticBlockStoreVolumeSource := none
  azureDisk : Option AzureDiskVolumeSource := none
  azureFile : Option AzureFileVolumeSource := none
  cephfs : Option CephFSVolumeSource := none
  cinder : Option CinderVolumeSource := none
  fc : Option FCVolumeSource := none
  flexVolume : Option FlexVolumeSource := none
  flocker : Option FlockerVolumeSource := none
  gcePersistentDisk : Option GCEPersistentDiskVolumeSource := none
  gitRepo : Option GitRepoVolumeSource := none
  glusterfs : Option GlusterfsVolumeSource := none
  iscsi : Option ISCSIVolumeSource := none
  photonPersistentDisk : Option PhotonPersistentDiskVolumeSource := none
  portworxVolume : Option PortworxVolumeSource := none
  quobyte : Option QuobyteVolumeSource := none
  rbd : Option RBDVolumeSource := none
  scaleIO : Option ScaleIOVolumeSource := none
  storageos : Option StorageOSVolumeSource := none
  vsphereVolume : Option VsphereVirtualDiskVolumeSource := none
deriving DecidableEq

/-- Volumes as documents. -/
def Volume.codec : Codec Volume :=
  .kubernetes "Volume" <|
    Fields.build Volume Volume.mk
    |>.field "name" name (.required .text "")
    |>.field "configMap" configMap (.optional ConfigMapVolumeSource.codec)
    |>.field "secret" secret (.optional SecretVolumeSource.codec)
    |>.field "emptyDir" emptyDir (.optional EmptyDirVolumeSource.codec)
    |>.field "hostPath" hostPath (.optional HostPathVolumeSource.codec)
    |>.field "persistentVolumeClaim" persistentVolumeClaim
      (.optional PersistentVolumeClaimVolumeSource.codec)
    |>.field "projected" projected (.optional ProjectedVolumeSource.codec)
    |>.field "downwardAPI" downwardAPI (.optional DownwardAPIVolumeSource.codec)
    |>.field "ephemeral" ephemeral (.optional EphemeralVolumeSource.codec)
    |>.field "csi" csi (.optional CSIVolumeSource.codec)
    |>.field "nfs" nfs (.optional NFSVolumeSource.codec)
    |>.field "awsElasticBlockStore" awsElasticBlockStore
      (.optional AWSElasticBlockStoreVolumeSource.codec)
    |>.field "azureDisk" azureDisk (.optional AzureDiskVolumeSource.codec)
    |>.field "azureFile" azureFile (.optional AzureFileVolumeSource.codec)
    |>.field "cephfs" cephfs (.optional CephFSVolumeSource.codec)
    |>.field "cinder" cinder (.optional CinderVolumeSource.codec)
    |>.field "fc" fc (.optional FCVolumeSource.codec)
    |>.field "flexVolume" flexVolume (.optional FlexVolumeSource.codec)
    |>.field "flocker" flocker (.optional FlockerVolumeSource.codec)
    |>.field "gcePersistentDisk" gcePersistentDisk (.optional GCEPersistentDiskVolumeSource.codec)
    |>.field "gitRepo" gitRepo (.optional GitRepoVolumeSource.codec)
    |>.field "glusterfs" glusterfs (.optional GlusterfsVolumeSource.codec)
    |>.field "iscsi" iscsi (.optional ISCSIVolumeSource.codec)
    |>.field "photonPersistentDisk" photonPersistentDisk
      (.optional PhotonPersistentDiskVolumeSource.codec)
    |>.field "portworxVolume" portworxVolume (.optional PortworxVolumeSource.codec)
    |>.field "quobyte" quobyte (.optional QuobyteVolumeSource.codec)
    |>.field "rbd" rbd (.optional RBDVolumeSource.codec)
    |>.field "scaleIO" scaleIO (.optional ScaleIOVolumeSource.codec)
    |>.field "storageos" storageos (.optional StorageOSVolumeSource.codec)
    |>.field "vsphereVolume" vsphereVolume (.optional VsphereVirtualDiskVolumeSource.codec)

/-- A volume, by its name, mounted in a container: at which path, which part of it, and whether the
container may write it. -/
structure VolumeMount where
  name : String
  mountPath : String
  readOnly : Option Bool := none
  subPath : Option String := none
  subPathExpr : Option String := none
  mountPropagation : Option String := none
  recursiveReadOnly : Option String := none
deriving DecidableEq

/-- Mounts as documents. -/
def VolumeMount.codec : Codec VolumeMount :=
  .kubernetes "VolumeMount" <|
    Fields.build VolumeMount VolumeMount.mk
    |>.field "name" name (.required .text "")
    |>.field "mountPath" mountPath (.required .text "")
    |>.field "readOnly" readOnly (.optional .boolean)
    |>.field "subPath" subPath (.optional .text)
    |>.field "subPathExpr" subPathExpr (.optional .text)
    |>.field "mountPropagation" mountPropagation (.optional .text)
    |>.field "recursiveReadOnly" recursiveReadOnly (.optional .text)

end AgentOperator.Kubernetes
