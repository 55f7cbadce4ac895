import AgentOperator.Kubernetes.Meta

/-!
# Storage systems

The volumes that a storage system outside the cluster provides: the disks of cloud providers, file
systems and block devices of the network, and the volumes of drivers.
-/

namespace AgentOperator.Kubernetes

/-- A reference to an object in the same namespace. -/
structure LocalObjectReference where
  name : String
deriving DecidableEq

/-- References to objects beside as documents. -/
def LocalObjectReference.codec : Codec LocalObjectReference :=
  .kubernetes "LocalObjectReference" <|
    Fields.build LocalObjectReference LocalObjectReference.mk
    |>.field "name" name (.required .text "")

/-- A disk of Amazon Web Services. -/
structure AWSElasticBlockStoreVolumeSource where
  volumeID : String
  fsType : Option String := none
  partition : Option Int32 := none
  readOnly : Option Bool := none
deriving DecidableEq

/-- Disks of Amazon Web Services as documents. -/
def AWSElasticBlockStoreVolumeSource.codec : Codec AWSElasticBlockStoreVolumeSource :=
  .kubernetes "AWSElasticBlockStoreVolumeSource" <|
    Fields.build AWSElasticBlockStoreVolumeSource AWSElasticBlockStoreVolumeSource.mk
    |>.field "volumeID" volumeID (.required .text "")
    |>.field "fsType" fsType (.optional .text)
    |>.field "partition" partition (.optional .int32)
    |>.field "readOnly" readOnly (.optional .boolean)

/-- A data disk of Azure. -/
structure AzureDiskVolumeSource where
  diskName : String
  diskURI : String
  cachingMode : Option String := none
  fsType : Option String := none
  kind : Option String := none
  readOnly : Option Bool := none
deriving DecidableEq

/-- Data disks of Azure as documents. -/
def AzureDiskVolumeSource.codec : Codec AzureDiskVolumeSource :=
  .kubernetes "AzureDiskVolumeSource" <|
    Fields.build AzureDiskVolumeSource AzureDiskVolumeSource.mk
    |>.field "diskName" diskName (.required .text "")
    |>.field "diskURI" diskURI (.required .text "")
    |>.field "cachingMode" cachingMode (.optional .text)
    |>.field "fsType" fsType (.optional .text)
    |>.field "kind" kind (.optional .text)
    |>.field "readOnly" readOnly (.optional .boolean)

/-- A file share of Azure, with the secret that opens it. -/
structure AzureFileVolumeSource where
  secretName : String
  shareName : String
  readOnly : Option Bool := none
deriving DecidableEq

/-- File shares of Azure as documents. -/
def AzureFileVolumeSource.codec : Codec AzureFileVolumeSource :=
  .kubernetes "AzureFileVolumeSource" <|
    Fields.build AzureFileVolumeSource AzureFileVolumeSource.mk
    |>.field "secretName" secretName (.required .text "")
    |>.field "shareName" shareName (.required .text "")
    |>.field "readOnly" readOnly (.optional .boolean)

/-- A Ceph file system, reached through its monitors. -/
structure CephFSVolumeSource where
  monitors : List String
  path : Option String := none
  readOnly : Option Bool := none
  secretFile : Option String := none
  secretRef : Option LocalObjectReference := none
  user : Option String := none
deriving DecidableEq

/-- Ceph file systems as documents. -/
def CephFSVolumeSource.codec : Codec CephFSVolumeSource :=
  .kubernetes "CephFSVolumeSource" <|
    Fields.build CephFSVolumeSource CephFSVolumeSource.mk
    |>.field "monitors" monitors (.required (.list .text) [])
    |>.field "path" path (.optional .text)
    |>.field "readOnly" readOnly (.optional .boolean)
    |>.field "secretFile" secretFile (.optional .text)
    |>.field "secretRef" secretRef (.optional LocalObjectReference.codec)
    |>.field "user" user (.optional .text)

/-- A volume of OpenStack. -/
structure CinderVolumeSource where
  volumeID : String
  fsType : Option String := none
  readOnly : Option Bool := none
  secretRef : Option LocalObjectReference := none
deriving DecidableEq

/-- Volumes of OpenStack as documents. -/
def CinderVolumeSource.codec : Codec CinderVolumeSource :=
  .kubernetes "CinderVolumeSource" <|
    Fields.build CinderVolumeSource CinderVolumeSource.mk
    |>.field "volumeID" volumeID (.required .text "")
    |>.field "fsType" fsType (.optional .text)
    |>.field "readOnly" readOnly (.optional .boolean)
    |>.field "secretRef" secretRef (.optional LocalObjectReference.codec)

/-- A volume that a driver of the Container Storage Interface provides. -/
structure CSIVolumeSource where
  driver : String
  fsType : Option String := none
  nodePublishSecretRef : Option LocalObjectReference := none
  readOnly : Option Bool := none
  volumeAttributes : Option (Dict String) := none
deriving DecidableEq

/-- Volumes of such drivers as documents. -/
def CSIVolumeSource.codec : Codec CSIVolumeSource :=
  .kubernetes "CSIVolumeSource" <|
    Fields.build CSIVolumeSource CSIVolumeSource.mk
    |>.field "driver" driver (.required .text "")
    |>.field "fsType" fsType (.optional .text)
    |>.field "nodePublishSecretRef" nodePublishSecretRef (.optional LocalObjectReference.codec)
    |>.field "readOnly" readOnly (.optional .boolean)
    |>.field "volumeAttributes" volumeAttributes (.optional (.dict .text))

/-- A volume on a Fibre Channel network, found by its targets or by its identifiers. -/
structure FCVolumeSource where
  fsType : Option String := none
  lun : Option Int32 := none
  readOnly : Option Bool := none
  targetWWNs : Option (List String) := none
  wwids : Option (List String) := none
deriving DecidableEq

/-- Fibre Channel volumes as documents. -/
def FCVolumeSource.codec : Codec FCVolumeSource :=
  .kubernetes "FCVolumeSource" <|
    Fields.build FCVolumeSource FCVolumeSource.mk
    |>.field "fsType" fsType (.optional .text)
    |>.field "lun" lun (.optional .int32)
    |>.field "readOnly" readOnly (.optional .boolean)
    |>.field "targetWWNs" targetWWNs (.optional (.list .text))
    |>.field "wwids" wwids (.optional (.list .text))

/-- A volume that a driver on the node provides, with options for the driver. -/
structure FlexVolumeSource where
  driver : String
  fsType : Option String := none
  options : Option (Dict String) := none
  readOnly : Option Bool := none
  secretRef : Option LocalObjectReference := none
deriving DecidableEq

/-- Volumes of drivers on nodes as documents. -/
def FlexVolumeSource.codec : Codec FlexVolumeSource :=
  .kubernetes "FlexVolumeSource" <|
    Fields.build FlexVolumeSource FlexVolumeSource.mk
    |>.field "driver" driver (.required .text "")
    |>.field "fsType" fsType (.optional .text)
    |>.field "options" options (.optional (.dict .text))
    |>.field "readOnly" readOnly (.optional .boolean)
    |>.field "secretRef" secretRef (.optional LocalObjectReference.codec)

/-- A dataset of Flocker, by its name or by its unique id. -/
structure FlockerVolumeSource where
  datasetName : Option String := none
  datasetUUID : Option String := none
deriving DecidableEq

/-- Datasets of Flocker as documents. -/
def FlockerVolumeSource.codec : Codec FlockerVolumeSource :=
  .kubernetes "FlockerVolumeSource" <|
    Fields.build FlockerVolumeSource FlockerVolumeSource.mk
    |>.field "datasetName" datasetName (.optional .text)
    |>.field "datasetUUID" datasetUUID (.optional .text)

/-- A disk of Google Compute Engine. -/
structure GCEPersistentDiskVolumeSource where
  pdName : String
  fsType : Option String := none
  partition : Option Int32 := none
  readOnly : Option Bool := none
deriving DecidableEq

/-- Disks of Google Compute Engine as documents. -/
def GCEPersistentDiskVolumeSource.codec : Codec GCEPersistentDiskVolumeSource :=
  .kubernetes "GCEPersistentDiskVolumeSource" <|
    Fields.build GCEPersistentDiskVolumeSource GCEPersistentDiskVolumeSource.mk
    |>.field "pdName" pdName (.required .text "")
    |>.field "fsType" fsType (.optional .text)
    |>.field "partition" partition (.optional .int32)
    |>.field "readOnly" readOnly (.optional .boolean)

/-- A checkout of a git repository. -/
structure GitRepoVolumeSource where
  repository : String
  directory : Option String := none
  revision : Option String := none
deriving DecidableEq

/-- Checkouts of git repositories as documents. -/
def GitRepoVolumeSource.codec : Codec GitRepoVolumeSource :=
  .kubernetes "GitRepoVolumeSource" <|
    Fields.build GitRepoVolumeSource GitRepoVolumeSource.mk
    |>.field "repository" repository (.required .text "")
    |>.field "directory" directory (.optional .text)
    |>.field "revision" revision (.optional .text)

/-- A volume of Glusterfs. -/
structure GlusterfsVolumeSource where
  endpoints : String
  path : String
  readOnly : Option Bool := none
deriving DecidableEq

/-- Volumes of Glusterfs as documents. -/
def GlusterfsVolumeSource.codec : Codec GlusterfsVolumeSource :=
  .kubernetes "GlusterfsVolumeSource" <|
    Fields.build GlusterfsVolumeSource GlusterfsVolumeSource.mk
    |>.field "endpoints" endpoints (.required .text "")
    |>.field "path" path (.required .text "")
    |>.field "readOnly" readOnly (.optional .boolean)

/-- A unit of an iSCSI target, with the portals that lead to it. -/
structure ISCSIVolumeSource where
  iqn : String
  lun : Int32
  targetPortal : String
  chapAuthDiscovery : Option Bool := none
  chapAuthSession : Option Bool := none
  fsType : Option String := none
  initiatorName : Option String := none
  iscsiInterface : Option String := none
  portals : Option (List String) := none
  readOnly : Option Bool := none
  secretRef : Option LocalObjectReference := none
deriving DecidableEq

/-- Units of iSCSI targets as documents. -/
def ISCSIVolumeSource.codec : Codec ISCSIVolumeSource :=
  .kubernetes "ISCSIVolumeSource" <|
    Fields.build ISCSIVolumeSource ISCSIVolumeSource.mk
    |>.field "iqn" iqn (.required .text "")
    |>.field "lun" lun (.required .int32 0)
    |>.field "targetPortal" targetPortal (.required .text "")
    |>.field "chapAuthDiscovery" chapAuthDiscovery (.optional .boolean)
    |>.field "chapAuthSession" chapAuthSession (.optional .boolean)
    |>.field "fsType" fsType (.optional .text)
    |>.field "initiatorName" initiatorName (.optional .text)
    |>.field "iscsiInterface" iscsiInterface (.optional .text)
    |>.field "portals" portals (.optional (.list .text))
    |>.field "readOnly" readOnly (.optional .boolean)
    |>.field "secretRef" secretRef (.optional LocalObjectReference.codec)

/-- A directory that a server shares over NFS. -/
structure NFSVolumeSource where
  path : String
  server : String
  readOnly : Option Bool := none
deriving DecidableEq

/-- Directories shared over NFS as documents. -/
def NFSVolumeSource.codec : Codec NFSVolumeSource :=
  .kubernetes "NFSVolumeSource" <|
    Fields.build NFSVolumeSource NFSVolumeSource.mk
    |>.field "path" path (.required .text "")
    |>.field "server" server (.required .text "")
    |>.field "readOnly" readOnly (.optional .boolean)

/-- A disk of a Photon controller. -/
structure PhotonPersistentDiskVolumeSource where
  pdID : String
  fsType : Option String := none
deriving DecidableEq

/-- Disks of Photon controllers as documents. -/
def PhotonPersistentDiskVolumeSource.codec : Codec PhotonPersistentDiskVolumeSource :=
  .kubernetes "PhotonPersistentDiskVolumeSource" <|
    Fields.build PhotonPersistentDiskVolumeSource PhotonPersistentDiskVolumeSource.mk
    |>.field "pdID" pdID (.required .text "")
    |>.field "fsType" fsType (.optional .text)

/-- A volume of Portworx. -/
structure PortworxVolumeSource where
  volumeID : String
  fsType : Option String := none
  readOnly : Option Bool := none
deriving DecidableEq

/-- Volumes of Portworx as documents. -/
def PortworxVolumeSource.codec : Codec PortworxVolumeSource :=
  .kubernetes "PortworxVolumeSource" <|
    Fields.build PortworxVolumeSource PortworxVolumeSource.mk
    |>.field "volumeID" volumeID (.required .text "")
    |>.field "fsType" fsType (.optional .text)
    |>.field "readOnly" readOnly (.optional .boolean)

/-- A volume of Quobyte, reached through its registries. -/
structure QuobyteVolumeSource where
  registry : String
  volume : String
  group : Option String := none
  readOnly : Option Bool := none
  tenant : Option String := none
  user : Option String := none
deriving DecidableEq

/-- Volumes of Quobyte as documents. -/
def QuobyteVolumeSource.codec : Codec QuobyteVolumeSource :=
  .kubernetes "QuobyteVolumeSource" <|
    Fields.build QuobyteVolumeSource QuobyteVolumeSource.mk
    |>.field "registry" registry (.required .text "")
    |>.field "volume" volume (.required .text "")
    |>.field "group" group (.optional .text)
    |>.field "readOnly" readOnly (.optional .boolean)
    |>.field "tenant" tenant (.optional .text)
    |>.field "user" user (.optional .text)

/-- A block device image of Ceph, reached through its monitors. -/
structure RBDVolumeSource where
  image : String
  monitors : List String
  fsType : Option String := none
  keyring : Option String := none
  pool : Option String := none
  readOnly : Option Bool := none
  secretRef : Option LocalObjectReference := none
  user : Option String := none
deriving DecidableEq

/-- Block device images of Ceph as documents. -/
def RBDVolumeSource.codec : Codec RBDVolumeSource :=
  .kubernetes "RBDVolumeSource" <|
    Fields.build RBDVolumeSource RBDVolumeSource.mk
    |>.field "image" image (.required .text "")
    |>.field "monitors" monitors (.required (.list .text) [])
    |>.field "fsType" fsType (.optional .text)
    |>.field "keyring" keyring (.optional .text)
    |>.field "pool" pool (.optional .text)
    |>.field "readOnly" readOnly (.optional .boolean)
    |>.field "secretRef" secretRef (.optional LocalObjectReference.codec)
    |>.field "user" user (.optional .text)

/-- A volume of ScaleIO, with the secret that opens it. -/
structure ScaleIOVolumeSource where
  gateway : String
  secretRef : LocalObjectReference
  system : String
  fsType : Option String := none
  protectionDomain : Option String := none
  readOnly : Option Bool := none
  sslEnabled : Option Bool := none
  storageMode : Option String := none
  storagePool : Option String := none
  volumeName : Option String := none
deriving DecidableEq

/-- Volumes of ScaleIO as documents. -/
def ScaleIOVolumeSource.codec : Codec ScaleIOVolumeSource :=
  .kubernetes "ScaleIOVolumeSource" <|
    Fields.build ScaleIOVolumeSource ScaleIOVolumeSource.mk
    |>.field "gateway" gateway (.required .text "")
    |>.field "secretRef" secretRef (.required LocalObjectReference.codec ⟨""⟩)
    |>.field "system" system (.required .text "")
    |>.field "fsType" fsType (.optional .text)
    |>.field "protectionDomain" protectionDomain (.optional .text)
    |>.field "readOnly" readOnly (.optional .boolean)
    |>.field "sslEnabled" sslEnabled (.optional .boolean)
    |>.field "storageMode" storageMode (.optional .text)
    |>.field "storagePool" storagePool (.optional .text)
    |>.field "volumeName" volumeName (.optional .text)

/-- A volume of StorageOS. -/
structure StorageOSVolumeSource where
  fsType : Option String := none
  readOnly : Option Bool := none
  secretRef : Option LocalObjectReference := none
  volumeName : Option String := none
  volumeNamespace : Option String := none
deriving DecidableEq

/-- Volumes of StorageOS as documents. -/
def StorageOSVolumeSource.codec : Codec StorageOSVolumeSource :=
  .kubernetes "StorageOSVolumeSource" <|
    Fields.build StorageOSVolumeSource StorageOSVolumeSource.mk
    |>.field "fsType" fsType (.optional .text)
    |>.field "readOnly" readOnly (.optional .boolean)
    |>.field "secretRef" secretRef (.optional LocalObjectReference.codec)
    |>.field "volumeName" volumeName (.optional .text)
    |>.field "volumeNamespace" volumeNamespace (.optional .text)

/-- A virtual disk of vSphere. -/
structure VsphereVirtualDiskVolumeSource where
  volumePath : String
  fsType : Option String := none
  storagePolicyID : Option String := none
  storagePolicyName : Option String := none
deriving DecidableEq

/-- Virtual disks of vSphere as documents. -/
def VsphereVirtualDiskVolumeSource.codec : Codec VsphereVirtualDiskVolumeSource :=
  .kubernetes "VsphereVirtualDiskVolumeSource" <|
    Fields.build VsphereVirtualDiskVolumeSource VsphereVirtualDiskVolumeSource.mk
    |>.field "volumePath" volumePath (.required .text "")
    |>.field "fsType" fsType (.optional .text)
    |>.field "storagePolicyID" storagePolicyID (.optional .text)
    |>.field "storagePolicyName" storagePolicyName (.optional .text)

end AgentOperator.Kubernetes
