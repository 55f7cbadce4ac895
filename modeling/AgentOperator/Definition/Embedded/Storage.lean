import AgentOperator.Definition.Schema

/-!
# Schemas of storage

The schemas of the volumes that lie on the node or on a storage system.
-/

namespace AgentOperator.Schema

/-- An object in the same namespace. -/
def localObjectReference : Json :=
  object
    [field "name"
       (moreInfo
          ("Name of the referent. This field is effectively required, but due to backwards " ++
            "compatibility is allowed to be empty. Instances of this type with an empty value " ++
            "here are almost certainly wrong.")
          "kubernetes.io/docs/concepts/overview/working-with-objects/names/#names") text] ["name"]

/-- A volume of the sort `awsElasticBlockStore`. -/
def awsElasticBlockStoreVolumeSource : Json :=
  object
    [field "fsType"
       (moreInfo
          ("fsType is the filesystem type of the volume that you want to mount. Tip: Ensure " ++
            "that the filesystem type is supported by the host operating system. Examples: " ++
            "\"ext4\", \"xfs\", \"ntfs\". Implicitly inferred to be \"ext4\" if unspecified.")
          "kubernetes.io/docs/concepts/storage/volumes#awselasticblockstore") text,
     field "partition"
       ("partition is the partition in the volume that you want to mount. If omitted, the " ++
         "default is to mount by volume name. Examples: For volume /dev/sda1, you specify the " ++
         "partition as \"1\". Similarly, the volume partition for /dev/sda is \"0\" (or you " ++
         "can leave the property empty).") int32,
     field "readOnly"
       (moreInfo
          "readOnly value true will force the readOnly setting in VolumeMounts."
          "kubernetes.io/docs/concepts/storage/volumes#awselasticblockstore") boolean,
     field "volumeID"
       (moreInfo
          "volumeID is unique ID of the persistent disk resource in AWS (Amazon EBS volume)."
          "kubernetes.io/docs/concepts/storage/volumes#awselasticblockstore") text] ["volumeID"]

/-- A volume of the sort `azureDisk`. -/
def azureDiskVolumeSource : Json :=
  object
    [field "cachingMode" "cachingMode is the Host Caching mode: None, Read Only, Read Write." text,
     field "diskName" "diskName is the Name of the data disk in the blob storage" text,
     field "diskURI" "diskURI is the URI of data disk in the blob storage" text,
     field "fsType"
       ("fsType is Filesystem type to mount. Must be a filesystem type supported by the host " ++
         "operating system. Ex. \"ext4\", \"xfs\", \"ntfs\". Implicitly inferred to be " ++
         "\"ext4\" if unspecified.") text,
     field "kind"
       ("kind expected values are Shared: multiple blob disks per storage account  " ++
         "Dedicated: single blob disk per storage account  Managed: azure managed data disk " ++
         "(only in managed availability set). defaults to shared") text,
     field "readOnly"
       ("readOnly Defaults to false (read/write). ReadOnly here will force the ReadOnly " ++
         "setting in VolumeMounts.") boolean] ["diskName", "diskURI"]

/-- A volume of the sort `azureFile`. -/
def azureFileVolumeSource : Json :=
  object
    [field "readOnly"
       ("readOnly defaults to false (read/write). ReadOnly here will force the ReadOnly " ++
         "setting in VolumeMounts.") boolean,
     field "secretName"
       "secretName is the  name of secret that contains Azure Storage Account Name and Key" text,
     field "shareName" "shareName is the azure share Name" text] ["secretName", "shareName"]

/-- A volume of the sort `cephfs`. -/
def cephFSVolumeSource : Json :=
  object
    [field "monitors"
       (moreInfo
          "monitors is Required: Monitors is a collection of Ceph monitors"
          "examples.k8s.io/volumes/cephfs/README.md#how-to-use-it") (list text),
     field "path"
       "path is Optional: Used as the mounted root, rather than the full Ceph tree, default is /"
       text,
     field "readOnly"
       (moreInfo
          ("readOnly is Optional: Defaults to false (read/write). ReadOnly here will force " ++
            "the ReadOnly setting in VolumeMounts.")
          "examples.k8s.io/volumes/cephfs/README.md#how-to-use-it") boolean,
     field "secretFile"
       (moreInfo
          ("secretFile is Optional: SecretFile is the path to key ring for User, default is " ++
            "/etc/ceph/user.secret") "examples.k8s.io/volumes/cephfs/README.md#how-to-use-it") text,
     field "secretRef"
       (moreInfo
          ("secretRef is Optional: SecretRef is reference to the authentication secret for " ++
            "User, default is empty.") "examples.k8s.io/volumes/cephfs/README.md#how-to-use-it")
       localObjectReference,
     field "user"
       (moreInfo
          "user is optional: User is the rados user name, default is admin"
          "examples.k8s.io/volumes/cephfs/README.md#how-to-use-it") text] ["monitors"]

/-- A volume of the sort `cinder`. -/
def cinderVolumeSource : Json :=
  object
    [field "fsType"
       (moreInfo
          ("fsType is the filesystem type to mount. Must be a filesystem type supported by " ++
            "the host operating system. Examples: \"ext4\", \"xfs\", \"ntfs\". Implicitly " ++
            "inferred to be \"ext4\" if unspecified.")
          "examples.k8s.io/mysql-cinder-pd/README.md") text,
     field "readOnly"
       (moreInfo
          ("readOnly defaults to false (read/write). ReadOnly here will force the ReadOnly " ++
            "setting in VolumeMounts.") "examples.k8s.io/mysql-cinder-pd/README.md") boolean,
     field "secretRef"
       ("secretRef is optional: points to a secret object containing parameters used to " ++
         "connect to OpenStack.") localObjectReference,
     field "volumeID"
       (moreInfo
          "volumeID used to identify the volume in cinder."
          "examples.k8s.io/mysql-cinder-pd/README.md") text] ["volumeID"]

/-- A volume of a storage driver outside the cluster. -/
def csiVolumeSource : Json :=
  object
    [field "driver"
       ("driver is the name of the CSI driver that handles this volume. Consult with your " ++
         "admin for the correct name as registered in the cluster.") text,
     field "fsType"
       ("fsType to mount. Ex. \"ext4\", \"xfs\", \"ntfs\". If not provided, the empty value " ++
         "is passed to the associated CSI driver which will determine the default filesystem " ++
         "to apply.") text,
     field "nodePublishSecretRef"
       ("nodePublishSecretRef is a reference to the secret object containing sensitive " ++
         "information to pass to the CSI driver to complete the CSI NodePublishVolume and " ++
         "NodeUnpublishVolume calls. This field is optional, and  may be empty if no secret " ++
         "is required. If the secret object contains more than one secret, all secret " ++
         "references are passed.") localObjectReference,
     field "readOnly"
       ("readOnly specifies a read-only configuration for the volume. Defaults to false " ++
         "(read/write).") boolean,
     field "volumeAttributes"
       ("volumeAttributes stores driver-specific properties that are passed to the CSI " ++
         "driver. Consult your driver's documentation for supported values.") (dict text)]
    ["driver"]

/-- A volume that starts empty and lives as long as the pod. -/
def emptyDirVolumeSource : Json :=
  object
    [field "medium"
       (moreInfo
          ("medium represents what type of storage medium should back this directory. The " ++
            "default is \"\" which means to use the node's default medium. Must be an empty " ++
            "string (default) or Memory.") "kubernetes.io/docs/concepts/storage/volumes#emptydir")
       text,
     field "sizeLimit"
       (moreInfo
          ("sizeLimit is the total amount of local storage required for this EmptyDir " ++
            "volume. The size limit is also applicable for memory medium. The maximum usage " ++
            "on memory medium EmptyDir would be the minimum value between the SizeLimit " ++
            "specified here and the sum of memory limits of all containers in a pod. The " ++
            "default is nil which means that the limit is undefined.")
          "kubernetes.io/docs/concepts/storage/volumes#emptydir") quantity] []

/-- A disk behind a fibre channel. -/
def fcVolumeSource : Json :=
  object
    [field "fsType"
       ("fsType is the filesystem type to mount. Must be a filesystem type supported by the " ++
         "host operating system. Ex. \"ext4\", \"xfs\", \"ntfs\". Implicitly inferred to be " ++
         "\"ext4\" if unspecified.") text,
     field "lun" "lun is Optional: FC target lun number" int32,
     field "readOnly"
       ("readOnly is Optional: Defaults to false (read/write). ReadOnly here will force the " ++
         "ReadOnly setting in VolumeMounts.") boolean,
     field "targetWWNs" "targetWWNs is Optional: FC target worldwide names (WWNs)" (list text),
     field "wwids"
       ("wwids Optional: FC volume world wide identifiers (wwids) Either wwids or " ++
         "combination of targetWWNs and lun must be set, but not both simultaneously.") (list text)]
    []

/-- A volume of a plugin. -/
def flexVolumeSource : Json :=
  object
    [field "driver" "driver is the name of the driver to use for this volume." text,
     field "fsType"
       ("fsType is the filesystem type to mount. Must be a filesystem type supported by the " ++
         "host operating system. Ex. \"ext4\", \"xfs\", \"ntfs\". The default filesystem " ++
         "depends on FlexVolume script.") text,
     field "options"
       "options is Optional: this field holds extra command options if any." (dict text),
     field "readOnly"
       ("readOnly is Optional: defaults to false (read/write). ReadOnly here will force the " ++
         "ReadOnly setting in VolumeMounts.") boolean,
     field "secretRef"
       ("secretRef is Optional: secretRef is reference to the secret object containing " ++
         "sensitive information to pass to the plugin scripts. This may be empty if no secret " ++
         "object is specified. If the secret object contains more than one secret, all " ++
         "secrets are passed to the plugin scripts.") localObjectReference] ["driver"]

/-- A volume of the sort `flocker`. -/
def flockerVolumeSource : Json :=
  object
    [field "datasetName"
       ("datasetName is Name of the dataset stored as metadata -> name on the dataset for " ++
         "Flocker should be considered as deprecated") text,
     field "datasetUUID"
       "datasetUUID is the UUID of the dataset. This is unique identifier of a Flocker dataset"
       text] []

/-- A volume of the sort `gcePersistentDisk`. -/
def gcePersistentDiskVolumeSource : Json :=
  object
    [field "fsType"
       (moreInfo
          ("fsType is filesystem type of the volume that you want to mount. Tip: Ensure that " ++
            "the filesystem type is supported by the host operating system. Examples: " ++
            "\"ext4\", \"xfs\", \"ntfs\". Implicitly inferred to be \"ext4\" if unspecified.")
          "kubernetes.io/docs/concepts/storage/volumes#gcepersistentdisk") text,
     field "partition"
       (moreInfo
          ("partition is the partition in the volume that you want to mount. If omitted, the " ++
            "default is to mount by volume name. Examples: For volume /dev/sda1, you specify " ++
            "the partition as \"1\". Similarly, the volume partition for /dev/sda is \"0\" " ++
            "(or you can leave the property empty).")
          "kubernetes.io/docs/concepts/storage/volumes#gcepersistentdisk") int32,
     field "pdName"
       (moreInfo
          "pdName is unique name of the PD resource in GCE. Used to identify the disk in GCE."
          "kubernetes.io/docs/concepts/storage/volumes#gcepersistentdisk") text,
     field "readOnly"
       (moreInfo
          "readOnly here will force the ReadOnly setting in VolumeMounts. Defaults to false."
          "kubernetes.io/docs/concepts/storage/volumes#gcepersistentdisk") boolean] ["pdName"]

/-- A volume with the contents of a repository. -/
def gitRepoVolumeSource : Json :=
  object
    [field "directory"
       ("directory is the target directory name. Must not contain or start with '..'.  If " ++
         "'.' is supplied, the volume directory will be the git repository.  Otherwise, if " ++
         "specified, the volume will contain the git repository in the subdirectory with the " ++
         "given name.") text,
     field "repository" "repository is the URL" text,
     field "revision" "revision is the commit hash for the specified revision." text] ["repository"]

/-- A volume of the sort `glusterfs`. -/
def glusterfsVolumeSource : Json :=
  object
    [field "endpoints"
       (moreInfo
          "endpoints is the endpoint name that details Glusterfs topology."
          "examples.k8s.io/volumes/glusterfs/README.md#create-a-pod") text,
     field "path"
       (moreInfo
          "path is the Glusterfs volume path."
          "examples.k8s.io/volumes/glusterfs/README.md#create-a-pod") text,
     field "readOnly"
       (moreInfo
          ("readOnly here will force the Glusterfs volume to be mounted with read-only " ++
            "permissions. Defaults to false.")
          "examples.k8s.io/volumes/glusterfs/README.md#create-a-pod") boolean] ["endpoints", "path"]

/-- A directory of the node. -/
def hostPathVolumeSource : Json :=
  object
    [field "path"
       (moreInfo
          ("path of the directory on the host. If the path is a symlink, it will follow the " ++
            "link to the real path.") "kubernetes.io/docs/concepts/storage/volumes#hostpath") text,
     field "type"
       (moreInfo
          "type for HostPath Volume Defaults to \"\""
          "kubernetes.io/docs/concepts/storage/volumes#hostpath") text] ["path"]

/-- A disk behind a storage network. -/
def iscsiVolumeSource : Json :=
  object
    [field "chapAuthDiscovery"
       "chapAuthDiscovery defines whether support iSCSI Discovery CHAP authentication" boolean,
     field "chapAuthSession"
       "chapAuthSession defines whether support iSCSI Session CHAP authentication" boolean,
     field "fsType"
       (moreInfo
          ("fsType is the filesystem type of the volume that you want to mount. Tip: Ensure " ++
            "that the filesystem type is supported by the host operating system. Examples: " ++
            "\"ext4\", \"xfs\", \"ntfs\". Implicitly inferred to be \"ext4\" if unspecified.")
          "kubernetes.io/docs/concepts/storage/volumes#iscsi") text,
     field "initiatorName"
       ("initiatorName is the custom iSCSI Initiator Name. If initiatorName is specified " ++
         "with iscsiInterface simultaneously, new iSCSI interface <target portal>:<volume " ++
         "name> will be created for the connection.") text,
     field "iqn" "iqn is the target iSCSI Qualified Name." text,
     field "iscsiInterface"
       ("iscsiInterface is the interface Name that uses an iSCSI transport. Defaults to " ++
         "'default' (tcp).") text,
     field "lun" "lun represents iSCSI Target Lun number." int32,
     field "portals"
       ("portals is the iSCSI Target Portal List. The portal is either an IP or ip_addr:port " ++
         "if the port is other than default (typically TCP ports 860 and 3260).") (list text),
     field "readOnly"
       "readOnly here will force the ReadOnly setting in VolumeMounts. Defaults to false." boolean,
     field "secretRef"
       "secretRef is the CHAP Secret for iSCSI target and initiator authentication"
       localObjectReference,
     field "targetPortal"
       ("targetPortal is iSCSI Target Portal. The Portal is either an IP or ip_addr:port if " ++
         "the port is other than default (typically TCP ports 860 and 3260).") text]
    ["iqn", "lun", "targetPortal"]

/-- A volume on a file server. -/
def nfsVolumeSource : Json :=
  object
    [field "path"
       (moreInfo
          "path that is exported by the NFS server."
          "kubernetes.io/docs/concepts/storage/volumes#nfs") text,
     field "readOnly"
       (moreInfo
          ("readOnly here will force the NFS export to be mounted with read-only " ++
            "permissions. Defaults to false.") "kubernetes.io/docs/concepts/storage/volumes#nfs")
       boolean,
     field "server"
       (moreInfo
          "server is the hostname or IP address of the NFS server."
          "kubernetes.io/docs/concepts/storage/volumes#nfs") text] ["path", "server"]

/-- A volume that was claimed before. -/
def persistentVolumeClaimVolumeSource : Json :=
  object
    [field "claimName"
       (moreInfo
          ("claimName is the name of a PersistentVolumeClaim in the same namespace as the " ++
            "pod using this volume.")
          "kubernetes.io/docs/concepts/storage/persistent-volumes#persistentvolumeclaims") text,
     field "readOnly"
       "readOnly Will force the ReadOnly setting in VolumeMounts. Default false." boolean]
    ["claimName"]

/-- A volume of the sort `photonPersistentDisk`. -/
def photonPersistentDiskVolumeSource : Json :=
  object
    [field "fsType"
       ("fsType is the filesystem type to mount. Must be a filesystem type supported by the " ++
         "host operating system. Ex. \"ext4\", \"xfs\", \"ntfs\". Implicitly inferred to be " ++
         "\"ext4\" if unspecified.") text,
     field "pdID" "pdID is the ID that identifies Photon Controller persistent disk" text] ["pdID"]

/-- A volume of the sort `portworxVolume`. -/
def portworxVolumeSource : Json :=
  object
    [field "fsType"
       ("fSType represents the filesystem type to mount Must be a filesystem type supported " ++
         "by the host operating system. Ex. \"ext4\", \"xfs\". Implicitly inferred to be " ++
         "\"ext4\" if unspecified.") text,
     field "readOnly"
       ("readOnly defaults to false (read/write). ReadOnly here will force the ReadOnly " ++
         "setting in VolumeMounts.") boolean,
     field "volumeID" "volumeID uniquely identifies a Portworx volume" text] ["volumeID"]

/-- A volume of the sort `quobyte`. -/
def quobyteVolumeSource : Json :=
  object
    [field "group" "group to map volume access to Default is no group" text,
     field "readOnly"
       ("readOnly here will force the Quobyte volume to be mounted with read-only " ++
         "permissions. Defaults to false.") boolean,
     field "registry"
       ("registry represents a single or multiple Quobyte Registry services specified as a " ++
         "string as host:port pair (multiple entries are separated with commas) which acts as " ++
         "the central registry for volumes") text,
     field "tenant"
       ("tenant owning the given Quobyte volume in the Backend Used with dynamically " ++
         "provisioned Quobyte volumes, value is set by the plugin") text,
     field "user" "user to map volume access to Defaults to serivceaccount user" text,
     field "volume"
       "volume is a string that references an already created Quobyte volume by name." text]
    ["registry", "volume"]

/-- A volume of the sort `rbd`. -/
def rbdVolumeSource : Json :=
  object
    [field "fsType"
       (moreInfo
          ("fsType is the filesystem type of the volume that you want to mount. Tip: Ensure " ++
            "that the filesystem type is supported by the host operating system. Examples: " ++
            "\"ext4\", \"xfs\", \"ntfs\". Implicitly inferred to be \"ext4\" if unspecified.")
          "kubernetes.io/docs/concepts/storage/volumes#rbd") text,
     field "image"
       (moreInfo
          "image is the rados image name." "examples.k8s.io/volumes/rbd/README.md#how-to-use-it")
       text,
     field "keyring"
       (moreInfo
          "keyring is the path to key ring for RBDUser. Default is /etc/ceph/keyring."
          "examples.k8s.io/volumes/rbd/README.md#how-to-use-it") text,
     field "monitors"
       (moreInfo
          "monitors is a collection of Ceph monitors."
          "examples.k8s.io/volumes/rbd/README.md#how-to-use-it") (list text),
     field "pool"
       (moreInfo
          "pool is the rados pool name. Default is rbd."
          "examples.k8s.io/volumes/rbd/README.md#how-to-use-it") text,
     field "readOnly"
       (moreInfo
          "readOnly here will force the ReadOnly setting in VolumeMounts. Defaults to false."
          "examples.k8s.io/volumes/rbd/README.md#how-to-use-it") boolean,
     field "secretRef"
       (moreInfo
          ("secretRef is name of the authentication secret for RBDUser. If provided " ++
            "overrides keyring. Default is nil.")
          "examples.k8s.io/volumes/rbd/README.md#how-to-use-it") localObjectReference,
     field "user"
       (moreInfo
          "user is the rados user name. Default is admin."
          "examples.k8s.io/volumes/rbd/README.md#how-to-use-it") text] ["image", "monitors"]

/-- A volume of the sort `scaleIO`. -/
def scaleIOVolumeSource : Json :=
  object
    [field "fsType"
       ("fsType is the filesystem type to mount. Must be a filesystem type supported by the " ++
         "host operating system. Ex. \"ext4\", \"xfs\", \"ntfs\". Default is \"xfs\".") text,
     field "gateway" "gateway is the host address of the ScaleIO API Gateway." text,
     field "protectionDomain"
       "protectionDomain is the name of the ScaleIO Protection Domain for the configured storage."
       text,
     field "readOnly"
       ("readOnly Defaults to false (read/write). ReadOnly here will force the ReadOnly " ++
         "setting in VolumeMounts.") boolean,
     field "secretRef"
       ("secretRef references to the secret for ScaleIO user and other sensitive " ++
         "information. If this is not provided, Login operation will fail.") localObjectReference,
     field "sslEnabled"
       "sslEnabled Flag enable/disable SSL communication with Gateway, default false" boolean,
     field "storageMode"
       ("storageMode indicates whether the storage for a volume should be ThickProvisioned " ++
         "or ThinProvisioned. Default is ThinProvisioned.") text,
     field "storagePool"
       "storagePool is the ScaleIO Storage Pool associated with the protection domain." text,
     field "system" "system is the name of the storage system as configured in ScaleIO." text,
     field "volumeName"
       ("volumeName is the name of a volume already created in the ScaleIO system that is " ++
         "associated with this volume source.") text] ["gateway", "secretRef", "system"]

/-- A volume of the sort `storageos`. -/
def storageOSVolumeSource : Json :=
  object
    [field "fsType"
       ("fsType is the filesystem type to mount. Must be a filesystem type supported by the " ++
         "host operating system. Ex. \"ext4\", \"xfs\", \"ntfs\". Implicitly inferred to be " ++
         "\"ext4\" if unspecified.") text,
     field "readOnly"
       ("readOnly defaults to false (read/write). ReadOnly here will force the ReadOnly " ++
         "setting in VolumeMounts.") boolean,
     field "secretRef"
       ("secretRef specifies the secret to use for obtaining the StorageOS API credentials.  " ++
         "If not specified, default values will be attempted.") localObjectReference,
     field "volumeName"
       ("volumeName is the human-readable name of the StorageOS volume.  Volume names are " ++
         "only unique within a namespace.") text,
     field "volumeNamespace"
       ("volumeNamespace specifies the scope of the volume within StorageOS.  If no " ++
         "namespace is specified then the Pod's namespace will be used.  This allows the " ++
         "Kubernetes name scoping to be mirrored within StorageOS for tighter integration. " ++
         "Set VolumeName to any name to override the default behaviour. Set to \"default\" if " ++
         "you are not using namespaces within StorageOS. Namespaces that do not pre-exist " ++
         "within StorageOS will be created.") text] []

/-- A volume of the sort `vsphereVolume`. -/
def vsphereVirtualDiskVolumeSource : Json :=
  object
    [field "fsType"
       ("fsType is filesystem type to mount. Must be a filesystem type supported by the host " ++
         "operating system. Ex. \"ext4\", \"xfs\", \"ntfs\". Implicitly inferred to be " ++
         "\"ext4\" if unspecified.") text,
     field "storagePolicyID"
       ("storagePolicyID is the storage Policy Based Management (SPBM) profile ID associated " ++
         "with the StoragePolicyName.") text,
     field "storagePolicyName"
       "storagePolicyName is the storage Policy Based Management (SPBM) profile name." text,
     field "volumePath" "volumePath is the path that identifies vSphere volume vmdk" text]
    ["volumePath"]

end AgentOperator.Schema
