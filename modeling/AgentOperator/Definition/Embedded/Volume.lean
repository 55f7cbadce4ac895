import AgentOperator.Definition.Embedded.Claim
import AgentOperator.Definition.Embedded.Projection
import AgentOperator.Definition.Embedded.Storage

/-!
# Schemas of volumes

The schemas of the volumes of a pod and of the places where a container mounts them.
-/

namespace AgentOperator.Schema

/-- Volumes of a pod. -/
def volume : Json :=
  described
      ("Volume represents a named volume in a pod that may be accessed by any container in " ++
        "the pod.") <|
    object
      [field "awsElasticBlockStore"
         (moreInfo
            ("awsElasticBlockStore represents an AWS Disk resource that is attached to a " ++
              "kubelet's host machine and then exposed to the pod.")
            "kubernetes.io/docs/concepts/storage/volumes#awselasticblockstore")
         awsElasticBlockStoreVolumeSource,
       field "azureDisk"
         "azureDisk represents an Azure Data Disk mount on the host and bind mount to the pod."
         azureDiskVolumeSource,
       field "azureFile"
         "azureFile represents an Azure File Service mount on the host and bind mount to the pod."
         azureFileVolumeSource,
       field "cephfs"
         "cephFS represents a Ceph FS mount on the host that shares a pod's lifetime"
         cephFSVolumeSource,
       field "cinder"
         (moreInfo
            "cinder represents a cinder volume attached and mounted on kubelets host machine."
            "examples.k8s.io/mysql-cinder-pd/README.md") cinderVolumeSource,
       field "configMap"
         "configMap represents a configMap that should populate this volume" configMapVolumeSource,
       field "csi"
         ("csi (Container Storage Interface) represents ephemeral storage that is handled by " ++
           "certain external CSI drivers (Beta feature).") csiVolumeSource,
       field "downwardAPI"
         "downwardAPI represents downward API about the pod that should populate this volume"
         downwardAPIVolumeSource,
       field "emptyDir"
         (moreInfo
            "emptyDir represents a temporary directory that shares a pod's lifetime."
            "kubernetes.io/docs/concepts/storage/volumes#emptydir") emptyDirVolumeSource,
       field "ephemeral"
         ("ephemeral represents a volume that is handled by a cluster storage driver. The " ++
           "volume's lifecycle is tied to the pod that defines it - it will be created before " ++
           "the pod starts, and deleted when the pod is removed.\n\nUse this if: a) the " ++
           "volume is only needed while the pod runs, b) features of normal volumes like " ++
           "restoring from snapshot or capacity\n   tracking are needed,\nc) the storage " ++
           "driver is specified through a storage class, and d) the storage driver supports " ++
           "dynamic volume provisioning through\n   a PersistentVolumeClaim (see " ++
           "EphemeralVolumeSource for more\n   information on the connection between this " ++
           "volume type\n   and PersistentVolumeClaim).\n\nUse PersistentVolumeClaim or one " ++
           "of the vendor-specific APIs for volumes that persist for longer than the " ++
           "lifecycle of an individual pod.\n\nUse CSI for light-weight local ephemeral " ++
           "volumes if the CSI driver is meant to be used that way - see the documentation of " ++
           "the driver for more information.\n\nA pod can use both types of ephemeral volumes " ++
           "and persistent volumes at the same time.") ephemeralVolumeSource,
       field "fc"
         ("fc represents a Fibre Channel resource that is attached to a kubelet's host " ++
           "machine and then exposed to the pod.") fcVolumeSource,
       field "flexVolume"
         ("flexVolume represents a generic volume resource that is provisioned/attached " ++
           "using an exec based plugin.") flexVolumeSource,
       field "flocker"
         ("flocker represents a Flocker volume attached to a kubelet's host machine. This " ++
           "depends on the Flocker control service being running") flockerVolumeSource,
       field "gcePersistentDisk"
         (moreInfo
            ("gcePersistentDisk represents a GCE Disk resource that is attached to a " ++
              "kubelet's host machine and then exposed to the pod.")
            "kubernetes.io/docs/concepts/storage/volumes#gcepersistentdisk")
         gcePersistentDiskVolumeSource,
       field "gitRepo"
         ("gitRepo represents a git repository at a particular revision. DEPRECATED: GitRepo " ++
           "is deprecated. To provision a container with a git repo, mount an EmptyDir into " ++
           "an InitContainer that clones the repo using git, then mount the EmptyDir into the " ++
           "Pod's container.") gitRepoVolumeSource,
       field "glusterfs"
         (moreInfo
            "glusterfs represents a Glusterfs mount on the host that shares a pod's lifetime."
            "examples.k8s.io/volumes/glusterfs/README.md") glusterfsVolumeSource,
       field "hostPath"
         (moreInfo
            ("hostPath represents a pre-existing file or directory on the host machine that " ++
              "is directly exposed to the container. This is generally used for system agents " ++
              "or other privileged things that are allowed to see the host machine. Most " ++
              "containers will NOT need this.")
            "kubernetes.io/docs/concepts/storage/volumes#hostpath") hostPathVolumeSource,
       field "iscsi"
         (moreInfo
            ("iscsi represents an ISCSI Disk resource that is attached to a kubelet's host " ++
              "machine and then exposed to the pod.") "examples.k8s.io/volumes/iscsi/README.md")
         iscsiVolumeSource,
       field "name"
         (moreInfo
            "name of the volume. Must be a DNS_LABEL and unique within the pod."
            "kubernetes.io/docs/concepts/overview/working-with-objects/names/#names") text,
       field "nfs"
         (moreInfo
            "nfs represents an NFS mount on the host that shares a pod's lifetime"
            "kubernetes.io/docs/concepts/storage/volumes#nfs") nfsVolumeSource,
       field "persistentVolumeClaim"
         (moreInfo
            ("persistentVolumeClaimVolumeSource represents a reference to a " ++
              "PersistentVolumeClaim in the same namespace.")
            "kubernetes.io/docs/concepts/storage/persistent-volumes#persistentvolumeclaims")
         persistentVolumeClaimVolumeSource,
       field "photonPersistentDisk"
         ("photonPersistentDisk represents a PhotonController persistent disk attached and " ++
           "mounted on kubelets host machine") photonPersistentDiskVolumeSource,
       field "portworxVolume"
         ("portworxVolume represents a portworx volume attached and mounted on kubelets host " ++
           "machine") portworxVolumeSource,
       field "projected"
         "projected items for all in one resources secrets, configmaps, and downward API"
         projectedVolumeSource,
       field "quobyte"
         "quobyte represents a Quobyte mount on the host that shares a pod's lifetime"
         quobyteVolumeSource,
       field "rbd"
         (moreInfo
            "rbd represents a Rados Block Device mount on the host that shares a pod's lifetime."
            "examples.k8s.io/volumes/rbd/README.md") rbdVolumeSource,
       field "scaleIO"
         ("scaleIO represents a ScaleIO persistent volume attached and mounted on Kubernetes " ++
           "nodes.") scaleIOVolumeSource,
       field "secret"
         (moreInfo
            "secret represents a secret that should populate this volume."
            "kubernetes.io/docs/concepts/storage/volumes#secret") secretVolumeSource,
       field "storageos"
         "storageOS represents a StorageOS volume attached and mounted on Kubernetes nodes."
         storageOSVolumeSource,
       field "vsphereVolume"
         "vsphereVolume represents a vSphere volume attached and mounted on kubelets host machine"
         vsphereVirtualDiskVolumeSource] ["name"]

/-- Volumes mounted in a container. -/
def volumeMount : Json :=
  described "VolumeMount describes a mounting of a Volume within a container." <|
    object
      [field "mountPath"
         "Path within the container at which the volume should be mounted.  Must not contain ':'."
         text,
       field "mountPropagation"
         ("mountPropagation determines how mounts are propagated from the host to container " ++
           "and the other way around. When not set, MountPropagationNone is used. This field " ++
           "is beta in 1.10. When RecursiveReadOnly is set to IfPossible or to Enabled, " ++
           "MountPropagation must be None or unspecified (which defaults to None).") text,
       field "name" "This must match the Name of a Volume." text,
       field "readOnly"
         ("Mounted read-only if true, read-write otherwise (false or unspecified). Defaults " ++
           "to false.") boolean,
       field "recursiveReadOnly"
         ("RecursiveReadOnly specifies whether read-only mounts should be handled " ++
           "recursively.\n\nIf ReadOnly is false, this field has no meaning and must be " ++
           "unspecified.\n\nIf ReadOnly is true, and this field is set to Disabled, the mount " ++
           "is not made recursively read-only.  If this field is set to IfPossible, the mount " ++
           "is made recursively read-only, if it is supported by the container runtime.  If " ++
           "this field is set to Enabled, the mount is made recursively read-only if it is " ++
           "supported by the container runtime, otherwise the pod will not be started and an " ++
           "error will be generated to indicate the reason.\n\nIf this field is set to " ++
           "IfPossible or Enabled, MountPropagation must be set to None (or be unspecified, " ++
           "which defaults to None).\n\nIf this field is not specified, it is treated as an " ++
           "equivalent of Disabled.") text,
       field "subPath"
         ("Path within the volume from which the container's volume should be mounted. " ++
           "Defaults to \"\" (volume's root).") text,
       field "subPathExpr"
         ("Expanded path within the volume from which the container's volume should be " ++
           "mounted. Behaves similarly to SubPath but environment variable references " ++
           "$(VAR_NAME) are expanded using the container's environment. Defaults to \"\" " ++
           "(volume's root). SubPathExpr and SubPath are mutually exclusive.") text]
      ["mountPath", "name"]

end AgentOperator.Schema
