import AgentOperator.Definition.Embedded.Metadata

/-!
# Schemas of claims

The schemas of claims of storage and of volumes that come with a claim of their own.
-/

namespace AgentOperator.Schema

/-- An object of any kind in the same namespace. -/
def typedLocalObjectReference : Json :=
  object
    [field "apiGroup"
       ("APIGroup is the group for the resource being referenced. If APIGroup is not " ++
         "specified, the specified Kind must be in the core API group. For any other " ++
         "third-party types, APIGroup is required.") text,
     field "kind" "Kind is the type of resource being referenced" text,
     field "name" "Name is the name of resource being referenced" text] ["kind", "name"]

/-- An object of any kind in any namespace. -/
def typedObjectReference : Json :=
  object
    [field "apiGroup"
       ("APIGroup is the group for the resource being referenced. If APIGroup is not " ++
         "specified, the specified Kind must be in the core API group. For any other " ++
         "third-party types, APIGroup is required.") text,
     field "kind" "Kind is the type of resource being referenced" text,
     field "name" "Name is the name of resource being referenced" text,
     field "namespace"
       ("Namespace is the namespace of resource being referenced Note that when a namespace " ++
         "is specified, a gateway.networking.k8s.io/ReferenceGrant object is required in the " ++
         "referent namespace to allow that namespace's owner to accept the reference. See the " ++
         "ReferenceGrant documentation for details. (Alpha) This field requires the " ++
         "CrossNamespaceVolumeDataSource feature gate to be enabled.") text] ["kind", "name"]

/-- How much storage a volume needs. -/
def volumeResourceRequirements : Json :=
  object
    [field "limits"
       (moreInfo
          "Limits describes the maximum amount of compute resources allowed."
          "kubernetes.io/docs/concepts/configuration/manage-resources-containers/") (dict quantity),
     field "requests"
       (moreInfo
          ("Requests describes the minimum amount of compute resources required. If Requests " ++
            "is omitted for a container, it defaults to Limits if that is explicitly " ++
            "specified, otherwise to an implementation-defined value. Requests cannot exceed " ++
            "Limits.") "kubernetes.io/docs/concepts/configuration/manage-resources-containers/")
       (dict quantity)] []

/-- What a claim asks for. -/
def persistentVolumeClaimSpec : Json :=
  object
    [field "accessModes"
       (moreInfo
          "accessModes contains the desired access modes the volume should have."
          "kubernetes.io/docs/concepts/storage/persistent-volumes#access-modes-1") (list text),
     field "dataSource"
       ("dataSource field can be used to specify either: * An existing VolumeSnapshot object " ++
         "(snapshot.storage.k8s.io/VolumeSnapshot) * An existing PVC (PersistentVolumeClaim) " ++
         "If the provisioner or an external controller can support the specified data source, " ++
         "it will create a new volume based on the contents of the specified data source. " ++
         "When the AnyVolumeDataSource feature gate is enabled, dataSource contents will be " ++
         "copied to dataSourceRef, and dataSourceRef contents will be copied to dataSource " ++
         "when dataSourceRef.namespace is not specified. If the namespace is specified, then " ++
         "dataSourceRef will not be copied to dataSource.") typedLocalObjectReference,
     field "dataSourceRef"
       ("dataSourceRef specifies the object from which to populate the volume with data, if " ++
         "a non-empty volume is desired. This may be any object from a non-empty API group " ++
         "(non core object) or a PersistentVolumeClaim object. When this field is specified, " ++
         "volume binding will only succeed if the type of the specified object matches some " ++
         "installed volume populator or dynamic provisioner. This field will replace the " ++
         "functionality of the dataSource field and as such if both fields are non-empty, " ++
         "they must have the same value. For backwards compatibility, when namespace isn't " ++
         "specified in dataSourceRef, both fields (dataSource and dataSourceRef) will be set " ++
         "to the same value automatically if one of them is empty and the other is non-empty. " ++
         "When namespace is specified in dataSourceRef, dataSource isn't set to the same " ++
         "value and must be empty. There are three important differences between dataSource " ++
         "and dataSourceRef: * While dataSource only allows two specific types of objects, " ++
         "dataSourceRef\n  allows any non-core object, as well as PersistentVolumeClaim " ++
         "objects.\n* While dataSource ignores disallowed values (dropping them), " ++
         "dataSourceRef\n  preserves all values, and generates an error if a disallowed value " ++
         "is\n  specified.\n* While dataSource only allows local objects, dataSourceRef " ++
         "allows objects\n  in any namespaces.\n(Beta) Using this field requires the " ++
         "AnyVolumeDataSource feature gate to be enabled. (Alpha) Using the namespace field " ++
         "of dataSourceRef requires the CrossNamespaceVolumeDataSource feature gate to be " ++
         "enabled.") typedObjectReference,
     field "resources"
       (moreInfo
          ("resources represents the minimum resources the volume should have. If " ++
            "RecoverVolumeExpansionFailure feature is enabled users are allowed to specify " ++
            "resource requirements that are lower than previous value but must still be " ++
            "higher than capacity recorded in the status field of the claim.")
          "kubernetes.io/docs/concepts/storage/persistent-volumes#resources")
       volumeResourceRequirements,
     field "selector"
       "selector is a label query over volumes to consider for binding." labelSelector,
     field "storageClassName"
       (moreInfo
          "storageClassName is the name of the StorageClass required by the claim."
          "kubernetes.io/docs/concepts/storage/persistent-volumes#class-1") text,
     field "volumeAttributesClassName"
       ("volumeAttributesClassName may be used to set the VolumeAttributesClass used by this " ++
         "claim. If specified, the CSI driver will create or update the volume with the " ++
         "attributes defined in the corresponding VolumeAttributesClass. This has a different " ++
         "purpose than storageClassName, it can be changed after the claim is created. An " ++
         "empty string value means that no VolumeAttributesClass will be applied to the claim " ++
         "but it's not allowed to reset this field to empty string once it is set. If " ++
         "unspecified and the PersistentVolumeClaim is unbound, the default " ++
         "VolumeAttributesClass will be set by the persistentvolume controller if it exists. " ++
         "If the resource referred to by volumeAttributesClass does not exist, this " ++
         "PersistentVolumeClaim will be set to a Pending state, as reflected by the " ++
         "modifyVolumeStatus field, until such as a resource exists. More info: " ++
         page "kubernetes.io/docs/concepts/storage/volume-attributes-classes/" ++
         " (Alpha) Using this field requires the VolumeAttributesClass feature gate to be " ++
         "enabled.") text,
     field "volumeMode"
       ("volumeMode defines what type of volume is required by the claim. Value of " ++
         "Filesystem is implied when not included in claim spec.") text,
     field "volumeName"
       "volumeName is the binding reference to the PersistentVolume backing this claim." text] []

/-- The template of a claim. -/
def persistentVolumeClaimTemplate : Json :=
  object
    [field "metadata"
       ("May contain labels and annotations that will be copied into the PVC when creating " ++
         "it. No other fields are allowed and will be rejected during validation.") objectMeta,
     field "spec"
       ("The specification for the PersistentVolumeClaim. The entire content is copied " ++
         "unchanged into the PVC that gets created from this template. The same fields as in " ++
         "a PersistentVolumeClaim are also valid here.") persistentVolumeClaimSpec] ["spec"]

/-- A claimed volume that lives as long as the pod. -/
def ephemeralVolumeSource : Json :=
  object
    [field "volumeClaimTemplate"
       ("Will be used to create a stand-alone PVC to provision the volume. The pod in which " ++
         "this EphemeralVolumeSource is embedded will be the owner of the PVC, i.e. the PVC " ++
         "will be deleted together with the pod.  The name of the PVC will be `<pod " ++
         "name>-<volume name>` where `<volume name>` is the name from the `PodSpec.Volumes` " ++
         "array entry. Pod validation will reject the pod if the concatenated name is not " ++
         "valid for a PVC (for example, too long).\n\nAn existing PVC with that name that is " ++
         "not owned by the pod will *not* be used for the pod to avoid using an unrelated " ++
         "volume by mistake. Starting the pod is then blocked until the unrelated PVC is " ++
         "removed. If such a pre-created PVC is meant to be used by the pod, the PVC has to " ++
         "updated with an owner reference to the pod once the pod exists. Normally this " ++
         "should not be necessary, but it may be useful when manually reconstructing a broken " ++
         "cluster.\n\nThis field is read-only and no changes will be made by Kubernetes to " ++
         "the PVC after it has been created.\n\nRequired, must not be nil.")
       persistentVolumeClaimTemplate] []

end AgentOperator.Schema
