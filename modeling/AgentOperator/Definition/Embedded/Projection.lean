import AgentOperator.Definition.Embedded.Environment
import AgentOperator.Definition.Embedded.Metadata

/-!
# Schemas of volumes that show objects

The schemas of the volumes whose files are config maps, secrets, facts about the pod, and tokens.
-/

namespace AgentOperator.Schema

/-- A key of an object as a file of a volume. -/
def keyToPath : Json :=
  described "Maps a string key to a path within a volume." <|
    object
      [field "key" "key is the key to project." text,
       field "mode"
         ("mode is Optional: mode bits used to set permissions on this file. Must be an " ++
           "octal value between 0000 and 0777 or a decimal value between 0 and 511. YAML " ++
           "accepts both octal and decimal values, JSON requires decimal values for mode " ++
           "bits. If not specified, the volume defaultMode will be used. This might be in " ++
           "conflict with other options that affect the file mode, like fsGroup, and the " ++
           "result can be other mode bits set.") int32,
       field "path"
         ("path is the relative path of the file to map the key to. May not be an absolute " ++
           "path. May not contain the path element '..'. May not start with the string '..'.") text]
      ["key", "path"]

/-- A volume that shows a config map. -/
def configMapVolumeSource : Json :=
  object
    [field "defaultMode"
       ("defaultMode is optional: mode bits used to set permissions on created files by " ++
         "default. Must be an octal value between 0000 and 0777 or a decimal value between 0 " ++
         "and 511. YAML accepts both octal and decimal values, JSON requires decimal values " ++
         "for mode bits. Defaults to 0644. Directories within the path are not affected by " ++
         "this setting. This might be in conflict with other options that affect the file " ++
         "mode, like fsGroup, and the result can be other mode bits set.") int32,
     field "items"
       ("items if unspecified, each key-value pair in the Data field of the referenced " ++
         "ConfigMap will be projected into the volume as a file whose name is the key and " ++
         "content is the value. If specified, the listed keys will be projected into the " ++
         "specified paths, and unlisted keys will not be present. If a key is specified which " ++
         "is not present in the ConfigMap, the volume setup will error unless it is marked " ++
         "optional. Paths must be relative and may not contain the '..' path or start with " ++
         "'..'.") (list keyToPath),
     field "name"
       (moreInfo
          ("Name of the referent. This field is effectively required, but due to backwards " ++
            "compatibility is allowed to be empty. Instances of this type with an empty value " ++
            "here are almost certainly wrong.")
          "kubernetes.io/docs/concepts/overview/working-with-objects/names/#names") text,
     field "optional" "optional specify whether the ConfigMap or its keys must be defined" boolean]
    ["name"]

/-- A volume that shows a secret. -/
def secretVolumeSource : Json :=
  object
    [field "defaultMode"
       ("defaultMode is Optional: mode bits used to set permissions on created files by " ++
         "default. Must be an octal value between 0000 and 0777 or a decimal value between 0 " ++
         "and 511. YAML accepts both octal and decimal values, JSON requires decimal values " ++
         "for mode bits. Defaults to 0644. Directories within the path are not affected by " ++
         "this setting. This might be in conflict with other options that affect the file " ++
         "mode, like fsGroup, and the result can be other mode bits set.") int32,
     field "items"
       ("items If unspecified, each key-value pair in the Data field of the referenced " ++
         "Secret will be projected into the volume as a file whose name is the key and " ++
         "content is the value. If specified, the listed keys will be projected into the " ++
         "specified paths, and unlisted keys will not be present. If a key is specified which " ++
         "is not present in the Secret, the volume setup will error unless it is marked " ++
         "optional. Paths must be relative and may not contain the '..' path or start with " ++
         "'..'.") (list keyToPath),
     field "optional"
       "optional field specify whether the Secret or its keys must be defined" boolean,
     field "secretName"
       (moreInfo
          "secretName is the name of the secret in the pod's namespace to use."
          "kubernetes.io/docs/concepts/storage/volumes#secret") text] []

/-- A fact about the pod as a file of a volume. -/
def downwardAPIVolumeFile : Json :=
  described
      "DownwardAPIVolumeFile represents information to create the file containing the pod field" <|
    object
      [field "fieldRef"
         ("Required: Selects a field of the pod: only annotations, labels, name, namespace " ++
           "and uid are supported.") objectFieldSelector,
       field "mode"
         ("Optional: mode bits used to set permissions on this file, must be an octal value " ++
           "between 0000 and 0777 or a decimal value between 0 and 511. YAML accepts both " ++
           "octal and decimal values, JSON requires decimal values for mode bits. If not " ++
           "specified, the volume defaultMode will be used. This might be in conflict with " ++
           "other options that affect the file mode, like fsGroup, and the result can be " ++
           "other mode bits set.") int32,
       field "path"
         ("Required: Path is  the relative path name of the file to be created. Must not be " ++
           "absolute or contain the '..' path. Must be utf-8 encoded. The first item of the " ++
           "relative path must not start with '..'") text,
       field "resourceFieldRef"
         ("Selects a resource of the container: only resources limits and requests " ++
           "(limits.cpu, limits.memory, requests.cpu and requests.memory) are currently " ++
           "supported.") resourceFieldSelector] ["path"]

/-- A volume that shows facts about the pod. -/
def downwardAPIVolumeSource : Json :=
  object
    [field "defaultMode"
       ("Optional: mode bits to use on created files by default. Must be a Optional: mode " ++
         "bits used to set permissions on created files by default. Must be an octal value " ++
         "between 0000 and 0777 or a decimal value between 0 and 511. YAML accepts both octal " ++
         "and decimal values, JSON requires decimal values for mode bits. Defaults to 0644. " ++
         "Directories within the path are not affected by this setting. This might be in " ++
         "conflict with other options that affect the file mode, like fsGroup, and the result " ++
         "can be other mode bits set.") int32,
     field "items" "Items is a list of downward API volume file" (list downwardAPIVolumeFile)] []

/-- Certificates as a part of a volume. -/
def clusterTrustBundleProjection : Json :=
  object
    [field "labelSelector"
       ("Select all ClusterTrustBundles that match this label selector.  Only has effect if " ++
         "signerName is set.  Mutually-exclusive with name.  If unset, interpreted as \"match " ++
         "nothing\".  If set but empty, interpreted as \"match everything\".") labelSelector,
     field "name"
       ("Select a single ClusterTrustBundle by object name.  Mutually-exclusive with " ++
         "signerName and labelSelector.") text,
     field "optional"
       ("If true, don't block pod startup if the referenced ClusterTrustBundle(s) aren't " ++
         "available.  If using name, then the named ClusterTrustBundle is allowed not to " ++
         "exist.  If using signerName, then the combination of signerName and labelSelector " ++
         "is allowed to match zero ClusterTrustBundles.") boolean,
     field "path" "Relative path from the volume root to write the bundle." text,
     field "signerName"
       ("Select all ClusterTrustBundles that match this signer name. Mutually-exclusive with " ++
         "name.  The contents of all selected ClusterTrustBundles will be unified and " ++
         "deduplicated.") text] ["path"]

/-- A config map as a part of a volume. -/
def configMapProjection : Json :=
  object
    [field "items"
       ("items if unspecified, each key-value pair in the Data field of the referenced " ++
         "ConfigMap will be projected into the volume as a file whose name is the key and " ++
         "content is the value. If specified, the listed keys will be projected into the " ++
         "specified paths, and unlisted keys will not be present. If a key is specified which " ++
         "is not present in the ConfigMap, the volume setup will error unless it is marked " ++
         "optional. Paths must be relative and may not contain the '..' path or start with " ++
         "'..'.") (list keyToPath),
     field "name"
       (moreInfo
          ("Name of the referent. This field is effectively required, but due to backwards " ++
            "compatibility is allowed to be empty. Instances of this type with an empty value " ++
            "here are almost certainly wrong.")
          "kubernetes.io/docs/concepts/overview/working-with-objects/names/#names") text,
     field "optional" "optional specify whether the ConfigMap or its keys must be defined" boolean]
    ["name"]

/-- A secret as a part of a volume. -/
def secretProjection : Json :=
  object
    [field "items"
       ("items if unspecified, each key-value pair in the Data field of the referenced " ++
         "Secret will be projected into the volume as a file whose name is the key and " ++
         "content is the value. If specified, the listed keys will be projected into the " ++
         "specified paths, and unlisted keys will not be present. If a key is specified which " ++
         "is not present in the Secret, the volume setup will error unless it is marked " ++
         "optional. Paths must be relative and may not contain the '..' path or start with " ++
         "'..'.") (list keyToPath),
     field "name"
       (moreInfo
          ("Name of the referent. This field is effectively required, but due to backwards " ++
            "compatibility is allowed to be empty. Instances of this type with an empty value " ++
            "here are almost certainly wrong.")
          "kubernetes.io/docs/concepts/overview/working-with-objects/names/#names") text,
     field "optional"
       "optional field specify whether the Secret or its key must be defined" boolean] ["name"]

/-- Facts about the pod as a part of a volume. -/
def downwardAPIProjection : Json :=
  object
    [field "items" "Items is a list of DownwardAPIVolume file" (list downwardAPIVolumeFile)] []

/-- A token of a service account as a part of a volume. -/
def serviceAccountTokenProjection : Json :=
  object
    [field "audience"
       ("audience is the intended audience of the token. A recipient of a token must " ++
         "identify itself with an identifier specified in the audience of the token, and " ++
         "otherwise should reject the token. The audience defaults to the identifier of the " ++
         "apiserver.") text,
     field "expirationSeconds"
       ("expirationSeconds is the requested duration of validity of the service account " ++
         "token. As the token approaches expiration, the kubelet volume plugin will " ++
         "proactively rotate the service account token. The kubelet will start trying to " ++
         "rotate the token if the token is older than 80 percent of its time to live or if " ++
         "the token is older than 24 hours.Defaults to 1 hour and must be at least 10 minutes.")
       int64,
     field "path"
       "path is the path relative to the mount point of the file to project the token into." text]
    ["path"]

/-- A part of a volume that is put together from several objects. -/
def volumeProjection : Json :=
  described "Projection that may be projected along with other supported volume types" <|
    object
      [field "clusterTrustBundle"
         ("ClusterTrustBundle allows a pod to access the `.spec.trustBundle` field of " ++
           "ClusterTrustBundle objects in an auto-updating file.\n\nAlpha, gated by the " ++
           "ClusterTrustBundleProjection feature gate.\n\nClusterTrustBundle objects can " ++
           "either be selected by name, or by the combination of signer name and a label " ++
           "selector.\n\nKubelet performs aggressive normalization of the PEM contents " ++
           "written into the pod filesystem.  Esoteric PEM features such as inter-block " ++
           "comments and block headers are stripped.  Certificates are deduplicated. The " ++
           "ordering of certificates within the file is arbitrary, and Kubelet may change the " ++
           "order over time.") clusterTrustBundleProjection,
       field "configMap"
         "configMap information about the configMap data to project" configMapProjection,
       field "downwardAPI"
         "downwardAPI information about the downwardAPI data to project" downwardAPIProjection,
       field "secret" "secret information about the secret data to project" secretProjection,
       field "serviceAccountToken"
         "serviceAccountToken is information about the serviceAccountToken data to project"
         serviceAccountTokenProjection] []

/-- A volume that is put together from several objects. -/
def projectedVolumeSource : Json :=
  object
    [field "defaultMode"
       ("defaultMode are the mode bits used to set permissions on created files by default. " ++
         "Must be an octal value between 0000 and 0777 or a decimal value between 0 and 511. " ++
         "YAML accepts both octal and decimal values, JSON requires decimal values for mode " ++
         "bits. Directories within the path are not affected by this setting. This might be " ++
         "in conflict with other options that affect the file mode, like fsGroup, and the " ++
         "result can be other mode bits set.") int32,
     field "sources" "sources is the list of volume projections" (list volumeProjection)] []

end AgentOperator.Schema
