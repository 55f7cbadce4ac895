import AgentOperator.Kubernetes.Env

/-!
# Projected volumes

The volumes that show what the cluster knows: config maps, secrets, and the pod itself, each in a
volume of its own or several of them in one.
-/

namespace AgentOperator.Kubernetes

/-- A key of an object as a file of a volume. -/
structure KeyToPath where
  key : String
  path : String
  mode : Option Int32 := none
deriving DecidableEq

/-- Keys as files as documents. -/
def KeyToPath.codec : Codec KeyToPath :=
  .kubernetes "KeyToPath" <|
    Fields.build KeyToPath KeyToPath.mk
    |>.field "key" key (.required .text "")
    |>.field "path" path (.required .text "")
    |>.field "mode" mode (.optional .int32)

/-- A volume that shows a config map; all keys of it become files if no items are given. -/
structure ConfigMapVolumeSource where
  name : String
  items : Option (List KeyToPath) := none
  defaultMode : Option Int32 := none
  optional : Option Bool := none
deriving DecidableEq

/-- Volumes that show config maps as documents. -/
def ConfigMapVolumeSource.codec : Codec ConfigMapVolumeSource :=
  .kubernetes "ConfigMapVolumeSource" <|
    Fields.build ConfigMapVolumeSource ConfigMapVolumeSource.mk
    |>.field "name" name (.required .text "")
    |>.field "items" items (.optional (.list KeyToPath.codec))
    |>.field "defaultMode" defaultMode (.optional .int32)
    |>.field "optional" optional (.optional .boolean)

/-- A volume that shows a secret; all keys of it become files if no items are given. -/
structure SecretVolumeSource where
  secretName : Option String := none
  items : Option (List KeyToPath) := none
  defaultMode : Option Int32 := none
  optional : Option Bool := none
deriving DecidableEq

/-- Volumes that show secrets as documents. -/
def SecretVolumeSource.codec : Codec SecretVolumeSource :=
  .kubernetes "SecretVolumeSource" <|
    Fields.build SecretVolumeSource SecretVolumeSource.mk
    |>.field "secretName" secretName (.optional .text)
    |>.field "items" items (.optional (.list KeyToPath.codec))
    |>.field "defaultMode" defaultMode (.optional .int32)
    |>.field "optional" optional (.optional .boolean)

/-- A file with a field of the pod or an amount of a resource of it. -/
structure DownwardAPIVolumeFile where
  path : String
  fieldRef : Option ObjectFieldSelector := none
  mode : Option Int32 := none
  resourceFieldRef : Option ResourceFieldSelector := none
deriving DecidableEq

/-- Files about the pod as documents. -/
def DownwardAPIVolumeFile.codec : Codec DownwardAPIVolumeFile :=
  .kubernetes "DownwardAPIVolumeFile" <|
    Fields.build DownwardAPIVolumeFile DownwardAPIVolumeFile.mk
    |>.field "path" path (.required .text "")
    |>.field "fieldRef" fieldRef (.optional ObjectFieldSelector.codec)
    |>.field "mode" mode (.optional .int32)
    |>.field "resourceFieldRef" resourceFieldRef (.optional ResourceFieldSelector.codec)

/-- A volume with files about the pod. -/
structure DownwardAPIVolumeSource where
  defaultMode : Option Int32 := none
  items : Option (List DownwardAPIVolumeFile) := none
deriving DecidableEq

/-- Volumes with files about the pod as documents. -/
def DownwardAPIVolumeSource.codec : Codec DownwardAPIVolumeSource :=
  .kubernetes "DownwardAPIVolumeSource" <|
    Fields.build DownwardAPIVolumeSource DownwardAPIVolumeSource.mk
    |>.field "defaultMode" defaultMode (.optional .int32)
    |>.field "items" items (.optional (.list DownwardAPIVolumeFile.codec))

/-- The part of a volume that shows a config map or a secret. -/
structure ObjectProjection where
  name : String
  items : Option (List KeyToPath) := none
  optional : Option Bool := none
deriving DecidableEq

/-- Such parts of a volume, as documents of the type of that name. -/
def ObjectProjection.codec (typeName : String) : Codec ObjectProjection :=
  .kubernetes typeName <|
    Fields.build ObjectProjection ObjectProjection.mk
    |>.field "name" name (.required .text "")
    |>.field "items" items (.optional (.list KeyToPath.codec))
    |>.field "optional" optional (.optional .boolean)

/-- The part of a volume with files about the pod. -/
structure DownwardAPIProjection where
  items : Option (List DownwardAPIVolumeFile) := none
deriving DecidableEq

/-- Parts of a volume with files about the pod as documents. -/
def DownwardAPIProjection.codec : Codec DownwardAPIProjection :=
  .kubernetes "DownwardAPIProjection" <|
    Fields.build DownwardAPIProjection DownwardAPIProjection.mk
    |>.field "items" items (.optional (.list DownwardAPIVolumeFile.codec))

/-- The file of a volume with a token of the service account of the pod. -/
structure ServiceAccountTokenProjection where
  path : String
  audience : Option String := none
  expirationSeconds : Option Int64 := none
deriving DecidableEq

/-- Files with tokens as documents. -/
def ServiceAccountTokenProjection.codec : Codec ServiceAccountTokenProjection :=
  .kubernetes "ServiceAccountTokenProjection" <|
    Fields.build ServiceAccountTokenProjection ServiceAccountTokenProjection.mk
    |>.field "path" path (.required .text "")
    |>.field "audience" audience (.optional .text)
    |>.field "expirationSeconds" expirationSeconds (.optional .int64)

/-- The file of a volume with the certificates of trust bundles, picked by their name or by their
signer and labels. -/
structure ClusterTrustBundleProjection where
  path : String
  labelSelector : Option LabelSelector := none
  name : Option String := none
  optional : Option Bool := none
  signerName : Option String := none
deriving DecidableEq

/-- Files with certificates as documents. -/
def ClusterTrustBundleProjection.codec : Codec ClusterTrustBundleProjection :=
  .kubernetes "ClusterTrustBundleProjection" <|
    Fields.build ClusterTrustBundleProjection ClusterTrustBundleProjection.mk
    |>.field "path" path (.required .text "")
    |>.field "labelSelector" labelSelector (.optional LabelSelector.codec)
    |>.field "name" name (.optional .text)
    |>.field "optional" optional (.optional .boolean)
    |>.field "signerName" signerName (.optional .text)

/-- One of the parts that a volume is put together from. -/
structure VolumeProjection where
  clusterTrustBundle : Option ClusterTrustBundleProjection := none
  configMap : Option ObjectProjection := none
  downwardAPI : Option DownwardAPIProjection := none
  secret : Option ObjectProjection := none
  serviceAccountToken : Option ServiceAccountTokenProjection := none
deriving DecidableEq

/-- Parts of a volume as documents. -/
def VolumeProjection.codec : Codec VolumeProjection :=
  .kubernetes "VolumeProjection" <|
    Fields.build VolumeProjection VolumeProjection.mk
    |>.field "clusterTrustBundle" clusterTrustBundle (.optional ClusterTrustBundleProjection.codec)
    |>.field "configMap" configMap (.optional (ObjectProjection.codec "ConfigMapProjection"))
    |>.field "downwardAPI" downwardAPI (.optional DownwardAPIProjection.codec)
    |>.field "secret" secret (.optional (ObjectProjection.codec "SecretProjection"))
    |>.field "serviceAccountToken" serviceAccountToken
      (.optional ServiceAccountTokenProjection.codec)

/-- A volume that is put together from several parts. -/
structure ProjectedVolumeSource where
  defaultMode : Option Int32 := none
  sources : Option (List VolumeProjection) := none
deriving DecidableEq

/-- Volumes put together from parts as documents. -/
def ProjectedVolumeSource.codec : Codec ProjectedVolumeSource :=
  .kubernetes "ProjectedVolumeSource" <|
    Fields.build ProjectedVolumeSource ProjectedVolumeSource.mk
    |>.field "defaultMode" defaultMode (.optional .int32)
    |>.field "sources" sources (.optional (.list VolumeProjection.codec))

end AgentOperator.Kubernetes
