import AgentOperator.Kubernetes.Meta

/-!
# Claimed volumes

The volumes that come from a claim to storage, which was made before or is made for the pod.
-/

namespace AgentOperator.Kubernetes

/-- A volume that was claimed before, by the name of the claim. -/
structure PersistentVolumeClaimVolumeSource where
  claimName : String
  readOnly : Option Bool := none
deriving DecidableEq

/-- Claimed volumes as documents. -/
def PersistentVolumeClaimVolumeSource.codec : Codec PersistentVolumeClaimVolumeSource :=
  .kubernetes "PersistentVolumeClaimVolumeSource" <|
    Fields.build PersistentVolumeClaimVolumeSource PersistentVolumeClaimVolumeSource.mk
    |>.field "claimName" claimName (.required .text "")
    |>.field "readOnly" readOnly (.optional .boolean)

/-- A reference to an object of any kind in the same namespace. -/
structure TypedLocalObjectReference where
  kind : String
  name : String
  apiGroup : Option String := none
deriving DecidableEq

/-- Such references as documents. -/
def TypedLocalObjectReference.codec : Codec TypedLocalObjectReference :=
  .kubernetes "TypedLocalObjectReference" <|
    Fields.build TypedLocalObjectReference TypedLocalObjectReference.mk
    |>.field "kind" kind (.required .text "")
    |>.field "name" name (.required .text "")
    |>.field "apiGroup" apiGroup (.optional .text)

/-- A reference to an object of any kind in any namespace. -/
structure TypedObjectReference where
  kind : String
  name : String
  apiGroup : Option String := none
  inNamespace : Option String := none
deriving DecidableEq

/-- References to objects of any kind as documents. -/
def TypedObjectReference.codec : Codec TypedObjectReference :=
  .kubernetes "TypedObjectReference" <|
    Fields.build TypedObjectReference TypedObjectReference.mk
    |>.field "kind" kind (.required .text "")
    |>.field "name" name (.required .text "")
    |>.field "apiGroup" apiGroup (.optional .text)
    |>.field "namespace" inNamespace (.optional .text)

/-- The least and the most storage that a volume has to offer. -/
structure VolumeResourceRequirements where
  limits : Option (Dict String) := none
  requests : Option (Dict String) := none
deriving DecidableEq

/-- Bounds on the storage of volumes as documents. -/
def VolumeResourceRequirements.codec : Codec VolumeResourceRequirements :=
  .kubernetes "VolumeResourceRequirements" <|
    Fields.build VolumeResourceRequirements VolumeResourceRequirements.mk
    |>.field "limits" limits (.optional (.dict quantity))
    |>.field "requests" requests (.optional (.dict quantity))

/-- What a claim asks of a volume: how it is accessed, how large it is, and which volume or class of
storage it comes from. -/
structure PersistentVolumeClaimSpec where
  accessModes : Option (List String) := none
  dataSource : Option TypedLocalObjectReference := none
  dataSourceRef : Option TypedObjectReference := none
  resources : Option VolumeResourceRequirements := none
  selector : Option LabelSelector := none
  storageClassName : Option String := none
  volumeAttributesClassName : Option String := none
  volumeMode : Option String := none
  volumeName : Option String := none
deriving DecidableEq

/-- What claims ask for as documents. -/
def PersistentVolumeClaimSpec.codec : Codec PersistentVolumeClaimSpec :=
  .kubernetes "PersistentVolumeClaimSpec" <|
    Fields.build PersistentVolumeClaimSpec PersistentVolumeClaimSpec.mk
    |>.field "accessModes" accessModes (.optional (.list .text))
    |>.field "dataSource" dataSource (.optional TypedLocalObjectReference.codec)
    |>.field "dataSourceRef" dataSourceRef (.optional TypedObjectReference.codec)
    |>.field "resources" resources (.optional VolumeResourceRequirements.codec)
    |>.field "selector" selector (.optional LabelSelector.codec)
    |>.field "storageClassName" storageClassName (.optional .text)
    |>.field "volumeAttributesClassName" volumeAttributesClassName (.optional .text)
    |>.field "volumeMode" volumeMode (.optional .text)
    |>.field "volumeName" volumeName (.optional .text)

/-- The claim that is made for a pod. -/
structure PersistentVolumeClaimTemplate where
  metadata : Option ObjectMeta := none
  spec : PersistentVolumeClaimSpec
deriving DecidableEq

/-- Claims to be made as documents. -/
def PersistentVolumeClaimTemplate.codec : Codec PersistentVolumeClaimTemplate :=
  .kubernetes "PersistentVolumeClaimTemplate" <|
    Fields.build PersistentVolumeClaimTemplate PersistentVolumeClaimTemplate.mk
    |>.field "metadata" metadata (.optional ObjectMeta.codec)
    |>.field "spec" spec (.required PersistentVolumeClaimSpec.codec {})

/-- A volume that is claimed for the pod and lives as long as it. -/
structure EphemeralVolumeSource where
  volumeClaimTemplate : Option PersistentVolumeClaimTemplate := none
deriving DecidableEq

/-- Volumes claimed for pods as documents. -/
def EphemeralVolumeSource.codec : Codec EphemeralVolumeSource :=
  .kubernetes "EphemeralVolumeSource" <|
    Fields.build EphemeralVolumeSource EphemeralVolumeSource.mk
    |>.field "volumeClaimTemplate" volumeClaimTemplate
      (.optional PersistentVolumeClaimTemplate.codec)

end AgentOperator.Kubernetes
