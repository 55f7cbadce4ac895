import AgentOperator.Kubernetes.Meta

/-!
# Environment variables

The variables of a container, given by value, by reference to the pod or to an object beside it, or
taken over from such an object as a whole.
-/

namespace AgentOperator.Kubernetes

/-- A field of the pod. -/
structure ObjectFieldSelector where
  apiVersion : Option String := none
  fieldPath : String
deriving DecidableEq

/-- Fields of the pod as documents. -/
def ObjectFieldSelector.codec : Codec ObjectFieldSelector :=
  .kubernetes "ObjectFieldSelector" <|
    Fields.build ObjectFieldSelector ObjectFieldSelector.mk
    |>.field "apiVersion" apiVersion (.optional .text)
    |>.field "fieldPath" fieldPath (.required .text "")

/-- One key of a secret. -/
structure SecretKeySelector where
  name : String
  key : String
  optional : Option Bool := none
deriving DecidableEq

/-- Keys of secrets as documents. -/
def SecretKeySelector.codec : Codec SecretKeySelector :=
  .kubernetes "SecretKeySelector" <|
    Fields.build SecretKeySelector SecretKeySelector.mk
    |>.field "name" name (.required .text "")
    |>.field "key" key (.required .text "")
    |>.field "optional" optional (.optional .boolean)

/-- One key of a config map. -/
structure ConfigMapKeySelector where
  name : String
  key : String
  optional : Option Bool := none
deriving DecidableEq

/-- Keys of config maps as documents. -/
def ConfigMapKeySelector.codec : Codec ConfigMapKeySelector :=
  .kubernetes "ConfigMapKeySelector" <|
    Fields.build ConfigMapKeySelector ConfigMapKeySelector.mk
    |>.field "name" name (.required .text "")
    |>.field "key" key (.required .text "")
    |>.field "optional" optional (.optional .boolean)

/-- An amount of a resource of a container. -/
structure ResourceFieldSelector where
  containerName : Option String := none
  resource : String
  divisor : Option String := none
deriving DecidableEq

/-- Amounts of resources of a container as documents. -/
def ResourceFieldSelector.codec : Codec ResourceFieldSelector :=
  .kubernetes "ResourceFieldSelector" <|
    Fields.build ResourceFieldSelector ResourceFieldSelector.mk
    |>.field "containerName" containerName (.optional .text)
    |>.field "resource" resource (.required .text "")
    |>.field "divisor" divisor (.optional quantity)

/-- Where the value of a variable comes from. -/
structure EnvVarSource where
  fieldRef : Option ObjectFieldSelector := none
  resourceFieldRef : Option ResourceFieldSelector := none
  configMapKeyRef : Option ConfigMapKeySelector := none
  secretKeyRef : Option SecretKeySelector := none
deriving DecidableEq

/-- Sources of variables as documents. -/
def EnvVarSource.codec : Codec EnvVarSource :=
  .kubernetes "EnvVarSource" <|
    Fields.build EnvVarSource EnvVarSource.mk
    |>.field "fieldRef" fieldRef (.optional ObjectFieldSelector.codec)
    |>.field "resourceFieldRef" resourceFieldRef (.optional ResourceFieldSelector.codec)
    |>.field "configMapKeyRef" configMapKeyRef (.optional ConfigMapKeySelector.codec)
    |>.field "secretKeyRef" secretKeyRef (.optional SecretKeySelector.codec)

/-- A variable of a container. -/
structure EnvVar where
  name : String
  value : Option String := none
  valueFrom : Option EnvVarSource := none
deriving DecidableEq

/-- Variables as documents. -/
def EnvVar.codec : Codec EnvVar :=
  .kubernetes "EnvVar" <|
    Fields.build EnvVar EnvVar.mk
    |>.field "name" name (.required .text "")
    |>.field "value" value (.optional .text)
    |>.field "valueFrom" valueFrom (.optional EnvVarSource.codec)

/-- A config map or secret all keys of which become variables. -/
structure EnvSource where
  name : String
  optional : Option Bool := none
deriving DecidableEq

/-- Objects that become variables, as documents of the type of that name. -/
def EnvSource.codec (typeName : String) : Codec EnvSource :=
  .kubernetes typeName <|
    Fields.build EnvSource EnvSource.mk
    |>.field "name" name (.required .text "")
    |>.field "optional" optional (.optional .boolean)

/-- A group of variables taken over from an object. -/
structure EnvFromSource where
  namePrefix : Option String := none
  configMapRef : Option EnvSource := none
  secretRef : Option EnvSource := none
deriving DecidableEq

/-- Groups of variables as documents. -/
def EnvFromSource.codec : Codec EnvFromSource :=
  .kubernetes "EnvFromSource" <|
    Fields.build EnvFromSource EnvFromSource.mk
    |>.field "prefix" namePrefix (.optional .text)
    |>.field "configMapRef" configMapRef (.optional (EnvSource.codec "ConfigMapEnvSource"))
    |>.field "secretRef" secretRef (.optional (EnvSource.codec "SecretEnvSource"))

end AgentOperator.Kubernetes
