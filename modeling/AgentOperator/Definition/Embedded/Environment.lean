import AgentOperator.Definition.Schema

/-!
# Schemas of variables

The schemas of the environment variables of a container.
-/

namespace AgentOperator.Schema

/-- A key of a config map. -/
def configMapKeySelector : Json :=
  object
    [field "key" "The key to select." text,
     field "name"
       (moreInfo
          ("Name of the referent. This field is effectively required, but due to backwards " ++
            "compatibility is allowed to be empty. Instances of this type with an empty value " ++
            "here are almost certainly wrong.")
          "kubernetes.io/docs/concepts/overview/working-with-objects/names/#names") text,
     field "optional" "Specify whether the ConfigMap or its key must be defined" boolean]
    ["key", "name"]

/-- A key of a secret. -/
def secretKeySelector : Json :=
  object
    [field "key" "The key of the secret to select from.  Must be a valid secret key." text,
     field "name"
       (moreInfo
          ("Name of the referent. This field is effectively required, but due to backwards " ++
            "compatibility is allowed to be empty. Instances of this type with an empty value " ++
            "here are almost certainly wrong.")
          "kubernetes.io/docs/concepts/overview/working-with-objects/names/#names") text,
     field "optional" "Specify whether the Secret or its key must be defined" boolean]
    ["key", "name"]

/-- A field of the pod. -/
def objectFieldSelector : Json :=
  object
    [field "apiVersion"
       "Version of the schema the FieldPath is written in terms of, defaults to \"v1\"." text,
     field "fieldPath" "Path of the field to select in the specified API version." text]
    ["fieldPath"]

/-- An amount of a resource of a container. -/
def resourceFieldSelector : Json :=
  object
    [field "containerName" "Container name: required for volumes, optional for env vars" text,
     field "divisor"
       "Specifies the output format of the exposed resources, defaults to \"1\"" quantity,
     field "resource" "Required: resource to select" text] ["resource"]

/-- Where the value of a variable comes from. -/
def envVarSource : Json :=
  object
    [field "configMapKeyRef" "Selects a key of a ConfigMap." configMapKeySelector,
     field "fieldRef"
       ("Selects a field of the pod: supports metadata.name, metadata.namespace, " ++
         "`metadata.labels['<KEY>']`, `metadata.annotations['<KEY>']`, spec.nodeName, " ++
         "spec.serviceAccountName, status.hostIP, status.podIP, status.podIPs.")
       objectFieldSelector,
     field "resourceFieldRef"
       ("Selects a resource of the container: only resources limits and requests " ++
         "(limits.cpu, limits.memory, limits.ephemeral-storage, requests.cpu, requests.memory " ++
         "and requests.ephemeral-storage) are currently supported.") resourceFieldSelector,
     field "secretKeyRef" "Selects a key of a secret in the pod's namespace" secretKeySelector] []

/-- Variables of a container. -/
def envVar : Json :=
  described "EnvVar represents an environment variable present in a Container." <|
    object
      [field "name" "Name of the environment variable. Must be a C_IDENTIFIER." text,
       field "value"
         ("Variable references $(VAR_NAME) are expanded using the previously defined " ++
           "environment variables in the container and any service environment variables. If " ++
           "a variable cannot be resolved, the reference in the input string will be " ++
           "unchanged. Double $$ are reduced to a single $, which allows for escaping the " ++
           "$(VAR_NAME) syntax: i.e. \"$$(VAR_NAME)\" will produce the string literal " ++
           "\"$(VAR_NAME)\". Escaped references will never be expanded, regardless of whether " ++
           "the variable exists or not. Defaults to \"\".") text,
       field "valueFrom"
         "Source for the environment variable's value. Cannot be used if value is not empty."
         envVarSource] ["name"]

/-- A config map all keys of which become variables. -/
def configMapEnvSource : Json :=
  object
    [field "name"
       (moreInfo
          ("Name of the referent. This field is effectively required, but due to backwards " ++
            "compatibility is allowed to be empty. Instances of this type with an empty value " ++
            "here are almost certainly wrong.")
          "kubernetes.io/docs/concepts/overview/working-with-objects/names/#names") text,
     field "optional" "Specify whether the ConfigMap must be defined" boolean] ["name"]

/-- A secret all keys of which become variables. -/
def secretEnvSource : Json :=
  object
    [field "name"
       (moreInfo
          ("Name of the referent. This field is effectively required, but due to backwards " ++
            "compatibility is allowed to be empty. Instances of this type with an empty value " ++
            "here are almost certainly wrong.")
          "kubernetes.io/docs/concepts/overview/working-with-objects/names/#names") text,
     field "optional" "Specify whether the Secret must be defined" boolean] ["name"]

/-- Groups of variables taken over from objects. -/
def envFromSource : Json :=
  described "EnvFromSource represents the source of a set of ConfigMaps" <|
    object
      [field "configMapRef" "The ConfigMap to select from" configMapEnvSource,
       field "prefix"
         "An optional identifier to prepend to each key in the ConfigMap. Must be a C_IDENTIFIER."
         text,
       field "secretRef" "The Secret to select from" secretEnvSource] []

end AgentOperator.Schema
