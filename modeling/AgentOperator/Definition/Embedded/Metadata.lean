import AgentOperator.Definition.Schema

/-!
# Schemas of metadata

The schemas of the metadata of objects and of conditions on their labels.
-/

namespace AgentOperator.Schema

/-- References from an object to one that owns it. -/
def ownerReference : Json :=
  described
      ("OwnerReference contains enough information to let you identify an owning object. An " ++
        "owning object must be in the same namespace as the dependent, or be cluster-scoped, " ++
        "so there is no namespace field.") <|
    object
      [field "apiVersion" "API version of the referent." text,
       field "blockOwnerDeletion"
         ("If true, AND if the owner has the \"foregroundDeletion\" finalizer, then the " ++
           "owner cannot be deleted from the key-value store until this reference is removed. " ++
           "See " ++
           page ("kubernetes.io/docs/concepts/architecture/garbage-collection/" ++
             "#foreground-deletion") ++
           " for how the garbage collector interacts with this field and enforces the " ++
           "foreground deletion. Defaults to false. To set this field, a user needs " ++
           "\"delete\" permission of the owner, otherwise 422 (Unprocessable Entity) will be " ++
           "returned.") boolean,
       field "controller" "If true, this reference points to the managing controller." boolean,
       field "kind"
         (moreInfo
            "Kind of the referent."
            ("git.k8s.io/community/contributors/devel/sig-architecture/" ++
              "api-conventions.md#types-kinds")) text,
       field "name"
         (moreInfo
            "Name of the referent."
            "kubernetes.io/docs/concepts/overview/working-with-objects/names#names") text,
       field "uid"
         (moreInfo
            "UID of the referent."
            "kubernetes.io/docs/concepts/overview/working-with-objects/names#uids") text]
      ["apiVersion", "kind", "name", "uid"]

/-- The fields of an object that one manager has set. -/
def managedFieldsEntry : Json :=
  described
      ("ManagedFieldsEntry is a workflow-id, a FieldSet and the group version of the " ++
        "resource that the fieldset applies to.") <|
    object
      [field "apiVersion"
         ("APIVersion defines the version of this resource that this field set applies to. " ++
           "The format is \"group/version\" just like the top-level APIVersion field. It is " ++
           "necessary to track the version of a field set because it cannot be automatically " ++
           "converted.") text,
       field "fieldsType"
         ("FieldsType is the discriminator for the different fields format and version. " ++
           "There is currently only one possible value: \"FieldsV1\"") text,
       field "fieldsV1"
         "FieldsV1 holds the first JSON version format as described in the \"FieldsV1\" type."
         anyObject,
       field "manager" "Manager is an identifier of the workflow managing these fields." text,
       field "operation"
         ("Operation is the type of operation which lead to this ManagedFieldsEntry being " ++
           "created. The only valid values for this field are 'Apply' and 'Update'.") text,
       field "subresource"
         ("Subresource is the name of the subresource used to update that object, or empty " ++
           "string if the object was updated through the main resource. The value of this " ++
           "field is used to distinguish between managers, even if they share the same name. " ++
           "For example, a status update will be distinct from a regular update using the " ++
           "same manager name. Note that the APIVersion field is not related to the " ++
           "Subresource field and it always corresponds to the version of the main resource.") text,
       field "time"
         ("Time is the timestamp of when the ManagedFields entry was added. The timestamp " ++
           "will also be updated if a field is added, the manager changes any of the owned " ++
           "fields value or removes a field. The timestamp does not update when a field is " ++
           "removed from the entry because another manager took it over.") time] []

/-- What an object says of itself. -/
def objectMeta : Json :=
  object
    [field "annotations"
       (moreInfo
          ("Annotations is an unstructured key value map stored with a resource that may be " ++
            "set by external tools to store and retrieve arbitrary metadata. They are not " ++
            "queryable and should be preserved when modifying objects.")
          "kubernetes.io/docs/concepts/overview/working-with-objects/annotations") (dict text),
     field "creationTimestamp"
       (moreInfo
          ("CreationTimestamp is a timestamp representing the server time when this object " ++
            "was created. It is not guaranteed to be set in happens-before order across " ++
            "separate operations. Clients may not set this value. It is represented in " ++
            "RFC3339 form and is in UTC.\n\nPopulated by the system. Read-only. Null for " ++
            "lists.")
          "git.k8s.io/community/contributors/devel/sig-architecture/api-conventions.md#metadata")
       time,
     field "deletionGracePeriodSeconds"
       ("Number of seconds allowed for this object to gracefully terminate before it will be " ++
         "removed from the system. Only set when deletionTimestamp is also set. May only be " ++
         "shortened. Read-only.") int64,
     field "deletionTimestamp"
       (moreInfo
          ("DeletionTimestamp is RFC 3339 date and time at which this resource will be " ++
            "deleted. This field is set by the server when a graceful deletion is requested " ++
            "by the user, and is not directly settable by a client. The resource is expected " ++
            "to be deleted (no longer visible from resource lists, and not reachable by name) " ++
            "after the time in this field, once the finalizers list is empty. As long as the " ++
            "finalizers list contains items, deletion is blocked. Once the deletionTimestamp " ++
            "is set, this value may not be unset or be set further into the future, although " ++
            "it may be shortened or the resource may be deleted prior to this time. For " ++
            "example, a user may request that a pod is deleted in 30 seconds. The Kubelet " ++
            "will react by sending a graceful termination signal to the containers in the " ++
            "pod. After that 30 seconds, the Kubelet will send a hard termination signal " ++
            "(SIGKILL) to the container and after cleanup, remove the pod from the API. In " ++
            "the presence of network partitions, this object may still exist after this " ++
            "timestamp, until an administrator or automated process can determine the " ++
            "resource is fully terminated. If not set, graceful deletion of the object has " ++
            "not been requested.\n\nPopulated by the system when a graceful deletion is " ++
            "requested. Read-only.")
          "git.k8s.io/community/contributors/devel/sig-architecture/api-conventions.md#metadata")
       time,
     field "finalizers"
       ("Must be empty before the object is deleted from the registry. Each entry is an " ++
         "identifier for the responsible component that will remove the entry from the list. " ++
         "If the deletionTimestamp of the object is non-nil, entries in this list can only be " ++
         "removed. Finalizers may be processed and removed in any order.  Order is NOT " ++
         "enforced because it introduces significant risk of stuck finalizers. finalizers is " ++
         "a shared field, any actor with permission can reorder it. If the finalizer list is " ++
         "processed in order, then this can lead to a situation in which the component " ++
         "responsible for the first finalizer in the list is waiting for a signal (field " ++
         "value, external system, or other) produced by a component responsible for a " ++
         "finalizer later in the list, resulting in a deadlock. Without enforced ordering " ++
         "finalizers are free to order amongst themselves and are not vulnerable to ordering " ++
         "changes in the list.") (list text),
     field "generateName"
       (moreInfo
          ("GenerateName is an optional prefix, used by the server, to generate a unique " ++
            "name ONLY IF the Name field has not been provided. If this field is used, the " ++
            "name returned to the client will be different than the name passed. This value " ++
            "will also be combined with a unique suffix. The provided value has the same " ++
            "validation rules as the Name field, and may be truncated by the length of the " ++
            "suffix required to make the value unique on the server.\n\nIf this field is " ++
            "specified and the generated name exists, the server will return a " ++
            "409.\n\nApplied only if Name is not specified.")
          ("git.k8s.io/community/contributors/devel/sig-architecture/" ++
            "api-conventions.md#idempotency")) text,
     field "generation"
       ("A sequence number representing a specific generation of the desired state. " ++
         "Populated by the system. Read-only.") int64,
     field "labels"
       (moreInfo
          ("Map of string keys and values that can be used to organize and categorize (scope " ++
            "and select) objects. May match selectors of replication controllers and services.")
          "kubernetes.io/docs/concepts/overview/working-with-objects/labels") (dict text),
     field "managedFields"
       ("ManagedFields maps workflow-id and version to the set of fields that are managed by " ++
         "that workflow. This is mostly for internal housekeeping, and users typically " ++
         "shouldn't need to set or understand this field. A workflow can be the user's name, " ++
         "a controller's name, or the name of a specific apply path like \"ci-cd\". The set " ++
         "of fields is always in the version that the workflow used when modifying the object.")
       (list managedFieldsEntry),
     field "name"
       (moreInfo
          ("Name must be unique within a namespace. Is required when creating resources, " ++
            "although some resources may allow a client to request the generation of an " ++
            "appropriate name automatically. Name is primarily intended for creation " ++
            "idempotence and configuration definition. Cannot be updated.")
          "kubernetes.io/docs/concepts/overview/working-with-objects/names#names") text,
     field "namespace"
       (moreInfo
          ("Namespace defines the space within which each name must be unique. An empty " ++
            "namespace is equivalent to the \"default\" namespace, but \"default\" is the " ++
            "canonical representation. Not all objects are required to be scoped to a " ++
            "namespace - the value of this field for those objects will be empty.\n\nMust be " ++
            "a DNS_LABEL. Cannot be updated.")
          "kubernetes.io/docs/concepts/overview/working-with-objects/namespaces") text,
     field "ownerReferences"
       ("List of objects depended by this object. If ALL objects in the list have been " ++
         "deleted, this object will be garbage collected. If this object is managed by a " ++
         "controller, then an entry in this list will point to this controller, with the " ++
         "controller field set to true. There cannot be more than one managing controller.")
       (list ownerReference),
     field "resourceVersion"
       (moreInfo
          ("An opaque value that represents the internal version of this object that can be " ++
            "used by clients to determine when objects have changed. May be used for " ++
            "optimistic concurrency, change detection, and the watch operation on a resource " ++
            "or set of resources. Clients must treat these values as opaque and passed " ++
            "unmodified back to the server. They may only be valid for a particular resource " ++
            "or set of resources.\n\nPopulated by the system. Read-only. Value must be " ++
            "treated as opaque by clients and .")
          ("git.k8s.io/community/contributors/devel/sig-architecture/" ++
            "api-conventions.md#concurrency-control-and-consistency")) text,
     field "selfLink"
       ("Deprecated: selfLink is a legacy read-only field that is no longer populated by the " ++
         "system.") text,
     field "uid"
       (moreInfo
          ("UID is the unique in time and space value for this object. It is typically " ++
            "generated by the server on successful creation of a resource and is not allowed " ++
            "to change on PUT operations.\n\nPopulated by the system. Read-only.")
          "kubernetes.io/docs/concepts/overview/working-with-objects/names#uids") text] []

/-- A condition on one label. -/
def labelSelectorRequirement : Json :=
  described
      ("A label selector requirement is a selector that contains values, a key, and an " ++
        "operator that relates the key and values.") <|
    object
      [field "key" "key is the label key that the selector applies to." text,
       field "operator"
         ("operator represents a key's relationship to a set of values. Valid operators are " ++
           "In, NotIn, Exists and DoesNotExist.") text,
       field "values"
         ("values is an array of string values. If the operator is In or NotIn, the values " ++
           "array must be non-empty. If the operator is Exists or DoesNotExist, the values " ++
           "array must be empty. This array is replaced during a strategic merge patch.")
         (list text)] ["key", "operator"]

/-- A condition on labels. -/
def labelSelector : Json :=
  object
    [field "matchExpressions"
       "matchExpressions is a list of label selector requirements. The requirements are ANDed."
       (list labelSelectorRequirement),
     field "matchLabels"
       ("matchLabels is a map of \x7bkey,value\x7d pairs. A single \x7bkey,value\x7d in the " ++
         "matchLabels map is equivalent to an element of matchExpressions, whose key field is " ++
         "\"key\", the operator is \"In\", and the values array contains only \"value\". The " ++
         "requirements are ANDed.") (dict text)] []

end AgentOperator.Schema
