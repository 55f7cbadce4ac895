import AgentOperator.Definition.Schema

/-!
# Schemas of ports and tolerations

The schemas of what says where a pod may run and how it is reached.
-/

namespace AgentOperator.Schema

/-- Ports of services. -/
def servicePort : Json :=
  described "ServicePort contains information on service's port." <|
    object
      [field "appProtocol"
         ("The application protocol for this port. This is used as a hint for " ++
           "implementations to offer richer behavior for protocols that they understand. This " ++
           "field follows standard Kubernetes label syntax. Valid values are either:\n\n* " ++
           "Un-prefixed protocol names - reserved for IANA standard service names (as per " ++
           "RFC-6335 and " ++ page "www.iana.org/assignments/service-names" ++
           ").\n\n* Kubernetes-defined prefixed names:\n  * 'kubernetes.io/h2c' - HTTP/2 " ++
           "prior knowledge over cleartext as described in " ++
           page "www.rfc-editor.org/rfc/rfc9113.html#name-starting-http-2-with-prior-" ++
           "\n  * 'kubernetes.io/ws'  - WebSocket over cleartext as described in " ++
           page "www.rfc-editor.org/rfc/rfc6455" ++
           "\n  * 'kubernetes.io/wss' - WebSocket over TLS as described in " ++
           page "www.rfc-editor.org/rfc/rfc6455" ++
           "\n\n* Other protocols should use implementation-defined prefixed names such as " ++
           "mycompany.com/my-custom-protocol.") text,
       field "name"
         ("The name of this port within the service. This must be a DNS_LABEL. All ports " ++
           "within a ServiceSpec must have unique names. When considering the endpoints for a " ++
           "Service, this must match the 'name' field in the EndpointPort. Optional if only " ++
           "one ServicePort is defined on this service.") text,
       field "nodePort"
         (moreInfo
            ("The port on each node on which this service is exposed when type is NodePort " ++
              "or LoadBalancer.  Usually assigned by the system. If a value is specified, " ++
              "in-range, and not in use it will be used, otherwise the operation will fail.  " ++
              "If not specified, a port will be allocated if this Service requires one.  If " ++
              "this field is specified when creating a Service which does not need it, " ++
              "creation will fail. This field will be wiped when updating a Service to no " ++
              "longer need it (e.g. changing type from NodePort to ClusterIP).")
            "kubernetes.io/docs/concepts/services-networking/service/#type-nodeport") int32,
       field "port" "The port that will be exposed by this service." int32,
       field "protocol"
         "The IP protocol for this port. Supports \"TCP\", \"UDP\", and \"SCTP\". Default is TCP."
         text,
       field "targetPort"
         (moreInfo
            ("Number or name of the port to access on the pods targeted by the service. " ++
              "Number must be in the range 1 to 65535. Name must be an IANA_SVC_NAME. If this " ++
              "is a string, it will be looked up as a named port in the target Pod's " ++
              "container ports. If this is not specified, the value of the 'port' field is " ++
              "used (an identity map). This field is ignored for services with " ++
              "clusterIP=None, and should be omitted or set equal to the 'port' field.")
            "kubernetes.io/docs/concepts/services-networking/service/#defining-a-service")
         intOrString] ["port"]

/-- The taints that a pod puts up with. -/
def toleration : Json :=
  described
      ("The pod this Toleration is attached to tolerates any taint that matches the triple " ++
        "<key,value,effect> using the matching operator <operator>.") <|
    object
      [field "effect"
         ("Effect indicates the taint effect to match. Empty means match all taint effects. " ++
           "When specified, allowed values are NoSchedule, PreferNoSchedule and NoExecute.") text,
       field "key"
         ("Key is the taint key that the toleration applies to. Empty means match all taint " ++
           "keys. If the key is empty, operator must be Exists; this combination means to " ++
           "match all values and all keys.") text,
       field "operator"
         ("Operator represents a key's relationship to the value. Valid operators are Exists " ++
           "and Equal. Defaults to Equal. Exists is equivalent to wildcard for value, so that " ++
           "a pod can tolerate all taints of a particular category.") text,
       field "tolerationSeconds"
         ("TolerationSeconds represents the period of time the toleration (which must be of " ++
           "effect NoExecute, otherwise this field is ignored) tolerates the taint. By " ++
           "default, it is not set, which means tolerate the taint forever (do not evict). " ++
           "Zero and negative values will be treated as 0 (evict immediately) by the system.")
         int64,
       field "value"
         ("Value is the taint value the toleration matches to. If the operator is Exists, " ++
           "the value should be empty, otherwise just a regular string.") text] []

end AgentOperator.Schema
