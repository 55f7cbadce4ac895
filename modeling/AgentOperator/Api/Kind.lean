/-!
# Kinds of objects

The kinds of objects that the operator reads and writes, and how an API server names them: an object
is found by its kind, its namespace and its name.
-/

namespace AgentOperator.Api

/-- The kinds of objects that the operator reads and writes. -/
inductive Kind where
  | configMap
  | serviceAccount
  | service
  | deployment
  | daemonSet
  | agent
deriving DecidableEq, Repr

namespace Kind

/-- The name of a kind. -/
def name : Kind → String
  | configMap => "ConfigMap"
  | serviceAccount => "ServiceAccount"
  | service => "Service"
  | deployment => "Deployment"
  | daemonSet => "DaemonSet"
  | agent => "AmazonCloudWatchAgent"

/-- The name of the objects of a kind in paths. -/
def plural : Kind → String
  | configMap => "configmaps"
  | serviceAccount => "serviceaccounts"
  | service => "services"
  | deployment => "deployments"
  | daemonSet => "daemonsets"
  | agent => "amazoncloudwatchagents"

/-- The path below which the objects of a kind lie. -/
def root : Kind → String
  | configMap | serviceAccount | service => "/api/v1"
  | deployment | daemonSet => "/apis/apps/v1"
  | agent => "/apis/cloudwatch.aws.amazon.com/v1alpha1"

end Kind

/-- The path of the objects of one sort in a namespace. -/
def collectionPath (root inNamespace plural : String) : String :=
  root ++ "/namespaces/" ++ inNamespace ++ "/" ++ plural

/-- What an object is found by. -/
structure ObjectRef where
  kind : Kind
  inNamespace : String
  name : String
deriving DecidableEq, Repr

/-- The path of an object. Namespace and name stand in it as they are. -/
def ObjectRef.path (ref : ObjectRef) : String :=
  collectionPath ref.kind.root ref.inNamespace ref.kind.plural ++ "/" ++ ref.name

end AgentOperator.Api
