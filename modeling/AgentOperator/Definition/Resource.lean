import AgentOperator.Agent.Resource
import AgentOperator.Api.Kind
import AgentOperator.Definition.Embedded.Container
import AgentOperator.Definition.Embedded.Environment
import AgentOperator.Definition.Embedded.Placement
import AgentOperator.Definition.Embedded.Volume

/-!
# The definition of agent resources

The document that teaches an API server the agent resource: its names, its scope, the schema of its
one version, and the columns that a listing shows.
-/

namespace AgentOperator.Definition

open Schema

/-- What the desired state of an agent is, at length. -/
def specDescription : String :=
  "\n".intercalate
    ["AmazonCloudWatchAgent Custom Resource Definition",
      "",
      "Declares a CloudWatch agent deployment. The operator turns it into a",
      "ConfigMap, ServiceAccount, Service and either a Deployment or a DaemonSet.",
      "",
      "# Example",
      "",
      "```yaml",
      "apiVersion: cloudwatch.aws.amazon.com/v1alpha1",
      "kind: AmazonCloudWatchAgent",
      "metadata:",
      "  name: cloudwatch-agent",
      "  namespace: amazon-cloudwatch",
      "spec:",
      "  mode: daemonset",
      "  config: |",
      "    \x7b\"logs\": \x7b\"metrics_collected\": \x7b\"emf\": \x7b\x7d\x7d\x7d\x7d",
      "  args:",
      "    mode: ec2",
      "  configMaps:",
      "    - name: prometheus-scrape",
      "      mountPath: prometheus",
      "```"]

/-- The schema of the auxiliary config maps. -/
def auxiliaryConfig : Json :=
  described "An auxiliary ConfigMap mounted into the agent container" <|
    object
      [("mountPath", described "Sub-path below `/var/conf`" (defaulting (.str "") text)),
        ("name", described "Name of the ConfigMap in the resource's namespace" text)]
      ["name"]

/-- The schema of the desired state of an agent. -/
def spec : Json :=
  described specDescription <|
    object
      [("mode", described "Workload kind used to run the agent" <|
          defaulting (.str AgentMode.deployment.name) <|
            words [AgentMode.deployment.name, AgentMode.daemonSet.name]),
        ("replicas", described "Replica count, only meaningful in `deployment` mode" <|
          nullable int32),
        ("image", described "Agent image; the operator default is used when empty" <|
          nullable text),
        ("imagePullPolicy", nullable text),
        ("config", described "Agent configuration (JSON) stored in the generated ConfigMap" <|
          defaulting (.str "") text),
        ("args", described "Extra command-line flags rendered as `--key=value`" textDict),
        ("env", listOf envVar),
        ("envFrom", listOf envFromSource),
        ("volumeMounts", listOf volumeMount),
        ("volumes", listOf volume),
        ("configMaps", described
          "Additional ConfigMaps mounted under `/var/conf/<mountPath>/configmap-<name>`" <|
          listOf auxiliaryConfig),
        ("ports", described "Ports added to (or overriding) the agent's default receiver ports" <|
          listOf servicePort),
        ("resources", nullable resourceRequirements),
        ("securityContext", nullable securityContext),
        ("lifecycle", nullable lifecycle),
        ("serviceAccount", described
          "Existing ServiceAccount to run as; the operator creates one when unset" <|
          nullable text),
        ("nodeSelector", textDict),
        ("tolerations", listOf toleration),
        ("podAnnotations", textDict),
        ("hostNetwork", defaulting (.bool false) boolean),
        ("priorityClassName", nullable text)]
      []

/-- The schema of a condition. -/
def condition : Json :=
  object
    [("lastTransitionTime", nullable text), ("message", nullable text), ("reason", nullable text),
      ("status", text), ("type", text)]
    ["status", "type"]

/-- What the reported state of an agent is, at length. -/
def statusDescription : String :=
  "\n".intercalate
    ["Status of the AmazonCloudWatchAgent resource",
      "",
      "Contains no timestamps that change on every pass, so an unchanged",
      "reconciliation produces an identical status and no patch is sent."]

/-- The schema of the reported state of an agent. -/
def status : Json :=
  described statusDescription <|
    object
      [("conditions", described "Conditions represent the latest available observations" <|
          listOf condition),
        ("observedGeneration", described "Observed generation" (nullable int64)),
        ("replicas", described "Ready agent pods reported by the owning workload" <|
          nullable int32),
        ("version", described "Agent version, taken from the image tag" (nullable text))]
      []

/-- The schema of agent resources. -/
def schema : Json :=
  (described
      "Auto-generated derived type for AmazonCloudWatchAgentSpec via `CustomResource`" <|
    object [("spec", spec), ("status", nullable status)] ["spec"]).set "title" (.str Agent.kind)

/-- A column of a listing, which shows the text at a place of the resource. -/
def column (title place : String) : Json :=
  .ofEntries [("name", .str title), ("type", .str "string"), ("jsonPath", .str place)]

/-- The columns of a listing of agents. -/
def columns : List Json :=
  [column "Mode" ".spec.mode", column "Version" ".status.version",
    column "Ready" ".status.conditions[?(@.type==\"Ready\")].status"]

/-- The one version of agent resources. -/
def version : Json :=
  .ofEntries
    [("name", .str Agent.version), ("served", .bool true), ("storage", .bool true),
      ("schema", .ofEntries [("openAPIV3Schema", schema)]),
      ("subresources", .ofEntries [("status", .emptyObject)]),
      ("additionalPrinterColumns", .arr columns)]

/-- The names of agent resources. -/
def names : Json :=
  .ofEntries
    [("categories", .arr []), ("kind", .str Agent.kind), ("plural", .str Api.Kind.agent.plural),
      ("shortNames", .arr [.str "cwagent"]), ("singular", .str "amazoncloudwatchagent")]

/-- The definition of agent resources. -/
def document : Json :=
  .ofEntries
    [("apiVersion", .str "apiextensions.k8s.io/v1"), ("kind", .str "CustomResourceDefinition"),
      ("metadata", .ofEntries [("name", .str (Api.Kind.agent.plural ++ "." ++ Agent.group))]),
      ("spec", .ofEntries
        [("group", .str Agent.group), ("names", names), ("scope", .str "Namespaced"),
          ("versions", .arr [version])])]

end AgentOperator.Definition
