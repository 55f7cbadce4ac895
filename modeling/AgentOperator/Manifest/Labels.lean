import AgentOperator.Agent.Resource
import AgentOperator.Manifest.Naming
import AgentOperator.Manifest.ImageReference

/-!
# Labels

The labels of the objects of an agent. The selector labels depend on nothing but the name and the
namespace of the resource, since the selector of a workload cannot change; the other labels of the
operator name the agent and its version, and labels of the resource are kept where the operator has
none of its own.
-/

namespace AgentOperator.Labels

/-- The label that says who manages an object. -/
def managedByKey : String := "app.kubernetes.io/managed-by"

/-- The label that tells apart the agents of a cluster. -/
def instanceKey : String := "app.kubernetes.io/instance"

/-- The label that says what an object is a part of. -/
def partOfKey : String := "app.kubernetes.io/part-of"

/-- The label that says which part an object is. -/
def componentKey : String := "app.kubernetes.io/component"

/-- The label with the name of the agent. -/
def nameKey : String := "app.kubernetes.io/name"

/-- The label with the version of the agent. -/
def versionKey : String := "app.kubernetes.io/version"

/-- The operator, as a label. -/
def manager : String := "amazon-cloudwatch-agent-operator"

/-- The agent, as a label. -/
def product : String := "amazon-cloudwatch-agent"

/-- The labels by which the workload and the service of an agent find its pods. -/
def selector (agent : Agent) : Dict String :=
  Dict.ofList
    [(managedByKey, manager),
      (instanceKey,
        Naming.truncate (agent.namespaceName ++ "." ++ agent.name) Naming.maxLabelLength),
      (partOfKey, product),
      (componentKey, product)]

/-- All labels of an object of an agent that runs an image. -/
def all (agent : Agent) (image : String) : Dict String :=
  let own := ((agent.metadata.labels.getD ∅).overlay (selector agent)).insert nameKey
    (Naming.truncate agent.name Naming.maxLabelLength)
  own.insert versionKey (Naming.truncate (ImageReference.tag image) Naming.maxLabelLength)

end AgentOperator.Labels
