import AgentOperator.Kubernetes.Env
import AgentOperator.Text.Case

/-!
# Container environment

The variables of the agent's container: those that the resource declares, the name of the pod, and
the proxy settings of the operator, each in capitals and in small letters since tools disagree on
which of the two they read. Of several variables of one name the last one counts.
-/

namespace AgentOperator.Environment

open Kubernetes

/-- The variable with the name of the pod. -/
def podNameVariable : String := "POD_NAME"

/-- The field of a pod that holds its name. -/
def podNameField : String := "metadata.name"

/-- The name of the pod as a variable. -/
def podName : EnvVar :=
  { name := podNameVariable,
    valueFrom := some { fieldRef := some { fieldPath := podNameField } } }

/-- A proxy setting as variables. -/
def proxyVariables (setting : String × String) : List EnvVar :=
  [{ name := Text.uppercase setting.1, value := some setting.2 },
    { name := Text.lowercase setting.1, value := some setting.2 }]

/-- The variables of the agent's container. -/
def compose (declared : List EnvVar) (proxySettings : List (String × String)) : List EnvVar :=
  declared ++ [podName] ++ proxySettings.flatMap proxyVariables

end AgentOperator.Environment
