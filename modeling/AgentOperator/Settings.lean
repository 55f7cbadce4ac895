import AgentOperator.Text.Numeral

/-!
# Settings

The settings of the operator, read once at its start from the variables of its process. A text
setting is the value of its variable where that is set and is text; a number is the value of its
variable where that is a numeral of the right size; everything else is as it would be without the
variable. Nothing that a variable may hold makes the reading fail.
-/

namespace AgentOperator

/-- The variables of a process. Their values are bytes and need not be text. -/
abbrev ProcessVariables := String → Option ByteArray

namespace ProcessVariables

/-- The value of a variable that is set and holds text. -/
def text? (process : ProcessVariables) (name : String) : Option String :=
  (process name).bind String.fromUTF8?

/-- The value of a text setting. -/
def textOr (process : ProcessVariables) (name default : String) : String :=
  (process.text? name).getD default

/-- The value of a numeric setting below `bound`. -/
def numberBelow? (process : ProcessVariables) (bound : Nat) (name : String) : Option Nat :=
  (process.text? name).bind (Numeral.readBelow? bound)

/-- The value of an unsigned 64-bit setting. -/
def uint64Or (process : ProcessVariables) (name : String) (default : UInt64) : UInt64 :=
  ((process.numberBelow? UInt64.size name).map UInt64.ofNat).getD default

/-- The value of an unsigned 16-bit setting. -/
def uint16Or (process : ProcessVariables) (name : String) (default : UInt16) : UInt16 :=
  ((process.numberBelow? UInt16.size name).map UInt16.ofNat).getD default

end ProcessVariables

/-- The image of agents if neither they nor the operator name one. -/
def defaultAgentImage : String := "public.ecr.aws/cloudwatch-agent/cloudwatch-agent:latest"

/-- The key of the primary configuration if the operator names none. -/
def defaultConfigMapEntry : String := "cwagentconfig.json"

/-- How long a failed resource waits if the operator does not say, in seconds. -/
def defaultErrorRequeueSeconds : UInt64 := 30

/-- The port of the server if the operator names none. -/
def defaultMetricsPort : UInt16 := 8080

/-- The settings of the operator: the image of agents that name none, the key of the primary
configuration in its config map, how long a failed resource waits for its next pass, how many
resources are worked on at a time, level and format of the log, and the proxy settings of all agents
by the names of their variables. -/
structure Settings where
  agentImage : String := defaultAgentImage
  configMapEntry : String := defaultConfigMapEntry
  errorRequeueSeconds : UInt64 := defaultErrorRequeueSeconds
  maxConcurrent : UInt16 := 10
  logLevel : String := "INFO"
  logFormat : String := "json"
  proxySettings : List (String × String) := []
deriving DecidableEq

/-- The settings of the server with the metrics and probes. -/
structure ServerSettings where
  metricsPort : UInt16 := defaultMetricsPort
deriving DecidableEq

/-- The names of the proxy variables, in the order in which agents get them. -/
def proxyNames : List String := ["HTTP_PROXY", "HTTPS_PROXY", "NO_PROXY"]

/-- The proxy variables that are set to text. -/
def ProcessVariables.proxySettings (process : ProcessVariables) : List (String × String) :=
  proxyNames.filterMap fun name => (process.text? name).map fun value => (name, value)

/-- The settings of the operator in a process with some variables. -/
def Settings.fromVariables (process : ProcessVariables) : Settings :=
  { agentImage := process.textOr "AGENT_IMAGE" defaultAgentImage
    configMapEntry := process.textOr "CONFIG_MAP_ENTRY" defaultConfigMapEntry
    errorRequeueSeconds :=
      process.uint64Or "RECONCILIATION_ERROR_REQUEUE_SECS" defaultErrorRequeueSeconds
    maxConcurrent := process.uint16Or "MAX_CONCURRENT_RECONCILIATIONS" 10
    logLevel := process.textOr "LOG_LEVEL" "INFO"
    logFormat := process.textOr "LOG_FORMAT" "json"
    proxySettings := process.proxySettings }

/-- The settings of the server in a process with some variables. -/
def ServerSettings.fromVariables (process : ProcessVariables) : ServerSettings :=
  { metricsPort := process.uint16Or "METRICS_PORT" defaultMetricsPort }

end AgentOperator
