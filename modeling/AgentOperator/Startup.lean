import AgentOperator.Log.Filter
import AgentOperator.Log.Line
import AgentOperator.Reconcile.Reconciler

/-!
# The start of the operator

What the operator does before it watches anything: it settles what is logged and how, finds its
cluster, and makes a reconciler of its settings. Of all this only the way to the cluster can fail:
there may be no cluster, or a proxy before it, which the operator cannot go through.
-/

namespace AgentOperator.Startup

/-- The version of the operator. -/
def version : String := "0.1.0"

/-- What the origins of all the operator's own log records begin with. -/
def logOrigin : String := "cloudwatch_agent_operator"

/-- The origin of the log records of a start, which log filters may name in full or by any beginning
of it. -/
def startOrigin : String := logOrigin ++ "::runtime::initialization"

/-- The threshold that a setting names; one that is unknown lets notices through. -/
def settingThreshold (setting : String) : Log.Threshold :=
  some ((Log.Level.all.find? fun level =>
    level.lowerName = Text.asciiLowercase setting).getD .info)

/-- What decides which records are written: the variable that gives a whole filter, if it is set
and gives one, and otherwise the level that the settings name for the operator's own records. -/
def logFilter (process : ProcessVariables) (settings : Settings) : Log.Filter :=
  match (process.text? "RUST_LOG").bind Log.Filter.ofText? with
  | some filter => filter
  | none => .upTo logOrigin (settingThreshold settings.logLevel)

/-- How the operator reaches its cluster, and the namespace that is meant where none is named. -/
structure Connection where
  defaultNamespace : String

/-- An operator that is ready to watch its cluster, and whether it tells probes so. -/
structure Operator where
  connection : Connection
  reconciler : Reconciler
  isReady : Bool := false

/-- Why the operator did not start: there is no cluster to be reached, or only through a proxy. -/
inductive Failure where
  | noCluster
  | proxied
deriving DecidableEq, Repr

/-- The wording of a failed start. -/
def Failure.message : Failure → String
  | noCluster | proxied => "Failed to create Kubernetes client"

/-- The result of a start: the operator or why it did not start, what is logged in which form, and
the records that were written. -/
structure Result where
  filter : Log.Filter
  format : Log.Format
  logs : List Log.Record
  outcome : Except Failure Operator

/-- The notice that the operator starts. -/
def startNotice : Log.Record :=
  { level := .info, message := "Starting CloudWatch agent operator"
    fields := [("version", .text version)] }

/-- The notice of the settings that agents get to see. -/
def settingsNotice (settings : Settings) : Log.Record :=
  { level := .info, message := "Loaded controller configuration"
    fields :=
      [("agent_image", .bare settings.agentImage),
        ("proxy_vars", .int settings.proxySettings.length)] }

/-- The notice that the operator is about to watch its cluster. -/
def readyNotice : Log.Record :=
  { level := .info, message := "Operator initialized, starting watch loop..." }

/-- The names of the variables that may name a proxy before the cluster. -/
def clusterProxyNames : List String := ["HTTPS_PROXY", "https_proxy"]

/-- Whether a variable of the process names a proxy before the cluster; an empty name is none. -/
def isProxied (process : ProcessVariables) : Bool :=
  clusterProxyNames.any fun name => (process.text? name).any fun proxy => !proxy.isEmpty

/-- Starts the operator in a process with some variables, from which its cluster was found or
not. -/
def start (process : ProcessVariables) (connection : Option Connection) : Result :=
  let settings := Settings.fromVariables process
  let filter := logFilter process settings
  let result (logs : List Log.Record) (outcome : Except Failure Operator) : Result :=
    { filter := filter
      format := .ofSetting settings.logFormat
      logs := logs.filter (filter.passes startOrigin)
      outcome := outcome }
  match connection with
  | none => result [startNotice] (.error .noCluster)
  | some connection =>
    if isProxied process then result [startNotice] (.error .proxied)
    else
      result [startNotice, settingsNotice settings, readyNotice]
        (.ok { connection := connection, reconciler := .new settings })

end AgentOperator.Startup
