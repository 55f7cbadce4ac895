import AgentOperator.Agent.Resource
import AgentOperator.Manifest.Container
import AgentOperator.Manifest.ImageReference
import AgentOperator.Time.Instant

/-!
# The status of an agent

What is reported on an agent resource, given what was seen of its workload: the version of the
agent, the number of ready pods, and one condition that says whether enough of them are ready.

The report carries no time of its own. The condition keeps the time of its last change for as long
as it says the same, so that a look at an agent that stays as it is gives the report that is already
there, and nothing needs to be written.
-/

namespace AgentOperator

/-- The numbers of pods of a workload that are ready and that there should be. -/
structure Readiness where
  ready : Int32
  desired : Int32
deriving DecidableEq

namespace Readiness

/-- Whether enough pods are ready. -/
def isEnough (readiness : Readiness) : Bool := readiness.desired ≤ readiness.ready

/-- The counts in a sentence. -/
def text (readiness : Readiness) : String :=
  toString readiness.ready.toInt ++ "/" ++ toString readiness.desired.toInt ++ " agent pods ready"

end Readiness

/-- The type of the condition that says whether an agent is ready. -/
def readyCondition : String := "Ready"

/-- Whether an agent is ready; one without workload is not. -/
def isReady (readiness : Option Readiness) : Bool := readiness.any Readiness.isEnough

/-- The word of a condition for a truth value. -/
def conditionWord (holds : Bool) : String := if holds then "True" else "False"

/-- Why an agent is ready or not, in one word. -/
def readyReason : Option Readiness → String
  | none => "WorkloadMissing"
  | some readiness => if readiness.isEnough then "AgentReady" else "AgentNotReady"

/-- Why an agent is ready or not, in a sentence. -/
def readyMessage : Option Readiness → String
  | none => "agent workload has not been created yet"
  | some readiness => readiness.text

/-- The condition of readiness that a status carries; of several the first counts. -/
def AgentStatus.readiness? (status : AgentStatus) : Option Condition :=
  status.conditions.find? (·.type = readyCondition)

/-- The time of the last change of a condition that now has the word `word`: that of the condition
before it if the word is the same, else now. -/
def transitionTime (previous : Option Condition) (word : String) (now : Instant) : Option String :=
  match previous with
  | some condition =>
    if condition.status = word then condition.lastTransitionTime else some now.text
  | none => some now.text

/-- The status of an agent whose workload was seen as `readiness`, or not at all. -/
def desiredStatus (settings : Settings) (agent : Agent) (readiness : Option Readiness)
    (now : Instant) : AgentStatus :=
  let previous := agent.status.bind AgentStatus.readiness?
  let word := conditionWord (isReady readiness)
  { version := some (ImageReference.tag (agentImage settings agent.spec))
    replicas := some ((readiness.map Readiness.ready).getD 0)
    observedGeneration := agent.metadata.generation
    conditions :=
      [{ type := readyCondition
         status := word
         lastTransitionTime := transitionTime previous word now
         reason := some (readyReason readiness)
         message := some (readyMessage readiness) }] }

end AgentOperator
