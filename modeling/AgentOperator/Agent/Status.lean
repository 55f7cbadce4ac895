import AgentOperator.Codec.Fields

/-!
# The reported state of an agent

What the operator writes back to an agent resource. Nothing in it changes from pass to pass while
the agent stays as it is: the only time is that of the last change of a condition.
-/

namespace AgentOperator

/-- One observation about an agent: whether something holds, since when, and why, in one word and in
a sentence. -/
structure Condition where
  type : String
  status : String
  lastTransitionTime : Option String := none
  reason : Option String := none
  message : Option String := none
deriving DecidableEq

/-- Conditions as documents. -/
def Condition.codec : Codec Condition :=
  .record "Condition" <|
    Fields.build Condition Condition.mk
    |>.field "type" type (.mandatory .text)
    |>.field "status" status (.mandatory .text)
    |>.field "lastTransitionTime" lastTransitionTime (.nullable .text)
    |>.field "reason" reason (.nullable .text)
    |>.field "message" message (.nullable .text)

/-- The reported state of an agent: the version from its image, the number of pods that are ready,
the revision of the desired state that is reported on, and observations. -/
structure AgentStatus where
  version : Option String := none
  replicas : Option Int32 := none
  observedGeneration : Option Int64 := none
  conditions : List Condition := []
deriving DecidableEq

/-- Reported states of agents as documents. -/
def AgentStatus.codec : Codec AgentStatus :=
  .record "AmazonCloudWatchAgentStatus" <|
    Fields.build AgentStatus AgentStatus.mk
    |>.field "version" version (.optional .text)
    |>.field "replicas" replicas (.optional .int32)
    |>.field "observedGeneration" observedGeneration (.optional .int64)
    |>.field "conditions" conditions (.defaulted (.list Condition.codec) [])

end AgentOperator
