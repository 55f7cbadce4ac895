import AgentOperator.Codec.Choice
import AgentOperator.Codec.Fields

/-!
# Reports

What an API server says of the outcome of a request that it does not answer with an object.
-/

namespace AgentOperator.Api

/-- How a request ended. -/
inductive Outcome where
  | success
  | failure
deriving DecidableEq, Repr

namespace Outcome

/-- The name of an outcome. -/
def name : Outcome → String
  | success => "Success"
  | failure => "Failure"

/-- Outcomes as documents. -/
def codec : Codec Outcome := Choice.codec ⟨[success, failure], name⟩

end Outcome

/-- One of several causes of a failure, with the field of the object that it lies in. -/
structure Cause where
  reason : String := ""
  message : String := ""
  field : String := ""
deriving DecidableEq

/-- Causes as documents. -/
def Cause.codec : Codec Cause :=
  .record "StatusCause" <|
    Fields.build Cause Cause.mk
    |>.field "reason" reason (.defaulted .text "")
    |>.field "message" message (.defaulted .text "")
    |>.field "field" field (.defaulted .text "")

/-- What an outcome is about: an object, the causes of a failure, and the seconds after which the
request may be made again. -/
structure Details where
  name : String := ""
  group : String := ""
  kind : String := ""
  uid : String := ""
  causes : List Cause := []
  retryAfterSeconds : UInt32 := 0
deriving DecidableEq

/-- Details of outcomes as documents. -/
def Details.codec : Codec Details :=
  .record "StatusDetails" <|
    Fields.build Details Details.mk
    |>.field "name" name (.defaulted .text "")
    |>.field "group" group (.defaulted .text "")
    |>.field "kind" kind (.defaulted .text "")
    |>.field "uid" uid (.defaulted .text "")
    |>.field "causes" causes (.defaulted (.list Cause.codec) [])
    |>.field "retryAfterSeconds" retryAfterSeconds (.defaulted .uint32 0)

/-- A report on the outcome of a request. -/
structure Report where
  outcome : Option Outcome := none
  code : UInt16 := 0
  message : String := ""
  reason : String := ""
  details : Option Details := none
deriving DecidableEq

namespace Report

/-- The kind that reports have as documents. -/
def kind : String := "Status"

/-- Reports as documents. -/
def codec : Codec Report :=
  .record kind <|
    Fields.build Report Report.mk
    |>.field "status" outcome (.optional Outcome.codec)
    |>.field "code" code (.defaulted .uint16 0)
    |>.field "message" message (.defaulted .text "")
    |>.field "reason" reason (.defaulted .text "")
    |>.field "details" details (.optional Details.codec)

end Report

end AgentOperator.Api
