import AgentOperator.Kubernetes.Meta

/-!
# Events

Reports about objects that are kept beside the objects in a cluster.
-/

namespace AgentOperator.Kubernetes

/-- Instants as documents, in microseconds. -/
def microTime : Codec Instant where
  encode time := .str time.microText
  decode
    | .str value => (Instant.read value).mapError .noInstant
    | j => Codec.refuse "an RFC 3339 formatted date and time string" j

/-- What an event is about. -/
structure ObjectReference where
  apiVersion : Option String := none
  kind : Option String := none
  name : Option String := none
  inNamespace : Option String := none
  uid : Option String := none
deriving DecidableEq

/-- References to objects as documents. -/
def ObjectReference.codec : Codec ObjectReference :=
  .kubernetes "ObjectReference" <|
    Fields.build ObjectReference ObjectReference.mk
    |>.field "apiVersion" apiVersion (.optional .text)
    |>.field "kind" kind (.optional .text)
    |>.field "name" name (.optional .text)
    |>.field "namespace" inNamespace (.optional .text)
    |>.field "uid" uid (.optional .text)

/-- A report about an object. -/
structure Event where
  metadata : ObjectMeta := {}
  action : Option String := none
  eventTime : Option Instant := none
  note : Option String := none
  reason : Option String := none
  regarding : Option ObjectReference := none
  reportingController : Option String := none
  reportingInstance : Option String := none
  type : Option String := none
deriving DecidableEq

/-- Events as documents. -/
def Event.codec : Codec Event :=
  .kind "events.k8s.io/v1" "Event" <|
    Fields.build Event Event.mk
    |>.field "metadata" metadata (.required ObjectMeta.codec {})
    |>.field "action" action (.optional .text)
    |>.field "eventTime" eventTime (.optional microTime)
    |>.field "note" note (.optional .text)
    |>.field "reason" reason (.optional .text)
    |>.field "regarding" regarding (.optional ObjectReference.codec)
    |>.field "reportingController" reportingController (.optional .text)
    |>.field "reportingInstance" reportingInstance (.optional .text)
    |>.field "type" type (.optional .text)

end AgentOperator.Kubernetes
