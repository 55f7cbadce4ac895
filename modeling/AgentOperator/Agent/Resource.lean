import AgentOperator.Agent.Spec
import AgentOperator.Agent.Status

/-!
# Agent resources

The resource that declares an agent: its metadata, its desired state, and the state that was last
reported on it.
-/

namespace AgentOperator

open Kubernetes

/-- A resource that declares an agent, over the types of its metadata and of the desired state: both
of them and the state that was reported, if there is a report. -/
structure AgentOf (Metadata Spec : Type) where
  metadata : Metadata
  spec : Spec
  status : Option AgentStatus := none
deriving DecidableEq

/-- A resource that declares an agent. -/
abbrev Agent : Type := AgentOf ObjectMeta AgentSpec

namespace Agent

/-- The group of the resource. -/
def group : String := "cloudwatch.aws.amazon.com"

/-- The version of the resource. -/
def version : String := "v1alpha1"

/-- The group and version of the resource. -/
def apiVersion : String := group ++ "/" ++ version

/-- The kind of the resource. -/
def kind : String := "AmazonCloudWatchAgent"

end Agent

namespace AgentOf

variable {Metadata Spec : Type}

/-- The fields of agent resources, whose metadata and desired state are as these codecs have
them. -/
def fields (metadataCodec : Codec Metadata) (specCodec : Codec Spec) :
    Fields (AgentOf Metadata Spec) (AgentOf Metadata Spec) :=
  Fields.build _ AgentOf.mk
  |>.field "metadata" metadata (.mandatory metadataCodec)
  |>.field "spec" spec (.mandatory specCodec)
  |>.field "status" status (.optionalInObject AgentStatus.codec)

/-- Agent resources as documents. The version and kind that a document names are not looked at and
always written. -/
def codec (metadataCodec : Codec Metadata) (specCodec : Codec Spec) :
    Codec (AgentOf Metadata Spec) where
  encode agent :=
    .ofEntries ([("apiVersion", .str Agent.apiVersion), ("kind", .str Agent.kind)] ++
      (fields metadataCodec specCodec).encode agent)
  decode := (Codec.record "AmazonCloudWatchAgent" (fields metadataCodec specCodec)).decode
  inspect := (Codec.record "AmazonCloudWatchAgent" (fields metadataCodec specCodec)).inspect

end AgentOf

namespace Agent

/-- Agent resources as documents. -/
def codec : Codec Agent := AgentOf.codec ObjectMeta.codec AgentSpec.codec

/-- The name that the resource goes by. -/
def name (agent : Agent) : String := agent.metadata.displayName

/-- The namespace of the resource, empty if it has none. -/
def namespaceName (agent : Agent) : String := agent.metadata.inNamespace.getD ""

end Agent

end AgentOperator
