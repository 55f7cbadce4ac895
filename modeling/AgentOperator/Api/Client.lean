import AgentOperator.Activity
import AgentOperator.Agent.Resource
import AgentOperator.Api.Report
import AgentOperator.Kubernetes.ConfigMap
import AgentOperator.Kubernetes.Event
import AgentOperator.Kubernetes.ServiceAccount
import AgentOperator.Kubernetes.Workload

/-!
# The client of an API server

Reading, applying, patching and deleting objects as activities. Each sends one request at most and
ends in what the server answered or in a `ClientError` that says why there is no such answer.
-/

namespace AgentOperator.Api

/-- Why a request did not lead to what was asked for: the server refused it, could not be reached or
broke off its response, the response is not of the form that belongs to the request, or the request
could not be sent. -/
inductive ClientError where
  | refused (failure : Failure)
  | unreachable (message : String)
  | brokenStream
  | unexpected (fault : TextFault)
  | unsendable (fault : RequestFault)
deriving DecidableEq, Repr

namespace ClientError

/-- The wording of a failed request. -/
def message : ClientError → String
  | refused failure => "ApiError: " ++ failure.text
  | unreachable message => "ServiceError: " ++ message
  | brokenStream => "Error finding newline character"
  | unexpected fault => "Error deserializing response: " ++ fault.message
  | unsendable fault => "Failed to build request: " ++ fault.message

/-- Whether the server said by the code of its refusal that there is no such object. -/
def isGone : ClientError → Bool
  | refused failure => failure.code == 404
  | _ => false

/-- Whether the server gave as the reason of its refusal that there is no such object. -/
def isAbsence : ClientError → Bool
  | refused failure => failure.reason == "NotFound"
  | _ => false

end ClientError

/-- A kind of objects whose documents are values of type `α`, with their codec and where they have
their metadata. -/
structure ResourceType (α : Type) where
  kind : Kind
  codec : Codec α
  metadata : α → Kubernetes.ObjectMeta

namespace ResourceType

/-- Config maps. -/
def configMap : ResourceType Kubernetes.ConfigMap :=
  ⟨.configMap, Kubernetes.ConfigMap.codec, (·.metadata)⟩

/-- Service accounts. -/
def serviceAccount : ResourceType Kubernetes.ServiceAccount :=
  ⟨.serviceAccount, Kubernetes.ServiceAccount.codec, (·.metadata)⟩

/-- Services. -/
def service : ResourceType Kubernetes.Service :=
  ⟨.service, Kubernetes.Service.codec, (·.metadata)⟩

/-- Deployments. -/
def deployment : ResourceType Kubernetes.Deployment :=
  ⟨.deployment, Kubernetes.Deployment.codec, (·.metadata)⟩

/-- Daemon sets. -/
def daemonSet : ResourceType Kubernetes.DaemonSet :=
  ⟨.daemonSet, Kubernetes.DaemonSet.codec, (·.metadata)⟩

/-- Agent resources. -/
def agent : ResourceType Agent := ⟨.agent, Agent.codec, AgentOf.metadata⟩

/-- The place of the object of a name in a namespace. -/
def ref {α : Type} (type : ResourceType α) (inNamespace name : String) : ObjectRef :=
  ⟨type.kind, inNamespace, name⟩

end ResourceType

namespace Client

variable {α : Type}

/-- The body of a response that is no refusal, or why there is none. -/
def accepted : Reply → Except ClientError Body
  | .response response =>
    if response.isRefusal then .error (.refused response.failure) else .ok response.body
  | .unreachable message => .error (.unreachable message)
  | .brokenStream => .error .brokenStream

/-- Sends a request that can be sent and takes the body of the answer. -/
def send (request : Request) : Attempt ClientError Body :=
  match request.address with
  | .error fault => throw (.unsendable fault)
  | .ok _ => do
    let reply ← Activity.send request
    Attempt.ofExcept (accepted reply)

/-- Sends a request whose answer is an object. -/
def sendFor (type : ResourceType α) (request : Request) : Attempt ClientError α := do
  let body ← send request
  Attempt.ofExcept ((body.decode type.codec).mapError .unexpected)

/-- Reads an object. -/
def fetch (type : ResourceType α) (inNamespace name : String) : Attempt ClientError α :=
  sendFor type (.fetch (type.ref inNamespace name))

/-- Reads an object that need not exist. -/
def fetchOptional (type : ResourceType α) (inNamespace name : String) :
    Attempt ClientError (Option α) :=
  Attempt.ofResult do
    match ← (fetch type inNamespace name).run with
    | .ok object => return .ok (some object)
    | .error cause => return if cause.isAbsence then .ok none else .error cause

/-- Brings an object into a declared state. -/
def apply (type : ResourceType α) (inNamespace name : String) (desired : α) :
    Attempt ClientError α :=
  sendFor type (.apply (type.ref inNamespace name) (type.codec.encode desired))

/-- Merges a change into the reported state of an object. -/
def patchStatus (type : ResourceType α) (inNamespace name : String) (change : Json) :
    Attempt ClientError α :=
  sendFor type (.patchStatus (type.ref inNamespace name) change)

/-- Checks what a server answers to a deletion: a report on the outcome, or else the object that is
being deleted. -/
def checkDeleted (type : ResourceType α) (body : Body) : Except TextFault Unit := do
  let j ← body.read
  if (j.get? "kind").bind Json.text? = some Report.kind then
    let _ ← body.decode Report.codec
    return ()
  else
    let _ ← body.decode type.codec
    return ()

/-- Deletes an object. -/
def delete (type : ResourceType α) (inNamespace name : String) : Attempt ClientError Unit := do
  let body ← send (.delete (type.ref inNamespace name))
  Attempt.ofExcept ((checkDeleted type body).mapError .unexpected)

/-- Records an event in a namespace. -/
def createEvent (inNamespace : String) (event : Kubernetes.Event) : Attempt ClientError Unit := do
  let body ← send (.createEvent inNamespace (Kubernetes.Event.codec.encode event))
  let _ ← Attempt.ofExcept ((body.decode Kubernetes.Event.codec).mapError .unexpected)

end Client

end AgentOperator.Api
