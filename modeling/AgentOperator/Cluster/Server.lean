import AgentOperator.Activity
import AgentOperator.Cluster.Store
import AgentOperator.Text.Search

/-!
# API servers

How an API server works on a store of objects. `Operation` is what a request comes down to once the
object that it is about is found; the server performs it and answers. An applied object keeps the
status that the stored one had, a change of the status leaves all else of the object alone, and an
event is answered but not stored among the objects.

A server may also be made to fail: a `Fault` answers in its place to the requests that it matches.
-/

namespace AgentOperator.Cluster

open Api (Body Reply Request Response)

/-- What a server does with the object under a key: to answer it, to store a document in its place
and keep its status, to merge a change into its status, to remove it, or to answer a new
document. -/
inductive Operation where
  | read
  | replace (document : Json)
  | mergeStatus (change : Json)
  | remove
  | create (document : Json)

/-- The body in which a server reports an outcome. -/
def statusBody (status message reason : String) (code : Nat) : Json :=
  .ofEntries
    [("kind", .str "Status"), ("apiVersion", .str "v1"), ("metadata", .emptyObject),
      ("status", .str status), ("message", .str message), ("reason", .str reason),
      ("code", .int code)]

/-- A reply with a document. -/
def reply (status : Nat) (document : Json) : Reply :=
  .response { status := status, body := .document document }

/-- The answer about an object that does not exist. -/
def notFound : Reply := reply 404 (statusBody "Failure" "not found" "NotFound" 404)

/-- The answer about an object that was removed. -/
def removed : Reply := reply 200 (.ofEntries [("kind", .str "Status"), ("apiVersion", .str "v1"),
  ("metadata", .emptyObject), ("status", .str "Success")])

/-- A document with the status that an earlier one had. -/
def keepStatus (earlier : Option Json) (document : Json) : Json :=
  match earlier.bind (Json.get? "status") with
  | some status => document.set "status" status
  | none => document

/-- An object with a change merged into its status. -/
def mergeStatus (change object : Json) : Json :=
  match change.get? "status" with
  | some status =>
    object.set "status" (Json.mergePatch ((object.get? "status").getD .emptyObject) status)
  | none => object

/-- Performs an operation on the object under a key and gives back the answer. -/
def Operation.perform {κ : Type} [DecidableEq κ] (key : κ) (store : Store κ) :
    Operation → Reply × Store κ
  | read =>
    match store.get? key with
    | some object => (reply 200 object, store)
    | none => (notFound, store)
  | replace document =>
    let stored := keepStatus (store.get? key) document
    (reply 200 stored, store.put key stored)
  | mergeStatus change =>
    match store.get? key with
    | some object =>
      let changed := Cluster.mergeStatus change object
      (reply 200 changed, store.put key changed)
    | none => (notFound, store)
  | remove =>
    match store.get? key with
    | some _ => (removed, store.remove key)
    | none => (notFound, store)
  | create document => (reply 201 document, store)

/-- Answers a request on a store in which objects lie under what they are found by. -/
def serve (request : Request) (store : Store Api.ObjectRef) : Reply × Store Api.ObjectRef :=
  match request with
  | .fetch ref => Operation.read.perform ref store
  | .apply ref desired => (Operation.replace desired).perform ref store
  | .patchStatus ref change => (Operation.mergeStatus change).perform ref store
  | .delete ref => Operation.remove.perform ref store
  | .createEvent _ event => (reply 201 event, store)

/-- A world with a server and a clock that stands still. -/
def host (now : Instant) : Host (Store Api.ObjectRef) where
  serve := serve
  now _ := now

/-- A request as it arrives at a server; the path has no query. -/
structure Arrival where
  method : String
  path : String
  body : Json

/-- A request as it arrives, if it can be sent. -/
def Arrival.ofRequest? (request : Request) : Option Arrival :=
  match request.address with
  | .ok address =>
    some { method := request.method, path := address.path, body := request.body.getD .null }
  | .error _ => none

/-- How the path ends that leads to the status of an object. -/
def statusSuffix : String := "/status"

/-- The path of an object and the operation that an arriving request asks for. -/
def Arrival.operation (arrival : Arrival) : String × Operation :=
  if arrival.method = "GET" then (arrival.path, .read)
  else if arrival.method = "DELETE" then (arrival.path, .remove)
  else if arrival.method = "POST" then (arrival.path, .create arrival.body)
  else
    match Text.beforeSuffix? statusSuffix arrival.path with
    | some path => (path, .mergeStatus arrival.body)
    | none => (arrival.path, .replace arrival.body)

/-- Answers an arriving request on a store in which objects lie under their paths. -/
def answer (arrival : Arrival) (store : Store String) : Reply × Store String :=
  let (path, operation) := arrival.operation
  operation.perform path store

/-- A failure that is answered in place of a server to requests of a method whose paths contain a
text: to `remaining` of them, or to all. -/
structure Fault where
  method : String
  within : String
  reply : Response
  remaining : Option Nat := none

namespace Fault

/-- Whether a fault answers a request. -/
def answers (fault : Fault) (arrival : Arrival) : Bool :=
  fault.method = arrival.method && Text.contains arrival.path fault.within &&
    fault.remaining != some 0

/-- A fault after it has answered once. -/
def used (fault : Fault) : Fault := { fault with remaining := fault.remaining.map (· - 1) }

/-- The answer of the first fault that answers a request, and the faults after that. -/
def intercept? (arrival : Arrival) : List Fault → Option (Reply × List Fault)
  | [] => none
  | fault :: faults =>
    if fault.answers arrival then some (.response fault.reply, fault.used :: faults)
    else (intercept? arrival faults).map fun found => (found.1, fault :: found.2)

end Fault

end AgentOperator.Cluster
