import AgentOperator.Api.Kind
import AgentOperator.Json.Basic

/-!
# Requests

What the operator asks of an API server, and the form that a request takes on the wire. Names stand
in the address of a request as they are: a question mark in one begins the query, and a hash and
what follows it is dropped. A request is not sent at all if its address is too long or has a
character that addresses do not have.
-/

namespace AgentOperator.Api

/-- The requests of the operator to an API server: to read an object, to apply the declared state of
one by force, to merge a change into the status of one, to delete one, or to record an event in a
namespace. -/
inductive Request where
  | fetch (ref : ObjectRef)
  | apply (ref : ObjectRef) (desired : Json)
  | patchStatus (ref : ObjectRef) (change : Json)
  | delete (ref : ObjectRef)
  | createEvent (inNamespace : String) (event : Json)
deriving BEq, Repr

/-- The address of a request. Its query is empty if there is none. -/
structure Address where
  path : String
  query : String
deriving DecidableEq, Repr

/-- Why a request cannot be sent: the object has no name, or the address is too long or holds a
character that addresses do not have. -/
inductive RequestFault where
  | emptyName
  | tooLong
  | invalidCharacter
deriving DecidableEq, Repr

/-- The wording of a reason not to send a request. -/
def RequestFault.message : RequestFault → String
  | emptyName => "failed to validate request: A non-empty name is required"
  | tooLong => "failed to build request: uri too long"
  | invalidCharacter => "failed to build request: invalid uri character"

namespace Address

/-- Whether a character leaves a mark on paper; all characters beyond ASCII count as such. -/
def isVisible (c : Char) : Bool := ' ' < c && c != '\x7f'

/-- Whether a path may hold a character. -/
def inPath (c : Char) : Bool := isVisible c && c != '<' && c != '>' && c != '`'

/-- Whether a query may hold a character. -/
def inQuery (c : Char) : Bool := isVisible c && c != '"' && c != '<' && c != '>'

/-- The most bytes that the text of an address has. -/
def maxSize : Nat := 65534

/-- Takes a text apart into path and query; what follows a hash belongs to neither. -/
def ofText (text : String) : Except RequestFault Address :=
  if text.utf8ByteSize > maxSize then .error .tooLong else
  let cs := text.toList.takeWhile (· != '#')
  let path := cs.takeWhile (· != '?')
  let query := (cs.dropWhile (· != '?')).drop 1
  if path.all inPath && query.all inQuery then
    .ok { path := String.ofList path, query := String.ofList query }
  else .error .invalidCharacter

end Address

/-- The name under which the operator manages fields of objects and reports events. -/
def fieldManager : String := "cloudwatch-agent-operator"

/-- The path of the events of a namespace. -/
def eventsPath (inNamespace : String) : String :=
  collectionPath "/apis/events.k8s.io/v1" inNamespace "events"

namespace Request

/-- The object that a request is about; an event is not yet an object. -/
def ref? : Request → Option ObjectRef
  | fetch ref | apply ref _ | patchStatus ref _ | delete ref => some ref
  | createEvent _ _ => none

/-- The method of a request. -/
def method : Request → String
  | fetch _ => "GET"
  | apply _ _ | patchStatus _ _ => "PATCH"
  | delete _ => "DELETE"
  | createEvent _ _ => "POST"

/-- The text of the address of a request. -/
def addressText : Request → String
  | fetch ref => ref.path
  | apply ref _ => ref.path ++ "?&force=true&fieldManager=" ++ fieldManager
  | patchStatus ref _ => ref.path ++ "/status?"
  | delete ref => ref.path ++ "?"
  | createEvent inNamespace _ => eventsPath inNamespace ++ "?"

/-- The address of a request, or why it cannot be sent. -/
def address (request : Request) : Except RequestFault Address :=
  if request.ref?.any (·.name.isEmpty) then .error .emptyName
  else Address.ofText request.addressText

/-- The type of what a request carries. -/
def contentType : Request → Option String
  | fetch _ => none
  | apply _ _ => some "application/apply-patch+yaml"
  | patchStatus _ _ => some "application/merge-patch+json"
  | delete _ | createEvent _ _ => some "application/json"

/-- What a request carries. -/
def body : Request → Option Json
  | fetch _ => none
  | apply _ desired => some desired
  | patchStatus _ change => some change
  | delete _ => some .emptyObject
  | createEvent _ event => some event

end Request

end AgentOperator.Api
