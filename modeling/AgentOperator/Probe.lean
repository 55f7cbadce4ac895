/-!
# Probes

The small web surface of the operator: a scrape of its metrics, and two probes that tell whether it
lives and whether it is ready. A request is answered from its method, its path and the readiness of
the operator alone.
-/

namespace AgentOperator.Probe

/-- What the operator can be asked: for a scrape of the metrics, whether it lives, and whether it is
ready. -/
inductive Route where
  | metrics
  | alive
  | ready
deriving DecidableEq, Repr

/-- What an answer carries: nothing, or the text form of all metrics. -/
inductive Content where
  | nothing
  | exposition
deriving DecidableEq, Repr

/-- The answer to a request. Where the request has a method that its path does not take, `allow`
names those that it takes. -/
structure Answer where
  status : Nat
  contentType : Option String := none
  allow : Option String := none
  content : Content := .nothing
deriving DecidableEq, Repr

/-- The route of a path, which has to be spelled exactly. -/
def Route.ofPath? (path : String) : Option Route :=
  if path = "/metrics" then some .metrics
  else if path = "/healthz" then some .alive
  else if path = "/readyz" then some .ready
  else none

/-- What follows the scheme of a whole address. -/
def afterScheme? : List Char → Option (List Char)
  | ':' :: '/' :: '/' :: rest => some rest
  | c :: cs => if c.isAlphanum || ['+', '-', '.'].contains c then afterScheme? cs else none
  | [] => none

/-- The path of a request target, which ends where a query or a fragment begins. A target may be a
whole address, whose path begins behind the host; a target that is neither a path nor an address has
no path. -/
def pathOf (target : String) : String :=
  let front := target.toList.takeWhile fun c => c != '?' && c != '#'
  if front.head? = some '/' then String.ofList front
  else String.ofList (((afterScheme? front).getD []).dropWhile (· != '/'))

/-- The type of the text form of metrics. -/
def expositionType : String := "text/plain; version=0.0.4; charset=utf-8"

/-- The answer of a route to a request that reads it. -/
def Route.answer (isReady : Bool) : Route → Answer
  | .metrics => { status := 200, contentType := some expositionType, content := .exposition }
  | .alive => { status := 200 }
  | .ready => { status := if isReady then 200 else 503 }

/-- The answer to a request. Unknown paths are refused before unfit methods, and a request for the
head of an answer gets everything but its content. -/
def answer (isReady : Bool) (method target : String) : Answer :=
  match Route.ofPath? (pathOf target) with
  | none => { status := 404 }
  | some route =>
    if method = "GET" then route.answer isReady
    else if method = "HEAD" then { route.answer isReady with content := .nothing }
    else { status := 405, allow := some "GET,HEAD" }

end AgentOperator.Probe
