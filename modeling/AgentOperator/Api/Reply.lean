import AgentOperator.Codec.Fields
import AgentOperator.Json.Writer

/-!
# Replies

What comes back for a request. An API server answers with a status code and a body: a client takes a
code of refusal for a failure, which the body may describe, and decodes the body of any other
response. The request may also stay without an answer.
-/

namespace AgentOperator.Api

/-- The body of a response: a document, or a text that may or may not be one. -/
inductive Body where
  | document (j : Json)
  | text (s : String)

namespace Body

/-- The text of a body. -/
def toText : Body → String
  | document j => j.write
  | text s => s

/-- The document that a body holds. -/
def read : Body → Except TextFault Json
  | document j => .ok j
  | text s => (Json.read s).mapError .unreadable

/-- The value that a body holds. If a document holds none, the fault is the one that a reader of its
text meets first. -/
def decode {α : Type} (codec : Codec α) : Body → Except TextFault α
  | document j =>
    match codec.decode j with
    | .ok value => .ok value
    | .error cause =>
      .error ((codec.inspect (Json.Draft.ofText j.write).1).getD (.undecodable cause))
  | text s => codec.decodeText s

end Body

/-- An answer of an API server. -/
structure Response where
  status : Nat
  body : Body

/-- What comes back for a request that was sent: the answer of a server, or no answer because the
server could not be reached or the stream of its answer broke off. -/
inductive Reply where
  | response (response : Response)
  | unreachable (message : String)
  | brokenStream

/-- How an API server describes a failure: the outcome in one word, what failed, the reason in one
word, and the status code. -/
structure Failure where
  status : String
  message : String := ""
  reason : String := ""
  code : UInt16
deriving DecidableEq, Repr

namespace Failure

/-- Failures as documents. -/
def codec : Codec Failure :=
  .record "ErrorResponse" <|
    Fields.build Failure Failure.mk
    |>.field "status" status (.mandatory .text)
    |>.field "message" message (.defaulted .text "")
    |>.field "reason" reason (.defaulted .text "")
    |>.field "code" code (.mandatory .uint16)

/-- The wording of a failure, followed by all that is known of it. -/
def text (failure : Failure) : String :=
  failure.message ++ ": " ++ failure.reason ++ " (ErrorResponse \x7b status: " ++
    Text.quote failure.status ++ ", message: " ++ Text.quote failure.message ++ ", reason: " ++
    Text.quote failure.reason ++ ", code: " ++ toString failure.code.toNat ++ " \x7d)"

end Failure

/-- The phrase that goes with a status code of refusal. -/
def statusPhrase : Nat → String
  | 400 => "Bad Request"
  | 401 => "Unauthorized"
  | 402 => "Payment Required"
  | 403 => "Forbidden"
  | 404 => "Not Found"
  | 405 => "Method Not Allowed"
  | 406 => "Not Acceptable"
  | 407 => "Proxy Authentication Required"
  | 408 => "Request Timeout"
  | 409 => "Conflict"
  | 410 => "Gone"
  | 411 => "Length Required"
  | 412 => "Precondition Failed"
  | 413 => "Payload Too Large"
  | 414 => "URI Too Long"
  | 415 => "Unsupported Media Type"
  | 416 => "Range Not Satisfiable"
  | 417 => "Expectation Failed"
  | 418 => "I'm a teapot"
  | 421 => "Misdirected Request"
  | 422 => "Unprocessable Entity"
  | 423 => "Locked"
  | 424 => "Failed Dependency"
  | 425 => "Too Early"
  | 426 => "Upgrade Required"
  | 428 => "Precondition Required"
  | 429 => "Too Many Requests"
  | 431 => "Request Header Fields Too Large"
  | 451 => "Unavailable For Legal Reasons"
  | 500 => "Internal Server Error"
  | 501 => "Not Implemented"
  | 502 => "Bad Gateway"
  | 503 => "Service Unavailable"
  | 504 => "Gateway Timeout"
  | 505 => "HTTP Version Not Supported"
  | 506 => "Variant Also Negotiates"
  | 507 => "Insufficient Storage"
  | 508 => "Loop Detected"
  | 510 => "Not Extended"
  | 511 => "Network Authentication Required"
  | _ => "<unknown status code>"

namespace Response

/-- Whether a response is a refusal. -/
def isRefusal (response : Response) : Bool := 400 ≤ response.status && response.status < 600

/-- The failure that a refusal stands for: the one that its body describes, or else one made of the
status code and the text of the body. -/
def failure (response : Response) : Failure :=
  match response.body.decode Failure.codec with
  | .ok failure => failure
  | .error _ =>
    { status := toString response.status ++ " " ++ statusPhrase response.status
      message := Text.quote response.body.toText
      reason := "Failed to parse error data"
      code := UInt16.ofNat response.status }

end Response

end AgentOperator.Api
