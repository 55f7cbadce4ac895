/-!
# Log records

What the operator says about its work: a message at a level, with named values beside it.
-/

namespace AgentOperator.Log

/-- How much a record matters, the most important level first. -/
inductive Level where
  | error
  | warn
  | info
  | debug
  | trace
deriving DecidableEq, Repr

/-- A value beside a message: a text, a text that is shown without quotes, or a whole number. -/
inductive Value where
  | text (value : String)
  | bare (value : String)
  | int (value : Int)
deriving DecidableEq, Repr

/-- One record of the log: its level, its message, and the values beside that in order. -/
structure Record where
  level : Level
  message : String
  fields : List (String × Value) := []
deriving DecidableEq, Repr

/-- The names of all that a record says: of its message and of the values beside it. -/
def Record.names (record : Record) : List String := "message" :: record.fields.map Prod.fst

namespace Level

/-- The levels from the most important one on. -/
def all : List Level := [.error, .warn, .info, .debug, .trace]

/-- The name of a level in capitals. -/
def name : Level → String
  | .error => "ERROR"
  | .warn => "WARN"
  | .info => "INFO"
  | .debug => "DEBUG"
  | .trace => "TRACE"

/-- The name of a level in small letters. -/
def lowerName : Level → String
  | .error => "error"
  | .warn => "warn"
  | .info => "info"
  | .debug => "debug"
  | .trace => "trace"

/-- How much detail a level stands for. -/
def rank : Level → Nat
  | .error => 1
  | .warn => 2
  | .info => 3
  | .debug => 4
  | .trace => 5

end Level

end AgentOperator.Log
