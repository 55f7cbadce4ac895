import AgentOperator.Json.ReadError
import AgentOperator.Json.Basic
import AgentOperator.Text.Quoted
import AgentOperator.Time.Reader

/-!
# Decoding faults

Why a document is not the form of a value. A fault names what was found and what was expected; its
wording is `DecodeError.message`. Where the value is taken from a text, the text may also be no
document at all; a `TextFault` is either.
-/

namespace AgentOperator

/-- What stood where something else was expected. -/
inductive Found where
  | null
  | bool (value : Bool)
  | int (value : Int)
  | float (value : Binary64)
  | str (value : String)
  | arr
  | obj
deriving DecidableEq, Repr

namespace Found

/-- The description of a document in a fault. -/
def ofJson : Json → Found
  | .null => .null
  | .bool value => .bool value
  | .int value => .int value
  | .float value => .float value
  | .str value => .str value
  | .arr _ => .arr
  | .obj _ => .obj

/-- The wording of what was found. -/
def message : Found → String
  | .null => "null"
  | .bool value => "boolean `" ++ (if value then "true" else "false") ++ "`"
  | .int value => "integer `" ++ toString value ++ "`"
  | .float value => "floating point `" ++ value.text ++ "`"
  | .str value => "string " ++ Text.quote value
  | .arr => "sequence"
  | .obj => "map"

end Found

/-- Why a document cannot be decoded. The last five faults are those of a choice by name or by a
single key, and of a record that is written as an array. -/
inductive DecodeError where
  | wrongType (found : Found) (expected : String)
  | wrongValue (found : Found) (expected : String)
  | noInstant (cause : TimeFault)
  | missingField (name : String)
  | duplicateField (name : String)
  | unknownVariant (name : String) (alternatives : List String)
  | notVariant (found : Found)
  | notSingleKey
  | tooFewItems (length : Nat) (expected : String)
  | tooManyItems (length : Nat)
deriving DecidableEq, Repr

namespace DecodeError

/-- The wording of a choice between names. -/
def alternativesText (names : List String) : String :=
  match names.map fun name => "`" ++ name ++ "`" with
  | [] => "there are no variants"
  | [name] => "expected " ++ name
  | [first, second] => "expected " ++ first ++ " or " ++ second
  | several => "expected one of " ++ ", ".intercalate several

/-- The wording of a fault in a document. -/
def message : DecodeError → String
  | .wrongType found expected => "invalid type: " ++ found.message ++ ", expected " ++ expected
  | .wrongValue found expected => "invalid value: " ++ found.message ++ ", expected " ++ expected
  | .noInstant cause => cause.message
  | .missingField name => "missing field `" ++ name ++ "`"
  | .duplicateField name => "duplicate field `" ++ name ++ "`"
  | .unknownVariant name alternatives =>
    "unknown variant `" ++ name ++ "`, " ++ alternativesText alternatives
  | .notVariant found => "invalid type: " ++ found.message ++ ", expected string or map"
  | .notSingleKey => "invalid value: map, expected map with a single key"
  | .tooFewItems length expected =>
    "invalid length " ++ toString length ++ ", expected " ++ expected
  | .tooManyItems length =>
    "invalid length " ++ toString length ++ ", expected fewer elements in array"

end DecodeError

/-- Why no value can be taken from a text: it is no document, or one of another form. -/
inductive TextFault where
  | unreadable (cause : Json.ReadError)
  | undecodable (cause : DecodeError)
deriving DecidableEq, Repr

/-- The wording of what is wrong with a text. -/
def TextFault.message : TextFault → String
  | unreadable cause => cause.message
  | undecodable cause => cause.message

end AgentOperator
