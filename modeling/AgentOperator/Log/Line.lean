import AgentOperator.Log
import AgentOperator.Json.Basic
import AgentOperator.Text.Case
import AgentOperator.Text.Quoted

/-!
# Log lines

The forms in which log records are written: as JSON documents, or as lines of text. In a
line texts stand between quotes, unless they are meant to be shown as they are, and codes for
terminals set the names of values apart.
-/

namespace AgentOperator.Log

/-- The form of a log: lines of text, or JSON documents. -/
inductive Format where
  | text
  | json
deriving DecidableEq, Repr

/-- The form of a log that a setting names. -/
def Format.ofSetting (setting : String) : Format :=
  if Text.asciiLowercase setting = "json" then .json else .text

/-- The form of a value in a line. -/
def Value.lineText : Value → String
  | text value => Text.quote value
  | bare value => value
  | int value => toString value

/-- The value as a document. -/
def Value.toJson : Value → Json
  | text value | bare value => .str value
  | int value => .int value

/-- A style that a terminal shows text in. -/
inductive Style where
  | dim
  | italic
deriving DecidableEq, Repr

/-- The number of a style in the codes for terminals. -/
def Style.code : Style → String
  | .dim => "2"
  | .italic => "3"

/-- A text between the codes that begin a style and end all styles. -/
def Style.apply (style : Style) (text : String) : String :=
  "\x1b[" ++ style.code ++ "m" ++ text ++ "\x1b[0m"

/-- A value with its name in a line. -/
def fieldText (name : String) (value : Value) : String :=
  Style.italic.apply name ++ Style.dim.apply "=" ++ value.lineText

/-- A record as a line, without its level. -/
def Record.lineText (record : Record) : String :=
  " ".intercalate (record.message :: record.fields.map fun field => fieldText field.1 field.2)

/-- The values of a record and its message as a document. -/
def Record.toJson (record : Record) : Json :=
  .ofEntries
    (("message", .str record.message) :: record.fields.map fun field => (field.1, field.2.toJson))

end AgentOperator.Log
