import AgentOperator.Entries
import AgentOperator.Numeric.Binary64

/-!
# JSON documents

The documents that the API server and its clients exchange. Whole numbers keep their exact value;
a number written with a fraction or an exponent is a double. The entries of an object stand in
order of their keys, each key once, which is how `Json.ofEntries` builds and `Json.set` keeps them.
-/

namespace AgentOperator

/-- A JSON document. A number is `int` if it is written without fraction and exponent and is not too
large for a whole number, and `float` otherwise. The entries of an object are in order of their
keys. -/
inductive Json where
  | null
  | bool (value : Bool)
  | int (value : Int)
  | float (value : Binary64)
  | str (value : String)
  | arr (items : List Json)
  | obj (entries : List (String × Json))
deriving Inhabited, BEq, Repr

namespace Json

/-- The object of some entries, the last one of each key. -/
def ofEntries (entries : List (String × Json)) : Json := .obj (Entries.normalize entries)

/-- The object without entries. -/
def emptyObject : Json := .obj []

/-- The value of a key of an object; a document that is no object has no keys. -/
def get? (key : String) : Json → Option Json
  | .obj entries => entries.lookup key
  | _ => none

/-- Puts a value under a key of an object; a document that is no object is left alone. -/
def set (j : Json) (key : String) (value : Json) : Json :=
  match j with
  | .obj entries => .obj (Entries.upsert key value entries)
  | other => other

/-- Removes a key of an object; a document that is no object is left alone. -/
def erase (j : Json) (key : String) : Json :=
  match j with
  | .obj entries => .obj (Entries.erase key entries)
  | other => other

/-- The text of a document that is a text. -/
def text? : Json → Option String
  | .str value => some value
  | _ => none

end Json

end AgentOperator
