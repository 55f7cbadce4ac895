import AgentOperator.Json.Draft

/-!
# Reading JSON

`Json.read` reads a document from its text and says with the first fault that it meets why a text
is no document. Blanks may stand between any two tokens, a text holds one document, and a document
is nested at most 127 deep. Of several values of a key the last one stays. A whole number that fits
neither a signed nor an unsigned 64-bit word, and a negative zero, is read as a double.
-/

namespace AgentOperator.Json

/-- The deepest nesting of a document that is read. -/
def maxDepth : Nat := 127

/-- Reads the document that a text holds. -/
def read (s : String) : Except ReadError Json :=
  let (draft, after) := Draft.ofText s
  match draft.fault? maxDepth <|> after with
  | some fault => .error fault
  | none => .ok draft.document

end AgentOperator.Json
