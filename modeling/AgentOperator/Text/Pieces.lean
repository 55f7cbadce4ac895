/-!
# Pieces of text

The pieces of a text between the occurrences of a separator, empty pieces included. A text without
the separator is one piece.
-/

namespace AgentOperator.Text

/-- The pieces of a text between the occurrences of a separator. -/
def pieces (separator : Char) : List Char → List (List Char)
  | [] => [[]]
  | c :: cs =>
    if c = separator then [] :: pieces separator cs
    else
      match pieces separator cs with
      | [] => [[c]]
      | piece :: rest => (c :: piece) :: rest

end AgentOperator.Text
