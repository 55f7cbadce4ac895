/-!
# Search in text

Whether one text occurs within another one, and what stands before it at the end.
-/

namespace AgentOperator.Text

/-- Whether a row of characters occurs within another one. -/
def occursIn (needle : List Char) : List Char → Bool
  | [] => needle.isEmpty
  | c :: cs => needle.isPrefixOf (c :: cs) || occursIn needle cs

/-- Whether a text contains another one. -/
def contains (text needle : String) : Bool := occursIn needle.toList text.toList

/-- What stands before the end of a text, if the text ends in this way. -/
def beforeSuffix? (ending text : String) : Option String :=
  let cs := text.toList
  let rest := cs.take (cs.length - ending.toList.length)
  if rest ++ ending.toList = cs then some (String.ofList rest) else none

end AgentOperator.Text
