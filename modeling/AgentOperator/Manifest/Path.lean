import AgentOperator.Text.Pieces

/-!
# Clean paths

Absolute paths without empty, dot and dot-dot segments. `Path.join` walks the segments of some
fragments from the root: an empty segment and a dot stay where they are, two dots go up and stay at
the root when they are there, and any other segment goes down.
-/

namespace AgentOperator.Path

/-- The place that one segment leads to; a place is given by its segments, the last one first. -/
def step (place : List (List Char)) (segment : List Char) : List (List Char) :=
  if segment = [] || segment = ['.'] then place
  else if segment = ['.', '.'] then place.tail
  else segment :: place

/-- The place that the segments of a fragment lead to. -/
def walk (place : List (List Char)) (fragment : List Char) : List (List Char) :=
  (Text.pieces '/' fragment).foldl step place

/-- A place as an absolute path. -/
def render (place : List (List Char)) : List Char :=
  '/' :: ['/'].intercalate place.reverse

/-- The clean absolute path that some fragments lead to, one after the other, from the root. -/
def join (fragments : List String) : String :=
  String.ofList (render ((fragments.map String.toList).foldl walk []))

end AgentOperator.Path
