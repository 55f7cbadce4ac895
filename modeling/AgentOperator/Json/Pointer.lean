import AgentOperator.Json.Basic
import AgentOperator.Text.Numeral
import AgentOperator.Text.Pieces

/-!
# JSON pointers

A pointer names a place in a document by the keys and positions that lead to it, each after a
slash. In a step the two characters that pointers need for themselves are written with a tilde:
the slash as `~1` and the tilde as `~0`. The empty pointer names the whole document.
-/

namespace AgentOperator.Json

/-- A step with its tildes resolved. -/
def unescapeStep : List Char → List Char
  | '~' :: '1' :: cs => '/' :: unescapeStep cs
  | '~' :: '0' :: cs => '~' :: unescapeStep cs
  | c :: cs => c :: unescapeStep cs
  | [] => []

/-- The steps of a pointer; nothing if a text is no pointer. -/
def pointerSteps? (pointer : String) : Option (List String) :=
  match pointer.toList with
  | [] => some []
  | '/' :: cs => some ((Text.pieces '/' cs).map fun step => String.ofList (unescapeStep step))
  | _ => none

/-- The position that a step names in an array: a plain numeral without a leading zero. -/
def position? (step : String) : Option Nat :=
  match step.toList with
  | '+' :: _ => none
  | '0' :: _ :: _ => none
  | digits => Numeral.readDigits? digits

/-- The place that one step leads to. -/
def step? (step : String) : Json → Option Json
  | .obj entries => entries.lookup step
  | .arr items => (position? step).bind (items[·]?)
  | _ => none

/-- The place that a row of steps leads to. -/
def descend? : List String → Json → Option Json
  | [], j => some j
  | step :: steps, j => (j.step? step).bind (descend? steps)

/-- The place that a pointer names. -/
def pointer? (pointer : String) (j : Json) : Option Json :=
  (pointerSteps? pointer).bind (descend? · j)

/-- Changes the place that a row of steps leads to; a row that leads nowhere changes nothing. -/
def changeAt (change : Json → Json) : List String → Json → Json
  | [], j => change j
  | step :: steps, .obj entries =>
    .obj (entries.map fun entry =>
      if entry.1 = step then (entry.1, changeAt change steps entry.2) else entry)
  | step :: steps, .arr items =>
    match position? step with
    | some n => .arr (items.modify n (changeAt change steps))
    | none => .arr items
  | _, j => j

end AgentOperator.Json
