import AgentOperator.Text.Alphanumeric
import AgentOperator.Text.Pattern.CharSet

/-!
# Reading patterns

Which texts are patterns. A pattern is a choice between rows of pieces: atoms, sets, groups between
parentheses, and changes of modes, of which all but the last may be repeated. A group may have a
name, which no other group has, and modes of its own; modes that are changed within a group last
until its end. Nothing may be nested deeper than `maxDepth`.

A pattern here is one that stands between braces and so has no closing brace itself. An opening one,
which would tell how often something is repeated, is then never closed, and no text with one as more
than a plain character is a pattern.
-/

namespace AgentOperator.Text.Pattern

/-- The deepest nesting of a pattern. -/
def maxDepth : Nat := 250

/-- A part of a row: how deep its parts are nested, and whether it may be repeated. -/
structure Piece where
  depth : Nat := 0
  isRepeatable : Bool := true

/-- A group whose closing parenthesis was not met so far, or the whole pattern: the modes that it
has come to, the depths of the finished rows between which there is a choice, and the pieces of the
last row, the latest one first. -/
structure OpenGroup where
  modes : Modes
  choices : List Nat := []
  pieces : List Piece := []

namespace OpenGroup

/-- The depth of the last row. -/
def lastDepth (group : OpenGroup) : Nat := rowDepth (group.pieces.map Piece.depth)

/-- The depth of what is between the parentheses. -/
def depth (group : OpenGroup) : Nat := rowDepth (group.lastDepth :: group.choices)

/-- The group with another piece. -/
def add (group : OpenGroup) (piece : Piece) : OpenGroup :=
  { group with pieces := piece :: group.pieces }

/-- The group with the beginning of another row. -/
def choose (group : OpenGroup) : OpenGroup :=
  { group with choices := group.lastDepth :: group.choices, pieces := [] }

/-- The group with an atom. -/
def addAtom (group : OpenGroup) (atom : Atom) : Option OpenGroup :=
  if atom.isAllowed group.modes then some (group.add {}) else none

/-- The group with its last piece repeated. -/
def repeatLast (group : OpenGroup) : Option OpenGroup :=
  match group.pieces with
  | piece :: pieces =>
    if piece.isRepeatable then
      some { group with pieces := { depth := piece.depth + 1 } :: pieces }
    else none
  | [] => none

end OpenGroup

/-- A state of the reading of a pattern: the innermost group, those around it, and the names of
groups that were met. -/
structure State where
  group : OpenGroup
  outer : List OpenGroup := []
  names : List String := []

/-- Whether a character may stand in the name of a group. -/
def mayContinueName (c : Char) : Bool := ['_', '.', '[', ']'].contains c || isAlphanumeric c

/-- Whether a text may be the name of a group. -/
def isName : List Char → Bool
  | [] => false
  | c :: cs => (c = '_' || isLetter c) && cs.all mayContinueName

/-- Reads letters of modes after the ones that were `seen`. Those behind a hyphen are switched off.
Gives back the new modes, whether there was anything to read, and what follows from a colon or a
parenthesis on. -/
def readModes (modes : Modes) (seen : List Char) : List Char → Option (Modes × Bool × List Char)
  | [] => none
  | c :: rest =>
    if c = ':' || c = ')' then
      if seen.head? = some '-' then none else some (modes, !seen.isEmpty, c :: rest)
    else if seen.contains c then none
    else if c = '-' then readModes modes (c :: seen) rest
    else
      match modes.switch? c (!seen.contains '-') with
      | some modes => readModes modes (c :: seen) rest
      | none => none

namespace State

/-- The state inside of a new group. -/
def push (state : State) (modes : Modes) : State :=
  { state with group := { modes := modes }, outer := state.group :: state.outer }

/-- Reads the name of a group behind its opening angle. -/
def openNamed (state : State) (cs : List Char) : Option (State × List Char) :=
  let name := cs.takeWhile (· ≠ '>')
  match cs.dropWhile (· ≠ '>') with
  | [] => none
  | _ :: rest =>
    let text := String.ofList name
    if isName name && !state.names.contains text then
      some ({ state.push state.group.modes with names := text :: state.names }, rest)
    else none

/-- Reads the modes behind a question mark, of a group or of what follows. -/
def openModes (state : State) (cs : List Char) : Option (State × List Char) :=
  match readModes state.group.modes [] cs with
  | some (modes, _, ':' :: rest) => some (state.push modes, rest)
  | some (modes, true, _ :: rest) =>
    let group := { state.group with modes := modes }
    some ({ state with group := group.add { isRepeatable := false } }, rest)
  | _ => none

/-- Reads what an opening parenthesis begins. A pattern cannot look ahead or back. -/
def openGroup (state : State) (cs : List Char) : Option (State × List Char) :=
  match state.group.modes.skip cs with
  | '?' :: '<' :: '=' :: _ | '?' :: '<' :: '!' :: _ => none
  | '?' :: 'P' :: '<' :: rest | '?' :: '<' :: rest => state.openNamed rest
  | '?' :: rest => state.openModes rest
  | rest => some (state.push state.group.modes, rest)

/-- The state behind a closing parenthesis. -/
def close (state : State) : Option State :=
  match state.outer with
  | group :: outer =>
    some { state with group := group.add { depth := state.group.depth + 1 }, outer := outer }
  | [] => none

/-- Reads a piece, or a mark between pieces, that begins with a character. -/
def step (state : State) (c : Char) (rest : List Char) : Option (State × List Char) :=
  let withGroup (group : Option OpenGroup) (rest : List Char) : Option (State × List Char) :=
    group.map fun group => ({ state with group := group }, rest)
  match c with
  | '(' => state.openGroup rest
  | ')' => state.close.map fun state => (state, rest)
  | '|' => withGroup (some state.group.choose) rest
  | '[' =>
    match readSet state.group.modes rest with
    | some (depth, rest) => withGroup (some (state.group.add { depth := depth })) rest
    | none => none
  | '?' | '*' | '+' =>
    withGroup state.group.repeatLast (if rest.head? = some '?' then rest.drop 1 else rest)
  | '\x7b' => none
  | '\\' =>
    match readEscape state.group.modes rest with
    | some (atom, rest) => withGroup (state.group.addAtom atom) rest
    | none => none
  | '.' => withGroup (state.group.addAtom .any) rest
  | '^' | '$' => withGroup (state.group.addAtom (.place false)) rest
  | c => withGroup (state.group.addAtom (.char c)) rest

/-- Reads a pattern to its end and gives back its depth. `fuel` bounds the pieces still to come. -/
def finish (fuel : Nat) (state : State) (cs : List Char) : Option Nat :=
  match fuel, state.group.modes.skip cs with
  | 0, _ => none
  | _, [] => if state.outer.isEmpty then some state.group.depth else none
  | fuel + 1, c :: rest =>
    match state.step c rest with
    | some (state, rest) => finish fuel state rest
    | none => none

end State

/-- The depth of a pattern, if a text is one. -/
def depth? (cs : List Char) : Option Nat :=
  State.finish (cs.length + 1) { group := { modes := {} } } cs

/-- Whether a text is a pattern. -/
def isPattern (cs : List Char) : Bool := (depth? cs).any (· ≤ maxDepth)

end AgentOperator.Text.Pattern
