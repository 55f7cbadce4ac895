import AgentOperator.Text.Pattern.Atom

/-!
# Sets of characters in patterns

A set stands between square brackets. Its members are characters, ranges of characters, sets with a
name and other sets; operators between rows of members make sets of sets. Of a set that is read only
its depth is kept: how deep its parts are nested.
-/

namespace AgentOperator.Text.Pattern

/-- The depth of a row of parts with some depths. A row of one part is that part. -/
def rowDepth : List Nat → Nat
  | [] => 0
  | [depth] => depth
  | depths => depths.foldl max 0 + 1

/-- The names of sets that stand between colons. -/
def setNames : List String :=
  ["alnum", "alpha", "ascii", "blank", "cntrl", "digit", "graph", "lower", "print", "punct",
    "space", "upper", "word", "xdigit"]

/-- Reads a set with a name behind its bracket: whether all but its characters are meant, and what
follows it. -/
def readNamed (cs : List Char) : Option (Bool × List Char) :=
  let readName (isNegated : Bool) (cs : List Char) : Option (Bool × List Char) :=
    match cs.dropWhile (· ≠ ':') with
    | ':' :: ']' :: rest =>
      if setNames.contains (String.ofList (cs.takeWhile (· ≠ ':'))) then some (isNegated, rest)
      else none
    | _ => none
  match cs with
  | ':' :: '^' :: cs => readName true cs
  | ':' :: cs => readName false cs
  | _ => none

/-- Whether an atom may be a member of a set. -/
def Atom.isMember (modes : Modes) : Atom → Bool
  | char c _ => modes.isUnicode || isAscii c
  | shorthand isNegated => modes.isUnicode || !isNegated
  | category => modes.isUnicode
  | any | place _ => false

/-- Reads an atom in a set, where a character without a backslash stands for itself. -/
def readSetAtom (modes : Modes) : List Char → Option (Atom × List Char)
  | '\\' :: cs => readEscape modes cs
  | c :: cs => some (.char c, cs)
  | [] => none

/-- Whether two atoms are the ends of a range. -/
def isRange (modes : Modes) (first last : Atom) : Bool :=
  match first, last with
  | .char a _, .char b _ => first.isMember modes && last.isMember modes && a ≤ b
  | _, _ => false

/-- Reads an atom or a range and gives back what follows it. A hyphen before a bracket or another
hyphen makes no range. -/
def readMember (modes : Modes) (cs : List Char) : Option (List Char) := do
  let (first, rest) ← readSetAtom modes cs
  match modes.skip rest with
  | '-' :: behind =>
    if [some ']', some '-'].contains (modes.peek? behind) then
      if first.isMember modes then some ('-' :: behind) else none
    else
      let (last, rest) ← readSetAtom modes (modes.skip behind)
      if isRange modes first last then some rest else none
  | rest => if first.isMember modes then some rest else none

/-- A set whose closing bracket was not met so far: the depth of what stands before the last
operator, the depths of the members since then, and whether there were only hyphens so far, which
stand for themselves. -/
structure OpenSet where
  before : Option Nat := none
  members : List Nat := []
  isFresh : Bool := false

namespace OpenSet

/-- The depth of what is between the brackets. -/
def depth (set : OpenSet) : Nat :=
  match set.before with
  | none => rowDepth set.members
  | some depth => max depth (rowDepth set.members) + 1

/-- The set with another member. -/
def add (set : OpenSet) (depth : Nat) : OpenSet :=
  { set with members := depth :: set.members, isFresh := false }

end OpenSet

/-- Reads the mark behind an opening bracket by which all but the members of a set are meant. -/
def readNegation (modes : Modes) (cs : List Char) : Option (List Char) :=
  match modes.skip cs with
  | '^' :: rest => if modes.isUnicode then some rest else none
  | cs => some cs

/-- Reads the rest of a set in other sets, and gives back the depth of the outermost one and what
follows it. `fuel` bounds the parts still to come. -/
def readSetFrom (modes : Modes) (fuel : Nat) (set : OpenSet) (outer : List OpenSet)
    (cs : List Char) : Option (Nat × List Char) :=
  match fuel, modes.skip cs with
  | 0, _ | _, [] => none
  | fuel + 1, c :: rest =>
    if set.isFresh && c = '-' then
      readSetFrom modes fuel { set.add 0 with isFresh := true } outer rest
    else if set.isFresh && set.members.isEmpty && c = ']' then
      readSetFrom modes fuel (set.add 0) outer rest
    else if c = ']' then
      match outer with
      | [] => some (set.depth + 1, rest)
      | around :: outer => readSetFrom modes fuel (around.add (set.depth + 1)) outer rest
    else if c = '[' then
      match readNamed rest with
      | some (isNegated, rest) =>
        if modes.isUnicode || !isNegated then readSetFrom modes fuel (set.add 0) outer rest
        else none
      | none =>
        match readNegation modes rest with
        | some rest => readSetFrom modes fuel { isFresh := true } (set :: outer) rest
        | none => none
    else if ['&', '-', '~'].contains c && rest.head? = some c then
      readSetFrom modes fuel { before := some set.depth } outer (rest.drop 1)
    else
      match readMember modes (c :: rest) with
      | some rest => readSetFrom modes fuel (set.add 0) outer rest
      | none => none

/-- Reads a set behind its opening bracket. -/
def readSet (modes : Modes) (cs : List Char) : Option (Nat × List Char) :=
  (readNegation modes cs).bind fun rest =>
    readSetFrom modes (rest.length + 1) { isFresh := true } [] rest

end AgentOperator.Text.Pattern
