import AgentOperator.Log
import AgentOperator.Text.Alphanumeric
import AgentOperator.Text.Blank
import AgentOperator.Text.Numeral
import AgentOperator.Text.Pattern.Reader
import AgentOperator.Text.Pieces

/-!
# Log filters

Which log records are written. A filter is a list of directives, each a threshold for the records of
one origin or of all, maybe only for those with some value beside them, or for those that are
written in the course of some work. Of the directives that are about a record the one with the
longest origin decides, and of these one that asks for a value; of several alike the last one
counts, and records that no directive is about are not written.
-/

namespace AgentOperator.Log

/-- How much is let through: records up to a level, or none at all. -/
abbrev Threshold : Type := Option Level

namespace Threshold

/-- How much detail a threshold lets through. -/
def rank (threshold : Threshold) : Nat := (threshold.map Level.rank).getD 0

/-- The name of a threshold. -/
def name (threshold : Threshold) : String := (threshold.map Level.lowerName).getD "off"

/-- The more permissive one of two thresholds. -/
def max (a b : Threshold) : Threshold := if rank a < rank b then b else a

/-- All thresholds from the strictest one on. -/
def all : List Threshold := none :: Level.all.map some

/-- The threshold that a text names by a word or by its number, in capitals or small letters; the
empty text lets errors through. -/
def ofText? (text : String) : Option Threshold :=
  match (Numeral.read? text).bind (all[·]?) with
  | some threshold => some threshold
  | none =>
    if text.isEmpty then some (some .error)
    else all.find? fun threshold => name threshold = Text.asciiLowercase text

end Threshold

/-- A threshold for the records whose origin begins with `origin`, in the course of the work named
`work`, with a value beside them whose name and, if that is asked, content are `value`. -/
structure Directive where
  origin : Option String := none
  work : Option String := none
  value : Option (String × Option String) := none
  threshold : Threshold := some .trace
deriving DecidableEq, Repr

namespace Directive

/-- Whether a directive may begin with a character. -/
def mayStart (c : Char) : Bool := Text.isAlphanumeric c || ['-', ':', '_'].contains c

/-- The name of a value and what it is to be, if anything is said of that. -/
def readValue (cs : List Char) : String × Option String :=
  match Text.pieces '=' cs with
  | name :: value :: _ => (String.ofList name, some (String.ofList value))
  | _ => (String.ofList cs, none)

/-- Whether a text says what a value is to be: a number, or else a pattern that the value is to
match. -/
def isExpectation (text : String) : Bool :=
  Numeral.isReal text.toList || Text.Pattern.isPattern text.toList

/-- The part of a directive that is being read, with the place where it began if that is needed
later. -/
inductive Part where
  | start
  | name
  | work (start : Nat)
  | value (start : Nat)
  | afterValue
  | afterWork
  | threshold (start : Nat)
deriving DecidableEq, Repr

/-- The characters of a text from one place up to another one. -/
def between (cs : List Char) (start stop : Nat) : List Char := (cs.take stop).drop start

/-- Reads the character at a place of a directive. -/
def step (cs : List Char) (directive : Directive) (part : Part) (place : Nat) (c : Char) :
    Option (Directive × Part) :=
  let since (start : Nat) : List Char := between cs start place
  let named : Directive := { directive with origin := some (String.ofList (since 0)) }
  match part with
  | .start =>
    if c = '[' then some (directive, .work (place + 1))
    else if mayStart c then some (directive, .name)
    else none
  | .name =>
    if c = '=' then some (named, .threshold (place + 1))
    else if c = '[' then some (named, .work (place + 1))
    else some (directive, part)
  | .work start =>
    let work := String.ofList (since start)
    if c = ']' then some ({ directive with work := some work }, .afterWork)
    else if c = '{' then
      some (if work.isEmpty then directive else { directive with work := some work },
        .value (place + 1))
    else some (directive, part)
  | .value start =>
    if c = '}' then
      let value := readValue (since start)
      if !(since start).isEmpty && value.2.all isExpectation then
        some ({ directive with value := some value }, .afterValue)
      else none
    else some (directive, part)
  | .afterValue => if c = ']' then some (directive, .afterWork) else none
  | .afterWork => if c = '=' then some (directive, .threshold (place + 1)) else none
  | .threshold _ => some (directive, part)

/-- The directive whose text ended in some part. -/
def finish (cs : List Char) (directive : Directive) : Part → Option Directive
  | .name =>
    match Threshold.ofText? (String.ofList cs) with
    | some threshold => some { directive with threshold := threshold }
    | none => some { directive with origin := some (String.ofList cs) }
  | .threshold start =>
    let text := String.ofList (cs.drop start)
    if text.isEmpty then some directive
    else (Threshold.ofText? text).map fun threshold => { directive with threshold := threshold }
  | .afterWork => some directive
  | .start | .work _ | .value _ | .afterValue => none

/-- Reads a directive from some place on. -/
def readFrom (cs : List Char) (directive : Directive) (part : Part) (place : Nat) :
    List Char → Option Directive
  | [] => finish cs directive part
  | c :: rest =>
    (step cs directive part place c).bind fun (directive, part) =>
      readFrom cs directive part (place + 1) rest

/-- The directive that a text stands for: a threshold, an origin of which everything is let
through, or an origin, an equals sign and a threshold; between brackets behind the origin some work
may be named and, between braces, a value. The places of the marks are counted without the blanks
around the text, but what stands between two places is taken from the text with its blanks. -/
def ofText? (text : String) : Option Directive :=
  let cs := text.toList
  readFrom cs {} .start 0
    ((cs.dropWhile Text.isBlank).reverse.dropWhile Text.isBlank).reverse

/-- The name of the value that a directive asks for. -/
def valueName? (directive : Directive) : Option String := directive.value.map Prod.fst

/-- Whether a directive asks what its value is, and not only whether it is there. -/
def asksValue (directive : Directive) : Bool := directive.value.any fun value => value.2.isSome

/-- Whether a directive is about some work only, which is known by its name or by what a value of
it is. -/
def isScoped (directive : Directive) : Bool := directive.work.isSome || directive.asksValue

/-- Whether a directive is about a record of some origin that is written in the course of no
work. -/
def isAbout (directive : Directive) (origin : String) (record : Record) : Bool :=
  !directive.isScoped
    && directive.origin.all (fun start => start.toList.isPrefixOf origin.toList)
    && directive.valueName?.all record.names.contains

/-- Compares how closely two directives say which records they are about: by the lengths of their
origins, and then by the names of their values. -/
def compareDetail (a b : Directive) : Ordering :=
  (compare (a.origin.map String.length) (b.origin.map String.length)).then
    (compare a.valueName? b.valueName?)

end Directive

/-- What decides which records are written: directives in the order in which they were given. -/
structure Filter where
  directives : List Directive
deriving DecidableEq, Repr

namespace Filter

/-- The filter that lets records of one origin through up to a threshold. -/
def upTo (origin : String) (threshold : Threshold) : Filter :=
  ⟨[{ origin := some origin, threshold := threshold }]⟩

/-- The filter that a text stands for: directives between commas. Without a directive nothing is let
through. -/
def ofText? (text : String) : Option Filter :=
  let pieces := (Text.pieces ',' text.toList).filter fun piece => !piece.isEmpty
  (pieces.mapM fun piece => Directive.ofText? (String.ofList piece)).map Filter.mk

/-- The most that a filter lets through of anything. A filter that asks what a value is has to see
everything. -/
def maxThreshold (filter : Filter) : Threshold :=
  if filter.directives.any Directive.asksValue then some .trace
  else (filter.directives.map Directive.threshold).foldl Threshold.max none

/-- The directive of a filter that decides about a record of some origin. -/
def deciding? (filter : Filter) (origin : String) (record : Record) : Option Directive :=
  (filter.directives.filter (·.isAbout origin record)).foldl
    (fun best directive =>
      if best.all fun closest => (closest.compareDetail directive).isLE then some directive
      else best)
    none

/-- Whether a record of an origin passes a filter. -/
def passes (filter : Filter) (origin : String) (record : Record) : Bool :=
  record.level.rank ≤ Threshold.rank ((filter.deciding? origin record).bind (·.threshold))

end Filter

end AgentOperator.Log
