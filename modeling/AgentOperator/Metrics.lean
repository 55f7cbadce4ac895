import AgentOperator.Dict
import AgentOperator.Numeric.Binary64

/-!
# Metrics

What the operator counts about its own work. An `Event` is something that is counted; it adds one to
each of its samples, which are named as a scrape shows them. Counters are kept per sample, so what
happened between two scrapes is the difference of their counters.
-/

namespace AgentOperator.Metrics

/-- Something that is counted. For the failure of a task, `bail` says whether it ended the
reconciliation. -/
inductive Event where
  | reconciliation
  | reconciliationError
  | namespaceTerminating
  | taskFailure (task : String) (bail : Bool)
  | duration (seconds : Binary64)
deriving DecidableEq, Repr

/-- A family of samples, as a scrape introduces it. -/
structure Family where
  name : String
  help : String
  type : String
deriving DecidableEq, Repr

namespace Family

/-- A family of the operator that counts something. -/
def counter (name help : String) : Family :=
  { name := "cloudwatch_agent_operator_" ++ name, help := help, type := "counter" }

/-- The lines that introduce a family. -/
def introduction (family : Family) : List String :=
  ["# HELP " ++ family.name ++ " " ++ family.help, "# TYPE " ++ family.name ++ " " ++ family.type]

end Family

/-- The form of a character in the value of a label. -/
def labelChar (c : Char) : List Char :=
  if c = '\\' then ['\\', '\\']
  else if c = '"' then ['\\', '"']
  else if c = '\n' then ['\\', 'n']
  else [c]

/-- A label as it stands behind the name of a sample. -/
def label (key value : String) : String :=
  key ++ "=\"" ++ String.ofList (value.toList.flatMap labelChar) ++ "\""

/-- The name of a sample with labels. -/
def labelled (name : String) (labels : List String) : String :=
  name ++ "\x7b" ++ ",".intercalate labels ++ "\x7d"

/-- The upper bounds of the buckets that durations are sorted into. -/
def durationBounds : List Decimal :=
  [⟨false, 5, -2⟩, ⟨false, 1, -1⟩, ⟨false, 5, -1⟩, ⟨false, 1, 0⟩, ⟨false, 2, 0⟩, ⟨false, 5, 0⟩,
    ⟨false, 10, 0⟩]

/-- Whether a duration falls below a bound. -/
def isWithin (seconds : Binary64) (bound : Decimal) : Bool := bound.toBinary64?.any seconds.le

/-- The labels of the buckets that a duration falls into; the buckets hold what is below their
bound, so there is one more for all durations. -/
def bucketLabels (seconds : Binary64) : List String :=
  (durationBounds.filter (isWithin seconds)).map (fun bound => label "le" bound.positional) ++
    [label "le" "+Inf"]

namespace Event

/-- The family that an event is counted in. -/
def family : Event → Family
  | reconciliation => .counter "reconciliations_total" "Total number of reconciliations"
  | reconciliationError =>
    .counter "reconciliation_errors_total" "Total number of reconciliation errors"
  | namespaceTerminating =>
    .counter "namespace_terminating_total"
      "Total number of reconciliations stopped because the namespace is being terminated"
  | taskFailure _ _ =>
    .counter "task_failures_total"
      "Total number of failed reconciliation tasks by task name and bail-on-error policy"
  | duration _ =>
    { Family.counter "reconciliation_duration_seconds" "Duration of reconciliation in seconds" with
      type := "histogram" }

/-- The samples of buckets that an event adds to. -/
def buckets (event : Event) : List String :=
  match event with
  | duration seconds =>
    (bucketLabels seconds).map fun label => labelled (event.family.name ++ "_bucket") [label]
  | _ => []

/-- The other samples that an event adds to. -/
def totals (event : Event) : List String :=
  match event with
  | taskFailure task bail =>
    [labelled event.family.name
      [label "bail" (if bail then "true" else "false"), label "task" task]]
  | duration _ => [event.family.name ++ "_count"]
  | _ => [event.family.name]

/-- All samples that an event adds to. -/
def samples (event : Event) : List String := event.buckets ++ event.totals

end Event

/-- Counters by sample. -/
abbrev Counters : Type := Dict Nat

namespace Counters

/-- The count of a sample; one that was never added to stands at zero. -/
def count (counters : Counters) (sample : String) : Nat := (counters.get? sample).getD 0

/-- Adds one to a sample. -/
def increment (counters : Counters) (sample : String) : Counters :=
  counters.insert sample (counters.count sample + 1)

/-- Counts an event. -/
def add (counters : Counters) (event : Event) : Counters :=
  event.samples.foldl increment counters

/-- Counts some samples from zero on. -/
def ofSamples (samples : List String) : Counters := samples.foldl increment ∅

end Counters

/-- Why a second registration of the metrics is refused. -/
def duplicateRegistration : String := "Duplicate metrics collector registration attempted"

end AgentOperator.Metrics
