import AgentOperator.Proofs.Activity.Outcome

/-!
# Small steps of activities

The small-step semantics of activities, under which other work may interleave. A step writes a
record, counts an event, reads the clock, receives the reply to a request or ends a pause; the time
and the reply are arbitrary. `Activity.Path` is the reflexive transitive closure of steps with the
effects, and `Activity.EndsIn` a property of all the values that some work may end in.
-/

namespace AgentOperator

namespace Activity

variable {α β σ : Type}

/-- One step of some work, with its effect if it has one. The clock may show any time, and a request
may get any reply. -/
inductive Step : Activity α → Option Effect → Activity α → Prop
  | log (record : Log.Record) (rest : Activity α) :
      Step (.log record rest) (some (.logged record)) rest
  | count (event : Metrics.Event) (rest : Activity α) :
      Step (.count event rest) (some (.counted event)) rest
  | clock (time : Instant) (rest : Instant → Activity α) : Step (.clock rest) none (rest time)
  | ask (request : Api.Request) (reply : Api.Reply) (rest : Api.Reply → Activity α) :
      Step (.ask request rest) (some (.asked request reply)) (rest reply)
  | pause (rest : Activity α) : Step (.pause rest) none rest

/-- A sequence of steps of some work, with their effects and the rest of the work. -/
inductive Path : Activity α → List Effect → Activity α → Prop
  | here (work : Activity α) : Path work [] work
  | snoc {work later last : Activity α} {effects : List Effect} {effect : Option Effect}
      (hpath : Path work effects later) (hstep : Step later effect last) :
      Path work (effects ++ effect.toList) last

/-- A step of the first part is a step of a composition. -/
theorem Step.bind {work later : Activity α} {effect : Option Effect} (h : Step work effect later)
    (next : α → Activity β) : Step (work >>= next) effect (later >>= next) := by
  cases h with
  | log record rest => exact .log record _
  | count event rest => exact .count event _
  | clock time rest => exact .clock time fun time => rest time >>= next
  | ask request reply rest => exact .ask request reply fun reply => rest reply >>= next
  | pause rest => exact .pause _

/-- Work that has not ended can make a step. -/
theorem exists_step (work : Activity α) :
    (∃ value, work = .done value) ∨ ∃ effect later, Step work effect later := by
  cases work with
  | done value => exact .inl ⟨value, rfl⟩
  | log record rest => exact .inr ⟨_, _, .log record rest⟩
  | count event rest => exact .inr ⟨_, _, .count event rest⟩
  | clock rest => exact .inr ⟨_, _, .clock ⟨0, 0⟩ rest⟩
  | ask request rest => exact .inr ⟨_, _, .ask request .brokenStream rest⟩
  | pause rest => exact .inr ⟨_, _, .pause rest⟩

/-- Every value that some work may end in satisfies a property, for all times and replies. -/
def EndsIn (good : α → Prop) : Activity α → Prop
  | .done value => good value
  | .log _ rest => rest.EndsIn good
  | .count _ rest => rest.EndsIn good
  | .clock rest => ∀ time, (rest time).EndsIn good
  | .ask _ rest => ∀ reply, (rest reply).EndsIn good
  | .pause rest => rest.EndsIn good

variable {good : α → Prop}

/-- A step preserves the property of the values that work may end in. -/
theorem EndsIn.step {work later : Activity α} {effect : Option Effect} (h : work.EndsIn good)
    (hstep : Step work effect later) : later.EndsIn good := by
  cases hstep with
  | log | count | pause => exact h
  | clock time rest => exact h time
  | ask request reply rest => exact h reply

/-- A composition ends in values with a property if its second part does for every value of the
first part. -/
theorem EndsIn.bind {good : β → Prop} {next : α → Activity β} (work : Activity α)
    (h : ∀ value, (next value).EndsIn good) : (work >>= next).EndsIn good := by
  induction work with
  | done value => exact h value
  | log record rest ih => exact ih
  | count event rest ih => exact ih
  | clock rest ih => exact ih
  | ask request rest ih => exact ih
  | pause rest ih => exact ih

end Activity

namespace Attempt

/-- A composition of attempts ends in results with a property if errors have it and the second
attempt does for every value of the first one. -/
theorem ends_in_bind {ε α β : Type} {good : Except ε β → Prop}
    (hfailed : ∀ cause, good (.error cause)) (work : Attempt ε α) {next : α → Attempt ε β}
    (h : ∀ value, (next value).run.EndsIn good) : (work >>= next).run.EndsIn good := by
  refine Activity.EndsIn.bind work.run fun result => ?_
  cases result with
  | ok value => exact h value
  | error cause => exact hfailed cause

end Attempt

end AgentOperator
