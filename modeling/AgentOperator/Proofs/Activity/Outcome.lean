import AgentOperator.Activity

/-!
# Outcomes of attempts

The outcome of an attempt in a world: a value or an error, its effects, and the final state of the
world. `Attempt.outcome_bind` takes a composition apart, and the other `Attempt.outcome` equations
evaluate its parts, so that proofs do not unfold the tree of an activity. Of the effects,
`Effect.exchanges` keeps the requests with their replies, and `Effect.events` the counted events.
`Host.Answers` follows the state of the world from one exchange to the next.
-/

namespace AgentOperator

variable {α β ε σ : Type}

/-- An outcome with some effects in front of its effects. -/
def Outcome.afterAll (effects : List Effect) (outcome : Outcome σ α) : Outcome σ α :=
  { outcome with effects := effects ++ outcome.effects }

namespace Outcome

@[simp] theorem after_all_value (effects : List Effect) (outcome : Outcome σ α) :
    (outcome.afterAll effects).value = outcome.value := rfl

@[simp] theorem after_all_effects (effects : List Effect) (outcome : Outcome σ α) :
    (outcome.afterAll effects).effects = effects ++ outcome.effects := rfl

@[simp] theorem after_all_state (effects : List Effect) (outcome : Outcome σ α) :
    (outcome.afterAll effects).state = outcome.state := rfl

/-- Two lists of effects in front of an outcome are their concatenation in front of it. -/
theorem after_all_after_all (first second : List Effect) (outcome : Outcome σ α) :
    (outcome.afterAll second).afterAll first = outcome.afterAll (first ++ second) := by
  simp [afterAll]

/-- No effects in front of an outcome leave it unchanged. -/
@[simp] theorem after_all_nil (outcome : Outcome σ α) : outcome.afterAll [] = outcome := rfl

end Outcome

namespace Attempt

/-- The outcome of an attempt in a world. -/
def outcome (host : Host σ) (work : Attempt ε α) (state : σ) : Outcome σ (Except ε α) :=
  Activity.run host (ExceptT.run work) state

variable (host : Host σ)

theorem outcome_pure (value : α) (state : σ) :
    outcome host (pure value : Attempt ε α) state = ⟨.ok value, [], state⟩ := rfl

theorem outcome_throw (cause : ε) (state : σ) :
    outcome host (throw cause : Attempt ε α) state = ⟨.error cause, [], state⟩ := rfl

/-- Work that cannot fail ends in its value. -/
theorem outcome_lift (work : Activity α) (state : σ) :
    outcome host (liftM work : Attempt ε α) state =
      { value := .ok (work.run host state).value
        effects := (work.run host state).effects
        state := (work.run host state).state } := by
  change Activity.run host (work >>= fun value => Activity.done (Except.ok value)) state = _
  rw [Activity.run_bind]
  simp [Activity.run]

/-- The only effect of writing a record is that record. -/
theorem outcome_report (record : Log.Record) (state : σ) :
    outcome host (liftM (Activity.report record) : Attempt ε Unit) state =
      ⟨.ok (), [.logged record], state⟩ := rfl

/-- The only effect of counting an event is that event. -/
theorem outcome_tally (event : Metrics.Event) (state : σ) :
    outcome host (liftM (Activity.tally event) : Attempt ε Unit) state =
      ⟨.ok (), [.counted event], state⟩ := rfl

/-- The outcome of a composition: that of the second attempt in the state that the first one left,
or that of the first one if it fails. -/
theorem outcome_bind (work : Attempt ε α) (next : α → Attempt ε β) (state : σ) :
    outcome host (work >>= next) state =
      match outcome host work state with
      | ⟨.ok value, effects, after⟩ => (outcome host (next value) after).afterAll effects
      | ⟨.error cause, effects, after⟩ => ⟨.error cause, effects, after⟩ := by
  simp only [outcome, ExceptT.run_bind, Activity.run_bind]
  rcases Activity.run host (ExceptT.run work) state with ⟨value | cause, effects, after⟩
  · simp [Activity.run]
  · rfl

end Attempt

/-- A request together with the reply to it. -/
abbrev Exchange : Type := Api.Request × Api.Reply

namespace Effect

/-- The requests among some effects, each with its reply. -/
def exchanges (effects : List Effect) : List Exchange :=
  effects.filterMap fun
    | asked request reply => some (request, reply)
    | _ => none

@[simp] theorem exchanges_nil : exchanges [] = [] := rfl

@[simp] theorem exchanges_append (first second : List Effect) :
    exchanges (first ++ second) = exchanges first ++ exchanges second :=
  List.filterMap_append

@[simp] theorem exchanges_logged (record : Log.Record) (effects : List Effect) :
    exchanges (logged record :: effects) = exchanges effects := rfl

@[simp] theorem exchanges_counted (event : Metrics.Event) (effects : List Effect) :
    exchanges (counted event :: effects) = exchanges effects := rfl

@[simp] theorem exchanges_asked (request : Api.Request) (reply : Api.Reply)
    (effects : List Effect) :
    exchanges (asked request reply :: effects) = (request, reply) :: exchanges effects := rfl

/-- The requests among some effects are those of its exchanges. -/
theorem requests_eq (effects : List Effect) :
    requests effects = (exchanges effects).map Prod.fst := by
  induction effects with
  | nil => rfl
  | cons effect rest ih =>
      cases effect <;> simpa [requests] using ih

@[simp] theorem events_nil : events [] = [] := rfl

@[simp] theorem events_append (first second : List Effect) :
    events (first ++ second) = events first ++ events second :=
  List.filterMap_append

@[simp] theorem events_logged (record : Log.Record) (effects : List Effect) :
    events (logged record :: effects) = events effects := rfl

@[simp] theorem events_counted (event : Metrics.Event) (effects : List Effect) :
    events (counted event :: effects) = event :: events effects := rfl

end Effect

/-- The times that the clock of a world shows. -/
def Host.Shows (host : Host σ) (now : Instant) : Prop := ∃ moment, host.now moment = now

/-- `host.Answers state exchanges final`: the world makes the exchanges one after another, from
`state` up to `final`. -/
inductive Host.Answers (host : Host σ) : σ → List Exchange → σ → Prop where
  | nil (state : σ) : host.Answers state [] state
  | cons (request : Api.Request) {state final : σ} {exchanges : List Exchange}
      (h : host.Answers (host.serve request state).2 exchanges final) :
      host.Answers state ((request, (host.serve request state).1) :: exchanges) final

namespace Host

variable {host : Host σ} {state final : σ}

/-- Without exchanges the state of the world is unchanged. -/
theorem answers_nil_iff : host.Answers state [] final ↔ final = state := by
  constructor
  · intro h
    cases h
    rfl
  · intro heq
    subst heq
    exact .nil final

/-- The answers to a first exchange and to the remaining ones. -/
theorem answers_cons_iff {request : Api.Request} {reply : Api.Reply} {exchanges : List Exchange} :
    host.Answers state ((request, reply) :: exchanges) final ↔
      reply = (host.serve request state).1 ∧
        host.Answers (host.serve request state).2 exchanges final := by
  constructor
  · intro h
    cases h with
    | cons request h => exact ⟨rfl, h⟩
  · intro h
    rcases h with ⟨rfl, h⟩
    exact .cons request h

/-- The answer to a single exchange. -/
theorem answers_singleton_iff {request : Api.Request} {reply : Api.Reply} :
    host.Answers state [(request, reply)] final ↔
      reply = (host.serve request state).1 ∧ final = (host.serve request state).2 := by
  rw [answers_cons_iff, answers_nil_iff]

/-- The answers to a concatenation: those to the second list begin in the state in which those to
the first one end. -/
theorem answers_append_iff {first second : List Exchange} :
    host.Answers state (first ++ second) final ↔
      ∃ between, host.Answers state first between ∧ host.Answers between second final := by
  induction first generalizing state with
  | nil => simp [answers_nil_iff]
  | cons exchange first ih =>
      obtain ⟨request, reply⟩ := exchange
      simp only [List.cons_append, answers_cons_iff, ih]
      constructor
      · intro h
        rcases h with ⟨hreply, between, hfirst, hsecond⟩
        exact ⟨between, ⟨hreply, hfirst⟩, hsecond⟩
      · intro h
        rcases h with ⟨between, ⟨hreply, hfirst⟩, hsecond⟩
        exact ⟨hreply, between, hfirst, hsecond⟩

end Host

/-- The exchanges of a run are answers of the world, from the initial state of the run up to its
final state. -/
theorem Activity.run_answers (host : Host σ) (work : Activity α) (state : σ) :
    host.Answers state (Effect.exchanges (work.run host state).effects)
      (work.run host state).state := by
  induction work generalizing state with
  | done value => exact .nil state
  | log record rest ih => exact ih state
  | count event rest ih => exact ih state
  | clock rest ih => exact ih _ state
  | ask request rest ih => exact .cons request (ih _ _)
  | pause rest ih => exact ih state

end AgentOperator
