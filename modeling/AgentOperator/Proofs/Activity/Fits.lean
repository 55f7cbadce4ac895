import AgentOperator.Proofs.Activity.Outcome

/-!
# Attempts that fit a relation

The exchanges of an attempt with an API server and its result, as a relation between the two.
`Attempt.Fits` says that an attempt satisfies such a relation when it is run from a state of a
world. There is one rule for each constructor of attempts, so that a function fits the composition
of the relations of the functions that it calls.
-/

namespace AgentOperator.Attempt

variable {α β δ ε σ : Type} (host : Host σ)

/-- The exchanges and the result of an attempt that is run from a state satisfy a relation. -/
def Fits (work : Attempt ε α) (state : σ) (relation : List Exchange → Except ε α → Prop) : Prop :=
  relation (Effect.exchanges (outcome host work state).effects) (outcome host work state).value

variable {host} {state : σ}

/-- An attempt that fits a relation fits every weaker one. -/
theorem Fits.mono {work : Attempt ε α} {relation weaker : List Exchange → Except ε α → Prop}
    (h : Fits host work state relation)
    (hweaker : ∀ exchanges result, relation exchanges result → weaker exchanges result) :
    Fits host work state weaker :=
  hweaker _ _ h

/-- The exchanges of an attempt are answers of the world. -/
theorem Fits.answered {work : Attempt ε α} {relation : List Exchange → Except ε α → Prop}
    (h : Fits host work state relation) :
    Fits host work state fun exchanges result =>
      relation exchanges result ∧ ∃ final, host.Answers state exchanges final :=
  ⟨h, _, Activity.run_answers host _ state⟩

/-- A value makes no exchange. -/
theorem fits_pure {value : α} {relation : List Exchange → Except ε α → Prop}
    (h : relation [] (.ok value)) : Fits host (pure value : Attempt ε α) state relation := by
  unfold Fits
  rw [outcome_pure]
  exact h

/-- An error makes no exchange. -/
theorem fits_throw {cause : ε} {relation : List Exchange → Except ε α → Prop}
    (h : relation [] (.error cause)) : Fits host (throw cause : Attempt ε α) state relation := by
  unfold Fits
  rw [outcome_throw]
  exact h

/-- A value or an error makes no exchange. -/
theorem fits_of_except {result : Except ε α} {relation : List Exchange → Except ε α → Prop}
    (h : relation [] result) : Fits host (ofExcept result) state relation :=
  h

/-- Writing a log record makes no exchange. -/
theorem fits_report {record : Log.Record} {relation : List Exchange → Except ε Unit → Prop}
    (h : relation [] (.ok ())) :
    Fits host (liftM (Activity.report record) : Attempt ε Unit) state relation := by
  unfold Fits
  rw [outcome_report]
  exact h

/-- Writing log records makes no exchange. -/
theorem exchanges_report_all (records : List Log.Record) :
    Effect.exchanges ((Activity.reportAll records).run host state).effects = [] := by
  induction records with
  | nil => rfl
  | cons record records ih => exact ih

/-- Work without exchanges, such as writing a record or reading the clock, followed by an
attempt. -/
theorem fits_quiet_bind {work : Activity α} {next : α → Attempt ε β}
    {relation : List Exchange → Except ε β → Prop}
    (hquiet : Effect.exchanges (work.run host state).effects = [])
    (hnext : Fits host (next (work.run host state).value) (work.run host state).state relation) :
    Fits host (liftM work >>= next) state relation := by
  unfold Fits at hnext ⊢
  rw [outcome_bind, outcome_lift]
  simpa [hquiet] using hnext

/-- A request is one exchange. -/
theorem fits_send (request : Api.Request) :
    Fits host (liftM (Activity.send request) : Attempt ε Api.Reply) state fun exchanges result =>
      ∃ reply, result = .ok reply ∧ exchanges = [(request, reply)] := by
  unfold Fits
  rw [outcome_lift]
  exact ⟨_, rfl, rfl⟩

/-- The composition of two attempts: the exchanges of both in order, unless the first one fails. -/
theorem fits_bind {work : Attempt ε α} {next : α → Attempt ε β}
    {first : List Exchange → Except ε α → Prop} {relation : List Exchange → Except ε β → Prop}
    (hwork : Fits host work state first)
    (hnext : ∀ exchanges value after, first exchanges (.ok value) →
      Fits host (next value) after fun rest result => relation (exchanges ++ rest) result)
    (hfail : ∀ exchanges cause, first exchanges (.error cause) →
      relation exchanges (.error cause)) :
    Fits host (work >>= next) state relation := by
  unfold Fits at hwork ⊢
  rw [outcome_bind]
  -- the rest depends on the first attempt by its outcome only
  generalize outcome host work state = done at hwork
  obtain ⟨value | cause, effects, after⟩ := done
  · simpa [Fits] using hfail _ _ hwork
  · simpa [Fits] using hnext _ _ after hwork

/-- An attempt whose result is inspected, followed by work that depends on it. -/
theorem fits_of_result {work : Attempt δ α} {next : Except δ α → Activity (Except ε β)}
    {first : List Exchange → Except δ α → Prop} {relation : List Exchange → Except ε β → Prop}
    (hwork : Fits host work state first)
    (hnext : ∀ exchanges result after, first exchanges result →
      Fits host (ofResult (next result)) after fun rest result =>
        relation (exchanges ++ rest) result) :
    Fits host (ofResult (work.run >>= next)) state relation := by
  have hnext := hnext _ _ (outcome host work state).state hwork
  unfold Fits at hnext ⊢
  show relation (Effect.exchanges (Activity.run host (work.run >>= next) state).effects)
    (Activity.run host (work.run >>= next) state).value
  rw [Activity.run_bind, Effect.exchanges_append]
  exact hnext

/-- An attempt whose result is taken for a value. -/
theorem fits_lift_run {work : Attempt δ α} {first : List Exchange → Except δ α → Prop}
    (hwork : Fits host work state first) :
    Fits host (liftM work.run : Attempt ε (Except δ α)) state fun exchanges result =>
      ∃ value, result = .ok value ∧ first exchanges value := by
  unfold Fits
  rw [outcome_lift]
  exact ⟨_, rfl, hwork⟩

/-- A reading of the clock, followed by work that depends on the time. -/
theorem fits_clock {next : Instant → Activity (Except ε α)}
    {relation : List Exchange → Except ε α → Prop}
    (h : Fits host (ofResult (next (host.now state))) state relation) :
    Fits host (ofResult (Activity.readClock >>= next)) state relation :=
  h

/-- An event that is counted, followed by other work. -/
theorem fits_tally {event : Metrics.Event} {next : Unit → Activity (Except ε α)}
    {relation : List Exchange → Except ε α → Prop}
    (h : Fits host (ofResult (next ())) state relation) :
    Fits host (ofResult (Activity.tally event >>= next)) state relation :=
  h

/-- An attempt whose errors are mapped, followed by another one. -/
theorem fits_adapt_bind {work : Attempt δ α} {rename : δ → ε} {next : α → Attempt ε β}
    {first : List Exchange → Except δ α → Prop} {relation : List Exchange → Except ε β → Prop}
    (hwork : Fits host work state first)
    (hnext : ∀ exchanges value after, first exchanges (.ok value) →
      Fits host (next value) after fun rest result => relation (exchanges ++ rest) result)
    (hfail : ∀ exchanges cause, first exchanges (.error cause) →
      relation exchanges (.error (rename cause))) :
    Fits host (ExceptT.adapt rename work >>= next) state relation := by
  -- mapping the error does not change the effects
  have hadapt : outcome host (ExceptT.adapt rename work) state =
      { outcome host work state with
        value := (outcome host work state).value.mapError rename } := by
    show Activity.run host (work.run >>= fun result => Activity.done (result.mapError rename)) state
      = _
    rw [Activity.run_bind]
    simp only [Activity.run, List.append_nil]
    rfl
  unfold Fits at hwork ⊢
  rw [outcome_bind, hadapt]
  generalize outcome host work state = done at hwork
  obtain ⟨value | cause, effects, after⟩ := done
  · exact hfail _ _ hwork
  · show relation (Effect.exchanges (effects ++ _)) _
    rw [Effect.exchanges_append]
    exact hnext _ _ after hwork

end AgentOperator.Attempt
