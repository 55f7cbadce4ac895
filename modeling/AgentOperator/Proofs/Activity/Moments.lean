import AgentOperator.Proofs.Activity.Outcome

/-!
# Moments

The states of a world around the requests of some work. An `Exchange` is a request as the work
observes it; a `Moment` also has the states of the world, so that properties can be stated of the
objects of a world after every single request, and of what two requests in a row meet.
-/

namespace AgentOperator

variable {σ : Type}

/-- A request that is served in the course of some work: the state in which the work began, and the
states before and after the request. -/
structure Moment (σ : Type) where
  start : σ
  request : Api.Request
  before : σ
  after : σ

namespace Host

variable (host : Host σ)

/-- The moments of some exchanges that take place from a state on, in the course of some work. -/
def moments (start : σ) : σ → List Exchange → List (Moment σ)
  | _, [] => []
  | state, exchange :: rest =>
    let after := (host.serve exchange.1 state).2
    ⟨start, exchange.1, state, after⟩ :: moments start after rest

variable {host} {start state final : σ}

/-- The moments of a concatenation of exchanges: those of the second list begin in the state in
which the first one ends. -/
theorem moments_append {first second : List Exchange} {between : σ}
    (h : host.Answers state first between) :
    host.moments start state (first ++ second) =
      host.moments start state first ++ host.moments start between second := by
  induction h with
  | nil state => rfl
  | cons request h ih => exact congrArg (List.cons _) ih

/-- A moment of some exchanges is about one of their requests, and the world serves it. -/
theorem of_mem_moments {exchanges : List Exchange} {moment : Moment σ}
    (h : moment ∈ host.moments start state exchanges) :
    moment.start = start ∧ (∃ exchange ∈ exchanges, moment.request = exchange.1) ∧
      moment.after = (host.serve moment.request moment.before).2 := by
  induction exchanges generalizing state with
  | nil => cases h
  | cons exchange rest ih =>
      rcases List.mem_cons.1 h with rfl | h
      · exact ⟨rfl, ⟨exchange, List.mem_cons_self, rfl⟩, rfl⟩
      · obtain ⟨hstart, ⟨other, hother, hrequest⟩, hafter⟩ := ih h
        exact ⟨hstart, ⟨other, List.mem_cons_of_mem _ hother, hrequest⟩, hafter⟩

/-- A moment of some exchanges belongs to one of them, whose predecessors lead up to it. -/
theorem split_of_moments {exchanges : List Exchange} {earlier later : List (Moment σ)}
    {moment : Moment σ} (hanswers : host.Answers state exchanges final)
    (h : host.moments start state exchanges = earlier ++ moment :: later) :
    ∃ first exchange rest, exchanges = first ++ exchange :: rest ∧
      host.Answers state first moment.before ∧ host.moments start state first = earlier ∧
      moment.request = exchange.1 := by
  induction hanswers generalizing earlier with
  | nil state =>
      cases earlier <;> cases h
  | @cons request state final exchanges hanswers ih =>
      cases earlier with
      | nil =>
          obtain ⟨rfl, -⟩ := List.cons.inj h
          exact ⟨[], _, exchanges, rfl, .nil _, rfl, rfl⟩
      | cons other earlier =>
          obtain ⟨rfl, hothers⟩ := List.cons.inj h
          obtain ⟨first, exchange, rest, rfl, hfirst, rfl, hrequest⟩ := ih hothers
          exact ⟨_ :: first, exchange, rest, rfl, .cons request hfirst, rfl, hrequest⟩

end Host

end AgentOperator
