import AgentOperator.Proofs.Pipeline.Visits
import AgentOperator.Reconcile.Shared

/-!
# The shared pipeline

Any number of operations act on one task list behind a fair readers-writer lock, in small steps and
in any order. `Sharing.Step` is the transition relation: operations are admitted in the order of
their arrival, those that read the list together and those that replace it alone. No transition
gives a visit the list as it was when the visit began: a run looks up its next task in the current
one.
-/

namespace AgentOperator.Sharing

variable {π : Type}

/-- The task list in force after some operations: the last one that was to be installed, or the
initial one. -/
def inForce (initial : List (Task π)) (calls : List (Errand π)) : List (Task π) :=
  (calls.filterMap Errand.replacement?).getLastD initial

section InForce

variable {initial : List (Task π)}

/-- One operation more replaces the list in force, or leaves it unchanged. -/
theorem in_force_append (calls : List (Errand π)) (errand : Errand π) :
    inForce initial (calls ++ [errand]) = errand.replacement?.getD (inForce initial calls) := by
  unfold inForce
  rw [List.filterMap_append]
  cases hbrings : errand.replacement? with
  | none => simp [hbrings]
  | some new => simp [hbrings]

/-- Operations that do not replace the list leave the list in force unchanged. -/
theorem in_force_append_of_readers (calls : List (Errand π)) {others : List (Errand π)}
    (h : ∀ errand ∈ others, errand.replacement? = none) :
    inForce initial (calls ++ others) = inForce initial calls := by
  unfold inForce
  rw [List.filterMap_append, List.filterMap_eq_nil_iff.2 h, List.append_nil]

/-- Behind an operation that replaces the list, the list in force is that of this operation or of a
later one. -/
theorem exists_in_force_take {calls : List (Errand π)} {m n : Nat} {brought : List (Task π)}
    (hm : calls[m]? = some (.replace brought)) (hmn : m < n) :
    ∃ k new, m ≤ k ∧ k < n ∧ calls[k]? = some (.replace new) ∧
      inForce initial (calls.take n) = new := by
  induction n with
  | zero => cases hmn
  | succ n ih =>
      rw [List.take_add_one]
      rcases Nat.lt_succ_iff_lt_or_eq.1 hmn with hbefore | rfl
      · obtain ⟨k, new, hmk, hkn, hk, hnew⟩ := ih hbefore
        cases hcall : calls[n]? with
        | none => exact ⟨k, new, hmk, by omega, hk, by simpa using hnew⟩
        | some errand =>
            rw [Option.toList_some, in_force_append]
            cases errand with
            | replace later => exact ⟨n, later, by omega, Nat.lt_succ_self n, hcall, rfl⟩
            | run | names => exact ⟨k, new, hmk, by omega, hk, hnew⟩
      · rw [hm, Option.toList_some, in_force_append]
        exact ⟨m, brought, Nat.le_refl m, Nat.lt_succ_self m, hm, rfl⟩

end InForce

/-- The lock admits an operation next to the visits: none of them holds it, or neither they nor the
operation replace the list. -/
def Admits (visits : List (Visit π)) (errand : Errand π) : Prop :=
  ∀ visit ∈ visits, visit.isInside = true →
    visit.errand.replacement? = none ∧ errand.replacement? = none

/-- An operation as the lock sees it: a reader, or a writer with its list. -/
def Errand.waiter (id : Nat) : Errand π → Waiter (List (Task π))
  | replace tasks => .replacement tasks
  | run _ | names => .reader id

/-- A state of the pipeline: its task list, the admitted operations in the order of their admission,
those that wait in the order of their arrival, all that have arrived, the lists that were installed,
both in that order, and the queue of the lock. -/
structure State (π : Type) where
  tasks : List (Task π)
  visits : List (Visit π) := []
  waiting : List (Errand π) := []
  came : List (Errand π) := []
  installed : List (List (Task π)) := []
  account : Shared (List (Task π))

/-- The initial state of a pipeline, to which no operation has come. -/
def State.start (initial : List (Task π)) : State π :=
  { tasks := initial, account := { value := initial } }

/-- A transition of the pipeline: an operation arrives, the first waiting one is admitted, or
admitted operation number `i` makes a step. -/
inductive Move (π : Type) where
  | come (errand : Errand π)
  | enter
  | act (i : Nat)

/-- The transitions of the pipeline. An operation that arrives waits; the first one that waits is
admitted if the lock admits it; an admitted one makes a step on the task list, installs its list, or
releases the lock. -/
inductive Step : State π → Move π → State π → Prop
  | come (s : State π) (errand : Errand π) :
      Step s (.come errand)
        { s with
          waiting := s.waiting ++ [errand]
          came := s.came ++ [errand]
          account := s.account.arrive (errand.waiter s.came.length) }
  | enter {s : State π} {errand : Errand π} {rest : List (Errand π)}
      (hfirst : s.waiting = errand :: rest) (hadmits : Admits s.visits errand) :
      Step s .enter { s with visits := s.visits ++ [errand.arrival], waiting := rest }
  | act {s : State π} {i : Nat} {visit later : Visit π} (hvisit : s.visits[i]? = some visit)
      (hstep : Visit.Step s.tasks visit later) :
      Step s (.act i) { s with visits := s.visits.set i later }
  | write {s : State π} {i : Nat} {new started : List (Task π)} {effects : List Effect}
      (hvisit : s.visits[i]? = some ⟨.replace new, started, effects, .writing⟩) :
      Step s (.act i)
        { s with
          tasks := new
          visits := s.visits.set i ⟨.replace new, started, effects, .closing .replaced⟩
          installed := s.installed ++ [new] }
  | leave {s : State π} {i : Nat} {visit : Visit π} {answer : Answer}
      (hvisit : s.visits[i]? = some visit) (hclosing : visit.stage = .closing answer) :
      Step s (.act i)
        { s with
          visits := s.visits.set i { visit with stage := .gone answer }
          account :=
            match visit.errand with
            | .replace _ => s.account
            | .run _ | .names => s.account.leave i }

/-- The transitions of the pipeline one after another. -/
inductive Steps : State π → List (Move π) → State π → Prop
  | refl (s : State π) : Steps s [] s
  | snoc {s between later : State π} {moves : List (Move π)} {move : Move π}
      (hsteps : Steps s moves between) (hstep : Step between move later) :
      Steps s (moves ++ [move]) later

/-- A state is reachable from the initial state of a task list. -/
def Reaches (initial : List (Task π)) (s : State π) : Prop :=
  ∃ moves, Steps (State.start initial) moves s

end AgentOperator.Sharing
