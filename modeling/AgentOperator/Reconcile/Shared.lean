/-!
# Shared values

A value behind a fair readers-writer lock, such as the task list that all passes run. Readers and
writers are admitted in the order of their arrival: a reader is admitted at once unless another one
waits, and a writer waits until no reader holds the lock. So a reader sees one value for as long as
it holds the lock, and one that arrives after a writer sees the value of that writer or of a later
one.
-/

namespace AgentOperator

variable {τ : Type}

/-- One that waits for a shared value: a reader, or a writer with the value that replaces it. -/
inductive Waiter (τ : Type) where
  | reader (id : Nat)
  | replacement (value : τ)

/-- A value that is shared by readers: the readers that hold it, each with the value that it was
admitted to, and those that wait, in the order of their arrival. -/
structure Shared (τ : Type) where
  value : τ
  readers : List (Nat × τ) := []
  waiting : List (Waiter τ) := []

namespace Shared

/-- The state of the lock after the waiting readers and writers were admitted in order, up to a
writer that has to wait for readers. -/
def letIn (value : τ) (readers : List (Nat × τ)) : List (Waiter τ) → Shared τ
  | [] => { value := value, readers := readers }
  | .reader id :: rest => letIn value (readers ++ [(id, value)]) rest
  | .replacement new :: rest =>
    if readers.isEmpty then letIn new [] rest
    else { value := value, readers := readers, waiting := .replacement new :: rest }

/-- The arrival of a reader or a writer. -/
def arrive (shared : Shared τ) (waiter : Waiter τ) : Shared τ :=
  letIn shared.value shared.readers (shared.waiting ++ [waiter])

/-- The arrival of a reader. -/
def enter (shared : Shared τ) (id : Nat) : Shared τ := shared.arrive (.reader id)

/-- The arrival of a writer with a new value. -/
def replace (shared : Shared τ) (value : τ) : Shared τ := shared.arrive (.replacement value)

/-- The release of the lock by a reader. -/
def leave (shared : Shared τ) (id : Nat) : Shared τ :=
  letIn shared.value (shared.readers.filter (·.1 ≠ id)) shared.waiting

/-- The value that a reader was admitted to, if it holds the lock. -/
def seenBy? (shared : Shared τ) (id : Nat) : Option τ := shared.readers.lookup id

/-- Whether a reader or a writer waits. -/
def isContended (shared : Shared τ) : Bool := !shared.waiting.isEmpty

end Shared

end AgentOperator
