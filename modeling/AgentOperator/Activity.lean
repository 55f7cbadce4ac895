import AgentOperator.Api.Reply
import AgentOperator.Api.Request
import AgentOperator.Log
import AgentOperator.Metrics
import AgentOperator.Time.Instant

/-!
# Activities

Work that interacts with the world: it writes log records, counts events, reads the clock, sends
requests to an API server and waits. An `Activity` is the interaction tree of such work; the
subtrees behind a reading of the clock and behind a request are indexed by the time and by the
reply. The tree is independent of any world, and `run` interprets it in a `Host`.
-/

namespace AgentOperator

/-- Work that ends in a value of type `α`, as an interaction tree: its nodes write a log record,
count an event, read the clock, send a request to an API server, or pause. -/
inductive Activity (α : Type) : Type where
  | done (value : α)
  | log (record : Log.Record) (rest : Activity α)
  | count (event : Metrics.Event) (rest : Activity α)
  | clock (rest : Instant → Activity α)
  | ask (request : Api.Request) (rest : Api.Reply → Activity α)
  | pause (rest : Activity α)

namespace Activity

variable {α β γ σ : Type}

/-- Sequential composition of work. -/
def bind (work : Activity α) (next : α → Activity β) : Activity β :=
  match work with
  | done value => next value
  | log record rest => log record (rest.bind next)
  | count event rest => count event (rest.bind next)
  | clock rest => clock fun time => (rest time).bind next
  | ask request rest => ask request fun reply => (rest reply).bind next
  | pause rest => pause (rest.bind next)

instance : Monad Activity where
  pure := done
  bind := bind

@[simp] theorem pure_eq_done (value : α) : (Pure.pure value : Activity α) = done value := rfl

@[simp] theorem done_bind (value : α) (next : α → Activity β) :
    (done value >>= next) = next value := rfl

@[simp] theorem log_bind (record : Log.Record) (rest : Activity α) (next : α → Activity β) :
    (log record rest >>= next) = log record (rest >>= next) := rfl

@[simp] theorem count_bind (event : Metrics.Event) (rest : Activity α) (next : α → Activity β) :
    (count event rest >>= next) = count event (rest >>= next) := rfl

@[simp] theorem clock_bind (rest : Instant → Activity α) (next : α → Activity β) :
    (clock rest >>= next) = clock fun time => rest time >>= next := rfl

@[simp] theorem ask_bind (request : Api.Request) (rest : Api.Reply → Activity α)
    (next : α → Activity β) :
    (ask request rest >>= next) = ask request fun reply => rest reply >>= next := rfl

@[simp] theorem pause_bind (rest : Activity α) (next : α → Activity β) :
    (pause rest >>= next) = pause (rest >>= next) := rfl

/-- `done` is a right unit of `bind`. -/
theorem bind_done (work : Activity α) : (work >>= done) = work := by
  induction work with
  | done value => rfl
  | log record rest ih => exact congrArg (log record) ih
  | count event rest ih => exact congrArg (count event) ih
  | clock rest ih => exact congrArg clock (funext ih)
  | ask request rest ih => exact congrArg (ask request) (funext ih)
  | pause rest ih => exact congrArg pause ih

/-- `bind` is associative. -/
theorem bind_bind (work : Activity α) (next : α → Activity β) (last : β → Activity γ) :
    (work >>= next >>= last) = (work >>= fun value => next value >>= last) := by
  induction work with
  | done value => rfl
  | log record rest ih => exact congrArg (log record) ih
  | count event rest ih => exact congrArg (count event) ih
  | clock rest ih => exact congrArg clock (funext ih)
  | ask request rest ih => exact congrArg (ask request) (funext ih)
  | pause rest ih => exact congrArg pause ih

instance : LawfulMonad Activity :=
  LawfulMonad.mk' Activity bind_done (fun _ _ => rfl) bind_bind

/-- Writes a log record. -/
def report (record : Log.Record) : Activity Unit := log record (done ())

/-- Counts an event. -/
def tally (event : Metrics.Event) : Activity Unit := count event (done ())

/-- Reads the clock. -/
def readClock : Activity Instant := clock done

/-- Sends a request to an API server. -/
def send (request : Api.Request) : Activity Api.Reply := ask request done

/-- Pauses once. -/
def wait : Activity Unit := pause (done ())

/-- Writes some log records. -/
def reportAll : List Log.Record → Activity Unit
  | [] => done ()
  | record :: records => log record (reportAll records)

end Activity

/-- Work that may end in an error of type `ε` instead. -/
abbrev Attempt (ε α : Type) : Type := ExceptT ε Activity α

namespace Attempt

variable {ε α : Type}

/-- Work that ends in a value or an error, as an attempt. -/
def ofResult (work : Activity (Except ε α)) : Attempt ε α := work

/-- A value or an error, as an attempt without effects. -/
def ofExcept (result : Except ε α) : Attempt ε α := ofResult (Activity.done result)

end Attempt

/-- A world in which work is done; `σ` is its state. It serves requests, and it has a clock. -/
structure Host (σ : Type) where
  serve : Api.Request → σ → Api.Reply × σ
  now : σ → Instant

/-- An observable effect of some work: a log record, a counted event, or a request with the reply to
it. -/
inductive Effect where
  | logged (record : Log.Record)
  | counted (event : Metrics.Event)
  | asked (request : Api.Request) (reply : Api.Reply)

namespace Effect

/-- The log records among some effects. -/
def logs (effects : List Effect) : List Log.Record :=
  effects.filterMap fun
    | logged record => some record
    | _ => none

/-- The counted events among some effects. -/
def events (effects : List Effect) : List Metrics.Event :=
  effects.filterMap fun
    | counted event => some event
    | _ => none

/-- The requests among some effects. -/
def requests (effects : List Effect) : List Api.Request :=
  effects.filterMap fun
    | asked request _ => some request
    | _ => none

end Effect

/-- The outcome of some work: the value that it ends in, its effects in order, and the state of the
world afterwards. -/
structure Outcome (σ α : Type) where
  value : α
  effects : List Effect
  state : σ

/-- An outcome with one effect in front of its effects. -/
def Outcome.after {σ α : Type} (effect : Effect) (outcome : Outcome σ α) : Outcome σ α :=
  { outcome with effects := effect :: outcome.effects }

/-- How far some work has been run: to its end, or up to a pause. -/
inductive Progress (α : Type) where
  | finished (value : α)
  | waiting (rest : Activity α)

namespace Activity

variable {α σ : Type}

/-- Runs work up to its end or its first pause. -/
def advance (host : Host σ) : Activity α → σ → Outcome σ (Progress α)
  | done value, state => { value := .finished value, effects := [], state := state }
  | log record rest, state => (advance host rest state).after (.logged record)
  | count event rest, state => (advance host rest state).after (.counted event)
  | clock rest, state => advance host (rest (host.now state)) state
  | ask request rest, state =>
    let (reply, state) := host.serve request state
    (advance host (rest reply) state).after (.asked request reply)
  | pause rest, state => { value := .waiting rest, effects := [], state := state }

/-- Runs work to its end in a world, where a pause takes no time. -/
def run (host : Host σ) : Activity α → σ → Outcome σ α
  | done value, state => { value := value, effects := [], state := state }
  | log record rest, state => (run host rest state).after (.logged record)
  | count event rest, state => (run host rest state).after (.counted event)
  | clock rest, state => run host (rest (host.now state)) state
  | ask request rest, state =>
    let (reply, state) := host.serve request state
    (run host (rest reply) state).after (.asked request reply)
  | pause rest, state => run host rest state

/-- The outcome of a sequential composition: the effects of both parts in order. -/
theorem run_bind {β : Type} (host : Host σ) (work : Activity α) (next : α → Activity β)
    (state : σ) :
    (work >>= next).run host state =
      let first := work.run host state
      let second := (next first.value).run host first.state
      { second with effects := first.effects ++ second.effects } := by
  induction work generalizing state with
  | done value => rfl
  | log record rest ih => simp [run, ih, Outcome.after]
  | count event rest ih => simp [run, ih, Outcome.after]
  | clock rest ih => simp [run, ih]
  | ask request rest ih => simp [run, ih, Outcome.after]
  | pause rest ih => simp [run, ih]

end Activity

end AgentOperator
