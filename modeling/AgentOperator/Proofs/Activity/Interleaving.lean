import AgentOperator.Proofs.Activity.Steps
import AgentOperator.Proofs.Entries.Unordered
import Mathlib.Data.List.Perm.Basic
import Mathlib.Logic.Function.Basic

/-!
# Two works in one world

The interleaving semantics of two works in one world, which share the state of a server and the
counters. In each turn one of them makes one step (`Underway.goOn`), which is an `Activity.Step`
with the reply of the server and the time of the turn. `Scene.play` takes a list of turns, in any
order. Work that has all turns reaches the outcome of `Activity.run`: a step preserves its outcome
(`Underway.outcome_go_on`), and it is finished after enough steps (`Scene.finishes`). The counters
are the initial ones and the events of both works, in whatever order they were counted
(`Scene.Counted`).
-/

namespace AgentOperator

namespace Metrics.Counters

/-- Counting two samples commutes. -/
theorem increment_comm (counters : Counters) (sample other : String) :
    (counters.increment sample).increment other =
      (counters.increment other).increment sample := by
  by_cases h : sample = other
  · rw [h]
  · unfold increment count
    rw [Dict.get?_insert, Dict.get?_insert, if_neg (Ne.symm h), if_neg h, Dict.insert_comm _ h]

instance : RightCommutative increment := ⟨increment_comm⟩

/-- Counting two events commutes. -/
theorem add_comm (counters : Counters) (event other : Event) :
    (counters.add event).add other = (counters.add other).add event := by
  unfold add
  rw [← List.foldl_append, ← List.foldl_append]
  exact List.perm_append_comm.foldl_eq counters

instance : RightCommutative add := ⟨add_comm⟩

/-- Counts some events. -/
def addAll (counters : Counters) (events : List Event) : Counters := events.foldl add counters

/-- The counters do not depend on the order of the events. -/
theorem add_all_perm {events others : List Event} (h : events.Perm others) (counters : Counters) :
    counters.addAll events = counters.addAll others :=
  h.foldl_eq counters

/-- Counting two lists of events counts their concatenation. -/
theorem add_all_add_all (counters : Counters) (events later : List Event) :
    (counters.addAll events).addAll later = counters.addAll (events ++ later) :=
  List.foldl_append.symm

end Metrics.Counters

variable {σ α : Type}

/-- What the works of a world share: the state of the server, and the counters. -/
@[ext]
structure World (σ : Type) where
  state : σ
  counters : Metrics.Counters

/-- Work that is under way: the rest of the work, and the effects so far. -/
structure Underway (α : Type) where
  rest : Activity α
  seen : List Effect

/-- The host with a server whose clock always shows one time. -/
def Host.at (serve : Api.Request → σ → Api.Reply × σ) (now : Instant) : Host σ where
  serve := serve
  now _ := now

namespace Underway

/-- Work before its first step. -/
def begin (work : Activity α) : Underway α := ⟨work, []⟩

/-- Work that has ended. -/
def ended (outcome : Outcome σ α) : Underway α := ⟨.done outcome.value, outcome.effects⟩

/-- The rest of the work is its value. -/
def IsFinished (work : Underway α) : Prop := ∃ value, work.rest = .done value

variable (serve : Api.Request → σ → Api.Reply × σ) (time : Instant)

/-- One step of work in a world with a server, while the clock shows a time. -/
def goOn (work : Underway α) (world : World σ) : Underway α × World σ :=
  match work.rest with
  | .done _ => (work, world)
  | .log record rest => (⟨rest, work.seen ++ [.logged record]⟩, world)
  | .count event rest =>
    (⟨rest, work.seen ++ [.counted event]⟩,
      { world with counters := world.counters.add event })
  | .clock rest => (⟨rest time, work.seen⟩, world)
  | .ask request rest =>
    let (reply, state) := serve request world.state
    (⟨rest reply, work.seen ++ [.asked request reply]⟩, { world with state := state })
  | .pause rest => (⟨rest, work.seen⟩, world)

/-- Work that is not finished makes a step; the effect of the step is added to its effects and
counted. -/
theorem go_on_step (work : Underway α) (world : World σ) :
    ∃ effect : Option Effect,
      (work.IsFinished ∨ Activity.Step work.rest effect (goOn serve time work world).1.rest) ∧
      (goOn serve time work world).1.seen = work.seen ++ effect.toList ∧
      (goOn serve time work world).2.counters =
        world.counters.addAll (Effect.events effect.toList) := by
  obtain ⟨rest, seen⟩ := work
  have hseen : seen = seen ++ (none : Option Effect).toList := (List.append_nil seen).symm
  cases rest with
  | done value => exact ⟨none, .inl ⟨value, rfl⟩, hseen, rfl⟩
  | log record rest => exact ⟨some _, .inr (.log record rest), rfl, rfl⟩
  | count event rest => exact ⟨some _, .inr (.count event rest), rfl, rfl⟩
  | clock rest => exact ⟨none, .inr (.clock time rest), hseen, rfl⟩
  | ask request rest => exact ⟨some _, .inr (.ask request _ rest), rfl, rfl⟩
  | pause rest => exact ⟨none, .inr (.pause rest), hseen, rfl⟩

variable {serve time} {work : Underway α} {world : World σ}

/-- Finished work makes no step. -/
theorem IsFinished.go_on_eq (h : work.IsFinished) : goOn serve time work world = (work, world) := by
  obtain ⟨value, hdone⟩ := h
  unfold goOn
  rw [hdone]

/-- What work comes to that is carried out from here on without interruption. -/
def outcome (host : Host σ) (work : Underway α) (state : σ) : Outcome σ α :=
  (work.rest.run host state).afterAll work.seen

/-- A step preserves the outcome of the work. -/
theorem outcome_go_on (work : Underway α) (world : World σ) :
    (goOn serve time work world).1.outcome (.at serve time) (goOn serve time work world).2.state =
      work.outcome (.at serve time) world.state := by
  obtain ⟨rest, seen⟩ := work
  cases rest with
  | done | clock | pause => rfl
  | log | count | ask =>
      simp [goOn, outcome, Activity.run, Outcome.after, Outcome.afterAll, Host.at]

/-- Finished work has its outcome. -/
theorem IsFinished.eq_ended (h : work.IsFinished) (host : Host σ) (state : σ) :
    work = ended (work.outcome host state) ∧ (work.outcome host state).state = state := by
  obtain ⟨rest, seen⟩ := work
  obtain ⟨value, rfl⟩ := h
  refine ⟨?_, rfl⟩
  simp [ended, outcome, Activity.run]

end Underway

/-- One of two works. -/
inductive Side where
  | left
  | right
deriving DecidableEq, Repr

/-- The other one of two works. -/
def Side.other : Side → Side
  | left => right
  | right => left

/-- The other work is a different one. -/
theorem Side.ne_other (side : Side) : side ≠ side.other := by
  cases side <;> nofun

/-- A work that is not the one is the other. -/
theorem Side.eq_other_of_ne {side first : Side} (h : side ≠ first) : side = first.other := by
  cases side <;> cases first <;> first | rfl | exact absurd rfl h

namespace Scene

/-- A turn of one of two works, with the time that the clock shows in it. -/
structure Turn where
  side : Side
  time : Instant

/-- The turns of one of two works. -/
def Turn.of (side : Side) (turns : List Turn) : List Turn := turns.filter (·.side = side)

namespace Turn

variable {side first : Side} {turns : List Turn}

/-- The turns of a work are turns of it. -/
theorem side_of_mem_of {turn : Turn} (h : turn ∈ of side turns) : turn.side = side :=
  of_decide_eq_true (List.mem_filter.1 h).2

/-- The turns of a work at one time, if the clock shows one time to each work. -/
theorem eq_of_mem_of {now : Side → Instant} (htimes : ∀ turn ∈ turns, turn.time = now turn.side)
    {turn : Turn} (h : turn ∈ of side turns) : turn = ⟨side, now side⟩ := by
  obtain rfl := side_of_mem_of h
  rw [← htimes turn (List.mem_filter.1 h).1]

/-- The turns of one work contain none of the other. -/
theorem of_of_ne {other : Side} (h : side ≠ other) : of side (of other turns) = [] := by
  refine List.filter_eq_nil_iff.2 fun turn hmem hside => h ?_
  rw [← side_of_mem_of hmem]
  exact (of_decide_eq_true hside).symm

/-- The turns of each work, if all turns of one work come before those of the other. -/
theorem of_append_of :
    of side (of first turns ++ of first.other turns) = of side turns := by
  have hself : of side (of side turns) = of side turns := by simp [of, List.filter_filter]
  have hboth : of side (of first turns ++ of first.other turns) =
      of side (of first turns) ++ of side (of first.other turns) := List.filter_append ..
  rw [hboth]
  by_cases h : side = first
  · subst h
    rw [hself, of_of_ne side.ne_other, List.append_nil]
  · obtain rfl := Side.eq_other_of_ne h
    rw [hself, of_of_ne h, List.nil_append]

end Turn

end Scene

/-- Two works that are under way in one world. -/
@[ext]
structure Scene (σ α : Type) where
  world : World σ
  work : Side → Underway α

namespace Scene

/-- Two works before their first steps. -/
def begin (world : World σ) (work : Side → Activity α) : Scene σ α :=
  ⟨world, fun side => .begin (work side)⟩

variable (serve : Api.Request → σ → Api.Reply × σ)

/-- One of the works takes its turn. -/
def take (scene : Scene σ α) (turn : Turn) : Scene σ α :=
  let (later, world) := (scene.work turn.side).goOn serve turn.time scene.world
  ⟨world, Function.update scene.work turn.side later⟩

/-- The works take some turns. -/
def play (scene : Scene σ α) (turns : List Turn) : Scene σ α := turns.foldl (take serve) scene

variable {serve} {scene : Scene σ α}

/-- Turns that are taken after others. -/
theorem play_append (first second : List Turn) :
    scene.play serve (first ++ second) = (scene.play serve first).play serve second :=
  List.foldl_append

/-- A turn is a step of the work whose turn it is. -/
theorem take_work_self (turn : Turn) :
    (scene.take serve turn).work turn.side =
      ((scene.work turn.side).goOn serve turn.time scene.world).1 :=
  Function.update_self ..

/-- A turn leaves the other work unchanged. -/
theorem take_work_of_ne {turn : Turn} {side : Side} (h : side ≠ turn.side) :
    (scene.take serve turn).work side = scene.work side :=
  Function.update_of_ne h ..

/-- A turn of finished work leaves the scene unchanged. -/
theorem take_of_is_finished {turn : Turn} (h : (scene.work turn.side).IsFinished) :
    scene.take serve turn = scene := by
  unfold take
  rw [h.go_on_eq]
  simp

/-- Turns of finished works leave the scene unchanged. -/
theorem play_of_is_finished {turns : List Turn}
    (h : ∀ turn ∈ turns, (scene.work turn.side).IsFinished) : scene.play serve turns = scene := by
  induction turns with
  | nil => rfl
  | cons turn turns ih =>
      obtain ⟨hfirst, hrest⟩ := List.forall_mem_cons.1 h
      show (scene.take serve turn).play serve turns = scene
      rw [take_of_is_finished hfirst]
      exact ih hrest

/-- The counters of a scene are some initial ones and the events of its works. -/
def Counted (counters : Metrics.Counters) (scene : Scene σ α) : Prop :=
  scene.world.counters = counters.addAll
    (Effect.events ((scene.work .left).seen ++ (scene.work .right).seen))

/-- A turn counts the events that can be seen of it. -/
theorem Counted.take {counters : Metrics.Counters} (h : Counted counters scene) (turn : Turn) :
    Counted counters (scene.take serve turn) := by
  obtain ⟨side, time⟩ := turn
  obtain ⟨effect, -, hseen, hcounters⟩ :=
    Underway.go_on_step serve time (scene.work side) scene.world
  have hself : ((scene.take serve ⟨side, time⟩).work side).seen =
      (scene.work side).seen ++ effect.toList := by
    rw [take_work_self]
    exact hseen
  have hother (other : Side) (hne : other ≠ side) :
      (scene.take serve ⟨side, time⟩).work other = scene.work other := take_work_of_ne hne
  have hadded : (scene.take serve ⟨side, time⟩).world.counters = counters.addAll
      (Effect.events ((scene.work .left).seen ++ (scene.work .right).seen ++ effect.toList)) := by
    rw [Effect.events_append _ effect.toList, ← Metrics.Counters.add_all_add_all, ← h]
    exact hcounters
  rw [Counted, hadded]
  refine Metrics.Counters.add_all_perm ?_ counters
  cases side with
  | left =>
      -- the added event comes before those of the other work
      rw [hself, hother .right nofun, List.append_assoc, List.append_assoc]
      simp only [Effect.events_append]
      exact List.perm_append_comm.append_left _
  | right =>
      rw [hself, hother .left nofun, List.append_assoc]

/-- Turns count the events that can be seen of them. -/
theorem Counted.play {counters : Metrics.Counters} (h : Counted counters scene)
    (turns : List Turn) : Counted counters (scene.play serve turns) := by
  induction turns generalizing scene with
  | nil => exact h
  | cons turn turns ih => exact ih (h.take turn)

/-- Turns at one time preserve the outcome of the work that has all of them. -/
theorem outcome_play_alone {side : Side} {now : Instant} {turns : List Turn}
    (h : ∀ turn ∈ turns, turn = ⟨side, now⟩) :
    let later := scene.play serve turns
    (later.work side).outcome (.at serve now) later.world.state =
      (scene.work side).outcome (.at serve now) scene.world.state := by
  induction turns generalizing scene with
  | nil => rfl
  | cons turn turns ih =>
      obtain ⟨rfl, hrest⟩ := List.forall_mem_cons.1 h
      refine (ih hrest).trans ?_
      rw [take_work_self]
      exact Underway.outcome_go_on (scene.work side) scene.world

/-- Work that has all turns is finished after enough of them at one time. -/
def Finishes (serve : Api.Request → σ → Api.Reply × σ) (side : Side) (now : Instant)
    (scene : Scene σ α) : Prop :=
  ∃ n, ∀ turns : List Turn, n ≤ turns.length → (∀ turn ∈ turns, turn = ⟨side, now⟩) →
    ((scene.play serve turns).work side).IsFinished

/-- Work is finished after enough turns if it is after one turn and enough others. -/
theorem Finishes.of_take {side : Side} {now : Instant}
    (h : Finishes serve side now (scene.take serve ⟨side, now⟩)) :
    Finishes serve side now scene := by
  obtain ⟨n, hn⟩ := h
  refine ⟨n + 1, fun turns hlength hturns => ?_⟩
  cases turns with
  | nil => cases hlength
  | cons turn turns =>
      obtain ⟨rfl, hrest⟩ := List.forall_mem_cons.1 hturns
      exact hn turns (Nat.le_of_succ_le_succ hlength) hrest

/-- The rest of the work whose turn it is. -/
theorem take_rest {side : Side} {rest : Activity α} (h : (scene.work side).rest = rest)
    (now : Instant) :
    ((scene.take serve ⟨side, now⟩).work side).rest =
      (Underway.goOn serve now ⟨rest, (scene.work side).seen⟩ scene.world).1.rest := by
  rw [take_work_self, ← h]

variable (serve) in
/-- Any work is finished after enough turns. -/
theorem finishes (side : Side) (now : Instant) (scene : Scene σ α) :
    Finishes serve side now scene := by
  obtain ⟨rest, hrest⟩ : ∃ rest, (scene.work side).rest = rest := ⟨_, rfl⟩
  induction rest generalizing scene with
  | done value =>
      have hfinished : (scene.work side).IsFinished := ⟨value, hrest⟩
      refine ⟨0, fun turns _ hturns => ?_⟩
      rw [play_of_is_finished fun turn hmem => (hturns turn hmem) ▸ hfinished]
      exact hfinished
  | log record rest ih => exact .of_take (ih _ (take_rest hrest now))
  | count event rest ih => exact .of_take (ih _ (take_rest hrest now))
  | clock rest ih => exact .of_take (ih _ _ (take_rest hrest now))
  | ask request rest ih => exact .of_take (ih _ _ (take_rest hrest now))
  | pause rest ih => exact .of_take (ih _ (take_rest hrest now))

/-- Turns of the other work leave work unchanged. -/
theorem play_work_of_ne {side : Side} {turns : List Turn} (h : ∀ turn ∈ turns, side ≠ turn.side) :
    (scene.play serve turns).work side = scene.work side := by
  induction turns generalizing scene with
  | nil => rfl
  | cons turn turns ih =>
      obtain ⟨hfirst, hrest⟩ := List.forall_mem_cons.1 h
      exact (ih hrest).trans (take_work_of_ne hfirst)

/-- Turns of one work at one time that finish it run it. -/
theorem play_alone {side : Side} {now : Instant} {turns : List Turn}
    (h : ∀ turn ∈ turns, turn = ⟨side, now⟩)
    (hfinished : ((scene.play serve turns).work side).IsFinished) :
    let outcome := (scene.work side).outcome (.at serve now) scene.world.state
    (scene.play serve turns).work side = .ended outcome ∧
      (scene.play serve turns).world.state = outcome.state := by
  intro outcome
  have houtcome : _ = outcome := outcome_play_alone h
  rw [← houtcome]
  obtain ⟨hended, hstate⟩ := hfinished.eq_ended (.at serve now) (scene.play serve turns).world.state
  exact ⟨hended, hstate.symm⟩

/-- Two works that are run one after the other, on a server and with a clock that shows each of them
one time. -/
def inTurn (serve : Api.Request → σ → Api.Reply × σ) (now : Side → Instant) (world : World σ)
    (work : Side → Activity α) (first : Side) : Scene σ α :=
  let one := (work first).run (.at serve (now first)) world.state
  let two := (work first.other).run (.at serve (now first.other)) one.state
  { world :=
      { state := two.state
        counters := world.counters.addAll (Effect.events (one.effects ++ two.effects)) }
    work := fun side => if side = first then .ended one else .ended two }

/-- Turns that finish one work and then the other run them one after the other. -/
theorem play_eq_in_turn {world : World σ} {work : Side → Activity α} {now : Side → Instant}
    {turns : List Turn} {first : Side} (htimes : ∀ turn ∈ turns, turn.time = now turn.side)
    (hfinished : ∀ side, (((begin world work).play serve
      (Turn.of first turns ++ Turn.of first.other turns)).work side).IsFinished) :
    (begin world work).play serve (Turn.of first turns ++ Turn.of first.other turns) =
      inTurn serve now world work first := by
  rw [play_append] at hfinished ⊢
  let half := (begin world work).play serve (Turn.of first turns)
  have hsecond (turn : Turn) (hmem : turn ∈ Turn.of first.other turns) : first ≠ turn.side := by
    rw [Turn.side_of_mem_of hmem]
    exact first.ne_other
  have hkept : (half.play serve (Turn.of first.other turns)).work first = half.work first :=
    play_work_of_ne hsecond
  obtain ⟨hone, hbetween⟩ := play_alone (fun _ => Turn.eq_of_mem_of htimes)
    (hkept ▸ hfinished first)
  obtain ⟨htwo, hlast⟩ := play_alone (fun _ => Turn.eq_of_mem_of htimes) (hfinished first.other)
  -- the second work begins when the first one is finished
  have hbegins : half.work first.other = .begin (work first.other) :=
    play_work_of_ne fun turn hmem heq => first.ne_other (heq.trans (Turn.side_of_mem_of hmem)).symm
  change half.world.state = _ at hbetween
  rw [hbegins, hbetween] at htwo hlast
  have hwork : (half.play serve (Turn.of first.other turns)).work =
      (inTurn serve now world work first).work := by
    funext side
    by_cases h : side = first
    · subst h
      exact (hkept.trans hone).trans (if_pos rfl).symm
    · obtain rfl := Side.eq_other_of_ne h
      exact htwo.trans (if_neg h).symm
  have hcounted : Counted world.counters (half.play serve (Turn.of first.other turns)) :=
    ((show Counted world.counters (begin world work) from rfl).play _).play _
  refine Scene.ext (World.ext hlast ?_) hwork
  rw [hcounted, hwork]
  refine Metrics.Counters.add_all_perm ?_ world.counters
  cases first with
  | left => exact .refl _
  | right =>
      simp only [Effect.events_append]
      exact List.perm_append_comm

end Scene

end AgentOperator
