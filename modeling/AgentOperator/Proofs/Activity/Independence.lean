import AgentOperator.Proofs.Activity.Interleaving
import AgentOperator.Proofs.Cluster.Namespaces

/-!
# Works in different namespaces

The interleaving of two works each of which sends requests about a namespace of its own, on a server
that keeps namespaces apart (`KeepsApart`). The state of each work and of its namespace is
determined by its own turns (`Scene.Matches.play`). So the scene does not depend on the order in
which the turns of the two come (`Scene.same_of_turns`), and once both works are finished it is the
one after two runs one after the other, in either order (`Scene.same_in_turn`). Work may stay in its
namespace for all replies (`Activity.StaysIn`), or for those of a particular server
(`Activity.KeepsTo`).
-/

namespace AgentOperator

variable {σ π α β : Type}

namespace Activity

/-- All requests of some work are about one namespace, whatever the replies are. -/
inductive StaysIn (inNamespace : String) : Activity α → Prop where
  | done (value : α) : StaysIn inNamespace (.done value)
  | log (record : Log.Record) {rest : Activity α} (h : StaysIn inNamespace rest) :
      StaysIn inNamespace (.log record rest)
  | count (event : Metrics.Event) {rest : Activity α} (h : StaysIn inNamespace rest) :
      StaysIn inNamespace (.count event rest)
  | clock {rest : Instant → Activity α} (h : ∀ time, StaysIn inNamespace (rest time)) :
      StaysIn inNamespace (.clock rest)
  | ask {request : Api.Request} {rest : Api.Reply → Activity α}
      (hrequest : request.inNamespace = inNamespace)
      (h : ∀ reply, StaysIn inNamespace (rest reply)) : StaysIn inNamespace (.ask request rest)
  | pause {rest : Activity α} (h : StaysIn inNamespace rest) : StaysIn inNamespace (.pause rest)

/-- All requests of some work are about one namespace, as a server replies to them from a state
on. -/
inductive KeepsTo (serve : Api.Request → σ → Api.Reply × σ) (inNamespace : String) :
    Activity α → σ → Prop where
  | done (value : α) (state : σ) : KeepsTo serve inNamespace (.done value) state
  | log (record : Log.Record) {rest : Activity α} {state : σ}
      (h : KeepsTo serve inNamespace rest state) :
      KeepsTo serve inNamespace (.log record rest) state
  | count (event : Metrics.Event) {rest : Activity α} {state : σ}
      (h : KeepsTo serve inNamespace rest state) :
      KeepsTo serve inNamespace (.count event rest) state
  | clock {rest : Instant → Activity α} {state : σ}
      (h : ∀ time, KeepsTo serve inNamespace (rest time) state) :
      KeepsTo serve inNamespace (.clock rest) state
  | ask {request : Api.Request} {rest : Api.Reply → Activity α} {state : σ}
      (hrequest : request.inNamespace = inNamespace)
      (h : KeepsTo serve inNamespace (rest (serve request state).1) (serve request state).2) :
      KeepsTo serve inNamespace (.ask request rest) state
  | pause {rest : Activity α} {state : σ} (h : KeepsTo serve inNamespace rest state) :
      KeepsTo serve inNamespace (.pause rest) state

variable {serve : Api.Request → σ → Api.Reply × σ} {part : σ → String → π} {inNamespace : String}

/-- Work that stays in a namespace for all replies does so for those of a server. -/
theorem StaysIn.keeps_to {work : Activity α} (h : work.StaysIn inNamespace) (state : σ) :
    work.KeepsTo serve inNamespace state := by
  induction h generalizing state with
  | done value => exact .done value state
  | log record _ ih => exact .log record (ih state)
  | count event _ ih => exact .count event (ih state)
  | clock _ ih => exact .clock fun time => ih time state
  | ask hrequest _ ih => exact .ask hrequest (ih _ _)
  | pause _ ih => exact .pause (ih state)

/-- A composition stays in a namespace if both parts do. -/
theorem StaysIn.bind {work : Activity α} {next : α → Activity β} (h : work.StaysIn inNamespace)
    (hnext : ∀ value, (next value).StaysIn inNamespace) :
    (work >>= next).StaysIn inNamespace := by
  induction h with
  | done value => exact hnext value
  | log record _ ih => exact .log record ih
  | count event _ ih => exact .count event ih
  | clock _ ih => exact .clock ih
  | ask hrequest _ ih => exact .ask hrequest ih
  | pause _ ih => exact .pause ih

/-- Whether work keeps to a namespace is determined by the state of that namespace. -/
theorem KeepsTo.congr (hserver : KeepsApart serve part) {work : Activity α} {state other : σ}
    (h : work.KeepsTo serve inNamespace state)
    (hpart : part state inNamespace = part other inNamespace) :
    work.KeepsTo serve inNamespace other := by
  induction h generalizing other with
  | done value => exact .done value other
  | log record _ ih => exact .log record (ih hpart)
  | count event _ ih => exact .count event (ih hpart)
  | clock _ ih => exact .clock fun time => ih time hpart
  | @ask request rest state hrequest _ ih =>
      subst hrequest
      refine .ask rfl ?_
      rw [← hserver.reply request hpart]
      exact ih (hserver.change request hpart)
  | pause _ ih => exact .pause (ih hpart)

end Activity

namespace Underway

variable {serve : Api.Request → σ → Api.Reply × σ} {part : σ → String → π} {inNamespace : String}
  {work : Underway α} {world : World σ} (h : work.rest.KeepsTo serve inNamespace world.state)

include h

/-- A step preserves that work keeps to a namespace. -/
theorem go_on_keeps_to (time : Instant) :
    (goOn serve time work world).1.rest.KeepsTo serve inNamespace
      (goOn serve time work world).2.state := by
  obtain ⟨rest, seen⟩ := work
  cases h with
  | done value => exact .done value _
  | log _ h | count _ h | pause h | ask _ h => exact h
  | clock h => exact h time

/-- A step of work that keeps to a namespace leaves the other ones unchanged. -/
theorem go_on_frame (hserver : KeepsApart serve part) (time : Instant) {other : String}
    (hother : other ≠ inNamespace) :
    part (goOn serve time work world).2.state other = part world.state other := by
  obtain ⟨rest, seen⟩ := work
  cases h with
  | done | log | count | clock | pause => rfl
  | @ask request rest _ hrequest =>
      subst hrequest
      exact hserver.frame request world.state hother

/-- A step of work that keeps to a namespace is determined by the state of that namespace. -/
theorem go_on_congr (hserver : KeepsApart serve part) (time : Instant) {other : World σ}
    (hpart : part world.state inNamespace = part other.state inNamespace) :
    (goOn serve time work world).1 = (goOn serve time work other).1 ∧
      part (goOn serve time work world).2.state inNamespace =
        part (goOn serve time work other).2.state inNamespace := by
  obtain ⟨rest, seen⟩ := work
  cases h with
  | done | log | count | clock | pause => exact ⟨rfl, hpart⟩
  | @ask request rest _ hrequest =>
      subst hrequest
      refine ⟨?_, hserver.change request hpart⟩
      simp only [goOn]
      rw [hserver.reply request hpart]

end Underway

namespace Scene

variable {serve : Api.Request → σ → Api.Reply × σ} {part : σ → String → π} {place : Side → String}
  {scene other : Scene σ α}

/-- Each of two works keeps to a namespace of its own. -/
def KeepsTo (serve : Api.Request → σ → Api.Reply × σ) (place : Side → String)
    (scene : Scene σ α) : Prop :=
  ∀ side, (scene.work side).rest.KeepsTo serve (place side) scene.world.state

/-- One of the works is the same in two scenes, with the same effects so far and the same rest, and
so is the state of its namespace. -/
structure Matches (part : σ → String → π) (place : Side → String) (side : Side)
    (scene other : Scene σ α) : Prop where
  work : scene.work side = other.work side
  place : part scene.world.state (place side) = part other.world.state (place side)

/-- Two scenes that cannot be told apart: both works, the states of all namespaces and the counters
are the same. -/
structure Same (part : σ → String → π) (scene other : Scene σ α) : Prop where
  work : scene.work = other.work
  parts : part scene.world.state = part other.world.state
  counters : scene.world.counters = other.world.counters

/-- Two works that begin in one world are independent of each other, and no third party can observe
in which order their turns come. Whatever the turns are, the effects and the rest of a work are
determined by its own turns (`alone`), and the scene is the same as after all turns of the one work
followed by all turns of the other (`sequence`). If the clock shows each work one time, both are
finished after enough turns (`finished`); then each has the outcome that it has when it is run alone
(`carriedOut`), and the scene is the same as after two runs one after the other (`inTurn`). -/
structure Independent (serve : Api.Request → σ → Api.Reply × σ) (part : σ → String → π)
    (world : World σ) (work : Side → Activity α) : Prop where
  alone : ∀ turns side, ((begin world work).play serve turns).work side =
    ((begin world work).play serve (Turn.of side turns)).work side
  sequence : ∀ turns first, ((begin world work).play serve turns).Same part
    ((begin world work).play serve (Turn.of first turns ++ Turn.of first.other turns))
  finished : ∀ now : Side → Instant, ∃ n, ∀ turns : List Turn,
    (∀ turn ∈ turns, turn.time = now turn.side) →
    (∀ side, n ≤ (Turn.of side turns).length) →
    ∀ side, (((begin world work).play serve turns).work side).IsFinished
  carriedOut : ∀ {now : Side → Instant} {turns : List Turn},
    (∀ turn ∈ turns, turn.time = now turn.side) →
    (∀ side, (((begin world work).play serve turns).work side).IsFinished) →
    ∀ side, ((begin world work).play serve turns).work side =
      .ended ((work side).run (.at serve (now side)) world.state)
  inTurn : ∀ {now : Side → Instant} {turns : List Turn},
    (∀ turn ∈ turns, turn.time = now turn.side) →
    (∀ side, (((begin world work).play serve turns).work side).IsFinished) →
    ∀ first, ((begin world work).play serve turns).Same part (inTurn serve now world work first)

/-- The namespaces of two works are different. -/
theorem place_ne (hplaces : place .left ≠ place .right) {side other : Side} (h : side ≠ other) :
    place side ≠ place other := by
  cases side <;> cases other
  · exact absurd rfl h
  · exact hplaces
  · exact hplaces.symm
  · exact absurd rfl h

section Turns

variable (hserver : KeepsApart serve part) (h : scene.KeepsTo serve place)

include hserver h

/-- A turn leaves all namespaces unchanged but that of the work whose turn it is. -/
theorem take_frame {turn : Turn} {inNamespace : String} (hne : inNamespace ≠ place turn.side) :
    part (scene.take serve turn).world.state inNamespace = part scene.world.state inNamespace :=
  Underway.go_on_frame (h turn.side) hserver turn.time hne

/-- A turn of one work leaves the other one and its namespace unchanged. -/
theorem matches_take_of_ne (hplaces : place .left ≠ place .right) {turn : Turn} {side : Side}
    (hside : side ≠ turn.side) : (scene.take serve turn).Matches part place side scene :=
  ⟨take_work_of_ne hside, take_frame hserver h (place_ne hplaces hside)⟩

/-- A turn preserves that the works keep to their namespaces. -/
theorem KeepsTo.take (hplaces : place .left ≠ place .right) (turn : Turn) :
    (scene.take serve turn).KeepsTo serve place := by
  intro side
  by_cases hside : side = turn.side
  · subst hside
    rw [take_work_self]
    exact Underway.go_on_keeps_to (h turn.side) turn.time
  · have hmatches := matches_take_of_ne hserver h hplaces hside
    rw [hmatches.work]
    exact (h side).congr hserver hmatches.place.symm

/-- A turn preserves that two scenes match in the work whose turn it is. -/
theorem Matches.take (turn : Turn) (hmatches : scene.Matches part place turn.side other) :
    (scene.take serve turn).Matches part place turn.side (other.take serve turn) := by
  obtain ⟨hwork, hpart⟩ :=
    Underway.go_on_congr (h turn.side) hserver turn.time hmatches.place
  constructor
  · rw [take_work_self, take_work_self, ← hmatches.work]
    exact hwork
  · refine hpart.trans ?_
    rw [hmatches.work]
    rfl

/-- Two scenes that match in a work still do so after turns with the same turns of that work. -/
theorem Matches.play (hplaces : place .left ≠ place .right) {side : Side}
    (hmatches : scene.Matches part place side other) (turns : List Turn) :
    (scene.play serve turns).Matches part place side (other.play serve (Turn.of side turns)) := by
  induction turns generalizing scene other with
  | nil => exact hmatches
  | cons turn turns ih =>
      have hlater := h.take hserver hplaces turn
      by_cases hside : turn.side = side
      · subst hside
        have hof : Turn.of turn.side (turn :: turns) = turn :: Turn.of turn.side turns :=
          List.filter_cons_of_pos (by simp)
        rw [hof]
        exact ih hlater (hmatches.take hserver h turn)
      · have hof : Turn.of side (turn :: turns) = Turn.of side turns :=
          List.filter_cons_of_neg (by simpa using hside)
        have hstays := matches_take_of_ne hserver h hplaces (Ne.symm hside)
        rw [hof]
        exact ih hlater ⟨hstays.work.trans hmatches.work, hstays.place.trans hmatches.place⟩

/-- Turns leave the namespaces unchanged that are not those of the works. -/
theorem play_frame (hplaces : place .left ≠ place .right) {inNamespace : String}
    (hne : ∀ side, inNamespace ≠ place side) (turns : List Turn) :
    part (scene.play serve turns).world.state inNamespace =
      part scene.world.state inNamespace := by
  induction turns generalizing scene with
  | nil => rfl
  | cons turn turns ih =>
      exact (ih (h.take hserver hplaces turn)).trans (take_frame hserver h (hne turn.side))

end Turns

section Begin

variable {world : World σ} {work : Side → Activity α} (hserver : KeepsApart serve part)
  (hplaces : place .left ≠ place .right)
  (h : (begin world work).KeepsTo serve place)

include hserver hplaces h

/-- Two works that begin: the scene matches the one without the turns of the other work. -/
theorem matches_alone (side : Side) (turns : List Turn) :
    ((begin world work).play serve turns).Matches part place side
      ((begin world work).play serve (Turn.of side turns)) :=
  Matches.play hserver h hplaces ⟨rfl, rfl⟩ turns

/-- Turns with the same turns of each work lead to the same scene. -/
theorem same_of_turns {turns others : List Turn}
    (hturns : ∀ side, Turn.of side turns = Turn.of side others) :
    ((begin world work).play serve turns).Same part ((begin world work).play serve others) := by
  have halone (side : Side) : ((begin world work).play serve turns).Matches part place side
      ((begin world work).play serve others) := by
    have hone := matches_alone hserver hplaces h side turns
    have hother := matches_alone hserver hplaces h side others
    rw [hturns side] at hone
    exact ⟨hone.work.trans hother.work.symm, hone.place.trans hother.place.symm⟩
  have hwork : ((begin world work).play serve turns).work =
      ((begin world work).play serve others).work := funext fun side => (halone side).work
  have hcounted (turns : List Turn) :
      Counted world.counters ((begin world work).play serve turns) :=
    (show Counted world.counters (begin world work) from rfl).play turns
  refine ⟨hwork, funext fun inNamespace => ?_, ?_⟩
  · by_cases hplace : ∃ side, inNamespace = place side
    · obtain ⟨side, rfl⟩ := hplace
      exact (halone side).place
    · rw [not_exists] at hplace
      rw [play_frame hserver h hplaces hplace, play_frame hserver h hplaces hplace]
  · rw [hcounted turns, hcounted others, hwork]

/-- The scene is the one after all turns of one work followed by all turns of the other. -/
theorem same_sequence (turns : List Turn) (first : Side) :
    ((begin world work).play serve turns).Same part
      ((begin world work).play serve (Turn.of first turns ++ Turn.of first.other turns)) :=
  same_of_turns hserver hplaces h fun _ => Turn.of_append_of.symm

/-- Once both works are finished, the scene is the one after two runs one after the other. -/
theorem same_in_turn {now : Side → Instant} {turns : List Turn}
    (htimes : ∀ turn ∈ turns, turn.time = now turn.side)
    (hfinished : ∀ side, (((begin world work).play serve turns).work side).IsFinished)
    (first : Side) :
    ((begin world work).play serve turns).Same part (inTurn serve now world work first) := by
  have hsame := same_sequence hserver hplaces h turns first
  rw [hsame.work] at hfinished
  rw [← play_eq_in_turn htimes hfinished]
  exact hsame

/-- Two works are finished after enough turns of each. -/
theorem exists_finished (now : Side → Instant) :
    ∃ n, ∀ turns : List Turn, (∀ turn ∈ turns, turn.time = now turn.side) →
      (∀ side, n ≤ (Turn.of side turns).length) →
      ∀ side, (((begin world work).play serve turns).work side).IsFinished := by
  obtain ⟨n, hn⟩ := finishes serve .left (now .left) (begin world work)
  obtain ⟨m, hm⟩ := finishes serve .right (now .right) (begin world work)
  refine ⟨max n m, fun turns htimes hlength side => ?_⟩
  rw [(matches_alone hserver hplaces h side turns).work]
  have hturns : ∀ turn ∈ Turn.of side turns, turn = ⟨side, now side⟩ :=
    fun _ => Turn.eq_of_mem_of htimes
  cases side with
  | left => exact hn _ (Nat.le_trans (Nat.le_max_left n m) (hlength _)) hturns
  | right => exact hm _ (Nat.le_trans (Nat.le_max_right n m) (hlength _)) hturns

/-- Works that keep to different namespaces are independent. -/
theorem independent : Independent serve part world work where
  alone turns side := (matches_alone hserver hplaces h side turns).work
  sequence := same_sequence hserver hplaces h
  finished := exists_finished hserver hplaces h
  carriedOut htimes hfinished side := by
    rw [(same_in_turn hserver hplaces h htimes hfinished side).work]
    exact if_pos rfl
  inTurn := same_in_turn hserver hplaces h

end Begin

end Scene

end AgentOperator
