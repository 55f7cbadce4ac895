import AgentOperator.Proofs.Manifest.Agreement
import Mathlib

/-!
# Statuses over the life of an agent

The status of an agent after any number of observations, each of which has the status of the
previous one as input. The transition time of the condition is passed on from status to status, and
is the time of the observation with which the last block of equal condition words began
(`follow_transitions`). Nothing else in a status depends on the clock, and different counts of pods
have different statuses, so that a status is unchanged if and only if the readiness, the revision
and the tag of the image are (`desired_status_eq_iff`).
-/

namespace AgentOperator

/-- The longest block of equal items that ends with item number `last` begins with item number
`first`. -/
structure LongestBlock {α : Type} (items : List α) (first last : Nat) : Prop where
  le : first ≤ last
  same : ∀ i, first ≤ i → i ≤ last → items[i]? = items[last]?
  longest : ∀ i ≤ last, (∀ j, i ≤ j → j ≤ last → items[j]? = items[last]?) → first ≤ i

namespace LongestBlock

variable {α : Type} {items : List α} {first last : Nat}

/-- The first item is a block. -/
theorem zero : LongestBlock items 0 0 where
  le := Nat.le_refl 0
  same := by
    intro i _ hi
    rw [Nat.le_zero.1 hi]
  longest := fun i _ _ => Nat.zero_le i

/-- An item that equals its predecessor extends the block. -/
theorem extend (h : LongestBlock items first last) (hnext : items[last + 1]? = items[last]?) :
    LongestBlock items first (last + 1) where
  le := Nat.le_succ_of_le h.le
  same := by
    intro i hfirst hlast
    rcases Nat.le_succ_iff.1 hlast with hbefore | rfl
    · exact (h.same i hfirst hbefore).trans hnext.symm
    · rfl
  longest := by
    intro i hi hsame
    rcases Nat.le_succ_iff.1 hi with hbefore | rfl
    · refine h.longest i hbefore fun j hij hj => ?_
      exact (hsame j hij (Nat.le_succ_of_le hj)).trans hnext
    · exact Nat.le_succ_of_le h.le

/-- An item that differs from its predecessor begins a block. -/
theorem restart (hnext : items[last + 1]? ≠ items[last]?) :
    LongestBlock items (last + 1) (last + 1) where
  le := Nat.le_refl _
  same := by
    intro i hfirst hlast
    rw [Nat.le_antisymm hlast hfirst]
  longest := by
    intro i hi hsame
    by_contra hbefore
    exact hnext (hsame last (by omega) (Nat.le_succ last)).symm

end LongestBlock

/-- The word of a condition determines whether it holds. -/
theorem condition_word_inj {first second : Bool} :
    conditionWord first = conditionWord second ↔ first = second := by
  cases first <;> cases second <;> decide

/-- A condition has one of two words. -/
theorem condition_word_eq_or (holds : Bool) :
    conditionWord holds = "True" ∨ conditionWord holds = "False" := by
  cases holds <;> decide

/-- An agent is ready if and only if it has a workload with as many ready pods as there should
be. -/
theorem is_ready_iff (readiness : Option Readiness) :
    isReady readiness = true ↔
      ∃ counts, readiness = some counts ∧ counts.desired ≤ counts.ready := by
  simp [isReady, Readiness.isEnough, Option.any_eq_true]

/-- The reason of a condition determines whether there is a workload. -/
theorem ready_reason_eq_missing_iff (readiness : Option Readiness) :
    readyReason readiness = readyReason none ↔ readiness = none := by
  cases readiness with
  | none => simp
  | some counts =>
      unfold readyReason
      dsimp only
      split <;> simp

/-- Counts with the same number of ready pods and the same sentence are equal. -/
theorem Readiness.eq_of_text_eq {first second : Readiness} (hready : first.ready = second.ready)
    (htext : first.text = second.text) : first = second := by
  obtain ⟨ready, desired⟩ := first
  obtain ⟨ready', desired'⟩ := second
  obtain rfl : ready = ready' := hready
  -- the sentences have the same ends, so that the numbers between are equal
  unfold text at htext
  rw [String.append_left_inj, String.append_right_inj, Int.toString_eq_repr,
    Int.toString_eq_repr, Int.repr_inj, Int32.toInt_inj] at htext
  obtain rfl : desired = desired' := htext
  rfl

/-- The statuses of two observations are equal if and only if the readiness, the revision and the
tag of the image are, whatever the times of the observations. -/
theorem desired_status_eq_iff {settings : Settings} {agent later : Agent}
    {readiness : Option Readiness} {now : Instant}
    (hstatus : later.status = some (desiredStatus settings agent readiness now))
    (seen : Option Readiness) (then_ : Instant) :
    desiredStatus settings later seen then_ = desiredStatus settings agent readiness now ↔
      seen = readiness ∧ later.metadata.generation = agent.metadata.generation ∧
        ImageReference.tag (agentImage settings later.spec) =
          ImageReference.tag (agentImage settings agent.spec) := by
  constructor
  · intro h
    have hversion := congrArg AgentStatus.version h
    have hreplicas := congrArg AgentStatus.replicas h
    have hconditions := congrArg AgentStatus.conditions h
    simp only [desiredStatus, Option.some.injEq] at hversion hreplicas
    simp only [desiredStatus, List.cons.injEq, Condition.mk.injEq, Option.some.injEq] at hconditions
    obtain ⟨⟨-, -, -, hreason, hmessage⟩, -⟩ := hconditions
    refine ⟨?_, congrArg AgentStatus.observedGeneration h, hversion⟩
    cases readiness with
    | none => exact (ready_reason_eq_missing_iff seen).1 hreason
    | some counts =>
        cases seen with
        | none => cases (ready_reason_eq_missing_iff (some counts)).1 hreason.symm
        | some other => exact congrArg some (Readiness.eq_of_text_eq hreplicas hmessage)
  · intro h
    obtain ⟨rfl, hgeneration, htag⟩ := h
    simp only [desiredStatus, htag, hgeneration, transition_time_stable hstatus then_]

/-- An observation of an agent: what is seen of its workload, and when. Before it the image that the
resource asks for and the revision of the resource may have been edited. -/
structure Look where
  readiness : Option Readiness
  now : Instant
  image : Option (Option String) := none
  generation : Option (Option Int64) := none

namespace Look

/-- The agent as it was edited before an observation. -/
def edit (look : Look) (agent : Agent) : Agent :=
  { agent with
    spec := { agent.spec with image := look.image.getD agent.spec.image }
    metadata :=
      { agent.metadata with generation := look.generation.getD agent.metadata.generation } }

/-- The agent with the status of an observation. -/
def report (settings : Settings) (agent : Agent) (look : Look) : Agent :=
  let edited := look.edit agent
  { edited with status := some (desiredStatus settings edited look.readiness look.now) }

/-- Whether an agent is observed to be ready. -/
def isReady (look : Look) : Bool := AgentOperator.isReady look.readiness

end Look

/-- An agent after some observations. -/
def follow (settings : Settings) (agent : Agent) (looks : List Look) : Agent :=
  looks.foldl (Look.report settings) agent

variable {settings : Settings} {agent : Agent} {looks : List Look}

/-- One observation more is one of the agent after the previous ones. -/
theorem follow_take_succ {n : Nat} {look : Look} (h : looks[n]? = some look) :
    follow settings agent (looks.take (n + 1)) =
      Look.report settings (follow settings agent (looks.take n)) look := by
  unfold follow
  rw [List.take_add_one, h, Option.toList_some, List.foldl_append, List.foldl_cons, List.foldl_nil]

/-- The readiness condition of the status of an observation. -/
theorem readiness?_report (agent : Agent) (look : Look) :
    (Look.report settings agent look).status.bind AgentStatus.readiness? = some
      { type := readyCondition
        status := conditionWord look.isReady
        lastTransitionTime := transitionTime (agent.status.bind AgentStatus.readiness?)
          (conditionWord look.isReady) look.now
        reason := some (readyReason look.readiness)
        message := some (readyMessage look.readiness) } :=
  readiness?_desired_status settings (look.edit agent) look.readiness look.now

variable (settings) in
/-- The condition after observation number `n` has the word of this observation, and the time of the
one with which the last block with this word began. -/
theorem last_transition_time_follow (hnew : agent.status = none) {n : Nat} {look : Look}
    (hlook : looks[n]? = some look) :
    ∃ first start condition,
      LongestBlock (looks.map Look.isReady) first n ∧ looks[first]? = some start ∧
        (follow settings agent (looks.take (n + 1))).status.bind AgentStatus.readiness? =
          some condition ∧
        condition.status = conditionWord look.isReady ∧
        condition.lastTransitionTime = some start.now.text := by
  induction n generalizing look with
  | zero =>
      rw [follow_take_succ hlook, readiness?_report]
      refine ⟨0, look, _, .zero, hlook, rfl, rfl, ?_⟩
      have hnone : (follow settings agent (looks.take 0)).status = none := hnew
      rw [hnone]
      rfl
  | succ n ih =>
      have hn : n + 1 < looks.length := (List.getElem?_eq_some_iff.1 hlook).1
      obtain ⟨earlier, hearlier⟩ : ∃ earlier, looks[n]? = some earlier :=
        ⟨_, List.getElem?_eq_getElem (Nat.lt_of_succ_lt hn)⟩
      obtain ⟨first, start, previous, hblock, hstart, hprevious, hword, htime⟩ := ih hearlier
      have hnext : (looks.map Look.isReady)[n + 1]? = (looks.map Look.isReady)[n]? ↔
          earlier.isReady = look.isReady := by
        rw [List.getElem?_map, List.getElem?_map, hlook, hearlier]
        exact Option.some_inj.trans eq_comm
      rw [follow_take_succ hlook, readiness?_report, hprevious]
      by_cases hsame : earlier.isReady = look.isReady
      · refine ⟨first, start, _, hblock.extend (hnext.2 hsame), hstart, rfl, rfl, ?_⟩
        exact (if_pos (by rw [hword, hsame])).trans htime
      · refine ⟨n + 1, look, _, .restart (mt hnext.1 hsame), hlook, rfl, rfl, ?_⟩
        exact if_neg (by rwa [hword, condition_word_inj])

/-- Statuses over the life of an agent that had none. After every observation there is one
condition, which says whether the workload existed and had as many ready pods as it should, and
which has the time of the observation with which the last block of observations with the same word
began. The next observation leaves the status unchanged if and only if the readiness, the revision
and the tag of the image are, whatever the times of the observations. -/
theorem follow_transitions (settings : Settings) {agent : Agent} (hnew : agent.status = none)
    (looks : List Look) :
    (∀ n look, looks[n]? = some look →
      ∃ first start status condition,
        LongestBlock (looks.map Look.isReady) first n ∧ looks[first]? = some start ∧
          (follow settings agent (looks.take (n + 1))).status = some status ∧
          status.conditions = [condition] ∧ condition.type = "Ready" ∧
          (condition.status = "True" ∨ condition.status = "False") ∧
          (condition.status = "True" ↔
            ∃ counts, look.readiness = some counts ∧ counts.desired ≤ counts.ready) ∧
          condition.lastTransitionTime = some start.now.text) ∧
    ∀ n earlier later, looks[n]? = some earlier → looks[n + 1]? = some later →
      let before := follow settings agent (looks.take (n + 1))
      let edited := later.edit before
      let computed := desiredStatus settings edited later.readiness later.now
      (follow settings agent (looks.take (n + 2))).status = some computed ∧
        (before.status = some computed ↔
          later.readiness = earlier.readiness ∧
            edited.metadata.generation = before.metadata.generation ∧
            ImageReference.tag (agentImage settings edited.spec) =
              ImageReference.tag (agentImage settings before.spec)) := by
  constructor
  · intro n look hlook
    obtain ⟨first, start, condition, hblock, hstart, hcondition, hword, htime⟩ :=
      last_transition_time_follow settings hnew hlook
    rw [follow_take_succ hlook, readiness?_report] at hcondition
    obtain rfl := Option.some.inj hcondition
    rw [follow_take_succ hlook]
    refine ⟨first, start, _, _, hblock, hstart, rfl, rfl, rfl, condition_word_eq_or _, ?_, htime⟩
    exact condition_word_inj.trans (is_ready_iff look.readiness)
  · intro n earlier later hearlier hlater before edited computed
    have hbefore : before = Look.report settings _ earlier := follow_take_succ hearlier
    refine ⟨by rw [follow_take_succ hlater]; rfl, ?_⟩
    have hstatus : edited.status = some (desiredStatus settings
        (earlier.edit (follow settings agent (looks.take n))) earlier.readiness earlier.now) := by
      rw [show edited.status = before.status from rfl, hbefore]
      rfl
    have hiff := desired_status_eq_iff hstatus later.readiness later.now
    rw [hbefore]
    exact Option.some_inj.trans (eq_comm.trans hiff)

/-- An agent that becomes ready with the second observation has the time of this one, and a third
observation leaves its status unchanged: the image that it has by then has the same tag. -/
theorem transitions_of_three_looks :
    let agent : Agent := { metadata := {}, spec := {} }
    let looks : List Look :=
      [{ readiness := none, now := ⟨0, 0⟩ },
        { readiness := some ⟨1, 1⟩, now := ⟨60, 0⟩, generation := some (some 2) },
        { readiness := some ⟨1, 1⟩, now := ⟨120, 0⟩, image := some (some "host:5000/agent") }]
    (follow {} agent (looks.take 3)).status = (follow {} agent (looks.take 2)).status ∧
      ∃ status condition,
        (follow {} agent (looks.take 3)).status = some status ∧ status.conditions = [condition] ∧
          condition.status = "True" ∧
          condition.lastTransitionTime = some (Instant.text ⟨60, 0⟩) := by
  intro agent looks
  have hnew : agent.status = none := rfl
  obtain ⟨htells, hstays⟩ := follow_transitions {} hnew looks
  obtain ⟨hlast, hsame⟩ := hstays 1 _ _ rfl rfl
  refine ⟨hlast.trans (hsame.2 ⟨rfl, rfl, by decide +kernel⟩).symm, ?_⟩
  obtain ⟨first, start, status, condition, hblock, hstart, hstatus, hconditions, -, -, hword,
    htime⟩ := htells 2 _ rfl
  have hone : first ≤ 1 := hblock.longest 1 (by decide) (by decide +kernel)
  have hzero : first ≠ 0 := by
    intro h
    have hfalse := hblock.same 0 (by omega) (by omega)
    exact absurd hfalse (by decide +kernel)
  obtain rfl : first = 1 := by omega
  obtain rfl := Option.some.inj hstart
  exact ⟨status, condition, hstatus, hconditions, hword.2 ⟨_, rfl, by decide⟩, htime⟩

end AgentOperator
