import AgentOperator.Proofs.Pipeline.Invariant

/-!
# Ordering guarantees of the shared pipeline

The guarantees that hold in every reachable state of the pipeline, under every schedule of its
operations (`reaches_orderly`). Task lists are installed one at a time, in the order of arrival of
their operations, while no other operation holds the lock. A run and a reader of the names act on
one list, the last one of an operation that was admitted before. An operation that arrives behind a
replacement acts on the list of that or of a later one, and readers do not wait for each other.
-/

namespace AgentOperator.Sharing

variable {π : Type}

/-- The list of visit number `i`: the list in force after the operations that were admitted before
it. -/
def State.listOf (initial : List (Task π)) (s : State π) (i : Nat) : List (Task π) :=
  inForce initial ((s.visits.take i).map Visit.errand)

/-- What holds in a state of the pipeline that is reached from the task list `initial`. Operations
are admitted in the order of their arrival (`fifo`). A run starts the first tasks of its list, its
effects are those of a prefix of a run of that list, and it ends as such a run ends, with a report
that names the tasks that it started (`runs`); the names that are read are those of the list
(`names`). While an operation reads, the task list is its list, and so is the entry of the operation
in the queue of the lock (`reads`). The task list changes only by an operation that installs its own
list while no other one holds the lock (`effect`). The lists are installed in the order in which
their operations arrived (`order`), and all of them once no operation waits or holds the lock
(`final`). An operation that arrives behind one that replaces the list acts on the list of that one
or of a later one (`fresh`). If no operation that replaces the list waits or holds the lock, all
that wait can be admitted in a row (`together`). An admitted operation can make its next step until
it has released the lock (`progress`), and the first one that waits can be admitted when none holds
the lock (`served`). -/
structure Orderly (initial : List (Task π)) (s : State π) : Prop where
  fifo : s.came = s.visits.map Visit.errand ++ s.waiting
  runs : ∀ (i : Nat) (visit : Visit π) (params : π), s.visits[i]? = some visit →
    visit.errand = .run params →
      visit.started <+: s.listOf initial i ∧
      (∃ rest, Activity.Path (Pipeline.run (s.listOf initial i) params).run visit.effects rest ∧
        ∀ result, visit.stage.answer? = some (.ended result) → rest = .done result) ∧
      ∀ report, visit.stage.answer? = some (.ended (.ok report)) →
        report.executed = visit.started.map Task.name
  names : ∀ (i : Nat) (visit : Visit π) (answer : Answer), s.visits[i]? = some visit →
    visit.errand = .names → visit.stage.answer? = some answer →
      answer = .named ((s.listOf initial i).map Task.name)
  reads : ∀ (i : Nat) (visit : Visit π), s.visits[i]? = some visit → visit.isReading = true →
    s.tasks = s.listOf initial i ∧ s.account.seenBy? i = some (s.listOf initial i)
  effect : ∀ (move : Move π) (next : State π), Step s move next →
    next.tasks = s.tasks ∧ next.installed = s.installed ∨
      ∃ i visit new, move = .act i ∧ s.visits[i]? = some visit ∧ visit.errand = .replace new ∧
        next.tasks = new ∧ next.installed = s.installed ++ [new] ∧
        ∀ j other, j ≠ i → s.visits[j]? = some other → other.isInside = false
  order : s.installed <+: s.came.filterMap Errand.replacement? ∧
    s.tasks = s.installed.getLastD initial
  final : s.waiting = [] → (∀ visit ∈ s.visits, visit.isInside = false) →
    s.installed = s.came.filterMap Errand.replacement? ∧ s.tasks = inForce initial s.came
  fresh : ∀ (m : Nat) (brought : List (Task π)), s.came[m]? = some (.replace brought) →
    ∀ moves later, Steps s moves later → ∀ n visit, s.came.length ≤ n →
      later.visits[n]? = some visit →
        ∃ k new, m ≤ k ∧ k < n ∧ later.came[k]? = some (.replace new) ∧
          later.listOf initial n = new
  together : (∀ errand ∈ s.waiting, errand.replacement? = none) →
    (∀ visit ∈ s.visits, visit.isInside = true → visit.errand.replacement? = none) →
      ∃ moves later, Steps s moves later ∧ (∀ move ∈ moves, move = .enter) ∧ later.waiting = [] ∧
        later.visits = s.visits ++ s.waiting.map Errand.arrival
  progress : ∀ (i : Nat) (visit : Visit π), s.visits[i]? = some visit → visit.isInside = true →
    ∃ next, Step s (.act i) next
  served : s.waiting ≠ [] → (∀ visit ∈ s.visits, visit.isInside = false) →
    ∃ next, Step s .enter next

variable {initial : List (Task π)} {s : State π}

/-- Transitions keep the record of the operations that have arrived. -/
theorem Steps.came_prefix {moves : List (Move π)} {later : State π} (h : Steps s moves later) :
    s.came <+: later.came := by
  induction h with
  | refl => exact List.prefix_refl _
  | snoc _ hstep ih =>
      cases hstep with
      | come errand => exact ih.trans (List.prefix_append _ _)
      | enter | act | write | leave => exact ih

/-- The waiting operations are admitted one after another if neither they nor those that hold the
lock replace the list. -/
theorem steps_enter (hwaiting : ∀ errand ∈ s.waiting, errand.replacement? = none)
    (hinside : ∀ visit ∈ s.visits, visit.isInside = true → visit.errand.replacement? = none)
    {n : Nat} (hn : n ≤ s.waiting.length) :
    Steps s (List.replicate n .enter)
      { s with
        visits := s.visits ++ (s.waiting.take n).map Errand.arrival
        waiting := s.waiting.drop n } := by
  induction n with
  | zero => simpa using Steps.refl s
  | succ n ih =>
      have hfirst := List.drop_eq_getElem_cons (Nat.lt_of_succ_le hn)
      rw [List.replicate_succ', List.take_add_one, List.getElem?_eq_getElem (Nat.lt_of_succ_le hn),
        Option.toList_some, List.map_append, ← List.append_assoc]
      refine .snoc (ih (Nat.le_of_succ_le hn)) (.enter hfirst ?_)
      intro visit hvisit hin
      refine ⟨?_, hwaiting _ (List.getElem_mem _)⟩
      rcases List.mem_append.1 hvisit with hthere | hnew
      · exact hinside visit hthere hin
      · obtain ⟨errand, herrand, rfl⟩ := List.mem_map.1 hnew
        exact hwaiting errand (List.mem_of_mem_take herrand)

namespace Sound

variable {i : Nat} {visit : Visit π}

/-- A visit that holds the lock can make a step. -/
theorem exists_step (h : Sound initial s) (hvisit : s.visits[i]? = some visit)
    (hinside : visit.isInside = true) : ∃ next, Step s (.act i) next := by
  have hfollows := h.follows i visit hvisit
  obtain ⟨errand, started, effects, stage⟩ := visit
  cases stage with
  | closing answer => exact ⟨_, .leave hvisit rfl⟩
  | gone answer => cases hinside
  | reading =>
      cases hfollows with
      | reading => exact ⟨_, .act hvisit .named⟩
      | ended hanswer | named hanswer | replaced hanswer => cases hanswer
  | writing =>
      cases hfollows with
      | writing => exact ⟨_, .write hvisit⟩
      | ended hanswer | named hanswer | replaced hanswer => cases hanswer
  | running next work =>
      cases hfollows with
      | ended hanswer | named hanswer | replaced hanswer => cases hanswer
      | running =>
          rcases Activity.exists_step work with ⟨result, rfl⟩ | ⟨effect, later, hstep⟩
          · cases result with
            | error cause => exact ⟨_, .act hvisit .failed⟩
            | ok turn =>
                cases turn with
                | stop report => exact ⟨_, .act hvisit .halted⟩
                | goOn report =>
                    cases htask : s.tasks[next]? with
                    | none => exact ⟨_, .act hvisit (.ranOut htask)⟩
                    | some task => exact ⟨_, .act hvisit (.start htask)⟩
          · exact ⟨_, .act hvisit (.work hstep)⟩

/-- The installed lists are a prefix of those of the operations that have arrived. -/
theorem installed_prefix (h : Sound initial s) :
    s.installed <+: s.came.filterMap Errand.replacement? := by
  rw [h.fifo, List.filterMap_append, h.installed]
  refine List.IsPrefix.trans ?_ (List.prefix_append _ _)
  by_cases hreaders : ∀ visit ∈ s.visits, visit.isInside = true → visit.errand.replacement? = none
  · exact (filter_map_written?_eq hreaders).symm ▸ List.prefix_refl _
  · -- a writer holds the lock; its visit is the last one, and all others have released the lock
    obtain ⟨visit, hmem, hinside, hbrings⟩ : ∃ visit ∈ s.visits,
        visit.isInside = true ∧ visit.errand.replacement? ≠ none := by
      by_contra hnobody
      exact hreaders fun visit hmem hinside => by_contra fun hbrings =>
        hnobody ⟨visit, hmem, hinside, hbrings⟩
    obtain ⟨i, hvisit⟩ := List.mem_iff_getElem?.1 hmem
    obtain ⟨hlast, halone⟩ := h.alone hvisit hinside hbrings
    have hsplit : s.visits = s.visits.take i ++ [visit] := by
      have htake := List.take_add_one (l := s.visits) (i := i)
      rwa [hvisit, List.take_of_length_le (Nat.le_of_eq hlast), Option.toList_some] at htake
    have hbefore : ∀ other ∈ s.visits.take i, other.isInside = true →
        other.errand.replacement? = none := by
      intro other hother hin
      obtain ⟨j, hj⟩ := List.mem_iff_getElem?.1 hother
      rw [List.getElem?_take] at hj
      split at hj
      · rename_i hji
        rw [halone j other (Nat.ne_of_lt hji) hj] at hin
        cases hin
      · cases hj
    rw [hsplit, List.filterMap_append, List.map_append, List.filterMap_append,
      filter_map_written?_eq hbefore, List.prefix_append_right_inj]
    rcases visit.written?_eq_none_or with hwritten | hwritten
    · rw [List.filterMap_cons_none hwritten]
      exact List.nil_prefix
    · rw [List.map_singleton, List.filterMap_cons, List.filterMap_cons, hwritten]
      exact List.prefix_refl _

/-- The invariant implies the ordering guarantees. -/
theorem orderly (h : Sound initial s) : Orderly initial s where
  fifo := h.fifo
  runs := by
    intro i visit params hvisit herrand
    have hfollows := h.follows i visit hvisit
    rw [← List.map_take] at hfollows
    exact hfollows.of_run herrand
  names := by
    intro i visit answer hvisit herrand hanswer
    have hfollows := h.follows i visit hvisit
    rw [← List.map_take] at hfollows
    exact hfollows.of_names herrand hanswer
  reads := by
    intro i visit hvisit hreading
    have hreads := hreading
    rw [Visit.isReading, Bool.and_eq_true, Option.isNone_iff_eq_none] at hreads
    obtain ⟨htasks, hsame⟩ := h.tasks_eq_of_inside hvisit hreads.1 hreads.2
    rw [← List.map_take] at hsame
    refine ⟨htasks.trans hsame, ?_⟩
    rw [h.account, State.listOf, ← hsame]
    exact Shared.seen_by?_let_in _ (lookup_map_of_mem _ (mem_readers_inside hvisit hreading)) _
  effect := by
    intro move next hstep
    cases hstep with
    | come | enter | act | leave => exact .inl ⟨rfl, rfl⟩
    | write hvisit =>
        obtain ⟨-, halone⟩ := h.alone hvisit rfl (Option.some_ne_none _)
        exact .inr ⟨_, _, _, rfl, hvisit, rfl, rfl, rfl, halone⟩
  order := ⟨h.installed_prefix, h.tasks⟩
  final := by
    intro hwaiting hleft
    have hreaders : ∀ visit ∈ s.visits, visit.isInside = true →
        visit.errand.replacement? = none := by
      intro visit hvisit hinside
      rw [hleft visit hvisit] at hinside
      cases hinside
    have hcame : s.came = s.visits.map Visit.errand := by
      rw [h.fifo, hwaiting, List.append_nil]
    rw [hcame]
    exact ⟨h.installed.trans (filter_map_written?_eq hreaders), h.tasks_eq hreaders⟩
  fresh := by
    intro m brought hm moves later hsteps n visit hn hvisit
    obtain ⟨hlt, -⟩ := List.getElem?_eq_some_iff.1 hm
    obtain ⟨hnlt, -⟩ := List.getElem?_eq_some_iff.1 hvisit
    obtain ⟨others, hothers⟩ := hsteps.came_prefix
    have hm' : later.came[m]? = some (.replace brought) := by
      rw [← hothers, List.getElem?_append_left hlt, hm]
    have htake : later.came.take n = (later.visits.take n).map Visit.errand := by
      rw [(h.steps hsteps).fifo, List.map_take,
        List.take_append_of_le_length (by rw [List.length_map]; omega)]
    rw [State.listOf, ← htake]
    exact exists_in_force_take hm' (by omega)
  together := by
    intro hwaiting hinside
    have hsteps := steps_enter hwaiting hinside (Nat.le_refl s.waiting.length)
    rw [List.take_length, List.drop_length] at hsteps
    exact ⟨_, _, hsteps, fun move hmove => List.eq_of_mem_replicate hmove, rfl, rfl⟩
  progress := fun i visit hvisit hinside => h.exists_step hvisit hinside
  served := by
    intro hwaiting hleft
    obtain ⟨errand, rest, hfirst⟩ := List.exists_cons_of_ne_nil hwaiting
    refine ⟨_, .enter hfirst fun visit hvisit hinside => ?_⟩
    rw [hleft visit hvisit] at hinside
    cases hinside

end Sound

/-- Every reachable state of the pipeline satisfies the ordering guarantees, under every schedule of
runs, reads of the names and replacements. -/
theorem reaches_orderly (h : Reaches initial s) : Orderly initial s := (Sound.of_reaches h).orderly

/-- A replacement and a read of the names arrive while a run holds the lock. The run acts on the old
list, and the names are those of the new one. -/
theorem names_behind_replacement :
    let old : Task Unit := { name := "old", bailOnError := true, action := fun _ => pure () }
    let new : Task Unit := { name := "new", bailOnError := true, action := fun _ => pure () }
    ∃ s : State Unit, Reaches [old] s ∧ s.came = [.run (), .replace [new], .names] ∧
      ∃ run question answer, s.visits[0]? = some run ∧ run.started <+: [old] ∧
        s.visits[2]? = some question ∧ question.stage.answer? = some answer ∧
        answer = .named ["new"] := by
  intro old new
  have hcame := ((((Steps.refl (State.start [old])).snoc (.come _ (.run ()))).snoc
    (.enter rfl (by simp [Admits, State.start]))).snoc (.come _ (.replace [new]))).snoc
    (.come _ .names)
  have hrun := (((hcame.snoc (.act (i := 0) rfl (.start rfl))).snoc
    (.act (i := 0) rfl (.work (.log _ _)))).snoc (.act (i := 0) rfl (.ranOut rfl))).snoc
    (.leave (i := 0) rfl rfl)
  have hreplaced := ((hrun.snoc (.enter rfl (by
    simp [Admits, State.start, Visit.isInside, Stage.isInside]))).snoc
    (.write (i := 1) rfl)).snoc (.leave (i := 1) rfl rfl)
  have hnamed := (hreplaced.snoc (.enter rfl (by
    simp [Admits, State.start, Visit.isInside, Stage.isInside]))).snoc (.act (i := 2) rfl .named)
  have horderly := reaches_orderly ⟨_, hnamed⟩
  refine ⟨_, ⟨_, hnamed⟩, rfl, _, _, _, rfl, ?_, rfl, rfl, ?_⟩
  · exact (horderly.runs 0 _ () rfl rfl).1
  · exact horderly.names 2 _ _ rfl rfl rfl

end AgentOperator.Sharing
