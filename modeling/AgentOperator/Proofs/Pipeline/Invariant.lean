import AgentOperator.Proofs.Pipeline.Account

/-!
# The invariant of the shared pipeline

`Sound` is the invariant of the transition relation of the pipeline, and `Sound.step` its
preservation, by one lemma for each transition. Its core is `Sound.apart`: of two visits one of
which replaces the task list, the first one has released the lock before the second one is admitted.
So the task list is fixed while a visit holds the lock, and each visit follows one list, the list in
force after the operations that were admitted before it.
-/

namespace AgentOperator.Sharing

variable {π : Type}

section Lists

variable {α β : Type} {items : List α} {i : Nat} {before after : α}

/-- An item of a list after one was replaced is the new item or was there before. -/
theorem get_elem?_set_eq_some {j : Nat} {item : α} (h : (items.set i after)[j]? = some item) :
    j = i ∧ item = after ∨ j ≠ i ∧ items[j]? = some item := by
  rw [List.getElem?_set] at h
  split at h
  · rename_i hij
    split at h
    · exact .inl ⟨hij.symm, (Option.some.inj h).symm⟩
    · cases h
  · rename_i hij
    exact .inr ⟨fun hji => hij hji.symm, h⟩

/-- An item of a list with one appended is the new item or was there before. -/
theorem get_elem?_concat_eq_some {j : Nat} {item : α} (h : (items ++ [after])[j]? = some item) :
    j = items.length ∧ item = after ∨ items[j]? = some item := by
  rcases Nat.lt_trichotomy j items.length with hlt | rfl | hgt
  · rw [List.getElem?_append_left hlt] at h
    exact .inr h
  · rw [List.getElem?_concat_length] at h
    exact .inl ⟨rfl, (Option.some.inj h).symm⟩
  · rw [List.getElem?_eq_none (by simp; omega)] at h
    cases h

/-- To replace the last item, which `f` drops, by one that it keeps appends the image of that
one. -/
theorem filter_map_set_last {f : α → Option β} {kept : β} (hitem : items[i]? = some before)
    (hlast : items.length = i + 1) (hbefore : f before = none) (hafter : f after = some kept) :
    (items.set i after).filterMap f = items.filterMap f ++ [kept] := by
  induction items generalizing i with
  | nil => cases hlast
  | cons item items ih =>
      cases i with
      | zero =>
          obtain rfl := Option.some.inj hitem
          obtain rfl := List.length_eq_zero_iff.1 (Nat.succ.inj hlast)
          simp [hbefore, hafter]
      | succ i =>
          rw [List.set_cons_succ, List.filterMap_cons, List.filterMap_cons,
            ih hitem (Nat.succ.inj hlast)]
          cases f item <;> rfl

end Lists

variable {initial : List (Task π)}

/-- A visit that has released the lock or does not replace the list has installed the list of its
operation, if that has one. -/
theorem Visit.written?_eq {visit : Visit π}
    (h : visit.isInside = true → visit.errand.replacement? = none) :
    visit.written? = visit.errand.replacement? := by
  unfold written?
  cases hstage : visit.stage with
  | writing =>
      refine (h ?_).symm
      rw [isInside, hstage]
      rfl
  | running | reading | closing | gone => rfl

/-- A visit has installed nothing, or the list of its operation. -/
theorem Visit.written?_eq_none_or (visit : Visit π) :
    visit.written? = none ∨ visit.written? = visit.errand.replacement? := by
  unfold written?
  cases visit.stage with
  | writing => exact .inl rfl
  | running | reading | closing | gone => exact .inr rfl

/-- If no visit that replaces the list holds the lock, all lists of the admitted operations are
installed. -/
theorem filter_map_written?_eq {visits : List (Visit π)}
    (h : ∀ visit ∈ visits, visit.isInside = true → visit.errand.replacement? = none) :
    visits.filterMap Visit.written? =
      (visits.map Visit.errand).filterMap Errand.replacement? := by
  rw [List.filterMap_map]
  exact List.filterMap_congr fun visit hvisit => Visit.written?_eq (h visit hvisit)

/-- An operation that has just been admitted has installed nothing. -/
theorem filter_map_written?_arrival (errand : Errand π) :
    [errand.arrival].filterMap Visit.written? = [] := by
  cases errand <;> rfl

/-- The invariant of the pipeline. Operations are admitted in the order of their arrival; of two
that are admitted one after the other and one of which replaces the list, the first one has released
the lock; the installed lists are those of the writers that have acted, and the last of them is the
task list. An operation acts on the list in force after those that were admitted before it. The
queue of the lock has the operations that read, with the list in force, and admits those that
wait. -/
structure Sound (initial : List (Task π)) (s : State π) : Prop where
  fifo : s.came = s.visits.map Visit.errand ++ s.waiting
  apart : ∀ (i j : Nat) (earlier later : Visit π), i < j → s.visits[i]? = some earlier →
    s.visits[j]? = some later → earlier.isInside = true →
      earlier.errand.replacement? = none ∧ later.errand.replacement? = none
  installed : s.installed = s.visits.filterMap Visit.written?
  tasks : s.tasks = s.installed.getLastD initial
  follows : ∀ (i : Nat) (visit : Visit π), s.visits[i]? = some visit →
    visit.Follows (inForce initial ((s.visits.map Visit.errand).take i))
  account : s.account = accountOf initial s.visits s.waiting

namespace Sound

variable {s : State π}

/-- If no visit that replaces the list holds the lock, the task list is the list in force. -/
theorem tasks_eq (h : Sound initial s)
    (hreaders : ∀ visit ∈ s.visits, visit.isInside = true → visit.errand.replacement? = none) :
    s.tasks = inForce initial (s.visits.map Visit.errand) := by
  rw [h.tasks, h.installed, filter_map_written?_eq hreaders]
  rfl

/-- While a reader holds the lock, no writer holds it, and none was admitted after the reader. -/
theorem readers_of_inside (h : Sound initial s) {i : Nat} {visit : Visit π}
    (hvisit : s.visits[i]? = some visit) (hinside : visit.isInside = true)
    (hreads : visit.errand.replacement? = none) :
    (∀ other ∈ s.visits, other.isInside = true → other.errand.replacement? = none) ∧
      ∀ other ∈ s.visits.drop i, other.errand.replacement? = none := by
  constructor
  · intro other hother hin
    obtain ⟨j, hj⟩ := List.mem_iff_getElem?.1 hother
    rcases Nat.lt_trichotomy j i with hji | rfl | hij
    · exact (h.apart j i other visit hji hj hvisit hin).1
    · obtain rfl := Option.some.inj (hj.symm.trans hvisit)
      exact hreads
    · exact (h.apart i j visit other hij hvisit hj hinside).2
  · intro other hother
    obtain ⟨j, hj⟩ := List.mem_iff_getElem?.1 hother
    rw [List.getElem?_drop] at hj
    rcases Nat.eq_zero_or_pos j with rfl | hpos
    · obtain rfl := Option.some.inj (hj.symm.trans hvisit)
      exact hreads
    · exact (h.apart i (i + j) visit other (by omega) hvisit hj hinside).2

/-- While a reader holds the lock, the task list is the list in force after the operations that were
admitted before it. -/
theorem tasks_eq_of_inside (h : Sound initial s) {i : Nat} {visit : Visit π}
    (hvisit : s.visits[i]? = some visit) (hinside : visit.isInside = true)
    (hreads : visit.errand.replacement? = none) :
    s.tasks = inForce initial (s.visits.map Visit.errand) ∧
      inForce initial (s.visits.map Visit.errand) =
        inForce initial ((s.visits.map Visit.errand).take i) := by
  obtain ⟨hall, hafter⟩ := h.readers_of_inside hvisit hinside hreads
  refine ⟨h.tasks_eq hall, ?_⟩
  -- the operations from this one on leave the list in force unchanged
  have hreaders : ∀ errand ∈ (s.visits.map Visit.errand).drop i, errand.replacement? = none := by
    intro errand herrand
    rw [← List.map_drop] at herrand
    obtain ⟨other, hother, rfl⟩ := List.mem_map.1 herrand
    exact hafter other hother
  conv => lhs; rw [← List.take_append_drop i (s.visits.map Visit.errand)]
  exact in_force_append_of_readers _ hreaders

/-- A writer that holds the lock was admitted last, and no other visit holds the lock. -/
theorem alone (h : Sound initial s) {i : Nat} {visit : Visit π}
    (hvisit : s.visits[i]? = some visit) (hinside : visit.isInside = true)
    (hbrings : visit.errand.replacement? ≠ none) :
    s.visits.length = i + 1 ∧
      ∀ j other, j ≠ i → s.visits[j]? = some other → other.isInside = false := by
  have hlast : s.visits.length = i + 1 := by
    obtain ⟨hi, -⟩ := List.getElem?_eq_some_iff.1 hvisit
    by_contra hlonger
    have hnext : s.visits[i + 1]? = some _ := List.getElem?_eq_getElem (by omega)
    exact hbrings (h.apart i (i + 1) visit _ (Nat.lt_succ_self i) hvisit hnext hinside).1
  refine ⟨hlast, fun j other hji hj => ?_⟩
  obtain ⟨hlt, -⟩ := List.getElem?_eq_some_iff.1 hj
  by_contra hin
  exact hbrings (h.apart j i other visit (by omega) hj hvisit (by simpa using hin)).2

section Preservation

variable {i : Nat} {visit later : Visit π}

/-- A visit that makes a step stays apart from the others. -/
theorem apart_set (h : Sound initial s) (hvisit : s.visits[i]? = some visit)
    (herrand : later.errand = visit.errand)
    (hinside : later.isInside = true → visit.isInside = true) (j k : Nat) (first second : Visit π)
    (hjk : j < k) (hfirst : (s.visits.set i later)[j]? = some first)
    (hsecond : (s.visits.set i later)[k]? = some second) (hin : first.isInside = true) :
    first.errand.replacement? = none ∧ second.errand.replacement? = none := by
  -- what each of the two was before the step
  have hbefore {n : Nat} {other : Visit π} (hother : (s.visits.set i later)[n]? = some other) :
      ∃ earlier, s.visits[n]? = some earlier ∧ other.errand = earlier.errand ∧
        (other.isInside = true → earlier.isInside = true) := by
    rcases get_elem?_set_eq_some hother with ⟨rfl, rfl⟩ | ⟨-, hthere⟩
    · exact ⟨visit, hvisit, herrand, hinside⟩
    · exact ⟨other, hthere, rfl, id⟩
  obtain ⟨first', hfirst', hsame, hstill⟩ := hbefore hfirst
  obtain ⟨second', hsecond', hsame', -⟩ := hbefore hsecond
  rw [hsame, hsame']
  exact h.apart j k first' second' hjk hfirst' hsecond' (hstill hin)

/-- After a step of one visit, all visits follow their lists. -/
theorem follows_set (h : Sound initial s) (hvisit : s.visits[i]? = some visit)
    (herrand : later.errand = visit.errand)
    (hfollows : later.Follows (inForce initial ((s.visits.map Visit.errand).take i))) (j : Nat)
    (other : Visit π) (hother : (s.visits.set i later)[j]? = some other) :
    other.Follows (inForce initial (((s.visits.set i later).map Visit.errand).take j)) := by
  rw [map_set_of_eq hvisit herrand]
  rcases get_elem?_set_eq_some hother with ⟨rfl, rfl⟩ | ⟨-, hthere⟩
  · exact hfollows
  · exact h.follows j other hthere

/-- The initial state satisfies the invariant. -/
theorem start (initial : List (Task π)) : Sound initial (State.start initial) where
  fifo := rfl
  apart := by simp [State.start]
  installed := rfl
  tasks := rfl
  follows := by simp [State.start]
  account := rfl

/-- The arrival of an operation preserves the invariant. -/
theorem come (h : Sound initial s) (errand : Errand π) :
    Sound initial
      { s with
        waiting := s.waiting ++ [errand]
        came := s.came ++ [errand]
        account := s.account.arrive (errand.waiter s.came.length) } where
  fifo := by
    rw [h.fifo, List.append_assoc]
  apart := h.apart
  installed := h.installed
  tasks := h.tasks
  follows := h.follows
  account := by
    have hlength : s.came.length = s.visits.length + s.waiting.length := by
      rw [h.fifo, List.length_append, List.length_map]
    rw [hlength, h.account]
    exact arrive_account_of s.visits s.waiting errand

/-- The admission of the first waiting operation preserves the invariant. -/
theorem enter (h : Sound initial s) {errand : Errand π} {rest : List (Errand π)}
    (hfirst : s.waiting = errand :: rest) (hadmits : Admits s.visits errand) :
    Sound initial { s with visits := s.visits ++ [errand.arrival], waiting := rest } where
  fifo := by
    rw [h.fifo, hfirst, List.map_append, List.append_assoc]
    rfl
  apart := by
    intro j k first second hjk hj hk hin
    rcases get_elem?_concat_eq_some hk with ⟨hlast, rfl⟩ | hold
    · -- the new visit and an earlier one
      have hthere : s.visits[j]? = some first := by
        rwa [List.getElem?_append_left (by omega)] at hj
      exact hadmits first (List.mem_of_getElem? hthere) hin
    · have hlt : k < s.visits.length := (List.getElem?_eq_some_iff.1 hold).1
      have hthere : s.visits[j]? = some first := by
        rwa [List.getElem?_append_left (by omega)] at hj
      exact h.apart j k first second hjk hthere hold hin
  installed := by
    rw [h.installed, List.filterMap_append, filter_map_written?_arrival, List.append_nil]
  tasks := h.tasks
  follows := by
    intro j visit hvisit
    rw [List.map_append]
    rcases get_elem?_concat_eq_some hvisit with ⟨hlast, rfl⟩ | hold
    · exact .arrival errand
    · have hlt : j < s.visits.length := (List.getElem?_eq_some_iff.1 hold).1
      rw [List.take_append_of_le_length (by rw [List.length_map]; omega)]
      exact h.follows j visit hold
  account := by
    rw [h.account, hfirst]
    exact (account_of_enter rest hadmits).symm

/-- A step of a visit on the current task list preserves the invariant. -/
theorem act (h : Sound initial s) (hvisit : s.visits[i]? = some visit)
    (hstep : Visit.Step s.tasks visit later) :
    Sound initial { s with visits := s.visits.set i later } where
  fifo := by
    rw [h.fifo, map_set_of_eq hvisit hstep.errand_eq]
  apart := h.apart_set hvisit hstep.errand_eq fun _ => hstep.is_inside.1
  installed := by
    have hwritten : later.written? = visit.written? := by
      have hbrings := hstep.replacement?
      rw [Visit.written?_eq fun _ => hbrings, Visit.written?_eq fun _ => hstep.errand_eq ▸ hbrings,
        hstep.errand_eq]
    rw [h.installed, filter_map_set_of_eq hvisit hwritten]
  tasks := h.tasks
  follows := by
    refine h.follows_set hvisit hstep.errand_eq ((h.follows i visit hvisit).step ?_)
    -- the task list is still the one that the visit has followed so far
    obtain ⟨htasks, hsame⟩ := h.tasks_eq_of_inside hvisit hstep.is_inside.1 hstep.replacement?
    rwa [← hsame, ← htasks]
  account := by
    have hreading : later.isReading = visit.isReading := by
      rw [Visit.isReading, Visit.isReading, hstep.is_inside.1, hstep.is_inside.2, hstep.errand_eq]
    rw [h.account]
    exact (account_of_set hvisit hstep.errand_eq hreading s.waiting).symm

/-- The installation of a task list preserves the invariant. -/
theorem write (h : Sound initial s) {new started : List (Task π)} {effects : List Effect}
    (hvisit : s.visits[i]? = some ⟨.replace new, started, effects, .writing⟩) :
    Sound initial
      { s with
        tasks := new
        visits := s.visits.set i ⟨.replace new, started, effects, .closing .replaced⟩
        installed := s.installed ++ [new] } where
  fifo := by
    rw [h.fifo, map_set_of_eq hvisit]
    rfl
  apart := h.apart_set hvisit rfl fun _ => rfl
  installed := by
    obtain ⟨hlast, -⟩ := h.alone hvisit rfl (Option.some_ne_none _)
    rw [h.installed]
    symm
    apply filter_map_set_last hvisit hlast <;> rfl
  tasks := by simp
  follows := by
    refine h.follows_set hvisit rfl ?_
    cases h.follows i _ hvisit with
    | writing => exact .replaced rfl
    | replaced hanswer => cases hanswer
  account := by
    rw [h.account]
    symm
    apply account_of_set hvisit <;> rfl

/-- The release of the lock preserves the invariant. -/
theorem leave (h : Sound initial s) {answer : Answer} (hvisit : s.visits[i]? = some visit)
    (hclosing : visit.stage = .closing answer) :
    Sound initial
      { s with
        visits := s.visits.set i { visit with stage := .gone answer }
        account :=
          match visit.errand with
          | .replace _ => s.account
          | .run _ | .names => s.account.leave i } where
  fifo := by
    rw [h.fifo, map_set_of_eq hvisit]
    rfl
  apart := h.apart_set hvisit rfl nofun
  installed := by
    rw [h.installed]
    refine (filter_map_set_of_eq hvisit ?_).symm
    rw [Visit.written?, Visit.written?, hclosing]
  tasks := h.tasks
  follows := h.follows_set hvisit rfl ((h.follows i visit hvisit).leave hclosing)
  account := by
    obtain ⟨errand, started, effects, stage⟩ := visit
    obtain rfl : stage = .closing answer := hclosing
    rw [h.account]
    cases errand with
    | replace new =>
        symm
        apply account_of_set hvisit <;> rfl
    | run params | names => apply leave_account_of hvisit <;> rfl

/-- Every transition preserves the invariant. -/
theorem step (h : Sound initial s) {move : Move π} {next : State π} (hstep : Step s move next) :
    Sound initial next := by
  cases hstep with
  | come errand => exact h.come errand
  | enter hfirst hadmits => exact h.enter hfirst hadmits
  | act hvisit hstep => exact h.act hvisit hstep
  | write hvisit => exact h.write hvisit
  | leave hvisit hclosing => exact h.leave hvisit hclosing

/-- Every sequence of transitions preserves the invariant. -/
theorem steps (h : Sound initial s) {moves : List (Move π)} {next : State π}
    (hsteps : Steps s moves next) : Sound initial next := by
  induction hsteps with
  | refl => exact h
  | snoc _ hstep ih => exact ih.step hstep

/-- Every reachable state satisfies the invariant. -/
theorem of_reaches (h : Reaches initial s) : Sound initial s := by
  obtain ⟨moves, hsteps⟩ := h
  exact (start initial).steps hsteps

end Preservation

end Sound

end AgentOperator.Sharing
