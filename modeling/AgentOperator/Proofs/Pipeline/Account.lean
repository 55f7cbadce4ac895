import AgentOperator.Proofs.Pipeline.Sharing
import Mathlib.Data.List.Basic

/-!
# The lock of the shared pipeline

How the state of the lock, a `Shared` task list, is determined by the visits and the waiting
operations. The laws of `Shared` come first: an arrival (`Shared.arrive_let_in`), a release
(`Shared.leave_let_in`), and the value of a reader that holds the lock (`Shared.seen_by?_let_in`).
`Sharing.accountOf` is the state of the lock for some visits and waiting operations; of the
transitions, only an arrival and the release by a reader change it.
-/

namespace AgentOperator

namespace Shared

variable {τ : Type} (value : τ) (readers : List (Nat × τ))

/-- Waiters that are behind others are admitted after them. -/
theorem let_in_append (first second : List (Waiter τ)) :
    letIn value readers (first ++ second) =
      letIn (letIn value readers first).value (letIn value readers first).readers
        ((letIn value readers first).waiting ++ second) := by
  induction first generalizing value readers with
  | nil => rfl
  | cons waiter first ih =>
      cases waiter with
      | reader id => exact ih value (readers ++ [(id, value)])
      | replacement new =>
          simp only [List.cons_append, letIn]
          split
          · exact ih new []
          · rename_i hreaders
            simp only [List.cons_append, letIn, if_neg hreaders]

/-- An arrival after the admission of some waiters is one behind all of them. -/
theorem arrive_let_in (waiting : List (Waiter τ)) (waiter : Waiter τ) :
    (letIn value readers waiting).arrive waiter = letIn value readers (waiting ++ [waiter]) :=
  (let_in_append value readers waiting [waiter]).symm

variable {readers}

/-- The release of the lock by a reader that held it before some waiters were admitted. -/
theorem leave_let_in {id : Nat} (hreaders : readers ≠ []) (waiting : List (Waiter τ))
    (hid : Waiter.reader id ∉ waiting) :
    (letIn value readers waiting).leave id =
      letIn value (readers.filter (·.1 ≠ id)) waiting := by
  induction waiting generalizing readers with
  | nil => rfl
  | cons waiter waiting ih =>
      rw [List.mem_cons, not_or] at hid
      obtain ⟨hhead, htail⟩ := hid
      cases waiter with
      | reader other =>
          have hother : other ≠ id := fun h => hhead (by rw [h])
          rw [letIn, letIn, ih (by simp) htail, List.filter_append]
          simp [hother]
      | replacement new =>
          -- the writer waits, and so do all behind it
          have hwaits : letIn value readers (.replacement new :: waiting) =
              { value := value, readers := readers, waiting := .replacement new :: waiting } := by
            simp [letIn, hreaders]
          rw [hwaits]
          rfl

/-- A reader that holds the lock has the value that it was admitted to. -/
theorem seen_by?_let_in {id : Nat} {seen : τ} (hseen : readers.lookup id = some seen)
    (waiting : List (Waiter τ)) : (letIn value readers waiting).seenBy? id = some seen := by
  induction waiting generalizing readers with
  | nil => exact hseen
  | cons waiter waiting ih =>
      cases waiter with
      | reader other =>
          refine ih ?_
          rw [List.lookup_append, hseen]
          rfl
      | replacement new =>
          have hreaders : readers ≠ [] := by
            rintro rfl
            cases hseen
          simpa [letIn, hreaders, seenBy?] using hseen

end Shared

namespace Sharing

variable {π : Type}

section Lists

variable {α β : Type} {items : List α} {i : Nat} {before after : α}

/-- To replace an item by one with the same image under `f` leaves `filterMap f` unchanged. -/
theorem filter_map_set_of_eq {f : α → Option β} (hitem : items[i]? = some before)
    (h : f after = f before) : (items.set i after).filterMap f = items.filterMap f := by
  induction items generalizing i with
  | nil => rfl
  | cons item items ih =>
      cases i with
      | zero =>
          obtain rfl := Option.some.inj hitem
          rw [List.set_cons_zero, List.filterMap_cons, List.filterMap_cons, h]
      | succ i => rw [List.set_cons_succ, List.filterMap_cons, List.filterMap_cons, ih hitem]

/-- To replace an item by one with the same image under `f` leaves `map f` unchanged. -/
theorem map_set_of_eq {f : α → β} (hitem : items[i]? = some before) (h : f after = f before) :
    (items.set i after).map f = items.map f := by
  rw [← List.filterMap_eq_map]
  exact filter_map_set_of_eq hitem (congrArg some h)

end Lists

variable {initial : List (Task π)}

/-- Whether a visit holds the lock as a reader. -/
def Visit.isReading (visit : Visit π) : Bool :=
  visit.isInside && visit.errand.replacement?.isNone

/-- The numbers of the visits that hold the lock as readers. -/
def readersInside (visits : List (Visit π)) : List Nat :=
  (List.range visits.length).filter fun i => visits[i]?.map Visit.isReading = some true

/-- The waiting operations as the lock sees them, numbered from `id` on. -/
def waiters : Nat → List (Errand π) → List (Waiter (List (Task π)))
  | _, [] => []
  | id, errand :: rest => errand.waiter id :: waiters (id + 1) rest

/-- The state of the lock for some visits and waiting operations: the readers have the list in
force, and the waiting ones are admitted in order. -/
def accountOf (initial : List (Task π)) (visits : List (Visit π)) (waiting : List (Errand π)) :
    Shared (List (Task π)) :=
  Shared.letIn (inForce initial (visits.map Visit.errand))
    ((readersInside visits).map fun id => (id, inForce initial (visits.map Visit.errand)))
    (waiters visits.length waiting)

section Account

variable {visits : List (Visit π)} {i : Nat} {visit later : Visit π}

/-- The readers that hold the lock, with one visit more. -/
theorem readers_inside_append (visits : List (Visit π)) (visit : Visit π) :
    readersInside (visits ++ [visit]) =
      readersInside visits ++ if visit.isReading then [visits.length] else [] := by
  unfold readersInside
  rw [List.length_append, List.length_singleton, List.range_succ, List.filter_append]
  congr 1
  · refine List.filter_congr fun j hj => ?_
    rw [List.getElem?_append_left (List.mem_range.1 hj)]
  · cases hreading : visit.isReading <;> simp [hreading]

/-- To replace a visit by one that holds the lock as a reader if and only if it does leaves the
readers unchanged. -/
theorem readers_inside_set_of_eq (hvisit : visits[i]? = some visit)
    (h : later.isReading = visit.isReading) :
    readersInside (visits.set i later) = readersInside visits := by
  unfold readersInside
  rw [List.length_set]
  refine List.filter_congr fun j _ => ?_
  rw [← List.getElem?_map, ← List.getElem?_map, map_set_of_eq hvisit h]

/-- A visit that is no reader any more is removed from the readers. -/
theorem readers_inside_set_of_not (h : later.isReading = false) :
    readersInside (visits.set i later) = (readersInside visits).filter (· ≠ i) := by
  unfold readersInside
  rw [List.length_set, List.filter_filter]
  refine List.filter_congr fun j hj => ?_
  rw [List.getElem?_set]
  by_cases hij : i = j
  · subst hij
    simp [List.mem_range.1 hj, h]
  · simp [hij, Ne.symm hij]

/-- If no visit holds the lock as a reader, there are no readers. -/
theorem readers_inside_eq_nil (h : ∀ visit ∈ visits, visit.isReading = false) :
    readersInside visits = [] := by
  unfold readersInside
  rw [List.filter_eq_nil_iff]
  intro j _ hreading
  obtain ⟨visit, hvisit, htrue⟩ := Option.map_eq_some_iff.1 (of_decide_eq_true hreading)
  rw [h visit (List.mem_of_getElem? hvisit)] at htrue
  cases htrue

/-- A visit that holds the lock as a reader is among the readers. -/
theorem mem_readers_inside (hvisit : visits[i]? = some visit) (h : visit.isReading = true) :
    i ∈ readersInside visits := by
  unfold readersInside
  rw [List.mem_filter, List.mem_range, hvisit]
  exact ⟨(List.getElem?_eq_some_iff.1 hvisit).1, by simp [h]⟩

/-- The waiting operations, with one more. -/
theorem waiters_append (id : Nat) (waiting : List (Errand π)) (errand : Errand π) :
    waiters id (waiting ++ [errand]) =
      waiters id waiting ++ [errand.waiter (id + waiting.length)] := by
  induction waiting generalizing id with
  | nil => rfl
  | cons first waiting ih =>
      rw [List.cons_append, waiters, ih, waiters, List.cons_append, List.length_cons,
        Nat.succ_add_eq_add_succ]

/-- The waiting operations have numbers behind those of the visits. -/
theorem le_of_mem_waiters {id other : Nat} {waiting : List (Errand π)}
    (h : Waiter.reader other ∈ waiters id waiting) : id ≤ other := by
  induction waiting generalizing id with
  | nil => cases h
  | cons first waiting ih =>
      rw [waiters, List.mem_cons] at h
      rcases h with h | h
      · cases first <;> cases h
        all_goals exact Nat.le_refl _
      · exact Nat.le_of_succ_le (ih h)

/-- A constant association has its value at every listed number. -/
theorem lookup_map_of_mem {τ : Type} {ids : List Nat} (value : τ) (h : i ∈ ids) :
    (ids.map fun id => (id, value)).lookup i = some value := by
  induction ids with
  | nil => cases h
  | cons id ids ih =>
      rw [List.map_cons, List.lookup_cons]
      by_cases hid : i = id
      · simp [hid]
      · rw [beq_false_of_ne hid]
        exact ih ((List.mem_cons.1 h).resolve_left hid)

/-- The arrival of an operation. -/
theorem arrive_account_of (visits : List (Visit π)) (waiting : List (Errand π))
    (errand : Errand π) :
    (accountOf initial visits waiting).arrive (errand.waiter (visits.length + waiting.length)) =
      accountOf initial visits (waiting ++ [errand]) := by
  unfold accountOf
  rw [Shared.arrive_let_in, waiters_append]

/-- The admission of the first waiting operation does not change the lock, which has admitted it
already. -/
theorem account_of_enter {errand : Errand π} (waiting : List (Errand π))
    (hadmits : Admits visits errand) :
    accountOf initial (visits ++ [errand.arrival]) waiting =
      accountOf initial visits (errand :: waiting) := by
  have hforce : inForce initial ((visits ++ [errand.arrival]).map Visit.errand) =
      errand.replacement?.getD (inForce initial (visits.map Visit.errand)) := by
    rw [List.map_append]
    exact in_force_append _ errand
  unfold accountOf
  rw [hforce, readers_inside_append, List.length_append, List.length_singleton, waiters]
  cases errand with
  | run params | names =>
      rw [List.map_append]
      rfl
  | replace new =>
      -- no visit holds the lock, so the writer is admitted at once
      rw [readers_inside_eq_nil fun visit hvisit => ?_]
      · rfl
      · by_contra hreading
        rw [Visit.isReading, Bool.not_eq_false, Bool.and_eq_true] at hreading
        cases (hadmits visit hvisit hreading.1).2

/-- A step of a visit that keeps its operation and its hold of the lock does not change the lock. -/
theorem account_of_set (hvisit : visits[i]? = some visit) (herrand : later.errand = visit.errand)
    (hreading : later.isReading = visit.isReading) (waiting : List (Errand π)) :
    accountOf initial (visits.set i later) waiting = accountOf initial visits waiting := by
  unfold accountOf
  rw [map_set_of_eq hvisit herrand, readers_inside_set_of_eq hvisit hreading, List.length_set]

/-- The release of the lock by a reader. -/
theorem leave_account_of (hvisit : visits[i]? = some visit) (herrand : later.errand = visit.errand)
    (hreading : visit.isReading = true) (hleft : later.isReading = false)
    (waiting : List (Errand π)) :
    (accountOf initial visits waiting).leave i =
      accountOf initial (visits.set i later) waiting := by
  obtain ⟨hi, -⟩ := List.getElem?_eq_some_iff.1 hvisit
  have hmem := mem_readers_inside hvisit hreading
  unfold accountOf
  rw [Shared.leave_let_in, map_set_of_eq hvisit herrand, readers_inside_set_of_not hleft,
    List.length_set, List.filter_map]
  · rfl
  · exact fun hnobody => List.not_mem_nil (List.map_eq_nil_iff.1 hnobody ▸ hmem)
  · intro hwaits
    exact absurd (le_of_mem_waiters hwaits) (by omega)

end Account

end Sharing

end AgentOperator
