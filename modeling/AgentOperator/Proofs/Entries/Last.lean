import AgentOperator.Dict

/-!
# The last of some items

The last insertion under a key determines its value. `IsLast` says that an item is the last one that
meets a condition; there is one if and only if any item does (`exists_is_last_iff`), and it is
unique (`IsLast.eq`). The value of a key after some insertions is that of the last one under it
(`Dict.get?_foldl_insert_eq_some_iff`).
-/

namespace AgentOperator

/-- The last one of some items that meet a condition. -/
structure IsLast {α : Type} (Meets : α → Prop) (items : List α) (last : α) : Prop where
  meets : Meets last
  split : ∃ earlier later, items = earlier ++ last :: later ∧ ∀ item ∈ later, ¬ Meets item

variable {α β : Type} {Meets : β → Prop} {items : List β} {last : β}

/-- The last item that meets a condition is the first one of the reversed list. -/
theorem find?_reverse_eq_some_iff [DecidablePred Meets] :
    items.reverse.find? (fun item => Meets item) = some last ↔ IsLast Meets items last := by
  rw [List.find?_eq_some_iff_append]
  constructor
  · intro ⟨hmeets, later, earlier, hitems, hlater⟩
    refine ⟨of_decide_eq_true hmeets, earlier.reverse, later.reverse, ?_, ?_⟩
    · rw [← List.reverse_reverse items, hitems]
      simp
    · intro item hitem
      simpa using hlater item (List.mem_reverse.1 hitem)
  · intro ⟨hmeets, earlier, later, hitems, hlater⟩
    refine ⟨decide_eq_true hmeets, later.reverse, earlier.reverse, ?_, ?_⟩
    · rw [hitems]
      simp
    · intro item hitem
      simpa using hlater item (List.mem_reverse.1 hitem)

/-- The last item is unique. -/
theorem IsLast.eq (h : IsLast Meets items last) {other : β} (hother : IsLast Meets items other) :
    last = other := by
  classical
  rw [← find?_reverse_eq_some_iff] at h hother
  exact Option.some.inj (h.symm.trans hother)

/-- The last item is one of the items. -/
theorem IsLast.mem (h : IsLast Meets items last) : last ∈ items := by
  obtain ⟨earlier, later, rfl, -⟩ := h.split
  exact List.mem_append_right _ List.mem_cons_self

/-- There is a last item that meets a condition if and only if any does. -/
theorem exists_is_last_iff : (∃ last, IsLast Meets items last) ↔ ∃ item ∈ items, Meets item := by
  classical
  constructor
  · intro ⟨last, hlast⟩
    exact ⟨last, hlast.mem, hlast.meets⟩
  · intro ⟨item, hitem, hmeets⟩
    have hfound : (items.reverse.find? fun item => Meets item).isSome = true :=
      List.find?_isSome.2 ⟨item, List.mem_reverse.2 hitem, decide_eq_true hmeets⟩
    obtain ⟨last, hlast⟩ := Option.isSome_iff_exists.1 hfound
    exact ⟨last, find?_reverse_eq_some_iff.1 hlast⟩

/-- The last of the items that pass a test is the last one that meets both the test and the
condition. -/
theorem is_last_filter_iff {test : β → Bool} :
    IsLast Meets (items.filter test) last ↔
      IsLast (fun item => test item = true ∧ Meets item) items last := by
  classical
  rw [← find?_reverse_eq_some_iff, ← find?_reverse_eq_some_iff, ← List.filter_reverse,
    List.find?_filter]
  simp only [decide_eq_true_eq]

/-- The value of a key after some insertions is that of the first one under the key in reversed
order, if there is any. -/
theorem Dict.get?_foldl_insert (key : β → String) (value : β → α) (items : List β) (d : Dict α)
    (k : String) :
    (items.foldl (fun d item => d.insert (key item) (value item)) d).get? k =
      ((items.reverse.find? fun item => key item = k).map value).or (d.get? k) := by
  induction items generalizing d with
  | nil => rfl
  | cons item items ih =>
      rw [List.foldl_cons, ih, Dict.get?_insert, List.reverse_cons, List.find?_append]
      cases items.reverse.find? fun item => key item = k with
      | some found => rfl
      | none =>
          by_cases hkey : key item = k
          · simp [hkey]
          · simp [hkey, Ne.symm hkey]

/-- The value of a key after some insertions is that of the last one under it, or the one of the map
before if there is none. -/
theorem Dict.get?_foldl_insert_eq_some_iff {key : β → String} {value : β → α} {d : Dict α}
    {k : String} {v : α} :
    (items.foldl (fun d item => d.insert (key item) (value item)) d).get? k = some v ↔
      (∃ last, IsLast (fun item => key item = k) items last ∧ value last = v) ∨
        (∀ item ∈ items, key item ≠ k) ∧ d.get? k = some v := by
  simp only [Dict.get?_foldl_insert, Option.or_eq_some_iff, Option.map_eq_some_iff,
    Option.map_eq_none_iff, List.find?_eq_none, List.mem_reverse, decide_eq_true_eq,
    find?_reverse_eq_some_iff, ne_eq]

end AgentOperator
